import KrustyKms.AccountClass.Registry
import KrustyKms.Common.FeltText
import KrustyKms.Derivation.Stark
import KrustyKms.Starknet.StarkSigning
import Mathlib.Data.List.Sort

/-!
# Candidate and keypair generation from a mnemonic

Every index gives two keys, one derived directly and one by old Argent's double
derivation, and each key the addresses of the wallets that used its scheme.
-/

namespace KrustyKms.Discovery

open Codec Crypto Account AccountClass KrustyKms.Derivation Secp256k1 StarkSigning

def maxDiscoveryIndex : UInt32 := 1024

/-- The type of wallet that created the account. -/
inductive WalletType where
  | braavos
  | argent
  | argentLegacy
  | argentCairo0
  | openZeppelin
deriving DecidableEq

inductive DerivationType where
  | direct
  | argentLegacy
deriving DecidableEq

structure CandidateAccount where
  walletType : WalletType
  classHash : String
  address : String
  publicKey : String
  privateKey : String
  derivationIndex : UInt32
  derivationPath : String
  classVersion : String

structure DerivedKeypair where
  derivationType : DerivationType
  publicKey : String
  privateKey : String
  derivationIndex : UInt32
  derivationPath : String

def feltHex (felt : Felt) : String := felt.toHex

structure DerivedKey where
  privateKey : Felt
  publicKey : Felt
  index : UInt32
  path : String

def DerivedKey.candidate (key : DerivedKey) (walletType : WalletType) (classHash address : Felt)
    (classVersion : String) : CandidateAccount where
  walletType
  classHash := feltHex classHash
  address := feltHex address
  publicKey := feltHex key.publicKey
  privateKey := feltHex key.privateKey
  derivationIndex := key.index
  derivationPath := key.path
  classVersion

structure DiscoveryClasses where
  braavos : List KnownAccountClass
  openZeppelin : List KnownAccountClass
  argent : List (Felt × String × ArgentConstructorLayout)
  argentCairo0 : List (Felt × String)

def DiscoveryClasses.load : DiscoveryClasses where
  braavos := deploymentClasses .braavos
  openZeppelin := deploymentClasses .openZeppelin
  -- `sort_by_key`, which is stable
  argent := ArgentAccount.knownClasses.insertionSort fun a b =>
    decide (a.1 ≠ ArgentAccount.defaultClassHash) ≤ decide (b.1 ≠ ArgentAccount.defaultClassHash)
  argentCairo0 := ArgentCairo0.knownImplementations

namespace DiscoveryClasses

variable (classes : DiscoveryClasses) (publicKey : Felt)

def braavosDeployments : List (Deployment × String) :=
  classes.braavos.map fun known =>
    ((BraavosAccount.withClassHash known.classHash).deployment publicKey .publicKey,
      s!"base v{known.version}")

def argentDeployments : List (Deployment × String) :=
  classes.argent.map fun (classHash, version, layout) =>
    ((ArgentAccount.withClassHashAndLayout classHash layout).deployment publicKey .publicKey,
      version)

def ozDeployments : List (Deployment × String) :=
  classes.openZeppelin.flatMap fun known =>
    let account := OpenZeppelinAccount.fromClassHash known.classHash
    [(account.deployment publicKey .publicKey, s!"v{known.version} salt-pubkey"),
      (account.deployment publicKey .zero, s!"v{known.version}")]

def argentCairo0Deployments : List (Deployment × String) :=
  classes.argentCairo0.map fun (implementation, version) =>
    (⟨ArgentCairo0.proxyClassHash, publicKey,
      ArgentCairo0.constructorCalldata implementation publicKey⟩, s!"proxy+v{version}")

end DiscoveryClasses

/-! ## Candidates of a key

`record` is what is kept of a candidate. The code keeps the candidate; a proof also looks
at the deployment its address was computed from. -/

section Candidates

variable [Pedersen] [NormalizeAddress] {β : Type} (record : Deployment → CandidateAccount → β)

def pushCandidates (out : List β) (key : DerivedKey) (walletType : WalletType)
    (deployments : List (Deployment × String)) : Result (List β) :=
  deployments.foldlM (fun out (deployment, classVersion) => do
    let address ← deployment.address
    pure (out ++
      [record deployment (key.candidate walletType deployment.classHash address classVersion)])) out

def pushBraavosCandidates (out : List β) (classes : DiscoveryClasses) (key : DerivedKey) :
    Result (List β) :=
  pushCandidates record out key .braavos (classes.braavosDeployments key.publicKey)

def pushArgentCairo1Candidates (out : List β) (classes : DiscoveryClasses)
    (walletType : WalletType) (key : DerivedKey) : Result (List β) :=
  pushCandidates record out key walletType (classes.argentDeployments key.publicKey)

def pushOzCandidates (out : List β) (classes : DiscoveryClasses) (key : DerivedKey) :
    Result (List β) :=
  pushCandidates record out key .openZeppelin (classes.ozDeployments key.publicKey)

def pushArgentCairo0Candidates (out : List β) (classes : DiscoveryClasses) (key : DerivedKey) :
    Result (List β) :=
  pushCandidates record out key .argentCairo0 (classes.argentCairo0Deployments key.publicKey)

end Candidates

/-! ## The scans -/

variable [Points] [Sha256] [Bip39] [StarknetCrypto]

def validateDiscoveryInputs (mnemonic : String) (maxIndex : UInt32) : Result Unit :=
  if maxIndex > maxDiscoveryIndex then
    .error (.invalidDerivationPath
      s!"max_index {maxIndex} exceeds the discovery limit of {maxDiscoveryIndex}")
  else validateMnemonic mnemonic

def deriveDiscoveryKeypairs (hmac : Hmac) (mnemonic : String) (maxIndex : UInt32) :
    Result (List DerivedKeypair) := do
  validateDiscoveryInputs mnemonic maxIndex
  ((List.range maxIndex.toNat).map UInt32.ofNat).foldlM (fun keypairs index => do
    let directPk ← derivePrivateKeyWithCoinType hmac mnemonic index 0 starknetCoinType none
    let directPubk ← starkPublicKey directPk
    let direct : DerivedKeypair :=
      { derivationType := .direct
        publicKey := feltHex directPubk
        privateKey := feltHex directPk
        derivationIndex := index
        derivationPath := s!"m/44'/9004'/0'/0/{index}" }
    let legacyPk ← deriveArgentLegacyPrivateKey hmac mnemonic index 0
    let legacyPubk ← starkPublicKey legacyPk
    let legacy : DerivedKeypair :=
      { derivationType := .argentLegacy
        publicKey := feltHex legacyPubk
        privateKey := feltHex legacyPk
        derivationIndex := index
        derivationPath := s!"m/44'/60'/0'/0/0 -> m/44'/9004'/0'/0/{index}" }
    pure (keypairs ++ [direct] ++ [legacy])) []

section

variable [Pedersen] [NormalizeAddress]

def generateCandidatesWith {β : Type} (record : Deployment → CandidateAccount → β) (hmac : Hmac)
    (mnemonic : String) (maxIndex : UInt32) : Result (List β) := do
  validateDiscoveryInputs mnemonic maxIndex
  let classes := DiscoveryClasses.load
  ((List.range maxIndex.toNat).map UInt32.ofNat).foldlM (fun candidates index => do
    -- (a) direct derivation, shared by Braavos, new Argent and OpenZeppelin
    let directPk ← derivePrivateKeyWithCoinType hmac mnemonic index 0 starknetCoinType none
    let directPubk ← starkPublicKey directPk
    let direct : DerivedKey :=
      { privateKey := directPk, publicKey := directPubk, index
        path := s!"m/44'/9004'/0'/0/{index}" }
    let candidates ← pushBraavosCandidates record candidates classes direct
    let candidates ← pushArgentCairo1Candidates record candidates classes .argent direct
    let candidates ← pushOzCandidates record candidates classes direct
    -- (b) legacy double derivation, old Argent
    let legacyPk ← deriveArgentLegacyPrivateKey hmac mnemonic index 0
    let legacyPubk ← starkPublicKey legacyPk
    let legacy : DerivedKey :=
      { privateKey := legacyPk, publicKey := legacyPubk, index
        path := s!"m/44'/60'/0'/0/0 -> m/44'/9004'/0'/0/{index}" }
    let candidates ← pushArgentCairo1Candidates record candidates classes .argentLegacy legacy
    pushArgentCairo0Candidates record candidates classes legacy) []

def generateCandidates (hmac : Hmac) (mnemonic : String) (maxIndex : UInt32) :
    Result (List CandidateAccount) :=
  generateCandidatesWith (fun _ candidate => candidate) hmac mnemonic maxIndex

end

end KrustyKms.Discovery

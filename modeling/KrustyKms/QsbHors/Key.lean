import KrustyKms.Common.ZeroizingHmac
import KrustyKms.Codec.Hex
import KrustyKms.Derivation.Stark
import KrustyKms.QsbHors.Transaction

/-!
# QSB-HORS-v1 vault secrets

A vault `(net, v)` holds 2 × 150 one-time 20-byte secrets, each the beginning of an HMAC under the
wallet's key `K` and committed to by its HASH160.
-/

namespace KrustyKms.QsbHors

open Codec KrustyKms.Derivation

def secretLen : ℕ := 20
def secretsPerRound : ℕ := 150
def round0Reveals : ℕ := 8
def round1Reveals : ℕ := 7

def profile : Bytes := utf8 "QSB-HORS-v1"
def slip21Label : Bytes := utf8 "QSB-HORS"
def rootTag : Bytes := utf8 "QSB-HORS-v1/root"
def revealTag : Bytes := utf8 "QSB-HORS-v1/reveal"

def netTest : UInt8 := 0x01
def maxVaultIndex : UInt32 := 0x7fffffff

def invalidParameter (message : String) : KmsError := .invalidDerivationPath message

/-! ## Requests -/

/-- A validated `(net, v)` pair naming one vault key set. -/
structure QsbVault where
  net : UInt8
  index : UInt32
  net_le : net ≤ netTest
  index_le : index ≤ maxVaultIndex
deriving DecidableEq

def QsbVault.new (net : UInt8) (index : UInt32) : Result QsbVault :=
  if hnet : net ≤ netTest then
    if hindex : index ≤ maxVaultIndex then .ok ⟨net, index, hnet, hindex⟩
    else .error (invalidParameter s!"QSB vault index {index} must be below 2^31")
  else
    .error (invalidParameter
      s!"QSB namespace 0x{encodeBytes [net]} must be 0x00 (mainnet) or 0x01 (test)")

def checkIndices (round : UInt8) (before : List UInt16) : List UInt16 → Result Unit
  | [] => .ok ()
  | index :: rest =>
    if index.toNat ≥ secretsPerRound then
      .error (invalidParameter s!"QSB round {round} index {index} is outside [0, 149]")
    else if before.contains index then
      .error (invalidParameter s!"QSB round {round} repeats index {index}")
    else checkIndices round (before ++ [index]) rest

def ValidRound (indices : List UInt16) : Prop :=
  (∀ index ∈ indices, index.toNat < secretsPerRound) ∧ indices.Nodup

lemma checkIndices_ok {round : UInt8} {before rest : List UInt16}
    (h : checkIndices round before rest = .ok ()) (hbf : ValidRound before) :
    ValidRound (before ++ rest) := by
  induction rest generalizing before with
  | nil => rwa [List.append_nil]
  | cons index rest ih =>
    rw [checkIndices] at h
    split_ifs at h with hrn hr
    have hnew : index ∉ before := by
      rw [List.contains_iff_mem] at hr
      exact hr
    have hex : ValidRound (before ++ [index]) := by
      refine ⟨?_, ?_⟩
      · intro i hi
        obtain hi | hi := List.mem_append.mp hi
        · exact hbf.1 i hi
        · rw [List.mem_singleton.mp hi]
          omega
      · rw [List.nodup_append]
        refine ⟨hbf.2, List.nodup_singleton index, ?_⟩
        intro a ha b hb hab
        rw [List.mem_singleton.mp hb] at hab
        exact hnew (hab ▸ ha)
    have hv := ih h hex
    rwa [List.append_assoc] at hv

def revealRound (n : ℕ) (round : UInt8) (indices : List UInt16) :
    Result {array : Vector UInt16 n // ValidRound array.toList} :=
  if hlength : indices.length = n then
    match hcheck : checkIndices round [] indices with
    | .ok () => .ok ⟨⟨indices.toArray, hlength⟩, checkIndices_ok hcheck ⟨by simp, List.nodup_nil⟩⟩
    | .error e => .error e
  else
    .error (invalidParameter
      s!"QSB round {round} needs exactly {n} indices, got {indices.length}")

/-- A validated disclosure request: which secrets of a vault to reveal, in the caller's order. -/
structure QsbRevealIndices where
  round0 : Vector UInt16 round0Reveals
  round1 : Vector UInt16 round1Reveals
  valid0 : ValidRound round0.toList
  valid1 : ValidRound round1.toList

def QsbRevealIndices.new (round0 round1 : List UInt16) : Result QsbRevealIndices := do
  let ⟨round0, valid0⟩ ← revealRound round0Reveals 0 round0
  let ⟨round1, valid1⟩ ← revealRound round1Reveals 1 round1
  pure ⟨round0, round1, valid0, valid1⟩

def QsbRevealIndices.secrets (indices : QsbRevealIndices) : List (UInt8 × UInt16) :=
  indices.round0.toList.map (fun index => (0, index)) ++
    indices.round1.toList.map (fun index => (1, index))

/-! ## The key and its secrets -/

/-- One HASH160 commitment, `c[v][r][i]`. -/
abbrev QsbCommitment := Vector UInt8 secretLen

/-- `K`, the SLIP-0021 child `"QSB-HORS"` of the BIP-39 seed. -/
structure QsbKey where
  bytes : Vector UInt8 32

/-- The public commitments of one vault, each round in index order, and their root `R`. -/
structure QsbCommitments where
  round0 : List QsbCommitment
  round1 : List QsbCommitment
  root : Vector UInt8 32

def hash160 [Sha256] [BitcoinHashes] (data : Bytes) : QsbCommitment :=
  BitcoinHashes.ripemd160 (Sha256.digest data).toList

def secretMessage (vault : QsbVault) (round : UInt8) (index : UInt16) : Bytes :=
  profile ++ [0x00, vault.net] ++ beBytes 4 vault.index.toNat ++ [round] ++
    beBytes 2 index.toNat

lemma secretLen_le : secretLen ≤ 32 := by decide

def takeOutput (n : ℕ) {m : ℕ} (output : Vector UInt8 m) (h : n ≤ m) : Vector UInt8 n :=
  (output.take n).cast (Nat.min_eq_left h)

def slip21ChildKey [Sha512] (seed label : Bytes) : Result (Vector UInt8 32) := do
  let master ← hmacSha512 (utf8 "Symmetric key seed") [seed]
  let node ← hmacSha512 (master.toList.take 32) [[0x00], label]
  pure ((node.drop 32).cast (by decide))

namespace QsbKey

def fromSeed [Sha512] (seed : Bytes) : Result QsbKey :=
  (slip21ChildKey seed slip21Label).map QsbKey.mk

def fromMnemonic [Bip39] [Sha512] (mnemonic : String) (passphrase : Option String) :
    Result QsbKey := do
  let seed ← mnemonicToSeed mnemonic (passphrase.getD "")
  fromSeed seed.toList

variable [Sha256]

def secret (key : QsbKey) (vault : QsbVault) (round : UInt8) (index : UInt16) :
    Result (Vector UInt8 secretLen) := do
  let mac ← hmacSha256 key.bytes.toList [secretMessage vault round index]
  pure (takeOutput secretLen mac secretLen_le)

variable [BitcoinHashes]

def roundCommitments (key : QsbKey) (vault : QsbVault) (round : UInt8) :
    Result (List QsbCommitment) :=
  (List.range secretsPerRound).mapM fun index => do
    let secret ← key.secret vault round (UInt16.ofNat index)
    pure (hash160 secret.toList)

def commitments (key : QsbKey) (vault : QsbVault) : Result QsbCommitments := do
  let round0 ← key.roundCommitments vault 0
  let round1 ← key.roundCommitments vault 1
  let root := Sha256.digest (rootTag ++ (round0 ++ round1).flatMap Vector.toList)
  pure { round0, round1, root }

omit [BitcoinHashes] in
def preimages (key : QsbKey) (vault : QsbVault) (indices : QsbRevealIndices) :
    Result (List (Vector UInt8 secretLen)) :=
  indices.secrets.mapM fun (round, index) => key.secret vault round index

end QsbKey

def deriveQsbCommitments [Bip39] [Sha512] [Sha256] [BitcoinHashes] (mnemonic : String)
    (vault : QsbVault) (passphrase : Option String) : Result QsbCommitments := do
  let key ← QsbKey.fromMnemonic mnemonic passphrase
  key.commitments vault

def revealQsbPreimages [Bip39] [Sha512] [Sha256] (mnemonic : String) (vault : QsbVault)
    (indices : QsbRevealIndices) (passphrase : Option String) :
    Result (List (Vector UInt8 secretLen)) := do
  let key ← QsbKey.fromMnemonic mnemonic passphrase
  key.preimages vault indices

/-! ## The transaction binding -/

/-- The transaction binding of a disclosure request: `B = SHA256(T)` and `D`. -/
structure QsbRevealDigest where
  binding : Vector UInt8 32
  digest : Vector UInt8 32

/-- What is hashed for `D`: every index, round 0's then round 1's, and the binding. -/
def revealMessage (indices : QsbRevealIndices) (binding : Vector UInt8 32) : Bytes :=
  revealTag ++ indices.secrets.flatMap (fun (_, index) => beBytes 2 index.toNat) ++ binding.toList

variable [Sha256]

def revealDigest (indices : QsbRevealIndices) (binding : Vector UInt8 32) : Vector UInt8 32 :=
  Sha256.digest (revealMessage indices binding)

def qsbRevealDigest [Target] (transaction : Bytes) (indices : QsbRevealIndices) :
    Result QsbRevealDigest := do
  validate transaction
  let binding := Sha256.digest transaction
  pure { binding, digest := revealDigest indices binding }

end KrustyKms.QsbHors

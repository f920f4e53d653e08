import KrustyKms.Bitcoin.Tx

/-!
# The P2WPKH signer shared by PSBT and BIP-322
-/

namespace KrustyKms.Bitcoin

variable [Sha256] [BitcoinHashes] [K256]

def maxLowRAttempts : ℕ := 256

/-- A secp256k1 key viewed as the owner of one P2WPKH output script. The public
key and its hash are the signing key's own. -/
structure P2wpkhSigner where
  signingKey : K256.SigningKey
  publicKey : Vector UInt8 33
  pubkeyHash : Vector UInt8 20
  publicKey_eq : publicKey.toList = K256.compressedPublicKey signingKey
  pubkeyHash_eq : pubkeyHash = BitcoinHashes.hash160 publicKey.toList

namespace P2wpkhSigner

def new (privateKey : Vector UInt8 32) : Result P2wpkhSigner :=
  match K256.signingKeyFromSlice privateKey with
  | .error e => .error (.invalidPrivateKey s!"Invalid secp256k1 key: {e}")
  | .ok signingKey =>
    let point := K256.compressedPublicKey signingKey
    if h : point.length = 33 then
      let publicKey : Vector UInt8 33 := ⟨point.toArray, by simpa using h⟩
      .ok {
        signingKey
        publicKey
        pubkeyHash := BitcoinHashes.hash160 publicKey.toList
        publicKey_eq := by simp [publicKey, point]
        pubkeyHash_eq := rfl }
    else .error (.cryptoError "compressed public key is not 33 bytes")

/-- The witness v0 key-hash output script: `OP_0 PUSH20 <hash160(pubkey)>`. -/
def scriptPubkey (signer : P2wpkhSigner) : Bytes :=
  [0x00, 0x14] ++ signer.pubkeyHash.toList

/-- The additional data of one signing attempt: none at first, then 32 bytes
that are zero except for the little-endian counter. -/
def additionalData (counter : ℕ) : Bytes :=
  if counter = 0 then [] else Codec.leBytes 4 counter ++ List.replicate 28 0

def lowRAttempt (signer : P2wpkhSigner) (sighash : Vector UInt8 32) (counter : ℕ) :
    Option K256.Signature :=
  let signature := K256.normalizeS
    (K256.signPrehashedRfc6979 signer.signingKey sighash (additionalData counter))
  match (K256.toBytes signature).head? with
  | some byte => if byte < 0x80 then some signature else none
  | none => none

def signLowR (signer : P2wpkhSigner) (sighash : Vector UInt8 32) : Result K256.Signature :=
  match (List.range maxLowRAttempts).findSome? (signer.lowRAttempt sighash) with
  | some signature => .ok signature
  | none => .error (.cryptoError s!"no low-R ECDSA signature after {maxLowRAttempts} attempts")

def signSighashAll (signer : P2wpkhSigner) (sighash : Vector UInt8 32) : Result Bytes := do
  let signature ← signer.signLowR sighash
  pure (K256.toDer signature ++ [sighashAll])

end P2wpkhSigner

end KrustyKms.Bitcoin

import KrustyKms.Common.Basic

/-!
# Nostr event signing

Deterministic BIP-340 signatures over secp256k1: the auxiliary randomness is zero.
-/

namespace KrustyKms.Nostr

/-- The `k256` crate, as the Nostr modules use it; an error is its text. -/
class NostrK256 where
  SecretKey : Type
  PublicKey : Type
  SigningKey : Type
  VerifyingKey : Type
  Signature : Type
  /-- `SecretKey::from_slice` -/
  secretKeyFromSlice : Vector UInt8 32 → Except String SecretKey
  /-- `PublicKey::from_sec1_bytes` -/
  publicKeyFromSec1Bytes : Bytes → Except String PublicKey
  /-- `diffie_hellman(..).raw_secret_bytes()` -/
  diffieHellman : SecretKey → PublicKey → Vector UInt8 32
  /-- `schnorr::SigningKey::from_slice` -/
  signingKeyFromSlice : Vector UInt8 32 → Except String SigningKey
  /-- `verifying_key().to_bytes()` -/
  verifyingKeyBytes : SigningKey → Vector UInt8 32
  /-- `sign_raw(message, aux_rand)`, then `to_bytes()` -/
  signRaw : SigningKey → Bytes → Vector UInt8 32 → Except String (Vector UInt8 64)
  /-- `schnorr::VerifyingKey::from_slice` -/
  verifyingKeyFromSlice : Vector UInt8 32 → Except String VerifyingKey
  /-- `schnorr::Signature::try_from` -/
  signatureFromSlice : Vector UInt8 64 → Except String Signature
  /-- `verify_prehash(..).is_ok()` -/
  verifyPrehash : VerifyingKey → Vector UInt8 32 → Signature → Bool

structure NostrSignature where
  publicKey : Vector UInt8 32
  signature : Vector UInt8 64

variable [NostrK256]

def parseSigningKey (privateKey : Vector UInt8 32) : Result NostrK256.SigningKey :=
  (NostrK256.signingKeyFromSlice privateKey).mapError fun error =>
    .invalidPrivateKey s!"Invalid secp256k1 key: {error}"

/-- Derive the x-only Nostr public key for a secp256k1 private key. -/
def nostrPublicKey (privateKey : Vector UInt8 32) : Result (Vector UInt8 32) := do
  let signingKey ← parseSigningKey privateKey
  pure (NostrK256.verifyingKeyBytes signingKey)

def signNostrEventIdWithAuxRand (privateKey eventId auxRand : Vector UInt8 32) :
    Result NostrSignature := do
  let signingKey ← parseSigningKey privateKey
  let signature ← (NostrK256.signRaw signingKey eventId.toList auxRand).mapError fun error =>
    KmsError.cryptoError s!"nostr signing failed: {error}"
  pure { publicKey := NostrK256.verifyingKeyBytes signingKey, signature }

def signNostrEventId (privateKey eventId : Vector UInt8 32) : Result NostrSignature :=
  signNostrEventIdWithAuxRand privateKey eventId (Vector.replicate 32 0)

end KrustyKms.Nostr

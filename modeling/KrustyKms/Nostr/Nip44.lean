import KrustyKms.Common.ZeroizingHmac
import KrustyKms.Nostr.Signing
import Mathlib.Data.Nat.Log

/-!
# NIP-44 v2 encryption

A plaintext is written behind its length, padded with zeros to a canonical size and combined with
the key stream; the payload is the version, the nonce, the ciphertext and its tag, in base64.
-/

namespace KrustyKms.Nostr.Nip44

open Codec

def version : UInt8 := 2

def minPayloadBytes : ℕ := 99
def maxPayloadBytes : ℕ := 65603
def maxPlaintextBytes : ℕ := 65535

def validPlaintext (plaintext : Bytes) : Bool :=
  !plaintext.isEmpty && plaintext.length ≤ maxPlaintextBytes

/-! ## Padding -/

def nextPowerOfTwo (n : ℕ) : ℕ := 2 ^ Nat.clog 2 n

def paddedLength (length : ℕ) : ℕ :=
  if length ≤ 32 then 32
  else
    let nextPower := nextPowerOfTwo length
    let chunk := if nextPower ≤ 256 then 32 else nextPower / 8
    chunk * ((length - 1) / chunk + 1)

def padded (plaintext : Bytes) : Result Bytes :=
  if !validPlaintext plaintext then
    .error (.serializationError "NIP-44 plaintext must be 1-65535 bytes")
  else
    .ok (beBytes 2 plaintext.length ++ plaintext ++
      List.replicate (paddedLength plaintext.length - plaintext.length) 0)

def invalidPadding : KmsError := .deserializationError "Invalid NIP-44 padding"

def plaintextFromUtf8 (bytes : Bytes) : Result String :=
  match fromUtf8 bytes with
  | some plaintext => .ok plaintext
  | none => .error (.deserializationError "Invalid NIP-44 UTF-8")

def unpadded (buffer : Bytes) : Result String := do
  if buffer.length < 2 then
    throw invalidPadding
  let length := beValue (buffer.take 2)
  if length = 0 ∨ length > maxPlaintextBytes ∨ buffer.length ≠ paddedLength length + 2 ∨
      buffer.length < length + 2 ∨ (buffer.drop (length + 2)).any (· ≠ 0) then
    throw invalidPadding
  plaintextFromUtf8 ((buffer.take (length + 2)).drop 2)

variable [Sha256] [NostrK256] [ChaCha20] [Base64]

/-! ## Keys -/

def sharedSecret (privateKey peerPublicKey : Vector UInt8 32) : Result (Vector UInt8 32) := do
  let secret ← (NostrK256.secretKeyFromSlice privateKey).mapError KmsError.invalidPrivateKey
  let compressed := 2 :: peerPublicKey.toList
  let peer ← (NostrK256.publicKeyFromSec1Bytes compressed).mapError KmsError.invalidPublicKey
  pure (NostrK256.diffieHellman secret peer)

def conversationKey (privateKey peerPublicKey : Vector UInt8 32) : Result (Vector UInt8 32) := do
  let shared ← sharedSecret privateKey peerPublicKey
  hmacSha256 (utf8 "nip44-v2") [shared.toList]

def messageKeys (conversationKey nonce : Vector UInt8 32) : Result Bytes :=
  hkdfSha256Expand 76 conversationKey nonce.toList

def sliceToArray (n : ℕ) (bytes : Bytes) (error : KmsError) : Result (Vector UInt8 n) :=
  match arrayFromSlice n bytes with
  | some array => .ok array
  | none => .error error

def cipherKey (keys : Bytes) : Result (Vector UInt8 32) :=
  sliceToArray 32 (keys.take 32) (.cryptoError "Invalid NIP-44 cipher key")

def cipherNonce (keys : Bytes) : Result (Vector UInt8 12) :=
  sliceToArray 12 ((keys.take 44).drop 32) (.cryptoError "Invalid NIP-44 cipher nonce")

/-! ## Payloads -/

def encryptWithNonce (privateKey peerPublicKey : Vector UInt8 32) (plaintext : String)
    (nonce : Vector UInt8 32) : Result String := do
  let conversation ← conversationKey privateKey peerPublicKey
  let keys ← messageKeys conversation nonce
  let buffer ← padded (utf8 plaintext)
  let key ← cipherKey keys
  let iv ← cipherNonce keys
  let ciphertext := ChaCha20.applyKeystream key iv buffer
  let tag ← hmacSha256 (keys.drop 44) [nonce.toList, ciphertext]
  pure (Base64.encode (version :: (nonce.toList ++ ciphertext ++ tag.toList)))

def encrypt (nonce : Except String (Vector UInt8 32)) (privateKey peerPublicKey : Vector UInt8 32)
    (plaintext : String) : Result String := do
  let nonce ← nonce.mapError fun error =>
    KmsError.cryptoError s!"NIP-44 entropy unavailable: {error}"
  encryptWithNonce privateKey peerPublicKey plaintext nonce

def decodePayload (payload : String) : Result Bytes := do
  if ¬ (132 ≤ payload.utf8ByteSize ∧ payload.utf8ByteSize ≤ 87472) ∨
      payload.toList.head? = some '#' then
    throw (.deserializationError "Invalid NIP-44 payload size")
  let decoded ← (Base64.decode payload).mapError KmsError.deserializationError
  if ¬ (minPayloadBytes ≤ decoded.length ∧ decoded.length ≤ maxPayloadBytes) ∨
      decoded.head? ≠ some version then
    throw (.deserializationError "Invalid NIP-44 payload")
  pure decoded

def decryptBuffer (privateKey peerPublicKey : Vector UInt8 32) (payload : String) :
    Result Bytes := do
  let decoded ← decodePayload payload
  let nonce ← sliceToArray 32 ((decoded.take 33).drop 1)
    (.deserializationError "Invalid NIP-44 nonce")
  let tagAt := decoded.length - 32
  let ciphertext := (decoded.take tagAt).drop 33
  let conversation ← conversationKey privateKey peerPublicKey
  let keys ← messageKeys conversation nonce
  let tag ← hmacSha256 (keys.drop 44) [nonce.toList, ciphertext]
  if tag.toList ≠ decoded.drop tagAt then
    throw (.cryptoError "NIP-44 authentication failed")
  let key ← cipherKey keys
  let iv ← cipherNonce keys
  pure (ChaCha20.applyKeystream key iv ciphertext)

def decrypt (privateKey peerPublicKey : Vector UInt8 32) (payload : String) : Result String := do
  let buffer ← decryptBuffer privateKey peerPublicKey payload
  unpadded buffer

end KrustyKms.Nostr.Nip44

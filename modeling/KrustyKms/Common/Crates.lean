import KrustyKms.Codec.Base64
import KrustyKms.Codec.Endian
import KrustyKms.Common.Basic

/-!
# The third-party crates the modules call

Each class gives the functions one crate contributes, with no laws: what a
result relies on is a hypothesis of that result.
-/

namespace KrustyKms

/-- The `sha2` crate's `Sha256::digest`. -/
class Sha256 where
  digest : Bytes → Vector UInt8 32

/-- The `sha2` crate's `Sha512`. -/
class Sha512 where
  digest : Bytes → Vector UInt8 64

/-- The `sha3` crate's `Keccak256`. -/
class Keccak256 where
  digest : Bytes → Vector UInt8 32

/-- Keccak-256 on the strings of a table, where the digests are known numbers. -/
@[reducible] def tableKeccak256 (table : List (Bytes × ℕ)) : Keccak256 where
  digest data := Codec.beVector 32 ((table.lookup data).getD 0)

/-- The `chacha20poly1305` crate's `XChaCha20Poly1305`; an error is its text. -/
class XChaCha20Poly1305 where
  encrypt : Vector UInt8 32 → Vector UInt8 24 → Bytes → Except String Bytes
  decrypt : Vector UInt8 32 → Vector UInt8 24 → Bytes → Except String Bytes

/-- An encryption whose key, nonce, plaintext and ciphertext are known. -/
structure SealedBox where
  key : Vector UInt8 32
  nonce : Vector UInt8 24
  plaintext : Bytes
  ciphertext : Bytes

@[reducible] def tableXChaCha20Poly1305 (table : List SealedBox) : XChaCha20Poly1305 where
  encrypt key nonce plaintext :=
    match table.find? fun box => box.key = key ∧ box.nonce = nonce ∧ box.plaintext = plaintext with
    | some box => .ok box.ciphertext
    | none => .error "aead::Error"
  decrypt key nonce ciphertext :=
    match table.find? fun box =>
      box.key = key ∧ box.nonce = nonce ∧ box.ciphertext = ciphertext with
    | some box => .ok box.plaintext
    | none => .error "aead::Error"

/-- The `bitcoin_hashes` crate. -/
class BitcoinHashes where
  ripemd160 : Bytes → Vector UInt8 20
  hash160 : Bytes → Vector UInt8 20

/-- The `base64` crate's `STANDARD` engine; a decoding error is its text. -/
class Base64 where
  encode : Bytes → String
  decode : String → Except String Bytes

/-- Padded text of four characters for every three bytes, which decodes to the bytes it encodes. -/
structure LawfulBase64 [Base64] : Prop where
  decode_encode : ∀ bytes, Base64.decode (Base64.encode bytes) = .ok bytes
  length_encode : ∀ bytes, (Base64.encode bytes).utf8ByteSize = (bytes.length + 2) / 3 * 4

/-- The engine writes RFC 4648's encoding and reads back what it wrote. -/
structure StandardBase64 [Base64] : Prop where
  encode_eq : ∀ bytes, Base64.encode bytes = Codec.Rfc4648.encode bytes
  decode_encode : ∀ bytes, Base64.decode (Base64.encode bytes) = .ok bytes

lemma StandardBase64.lawful [Base64] (h : StandardBase64) : LawfulBase64 where
  decode_encode := h.decode_encode
  length_encode bytes := by rw [h.encode_eq, Codec.Rfc4648.utf8ByteSize_encode]

@[reducible] def standardBase64 : Base64 where
  encode := Codec.Rfc4648.encode
  decode text := (Codec.Rfc4648.decode text).elim (.error "Invalid padding") .ok

lemma standardBase64_standard : @StandardBase64 standardBase64 := by
  refine @StandardBase64.mk standardBase64 (fun _ => rfl) ?_
  intro bytes
  show (Codec.Rfc4648.decode (Codec.Rfc4648.encode bytes)).elim _ _ = _
  rw [Codec.Rfc4648.decode_encode]
  rfl

/-- The `chacha20` crate's `ChaCha20`, applied to a buffer from its start. -/
class ChaCha20 where
  applyKeystream : Vector UInt8 32 → Vector UInt8 12 → Bytes → Bytes

/-- A stream cipher: each byte is combined with that of the key stream. -/
def ChaCha20.Xors [ChaCha20] : Prop :=
  ∃ stream : Vector UInt8 32 → Vector UInt8 12 → ℕ → UInt8, ∀ key iv data,
    applyKeystream key iv data = data.mapIdx fun i byte => byte ^^^ stream key iv i

namespace ChaCha20.Xors

variable [ChaCha20] {key : Vector UInt8 32} {iv : Vector UInt8 12} {data : Bytes}

lemma length_applyKeystream (h : Xors) : (applyKeystream key iv data).length = data.length := by
  obtain ⟨stream, hs⟩ := h
  rw [hs, List.length_mapIdx]

lemma applyKeystream_twice (h : Xors) :
    applyKeystream key iv (applyKeystream key iv data) = data := by
  obtain ⟨stream, hs⟩ := h
  rw [hs, hs, List.mapIdx_mapIdx]
  apply List.ext_getElem
  · simp
  · intro i _ _
    rw [List.getElem_mapIdx, Function.comp_apply, UInt8.xor_assoc, UInt8.xor_self,
      UInt8.xor_zero]

end ChaCha20.Xors

/-- The `k256` and `ecdsa` crates, as the P2WPKH signer and the PSBT field table
use them. -/
class K256 where
  SigningKey : Type
  Signature : Type
  /-- `SigningKey::from_slice`, with the text of its error. -/
  signingKeyFromSlice : Vector UInt8 32 → Except String SigningKey
  /-- `verifying_key().to_sec1_point(true).as_bytes()` -/
  compressedPublicKey : SigningKey → Bytes
  /-- `sign_prehashed_rfc6979::<Secp256k1, Sha256>`, on the key, the digest and
  the additional data. -/
  signPrehashedRfc6979 : SigningKey → Vector UInt8 32 → Bytes → Signature
  normalizeS : Signature → Signature
  toBytes : Signature → Bytes
  toDer : Signature → Bytes
  /-- `PublicKey::from_sec1_bytes(bytes).is_ok()` -/
  isSec1PublicKey : Bytes → Bool

end KrustyKms

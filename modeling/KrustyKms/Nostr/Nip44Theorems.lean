import KrustyKms.Common.Reference
import KrustyKms.Common.Secp256k1
import KrustyKms.Nostr.Nip44
import Mathlib.Logic.Equiv.Basic

/-!
# NIP-44 payloads are read back

The receiver of a payload decrypts it to its plaintext, a decrypted buffer is accepted only
with its canonical padding, and the extremes of the padded length are those of the decoder's
size windows.
-/

namespace KrustyKms.Nostr.Nip44

open Codec Support

/-! ## The padded length -/

lemma exists_chunk (length : ℕ) (hln : length ≤ 65536) :
    ∃ k, k ≤ 13 ∧ (32 < length → paddedLength length = 2 ^ k * ((length - 1) / 2 ^ k + 1)) := by
  have hcl : Nat.clog 2 length ≤ 16 := by
    rw [Nat.clog_le_iff_le_pow (by decide)]
    omega
  by_cases hs : nextPowerOfTwo length ≤ 256
  · refine ⟨5, by decide, ?_⟩
    intro hl
    unfold paddedLength
    rw [if_neg (by omega)]
    simp only [if_pos hs]
    norm_num
  · refine ⟨Nat.clog 2 length - 3, by omega, ?_⟩
    intro hl
    have hge : 8 < Nat.clog 2 length := by
      by_contra hle
      have hpow : 2 ^ Nat.clog 2 length ≤ 2 ^ 8 := Nat.pow_le_pow_right (by decide) (by omega)
      exact hs hpow
    have hc : nextPowerOfTwo length / 8 = 2 ^ (Nat.clog 2 length - 3) := by
      show 2 ^ Nat.clog 2 length / 2 ^ 3 = _
      exact Nat.pow_div (by omega) (by decide)
    unfold paddedLength
    rw [if_neg (by omega)]
    simp only [if_neg hs, hc]

lemma le_paddedLength (length : ℕ) (hl : length ≤ 65536) : length ≤ paddedLength length := by
  by_cases hs : length ≤ 32
  · unfold paddedLength
    rw [if_pos hs]
    exact hs
  · obtain ⟨k, -, hp⟩ := exists_chunk length hl
    rw [hp (by omega)]
    have hdiv := Nat.lt_mul_div_succ (length - 1) (Nat.two_pow_pos k)
    omega

lemma paddedLength_ge (length : ℕ) (hl : length ≤ 65536) : 32 ≤ paddedLength length := by
  by_cases hs : length ≤ 32
  · unfold paddedLength
    rw [if_pos hs]
  · have hle := le_paddedLength length hl
    omega

lemma paddedLength_le {length bound : ℕ} (hdvd : 2 ^ 13 ∣ bound) (hpos : 0 < bound)
    (hb : bound ≤ 65536) (hl : length ≤ bound) : paddedLength length ≤ bound := by
  by_cases hs : length ≤ 32
  · unfold paddedLength
    rw [if_pos hs]
    exact le_trans (by decide) (Nat.le_of_dvd hpos hdvd)
  · obtain ⟨k, hk, hp⟩ := exists_chunk length (hl.trans hb)
    have hdvd : 2 ^ k ∣ bound := dvd_trans (Nat.pow_dvd_pow 2 hk) hdvd
    have hdiv : (length - 1) / 2 ^ k < bound / 2 ^ k :=
      Nat.div_lt_div_of_lt_of_dvd hdvd (by omega)
    calc paddedLength length = 2 ^ k * ((length - 1) / 2 ^ k + 1) := hp (by omega)
      _ ≤ 2 ^ k * (bound / 2 ^ k) := Nat.mul_le_mul_left _ hdiv
      _ = bound := Nat.mul_div_cancel' hdvd

/-! ## Padding and unpadding -/

structure CanonicalPadding (buffer : Bytes) (length : ℕ) : Prop where
  declared : beValue (buffer.take 2) = length
  pos : 1 ≤ length
  le : length ≤ maxPlaintextBytes
  size : buffer.length = paddedLength length + 2
  zeros : ∀ byte ∈ buffer.drop (length + 2), byte = 0

variable {plaintext buffer : Bytes}

lemma validPlaintext_iff :
    validPlaintext plaintext = true ↔
      1 ≤ plaintext.length ∧ plaintext.length ≤ maxPlaintextBytes := by
  simp [validPlaintext, Nat.one_le_iff_ne_zero]

lemma padded_eq_ok :
    padded plaintext = .ok buffer ↔
      (1 ≤ plaintext.length ∧ plaintext.length ≤ maxPlaintextBytes) ∧
        buffer = beBytes 2 plaintext.length ++ plaintext ++
          List.replicate (paddedLength plaintext.length - plaintext.length) 0 := by
  unfold padded
  rw [← validPlaintext_iff]
  cases validPlaintext plaintext with
  | false => simp
  | true => simp [eq_comm]

lemma length_padded (h : padded plaintext = .ok buffer) :
    buffer.length = paddedLength plaintext.length + 2 := by
  obtain ⟨⟨-, hle⟩, rfl⟩ := padded_eq_ok.mp h
  have hf := le_paddedLength plaintext.length (Nat.le_succ_of_le hle)
  simp only [List.length_append, length_beBytes, List.length_replicate]
  omega

lemma plaintextFromUtf8_eq_ok {bytes : Bytes} {plaintext : String} :
    plaintextFromUtf8 bytes = .ok plaintext ↔ bytes = utf8 plaintext := by
  rw [← fromUtf8_eq_some]
  unfold plaintextFromUtf8
  cases fromUtf8 bytes with
  | none => simp
  | some text => simp

lemma unpadded_eq_ok {plaintext : String} :
    unpadded buffer = .ok plaintext ↔
      CanonicalPadding buffer (utf8 plaintext).length ∧
        (buffer.take ((utf8 plaintext).length + 2)).drop 2 = utf8 plaintext := by
  unfold unpadded
  simp only [except_ite_throw_eq_ok, plaintextFromUtf8_eq_ok, not_or]
  constructor
  · intro h
    obtain ⟨-, ⟨hzr, hmax, hs, hf, hz⟩, ht⟩ := h
    have hl : (utf8 plaintext).length = beValue (buffer.take 2) := by
      rw [← ht, List.length_drop, List.length_take]
      omega
    rw [hl]
    refine ⟨⟨rfl, Nat.one_le_iff_ne_zero.mpr hzr, Nat.not_lt.mp hmax, not_not.mp hs, ?_⟩,
      ht⟩
    simpa using hz
  · intro h
    obtain ⟨⟨hd, hpos, hmax, hs, hz⟩, ht⟩ := h
    have hf := le_paddedLength _ (Nat.le_succ_of_le hmax)
    rw [hd]
    refine ⟨by omega, ⟨by omega, by omega, not_not.mpr hs, by omega, ?_⟩, ht⟩
    simpa using hz

lemma canonicalPadding_padded (h : padded plaintext = .ok buffer) :
    CanonicalPadding buffer plaintext.length ∧
      (buffer.take (plaintext.length + 2)).drop 2 = plaintext := by
  have hs := length_padded h
  obtain ⟨⟨hpos, hmax⟩, rfl⟩ := padded_eq_ok.mp h
  have hl : (beBytes 2 plaintext.length).length = 2 := length_beBytes 2 _
  refine ⟨⟨?_, hpos, hmax, hs, ?_⟩, ?_⟩
  · rw [List.append_assoc, List.take_left' hl, beValue_beBytes_of_lt]
    exact Nat.lt_of_le_of_lt hmax (by decide)
  · rw [List.drop_left' (by rw [List.length_append, hl, Nat.add_comm])]
    exact fun byte hb => List.eq_of_mem_replicate hb
  · rw [List.take_left' (by rw [List.length_append, hl, Nat.add_comm]),
      List.drop_left' hl]

lemma unpadded_padded {plaintext : String}
    (h : padded (utf8 plaintext) = .ok buffer) : unpadded buffer = .ok plaintext :=
  unpadded_eq_ok.mpr (canonicalPadding_padded h)

/-! ## Keys -/

lemma exists_sliceToArray {n : ℕ} {bytes : Bytes} (hl : bytes.length = n) (error : KmsError) :
    ∃ array, sliceToArray n bytes error = .ok array := by
  unfold sliceToArray arrayFromSlice
  rw [dif_pos hl]
  exact ⟨_, rfl⟩

lemma sliceToArray_toList {n : ℕ} (array : Vector UInt8 n) (error : KmsError) :
    sliceToArray n array.toList error = .ok array := by
  unfold sliceToArray
  rw [arrayFromSlice_eq_some.mpr rfl]

section Payloads

variable [Sha256] [NostrK256]

/-- Both sides compute the same secret. -/
def EcdhSymmetric : Prop :=
  ∀ privateKey peerPrivateKey publicKey peerPublicKey,
    nostrPublicKey privateKey = .ok publicKey → nostrPublicKey peerPrivateKey = .ok peerPublicKey →
    ∃ shared, sharedSecret privateKey peerPublicKey = .ok shared ∧
      sharedSecret peerPrivateKey publicKey = .ok shared

def DerivesKeys (privateKey peerPublicKey nonce : Vector UInt8 32) (keys : Bytes)
    (key : Vector UInt8 32) (iv : Vector UInt8 12) : Prop :=
  ∃ conversation, conversationKey privateKey peerPublicKey = .ok conversation ∧
    messageKeys conversation nonce = .ok keys ∧ cipherKey keys = .ok key ∧
    cipherNonce keys = .ok iv

variable {privateKey peerPrivateKey publicKey peerPublicKey nonce : Vector UInt8 32}
  {keys : Bytes} {key : Vector UInt8 32} {iv : Vector UInt8 12}

lemma exists_derivesKeys (hec : EcdhSymmetric) (hp : nostrPublicKey privateKey = .ok publicKey)
    (hpr : nostrPublicKey peerPrivateKey = .ok peerPublicKey) (nonce : Vector UInt8 32) :
    ∃ keys key iv, DerivesKeys privateKey peerPublicKey nonce keys key iv ∧
      DerivesKeys peerPrivateKey publicKey nonce keys key iv ∧
      (keys.drop 44).length ≤ sha256Block := by
  obtain ⟨shared, hs, hs'⟩ := hec _ _ _ _ hp hpr
  have hsl : (utf8 "nip44-v2").length ≤ sha256Block := by decide
  obtain ⟨conversation, hc⟩ := exists_hmacSha256 hsl [shared.toList]
  obtain ⟨keys, hk, hl⟩ := exists_hkdfSha256Expand 76 conversation nonce.toList (by decide)
  obtain ⟨key, hkey⟩ : ∃ key, cipherKey keys = .ok key :=
    exists_sliceToArray (by simp [hl]) _
  obtain ⟨iv, hiv⟩ : ∃ iv, cipherNonce keys = .ok iv :=
    exists_sliceToArray (by simp [hl]) _
  have hb : ∀ a b, sharedSecret a b = .ok shared → DerivesKeys a b nonce keys key iv := by
    intro a b hab
    refine ⟨conversation, ?_, hk, hkey, hiv⟩
    unfold conversationKey
    rw [except_bind_eq_ok]
    exact ⟨shared, hab, hc⟩
  refine ⟨keys, key, iv, hb _ _ hs, hb _ _ hs', ?_⟩
  rw [List.length_drop, hl]
  decide

/-! ## Payloads -/

variable [ChaCha20] [Base64]

def payloadBytes (nonce : Vector UInt8 32) (ciphertext : Bytes) (tag : Vector UInt8 32) : Bytes :=
  version :: (nonce.toList ++ ciphertext ++ tag.toList)

omit [Sha256] [NostrK256] [ChaCha20] [Base64] in
lemma payloadBytes_parts (nonce : Vector UInt8 32) (ciphertext : Bytes) (tag : Vector UInt8 32) :
    ((payloadBytes nonce ciphertext tag).take 33).drop 1 = nonce.toList ∧
      ((payloadBytes nonce ciphertext tag).take
        ((payloadBytes nonce ciphertext tag).length - 32)).drop 33 = ciphertext ∧
      (payloadBytes nonce ciphertext tag).drop
        ((payloadBytes nonce ciphertext tag).length - 32) = tag.toList := by
  have hf : (version :: nonce.toList).length = 33 := by simp
  have hb : payloadBytes nonce ciphertext tag =
      (version :: nonce.toList ++ ciphertext) ++ tag.toList := by simp [payloadBytes]
  have hend : (payloadBytes nonce ciphertext tag).length - 32 =
      (version :: nonce.toList ++ ciphertext).length := by
    rw [hb, List.length_append, tag.length_toList, Nat.add_sub_cancel]
  refine ⟨?_, ?_, ?_⟩
  · rw [hb, List.append_assoc, List.take_left' hf]
    rfl
  · rw [hend, hb, List.take_left, List.drop_left' hf]
  · rw [hend, hb, List.drop_left]

lemma encryptWithNonce_eq_ok {plaintext payload : String} :
    encryptWithNonce privateKey peerPublicKey plaintext nonce = .ok payload ↔
      ∃ keys key iv buffer tag, DerivesKeys privateKey peerPublicKey nonce keys key iv ∧
        padded (utf8 plaintext) = .ok buffer ∧
        hmacSha256 (keys.drop 44) [nonce.toList, ChaCha20.applyKeystream key iv buffer] = .ok tag ∧
        payload =
          Base64.encode (payloadBytes nonce (ChaCha20.applyKeystream key iv buffer) tag) := by
  unfold encryptWithNonce
  simp only [except_bind_eq_ok]
  constructor
  · intro h
    obtain ⟨conversation, hc, keys, hk, buffer, hb, key, hkey, iv, hiv, tag,
      htag, h⟩ := h
    exact ⟨keys, key, iv, buffer, tag, ⟨conversation, hc, hk, hkey, hiv⟩, hb,
      htag, (Except.ok.inj h).symm⟩
  · intro h
    obtain ⟨keys, key, iv, buffer, tag, ⟨conversation, hc, hk, hkey, hiv⟩, hb,
      htag, rfl⟩ := h
    exact ⟨conversation, hc, keys, hk, buffer, hb, key, hkey, iv, hiv, tag, htag,
      rfl⟩

omit [Sha256] [NostrK256] [Base64] in
lemma length_payloadBytes (hc : ChaCha20.Xors) {plaintext buffer : Bytes}
    (hb : padded plaintext = .ok buffer) (nonce key : Vector UInt8 32) (iv : Vector UInt8 12)
    (tag : Vector UInt8 32) :
    minPayloadBytes ≤ (payloadBytes nonce (ChaCha20.applyKeystream key iv buffer) tag).length ∧
      (payloadBytes nonce (ChaCha20.applyKeystream key iv buffer) tag).length ≤
        maxPayloadBytes := by
  obtain ⟨⟨-, hmax⟩, -⟩ := padded_eq_ok.mp hb
  have hl := length_padded hb
  have hge := paddedLength_ge plaintext.length (Nat.le_succ_of_le hmax)
  have hle := paddedLength_le (by decide) (by decide) le_rfl (Nat.le_succ_of_le hmax)
  simp only [payloadBytes, List.length_cons, List.length_append, Vector.length_toList,
    hc.length_applyKeystream, hl, minPayloadBytes, maxPayloadBytes]
  omega

omit [Sha256] [NostrK256] [ChaCha20] in
lemma utf8ByteSize_encode (hbase64 : StandardBase64) {decoded : Bytes}
    (hmin : minPayloadBytes ≤ decoded.length) (hmax : decoded.length ≤ maxPayloadBytes) :
    132 ≤ (Base64.encode decoded).utf8ByteSize ∧
      (Base64.encode decoded).utf8ByteSize ≤ 87472 := by
  rw [hbase64.encode_eq, Rfc4648.utf8ByteSize_encode]
  unfold minPayloadBytes at hmin
  unfold maxPayloadBytes at hmax
  omega

omit [Sha256] [NostrK256] [ChaCha20] in
lemma decodePayload_encode (hbase64 : StandardBase64) {ciphertext : Bytes} {tag : Vector UInt8 32}
    (hmin : minPayloadBytes ≤ (payloadBytes nonce ciphertext tag).length)
    (hmax : (payloadBytes nonce ciphertext tag).length ≤ maxPayloadBytes) :
    decodePayload (Base64.encode (payloadBytes nonce ciphertext tag)) =
      .ok (payloadBytes nonce ciphertext tag) := by
  have hs := utf8ByteSize_encode hbase64 hmin hmax
  have hh : (Base64.encode (payloadBytes nonce ciphertext tag)).toList.head? ≠ some '#' := by
    rw [hbase64.encode_eq, payloadBytes, Rfc4648.head?_encode]
    decide
  unfold decodePayload
  simp only [except_ite_throw_eq_ok, except_bind_eq_ok, except_mapError_eq_ok, not_or, not_not]
  exact ⟨⟨hs, hh⟩, _, hbase64.decode_encode _, ⟨⟨hmin, hmax⟩, rfl⟩, rfl⟩

lemma decryptBuffer_of_decoded {payload : String} {ciphertext : Bytes} {tag : Vector UInt8 32}
    (hd : decodePayload payload = .ok (payloadBytes nonce ciphertext tag))
    (hk : DerivesKeys privateKey peerPublicKey nonce keys key iv)
    (htag : hmacSha256 (keys.drop 44) [nonce.toList, ciphertext] = .ok tag) :
    decryptBuffer privateKey peerPublicKey payload =
      .ok (ChaCha20.applyKeystream key iv ciphertext) := by
  obtain ⟨conversation, hc, hm, hkey, hiv⟩ := hk
  have hp := payloadBytes_parts nonce ciphertext tag
  unfold decryptBuffer
  simp only [except_bind_eq_ok, except_ite_throw_eq_ok]
  refine ⟨_, hd, nonce, ?_, conversation, hc, keys, hm, tag, ?_, ?_, key,
    hkey, iv, hiv, ?_⟩
  · rw [hp.1]
    exact sliceToArray_toList nonce _
  · rw [hp.2.1]
    exact htag
  · rw [hp.2.2]
    exact not_not.mpr rfl
  · rw [hp.2.1]
    rfl

lemma decrypt_eq_ok {payload plaintext : String} :
    decrypt privateKey peerPublicKey payload = .ok plaintext ↔
      ∃ buffer, decryptBuffer privateKey peerPublicKey payload = .ok buffer ∧
        unpadded buffer = .ok plaintext := by
  unfold decrypt
  rw [except_bind_eq_ok]

lemma decrypt_encryptWithNonce (hec : EcdhSymmetric) (hc : ChaCha20.Xors)
    (hbase64 : StandardBase64) (hp : nostrPublicKey privateKey = .ok publicKey)
    (hpr : nostrPublicKey peerPrivateKey = .ok peerPublicKey) (nonce : Vector UInt8 32)
    {plaintext : String} (hpos : 1 ≤ (utf8 plaintext).length)
    (hmax : (utf8 plaintext).length ≤ maxPlaintextBytes) :
    ∃ payload, encryptWithNonce privateKey peerPublicKey plaintext nonce = .ok payload ∧
      decrypt peerPrivateKey publicKey payload = .ok plaintext := by
  obtain ⟨keys, key, iv, hk, hk', hbl⟩ := exists_derivesKeys hec hp hpr nonce
  obtain ⟨buffer, hb⟩ : ∃ buffer, padded (utf8 plaintext) = .ok buffer :=
    ⟨_, padded_eq_ok.mpr ⟨⟨hpos, hmax⟩, rfl⟩⟩
  obtain ⟨tag, htag⟩ :=
    exists_hmacSha256 hbl [nonce.toList, ChaCha20.applyKeystream key iv buffer]
  refine ⟨_, encryptWithNonce_eq_ok.mpr ⟨keys, key, iv, buffer, tag, hk, hb, htag, rfl⟩, ?_⟩
  obtain ⟨hge, hle⟩ := length_payloadBytes hc hb nonce key iv tag
  have hr := decryptBuffer_of_decoded (decodePayload_encode hbase64 hge hle) hk' htag
  rw [hc.applyKeystream_twice] at hr
  exact decrypt_eq_ok.mpr ⟨buffer, hr, unpadded_padded hb⟩

/-- **NIP-44 is exact.** What is encrypted for a key pair is decrypted with it; a decrypted
buffer is accepted only with the canonical size of its declared length and zeros behind the
plaintext; and the size of every payload is within both windows of the decoder. -/
theorem payload_exact (hecdh : EcdhSymmetric) (hcipher : ChaCha20.Xors) (hbase64 : StandardBase64) :
    (∀ (privateKey peerPrivateKey publicKey peerPublicKey nonce : Vector UInt8 32)
        (plaintext : String), nostrPublicKey privateKey = .ok publicKey →
      nostrPublicKey peerPrivateKey = .ok peerPublicKey → 1 ≤ (utf8 plaintext).length →
      (utf8 plaintext).length ≤ 65535 →
      ∃ payload, encryptWithNonce privateKey peerPublicKey plaintext nonce = .ok payload ∧
        decrypt peerPrivateKey publicKey payload = .ok plaintext) ∧
    (∀ (privateKey peerPublicKey : Vector UInt8 32) (payload plaintext : String),
      decrypt privateKey peerPublicKey payload = .ok plaintext →
      ∃ buffer, decryptBuffer privateKey peerPublicKey payload = .ok buffer ∧
        CanonicalPadding buffer (utf8 plaintext).length ∧
        (buffer.take ((utf8 plaintext).length + 2)).drop 2 = utf8 plaintext) ∧
    ∀ (privateKey peerPublicKey nonce : Vector UInt8 32) (plaintext payload : String),
      encryptWithNonce privateKey peerPublicKey plaintext nonce = .ok payload →
      (132 ≤ payload.utf8ByteSize ∧ payload.utf8ByteSize ≤ 87472) ∧
      ∃ decoded, Base64.decode payload = .ok decoded ∧ minPayloadBytes ≤ decoded.length ∧
        decoded.length ≤ maxPayloadBytes := by
  refine ⟨?_, ?_, ?_⟩
  · intro privateKey peerPrivateKey publicKey peerPublicKey nonce plaintext hp hpr hpos hmax
    exact decrypt_encryptWithNonce hecdh hcipher hbase64 hp hpr nonce hpos hmax
  · intro privateKey peerPublicKey payload plaintext h
    obtain ⟨buffer, hb, hu⟩ := decrypt_eq_ok.mp h
    exact ⟨buffer, hb, unpadded_eq_ok.mp hu⟩
  · intro privateKey peerPublicKey nonce plaintext payload h
    obtain ⟨keys, key, iv, buffer, tag, -, hb, -, rfl⟩ := encryptWithNonce_eq_ok.mp h
    obtain ⟨hge, hle⟩ := length_payloadBytes hcipher hb nonce key iv tag
    exact ⟨utf8ByteSize_encode hbase64 hge hle, _, hbase64.decode_encode _, hge, hle⟩

end Payloads

/-! ## The first vector of the specification -/

section Sample

open Secp256k1

def generatorX : Vector UInt8 32 :=
  beVector 32 0x79be667ef9dcbbac55a06295ce870b07029bfcdb2dce28d959f2815b16f81798

def doubleX : Vector UInt8 32 :=
  beVector 32 0xc6047f9441ed7d6d3045406e95c07cd85c778e4b8cef3ca7abac09b95c709ee5

def tripleX : Vector UInt8 32 :=
  beVector 32 0xf9308a019258c31049344f85f89d5229b531c845836f99b08601f113bce036f9

def sextupleX : Vector UInt8 32 :=
  beVector 32 0xfff97bd5755eeea420453a14355235d382f6472f8568a18b2f057a1460297556

/-- Points by their scalars: the coordinates for 1, 2, 3 and 6 are those of the curve, and
the others keep the bytes of their scalar. -/
def coordinateOf : Equiv.Perm (Vector UInt8 32) :=
  (((Equiv.swap (toRepr 6) sextupleX).trans (Equiv.swap (toRepr 3) tripleX)).trans
    (Equiv.swap (toRepr 2) doubleX)).trans (Equiv.swap (toRepr 1) generatorX)

def scalarFromSlice (bytes : Vector UInt8 32) : Except String Scalar :=
  match fromRepr bytes with
  | some scalar => if scalar = 0 then .error "signature error" else .ok scalar
  | none => .error "signature error"

lemma scalarFromSlice_toRepr {bytes : Vector UInt8 32} {scalar : Scalar}
    (h : scalarFromSlice bytes = .ok scalar) : scalarFromSlice (toRepr scalar) = .ok scalar := by
  unfold scalarFromSlice at h ⊢
  rw [fromRepr_toRepr]
  cases hr : fromRepr bytes with
  | none =>
    rw [hr] at h
    cases h
  | some other =>
    rw [hr] at h
    dsimp only at h ⊢
    split_ifs at h with hz
    obtain rfl := Except.ok.inj h
    rw [if_neg hz]

/-- The BIP-340 signatures of a seal and of its gift wrap, by public key and event id. -/
def knownSignatures : List ((Vector UInt8 32 × Bytes) × ℕ) := [
  ((generatorX,
    beBytes 32 0xc287a3f087c672fe14ebd3fe0e94f43e08c757861a4b2b53c4dbfe0cd5695112),
    0xa0716a0a73db24fa7b05c8f9358f6490b26cce358e6cc0e3f0485adf8edc1040 * 2 ^ 256 +
    0x05ae0618d81ac71a713c58fd3e86e875eb4137974284559acfa8717634894e36),
  ((tripleX,
    beBytes 32 0x5b459b1941a85855dd6784fb65c30051ca5410e8c5b4bc6a9c5c6b5624bcf8a4),
    0x5bab0a3d7b731b70d7061ebd85cdc45b6acc8b13ac202d3d20f8feb1599cd308 * 2 ^ 256 +
    0xf768f33dc54a6b4b2c0c5cb3705f3eb837aa3ca9722c8cdb67c0da6d9a4150ab)]

def signatureOf (publicKey : Vector UInt8 32) (message : Bytes) : Vector UInt8 64 :=
  beVector 64 ((knownSignatures.lookup (publicKey, message)).getD 0)

@[reducible] def sampleK256 : NostrK256 where
  SecretKey := Scalar
  PublicKey := Scalar
  SigningKey := Scalar
  VerifyingKey := Vector UInt8 32
  Signature := Vector UInt8 64
  secretKeyFromSlice := scalarFromSlice
  publicKeyFromSec1Bytes bytes :=
    match arrayFromSlice 32 (bytes.drop 1) with
    | some x => scalarFromSlice (coordinateOf.symm x)
    | none => .error "crypto error"
  diffieHellman scalar point := coordinateOf (toRepr (scalar * point))
  signingKeyFromSlice := scalarFromSlice
  verifyingKeyBytes scalar := coordinateOf (toRepr scalar)
  signRaw scalar message _ := .ok (signatureOf (coordinateOf (toRepr scalar)) message)
  verifyingKeyFromSlice x := .ok x
  signatureFromSlice bytes := .ok bytes
  verifyPrehash key message signature := signature = signatureOf key message.toList

def vectorNonce : Vector UInt8 32 := beVector 32 1

attribute [local instance] sampleK256 Reference.sha256 Reference.chaCha20 standardBase64

lemma nostrPublicKey_eq_ok {privateKey publicKey : Vector UInt8 32} :
    nostrPublicKey privateKey = .ok publicKey ↔
      ∃ scalar, scalarFromSlice privateKey = .ok scalar ∧
        coordinateOf (toRepr scalar) = publicKey := by
  unfold nostrPublicKey parseSigningKey
  simp only [except_bind_eq_ok, except_mapError_eq_ok]
  constructor
  · intro h
    obtain ⟨scalar, hs, h⟩ := h
    exact ⟨scalar, hs, Except.ok.inj h⟩
  · intro h
    obtain ⟨scalar, hs, rfl⟩ := h
    exact ⟨scalar, hs, rfl⟩

lemma publicKeyFromSec1Bytes_coordinateOf (scalar : Scalar) :
    NostrK256.publicKeyFromSec1Bytes (2 :: (coordinateOf (toRepr scalar)).toList) =
      (scalarFromSlice (toRepr scalar) : Except String NostrK256.PublicKey) := by
  generalize hx : coordinateOf (toRepr scalar) = x
  have hb : arrayFromSlice 32 ((2 :: x.toList).drop 1) = some x := arrayFromSlice_eq_some.mpr rfl
  simp only [NostrK256.publicKeyFromSec1Bytes, hb]
  rw [← hx, Equiv.symm_apply_apply]

lemma sampleK256_symmetric : EcdhSymmetric := by
  have hs : ∀ privateKey a b, scalarFromSlice privateKey = .ok a →
      scalarFromSlice (toRepr b) = .ok b →
      sharedSecret privateKey (coordinateOf (toRepr b)) = .ok (coordinateOf (toRepr (a * b))) := by
    intro privateKey a b ha hb
    unfold sharedSecret
    simp only [except_bind_eq_ok, except_mapError_eq_ok]
    exact ⟨a, ha, b, (publicKeyFromSec1Bytes_coordinateOf b).trans hb, rfl⟩
  intro privateKey peerPrivateKey publicKey peerPublicKey hp hpr
  obtain ⟨a, ha, rfl⟩ := nostrPublicKey_eq_ok.mp hp
  obtain ⟨b, hb, rfl⟩ := nostrPublicKey_eq_ok.mp hpr
  refine ⟨_, hs _ a b ha (scalarFromSlice_toRepr hb), ?_⟩
  rw [Fin.mul_comm]
  exact hs _ b a hb (scalarFromSlice_toRepr ha)

def vectorPayload : String :=
  "AgAAAAAAAAAAAAAAAAAAAAAAAAAAAAAAAAAAAAAAAAABee0G5VSK0/9YypIObAtDKfYEAjD35uVkHyB0F4Dwrc" ++
    "NaCXlCWZKaArsGrY6M9wnuTMxWfp1RTN9Xga8no+kF5Vsb"

/-- The payload of the vector is read back. -/
theorem vectorPayload_exact :
    encryptWithNonce (beVector 32 1) doubleX "a" vectorNonce = .ok vectorPayload ∧
      decrypt (beVector 32 2) generatorX vectorPayload = .ok "a" := by
  have hpb : nostrPublicKey (beVector 32 1) = .ok generatorX := by decide +kernel
  have hpr : nostrPublicKey (beVector 32 2) = .ok doubleX := by decide +kernel
  have hen : encryptWithNonce (beVector 32 1) doubleX "a" vectorNonce =
      .ok vectorPayload := by decide +kernel
  obtain ⟨payload, hp, hd⟩ := (payload_exact sampleK256_symmetric Reference.chaCha20_xors
    standardBase64_standard).1 _ _ _ _ vectorNonce "a" hpb hpr (by decide) (by decide)
  rw [hen] at hp
  rw [Except.ok.inj hp]
  exact ⟨hen.trans hp, hd⟩

end Sample

end KrustyKms.Nostr.Nip44

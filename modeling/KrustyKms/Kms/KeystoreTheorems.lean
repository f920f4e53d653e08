import KrustyKms.Kms.Keystore
import KrustyKms.Support.Fallible

/-!
# Keystores are read back, and files cannot ask for too much
-/

namespace KrustyKms.Kms

open Codec Support Logged

/-! ## Parameters -/

lemma parseU32KdfParam_toUInt64 (n : UInt32) (field : String) :
    parseU32KdfParam (some n.toUInt64) field = .ok n := by
  have hlt : n.toUInt64.toNat < 2 ^ 32 := n.toNat_lt
  unfold parseU32KdfParam
  dsimp only
  rw [if_pos hlt, UInt32.toUInt32_toUInt64]
  rfl

lemma saturatingMul_le_iff {n r : ℕ} :
    saturatingMul (saturatingMul n r) 128 ≤ scryptMemoryCeilingBytes ↔
      128 * n * r ≤ scryptMemoryCeilingBytes := by
  have hc : 128 * n * r = n * r * 128 := by rw [Nat.mul_assoc, Nat.mul_comm]
  rw [hc]
  unfold saturatingMul scryptMemoryCeilingBytes
  omega

/-- What a run of the key derivation may be started with. -/
structure Bounded (call : ScryptCall) : Prop where
  cost : ∃ n : UInt32, scryptLogN n = .ok call.params.logN ∧ n.toNat = 2 ^ call.params.logN.toNat ∧
    128 * n.toNat * call.params.r.toNat ≤ 256 * 1024 * 1024
  r_le : call.params.r.toNat ≤ 32
  p_le : call.params.p.toNat ≤ 16
  dklen_ge : 32 ≤ call.dklen
  dklen_le : call.dklen ≤ 64
  salt_le : call.salt.length ≤ 128

lemma validateScryptResourceParams_eq_ok {n r p : UInt32} {dklen : ℕ} :
    validateScryptResourceParams n r p dklen = .ok () ↔
      (∃ logN, scryptLogN n = .ok logN) ∧ (1 ≤ r ∧ r ≤ scryptRMax) ∧ (1 ≤ p ∧ p ≤ scryptPMax) ∧
        (scryptDkLenMin ≤ dklen ∧ dklen ≤ scryptDkLenMax) ∧
        128 * n.toNat * r.toNat ≤ scryptMemoryCeilingBytes := by
  rw [← saturatingMul_le_iff]
  unfold validateScryptResourceParams
  simp only [except_bind_eq_ok, except_ite_throw_eq_ok, not_not]
  constructor
  · intro h
    obtain ⟨logN, hl, hr, hp, hd, h⟩ := h
    split_ifs at h with hm
    exact ⟨⟨logN, hl⟩, hr, hp, hd, Nat.not_lt.mp hm⟩
  · intro h
    obtain ⟨⟨logN, hl⟩, hr, hp, hd, hm⟩ := h
    refine ⟨logN, hl, hr, hp, hd, ?_⟩
    rw [if_neg (Nat.not_lt.mpr hm)]
    rfl

lemma Bounded.of_validated {password salt : Bytes} {n r p : UInt32} {dklen : ℕ} {logN : UInt8}
    (hv : validateScryptResourceParams n r p dklen = .ok ()) (hl : scryptLogN n = .ok logN)
    (hs : salt.length ≤ 128) : Bounded ⟨password, salt, ⟨logN, r, p⟩, dklen⟩ := by
  obtain ⟨-, hr, hp, hd, hm⟩ := validateScryptResourceParams_eq_ok.mp hv
  exact
    { cost := ⟨n, hl, (scryptLogN_eq_ok.mp hl).1, hm⟩
      r_le := UInt32.le_iff_toNat_le.mp hr.2
      p_le := UInt32.le_iff_toNat_le.mp hp.2
      dklen_ge := hd.1
      dklen_le := hd.2
      salt_le := hs }

/-! ## Fields -/

section Fields

variable [DecodingErrors]

lemma decodeHexField_encodeBytes (bytes : Bytes) (missing label : String) :
    decodeHexField (.string (encodeBytes bytes)) missing label = .ok bytes := by
  unfold decodeHexField Json.asStr
  dsimp only
  rw [decodeBytes_encodeBytes]

lemma decodeSalt_eq_ok {value : Json} {salt : Bytes} :
    decodeSalt value = .ok salt ↔
      decodeHexField value "salt" "salt" = .ok salt ∧ salt.length ≤ maxKeystoreSaltBytes := by
  unfold decodeSalt
  simp only [except_bind_eq_ok, except_ite_throw_eq_ok, Nat.not_lt]
  constructor
  · intro h
    obtain ⟨other, ho, hle, h⟩ := h
    obtain rfl := Except.ok.inj h
    exact ⟨ho, hle⟩
  · intro h
    exact ⟨salt, h.1, h.2, rfl⟩

end Fields

lemma xnonce_toList (nonce : Vector UInt8 24) : xnonce nonce.toList = .ok nonce := by
  unfold xnonce
  rw [arrayFromSlice_eq_some.mpr rfl]

lemma mnemonicFromUtf8_utf8 [DecodingErrors] (mnemonic : String) :
    mnemonicFromUtf8 (utf8 mnemonic) = .ok mnemonic := by
  unfold mnemonicFromUtf8
  rw [fromUtf8_eq_some.mpr rfl]

/-! ## Files cannot ask for too much -/

section Safety

variable [Scrypt]

lemma newScryptParams_eq {logN : UInt8} {r p : UInt32} {params : ScryptParams}
    (h : newScryptParams logN r p = .ok params) : params = ⟨logN, r, p⟩ := by
  unfold newScryptParams at h
  split at h
  · cases h
  · exact (Except.ok.inj h).symm

lemma scrypt_safe {password salt : Bytes} {params : ScryptParams} {dklen : ℕ}
    (h : Bounded ⟨password, salt, params, dklen⟩) :
    Safe Bounded (fun _ => True) (scrypt password salt params dklen) :=
  safe_bind (safe_call h) fun _ _ => safe_lift fun _ _ => trivial

lemma deriveScryptKey_safe {password salt : Bytes} {n : UInt32}
    (hv : validateScryptResourceParams n 8 1 32 = .ok ()) (hs : salt.length ≤ 128) :
    Safe Bounded (fun _ => True) (deriveScryptKey password salt n) := by
  refine safe_lift_bind fun logN hl => safe_lift_bind fun params hp => ?_
  rw [newScryptParams_eq hp]
  exact scrypt_safe (.of_validated hv hl hs)

variable [DecodingErrors] [SerdeJson] [SerdeJsonErrors]

lemma decryptKeystore_safe [XChaCha20Poly1305] (keystoreJson password : String) :
    Safe Bounded (fun _ => True) (decryptKeystore keystoreJson password) := by
  unfold decryptKeystore
  refine safe_lift_bind fun v _ => safe_lift_bind fun _ _ => safe_lift_bind fun salt hs =>
    safe_lift_bind fun n _ => safe_lift_bind fun _ hv => safe_lift_bind fun nonce _ =>
    safe_lift_bind fun ciphertext _ => safe_lift_bind fun _ _ => ?_
  refine safe_bind (deriveScryptKey_safe hv (decodeSalt_eq_ok.mp hs).2) fun key _ => ?_
  exact safe_lift_bind fun plaintext _ => safe_lift fun _ _ => trivial

omit [Scrypt] [DecodingErrors] [SerdeJson] [SerdeJsonErrors] in
lemma aes128Ctr_completes [Aes128Ctr] {key iv plaintext : Bytes} (hkey : key.length = 16)
    (hiv : iv.length = 16) : (aes128Ctr key iv plaintext).Completes := by
  have ha : ∀ bytes : Bytes, bytes.length = 16 → arrayFromSlice 16 bytes ≠ none := by
    intro bytes hl
    rw [arrayFromSlice, dif_pos hl]
    exact Option.some_ne_none _
  exact MayPanic.completes_bind (MayPanic.completes_orPanic.mpr (ha key hkey)) fun _ _ =>
    MayPanic.completes_bind (MayPanic.completes_orPanic.mpr (ha iv hiv)) fun _ _ =>
      MayPanic.completes_pure

lemma decryptEthersKeystore_safe [Keccak256] [Aes128Ctr] [Target] (keystoreJson password : String) :
    Safe Bounded (fun _ => True) (decryptEthersKeystore keystoreJson password) := by
  unfold decryptEthersKeystore
  refine safe_lift_bind fun v _ => safe_lift_bind fun _ _ => safe_lift_bind fun _ _ =>
    safe_lift_bind fun salt hsl => safe_lift_bind fun n _ => safe_lift_bind fun r _ =>
    safe_lift_bind fun p _ => safe_lift_bind fun dklen _ => safe_lift_bind fun _ hv =>
    safe_lift_bind fun iv _ => safe_lift_bind fun ciphertext _ =>
    safe_lift_bind fun expectedMac _ => safe_ite_throw fun hiv =>
    safe_lift_bind fun logN hl => safe_lift_bind fun params hp => ?_
  rw [newScryptParams_eq hp]
  have hb : Bounded ⟨utf8 password, salt, ⟨logN, r, p⟩, dklen⟩ :=
    .of_validated hv hl (decodeSalt_eq_ok.mp hsl).2
  refine safe_bind (scrypt_safe hb) fun derivedKey _ => ?_
  -- the derived key is long enough for its two halves
  have hs : ∀ lo hi, lo ≤ hi → hi ≤ v3DkLen → (MayPanic.slice derivedKey.toList lo hi :
      MayPanic KmsError Bytes).Returns ((derivedKey.toList.take hi).drop lo) := by
    intro lo hi hlo hhi
    have hln : hi ≤ derivedKey.toList.length := by
      rw [derivedKey.length_toList]
      exact hhi.trans hb.dklen_ge
    exact MayPanic.returns_slice.mpr ⟨⟨hlo, hln⟩, rfl⟩
  refine safe_quiet_bind (hs 0 _ (Nat.zero_le _) (by decide)).completes fun aesKey ha => ?_
  refine safe_quiet_bind (hs _ _ (by decide) le_rfl).completes fun macKey _ => ?_
  refine safe_ite_throw fun _ => ?_
  have hkey : aesKey.length = 16 := by
    obtain ⟨⟨-, hle⟩, rfl⟩ := MayPanic.returns_slice.mp ha
    rw [List.drop_zero, List.length_take_of_le hle]
    rfl
  exact safe_quiet_bind (aes128Ctr_completes hkey (not_not.mp hiv)) fun plaintext _ =>
    safe_pure trivial

end Safety

/-! ## Keystores are read back -/

section RoundTrip

variable [Scrypt] [XChaCha20Poly1305]

lemma encryptKeystore_returns {salt : Vector UInt8 16} {nonce : Vector UInt8 24}
    {mnemonic password keystore : String} {scryptN : UInt32} :
    Returns (encryptKeystore salt nonce mnemonic password scryptN) keystore ↔
      validateScryptResourceParams scryptN 8 1 32 = .ok () ∧
        ∃ key ciphertext,
          Returns (deriveScryptKey (utf8 password) salt.toList scryptN) key ∧
          XChaCha20Poly1305.encrypt key nonce (utf8 mnemonic) = .ok ciphertext ∧
          keystore = (keystoreToJson scryptN salt.toList ⟨nonce.toList, ciphertext⟩).write := by
  unfold encryptKeystore encryptWithKey
  simp only [returns_bind, returns_lift, returns_pure, except_bind_eq_ok, except_mapError_eq_ok]
  constructor
  · intro h
    obtain ⟨_, hv, key, hkey, payload, ⟨ciphertext, hc, hp⟩, h⟩ := h
    obtain rfl := Except.ok.inj hp
    exact ⟨hv, key, ciphertext, hkey, hc, h.symm⟩
  · intro h
    obtain ⟨hv, key, ciphertext, hkey, hc, rfl⟩ := h
    exact ⟨(), hv, key, hkey, _, ⟨ciphertext, hc, rfl⟩, rfl⟩

omit [Scrypt] in
lemma decryptWithKey_payload (ha : AeadInverts) {key : Vector UInt8 32} {nonce : Vector UInt8 24}
    {plaintext ciphertext : Bytes}
    (h : XChaCha20Poly1305.encrypt key nonce plaintext = .ok ciphertext) :
    decryptWithKey ⟨nonce.toList, ciphertext⟩ key = .ok plaintext := by
  unfold decryptWithKey
  simp only [except_bind_eq_ok, except_mapError_eq_ok]
  exact ⟨nonce, xnonce_toList nonce, ha _ _ _ _ h⟩

variable [SerdeJson] [SerdeJsonErrors]

omit [Scrypt] [XChaCha20Poly1305] in
lemma parseKeystore_write (hj : SerdeJson.Exact) (scryptN : UInt32) (salt : Bytes)
    (payload : EncryptedPayload) :
    parseKeystore (keystoreToJson scryptN salt payload).write =
      .ok (keystoreToJson scryptN salt payload) := by
  unfold parseKeystore
  rw [hj _ (by rfl)]

variable [DecodingErrors]

lemma decrypt_encryptKeystore (hj : SerdeJson.Exact) (ha : AeadInverts)
    {salt : Vector UInt8 16} {nonce : Vector UInt8 24} {mnemonic password keystore : String}
    {scryptN : UInt32}
    (h : Returns (encryptKeystore salt nonce mnemonic password scryptN) keystore) :
    Returns (decryptKeystore keystore password) mnemonic := by
  obtain ⟨hv, key, ciphertext, hkey, hc, rfl⟩ := encryptKeystore_returns.mp h
  have hs : decodeSalt (.string (encodeBytes salt.toList)) = .ok salt.toList := by
    refine decodeSalt_eq_ok.mpr ⟨decodeHexField_encodeBytes _ _ _, ?_⟩
    rw [salt.length_toList]
    decide
  unfold decryptKeystore
  simp only [returns_bind, returns_lift]
  exact ⟨_, parseKeystore_write hj _ _ _, (), rfl, salt.toList, hs, scryptN,
    parseU32KdfParam_toUInt64 scryptN "n", (), hv, nonce.toList,
    decodeHexField_encodeBytes _ _ _, ciphertext, decodeHexField_encodeBytes _ _ _, nonce,
    xnonce_toList nonce, key, hkey, utf8 mnemonic, decryptWithKey_payload ha hc,
    mnemonicFromUtf8_utf8 mnemonic⟩

/-- **Keystores are exact and bounded.** What is encrypted is decrypted with the same password.
Whatever the document and the password, both readers start the key derivation only with bounded
parameters, and end without a panic. -/
theorem keystore_exact [Keccak256] [Aes128Ctr] [Target] (hjson : SerdeJson.Exact)
    (haead : AeadInverts) :
    (∀ (salt : Vector UInt8 16) (nonce : Vector UInt8 24) (mnemonic password keystore : String)
        (scryptN : UInt32),
      Returns (encryptKeystore salt nonce mnemonic password scryptN) keystore →
      Returns (decryptKeystore keystore password) mnemonic) ∧
    ∀ keystore password : String,
      ((∀ call ∈ (decryptKeystore keystore password).calls, Bounded call) ∧
        (decryptKeystore keystore password).outcome.Completes) ∧
      (∀ call ∈ (decryptEthersKeystore keystore password).calls, Bounded call) ∧
        (decryptEthersKeystore keystore password).outcome.Completes := by
  refine ⟨fun _ _ _ _ _ _ h => decrypt_encryptKeystore hjson haead h, ?_⟩
  intro keystore password
  have hn := decryptKeystore_safe keystore password
  have het := decryptEthersKeystore_safe keystore password
  exact ⟨⟨hn.calls, hn.completes⟩, het.calls, het.completes⟩

end RoundTrip

/-! ## Two files with one password -/

section Sample

def derivedKey : ℕ := 0xbe6e92929060bf79e4a6dfce11f58d1040afdfd39f59c56d75ddd59ecfdd648f

/-- scrypt at the password and the salt of the files. -/
@[reducible] def sampleScrypt : Scrypt where
  invalidParams _ := none
  derive password salt params dklen :=
    if password = utf8 "hunter2" ∧ salt = beBytes 16 7 ∧ params = ⟨10, 8, 1⟩ ∧ dklen = 32 then
      .ok (beVector dklen derivedKey)
    else .error "invalid output length"

def sampleBox : SealedBox where
  key := beVector 32 derivedKey
  nonce := beVector 24 9
  plaintext := utf8 "abandon about"
  ciphertext := beBytes 29 0xb13af74445294d8e7acc03de26cc15e71fa384fba147f953112a6b58e0

def ethersCiphertext : Bytes :=
  beBytes 32 0xcf880e055a590464a553b790d6d43fe4a6ceee3366c5b27d8024fe4b50729404

def ethersMac : ℕ := 0x874863ac4a3c42e0a456617af59700817f7198cb6c1636b30748f2a49cd1be8a

/-- A file of ethers.js for the private key 1. -/
def ethersFile : Json := .object [
  ("version", .posInt 3),
  ("crypto", .object [
    ("cipher", .string "aes-128-ctr"),
    ("cipherparams", .object [("iv", .string (encodeBytes (beBytes 16 3)))]),
    ("ciphertext", .string (encodeBytes ethersCiphertext)),
    ("kdf", .string "scrypt"),
    ("kdfparams", .object [
      ("dklen", .posInt 32), ("n", .posInt 1024), ("p", .posInt 1), ("r", .posInt 8),
      ("salt", .string (encodeBytes (beBytes 16 7)))]),
    ("mac", .string (encodeBytes (beBytes 32 ethersMac)))])]

@[reducible] def sampleKeccak256 : Keccak256 :=
  tableKeccak256 [((beBytes 32 derivedKey).drop 16 ++ ethersCiphertext, ethersMac)]

@[reducible] def sampleAes128Ctr : Aes128Ctr where
  applyKeystream key iv data :=
    if key.toList = (beBytes 32 derivedKey).take 16 ∧ iv = beVector 16 3 ∧
        data = ethersCiphertext then beBytes 32 1
    else data

@[reducible] def sampleDecodingErrors : DecodingErrors :=
  ⟨fun _ => "Odd number of digits", fun _ => "invalid utf-8 sequence"⟩

@[reducible] def sampleAead : XChaCha20Poly1305 := tableXChaCha20Poly1305 [sampleBox]

attribute [local instance] sampleScrypt sampleAead sampleDecodingErrors compactErrors
  sampleKeccak256 sampleAes128Ctr compactReader target64

lemma sampleAead_inverts : AeadInverts := by
  intro key nonce plaintext ciphertext h
  simp only [XChaCha20Poly1305.encrypt, List.find?_singleton] at h
  split_ifs at h with hbox
  obtain ⟨rfl, rfl, rfl⟩ := of_decide_eq_true hbox
  obtain rfl := Except.ok.inj h
  simp [XChaCha20Poly1305.decrypt]

/-- A mnemonic at the least cost is read back, and the reader of the other format does not panic
on a file of its own. -/
theorem sampleKeystore_read :
    ∃ keystore, Returns (encryptKeystore (beVector 16 7) (beVector 24 9) "abandon about" "hunter2"
        1024) keystore ∧
      Returns (decryptKeystore keystore "hunter2") "abandon about" ∧
      (decryptEthersKeystore ethersFile.write "hunter2").outcome.Completes := by
  have hparams : validateScryptResourceParams 1024 8 1 32 = .ok () := by decide +kernel
  have hkey : Returns (deriveScryptKey (utf8 "hunter2") (beVector 16 7).toList 1024)
      (beVector 32 derivedKey) := by
    unfold deriveScryptKey scrypt
    simp only [returns_bind, returns_lift]
    exact ⟨10, by decide +kernel, _, rfl, (), returns_call, by decide +kernel⟩
  have hbox : sampleAead.encrypt (beVector 32 derivedKey) (beVector 24 9)
      (utf8 "abandon about") = .ok sampleBox.ciphertext := by decide +kernel
  have hexact := keystore_exact compactReader_exact sampleAead_inverts
  have hwritten := encryptKeystore_returns.mpr ⟨hparams, _, _, hkey, hbox, rfl⟩
  exact ⟨_, hwritten, hexact.1 _ _ _ _ _ _ hwritten, (hexact.2 _ _).2.2⟩

end Sample

end KrustyKms.Kms

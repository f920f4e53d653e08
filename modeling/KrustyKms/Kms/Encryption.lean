import KrustyKms.Common.Crates
import KrustyKms.Support.Logged

/-!
# Payload encryption with a key derived by scrypt

The runs of the key derivation are logged, so that what they are started with can be stated also
of a run that fails afterwards.
-/

namespace KrustyKms.Kms

open Support

structure ScryptParams where
  logN : UInt8
  r : UInt32
  p : UInt32
deriving DecidableEq, Repr

structure ScryptCall where
  password : Bytes
  salt : Bytes
  params : ScryptParams
  dklen : ℕ
deriving DecidableEq, Repr

/-- The `scrypt` crate; an error is its text. -/
class Scrypt where
  /-- Why `Params::new` refuses parameters. -/
  invalidParams : ScryptParams → Option String
  /-- `scrypt(password, salt, params, output)` fills the output. -/
  derive : Bytes → Bytes → ScryptParams → (dklen : ℕ) → Except String (Vector UInt8 dklen)

/-- A run that derives keys. -/
abbrev Deriving := Logged ScryptCall KmsError

/-! ## The cost -/

def scryptNMin : UInt32 := (1 : UInt32) <<< 10

def scryptNMax : UInt32 := (1 : UInt32) <<< 20

def isPowerOfTwo (n : UInt32) : Bool := decide (∃ k < 32, n.toNat = 2 ^ k)

def trailingZeros (n : UInt32) : ℕ :=
  ((List.range 32).find? fun i => n.toNat.testBit i).getD 32

def scryptLogN (n : UInt32) : Result UInt8 :=
  if ¬ (scryptNMin ≤ n ∧ n ≤ scryptNMax) ∨ ¬ isPowerOfTwo n then
    .error (.cryptoError
      s!"Invalid scrypt N={n}: must be a power of 2 in [{scryptNMin}, {scryptNMax}]")
  else .ok (UInt8.ofNat (trailingZeros n))

lemma trailingZeros_of_eq {n : UInt32} {k : ℕ} (h : n.toNat = 2 ^ k) : trailingZeros n = k := by
  have hk : k < 32 := by
    have hlt := n.toNat_lt
    rw [h] at hlt
    exact (Nat.pow_lt_pow_iff_right (by decide)).mp hlt
  have hf : ((List.range 32).find? fun i => n.toNat.testBit i) = some k := by
    rw [List.find?_range_eq_some, h]
    refine ⟨by simp, List.mem_range.mpr hk, ?_⟩
    intro j hj
    rw [Nat.testBit_two_pow, decide_eq_false (by omega)]
    rfl
  rw [trailingZeros, hf]
  rfl

lemma scryptLogN_eq_ok {n : UInt32} {logN : UInt8} :
    scryptLogN n = .ok logN ↔
      n.toNat = 2 ^ logN.toNat ∧ 10 ≤ logN.toNat ∧ logN.toNat ≤ 20 := by
  have hr : ∀ k, n.toNat = 2 ^ k →
      ((scryptNMin ≤ n ∧ n ≤ scryptNMax) ↔ 10 ≤ k ∧ k ≤ 20) := by
    intro k hk
    rw [UInt32.le_iff_toNat_le, UInt32.le_iff_toNat_le, hk]
    show 2 ^ 10 ≤ 2 ^ k ∧ 2 ^ k ≤ 2 ^ 20 ↔ _
    rw [Nat.pow_le_pow_iff_right (by decide), Nat.pow_le_pow_iff_right (by decide)]
  unfold scryptLogN
  constructor
  · intro h
    split_ifs at h with hrf
    rw [not_or, not_not, not_not] at hrf
    obtain ⟨hb, hp⟩ := hrf
    obtain ⟨k, hk, hn⟩ := of_decide_eq_true hp
    obtain rfl := Except.ok.inj h
    rw [trailingZeros_of_eq hn, UInt8.toNat_ofNat_of_lt' (hk.trans (by decide))]
    exact ⟨hn, (hr k hn).mp hb⟩
  · intro h
    obtain ⟨hn, hb⟩ := h
    have hp : isPowerOfTwo n = true := decide_eq_true ⟨logN.toNat, by omega, hn⟩
    rw [if_neg, trailingZeros_of_eq hn, UInt8.ofNat_toNat]
    rw [not_or, not_not, not_not]
    exact ⟨(hr _ hn).mpr hb, hp⟩

/-! ## The key -/

section Derivation

variable [Scrypt]

def newScryptParams (logN : UInt8) (r p : UInt32) : Result ScryptParams :=
  match Scrypt.invalidParams ⟨logN, r, p⟩ with
  | some error => .error (.cryptoError s!"Invalid scrypt params: {error}")
  | none => .ok ⟨logN, r, p⟩

def scrypt (password salt : Bytes) (params : ScryptParams) (dklen : ℕ) :
    Deriving (Vector UInt8 dklen) := do
  Logged.call ⟨password, salt, params, dklen⟩
  (Scrypt.derive password salt params dklen).mapError fun error =>
    KmsError.cryptoError s!"Scrypt KDF failed: {error}"

def deriveScryptKey (password kdfSalt : Bytes) (n : UInt32) : Deriving (Vector UInt8 32) := do
  let logN ← scryptLogN n
  let params ← newScryptParams logN 8 1
  scrypt password kdfSalt params 32

end Derivation

/-! ## The cipher -/

structure EncryptedPayload where
  nonce : Bytes
  ciphertext : Bytes

def xnonceLen : ℕ := 24

def xnonce (nonce : Bytes) : Result (Vector UInt8 24) :=
  match arrayFromSlice 24 nonce with
  | some nonce => .ok nonce
  | none => .error (.deserializationError
      s!"Invalid nonce length: expected {xnonceLen} bytes, got {nonce.length}")

variable [XChaCha20Poly1305]

def encryptWithKey (nonceBytes : Vector UInt8 24) (plaintext : Bytes) (key : Vector UInt8 32) :
    Result EncryptedPayload := do
  let ciphertext ← (XChaCha20Poly1305.encrypt key nonceBytes plaintext).mapError fun error =>
    KmsError.cryptoError s!"Encryption failed: {error}"
  pure { nonce := nonceBytes.toList, ciphertext }

def decryptWithKey (payload : EncryptedPayload) (key : Vector UInt8 32) : Result Bytes := do
  let nonce ← xnonce payload.nonce
  (XChaCha20Poly1305.decrypt key nonce payload.ciphertext).mapError fun error =>
    KmsError.cryptoError s!"Decryption failed: {error}"

def AeadInverts : Prop :=
  ∀ key nonce plaintext ciphertext, XChaCha20Poly1305.encrypt key nonce plaintext = .ok ciphertext →
    XChaCha20Poly1305.decrypt key nonce ciphertext = .ok plaintext

end KrustyKms.Kms

import Mathlib.Algebra.Ring.Nat
import Mathlib.Data.Nat.Notation
import Mathlib.Tactic.SplitIfs
import Mathlib.Tactic.Lemma

/-!
# What every crate shares: errors, byte strings and the target's word size

`KmsError` is the workspace's error type; `Result` is its `Result` alias.
-/

namespace KrustyKms

abbrev Bytes := List UInt8

/-- A `u128` is a number below `2 ^ 128`. -/
instance neZeroU128 : NeZero (2 ^ 128) := ⟨by decide⟩

/-- The bytes of a text. -/
def utf8 (text : String) : Bytes := text.toUTF8.data.toList

lemma utf8_append (front back : String) : utf8 (front ++ back) = utf8 front ++ utf8 back := by
  unfold utf8
  rw [← Array.toList_append, ← ByteArray.data_append]
  rfl

lemma length_utf8 (text : String) : (utf8 text).length = text.utf8ByteSize := rfl

lemma utf8_injective : Function.Injective utf8 := by
  intro s t h
  have hd : s.toUTF8.data = t.toUTF8.data := Array.toList_inj.mp h
  exact String.toByteArray_inj.mp (ByteArray.ext hd)

lemma utf8_eq_flatMap (text : String) : utf8 text = text.toList.flatMap String.utf8EncodeChar := by
  unfold utf8
  conv => lhs; rw [← String.ofList_toList (s := text)]
  rw [String.toUTF8_eq_toByteArray, String.toByteArray_ofList, List.utf8Encode,
    List.data_toByteArray]

/-- The code of an ASCII character occurs in the encoding of that character only. -/
lemma toNat_of_mem_utf8EncodeChar {c : Char} {byte : UInt8} (hbyte : byte.toNat < 128)
    (h : byte ∈ String.utf8EncodeChar c) : c.toNat = byte.toNat := by
  unfold String.utf8EncodeChar at h
  dsimp only at h
  change c.val.toNat = byte.toNat
  split_ifs at h <;>
    simp only [List.mem_cons, List.not_mem_nil, or_false, ← UInt8.toNat_inj,
      UInt8.toNat_ofNat'] at h <;>
    omega

lemma mem_toList_of_mem_utf8 {text : String} {c : Char} (hc : c.toNat < 128)
    (h : UInt8.ofNat c.toNat ∈ utf8 text) : c ∈ text.toList := by
  rw [utf8_eq_flatMap, List.mem_flatMap] at h
  obtain ⟨other, hmem, hbyte⟩ := h
  have hcode : (UInt8.ofNat c.toNat).toNat = c.toNat := by
    rw [UInt8.toNat_ofNat']
    omega
  have heq := toNat_of_mem_utf8EncodeChar (by rwa [hcode]) hbyte
  rw [hcode] at heq
  rwa [← Char.toNat_inj.mp heq]

def fromUtf8 (bytes : Bytes) : Option String := String.fromUTF8? ⟨bytes.toArray⟩

lemma fromUtf8_eq_some {bytes : Bytes} {text : String} :
    fromUtf8 bytes = some text ↔ bytes = utf8 text := by
  unfold fromUtf8 String.fromUTF8? utf8
  constructor
  · intro h
    split_ifs at h with hv
    rw [← Option.some.inj h]
    rfl
  · intro h
    subst h
    exact dif_pos text.isValidUTF8

def arrayFromSlice (n : ℕ) (bytes : Bytes) : Option (Vector UInt8 n) :=
  if h : bytes.length = n then some ⟨bytes.toArray, h⟩ else none

lemma arrayFromSlice_eq_some {n : ℕ} {bytes : Bytes} {array : Vector UInt8 n} :
    arrayFromSlice n bytes = some array ↔ bytes = array.toList := by
  unfold arrayFromSlice
  constructor
  · intro h
    split_ifs at h with hl
    rw [← Option.some.inj h]
    rfl
  · intro h
    subst h
    rw [dif_pos array.length_toList]
    rfl

lemma size_toArray_of_length {α : Type} {xs : List α} {n : ℕ} (h : xs.length = n) :
    xs.toArray.size = n := by
  simpa using h

/-- A `Vec`: its length is a `usize`, and so a `u64`. -/
abbrev Vec (α : Type) := {xs : List α // xs.length < 2 ^ 64}

/-- The errors of the workspace. The two variants that wrap an error of another
crate carry its text. -/
inductive KmsError where
  | invalidPublicKey (reason : String)
  | invalidPrivateKey (reason : String)
  | invalidMnemonic (reason : String)
  | cryptoError (reason : String)
  | serializationError (reason : String)
  | deserializationError (reason : String)
  | invalidAmount (reason : String)
  | insufficientBalance
  | invalidDerivationPath (reason : String)
  | hexError (reason : String)
  | jsonError (reason : String)
  | starknetCryptoError (reason : String)
  | pointAtInfinity
  | invalidProof (reason : String)
  | rpcError (reason : String)
  | accountNotDeployed (reason : String)
  | alreadyDeployed (reason : String)
  | insufficientFeeBalance (reason : String)
  | invalidClassHash (reason : String)
  | contractNotFound (reason : String)
  | transactionError (reason : String)
  | transactionReverted (reason : String)
  | feeEstimationFailed (reason : String)
  | timeout (reason : String)
  | stakingError (reason : String)
  | multisigError (reason : String)
  | controllerError (reason : String)
deriving DecidableEq, Repr

abbrev Result (α : Type) := Except KmsError α

/-- A build target, by the width of its `usize`. -/
class Target where
  usizeBits : ℕ
  usizeBits_ge : 32 ≤ usizeBits
  usizeBits_le : usizeBits ≤ 64

/-- The targets with 64-bit words. -/
@[reducible] def target64 : Target := ⟨64, by decide, by decide⟩

def usizeMax [Target] : ℕ := 2 ^ Target.usizeBits - 1

def usizeTryFrom [Target] (n : ℕ) : Option ℕ :=
  if n ≤ usizeMax then some n else none

def checkedAdd [Target] (n m : ℕ) : Option ℕ :=
  if n + m ≤ usizeMax then some (n + m) else none

def checkedMul [Target] (n m : ℕ) : Option ℕ :=
  if n * m ≤ usizeMax then some (n * m) else none

lemma usizeMax_lt [Target] : usizeMax < 2 ^ 64 := by
  have hpow : 2 ^ Target.usizeBits ≤ 2 ^ 64 :=
    Nat.pow_le_pow_right (by decide) Target.usizeBits_le
  have hpos : 0 < 2 ^ Target.usizeBits := Nat.two_pow_pos _
  unfold usizeMax
  omega

lemma toNat_ofNat_of_le_usizeMax [Target] {n : ℕ} (h : n ≤ usizeMax) : (UInt64.ofNat n).toNat = n :=
  UInt64.toNat_ofNat_of_lt' (Nat.lt_of_le_of_lt h usizeMax_lt)

lemma le_usizeMax [Target] {n : ℕ} (h : n < 2 ^ 32) : n ≤ usizeMax := by
  have hpow : 2 ^ 32 ≤ 2 ^ Target.usizeBits :=
    Nat.pow_le_pow_right (by decide) Target.usizeBits_ge
  unfold usizeMax
  omega

lemma usizeTryFrom_eq_some [Target] {n m : ℕ} :
    usizeTryFrom n = some m ↔ n = m ∧ n ≤ usizeMax := by
  unfold usizeTryFrom
  split_ifs with h
  · simp [h]
  · simp [h]

lemma usizeTryFrom_uint32 [Target] (n : UInt32) : usizeTryFrom n.toNat = some n.toNat :=
  usizeTryFrom_eq_some.mpr ⟨rfl, le_usizeMax n.toNat_lt⟩

end KrustyKms

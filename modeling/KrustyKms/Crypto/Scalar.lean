import KrustyKms.Codec.Endian
import KrustyKms.Common.Basic
import KrustyKms.Crypto.Order

/-!
# Scalar arithmetic modulo the curve order

A `Felt` is an integer modulo the field prime. Scalars travel as `Felt`s too, and
are reduced modulo the curve order by every operation on them; a `Felt` that is not
below the order is a scalar like any other.
-/

namespace KrustyKms.Crypto

open Codec

abbrev Felt := ZMod fieldPrime

/-- A numeral of a residue ring is the residue of the number. -/
instance residueNumeral (m n : ℕ) : OfNat (ZMod m) (n + 2) := ⟨((n + 2 : ℕ) : ZMod m)⟩

/-- `Felt::to_bytes_be` -/
def Felt.toBytesBe (value : Felt) : Vector UInt8 32 := beVector 32 value.val

def Felt.fromBytesBe (bytes : Vector UInt8 32) : Felt := (beValue bytes.toList : ℕ)

def Felt.fromBytesBeSlice (bytes : Bytes) : Felt := (beValue bytes : ℕ)

lemma natCast_injective {a b : ℕ} (ha : a < fieldPrime) (hb : b < fieldPrime)
    (h : (a : Felt) = (b : Felt)) : a = b := by
  rwa [ZMod.natCast_eq_natCast_iff', Nat.mod_eq_of_lt ha, Nat.mod_eq_of_lt hb] at h

lemma natCast_length_injective {n m : ℕ} (hn : n < 2 ^ 64) (hm : m < 2 ^ 64)
    (h : (((UInt64.ofNat n).toNat : ℕ) : Felt) = ((UInt64.ofNat m).toNat : ℕ)) : n = m := by
  have hs : 2 ^ 64 < fieldPrime := by decide
  rw [UInt64.toNat_ofNat_of_lt' hn, UInt64.toNat_ofNat_of_lt' hm] at h
  exact natCast_injective (by omega) (by omega) h

/-- A Montgomery residue modulo the curve order. -/
abbrev OrderResidue := ZMod curveOrder

def residueFromFelt (value : Felt) : OrderResidue := (beValue (Felt.toBytesBe value).toList : ℕ)

def feltFromResidue (residue : OrderResidue) : Felt := Felt.fromBytesBe (beVector 32 residue.val)

def scalarAdd (a b : Felt) : Result Felt :=
  .ok (feltFromResidue (residueFromFelt a + residueFromFelt b))

def scalarSub (a b : Felt) : Result Felt :=
  .ok (feltFromResidue (residueFromFelt a - residueFromFelt b))

def scalarMul (a b : Felt) : Result Felt :=
  .ok (feltFromResidue (residueFromFelt a * residueFromFelt b))

def reduceScalar (a : Felt) : Result Felt := .ok (feltFromResidue (residueFromFelt a))

/-! ## Residues -/

lemma beValue_toBytesBe (value : Felt) : beValue (Felt.toBytesBe value).toList = value.val := by
  have hlt := ZMod.val_lt value
  have hs := fieldPrime_lt
  rw [Felt.toBytesBe, toList_beVector, beValue_beBytes_of_lt (by omega)]

lemma fromBytesBe_toBytesBe (value : Felt) : Felt.fromBytesBe (Felt.toBytesBe value) = value := by
  rw [Felt.fromBytesBe, beValue_toBytesBe, ZMod.natCast_zmod_val]

lemma toList_toBytesBe (felt : Felt) {k m : ℕ} (h : k + m = 32) :
    (Felt.toBytesBe felt).toList = beBytes k (felt.val / 256 ^ m) ++ beBytes m felt.val := by
  rw [Felt.toBytesBe, toList_beVector, ← h, beBytes_add]

lemma forall_take_toBytesBe (felt : Felt) {k m : ℕ} (h : k + m = 32) :
    (∀ b ∈ (Felt.toBytesBe felt).toList.take k, b = 0) ↔ felt.val < 256 ^ m := by
  have hval : felt.val < 256 ^ m * 256 ^ k := by
    rw [← pow_add, Nat.add_comm, h]
    exact Nat.lt_trans (ZMod.val_lt felt) fieldPrime_lt
  have hdiv : felt.val / 256 ^ m < 256 ^ k := Nat.div_lt_of_lt_mul hval
  rw [toList_toBytesBe felt h, List.take_left' (length_beBytes k _), forall_beBytes_eq_zero hdiv]
  exact Nat.div_eq_zero_iff_lt (Nat.pow_pos (by decide))

lemma residueFromFelt_eq (value : Felt) : residueFromFelt value = (value.val : OrderResidue) := by
  rw [residueFromFelt, beValue_toBytesBe]

lemma residueFromFelt_natCast {n : ℕ} (h : n < fieldPrime) :
    residueFromFelt (n : Felt) = (n : OrderResidue) := by
  rw [residueFromFelt_eq, ZMod.val_natCast_of_lt h]

@[simp] lemma residueFromFelt_zero : residueFromFelt 0 = 0 := by
  rw [residueFromFelt_eq, ZMod.val_zero, Nat.cast_zero]

lemma residueFromFelt_eq_iff (a b : Felt) :
    residueFromFelt a = residueFromFelt b ↔ a.val % curveOrder = b.val % curveOrder := by
  rw [residueFromFelt_eq, residueFromFelt_eq, ZMod.natCast_eq_natCast_iff']

@[simp] lemma residueFromFelt_feltFromResidue (residue : OrderResidue) :
    residueFromFelt (feltFromResidue residue) = residue := by
  have hlt := ZMod.val_lt residue
  have ho := curveOrder_lt_fieldPrime
  have hs := fieldPrime_lt
  rw [feltFromResidue, Felt.fromBytesBe, toList_beVector, beValue_beBytes_of_lt (by omega),
    residueFromFelt_natCast (by omega), ZMod.natCast_zmod_val]

lemma feltFromResidue_eq_zero {residue : OrderResidue} :
    feltFromResidue residue = 0 ↔ residue = 0 := by
  constructor
  · intro h
    rw [← residueFromFelt_feltFromResidue residue, h, residueFromFelt_zero]
  · intro h
    rw [h]
    decide +kernel

/-! ## What the operations compute -/

lemma residue_of_scalarAdd {a b c : Felt} (h : scalarAdd a b = .ok c) :
    residueFromFelt c = residueFromFelt a + residueFromFelt b := by
  rw [scalarAdd, Except.ok.injEq] at h
  rw [← h, residueFromFelt_feltFromResidue]

lemma residue_of_scalarSub {a b c : Felt} (h : scalarSub a b = .ok c) :
    residueFromFelt c = residueFromFelt a - residueFromFelt b := by
  rw [scalarSub, Except.ok.injEq] at h
  rw [← h, residueFromFelt_feltFromResidue]

lemma residue_of_scalarMul {a b c : Felt} (h : scalarMul a b = .ok c) :
    residueFromFelt c = residueFromFelt a * residueFromFelt b := by
  rw [scalarMul, Except.ok.injEq] at h
  rw [← h, residueFromFelt_feltFromResidue]

def answer (nonce c secret : Felt) : Felt :=
  feltFromResidue (residueFromFelt nonce + residueFromFelt c * residueFromFelt secret)

lemma residueFromFelt_answer (nonce c secret : Felt) :
    residueFromFelt (answer nonce c secret) =
      residueFromFelt nonce + residueFromFelt c * residueFromFelt secret :=
  residueFromFelt_feltFromResidue _

lemma scalarAdd_eq_answer {nonce c secret product s : Felt}
    (hp : scalarMul c secret = .ok product) :
    scalarAdd nonce product = .ok s ↔ s = answer nonce c secret := by
  rw [scalarAdd, residue_of_scalarMul hp, answer, Except.ok.injEq, eq_comm]

lemma exists_scalarAdd_scalarMul {nonce c secret : Felt} {p : Felt → Prop} :
    (∃ product, scalarMul c secret = .ok product ∧ ∃ s, scalarAdd nonce product = .ok s ∧ p s) ↔
      p (answer nonce c secret) := by
  constructor
  · intro h
    obtain ⟨product, hp, s, hs, h⟩ := h
    rwa [← (scalarAdd_eq_answer hp).mp hs]
  · intro h
    exact ⟨_, rfl, _, (scalarAdd_eq_answer rfl).mpr rfl, h⟩

/-! ## Options in calldata -/

def serializeCairoSome (data : List Felt) : List Felt := 0 :: data

def serializeCairoNone : List Felt := [1]

end KrustyKms.Crypto

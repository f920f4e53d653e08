import KrustyKms.Crypto.Curve
import KrustyKms.Support.Fallible
import Mathlib.Algebra.Module.ZMod
import Mathlib.GroupTheory.OrderOfElement

/-!
# What the curve operations compute

Scalars act on points through their residues (`mul_eq_smul`); the conversions to
affine coordinates fail at the identity and nowhere else, and the points they give
are converted back.
-/

namespace KrustyKms.Crypto

open Codec Arithmetic Support StarkCurve

variable {Point : Type} [CurvePoint Point]

/-! ## Coordinates -/

variable {P : Point} {a : AffinePoint Point} {s : SerializablePoint}

lemma toAffine_eq_some :
    toAffine P = some a ↔ affineToProjective a = P := by
  have hc : toAffine P = some a ↔ CurvePoint.coordinates P = some (a.x, a.y) := by
    unfold toAffine
    split
    · rename_i x y hxy
      constructor
      · intro h
        injection h with h
        rw [← h]
        exact hxy
      · intro h
        have heq := hxy.symm.trans h
        simp only [Option.some.injEq, Prod.mk.injEq] at heq
        simp [heq]
    · rename_i hn
      rw [hn]
      simp
  rw [hc, CurvePoint.coordinates_eq_some]
  rw [Option.eq_some_iff_get_eq]
  exact ⟨fun ⟨_, h⟩ => h, fun h => ⟨a.onCurve, h⟩⟩

lemma toAffine_eq_none : toAffine P = none ↔ P = 0 := by
  rw [← CurvePoint.coordinates_eq_none P]
  unfold toAffine
  split
  · rename_i hxy
    simp [hxy]
  · rename_i hn
    simp [hn]

lemma affineToProjective_ne_zero (a : AffinePoint Point) : affineToProjective a ≠ 0 := by
  intro h
  have hs := toAffine_eq_some.mpr h
  rw [toAffine_eq_none.mpr rfl] at hs
  exact absurd hs (by simp)

lemma projectiveToAffine_eq_ok :
    projectiveToAffine P = .ok a ↔ affineToProjective a = P := by
  rw [← toAffine_eq_some]
  unfold projectiveToAffine
  cases toAffine P with
  | none => simp
  | some b => simp

lemma exists_affine (h : P ≠ 0) :
    ∃ a : AffinePoint Point, affineToProjective a = P := by
  cases ha : toAffine P with
  | none => exact absurd (toAffine_eq_none.mp ha) h
  | some a => exact ⟨a, toAffine_eq_some.mp ha⟩

lemma AffinePoint.new_eq_ok {x y : Felt} :
    AffinePoint.new x y = .ok a ↔ a.x = x ∧ a.y = y := by
  unfold AffinePoint.new
  obtain ⟨ax, ay, ho⟩ := a
  split_ifs with h
  · simp only [Except.ok.injEq, AffinePoint.mk.injEq]
    constructor
    · intro heq
      exact ⟨heq.1.symm, heq.2.symm⟩
    · intro heq
      exact ⟨heq.1.symm, heq.2.symm⟩
  · -- the coordinates of `a` are on the curve, those refused are not
    simp only [false_iff]
    intro heq
    obtain ⟨rfl, rfl⟩ := heq
    exact h ho

lemma tryFromProjective_eq_ok :
    SerializablePoint.tryFromProjective P = .ok s ↔
      ∃ a : AffinePoint Point, affineToProjective a = P ∧ s = ⟨a.x, a.y⟩ := by
  unfold SerializablePoint.tryFromProjective SerializablePoint.fromAffine
  cases ha : toAffine P with
  | none =>
    simp only [reduceCtorEq, false_iff]
    intro h
    obtain ⟨a, h, -⟩ := h
    rw [toAffine_eq_some.mpr h] at ha
    exact absurd ha (by simp)
  | some a =>
    simp only [Except.ok.injEq]
    constructor
    · intro h
      subst h
      exact ⟨a, toAffine_eq_some.mp ha, rfl⟩
    · intro h
      obtain ⟨b, hb, rfl⟩ := h
      rw [toAffine_eq_some.mpr hb, Option.some.injEq] at ha
      rw [ha]

lemma SerializablePoint.toAffine_eq_ok :
    s.toAffine = .ok a ↔ s = ⟨a.x, a.y⟩ := by
  have hnew : AffinePoint.new s.x s.y = .ok a ↔ s = ⟨a.x, a.y⟩ := by
    rw [AffinePoint.new_eq_ok, SerializablePoint.mk.injEq, eq_comm, @eq_comm _ a.y]
  rw [← hnew]
  unfold SerializablePoint.toAffine
  cases (AffinePoint.new s.x s.y : Except String (AffinePoint Point)) with
  | error e => simp
  | ok b => simp

lemma toAffine_of_tryFromProjective (h : SerializablePoint.tryFromProjective P = .ok s) :
    ∃ a : AffinePoint Point, s.toAffine = .ok a ∧ affineToProjective a = P := by
  obtain ⟨a, ha, rfl⟩ := tryFromProjective_eq_ok.mp h
  exact ⟨a, SerializablePoint.toAffine_eq_ok.mpr rfl, ha⟩

lemma exists_negated (a : AffinePoint Point) :
    ∃ b : AffinePoint Point, AffinePoint.new a.x (-a.y) = .ok b ∧
      affineToProjective b = -affineToProjective a := by
  have ha : CurvePoint.coordinates (affineToProjective a) = some (a.x, a.y) :=
    (CurvePoint.coordinates_eq_some _ _ _).mpr (by simp [affineToProjective])
  have hneg := (CurvePoint.coordinates_eq_some _ _ _).mp (CurvePoint.coordinates_neg _ _ _ ha)
  refine ⟨⟨a.x, -a.y, by rw [hneg]; rfl⟩, AffinePoint.new_eq_ok.mpr ⟨rfl, rfl⟩, ?_⟩
  simp [affineToProjective, hneg]

lemma isInfinity_eq_true : isInfinity P = true ↔ P = 0 := by
  rw [isInfinity, Option.isNone_iff_eq_none, toAffine_eq_none]

/-! ## Scalar multiplication -/

-- the order of the group kills every point, so scalars act through their residues
instance (priority := low) : Module OrderResidue Point :=
  AddCommGroup.zmodModule fun P => by
    have hcard : Nat.card Point = curveOrder := CurvePoint.card_eq
    rw [← hcard]
    exact card_nsmul_eq_zero'

lemma ctSelectPoint_eq (choice : Bool) (a b : Point) :
    ctSelectPoint choice a b = if choice then a else b := by
  unfold ctSelectPoint
  simp only [new_selectedXyz, Option.get_some]

/-- The bits of a byte, the lowest first. -/
def byteBitsLe (byte : UInt8) : List Bool :=
  (List.range 8).map fun i => (byte >>> UInt8.ofNat i) &&& 1 == 1

lemma binarySum_byteBitsLe (byte : UInt8) :
    binarySum ((byteBitsLe byte).map Bool.toNat) = byte.toNat := by
  rw [← binarySum_digits byte.toNat 8 byte.toNat_lt, byteBitsLe, List.map_map]
  congr 1
  apply List.map_congr_left
  intro i hi
  have hi : i < 8 := List.mem_range.mp hi
  show ((byte >>> UInt8.ofNat i) &&& 1 == 1).toNat = byte.toNat / 2 ^ i % 2
  have hbit : ((byte >>> UInt8.ofNat i) &&& 1).toNat = byte.toNat / 2 ^ i % 2 := by
    rw [UInt8.toNat_and, UInt8.toNat_shiftRight, UInt8.toNat_ofNat', Nat.shiftRight_eq_div_pow]
    rw [show i % 2 ^ 8 % 8 = i by omega]
    exact Nat.and_one_is_mod _
  rw [← hbit]
  generalize (byte >>> UInt8.ofNat i) &&& 1 = bit at hbit
  by_cases hone : bit = 1
  · rw [hone]
    rfl
  · -- a bit that is not one is zero
    have hne : bit.toNat ≠ 1 := fun h => hone (UInt8.toNat_inj.mp h)
    have hz : bit.toNat = 0 := by omega
    rw [beq_false_of_ne hone, hz]
    rfl

@[simp] lemma length_byteBitsLe (byte : UInt8) : (byteBitsLe byte).length = 8 := by
  simp [byteBitsLe]

lemma binarySum_flatMap_byteBitsLe (bytes : List UInt8) :
    binarySum ((bytes.flatMap byteBitsLe).map Bool.toNat) = leValue bytes := by
  induction bytes with
  | nil => rfl
  | cons byte bytes ih =>
    rw [List.flatMap_cons, List.map_append, binarySum_append, ih, binarySum_byteBitsLe,
      List.length_map, length_byteBitsLe, leValue, smul_eq_mul]
    norm_num

lemma scalarMul_eq_nsmul (P : Point) (scalar : Felt) :
    StarkCurve.scalarMul P scalar = scalar.val • P := by
  -- with the selection resolved, a byte is eight rounds of double-and-add
  have hr : ∀ (acc : Point × Point) (byte : UInt8),
      (List.range 8).foldl (fun acc i =>
        (ctSelectPoint ((byte >>> UInt8.ofNat i) &&& 1 == 1) (acc.1 + acc.2) acc.1,
          acc.2 + acc.2)) acc =
      (byteBitsLe byte).foldl doubleAndAdd acc := by
    intro acc byte
    rw [byteBitsLe, List.foldl_map]
    simp only [ctSelectPoint_eq]
    rfl
  have hf : StarkCurve.scalarMul P scalar =
      ((Felt.toBytesBe scalar).toList.reverse.foldl
        (fun acc byte => (byteBitsLe byte).foldl doubleAndAdd acc) ((0 : Point), P)).1 := by
    simp only [← hr]
    rfl
  rw [hf]
  -- the bytes are taken from the last on, so their bits spell the integer upwards
  rw [← List.foldl_flatMap, foldl_doubleAndAdd, zero_add, binarySum_flatMap_byteBitsLe]
  show beValue (Felt.toBytesBe scalar).toList • P = scalar.val • P
  rw [beValue_toBytesBe]

lemma mul_eq_smul (scalar : Felt) (P : Point) :
    mul scalar (some P) = residueFromFelt scalar • P := by
  show StarkCurve.scalarMul P scalar = _
  rw [scalarMul_eq_nsmul, residueFromFelt_eq, Nat.cast_smul_eq_nsmul]

/-- The masks select whole field elements, and the loop computes the multiple of the point by the
integer of the scalar, reduced modulo the order or not. -/
theorem scalarMul_exact :
    (∀ (choice : Bool) (a b : Felt), ctSelectFelt choice a b = Felt.fromBytesBe
        ((Felt.toBytesBe b).zipWith (conditionalSelect · · choice) (Felt.toBytesBe a)) ∧
      ctSelectFelt choice a b = if choice then a else b) ∧
    ∀ (P : Point) (scalar : Felt), StarkCurve.scalarMul P scalar = scalar.val • P ∧
      StarkCurve.scalarMul P scalar =
        StarkCurve.scalarMul P ((scalar.val % curveOrder : ℕ) : Felt) := by
  refine ⟨fun choice a b => ⟨rfl, ctSelectFelt_eq choice a b⟩, ?_⟩
  intro P scalar
  have hlt : scalar.val % curveOrder < fieldPrime :=
    (Nat.mod_lt _ (by decide)).trans curveOrder_lt_fieldPrime
  refine ⟨scalarMul_eq_nsmul P scalar, ?_⟩
  rw [scalarMul_eq_nsmul, scalarMul_eq_nsmul, ZMod.val_natCast_of_lt hlt,
    ← Nat.cast_smul_eq_nsmul OrderResidue, ← Nat.cast_smul_eq_nsmul OrderResidue,
    ZMod.natCast_mod]

lemma mulGenerator_eq_mul (scalar : Felt) :
    (mulGenerator scalar : Point) = mul scalar (some generator) := rfl

lemma mulGenerator_eq_smul (scalar : Felt) :
    (mulGenerator scalar : Point) = residueFromFelt scalar • generator :=
  mul_eq_smul scalar generator

lemma add_eq (P Q : Point) : add P Q = P + Q := rfl

lemma generator_ne_zero : (generator : Point) ≠ 0 := by
  intro h
  have hs := toAffine_eq_some (P := (generator : Point)).mpr
    (show affineToProjective ⟨gX, gY, CurvePoint.generator_onCurve⟩ = generator from rfl)
  rw [h, toAffine_eq_none.mpr rfl] at hs
  exact absurd hs (by simp)

end KrustyKms.Crypto

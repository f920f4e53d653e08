import KrustyKms.Arithmetic.Binary
import KrustyKms.Crypto.Scalar
import Mathlib.SetTheory.Cardinal.Finite

/-!
# Elliptic curve operations on the Stark curve

The curve itself belongs to another crate: its points are a group of prime order whose points, but
the identity, have affine coordinates in the field.
-/

namespace KrustyKms.Crypto

open Arithmetic

def gX : Felt := 0x1ef15c18599971b7beced415a40f0c7deacfd9b0d1819e03d723d8bc943cfca
def gY : Felt := 0x5668060aa49730b7be4801df46ec62de53ecd11abe43a32873000c36e8dc1f

def hX : Felt := 0x162eb5cc8f50e522225785a604ba6d7e9ab06b647157f77c59a06032610b2d2
def hY : Felt := 0x220a56864c490175202e3e34db0e24d12979fbfacea16a360e8feb1f6749192

/-- The curve types of `starknet-types-core`, over the group of points. -/
class CurvePoint (Point : Type) extends AddCommGroup Point where
  /-- The group is the prime-order group of the Stark curve. -/
  card_eq : Nat.card Point = curveOrder
  /-- The homogeneous coordinates a point is stored in. -/
  xyz : Point → Felt × Felt × Felt
  /-- `ProjectivePoint::new`, which refuses coordinates that are not on the curve. -/
  new : Felt × Felt × Felt → Option Point
  new_xyz : ∀ P, new (xyz P) = some P
  /-- `to_affine`: the affine coordinates of a point other than the point at infinity. -/
  coordinates : Point → Option (Felt × Felt)
  /-- `from_affine`, which refuses coordinates that are not on the curve. -/
  fromAffine : Felt → Felt → Option Point
  /-- The text of the error for coordinates that are not on the curve. -/
  curveError : Felt → Felt → String
  coordinates_eq_none : ∀ P, coordinates P = none ↔ P = 0
  coordinates_eq_some : ∀ P x y, coordinates P = some (x, y) ↔ fromAffine x y = some P
  /-- Points are negated in their second coordinate. -/
  coordinates_neg : ∀ P x y, coordinates P = some (x, y) → coordinates (-P) = some (x, -y)
  /-- The generators are on the curve. -/
  generator_onCurve : (fromAffine gX gY).isSome
  generatorH_onCurve : (fromAffine hX hY).isSome

variable {Point : Type} [CurvePoint Point]

lemma coordinates_inj {P Q : Point} :
    CurvePoint.coordinates P = CurvePoint.coordinates Q ↔ P = Q := by
  refine ⟨?_, fun h => by rw [h]⟩
  intro h
  cases hP : CurvePoint.coordinates P with
  | none =>
    rw [hP, eq_comm, CurvePoint.coordinates_eq_none] at h
    rw [h, ← CurvePoint.coordinates_eq_none P, hP]
  | some affine =>
    rw [hP, eq_comm, CurvePoint.coordinates_eq_some] at h
    rw [CurvePoint.coordinates_eq_some, h, Option.some.injEq] at hP
    exact hP.symm

-- points are compared by their coordinates
instance (priority := low) decidableEqPoint : DecidableEq Point := fun P Q =>
  decidable_of_iff (CurvePoint.coordinates P = CurvePoint.coordinates Q) coordinates_inj

/-- A point other than the point at infinity, by its coordinates. -/
structure AffinePoint (Point : Type) [CurvePoint Point] where
  x : Felt
  y : Felt
  onCurve : (CurvePoint.fromAffine x y : Option Point).isSome

instance decidableEqAffinePoint : DecidableEq (AffinePoint Point) := fun a b =>
  decidable_of_iff (a.x = b.x ∧ a.y = b.y) (by cases a; cases b; simp)

def AffinePoint.new (x y : Felt) : Except String (AffinePoint Point) :=
  if h : (CurvePoint.fromAffine x y : Option Point).isSome then .ok ⟨x, y, h⟩
  else .error (CurvePoint.curveError Point x y)

def toAffine (P : Point) : Option (AffinePoint Point) :=
  match h : CurvePoint.coordinates P with
  | some (x, y) => some ⟨x, y, by rw [(CurvePoint.coordinates_eq_some P x y).mp h]; rfl⟩
  | none => none

namespace StarkCurve

def generator : Point := (CurvePoint.fromAffine gX gY).get CurvePoint.generator_onCurve

def generatorH : Point := (CurvePoint.fromAffine hX hY).get CurvePoint.generatorH_onCurve

def affineToProjective (point : AffinePoint Point) : Point :=
  (CurvePoint.fromAffine point.x point.y).get point.onCurve

def projectiveToAffine (point : Point) : Result (AffinePoint Point) :=
  match toAffine point with
  | some affine => .ok affine
  | none => .error .pointAtInfinity

/-- `u8::conditional_select` of the `subtle` crate. -/
def conditionalSelect (a b : UInt8) (choice : Bool) : UInt8 :=
  let mask : UInt8 := 0 - UInt8.ofNat choice.toNat
  a ^^^ (mask &&& (a ^^^ b))

lemma conditionalSelect_eq (a b : UInt8) (choice : Bool) :
    conditionalSelect a b choice = if choice then b else a := by
  unfold conditionalSelect
  cases choice with
  | false => simp
  | true =>
    have hmask : (0 : UInt8) - UInt8.ofNat true.toNat = -1 := by decide
    simp only [hmask, UInt8.neg_one_and, if_true, ← UInt8.xor_assoc, UInt8.xor_self,
      UInt8.zero_xor]

def ctSelectFelt (choice : Bool) (a b : Felt) : Felt :=
  Felt.fromBytesBe ((Felt.toBytesBe b).zipWith (conditionalSelect · · choice) (Felt.toBytesBe a))

lemma ctSelectFelt_eq (choice : Bool) (a b : Felt) :
    ctSelectFelt choice a b = if choice then a else b := by
  have hbytes : (Felt.toBytesBe b).zipWith (conditionalSelect · · choice) (Felt.toBytesBe a) =
      Felt.toBytesBe (if choice then a else b) := by
    apply Vector.ext
    intro i hi
    rw [Vector.getElem_zipWith, conditionalSelect_eq]
    cases choice with
    | false => rfl
    | true => rfl
  rw [ctSelectFelt, hbytes, fromBytesBe_toBytesBe]

def selectedXyz (choice : Bool) (a b : Point) : Felt × Felt × Felt :=
  (ctSelectFelt choice (CurvePoint.xyz a).1 (CurvePoint.xyz b).1,
    ctSelectFelt choice (CurvePoint.xyz a).2.1 (CurvePoint.xyz b).2.1,
    ctSelectFelt choice (CurvePoint.xyz a).2.2 (CurvePoint.xyz b).2.2)

lemma new_selectedXyz (choice : Bool) (a b : Point) :
    CurvePoint.new (selectedXyz choice a b) = some (if choice then a else b) := by
  unfold selectedXyz
  simp only [ctSelectFelt_eq]
  cases choice with
  | false => exact CurvePoint.new_xyz b
  | true => exact CurvePoint.new_xyz a

def ctSelectPoint (choice : Bool) (a b : Point) : Point :=
  (CurvePoint.new (selectedXyz choice a b)).get (by rw [new_selectedXyz]; rfl)

/-- Double-and-add over the bits of the scalar's bytes, least significant first. -/
def scalarMul (point : Point) (scalar : Felt) : Point :=
  ((Felt.toBytesBe scalar).toList.reverse.foldl (fun acc byte =>
    (List.range 8).foldl (fun (result, temp) i =>
      let bit := (byte >>> UInt8.ofNat i) &&& 1 == 1
      let added := result + temp
      (ctSelectPoint bit added result, temp + temp)) acc) ((0 : Point), point)).1

def mul (scalar : Felt) (point : Option Point) : Point :=
  let base := match point with
    | some p => p
    | none => generator
  scalarMul base scalar

def mulGenerator (scalar : Felt) : Point := scalarMul generator scalar

def add (p1 p2 : Point) : Point := p1 + p2

def isInfinity (point : Point) : Bool := (toAffine point).isNone

end StarkCurve

/-! ## Points in messages -/

structure SerializablePoint where
  x : Felt
  y : Felt
deriving DecidableEq

namespace SerializablePoint

def fromAffine (point : AffinePoint Point) : SerializablePoint := ⟨point.x, point.y⟩

def tryFromProjective (point : Point) : Result SerializablePoint :=
  match Crypto.toAffine point with
  | some affine => .ok (fromAffine affine)
  | none => .error .pointAtInfinity

def toAffine (point : SerializablePoint) : Result (AffinePoint Point) :=
  match AffinePoint.new point.x point.y with
  | .ok affine => .ok affine
  | .error e => .error (.invalidPublicKey s!"Invalid point: {e}")

end SerializablePoint

end KrustyKms.Crypto

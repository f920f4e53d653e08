import KrustyKms.Crypto.CurveTheorems
import Mathlib.Data.ZMod.ValMinAbs

/-!
# A curve with given coordinates

The integers modulo the order are a group of the curve's size.
-/

namespace KrustyKms.Crypto

open Support

structure TablePoint where
  label : OrderResidue
  x : Felt
  y : Felt
deriving DecidableEq

namespace TablePoint

def neg (point : TablePoint) : TablePoint := ⟨-point.label, point.x, -point.y⟩

lemma neg_neg (point : TablePoint) : point.neg.neg = point := by
  simp [neg]

end TablePoint

/-- Points with distinct places and distinct coordinates, up to sign. -/
structure CurveTable where
  points : List TablePoint
  labels_nodup : ((points ++ points.map TablePoint.neg).map TablePoint.label).Nodup
  coordinates_nodup :
    ((points ++ points.map TablePoint.neg).map fun point => (point.x, point.y)).Nodup
  ne_zero : ∀ point ∈ points ++ points.map TablePoint.neg, point.label ≠ 0 ∧ point.x ≠ 0

namespace CurveTable

variable (table : CurveTable)

def signed : List TablePoint := table.points ++ table.points.map TablePoint.neg

lemma neg_mem_signed {point : TablePoint} (h : point ∈ table.signed) :
    point.neg ∈ table.signed := by
  rw [signed, List.mem_append, List.mem_map] at h
  rw [signed, List.mem_append, List.mem_map]
  rcases h with h | ⟨positive, hp, rfl⟩
  · exact Or.inr ⟨point, h, rfl⟩
  · rw [TablePoint.neg_neg]
    exact Or.inl hp

def lookup (P : OrderResidue) : Option TablePoint :=
  table.signed.find? fun point => point.label = P

variable {P : OrderResidue} {x y : Felt}

lemma lookup_eq_some {point : TablePoint} :
    table.lookup P = some point ↔ point ∈ table.signed ∧ point.label = P :=
  find?_key_eq_some table.labels_nodup

def fill (P : OrderResidue) : Felt := (P.valMinAbs : ℤ)

def unfill (y : Felt) : OrderResidue := (y.valMinAbs : ℤ)

lemma unfill_fill (P : OrderResidue) : unfill (fill P) = P := by
  have hr := ZMod.valMinAbs_mem_Ioc P
  have ho := curveOrder_lt_fieldPrime
  have hval : (fill P).valMinAbs = P.valMinAbs := by
    rw [ZMod.valMinAbs_spec]
    refine ⟨rfl, ?_, ?_⟩
    · have := hr.1
      omega
    · have := hr.2
      omega
  rw [unfill, hval, ZMod.coe_valMinAbs]

lemma fill_neg (P : OrderResidue) : fill (-P) = -fill P := by
  have hodd : 2 * P.val ≠ curveOrder := by
    have : curveOrder % 2 = 1 := by decide
    omega
  rw [fill, fill, ZMod.valMinAbs_neg_of_ne_half hodd, Int.cast_neg]

def coordinates (P : OrderResidue) : Option (Felt × Felt) :=
  if P = 0 then none
  else match table.lookup P with
    | some point => some (point.x, point.y)
    | none => some (0, fill P)

lemma coordinates_eq_none : table.coordinates P = none ↔ P = 0 := by
  unfold coordinates
  split_ifs with h
  · simp [h]
  · cases table.lookup P with
    | none => simp [h]
    | some point => simp [h]

lemma coordinates_eq_some :
    table.coordinates P = some (x, y) ↔
      (⟨P, x, y⟩ ∈ table.signed) ∨
        (P ≠ 0 ∧ table.lookup P = none ∧ x = 0 ∧ y = fill P) := by
  unfold coordinates
  split_ifs with hz
  · constructor
    · intro h
      exact absurd h (by simp)
    · intro h
      rcases h with hmem | ⟨hne, -⟩
      · exact absurd hz (table.ne_zero _ hmem).1
      · exact absurd hz hne
  · cases hl : table.lookup P with
    | none =>
      have hout : ⟨P, x, y⟩ ∉ table.signed := by
        intro hmem
        rw [table.lookup_eq_some.mpr ⟨hmem, rfl⟩] at hl
        exact absurd hl (by simp)
      simp [hout, hz, eq_comm]
    | some point =>
      obtain ⟨hmem, rfl⟩ := table.lookup_eq_some.mp hl
      simp only [Option.some.injEq, Prod.mk.injEq, reduceCtorEq, false_and, and_false, or_false]
      constructor
      · intro h
        obtain ⟨rfl, rfl⟩ := h
        exact hmem
      · intro ho
        have heq := List.inj_on_of_nodup_map table.labels_nodup hmem ho rfl
        rw [heq]
        exact ⟨rfl, rfl⟩

lemma coordinates_neg (h : table.coordinates P = some (x, y)) :
    table.coordinates (-P) = some (x, -y) := by
  rw [coordinates_eq_some] at h ⊢
  rcases h with hmem | ⟨hne, hl, rfl, rfl⟩
  · exact Or.inl (table.neg_mem_signed hmem)
  · refine Or.inr ⟨neg_ne_zero.mpr hne, ?_, rfl, (fill_neg P).symm⟩
    cases hneg : table.lookup (-P) with
    | none => rfl
    | some point =>
      -- the negation of that point would be in the table at `P`
      obtain ⟨hmem, hlb⟩ := table.lookup_eq_some.mp hneg
      have hP : point.neg.label = P := by
        show -point.label = P
        rw [hlb, neg_neg]
      rw [table.lookup_eq_some.mpr ⟨table.neg_mem_signed hmem, hP⟩] at hl
      exact absurd hl (by simp)

lemma coordinates_injective {Q : OrderResidue}
    (hP : table.coordinates P = some (x, y)) (hQ : table.coordinates Q = some (x, y)) : P = Q := by
  rw [coordinates_eq_some] at hP hQ
  rcases hP with hP | ⟨-, -, hx, hP⟩
  · rcases hQ with hQ | ⟨-, -, hx, -⟩
    · have heq := List.inj_on_of_nodup_map table.coordinates_nodup hP hQ rfl
      exact congrArg TablePoint.label heq
    · exact absurd hx (table.ne_zero _ hP).2
  · rcases hQ with hQ | ⟨-, -, -, hQ⟩
    · exact absurd hx (table.ne_zero _ hQ).2
    · rw [← unfill_fill P, ← hP, hQ, unfill_fill]

def fromAffine (x y : Felt) : Option OrderResidue :=
  (unfill y :: table.signed.map TablePoint.label).find? fun P => table.coordinates P = some (x, y)

lemma fromAffine_eq_some :
    table.fromAffine x y = some P ↔ table.coordinates P = some (x, y) := by
  unfold fromAffine
  constructor
  · intro h
    simpa using List.find?_some h
  · intro h
    have hmem : P ∈ unfill y :: table.signed.map TablePoint.label := by
      rcases table.coordinates_eq_some.mp h with hmem | ⟨-, -, -, rfl⟩
      · exact List.mem_cons_of_mem _ (List.mem_map.mpr ⟨_, hmem, rfl⟩)
      · rw [unfill_fill]
        exact List.mem_cons_self
    cases hf : (unfill y :: table.signed.map TablePoint.label).find? fun Q =>
        table.coordinates Q = some (x, y) with
    | none => exact absurd (List.find?_eq_none.mp hf P hmem) (by simp [h])
    | some Q =>
      have hQ : table.coordinates Q = some (x, y) := by simpa using List.find?_some hf
      rw [table.coordinates_injective hQ h]

def point (P : OrderResidue) : SerializablePoint :=
  match table.coordinates P with
  | some (x, y) => ⟨x, y⟩
  | none => ⟨0, 0⟩

def felts (places : List OrderResidue) : List Felt :=
  places.flatMap fun P => [(table.point P).x, (table.point P).y]

def xyz (P : OrderResidue) : Felt × Felt × Felt :=
  match table.coordinates P with
  | some (x, y) => (x, y, 1)
  | none => (0, 1, 0)

def new (xyz : Felt × Felt × Felt) : Option OrderResidue :=
  if xyz.2.2 = 0 then (if xyz.1 = 0 ∧ xyz.2.1 = 1 then some 0 else none)
  else table.fromAffine (xyz.1 * xyz.2.2⁻¹) (xyz.2.1 * xyz.2.2⁻¹)

lemma new_xyz (P : OrderResidue) : table.new (table.xyz P) = some P := by
  unfold new xyz
  cases h : table.coordinates P with
  | none => simp [table.coordinates_eq_none.mp h]
  | some affine =>
    have hone : (1 : Felt) ≠ 0 := by decide +kernel
    obtain ⟨x, y⟩ := affine
    simp only [if_neg hone, ZMod.inv_one, mul_one]
    exact table.fromAffine_eq_some.mpr h

end CurveTable

def CyclicPoint : Type := OrderResidue
deriving DecidableEq, AddCommGroup

namespace CyclicPoint

def mk (label : OrderResidue) : CyclicPoint := label

def label (P : CyclicPoint) : OrderResidue := P

end CyclicPoint

@[reducible] def CurveTable.curve (table : CurveTable) (hg : (table.fromAffine gX gY).isSome)
    (hh : (table.fromAffine hX hY).isSome) : CurvePoint CyclicPoint where
  card_eq := Nat.card_zmod curveOrder
  xyz := table.xyz
  new := table.new
  new_xyz := table.new_xyz
  coordinates := table.coordinates
  fromAffine := table.fromAffine
  curveError _ _ := "EllipticCurveError(InvalidPoint)"
  coordinates_eq_none _ := table.coordinates_eq_none
  coordinates_eq_some _ _ _ := table.fromAffine_eq_some.symm
  coordinates_neg _ _ _ h := table.coordinates_neg h
  generator_onCurve := hg
  generatorH_onCurve := hh

lemma CurveTable.curve_smul (table : CurveTable) (hg : (table.fromAffine gX gY).isSome)
    (hh : (table.fromAffine hX hY).isSome) (r : OrderResidue) (P : CyclicPoint) :
    letI := table.curve hg hh
    r • P = CyclicPoint.mk (r * P.label) := by
  let _ := table.curve hg hh
  show r • P = _
  rw [← ZMod.natCast_zmod_val r, Nat.cast_smul_eq_nsmul]
  exact nsmul_eq_mul r.val (P.label)

/-- The place of `generatorH` in the samples; nobody knows its logarithm. -/
def hLabel : OrderResidue := 2 ^ 200

/-- The two generators of the Stark curve. -/
def generatorPoints : List TablePoint := [⟨1, gX, gY⟩, ⟨hLabel, hX, hY⟩]

/-- The generators and small multiples of the first one. -/
def samplePoints : List TablePoint :=
  generatorPoints ++ [
    ⟨2,
      0x759ca09377679ecd535a81e83039658bf40959283187c654c5416f439403cf5,
      0x6f524a3400e7708d5c01a28598ad272e7455aa88778b19f93b562d7a9646c41⟩,
    ⟨3,
      0x411494b501a98abd8262b0da1351e17899a0c4ef23dd2f96fec5ba847310b20,
      0x7e1b3ebac08924d2c26f409549191fcf94f3bf6f301ed3553e22dfb802f0686⟩,
    ⟨4,
      0xa7da05a4d664859ccd6e567b935cdfbfe3018c7771cb980892ef38878ae9bc,
      0x584b0c2bc833a4c88d62b387e0ef868cae2eaaa288f4ca7b34c84b46ca031b6⟩,
    ⟨5,
      0x788435d61046d3eec54d77d25bd194525f4fa26ebe6575536bc6f656656b74c,
      0x13926386b9e5e908c359519eaa68c44a2430f4b4ca5d0dbdcb4231f031eb18b⟩,
    ⟨7,
      0x743829e0a179f8afe223fc8112dfc8d024ab6b235fd42283c4f5970259ce7b7,
      0xe67a0a63cc493225e45b9178a3375596ea2a1d7012628a328dbc14c78cd1b7⟩,
    ⟨10,
      0x320ceae3120e56f6006f7d626760f12fc276a3c7683e9b0b87c097d7be8dbde,
      0x760d1688317be9e2cf74eaa8b2d39e886a6c18a223a9ccc9b19429f2a174377⟩,
    ⟨11,
      0x408f052dfe0289ab18a69ffdcb38a303fb0766979dca58262a9fabe4a0c7632,
      0x6342e6aba72fd3fef06d8274bdaf8cc86bc3eab59b3ae413f9e3cb086317923⟩,
    ⟨15,
      0x64b098ab256881bb3916f719b8c1e362b9c681446d454773d513e647f0b148d,
      0x67861383870079fa6f3f3af8083d0a0d84d6f38368e0a220b521d47359ff8ce⟩,
    ⟨17,
      0x78406570d44f1293762fd99f7e42b034a8a5973542a990a1d1f35c52edf85ef,
      0x3172c9af27ad47f777b89df0e215b7655a436a3d3d7a1c0a573f29f3146c1f0⟩,
    ⟨19,
      0x4bfad94c8eaa1d5281d9699d0217a69de2f432164f5837b2313c807d3123123,
      0x2b8a6f5f1a15d9aebfa70820efb26114f05d3acac2057fb3e44f8b497cb8d12⟩,
    ⟨21,
      0x53012cf1b98b09564cc6c6264ed60932ef373aeb9833bc9f2436ee052f40273,
      0xce9ef25b1770efd7a633ce12b9d8f948ac523c92e03e080ea32fa85473840⟩]

end KrustyKms.Crypto

import KrustyKms.Arithmetic.Preimage
import KrustyKms.Common.Crates
import KrustyKms.MentalPoker.Types

/-!
# Zero-knowledge proofs of the mental poker protocol

Schnorr proofs of key ownership and Chaum-Pedersen proofs that two points have the same logarithm.
-/

namespace KrustyKms.MentalPoker

open Arithmetic Crypto StarkCurve Support

variable {Point : Type} [CurvePoint Point]

def pointBytes (affine : AffinePoint Point) : Bytes :=
  (Felt.toBytesBe affine.x).toList ++ (Felt.toBytesBe affine.y).toList

variable [Sha256]

/-- A Fiat-Shamir challenge: the first 31 bytes of the hash, to stay within the field. -/
def computeChallenge (data : Bytes) : Felt :=
  let hash := (Sha256.digest data).toList
  let bytes : Vector UInt8 32 :=
    Vector.ofFn fun i => if i.val = 0 then 0 else hash.getD (i.val - 1) 0
  Felt.fromBytesBe bytes

namespace SchnorrProtocol

def challenge (context : Bytes) (pk a : Point) : Except MentalPokerError Felt := do
  let aAffine ← projectiveToAffine a
  let pkAffine ← projectiveToAffine pk
  let gAffine ← projectiveToAffine (generator : Point)
  pure (computeChallenge
    (context ++ pointBytes gAffine ++ pointBytes pkAffine ++ pointBytes aAffine))

def prove (r : Felt) (pk : PublicKey Point) (sk : SecretKey) (context : Bytes) :
    Except MentalPokerError KeyOwnershipProof := do
  let a := mul r (some (generator : Point))
  let c ← challenge context pk.point a
  let cSk ← scalarMul c sk.scalar
  let s ← scalarAdd r cSk
  let commitment ← SerializablePoint.fromProjective a
  pure { commitment, response := s.toHex, challenge := c.toHex }

def verify [FeltParser] (pk : PublicKey Point) (proof : KeyOwnershipProof) (context : Bytes) :
    Except MentalPokerError Bool := do
  let a ← (proof.commitment.toProjective : Except _ Point)
  let s ← parseFelt proof.response
  let c ← parseFelt proof.challenge
  let cComputed ← challenge context pk.point a
  if c ≠ cComputed then
    return false
  let lhs := mul s (some (generator : Point))
  let pkC := mul c (some pk.point)
  let rhs := add a pkC
  let lhsAffine ← projectiveToAffine lhs
  let rhsAffine ← projectiveToAffine rhs
  return decide (lhsAffine = rhsAffine)

end SchnorrProtocol

namespace ChaumPedersenProtocol

def challenge (context : Bytes) (g h y1 y2 a1 a2 : Point) : Except MentalPokerError Felt := do
  let gAffine ← projectiveToAffine g
  let hAffine ← projectiveToAffine h
  let y1Affine ← projectiveToAffine y1
  let y2Affine ← projectiveToAffine y2
  let a1Affine ← projectiveToAffine a1
  let a2Affine ← projectiveToAffine a2
  pure (computeChallenge (context ++ pointBytes gAffine ++ pointBytes hAffine ++
    pointBytes y1Affine ++ pointBytes y2Affine ++ pointBytes a1Affine ++ pointBytes a2Affine))

def prove (r : Felt) (g h y1 y2 : Point) (x : Felt) (context : Bytes) :
    Except MentalPokerError DLEqualityProof := do
  let a1 := mul r (some g)
  let a2 := mul r (some h)
  let c ← challenge context g h y1 y2 a1 a2
  let cX ← scalarMul c x
  let s ← scalarAdd r cX
  let a1Text ← SerializablePoint.fromProjective a1
  let a2Text ← SerializablePoint.fromProjective a2
  pure { a1 := a1Text, a2 := a2Text, response := s.toHex, challenge := c.toHex }

def verify [FeltParser] (g h y1 y2 : Point) (proof : DLEqualityProof) (context : Bytes) :
    Except MentalPokerError Bool := do
  let a1 ← (proof.a1.toProjective : Except _ Point)
  let a2 ← (proof.a2.toProjective : Except _ Point)
  let s ← parseFelt proof.response
  let c ← parseFelt proof.challenge
  let cComputed ← challenge context g h y1 y2 a1 a2
  if c ≠ cComputed then
    return false
  let lhs1 := mul s (some g)
  let y1C := mul c (some y1)
  let rhs1 := add a1 y1C
  let lhs1Affine ← projectiveToAffine lhs1
  let rhs1Affine ← projectiveToAffine rhs1
  if lhs1Affine ≠ rhs1Affine then
    return false
  let lhs2 := mul s (some h)
  let y2C := mul c (some y2)
  let rhs2 := add a2 y2C
  let lhs2Affine ← projectiveToAffine lhs2
  let rhs2Affine ← projectiveToAffine rhs2
  return decide (lhs2Affine = rhs2Affine)

end ChaumPedersenProtocol

/-! ## What the verifiers check -/

section Theorems

-- two products of a point are compared by their factors, not by their computation
attribute [local irreducible] StarkCurve.mul

namespace ChaumPedersenProtocol

structure Equations (g h y1 y2 a1 a2 : Point) (c s : Felt) : Prop where
  first : mul s (some g) = add a1 (mul c (some y1))
  second : mul s (some h) = add a2 (mul c (some y2))

variable {g h y1 y2 : Point} {context : Bytes} {proof : DLEqualityProof}

lemma verify_eq_true [FeltParser] :
    verify g h y1 y2 proof context = .ok true ↔
      ∃ (a1 a2 : Point) (s c : Felt), proof.a1.toProjective = .ok a1 ∧
        proof.a2.toProjective = .ok a2 ∧ FeltParser.fromHex proof.response = .ok s ∧
        FeltParser.fromHex proof.challenge = .ok c ∧
        challenge context g h y1 y2 a1 a2 = .ok c ∧ Equations g h y1 y2 a1 a2 c s ∧
        mul s (some g) ≠ 0 ∧ mul s (some h) ≠ 0 := by
  unfold verify
  simp only [except_bind_eq_ok, parseFelt_eq_ok, ite_pure_false_eq_ok, liftM_eq_ok,
    projectiveToAffine_eq_ok, not_not]
  constructor
  · intro hrun
    obtain ⟨a1, ha1, a2, ha2, s, hs, c, hc, _, hcm, rfl, hrun⟩ := hrun
    obtain ⟨p1, hp1, q1, hq1, rfl, p2, hp2, q2, hq2, hrun⟩ := hrun
    have heq : p2 = q2 := of_decide_eq_true (Except.ok.inj hrun)
    refine ⟨a1, a2, s, c, ha1, ha2, hs, hc, hcm, ⟨?_, ?_⟩, ?_, ?_⟩
    · rw [← hp1, hq1]
    · rw [← hp2, heq, hq2]
    · rw [← hp1]
      exact affineToProjective_ne_zero p1
    · rw [← hp2]
      exact affineToProjective_ne_zero p2
  · intro hrun
    obtain ⟨a1, a2, s, c, ha1, ha2, hs, hc, hcm, ⟨hf, hsc⟩, hne1, hne2⟩ := hrun
    obtain ⟨p1, hp1⟩ := exists_affine hne1
    obtain ⟨p2, hp2⟩ := exists_affine hne2
    refine ⟨a1, ha1, a2, ha2, s, hs, c, hc, c, hcm, rfl, p1, hp1, p1, ?_, rfl, p2, hp2,
      p2, ?_, by simp [pure, Except.pure]⟩
    · rw [hp1, hf]
    · rw [hp2, hsc]

lemma prove_eq_ok {r x : Felt} :
    prove r g h y1 y2 x context = .ok proof ↔
      ∃ c, challenge context g h y1 y2 (mul r (some g)) (mul r (some h)) = .ok c ∧
        SerializablePoint.fromProjective (mul r (some g)) = .ok proof.a1 ∧
        SerializablePoint.fromProjective (mul r (some h)) = .ok proof.a2 ∧
        proof.response = (answer r c x).toHex ∧ proof.challenge = c.toHex := by
  unfold prove
  simp only [except_bind_eq_ok, liftM_eq_ok, exists_scalarAdd_scalarMul]
  constructor
  · intro hrun
    obtain ⟨c, hc, a1, ha1, a2, ha2, hrun⟩ := hrun
    obtain rfl := Except.ok.inj hrun
    exact ⟨c, hc, ha1, ha2, rfl, rfl⟩
  · intro hrun
    obtain ⟨c, hc, ha1, ha2, hr, hch⟩ := hrun
    refine ⟨c, hc, proof.a1, ha1, proof.a2, ha2, ?_⟩
    rw [← hr, ← hch]
    rfl

omit [Sha256] in
lemma equations_answer (r c x : Felt) (g h : Point) :
    Equations g h (mul x (some g)) (mul x (some h)) (mul r (some g)) (mul r (some h)) c
      (answer r c x) := by
  constructor
  · simp only [mul_eq_smul, add_eq, residueFromFelt_answer, add_smul, mul_smul]
  · simp only [mul_eq_smul, add_eq, residueFromFelt_answer, add_smul, mul_smul]

lemma ne_zero_of_challenge {a1 a2 : Point} {c : Felt}
    (hc : challenge context g h y1 y2 a1 a2 = .ok c) :
    g ≠ 0 ∧ h ≠ 0 ∧ y1 ≠ 0 ∧ y2 ≠ 0 ∧ a1 ≠ 0 ∧ a2 ≠ 0 := by
  unfold challenge at hc
  simp only [except_bind_eq_ok, liftM_eq_ok, projectiveToAffine_eq_ok] at hc
  obtain ⟨g', rfl, h', rfl, y1', rfl, y2', rfl, a1', rfl, a2', rfl, -⟩ := hc
  exact ⟨affineToProjective_ne_zero g', affineToProjective_ne_zero h',
    affineToProjective_ne_zero y1', affineToProjective_ne_zero y2',
    affineToProjective_ne_zero a1', affineToProjective_ne_zero a2'⟩

/-- An honest proof is accepted exactly when its response is not zero: the points of a zero
response have no coordinates to compare. -/
theorem verify_prove_iff [FeltParser] (hex : FeltParser.Exact) {r x : Felt}
    (hp : prove r g h (mul x (some g)) (mul x (some h)) x context = .ok proof) :
    verify g h (mul x (some g)) (mul x (some h)) proof context = .ok true ↔
      FeltParser.fromHex proof.response ≠ .ok 0 := by
  obtain ⟨c, hc, ha1, ha2, hrs, hch⟩ := prove_eq_ok.mp hp
  obtain ⟨hg, hh, -⟩ := ne_zero_of_challenge hc
  have hs : FeltParser.fromHex proof.response = .ok (answer r c x) := by
    rw [hrs, hex.fromHex_toHex]
  have hz : answer r c x = 0 ↔ residueFromFelt (answer r c x) = 0 := by
    rw [residueFromFelt_answer]
    exact feltFromResidue_eq_zero
  rw [verify_eq_true, hs, ne_eq, Except.ok.injEq, hz]
  constructor
  · intro ha
    obtain ⟨_, _, s, _, -, -, hs', -, -, -, hne, -⟩ := ha
    obtain rfl := Except.ok.inj hs'
    intro hr
    rw [mul_eq_smul, hr, zero_smul] at hne
    exact hne rfl
  · intro hr
    refine ⟨mul r (some g), mul r (some h), answer r c x, c,
      toProjective_of_fromProjective hex ha1, toProjective_of_fromProjective hex ha2, rfl, ?_,
      hc, equations_answer r c x g h, ?_, ?_⟩
    · rw [hch, hex.fromHex_toHex]
    · rw [mul_eq_smul]
      exact smul_ne_zero hr hg
    · rw [mul_eq_smul]
      exact smul_ne_zero hr hh

/-! ## Soundness -/

/-- The two logarithms are equal. -/
def HasWitness (g h y1 y2 : Point) : Prop :=
  ∃ x : Felt, y1 = mul x (some g) ∧ y2 = mul x (some h)

def statement (g h : Point) : OrderResidue →ₗ[OrderResidue] Point × Point :=
  (LinearMap.toSpanSingleton OrderResidue Point g).prod
    (LinearMap.toSpanSingleton OrderResidue Point h)

/-- The logarithm that two responses to the same commitments give away. -/
def extractWitness (c c' s s' : Felt) : Felt :=
  feltFromResidue (Preimage.extract (residueFromFelt c) (residueFromFelt c') (residueFromFelt s)
    (residueFromFelt s'))

omit [Sha256] in
lemma Equations.accepts {a1 a2 : Point} {c s : Felt} (het : Equations g h y1 y2 a1 a2 c s) :
    Preimage.Accepts (statement g h) (y1, y2) (a1, a2) (residueFromFelt c)
      (residueFromFelt s) := by
  have hf := het.first
  have hs := het.second
  rw [mul_eq_smul, mul_eq_smul, add_eq] at hf hs
  exact Preimage.accepts_prod.mpr ⟨hf, hs⟩

omit [Sha256] in
/-- Two transcripts with the same commitments give a witness. -/
theorem extractWitness_spec {a1 a2 : Point} {c c' s s' : Felt}
    (het : Equations g h y1 y2 a1 a2 c s) (he' : Equations g h y1 y2 a1 a2 c' s')
    (hne : residueFromFelt c ≠ residueFromFelt c') :
    y1 = mul (extractWitness c c' s s') (some g) ∧
      y2 = mul (extractWitness c c' s s') (some h) := by
  have hex := het.accepts.extract he'.accepts hne
  obtain ⟨hy1, hy2⟩ := Prod.mk.inj hex
  rw [mul_eq_smul, mul_eq_smul, extractWitness, residueFromFelt_feltFromResidue]
  exact ⟨hy1, hy2⟩

end ChaumPedersenProtocol

end Theorems

end KrustyKms.MentalPoker

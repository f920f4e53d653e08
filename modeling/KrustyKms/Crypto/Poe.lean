import KrustyKms.Crypto.AuditTheorems
import KrustyKms.Crypto.BitTheorems

/-!
# Proofs of exponentiation

A prover of `y = g^x` commits to `A = g^r` and answers the challenge with `r + c x`.
-/

namespace KrustyKms.Crypto

open Arithmetic Support StarkCurve

variable {Point : Type} [CurvePoint Point]

structure PoeProof where
  a : SerializablePoint
  s : Felt
  c : Felt
deriving DecidableEq

namespace ProofOfExponentiation

variable [Poseidon]

def prove (r x prefixFelt : Felt) : Result (Point × PoeProof) := do
  let g : Point := generator
  let y := mul x (some g)
  let a := mul r (some g)
  let c ← computePoseidonChallenge prefixFelt [a]
  let cX ← scalarMul c x
  let s ← scalarAdd r cX
  let proof := { a := ← SerializablePoint.tryFromProjective a, s, c }
  pure (y, proof)

def verify (y : Point) (proof : PoeProof) (prefixFelt : Felt) : Result Bool := do
  let g : Point := generator
  let a ← (proof.a.toAffine : Result (AffinePoint Point))
  let aProj := affineToProjective a
  let cComputed ← computePoseidonChallenge prefixFelt [aProj]
  if proof.c ≠ cComputed then
    return false
  let lhs := mul proof.s (some g)
  let yC := mul proof.c (some y)
  let rhs := add aProj yC
  let lhsAffine ← projectiveToAffine lhs
  let rhsAffine ← projectiveToAffine rhs
  return decide (lhsAffine = rhsAffine)

-- two products of a point are compared by their factors, not by their computation
attribute [local irreducible] StarkCurve.mul

variable {r x prefixFelt : Felt} {y : Point} {proof : PoeProof}

lemma prove_eq_ok :
    prove r x prefixFelt = .ok (y, proof) ↔
      y = mul x (some generator) ∧
      SerializablePoint.tryFromProjective (mul r (some generator) : Point) = .ok proof.a ∧
      computePoseidonChallenge prefixFelt [(mul r (some generator) : Point)] = .ok proof.c ∧
      proof.s = answer r proof.c x := by
  unfold prove
  simp only [except_bind_eq_ok, exists_scalarAdd_scalarMul]
  constructor
  · intro h
    obtain ⟨c, hc, a, ha, h⟩ := h
    obtain ⟨rfl, rfl⟩ := Prod.mk.inj (Except.ok.inj h)
    exact ⟨rfl, ha, hc, rfl⟩
  · intro h
    obtain ⟨rfl, ha, hc, hs⟩ := h
    refine ⟨proof.c, hc, proof.a, ha, ?_⟩
    rw [← hs]
    rfl

lemma computePoseidonChallenge_zero :
    computePoseidonChallenge prefixFelt [(0 : Point)] = .error .pointAtInfinity := by
  have hz : Crypto.toAffine (0 : Point) = none := toAffine_eq_none.mpr rfl
  simp only [computePoseidonChallenge, extendTranscript, List.foldlM_cons, hz]
  rfl

lemma exists_computePoseidonChallenge (prefixFelt : Felt) {a : Point} (h : a ≠ 0) :
    ∃ c, computePoseidonChallenge prefixFelt [a] = .ok c := by
  obtain ⟨affine, rfl⟩ := exists_affine h
  have hs := toAffine_eq_some.mpr (rfl : affineToProjective affine = _)
  refine ⟨feltFromResidue (residueFromFelt (Poseidon.hashArray
    [prefixFelt, affine.x, affine.y])), ?_⟩
  simp only [computePoseidonChallenge, extendTranscript, List.foldlM_cons, hs]
  rfl

lemma prove_eq_error (h : mul r (some (generator : Point)) = 0) :
    (prove r x prefixFelt : Result (Point × PoeProof)) = .error .pointAtInfinity := by
  unfold prove
  dsimp only
  rw [h, computePoseidonChallenge_zero]
  rfl

lemma exists_prove (x prefixFelt : Felt) (h : mul r (some (generator : Point)) ≠ 0) :
    ∃ proof, prove r x prefixFelt = .ok ((mul x (some generator) : Point), proof) := by
  obtain ⟨c, hc⟩ := exists_computePoseidonChallenge prefixFelt h
  obtain ⟨affine, ha⟩ := exists_affine h
  exact ⟨⟨.fromAffine affine, answer r c x, c⟩, prove_eq_ok.mpr
    ⟨rfl, tryFromProjective_eq_ok.mpr ⟨affine, ha, rfl⟩, hc, rfl⟩⟩

lemma verify_iff_accepts {a : AffinePoint Point} (ha : proof.a.toAffine = .ok a)
    (hc : computePoseidonChallenge prefixFelt [affineToProjective a] = .ok proof.c) :
    verify y proof prefixFelt = .ok true ↔
      Sigma.Accepts generator y (affineToProjective a) (residueFromFelt proof.c)
        (residueFromFelt proof.s) ∧
      residueFromFelt proof.s ≠ 0 := by
  have hs : residueFromFelt proof.s • (generator : Point) ≠ 0 ↔ residueFromFelt proof.s ≠ 0 := by
    simp [generator_ne_zero]
  rw [← hs, ← verifyInternal_eq_true]
  unfold verify
  dsimp only
  rw [ha]
  show (computePoseidonChallenge _ _ >>= _) = _ ↔ _
  rw [hc]
  show (if proof.c ≠ proof.c then _ else _) = _ ↔ _
  rw [if_neg (not_not.mpr rfl)]
  rfl

/-- There is no proof only where the commitment is the identity; a proof is accepted for its
statement and for no other, unless the challenge or the response is zero. -/
theorem prove_verify_iff (r x prefixFelt : Felt) :
    mul r (some (generator : Point)) = 0 ∧
        (prove r x prefixFelt : Result (Point × PoeProof)) = .error .pointAtInfinity ∨
      ∃ proof, prove r x prefixFelt = .ok ((mul x (some generator) : Point), proof) ∧
        ∀ y : Point, verify y proof prefixFelt = .ok true ↔
          (residueFromFelt proof.c = 0 ∨ y = mul x (some generator)) ∧
            residueFromFelt proof.s ≠ 0 := by
  by_cases hz : mul r (some (generator : Point)) = 0
  · exact .inl ⟨hz, prove_eq_error hz⟩
  obtain ⟨proof, h⟩ := exists_prove x prefixFelt hz
  refine .inr ⟨proof, h, fun y => ?_⟩
  obtain ⟨-, ha, hc, hs⟩ := prove_eq_ok.mp h
  obtain ⟨a, haf, hp⟩ := toAffine_of_tryFromProjective ha
  rw [← hp] at hc
  rw [verify_iff_accepts haf hc, hp, hs, residueFromFelt_answer]
  simp only [mul_eq_smul, Sigma.accepts_respond_iff]

/-- The challenge hashes the prefix and the commitment alone. Where it is nonzero, any commitment
and nonzero response prove one statement, found without its logarithm. -/
theorem verify_statement (a : AffinePoint Point) (s prefixFelt : Felt) :
    ∃ c, computePoseidonChallenge prefixFelt [affineToProjective a] = .ok c ∧
      ∀ y : Point, verify y ⟨.fromAffine a, s, c⟩ prefixFelt = .ok true ↔
        (if residueFromFelt c = 0 then mul s (some generator) = affineToProjective a
          else y = (residueFromFelt c)⁻¹ • (mul s (some generator) - affineToProjective a)) ∧
        residueFromFelt s ≠ 0 := by
  obtain ⟨c, hc⟩ := exists_computePoseidonChallenge prefixFelt (affineToProjective_ne_zero a)
  refine ⟨c, hc, fun y => ?_⟩
  rw [verify_iff_accepts (SerializablePoint.toAffine_eq_ok.mpr rfl) hc, mul_eq_smul]
  by_cases hz : residueFromFelt c = 0
  · rw [if_pos hz, Sigma.Accepts, hz, zero_smul, add_zero]
  · rw [if_neg hz, Sigma.accepts_iff_statement hz]

end ProofOfExponentiation

end KrustyKms.Crypto

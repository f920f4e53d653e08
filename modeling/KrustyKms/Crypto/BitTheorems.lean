import KrustyKms.Arithmetic.Sigma
import KrustyKms.Crypto.Bit
import KrustyKms.Crypto.CurveTheorems

/-!
# Bit proofs are disjunctions of two proofs of exponentiation

A bit proof and its challenge are a transcript of the disjunction "`V` or `V - g1` is a multiple
of `g2`".
-/

namespace KrustyKms.Crypto

open Arithmetic Support StarkCurve

variable {Point : Type} [CurvePoint Point]

lemma ProofOfExponentiation.verifyInternal_eq_true {y gen a : Point} {c s : Felt} :
    verifyInternal y gen a c s = .ok true ↔
      Sigma.Accepts gen y a (residueFromFelt c) (residueFromFelt s) ∧
        residueFromFelt s • gen ≠ 0 := by
  unfold verifyInternal Sigma.Accepts
  simp only [except_bind_eq_ok, projectiveToAffine_eq_ok, mul_eq_smul, add_eq]
  constructor
  · intro h
    obtain ⟨lhs, hlhs, rhs, hrhs, h⟩ := h
    -- both sides are compared by their coordinates, which the identity does not have
    have heq : lhs = rhs := of_decide_eq_true (Except.ok.inj h)
    refine ⟨?_, ?_⟩
    · rw [← hlhs, ← hrhs, heq]
    · rw [← hlhs]
      exact affineToProjective_ne_zero lhs
  · intro h
    obtain ⟨heq, hne⟩ := h
    obtain ⟨lhs, hlhs⟩ := exists_affine hne
    refine ⟨lhs, hlhs, lhs, by rw [hlhs, heq], ?_⟩
    rw [decide_eq_true rfl]
    rfl

namespace Bit

lemma negate_eq_ok {P Q : Point} : negate P = .ok Q ↔ P ≠ 0 ∧ Q = -P := by
  unfold negate
  simp only [except_bind_eq_ok, projectiveToAffine_eq_ok]
  constructor
  · intro h
    obtain ⟨a, rfl, h⟩ := h
    obtain ⟨b, hnew, hb⟩ := exists_negated a
    rw [hnew] at h
    rw [← hb]
    exact ⟨affineToProjective_ne_zero a, (Except.ok.inj h).symm⟩
  · intro h
    obtain ⟨hne, rfl⟩ := h
    obtain ⟨a, rfl⟩ := exists_affine hne
    obtain ⟨b, hnew, hb⟩ := exists_negated a
    refine ⟨a, rfl, ?_⟩
    rw [hnew, ← hb]
    rfl

/-! ## The verifier -/

/-- The scalars of a run of the verifier: the challenge it recomputes, and the parts of
the proof that are not first messages. -/
structure Transcript where
  c : Felt
  c0 : Felt
  s0 : Felt
  s1 : Felt

def Transcript.residues (t : Transcript) : Sigma.OrTranscript OrderResidue where
  challenge := residueFromFelt t.c
  left := residueFromFelt t.c0
  leftResponse := residueFromFelt t.s0
  rightResponse := residueFromFelt t.s1

/-- The two equations that `verify` checks. -/
def Transcript.Satisfies (t : Transcript) (v g1 g2 a0 a1 : Point) : Prop :=
  ∃ c1, scalarSub t.c t.c0 = .ok c1 ∧
    mul t.s0 (some g2) = add a0 (mul t.c0 (some v)) ∧
    mul t.s1 (some g2) = add a1 (mul c1 (some (v - g1)))

variable {v g1 g2 : Point} {proof : ProofOfBit} {prefixFelt random : Felt} {draws : Draws}

lemma Transcript.satisfies_iff {t : Transcript} {a0 a1 : Point} :
    t.Satisfies v g1 g2 a0 a1 ↔ t.residues.Accepts g2 v (v - g1) a0 a1 := by
  unfold Satisfies
  simp only [mul_eq_smul, add_eq]
  constructor
  · intro h
    obtain ⟨c1, hc1, hf, hs⟩ := h
    rw [residue_of_scalarSub hc1] at hs
    exact ⟨hf, hs⟩
  · intro h
    obtain ⟨hf, hs⟩ := h
    refine ⟨_, rfl, hf, ?_⟩
    rw [residueFromFelt_feltFromResidue]
    exact hs

variable [Poseidon]

def Accepted (v g1 g2 : Point) (proof : ProofOfBit) (prefixFelt : Felt) : Prop :=
  ∃ (a0 a1 : AffinePoint Point) (c : Felt),
    proof.a0.toAffine = .ok a0 ∧ proof.a1.toAffine = .ok a1 ∧
    computePoseidonChallenge prefixFelt [v, affineToProjective a0, affineToProjective a1] = .ok c ∧
    (Transcript.residues ⟨c, proof.c0, proof.s0, proof.s1⟩).Accepts g2 v (v - g1)
      (affineToProjective a0) (affineToProjective a1)

theorem verify_eq_true :
    verify v g1 g2 proof prefixFelt = .ok true ↔
      Accepted v g1 g2 proof prefixFelt ∧ g1 ≠ 0 ∧
        residueFromFelt proof.s0 • g2 ≠ 0 ∧ residueFromFelt proof.s1 • g2 ≠ 0 := by
  unfold verify Accepted
  simp only [except_bind_eq_ok, add_eq]
  constructor
  · intro h
    obtain ⟨a0, ha0, a1, ha1, c, hc, c1, hc1, first, hf, h⟩ := h
    -- either equation that fails returns `false`, before `g1` is negated or after
    cases first with
    | false => exact absurd (Except.ok.inj h) (by simp)
    | true =>
      obtain ⟨negG1, hneg, h⟩ := except_bind_eq_ok.mp h
      obtain ⟨second, hs, h⟩ := except_bind_eq_ok.mp h
      cases second with
      | false => exact absurd (Except.ok.inj h) (by simp)
      | true =>
        obtain ⟨hg1, rfl⟩ := negate_eq_ok.mp hneg
        rw [ProofOfExponentiation.verifyInternal_eq_true] at hf hs
        rw [residue_of_scalarSub hc1, ← sub_eq_add_neg] at hs
        exact ⟨⟨a0, a1, c, ha0, ha1, hc, hf.1, hs.1⟩, hg1, hf.2, hs.2⟩
  · intro h
    obtain ⟨⟨a0, a1, c, ha0, ha1, hc, hf, hs⟩, hg1, hs0, hs1⟩ := h
    refine ⟨a0, ha0, a1, ha1, c, hc, _, rfl, true,
      ProofOfExponentiation.verifyInternal_eq_true.mpr ⟨hf, hs0⟩, ?_⟩
    refine except_bind_eq_ok.mpr ⟨-g1, negate_eq_ok.mpr ⟨hg1, rfl⟩,
      except_bind_eq_ok.mpr ⟨true, ?_, rfl⟩⟩
    rw [ProofOfExponentiation.verifyInternal_eq_true, residueFromFelt_feltFromResidue,
      ← sub_eq_add_neg]
    exact ⟨hs, hs1⟩

/-! ## The prover -/

omit [Poseidon] in
lemma simulatePoe_eq_ok {y gen : Point} {out : Point × Felt × Felt} :
    simulatePoe draws y gen = .ok out ↔
      residueFromFelt draws.c • y ≠ 0 ∧
        out = (residueFromFelt draws.s • gen - residueFromFelt draws.c • y, draws.c, draws.s) := by
  unfold simulatePoe
  simp only [except_bind_eq_ok, negate_eq_ok, mul_eq_smul, add_eq]
  constructor
  · intro h
    obtain ⟨neg, ⟨hne, rfl⟩, h⟩ := h
    rw [← sub_eq_add_neg] at h
    exact ⟨hne, (Except.ok.inj h).symm⟩
  · intro h
    obtain ⟨hne, rfl⟩ := h
    refine ⟨_, ⟨hne, rfl⟩, ?_⟩
    rw [← sub_eq_add_neg]
    rfl

/-- What a prover of either branch does after its two first messages: the challenge,
and the parts of the proof that do not depend on the branch. -/
structure Committed (prefixFelt : Felt) (v a0 a1 : Point) (proof : ProofOfBit) (c : Felt) :
    Prop where
  challenge : computePoseidonChallenge prefixFelt [v, a0, a1] = .ok c
  a0_eq : SerializablePoint.tryFromProjective a0 = .ok proof.a0
  a1_eq : SerializablePoint.tryFromProjective a1 = .ok proof.a1

lemma proveBit0_eq_ok :
    proveBit0 draws random g1 g2 prefixFelt = .ok (v, proof) ↔
      g1 ≠ 0 ∧ v = residueFromFelt random • g2 ∧ residueFromFelt draws.c • (v - g1) ≠ 0 ∧
      ∃ c, Committed prefixFelt v (residueFromFelt draws.k • g2)
          (residueFromFelt draws.s • g2 - residueFromFelt draws.c • (v - g1)) proof c ∧
        scalarSub c draws.c = .ok proof.c0 ∧
        (∃ product, scalarMul proof.c0 random = .ok product ∧
          scalarAdd draws.k product = .ok proof.s0) ∧
        proof.s1 = draws.s := by
  unfold proveBit0
  simp only [except_bind_eq_ok, negate_eq_ok, simulatePoe_eq_ok, mul_eq_smul, add_eq]
  constructor
  · intro h
    obtain ⟨neg, ⟨hg1, rfl⟩, out, ⟨hsim, rfl⟩, c, hc, c0, hc0, product, hp, s0, hs0, a0,
      ha0, a1, ha1, h⟩ := h
    rw [← sub_eq_add_neg] at hsim hc ha1
    obtain ⟨rfl, rfl⟩ := Prod.mk.inj (Except.ok.inj h)
    exact ⟨hg1, rfl, hsim, c, ⟨hc, ha0, ha1⟩, hc0, ⟨product, hp, hs0⟩, rfl⟩
  · intro h
    obtain ⟨hg1, rfl, hsim, c, hcm, hc0, ⟨product, hp, hs0⟩, hs1⟩ := h
    rw [sub_eq_add_neg _ g1] at hsim
    have hc := hcm.challenge
    have ha1 := hcm.a1_eq
    rw [sub_eq_add_neg _ g1] at hc ha1
    refine ⟨_, ⟨hg1, rfl⟩, _, ⟨hsim, rfl⟩, c, hc, _, hc0, product, hp, _, hs0, _,
      hcm.a0_eq, _, ha1, ?_⟩
    rw [← hs1]
    rfl

lemma proveBit1_eq_ok :
    proveBit1 draws random g1 g2 prefixFelt = .ok (v, proof) ↔
      v = g1 + residueFromFelt random • g2 ∧ residueFromFelt draws.c • v ≠ 0 ∧
      ∃ c, Committed prefixFelt v
          (residueFromFelt draws.s • g2 - residueFromFelt draws.c • v)
          (residueFromFelt draws.k • g2) proof c ∧
        (∃ c1 product, scalarSub c draws.c = .ok c1 ∧ scalarMul c1 random = .ok product ∧
          scalarAdd draws.k product = .ok proof.s1) ∧
        proof.c0 = draws.c ∧ proof.s0 = draws.s := by
  unfold proveBit1
  simp only [except_bind_eq_ok, simulatePoe_eq_ok, mul_eq_smul, add_eq]
  constructor
  · intro h
    obtain ⟨out, ⟨hsim, rfl⟩, c, hc, c1, hc1, product, hp, s1, hs1, a0, ha0, a1, ha1, h⟩ := h
    obtain ⟨rfl, rfl⟩ := Prod.mk.inj (Except.ok.inj h)
    exact ⟨rfl, hsim, c, ⟨hc, ha0, ha1⟩, ⟨c1, product, hc1, hp, hs1⟩, rfl, rfl⟩
  · intro h
    obtain ⟨rfl, hsim, c, hcm, ⟨c1, product, hc1, hp, hs1⟩, hc0, hs0⟩ := h
    refine ⟨_, ⟨hsim, rfl⟩, c, hcm.challenge, c1, hc1, product, hp, _, hs1, _,
      hcm.a0_eq, _, hcm.a1_eq, ?_⟩
    rw [← hc0, ← hs0]
    rfl

lemma Committed.accepted {c : Felt} {a0 a1 : Point} (h : Committed prefixFelt v a0 a1 proof c)
    (ha : (Transcript.residues ⟨c, proof.c0, proof.s0, proof.s1⟩).Accepts g2 v (v - g1) a0 a1) :
    Accepted v g1 g2 proof prefixFelt := by
  obtain ⟨b0, hb0, rfl⟩ := toAffine_of_tryFromProjective h.a0_eq
  obtain ⟨b1, hb1, rfl⟩ := toAffine_of_tryFromProjective h.a1_eq
  exact ⟨b0, b1, c, hb0, hb1, h.challenge, ha⟩

/-- The prover commits to the bit and produces a transcript of the disjunction: it
answers its own branch and simulates the other. -/
theorem accepted_of_prove {bit : UInt8}
    (h : prove draws bit random g1 g2 prefixFelt = .ok (v, proof)) :
    v = bit.toNat • g1 + residueFromFelt random • g2 ∧ Accepted v g1 g2 proof prefixFelt := by
  unfold prove at h
  by_cases hz : bit = 0
  · rw [if_pos hz, proveBit0_eq_ok] at h
    obtain ⟨-, rfl, -, c, hc, hc0, ⟨product, hp, hs0⟩, hs1⟩ := h
    refine ⟨by simp [hz], hc.accepted ⟨?_, ?_⟩⟩
    · show Sigma.Accepts g2 _ _ (residueFromFelt proof.c0) (residueFromFelt proof.s0)
      rw [residue_of_scalarAdd hs0, residue_of_scalarMul hp]
      exact Sigma.accepts_respond g2 _ _ _
    · show Sigma.Accepts g2 _ _ (residueFromFelt c - residueFromFelt proof.c0)
        (residueFromFelt proof.s1)
      -- the challenge that is left is the one the simulator chose
      rw [residue_of_scalarSub hc0, sub_sub_cancel, hs1]
      exact Sigma.accepts_simulate g2 _ _ _
  · by_cases hone : bit = 1
    · -- the branches change places: the first is simulated, the second is answered
      rw [if_neg hz, if_pos hone, proveBit1_eq_ok] at h
      obtain ⟨rfl, -, c, hc, ⟨c1, product, hc1, hp, hs1⟩, hc0, hs0⟩ := h
      refine ⟨by simp [hone], hc.accepted ⟨?_, ?_⟩⟩
      · show Sigma.Accepts g2 _ _ (residueFromFelt proof.c0) (residueFromFelt proof.s0)
        rw [hc0, hs0]
        exact Sigma.accepts_simulate g2 _ _ _
      · show Sigma.Accepts g2 _ _ (residueFromFelt c - residueFromFelt proof.c0)
          (residueFromFelt proof.s1)
        rw [hc0, ← residue_of_scalarSub hc1, residue_of_scalarAdd hs1,
          residue_of_scalarMul hp, add_sub_cancel_left]
        exact Sigma.accepts_respond g2 _ _ _
    · rw [if_neg hz, if_neg hone] at h
      exact absurd h (by simp)

/-! ## Extraction -/

section Extraction

omit [Poseidon]

/-- `v` commits to a bit. -/
def Opens (v g1 g2 : Point) (opening : ℕ × Felt) : Prop :=
  (opening.1 = 0 ∨ opening.1 = 1) ∧
    v = add (mul (opening.1 : Felt) (some g1)) (mul opening.2 (some g2))

lemma opens_iff {v g1 g2 : Point} {opening : ℕ × Felt} :
    Opens v g1 g2 opening ↔
      opening.1 ≤ 1 ∧ v = opening.1 • g1 + residueFromFelt opening.2 • g2 := by
  unfold Opens
  have hbit : opening.1 = 0 ∨ opening.1 = 1 ↔ opening.1 ≤ 1 := by omega
  rw [hbit, and_congr_right_iff]
  intro hle
  have hs : opening.1 < fieldPrime := lt_of_le_of_lt hle (by decide)
  rw [mul_eq_smul, mul_eq_smul, add_eq, residueFromFelt_natCast hs, Nat.cast_smul_eq_nsmul]

/-- The opening two transcripts with the same first messages give away: the bit is the
branch on which the challenge was spent differently. -/
def extractOpening (t t' : Transcript) : ℕ × Felt :=
  let (branch, r) := t.residues.extract t'.residues
  (branch.toNat, feltFromResidue r)

theorem opens_extractOpening {v g1 g2 a0 a1 : Point} {t t' : Transcript}
    (h : t.Satisfies v g1 g2 a0 a1) (h' : t'.Satisfies v g1 g2 a0 a1)
    (hne : t.c.val % curveOrder ≠ t'.c.val % curveOrder) :
    Opens v g1 g2 (extractOpening t t') := by
  have hc : t.residues.challenge ≠ t'.residues.challenge := by
    show residueFromFelt t.c ≠ residueFromFelt t'.c
    rw [Ne, residueFromFelt_eq_iff]
    exact hne
  have hex := Sigma.OrTranscript.extract_correct (Transcript.satisfies_iff.mp h)
    (Transcript.satisfies_iff.mp h') hc
  rw [opens_iff]
  unfold extractOpening
  generalize t.residues.extract t'.residues = found at hex
  obtain ⟨branch, r⟩ := found
  simp only [residueFromFelt_feltFromResidue]
  cases branch with
  | false =>
    -- `V` itself is the multiple of `g2`: the bit is 0
    refine ⟨by simp, ?_⟩
    rw [Bool.toNat_false, zero_smul, zero_add]
    exact hex
  | true =>
    -- `V - g1` is: the bit is 1
    refine ⟨by simp, ?_⟩
    rw [Bool.toNat_true, one_smul, ← sub_eq_iff_eq_add']
    exact hex

end Extraction

end Bit

end KrustyKms.Crypto

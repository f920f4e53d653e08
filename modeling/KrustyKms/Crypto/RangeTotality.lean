import KrustyKms.Crypto.RangeTheorems

/-!
# When the range verifier panics

The lengths are compared with the bit size, which itself is not bounded: an empty proof
for no bits is indexed at `0`, and a proof of more than 128 bits reaches the weight of
index 128 once its first 128 bits are accepted (`verify_total_iff`).
-/

namespace KrustyKms.Crypto.Range

open Support MayPanic StarkCurve

section Totality

variable {Point : Type} [CurvePoint Point] [Poseidon] {range : Range} {bitSize : ℕ}
  {g1 g2 : Point} {initialPrefix : Felt}

def BitAccepted (range : Range) (g1 g2 : Point) (initialPrefix : Felt) (i : ℕ) : Prop :=
  ∃ (commitment : SerializablePoint) (a : AffinePoint Point) (proof : ProofOfBit),
    range.commitments[i]? = some commitment ∧ commitment.toAffine = .ok a ∧
    range.proofs[i]? = some proof ∧
    Bit.verify (affineToProjective a) g1 g2 proof (initialPrefix + (i : Felt)) = .ok true

lemma bitAccepted_iff {i : ℕ} :
    BitAccepted range g1 g2 initialPrefix i ↔
      ∃ v, Returns (verifyBit range g1 g2 initialPrefix i) v := by
  constructor
  · intro h
    obtain ⟨commitment, a, proof, hc, ha, hp, hok⟩ := h
    exact ⟨_, returns_verifyBit.mpr ⟨commitment, a, proof, hc, ha, rfl, hp, hok⟩⟩
  · intro h
    obtain ⟨v, hv⟩ := h
    obtain ⟨commitment, a, proof, hc, ha, rfl, hp, hok⟩ := returns_verifyBit.mp hv
    exact ⟨commitment, a, proof, hc, ha, hp, hok⟩

/-! ## Steps -/

omit [CurvePoint Point] [Poseidon] in
lemma completes_powerOfTwo {i : ℕ} : Completes (powerOfTwo i) ↔ i < 128 := by
  show Completes (orPanic _) ↔ _
  rw [completes_orPanic]
  by_cases h : i < 128
  · simp [h]
  · simp [h]

lemma completes_verifyBit {i : ℕ} (hc : i < range.commitments.length)
    (hp : i < range.proofs.length) : Completes (verifyBit range g1 g2 initialPrefix i) := by
  unfold verifyBit
  refine completes_bind (completes_index.mpr hc) ?_
  intro commitment _
  refine completes_bind completes_lift ?_
  intro a _
  refine completes_bind (completes_index.mpr hp) ?_
  intro proof _
  refine completes_bind completes_lift ?_
  intro ok _
  cases ok with
  | false => simp
  | true => simp

lemma not_completes_verifyBit {i : ℕ} (h : range.commitments.length ≤ i) :
    ¬ Completes (verifyBit range g1 g2 initialPrefix i) := by
  intro hc
  unfold verifyBit at hc
  have hin := completes_index.mp (completes_bind_iff.mp hc).1
  omega

lemma completes_verifyRound {vTotal : Point} {i : ℕ} (hmax : i < 128)
    (hc : i < range.commitments.length) (hp : i < range.proofs.length) :
    Completes (verifyRound range g1 g2 initialPrefix vTotal i) := by
  unfold verifyRound
  refine completes_bind (completes_powerOfTwo.mpr hmax) ?_
  intro pow _
  refine completes_bind (completes_verifyBit hc hp) ?_
  intro v _
  exact completes_pure

lemma not_completes_verifyRound {vTotal : Point} {i : ℕ} (h : 128 ≤ i) :
    ¬ Completes (verifyRound range g1 g2 initialPrefix vTotal i) := by
  intro hc
  unfold verifyRound at hc
  have hpow := completes_powerOfTwo.mp (completes_bind_iff.mp hc).1
  omega

/-! ## Runs -/

def AcceptedBelow (range : Range) (g1 g2 : Point) (initialPrefix : Felt) (i : ℕ) : Prop :=
  ∀ j < i, BitAccepted range g1 g2 initialPrefix j

lemma AcceptedBelow.succ {i : ℕ} {v : Point} (h : AcceptedBelow range g1 g2 initialPrefix i)
    (hbit : Returns (verifyBit range g1 g2 initialPrefix i) v) :
    AcceptedBelow range g1 g2 initialPrefix (i + 1) := by
  intro j hj
  rcases Nat.lt_succ_iff_lt_or_eq.mp hj with hlt | heq
  · exact h j hlt
  · rw [heq]
    exact bitAccepted_iff.mpr ⟨v, hbit⟩

lemma completes_verify_of_length_ne
    (h : range.commitments.length ≠ bitSize ∨ range.proofs.length ≠ bitSize) :
    Completes (verify range bitSize g1 g2 initialPrefix) := by
  unfold verify
  rw [if_pos h]
  simp

lemma completes_verify_iff_loop (hc : range.commitments.length = bitSize)
    (hp : range.proofs.length = bitSize) :
    Completes (verify range bitSize g1 g2 initialPrefix) ↔
      Completes (verifyBit range g1 g2 initialPrefix 0) ∧
      ∀ v0, Returns (verifyBit range g1 g2 initialPrefix 0) v0 →
        Completes ((List.range' 1 (bitSize - 1)).foldlM
          (verifyRound range g1 g2 initialPrefix) v0) := by
  unfold verify
  simp only [hc, hp, ne_eq, not_true_eq_false, or_self, if_false]
  rw [completes_bind_iff]

lemma completes_verify_of_bounded (hc : range.commitments.length = bitSize)
    (hp : range.proofs.length = bitSize) (hpos : 1 ≤ bitSize)
    (hb : bitSize ≤ 128 ∨ ∃ i < 128, ¬ BitAccepted range g1 g2 initialPrefix i) :
    Completes (verify range bitSize g1 g2 initialPrefix) := by
  rw [completes_verify_iff_loop hc hp]
  refine ⟨completes_verifyBit (by omega) (by omega), ?_⟩
  intro v0 hv0
  refine completes_foldlM_range' (fun i _ => AcceptedBelow range g1 g2 initialPrefix i) ?_ ?_ ?_
  · -- a round from index 128 on would have every earlier bit accepted
    intro i vTotal hlo hhi ha
    have hmax : i < 128 := by
      rcases hb with hle | ⟨j, hj, hr⟩
      · omega
      · by_contra hge
        exact hr (ha j (by omega))
    exact completes_verifyRound hmax (by omega) (by omega)
  · intro i vTotal vTotal' hlo hhi ha hrn
    obtain ⟨-, v, hv, -⟩ := returns_verifyRound.mp hrn
    exact ha.succ hv
  · have hn : AcceptedBelow range g1 g2 initialPrefix 0 := by
      intro j hj
      omega
    exact hn.succ hv0

lemma not_completes_verify_of_accepted (hc : range.commitments.length = bitSize)
    (hp : range.proofs.length = bitSize) (hlr : 128 < bitSize)
    (ha : ∀ i < 128, BitAccepted range g1 g2 initialPrefix i) :
    ¬ Completes (verify range bitSize g1 g2 initialPrefix) := by
  rw [completes_verify_iff_loop hc hp]
  intro h
  obtain ⟨v0, hv0⟩ := bitAccepted_iff.mp (ha 0 (by omega))
  have hl := h.2 v0 hv0
  have hs : List.range' 1 (bitSize - 1) =
      List.range' 1 127 ++ 128 :: List.range' 129 (bitSize - 129) := by
    rw [show bitSize - 1 = 127 + (bitSize - 129 + 1) by omega, ← List.range'_append_1]
    rfl
  have hr : ∃ vTotal, Returns ((List.range' 1 127).foldlM
      (verifyRound range g1 g2 initialPrefix) v0) vTotal ∧ True := by
    refine returns_foldlM_range' (fun _ _ => True) _ 1 127 ?_ trivial
    intro i vTotal hlo hhi _
    obtain ⟨v, hv⟩ := bitAccepted_iff.mp (ha i (by omega))
    exact ⟨_, returns_verifyRound.mpr ⟨by omega, v, hv, rfl⟩, trivial⟩
  obtain ⟨vTotal, hvt, -⟩ := hr
  rw [hs, List.foldlM_append] at hl
  have hn := (completes_bind_iff.mp hl).2 vTotal hvt
  rw [List.foldlM_cons] at hn
  exact not_completes_verifyRound (by omega) (completes_bind_iff.mp hn).1

/-- The verifier never panics and accepts only 1 to 128 bits, exactly for the proofs whose
lengths are refused or whose bit size is in bounds, or that fail within the first 128 bits. -/
theorem verify_total_iff (range : Range) (bitSize : ℕ) (g1 g2 : Point) (initialPrefix : Felt) :
    (Completes (verify range bitSize g1 g2 initialPrefix) ∧
      ∀ V, Returns (verify range bitSize g1 g2 initialPrefix) V → 1 ≤ bitSize ∧ bitSize ≤ 128) ↔
    (range.commitments.length ≠ bitSize ∨ range.proofs.length ≠ bitSize) ∨
      1 ≤ bitSize ∧
        (bitSize ≤ 128 ∨ ∃ i < 128, ¬ BitAccepted range g1 g2 initialPrefix i) := by
  have hs : ∀ V, Returns (verify range bitSize g1 g2 initialPrefix) V →
      1 ≤ bitSize ∧ bitSize ≤ 128 := by
    intro V hV
    obtain ⟨-, -, hpos, hmax, -⟩ := returns_verify.mp hV
    exact ⟨hpos, hmax⟩
  by_cases hlen : range.commitments.length ≠ bitSize ∨ range.proofs.length ≠ bitSize
  · exact ⟨fun _ => .inl hlen, fun _ => ⟨completes_verify_of_length_ne hlen, hs⟩⟩
  · obtain ⟨hc, hp⟩ : range.commitments.length = bitSize ∧
        range.proofs.length = bitSize := by simpa using hlen
    constructor
    · intro h
      refine .inr ⟨?_, ?_⟩
      · by_contra hz
        have hf := ((completes_verify_iff_loop hc hp).mp h.1).1
        exact not_completes_verifyBit (by omega) hf
      · by_contra hb
        push Not at hb
        exact not_completes_verify_of_accepted hc hp hb.1 hb.2 h.1
    · intro h
      obtain ⟨hpos, hb⟩ := h.resolve_left hlen
      exact ⟨completes_verify_of_bounded hc hp hpos hb, hs⟩

end Totality

section Sample

attribute [local instance] sampleCurve samplePoseidon

/-- An empty proof of no bits passes the length check and is indexed out of bounds. -/
theorem empty_range_panics :
    ¬ Completes (verify ⟨[], []⟩ 0 (generator : CyclicPoint) generatorH 42) := by
  intro h
  have hf := ((completes_verify_iff_loop (by rfl) (by rfl)).mp h).1
  exact not_completes_verifyBit (le_refl 0) hf

end Sample

end KrustyKms.Crypto.Range

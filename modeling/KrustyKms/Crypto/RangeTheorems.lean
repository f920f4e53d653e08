import KrustyKms.Crypto.BitTheorems
import KrustyKms.Crypto.CyclicCurve
import KrustyKms.Crypto.Range

/-!
# Range proofs recombine openings

The verifier returns the weighted sum of the bit commitments (`returns_verify`), with the loop's
state described by `Accumulated`.
-/

namespace KrustyKms.Crypto.Range

open Arithmetic Support MayPanic StarkCurve

/-! ## Weights -/

lemma returns_powerOfTwo {i pow : ℕ} : Returns (powerOfTwo i) pow ↔ i < 128 ∧ pow = 2 ^ i := by
  unfold powerOfTwo Returns
  split_ifs with h
  · simp [ExceptT.lift, ExceptT.run, ExceptT.mk, h, eq_comm]
  · simp [ExceptT.lift, ExceptT.run, ExceptT.mk, h]

lemma lt_fieldPrime_of_lt_two_pow {v bitSize : ℕ} (h : v < 2 ^ bitSize) (hmax : bitSize ≤ 128) :
    v < fieldPrime := by
  calc v < 2 ^ bitSize := h
    _ ≤ 2 ^ 128 := Nat.pow_le_pow_right (by decide) hmax
    _ < fieldPrime := by decide

lemma residueFromFelt_powerOfTwo {i : ℕ} (h : i < 128) :
    residueFromFelt ((2 ^ i : ℕ) : Felt) = ((2 ^ i : ℕ) : OrderResidue) := by
  apply residueFromFelt_natCast
  exact lt_fieldPrime_of_lt_two_pow (Nat.pow_lt_pow_right (by decide) h) le_rfl

lemma returns_addRandomness {r r' rInn : Felt} {i : ℕ}
    (h : Returns (addRandomness r (rInn, i)) r') :
    residueFromFelt r' = residueFromFelt r + 2 ^ i • residueFromFelt rInn := by
  unfold addRandomness at h
  simp only [returns_bind, returns_lift, returns_powerOfTwo] at h
  obtain ⟨pow, ⟨hi, rfl⟩, product, hp, hsum⟩ := h
  rw [residue_of_scalarAdd hsum, residue_of_scalarMul hp, residueFromFelt_powerOfTwo hi,
    nsmul_eq_mul]

lemma residue_of_foldlM_addRandomness {randomValues : List Felt} {k : ℕ} {r r' : Felt}
    (h : Returns ((randomValues.zipIdx k).foldlM addRandomness r) r') :
    residueFromFelt r' =
      residueFromFelt r + 2 ^ k • binarySum (randomValues.map residueFromFelt) := by
  induction randomValues generalizing k r with
  | nil =>
    rw [List.zipIdx_nil, List.foldlM_nil, returns_pure] at h
    simp [h]
  | cons rInn randomValues ih =>
    rw [List.zipIdx_cons, List.foldlM_cons, returns_bind] at h
    obtain ⟨next, hn, hr⟩ := h
    rw [ih hr, returns_addRandomness hn, List.map_cons, binarySum_cons, nsmul_add, smul_smul,
      ← pow_succ, add_assoc]

section Completeness

variable {Point : Type} [CurvePoint Point] [Poseidon]

/-! ## The verifier -/

section Verifier

variable {range : Range} {bitSize : ℕ} {g1 g2 : Point} {initialPrefix : Felt}

lemma returns_verifyBit {i : ℕ} {v : Point} :
    Returns (verifyBit range g1 g2 initialPrefix i) v ↔
      ∃ (commitment : SerializablePoint) (a : AffinePoint Point) (proof : ProofOfBit),
        range.commitments[i]? = some commitment ∧ commitment.toAffine = .ok a ∧
        v = affineToProjective a ∧ range.proofs[i]? = some proof ∧
        Bit.verify v g1 g2 proof (initialPrefix + (i : Felt)) = .ok true := by
  unfold verifyBit
  simp only [returns_bind, returns_index, returns_lift, returns_ite_throw, returns_pure]
  constructor
  · intro h
    obtain ⟨commitment, hc, a, ha, proof, hp, ok, hok, ht, rfl⟩ := h
    have ht : ok = true := by simpa using ht
    rw [ht] at hok
    exact ⟨commitment, a, proof, hc, ha, rfl, hp, hok⟩
  · intro h
    obtain ⟨commitment, a, proof, hc, ha, rfl, hp, hok⟩ := h
    exact ⟨commitment, hc, a, ha, proof, hp, true, hok, by simp, rfl⟩

lemma returns_verifyRound {vTotal vTotal' : Point} {i : ℕ} :
    Returns (verifyRound range g1 g2 initialPrefix vTotal i) vTotal' ↔
      i < 128 ∧ ∃ v, Returns (verifyBit range g1 g2 initialPrefix i) v ∧
        vTotal' = vTotal + 2 ^ i • v := by
  unfold verifyRound
  simp only [returns_bind, returns_powerOfTwo, returns_pure, mul_eq_smul, add_eq]
  constructor
  · intro h
    obtain ⟨pow, ⟨hi, rfl⟩, v, hv, rfl⟩ := h
    rw [residueFromFelt_powerOfTwo hi, Nat.cast_smul_eq_nsmul]
    exact ⟨hi, v, hv, rfl⟩
  · intro h
    obtain ⟨hi, v, hv, rfl⟩ := h
    refine ⟨_, ⟨hi, rfl⟩, v, hv, ?_⟩
    rw [residueFromFelt_powerOfTwo hi, Nat.cast_smul_eq_nsmul]

def BitsVerified (range : Range) (g1 g2 : Point) (initialPrefix : Felt) (vs : List Point) : Prop :=
  ∀ i v, vs[i]? = some v → Returns (verifyBit range g1 g2 initialPrefix i) v

lemma BitsVerified.concat {vs : List Point} {v : Point}
    (hvs : BitsVerified range g1 g2 initialPrefix vs)
    (hv : Returns (verifyBit range g1 g2 initialPrefix vs.length) v) :
    BitsVerified range g1 g2 initialPrefix (vs ++ [v]) := by
  intro i u hu
  rcases Nat.lt_trichotomy i vs.length with hlt | heq | hgt
  · rw [List.getElem?_append_left hlt] at hu
    exact hvs i u hu
  · rw [heq, List.getElem?_concat_length, Option.some.injEq] at hu
    rw [heq, ← hu]
    exact hv
  · rw [List.getElem?_eq_none (by simp; omega)] at hu
    exact absurd hu (by simp)

def Accumulated (range : Range) (g1 g2 : Point) (initialPrefix : Felt) (i : ℕ) (vTotal : Point) :
    Prop :=
  i ≤ 128 ∧ ∃ vs : List Point, vs.length = i ∧ BitsVerified range g1 g2 initialPrefix vs ∧
    vTotal = binarySum vs

lemma Accumulated.first {v0 : Point} (h : Returns (verifyBit range g1 g2 initialPrefix 0) v0) :
    Accumulated range g1 g2 initialPrefix 1 v0 := by
  have hnil : BitsVerified range g1 g2 initialPrefix ([] : List Point) := by
    intro i v hv
    exact absurd hv (by simp)
  exact ⟨by decide, [v0], rfl, hnil.concat h, by simp⟩

lemma Accumulated.round {i : ℕ} {vTotal vTotal' : Point}
    (h : Accumulated range g1 g2 initialPrefix i vTotal)
    (hr : Returns (verifyRound range g1 g2 initialPrefix vTotal i) vTotal') :
    Accumulated range g1 g2 initialPrefix (i + 1) vTotal' := by
  obtain ⟨-, vs, rfl, hvs, rfl⟩ := h
  obtain ⟨hi, v, hv, rfl⟩ := returns_verifyRound.mp hr
  exact ⟨by omega, vs ++ [v], by simp, hvs.concat hv, (binarySum_concat vs v).symm⟩

lemma BitsVerified.round {vs : List Point} (hvs : BitsVerified range g1 g2 initialPrefix vs)
    {i : ℕ} (hi : i < vs.length) (hmax : i < 128) :
    Returns (verifyRound range g1 g2 initialPrefix (binarySum (vs.take i)) i)
      (binarySum (vs.take (i + 1))) := by
  have hget : vs[i]? = some vs[i] := List.getElem?_eq_getElem hi
  have ht : vs.take (i + 1) = vs.take i ++ [vs[i]] := by
    rw [List.take_add_one, hget]
    rfl
  rw [returns_verifyRound, ht, binarySum_concat, List.length_take, Nat.min_eq_left (by omega)]
  exact ⟨hmax, vs[i], hvs i _ hget, rfl⟩

/-- `verify` returns the commitments' weighted sum, once every bit proof is valid;
it returns for no other size than 1 to 128. -/
theorem returns_verify {V : Point} :
    Returns (verify range bitSize g1 g2 initialPrefix) V ↔
      range.commitments.length = bitSize ∧ range.proofs.length = bitSize ∧
      1 ≤ bitSize ∧ Accumulated range g1 g2 initialPrefix bitSize V := by
  unfold verify
  simp only [returns_bind, returns_ite_throw]
  constructor
  · intro h
    obtain ⟨hlen, v0, hv0, hlp⟩ := h
    have hlen : range.commitments.length = bitSize ∧ range.proofs.length = bitSize := by
      simpa using hlen
    -- the first bit is read before the loop, so an empty proof panics
    have hpos : 1 ≤ bitSize := by
      obtain ⟨_, _, _, hc, -⟩ := returns_verifyBit.mp hv0
      obtain ⟨h, -⟩ := List.getElem?_eq_some_iff.mp hc
      omega
    -- `Accumulated` holds after the first bit, and every round keeps it
    have hl := foldlM_range'_invariant (Accumulated range g1 g2 initialPrefix)
      (fun _ _ _ _ _ hinv hr => hinv.round hr) (Accumulated.first hv0) hlp
    rw [show 1 + (bitSize - 1) = bitSize by omega] at hl
    exact ⟨hlen.1, hlen.2, hpos, hl⟩
  · intro h
    obtain ⟨hcm, hp, hpos, hmax, vs, hs, hvs, rfl⟩ := h
    have hget : vs[0]? = some vs[0] := List.getElem?_eq_getElem (by omega)
    have hf : binarySum (vs.take 1) = vs[0] := by
      rw [List.take_add_one, hget]
      simp
    refine ⟨by simp [hcm, hp], vs[0], hvs 0 _ hget, ?_⟩
    -- conversely, each round finds the sum of the commitments before it
    obtain ⟨V, hrt, hV⟩ := returns_foldlM_range'
      (fun i vTotal => vTotal = binarySum (vs.take i))
      (verifyRound range g1 g2 initialPrefix) 1 (bitSize - 1)
      (fun i vTotal hlo hhi hinv =>
        ⟨_, by rw [hinv]; exact hvs.round (by omega) (by omega), rfl⟩) hf.symm
    rw [show 1 + (bitSize - 1) = vs.length by omega, List.take_length] at hV
    rw [← hV]
    exact hrt

end Verifier

/-! ## The prover -/

section Prover

variable {draws : ℕ → Bit.Draws} {b bitSize : ℕ} {g1 g2 : Point} {initialPrefix : Felt}
  {randomValues : List Felt}

/-- What the prover holds for one bit: the commitment, the proof and the randomness. -/
abbrev BitResult (Point : Type) := Point × ProofOfBit × Felt

lemma returns_proveBit {i : ℕ} {result : BitResult Point} :
    Returns (proveBit draws b g1 g2 initialPrefix randomValues i) result ↔
      randomValues[i]? = some result.2.2 ∧
        Bit.prove (draws i) (UInt8.ofNat ((b >>> i) &&& 1)) result.2.2 g1 g2
          (initialPrefix + (i : Felt)) = .ok (result.1, result.2.1) := by
  unfold proveBit
  simp only [returns_bind, returns_index, returns_lift, returns_pure]
  constructor
  · intro h
    obtain ⟨rInn, hr, pair, hp, rfl⟩ := h
    exact ⟨hr, hp⟩
  · intro h
    obtain ⟨hr, hpr⟩ := h
    exact ⟨_, hr, _, hpr, rfl⟩

omit [Poseidon] in
lemma foldlM_accumulate {results : List (BitResult Point)} {k : ℕ}
    {proofs proofs' : List ProofOfBit} {commitments commitments' : List SerializablePoint}
    {r r' : Felt} (h : Returns ((results.zipIdx k).foldlM accumulate (proofs, commitments, r))
    (proofs', commitments', r')) :
    proofs' = proofs ++ results.map (fun result => result.2.1) ∧
      (∃ sent, commitments' = commitments ++ sent ∧ List.Forall₂
        (fun result commitment => SerializablePoint.tryFromProjective result.1 = .ok commitment)
        results sent) ∧
      Returns (((results.map fun result => result.2.2).zipIdx k).foldlM addRandomness r) r' := by
  -- the three accumulators grow together; the rounds on `r` are those of the sum alone
  induction results generalizing k proofs commitments r with
  | nil =>
    rw [List.zipIdx_nil, List.foldlM_nil, returns_pure] at h
    simp only [Prod.mk.injEq] at h
    obtain ⟨rfl, rfl, rfl⟩ := h
    exact ⟨by simp, ⟨[], by simp, .nil⟩, by simp⟩
  | cons result results ih =>
    rw [List.zipIdx_cons, List.foldlM_cons, returns_bind] at h
    obtain ⟨next, hn, hr⟩ := h
    unfold accumulate at hn
    simp only [returns_bind, returns_lift, returns_pure] at hn
    obtain ⟨pow, hpow, commitment, hc, product, hp, sum, hsum, rfl⟩ := hn
    obtain ⟨hpr, ⟨sent, hs, hall⟩, hrn⟩ := ih hr
    refine ⟨by simp [hpr], ⟨commitment :: sent, by simp [hs], .cons hc hall⟩, ?_⟩
    rw [List.map_cons, List.zipIdx_cons, List.foldlM_cons, returns_bind]
    refine ⟨sum, ?_, hrn⟩
    unfold addRandomness
    simp only [returns_bind, returns_lift]
    exact ⟨pow, hpow, product, hp, hsum⟩

omit [Poseidon] in
lemma returns_maxValue {max : ℕ} (h : bitSize ≤ 128) :
    Returns (maxValue bitSize) max ↔ max = 2 ^ bitSize - 1 := by
  unfold maxValue
  split_ifs with hmax
  · -- `u128::MAX`, since shifting by 128 would panic
    rw [returns_pure, hmax, eq_comm]
  · simp only [returns_bind, returns_powerOfTwo, returns_pure]
    constructor
    · intro h
      obtain ⟨pow, ⟨-, rfl⟩, rfl⟩ := h
      rfl
    · intro h
      subst h
      exact ⟨_, ⟨by omega, rfl⟩, rfl⟩

theorem returns_proveWithRandomness {range : Range} {r : Felt} :
    Returns (proveWithRandomness draws b bitSize g1 g2 initialPrefix randomValues) (range, r) ↔
      bitSize ≤ 128 ∧ randomValues.length = bitSize ∧ b < 2 ^ bitSize ∧
      ∃ results : List (BitResult Point),
        List.Forall₂ (fun i result =>
            Returns (proveBit draws b g1 g2 initialPrefix randomValues i) result)
          (List.range bitSize) results ∧
        Returns (results.zipIdx.foldlM accumulate ([], [], 0))
          (range.proofs, range.commitments, r) := by
  unfold proveWithRandomness
  simp only [returns_bind, returns_ite_throw, returns_pure, returns_mapM, not_lt, not_not]
  have hpow : 0 < 2 ^ bitSize := Nat.two_pow_pos bitSize
  constructor
  · intro h
    obtain ⟨hs, hlen, max, hmax, hb, results, hresults, acc, hacc, h⟩ := h
    rw [returns_maxValue hs] at hmax
    obtain ⟨rfl, rfl⟩ := Prod.mk.inj h
    exact ⟨hs, hlen, by omega, results, hresults, hacc⟩
  · intro h
    obtain ⟨hs, hlen, hb, results, hresults, hacc⟩ := h
    exact ⟨hs, hlen, _, (returns_maxValue hs).mpr rfl, by omega, results, hresults, _, hacc,
      rfl⟩

lemma opening_of_proveBit {i : ℕ} {result : BitResult Point}
    (h : Returns (proveBit draws b g1 g2 initialPrefix randomValues i) result) :
    result.1 = (b / 2 ^ i % 2) • g1 + residueFromFelt result.2.2 • g2 := by
  have ho := (Bit.accepted_of_prove (returns_proveBit.mp h).2).1
  have hd : (UInt8.ofNat ((b >>> i) &&& 1)).toNat = b / 2 ^ i % 2 := by
    rw [Nat.and_one_is_mod, Nat.shiftRight_eq_div_pow, UInt8.toNat_ofNat']
    omega
  rw [hd] at ho
  exact ho

section Results

variable {results : List (BitResult Point)}
  (hresults : List.Forall₂
    (fun i result => Returns (proveBit draws b g1 g2 initialPrefix randomValues i) result)
    (List.range bitSize) results)

include hresults

lemma length_results : results.length = bitSize := by
  rw [← hresults.length_eq, List.length_range]

lemma proveBit_of_getElem? {i : ℕ} {result : BitResult Point} (h : results[i]? = some result) :
    Returns (proveBit draws b g1 g2 initialPrefix randomValues i) result := by
  obtain ⟨hi, rfl⟩ := List.getElem?_eq_some_iff.mp h
  have hr : i < (List.range bitSize).length := by
    rw [hresults.length_eq]
    exact hi
  have hat := (List.forall₂_iff_get.mp hresults).2 i hr hi
  simpa using hat

lemma map_randomness_results (hlen : randomValues.length = bitSize) :
    results.map (fun result => result.2.2) = randomValues := by
  apply List.ext_getElem?
  intro i
  rw [List.getElem?_map]
  cases h : results[i]? with
  | none =>
    have hi := List.getElem?_eq_none_iff.mp h
    rw [length_results hresults, ← hlen] at hi
    rw [List.getElem?_eq_none hi]
    rfl
  | some result => exact (returns_proveBit.mp (proveBit_of_getElem? hresults h)).1.symm

lemma binarySum_results (hb : b < 2 ^ bitSize) :
    binarySum (results.map fun result => result.1) =
      b • g1 + binarySum (results.map fun result => residueFromFelt result.2.2) • g2 := by
  have hl := length_results hresults
  have hfst : ((List.range bitSize).zip results).map Prod.fst = List.range bitSize :=
    List.map_fst_zip (by simp [hl])
  have hsnd : ((List.range bitSize).zip results).map Prod.snd = results :=
    List.map_snd_zip (by simp [hl])
  have hd := congrArg (List.map fun i => b / 2 ^ i % 2) hfst
  have hp := congrArg (List.map fun result : BitResult Point => result.1) hsnd
  have hr := congrArg (List.map fun result : BitResult Point =>
    residueFromFelt result.2.2) hsnd
  rw [List.map_map] at hd hp hr
  -- each commitment is opened by the digit and the randomness at its index
  have ho : ((List.range bitSize).zip results).map (fun entry => entry.2.1) =
      ((List.range bitSize).zip results).map fun entry =>
        (b / 2 ^ entry.1 % 2) • g1 + residueFromFelt entry.2.2.2 • g2 := by
    apply List.map_congr_left
    intro entry hen
    exact opening_of_proveBit ((List.forall₂_iff_zip.mp hresults).2 hen)
  have hv : binarySum (((List.range bitSize).zip results).map fun entry =>
      b / 2 ^ entry.1 % 2) = b := by
    have hs := binarySum_digits b bitSize hb
    rw [← hd] at hs
    exact hs
  rw [← hp, ← hr]
  show binarySum (((List.range bitSize).zip results).map fun entry => entry.2.1) = _
  rw [ho, binarySum_combination, hv]
  rfl

lemma bitsVerified_results (hg1 : g1 ≠ 0) {range : Range}
    (hpr : range.proofs = results.map fun result => result.2.1)
    (hs : List.Forall₂ (fun result commitment =>
    SerializablePoint.tryFromProjective result.1 = .ok commitment) results range.commitments)
    (hrs : ∀ proof ∈ range.proofs,
    residueFromFelt proof.s0 • g2 ≠ 0 ∧ residueFromFelt proof.s1 • g2 ≠ 0) :
    BitsVerified range g1 g2 initialPrefix (results.map fun result => result.1) := by
  intro i v hv
  rw [List.getElem?_map, Option.map_eq_some_iff] at hv
  obtain ⟨result, hr, rfl⟩ := hv
  have hi : i < results.length := (List.getElem?_eq_some_iff.mp hr).1
  have hsz : i < range.commitments.length := by
    rw [← hs.length_eq]
    exact hi
  -- the commitment and the proof at the index are those of the result
  have hc := (List.forall₂_iff_get.mp hs).2 i hi hsz
  rw [List.get_eq_getElem, (List.getElem?_eq_some_iff.mp hr).2] at hc
  obtain ⟨a, ha, hpn⟩ := toAffine_of_tryFromProjective hc
  have hp : range.proofs[i]? = some result.2.1 := by
    rw [hpr, List.getElem?_map, hr]
    rfl
  have hpv := (returns_proveBit.mp (proveBit_of_getElem? hresults hr)).2
  refine returns_verifyBit.mpr
    ⟨_, a, _, List.getElem?_eq_getElem hsz, ha, hpn.symm, hp, ?_⟩
  exact Bit.verify_eq_true.mpr ⟨(Bit.accepted_of_prove hpv).2, hg1,
    hrs _ (List.mem_of_getElem? hp)⟩

lemma returns_verify_results (hg1 : g1 ≠ 0) (hpos : 1 ≤ bitSize) (hmax : bitSize ≤ 128)
    {range : Range} (hp : range.proofs = results.map fun result => result.2.1)
    (hs : List.Forall₂ (fun result commitment =>
    SerializablePoint.tryFromProjective result.1 = .ok commitment) results range.commitments)
    (hr : ∀ proof ∈ range.proofs, mul proof.s0 (some g2) ≠ 0 ∧ mul proof.s1 (some g2) ≠ 0) :
    Returns (verify range bitSize g1 g2 initialPrefix)
      (binarySum (results.map fun result => result.1)) := by
  have hl := length_results hresults
  simp only [mul_eq_smul] at hr
  refine returns_verify.mpr ⟨?_, ?_, hpos, hmax, results.map fun result => result.1, ?_,
    bitsVerified_results hresults hg1 hp hs hr, rfl⟩
  · rw [← hs.length_eq, hl]
  · rw [hp, List.length_map, hl]
  · rw [List.length_map, hl]

end Results

lemma returns_computeTotalRandomness {range : Range} {r : Felt}
    (h : Returns (proveWithRandomness draws b bitSize g1 g2 initialPrefix randomValues)
    (range, r)) : Returns (computeTotalRandomness randomValues) r := by
  obtain ⟨hmax, hlen, -, results, hresults, hacc⟩ := returns_proveWithRandomness.mp h
  have hr := (foldlM_accumulate hacc).2.2
  rw [map_randomness_results hresults hlen] at hr
  unfold computeTotalRandomness
  rw [returns_ite_throw]
  exact ⟨by omega, hr⟩

lemma returns_verify_of_prove {range : Range} {r : Felt} (hg1 : g1 ≠ 0) (hpos : 1 ≤ bitSize)
    (h : Returns (proveWithRandomness draws b bitSize g1 g2 initialPrefix randomValues) (range, r))
    (hr : ∀ proof ∈ range.proofs, mul proof.s0 (some g2) ≠ 0 ∧ mul proof.s1 (some g2) ≠ 0) :
    Returns (verify range bitSize g1 g2 initialPrefix)
      (add (mul (b : Felt) (some g1)) (mul r (some g2))) := by
  obtain ⟨hmax, hlen, hb, results, hresults, hacc⟩ := returns_proveWithRandomness.mp h
  obtain ⟨hp, ⟨sent, hs, hall⟩, hrn⟩ := foldlM_accumulate hacc
  rw [List.nil_append] at hp hs
  rw [← hs] at hall
  have hv := returns_verify_results hresults hg1 hpos hmax hp hall hr
  -- the total is the weighted sum of the random values, which is the opening's randomness
  have ht := residue_of_foldlM_addRandomness hrn
  rw [residueFromFelt_zero, zero_add, pow_zero, one_smul, List.map_map] at ht
  rw [binarySum_results hresults hb] at hv
  rw [mul_eq_smul, mul_eq_smul, add_eq, ht,
    residueFromFelt_natCast (lt_fieldPrime_of_lt_two_pow hb hmax), Nat.cast_smul_eq_nsmul]
  exact hv

/-- **Completeness.** When the prover returns a range proof and the randomness `r` for
the value `b`, the verifier returns the commitment `b g1 + r g2`, where `r` is the
total of the random values. A generator of the group is any point but the identity. -/
theorem verify_proveWithRandomness {range : Range} {r : Felt} (hg1 : g1 ≠ 0) (hpos : 1 ≤ bitSize)
    (h : Returns (proveWithRandomness draws b bitSize g1 g2 initialPrefix randomValues) (range, r))
    (hresponses : ∀ proof ∈ range.proofs, mul proof.s0 (some g2) ≠ 0 ∧ mul proof.s1 (some g2) ≠ 0) :
    Returns (verify range bitSize g1 g2 initialPrefix)
        (add (mul (b : Felt) (some g1)) (mul r (some g2))) ∧
      Returns (computeTotalRandomness randomValues) r :=
  ⟨returns_verify_of_prove hg1 hpos h hresponses, returns_computeTotalRandomness h⟩

end Prover

end Completeness

section Sample

def sampleTable : CurveTable where
  points := generatorPoints ++ [
    ⟨13 * hLabel,
      0x14bed2424ac2c6e15b724c4b84589a4cf53dbaa26631e225a6460d1b59a037e,
      0x7c9c71f25a02bc65d880f7e41eff523963459cec2327dc2e2ceb317fa02e55⟩,
    ⟨-5 + 65 * hLabel,
      0x14e08ad0c9e5c4da5cc4a2cd0c2199c6b71702e68e7082f5f18cff88193ed4a,
      0x2313a611a0a5d99dd94e3f4a2eb6ec19209dfa64c0e5b2117849afc4154e44a⟩,
    ⟨5 - 58 * hLabel,
      0x4566ab283eed10cbcda572671251b9518cbb915f79fe7e71ffe37b308ec9527,
      0x34a706f4153384c562c06f2b97667cddafa79dbc737597014862de60e4dcc9⟩,
    ⟨11 * hLabel,
      0x1453284e400655723a7931a6244be63d381ccbf0def7a0ce6fe7def77c6c3a5,
      0x255dc2a2144777b8caeecc10e39ba15508e75e007eaad75bbc8c9d7bb3d5899⟩,
    ⟨0x1544dac2d9c7cb021b95fdc19336bf2e852dd2ff423fc6c6eb7b5e4a0eb339 * hLabel,
      0x632ef6c5ef60ccb93db84ecd8088a14cffbe106673d535e02c6ca61c6154fbf,
      0x1858a7d2dae1bedd38f4c4b487a3e0c390cecde9b615ed6732646c08a962598⟩,
    ⟨7 * hLabel,
      0x50145546aef9bfe27c58096376efaf0fafb855964f997be3676020e50ceda37,
      0x43f27479f8a30ee90646c876678b6842576b4fd76219790bf249e9acdb1e9c8⟩,
    ⟨1 + 17 * hLabel,
      0x5f8dc5507c90a708bfac4401fea6fa788fea6338fa106d566303ef6a2eaaf41,
      0xff708e57067bf9e9eb26beda1a2129e4ef8b23341ca4ea19c5a9c1c2176c4b⟩,
    ⟨3 + 51 * hLabel,
      0x48eb7c8d20100aa2dda00055abef49ebe437f6126bdb4a0d89c62a689dbdc28,
      0x5f9877679a076e7679b116ce3b65f4e30d564570cc2fbb8150f64c41b7f93d6⟩,
    ⟨-3 - 32 * hLabel,
      0x67e4c2ee5384ab39336a1320365bf45d9365d0cc1864ab957109c455e041095,
      0x295b5b434a59341839a9610b28b6ad7553af14681ea32042387e27897d2d322⟩,
    ⟨23 * hLabel,
      0x51eb0d235b34f8690d78769731486e397cdc8cfa2904b9ef73d795dc5539c0e,
      0x34dcf4e5b8b3af0e96cf7db8fe8c18d957741a3bbe4f9ed41c54007b2a5912d⟩,
    ⟨19 * hLabel,
      0x165a80d298a323730e23e44e9c6292417cd4d0bf82416968a77a3758ac03b45,
      0x6aed0e69a6cbe0ccce30ac7eafbe3a4bae47d4bba6f3e4ab1db405bb1d48a77⟩,
    ⟨0x1bf391d6d98eae6b0dbb0e6f3fe4684ccb758389769ca6a99fb1d0037d7e526 * hLabel,
      0x2f9e771b1b9747408f3ba2f64ee910c8fe9fe93a3ed2bb1b01170ed4134fe8e,
      0x7d9cc1410b2c1e312d2836befdc48f44713c761ac60b8050573c4da90cfb372⟩,
    ⟨2 + 47 * hLabel,
      0x721e177c33d010e30a329bfc6f1f303b6e04da74a05b1387440dc199b5140eb,
      0x4f1dc08e7bd9a25a132488024e6c57647dbf838a027531f499f34d467cddec9⟩]
  labels_nodup := by decide +kernel
  coordinates_nodup := by decide +kernel
  ne_zero := by decide +kernel

@[reducible] def sampleCurve : CurvePoint CyclicPoint :=
  sampleTable.curve (by decide +kernel) (by decide +kernel)

def sampleRange : Range where
  commitments := [
    sampleTable.point (13 * hLabel),
    sampleTable.point (1 + 17 * hLabel)]
  proofs := [
    ⟨sampleTable.point (11 * hLabel),
      sampleTable.point (5 - 58 * hLabel),
      0x277ca38365f858b002981b10ee3f084c5e330947973c594dd9427b90016c312,
      0x1544dac2d9c7cb021b95fdc19336bf2e852dd2ff423fc6c6eb7b5e4a0eb339,
      7⟩,
    ⟨sampleTable.point (-3 - 32 * hLabel),
      sampleTable.point (23 * hLabel),
      3,
      19,
      0x1bf391d6d98eae6b0dbb0e6f3fe4684ccb758389769ca6a99fb1d0037d7e526⟩]

def hashed (prefixFelt : Felt) (v : SerializablePoint) (proof : ProofOfBit) : List Felt :=
  [prefixFelt, v.x, v.y, proof.a0.x, proof.a0.y, proof.a1.x, proof.a1.y]

@[reducible] def samplePoseidon : Poseidon where
  hashArray felts :=
    if felts = hashed 42 sampleRange.commitments[0] sampleRange.proofs[0] then
      0x277ca38365f858b002981b10ee3f084c5e330947973c594dd9427b90016c317
    else if felts = hashed 43 sampleRange.commitments[1] sampleRange.proofs[1] then
      0x7a1d62ee8544a1d91eece2bb3ffe6078b9352c5041c8671ad3321f288b84712
    else 0

def sampleDraws (i : ℕ) : Bit.Draws := if i = 0 then ⟨7, 5, 11⟩ else ⟨19, 3, 23⟩

attribute [local instance] sampleCurve samplePoseidon

lemma sample_bits :
    Returns (proveBit sampleDraws 2 (generator : CyclicPoint) generatorH 42 [13, 17] 0)
      (CyclicPoint.mk (13 * hLabel), sampleRange.proofs[0], 13) ∧
    Returns (proveBit sampleDraws 2 (generator : CyclicPoint) generatorH 42 [13, 17] 1)
      (CyclicPoint.mk (1 + 17 * hLabel), sampleRange.proofs[1], 17) := by
  rw [returns_proveBit, returns_proveBit]
  refine ⟨⟨rfl, ?_⟩, rfl, ?_⟩
  · rw [Bit.prove, if_pos (by decide), Bit.proveBit0_eq_ok]
    simp only [sampleTable.curve_smul]
    refine ⟨?_, ?_, ?_, 0x277ca38365f858b002981b10ee3f084c5e330947973c594dd9427b90016c317,
      ⟨?_, ?_, ?_⟩, ?_, ⟨_, rfl, ?_⟩, ?_⟩
    all_goals decide +kernel
  · rw [Bit.prove, if_neg (by decide), if_pos (by decide), Bit.proveBit1_eq_ok]
    simp only [sampleTable.curve_smul]
    refine ⟨?_, ?_, 0x7a1d62ee8544a1d91eece2bb3ffe6078b9352c5041c8671ad3321f288b84712,
      ⟨?_, ?_, ?_⟩, ⟨_, _, rfl, rfl, ?_⟩, ?_, ?_⟩
    all_goals decide +kernel

def sampleResults : List (BitResult CyclicPoint) := [
  (CyclicPoint.mk (13 * hLabel), sampleRange.proofs[0], 13),
  (CyclicPoint.mk (1 + 17 * hLabel), sampleRange.proofs[1], 17)]

lemma sample_results : List.Forall₂ (fun i result =>
      Returns (proveBit sampleDraws 2 (generator : CyclicPoint) generatorH 42 [13, 17] i) result)
    (List.range 2) sampleResults :=
  .cons sample_bits.1 (.cons sample_bits.2 .nil)

lemma sample_proved :
    Returns (proveWithRandomness sampleDraws 2 2 (generator : CyclicPoint) generatorH 42 [13, 17])
      (sampleRange, 47) :=
  returns_proveWithRandomness.mpr ⟨by decide, rfl, by decide, _, sample_results,
    by decide +kernel⟩

lemma sample_responses : (generator : CyclicPoint) ≠ 0 ∧ ∀ proof ∈ sampleRange.proofs,
    mul proof.s0 (some (generatorH : CyclicPoint)) ≠ 0 ∧
      mul proof.s1 (some (generatorH : CyclicPoint)) ≠ 0 := by
  simp only [mul_eq_smul, sampleTable.curve_smul]
  decide +kernel

/-- The proof of `2` from the curve's generators is verified to `2 G + 47 H`. -/
theorem sampleRange_verified :
    Returns (proveWithRandomness sampleDraws 2 2 (generator : CyclicPoint) generatorH 42 [13, 17])
        (sampleRange, 47) ∧
      Returns (verify sampleRange 2 generator generatorH 42)
        (add (mul 2 (some generator)) (mul 47 (some generatorH)) : CyclicPoint) ∧
      Returns (computeTotalRandomness [13, 17]) 47 :=
  ⟨sample_proved, verify_proveWithRandomness sample_responses.1 (by decide) sample_proved
    sample_responses.2⟩

end Sample

/-! ## Soundness -/

section Soundness

variable {Point : Type} [CurvePoint Point] [Poseidon]

/-- The openings are those of the commitments, in their order, each to a bit. -/
def Opened (range : Range) (g1 g2 : Point) (openings : List (ℕ × Felt)) : Prop :=
  List.Forall₂ (fun commitment opening => ∀ a : AffinePoint Point, commitment.toAffine = .ok a →
    Bit.Opens (affineToProjective a) g1 g2 opening) range.commitments openings

section Opened

variable {range : Range} {bitSize : ℕ} {g1 g2 V : Point} {initialPrefix : Felt}
  {openings : List (ℕ × Felt)}

/-- A point the loop adds is what the opening at its index says. -/
lemma opening_of_verifyBit {i : ℕ} {v : Point} (hopened : Opened range g1 g2 openings)
    (hverified : Returns (verifyBit range g1 g2 initialPrefix i) v) :
    ∃ opening, openings[i]? = some opening ∧ opening.1 ≤ 1 ∧
      v = opening.1 • g1 + residueFromFelt opening.2 • g2 := by
  obtain ⟨commitment, a, -, hcommitment, ha, rfl, -⟩ := returns_verifyBit.mp hverified
  obtain ⟨hi, rfl⟩ := List.getElem?_eq_some_iff.mp hcommitment
  have hlen : i < openings.length := by
    rw [← hopened.length_eq]
    exact hi
  exact ⟨openings[i], List.getElem?_eq_getElem hlen,
    Bit.opens_iff.mp ((List.forall₂_iff_get.mp hopened).2 i hi hlen a ha)⟩

/-- The points the loop adds, and the bits they are commitments to. -/
lemma points_of_bitsVerified {vs : List Point} (hlen : vs.length = openings.length)
    (hverified : BitsVerified range g1 g2 initialPrefix vs)
    (hopened : Opened range g1 g2 openings) :
    vs = openings.map (fun opening => opening.1 • g1 + residueFromFelt opening.2 • g2) ∧
      ∀ bit ∈ openings.map Prod.fst, bit ≤ 1 := by
  have hget : ∀ i (hi : i < openings.length), openings[i].1 ≤ 1 ∧
      vs[i] = openings[i].1 • g1 + residueFromFelt openings[i].2 • g2 := by
    intro i hi
    obtain ⟨opening, ho, hopens⟩ := opening_of_verifyBit hopened
      (hverified i _ (List.getElem?_eq_getElem (hlen ▸ hi)))
    rw [(List.getElem?_eq_some_iff.mp ho).2]
    exact hopens
  refine ⟨List.ext_getElem (by rw [hlen, List.length_map]) fun i _ hi => ?_, ?_⟩
  · rw [List.length_map] at hi
    rw [List.getElem_map]
    exact (hget i hi).2
  · simp only [List.mem_map, forall_exists_index, and_imp, forall_apply_eq_imp_iff₂]
    intro opening hmem
    obtain ⟨i, hi, rfl⟩ := List.mem_iff_getElem.mp hmem
    exact (hget i hi).1

/-- The verifier's total is opened by the weighted sums of the bits and of the randomness. -/
lemma verify_opened (h : Returns (verify range bitSize g1 g2 initialPrefix) V)
    (hopened : Opened range g1 g2 openings) :
    binarySum (openings.map Prod.fst) < 2 ^ bitSize ∧
      ∃ r : Felt, residueFromFelt r =
          binarySum (openings.map fun opening => residueFromFelt opening.2) ∧
        V = add (mul (binarySum (openings.map Prod.fst) : ℕ) (some g1)) (mul r (some g2)) := by
  obtain ⟨hcommitments, -, -, hmax, vs, hvs, hverified, rfl⟩ := returns_verify.mp h
  have hlen : openings.length = bitSize := by rw [← hopened.length_eq, hcommitments]
  obtain ⟨hpoints, hbits⟩ := points_of_bitsVerified (hvs.trans hlen.symm) hverified hopened
  have hlt := binarySum_lt_two_pow hbits
  rw [List.length_map, hlen] at hlt
  refine ⟨hlt, feltFromResidue _, residueFromFelt_feltFromResidue _, ?_⟩
  rw [hpoints, binarySum_combination, mul_eq_smul, mul_eq_smul, add_eq,
    residueFromFelt_natCast (lt_fieldPrime_of_lt_two_pow hlt hmax), Nat.cast_smul_eq_nsmul,
    residueFromFelt_feltFromResidue]

end Opened

/-- **Special soundness.** An accepted bit proof satisfies the verifier's split and its
two equations; two transcripts that satisfy them with the same first messages and
challenges that differ modulo the order give away an opening of the commitment to a
bit; and a range proof that is accepted, and whose commitments have such openings, is
verified to a commitment to the number with those bits, which is below `2 ^ bitSize`, with
the weighted sum of their randomness. -/
theorem bits_extract_range_bounded (g1 g2 : Point) :
    (∀ (v : Point) (proof : ProofOfBit) (prefixFelt : Felt),
      Bit.verify v g1 g2 proof prefixFelt = .ok true →
        ∃ (a0 a1 : AffinePoint Point) (c : Felt),
          proof.a0.toAffine = .ok a0 ∧ proof.a1.toAffine = .ok a1 ∧
          computePoseidonChallenge prefixFelt
            [v, affineToProjective a0, affineToProjective a1] = .ok c ∧
          Bit.Transcript.Satisfies ⟨c, proof.c0, proof.s0, proof.s1⟩ v g1 g2
            (affineToProjective a0) (affineToProjective a1)) ∧
    (∀ (v a0 a1 : Point) (t t' : Bit.Transcript),
      t.Satisfies v g1 g2 a0 a1 → t'.Satisfies v g1 g2 a0 a1 →
        t.c.val % curveOrder ≠ t'.c.val % curveOrder →
          Bit.Opens v g1 g2 (Bit.extractOpening t t')) ∧
    (∀ (range : Range) (bitSize : ℕ) (initialPrefix : Felt) (V : Point),
      Returns (verify range bitSize g1 g2 initialPrefix) V →
        ∀ openings : List (ℕ × Felt), Opened range g1 g2 openings →
          binarySum (openings.map Prod.fst) < 2 ^ bitSize ∧
            ∃ r : Felt, residueFromFelt r =
                binarySum (openings.map fun opening => residueFromFelt opening.2) ∧
              V = add (mul (binarySum (openings.map Prod.fst) : ℕ) (some g1))
                (mul r (some g2))) := by
  refine ⟨?_, ?_, ?_⟩
  · intro v proof prefixFelt h
    obtain ⟨⟨a0, a1, c, ha0, ha1, hc, ha⟩, -⟩ := Bit.verify_eq_true.mp h
    exact ⟨a0, a1, c, ha0, ha1, hc, Bit.Transcript.satisfies_iff.mpr ha⟩
  · intro v a0 a1 t t' h h' hne
    exact Bit.opens_extractOpening h h' hne
  · intro range bitSize initialPrefix V h openings hopened
    exact verify_opened h hopened

end Soundness

section Sample

attribute [local instance] sampleCurve samplePoseidon

def sampleTranscript : Bit.Transcript :=
  ⟨0x7a1d62ee8544a1d91eece2bb3ffe6078b9352c5041c8671ad3321f288b84712,
    3, 19,
    0x1bf391d6d98eae6b0dbb0e6f3fe4684ccb758389769ca6a99fb1d0037d7e526⟩

def forkedTranscript : Bit.Transcript := { sampleTranscript with
  c := sampleTranscript.c + 1, s1 := sampleTranscript.s1 + 17 }

lemma sample_satisfies (t : Bit.Transcript) (h : t = sampleTranscript ∨ t = forkedTranscript) :
    t.Satisfies (CyclicPoint.mk (1 + 17 * hLabel)) generator generatorH
      (CyclicPoint.mk (-3 - 32 * hLabel)) (CyclicPoint.mk (23 * hLabel)) := by
  refine ⟨_, rfl, ?_, ?_⟩
  · rw [mul_eq_smul, mul_eq_smul, sampleTable.curve_smul, sampleTable.curve_smul]
    rcases h with rfl | rfl
    · decide +kernel
    · decide +kernel
  · rw [mul_eq_smul, mul_eq_smul, sampleTable.curve_smul, sampleTable.curve_smul]
    rcases h with rfl | rfl
    · decide +kernel
    · decide +kernel

lemma sample_opens (P : OrderResidue) (opening : ℕ × Felt) (commitment : SerializablePoint)
    (hsent : SerializablePoint.tryFromProjective (CyclicPoint.mk P) = .ok commitment)
    (hopens : opening.1 ≤ 1 ∧ CyclicPoint.mk P = opening.1 • (generator : CyclicPoint) +
      CyclicPoint.mk (residueFromFelt opening.2 * CyclicPoint.label generatorH))
    (a : AffinePoint CyclicPoint) (ha : commitment.toAffine = .ok a) :
    Bit.Opens (affineToProjective a) generator generatorH opening := by
  obtain ⟨b, hb, hP⟩ := toAffine_of_tryFromProjective hsent
  rw [hb, Except.ok.injEq] at ha
  rw [Bit.opens_iff, sampleTable.curve_smul, ← ha, hP]
  exact hopens

lemma sample_opened : Opened sampleRange (generator : CyclicPoint) generatorH [(0, 13), (1, 17)] :=
  .cons (sample_opens (13 * hLabel) _ _ (by decide +kernel) (by decide +kernel))
    (.cons (sample_opens (1 + 17 * hLabel) _ _ (by decide +kernel) (by decide +kernel)) .nil)

lemma sample_verified :
    Returns (verify sampleRange 2 generator generatorH 42) (CyclicPoint.mk (2 + 47 * hLabel)) := by
  have hv := returns_verify_of_prove sample_responses.1 (by decide) sample_proved
    sample_responses.2
  have hsum : add (mul ((2 : ℕ) : Felt) (some generator)) (mul 47 (some generatorH)) =
      CyclicPoint.mk (2 + 47 * hLabel) := by
    simp only [mul_eq_smul, sampleTable.curve_smul]
    decide +kernel
  rw [hsum] at hv
  exact hv

lemma sample_bit1_verified :
    Bit.verify (CyclicPoint.mk (1 + 17 * hLabel)) generator generatorH sampleRange.proofs[1] 43 =
      .ok true := by
  have hp := (returns_proveBit.mp sample_bits.2).2
  have hr := sample_responses.2 sampleRange.proofs[1] (by decide +kernel)
  rw [mul_eq_smul, mul_eq_smul] at hr
  exact Bit.verify_eq_true.mpr ⟨(Bit.accepted_of_prove hp).2, sample_responses.1, hr⟩

/-- The second bit proof of the sample satisfies the equations, its commitment is opened
to the bit `1` with the randomness `17`, and the sample's total to the number `2`. -/
theorem sampleRange_sound :
    (∃ (a0 a1 : AffinePoint CyclicPoint) (c : Felt),
      Bit.Transcript.Satisfies ⟨c, 3, 19, sampleRange.proofs[1].s1⟩
        (CyclicPoint.mk (1 + 17 * hLabel)) generator generatorH (affineToProjective a0)
          (affineToProjective a1)) ∧
      Bit.Opens (CyclicPoint.mk (1 + 17 * hLabel)) generator generatorH (1, 17) ∧
      binarySum [0, 1] < 2 ^ 2 ∧
      ∃ r : Felt, residueFromFelt r = binarySum [residueFromFelt 13, residueFromFelt 17] ∧
        CyclicPoint.mk (2 + 47 * hLabel) =
          add (mul (binarySum [0, 1] : ℕ) (some generator)) (mul r (some generatorH)) := by
  obtain ⟨hv, hex, hr⟩ :=
    bits_extract_range_bounded (generator : CyclicPoint) generatorH
  obtain ⟨a0, a1, c, -, -, -, hs⟩ := hv _ _ _ sample_bit1_verified
  have ho := hex _ _ _ _ _ (sample_satisfies _ (Or.inl rfl))
    (sample_satisfies _ (Or.inr rfl)) (by decide)
  rw [show Bit.extractOpening sampleTranscript forkedTranscript = (1, 17) by decide +kernel]
    at ho
  exact ⟨⟨a0, a1, c, hs⟩, ho,
    hr sampleRange 2 42 _ sample_verified _ sample_opened⟩

end Sample

end KrustyKms.Crypto.Range

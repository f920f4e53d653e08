import KrustyKms.MentalPoker.ProtocolTheorems
import KrustyKms.MentalPoker.Shuffle
import Mathlib.Data.Fintype.EquivFin

/-!
# Accepted shuffles are permutations

* `verifyShuffle_permutes`: an accepted shuffle matches every output to an input of its own
  for which the remasking proof is accepted; where those proofs have witnesses, the outputs
  are remaskings of the permuted inputs.
-/

namespace KrustyKms.MentalPoker

open Crypto StarkCurve Support MayPanic

section Soundness

-- two products of a point are compared by their factors, not by their computation
attribute [local irreducible] StarkCurve.mul

variable {Point : Type} [CurvePoint Point]

/-- Card `i` of the output is card `j` of the input, masked by `r`. -/
def Remasks (originalDeck shuffledDeck : List (MaskedCard Point)) (pk : PublicKey Point)
    (i j : ℕ) (r : Felt) : Prop :=
  ∃ input, originalDeck[j]? = some input ∧ shuffledDeck[i]? =
    some (input.add ⟨mul r (some generator), mul r (some pk.point)⟩)

/-- If both cards are there, some factor masks the one to the other. -/
def Witnessed (originalDeck shuffledDeck : List (MaskedCard Point)) (pk : PublicKey Point)
    (i j : ℕ) : Prop :=
  ∀ input output, originalDeck[j]? = some input → shuffledDeck[i]? = some output →
    ChaumPedersenProtocol.HasWitness generator pk.point (output.c0 - input.c0)
      (output.c1 - input.c1)

variable [Sha256] [FeltParser]

def Accepted (originalDeck shuffledDeck : List (MaskedCard Point)) (pk : PublicKey Point)
    (proof : ShuffleProof) (i j : ℕ) : Prop :=
  ∃ input output remaskingProof, originalDeck[j]? = some input ∧
    shuffledDeck[i]? = some output ∧ proof.remaskingProofs[i]? = some remaskingProof ∧
    ChaumPedersenProtocol.verify generator pk.point (output.c0 - input.c0)
      (output.c1 - input.c1) remaskingProof shuffleContext = .ok true

omit [Sha256] [FeltParser] in
lemma remasks_of_witnessed {originalDeck shuffledDeck : List (MaskedCard Point)}
    {pk : PublicKey Point} {i j : ℕ} {input output : MaskedCard Point}
    (hin : originalDeck[j]? = some input) (ho : shuffledDeck[i]? = some output)
    (h : Witnessed originalDeck shuffledDeck pk i j) :
    ∃ r, Remasks originalDeck shuffledDeck pk i j r := by
  obtain ⟨r, hc0, hc1⟩ := h input output hin ho
  refine ⟨r, input, hin, ?_⟩
  rw [ho, MaskedCard.add, ← hc0, ← hc1, add_eq, add_eq, add_sub_cancel, add_sub_cancel]

/-! ## The matching -/

section Matching

open ShuffleArgument

variable {params : ShuffleParameters Point} {statement : ShuffleStatement Point}
  {proof : ShuffleProof} {used : Finset ℕ} {i j : ℕ} {js : List ℕ} {diffC0 diffC1 : Point}

lemma returns_matchInput_cons {result : Option (ℕ × Point × Point)} :
    Returns (matchInput params statement proof used i (j :: js)) result ↔
      ∃ input output remaskingProof valid, statement.inputDeck[j]? = some input ∧
        statement.outputDeck[i]? = some output ∧
        proof.remaskingProofs[i]? = some remaskingProof ∧
        ChaumPedersenProtocol.verify params.g statement.publicKey.point (output.c0 - input.c0)
          (output.c1 - input.c1) remaskingProof shuffleContext = .ok valid ∧
        Returns (if valid then
            if j ∈ used then pure none
            else pure (some (j, output.c0 - input.c0, output.c1 - input.c1))
          else matchInput params statement proof used i js) result := by
  simp only [matchInput, returns_bind, returns_index, returns_lift, negatePoint_eq,
    Except.ok.injEq, add_eq, ← sub_eq_add_neg, exists_eq_left']
  constructor
  · intro h
    obtain ⟨input, hin, output, ho, remaskingProof, hp, valid, hv, h⟩ := h
    exact ⟨input, output, remaskingProof, valid, hin, ho, hp, hv, h⟩
  · intro h
    obtain ⟨input, output, remaskingProof, valid, hin, ho, hp, hv, h⟩ := h
    exact ⟨input, hin, output, ho, remaskingProof, hp, valid, hv, h⟩

lemma accepted_of_matchInput (hg : params.g = generator)
    (h : Returns (matchInput params statement proof used i js) (some (j, diffC0, diffC1))) :
    j ∈ js ∧ j ∉ used ∧
      Accepted statement.inputDeck statement.outputDeck statement.publicKey proof i j := by
  induction js with
  | nil => simp [matchInput] at h
  | cons k ks ih =>
    obtain ⟨input, output, remaskingProof, valid, hin, ho, hp, hv, h⟩ :=
      returns_matchInput_cons.mp h
    rw [hg] at hv
    cases valid with
    | false =>
      obtain ⟨hmem, hun, ha⟩ := ih h
      exact ⟨List.mem_cons_of_mem k hmem, hun, ha⟩
    | true =>
      rw [if_pos rfl] at h
      by_cases hu : k ∈ used
      · rw [if_pos hu, returns_pure] at h
        exact absurd h (by simp)
      · rw [if_neg hu, returns_pure, Option.some.injEq, Prod.mk.injEq] at h
        rw [← h.1]
        exact ⟨List.mem_cons_self, hu, input, output, remaskingProof, hin, ho, hp,
          hv⟩

def Matched (params : ShuffleParameters Point) (statement : ShuffleStatement Point)
    (proof : ShuffleProof) (i : ℕ) (used : Finset ℕ) : Prop :=
  ∃ js : List ℕ, js.length = i ∧ js.Nodup ∧ used = js.toFinset ∧ ∀ k j, js[k]? = some j →
    j < params.n ∧ Accepted statement.inputDeck statement.outputDeck statement.publicKey proof k j

lemma Matched.succ (h : Matched params statement proof i used) (hj : j < params.n) (hu : j ∉ used)
    (hac : Accepted statement.inputDeck statement.outputDeck statement.publicKey proof i j) :
    Matched params statement proof (i + 1) (insert j used) := by
  obtain ⟨js, rfl, hn, rfl, hall⟩ := h
  have hnew : j ∉ js := fun hmem => hu (List.mem_toFinset.mpr hmem)
  refine ⟨js ++ [j], by simp, ?_, ?_, ?_⟩
  · rw [List.nodup_append]
    refine ⟨hn, List.nodup_singleton j, ?_⟩
    intro a ha b hb heq
    rw [List.mem_singleton] at hb
    exact hnew (hb ▸ heq ▸ ha)
  · ext k
    simp
  · intro k m hm
    rcases Nat.lt_trichotomy k js.length with hlt | heq | hgt
    · rw [List.getElem?_append_left hlt] at hm
      exact hall k m hm
    · rw [heq, List.getElem?_concat_length, Option.some.injEq] at hm
      rw [heq, ← hm]
      exact ⟨hj, hac⟩
    · rw [List.getElem?_eq_none (by simp; omega)] at hm
      exact absurd hm (by simp)

lemma matched_of_matchOutputs (hg : params.g = generator) {m : ℕ} {found found' : Matching Point}
    (hin : Matched params statement proof i found.usedInputIndices)
    (h : Returns (matchOutputs params statement proof (List.range' i m) found) (some found')) :
    Matched params statement proof (i + m) found'.usedInputIndices := by
  induction m generalizing i found with
  | zero =>
    rw [List.range'_zero, matchOutputs, returns_pure, Option.some.injEq] at h
    rw [← h]
    exact hin
  | succ m ih =>
    rw [List.range'_succ, matchOutputs, returns_bind] at h
    obtain ⟨matched, hm, h⟩ := h
    cases matched with
    | none =>
      rw [returns_pure] at h
      exact absurd h (by simp)
    | some entry =>
      obtain ⟨j, diffC0, diffC1⟩ := entry
      obtain ⟨hmem, hu, ha⟩ := accepted_of_matchInput hg hm
      simp only [returns_bind] at h
      obtain ⟨point, -, transcript, -, h⟩ := h
      have hn := ih (hin.succ (List.mem_range.mp hmem) hu ha) h
      rw [show i + (m + 1) = i + 1 + m by omega]
      exact hn

lemma Matched.permutation (h : Matched params statement proof params.n used) :
    ∃ p : Equiv.Perm (Fin params.n), ∀ i : Fin params.n,
      Accepted statement.inputDeck statement.outputDeck statement.publicKey proof i (p i) := by
  obtain ⟨js, hl, hn, -, hall⟩ := h
  have hlt : ∀ i : Fin params.n, i.val < js.length := fun i => by omega
  have hget : ∀ i : Fin params.n, js[i.val]? = some (js.get ⟨i, hlt i⟩) :=
    fun i => List.getElem?_eq_getElem (hlt i)
  let image (i : Fin params.n) : Fin params.n :=
    ⟨js.get ⟨i, hlt i⟩, (hall i.val _ (hget i)).1⟩
  have hin : Function.Injective image := by
    intro a b hab
    have heq := (List.Nodup.getElem_inj_iff hn).mp (congrArg Fin.val hab)
    exact Fin.ext heq
  refine ⟨Equiv.ofBijective image (Finite.injective_iff_bijective.mp hin), ?_⟩
  intro i
  exact (hall i.val _ (hget i)).2

end Matching

/-! ## Accepted shuffles -/

variable {originalDeck shuffledDeck : List (MaskedCard Point)} {pk : PublicKey Point}
  {proof : ShuffleProof}

lemma permutation_of_verifyShuffle
    (h : Returns (MentalPokerProtocol.verifyShuffle originalDeck shuffledDeck pk proof) true) :
    shuffledDeck.length = originalDeck.length ∧ ∃ p : Equiv.Perm (Fin originalDeck.length),
      ∀ i : Fin originalDeck.length, Accepted originalDeck shuffledDeck pk proof i (p i) := by
  unfold MentalPokerProtocol.verifyShuffle ShuffleParameters.new ShuffleStatement.new at h
  simp only [returns_bind, returns_ite_pure_false, returns_lift, except_ite_throw_eq_ok] at h
  obtain ⟨hl, params, ⟨-, hp⟩, statement, ⟨-, -, hs⟩, h⟩ := h
  obtain rfl := Except.ok.inj hp
  obtain rfl := Except.ok.inj hs
  refine ⟨(not_not.mp hl).symm, ?_⟩
  unfold ShuffleArgument.verify at h
  simp only [returns_bind, returns_ite_pure_false] at h
  obtain ⟨-, _, -, _, -, _, -, matched, hm, h⟩ := h
  cases matched with
  | none =>
    rw [returns_pure] at h
    exact absurd h (by simp)
  | some found =>
    rw [List.range_eq_range'] at hm
    have hin : Matched ⟨originalDeck.length, generator, generatorH⟩
        ⟨originalDeck, shuffledDeck, pk⟩ proof 0 ∅ :=
      ⟨[], rfl, List.nodup_nil, rfl, fun k j hj => absurd hj (by simp)⟩
    have hmt := matched_of_matchOutputs rfl hin hm
    rw [Nat.zero_add] at hmt
    exact hmt.permutation

/-- **Soundness of shuffles.** An accepted shuffle comes with a permutation of the positions
such that the proof at each position is accepted for the input it is sent to; if these
proofs have witnesses, every output is a remasking of that input. Two transcripts that
satisfy the equations of a proof with the same commitments give a witness. -/
theorem verifyShuffle_permutes
    (h : Returns (MentalPokerProtocol.verifyShuffle originalDeck shuffledDeck pk proof) true) :
    (shuffledDeck.length = originalDeck.length ∧ ∃ p : Equiv.Perm (Fin originalDeck.length),
      (∀ i : Fin originalDeck.length, Accepted originalDeck shuffledDeck pk proof i (p i)) ∧
      ((∀ i : Fin originalDeck.length, Witnessed originalDeck shuffledDeck pk i (p i)) →
        ∃ r : Fin originalDeck.length → Felt,
          ∀ i : Fin originalDeck.length, Remasks originalDeck shuffledDeck pk i (p i) (r i))) ∧
    ∀ (g h y1 y2 a1 a2 : Point) (c c' s s' : Felt),
      ChaumPedersenProtocol.Equations g h y1 y2 a1 a2 c s →
      ChaumPedersenProtocol.Equations g h y1 y2 a1 a2 c' s' →
      residueFromFelt c ≠ residueFromFelt c' → ChaumPedersenProtocol.HasWitness g h y1 y2 := by
  refine ⟨?_, ?_⟩
  · obtain ⟨hl, p, ha⟩ := permutation_of_verifyShuffle h
    refine ⟨hl, p, ha, ?_⟩
    intro hw
    have hr : ∀ i : Fin originalDeck.length, ∃ r,
        Remasks originalDeck shuffledDeck pk i (p i) r := by
      intro i
      obtain ⟨input, output, -, hin, ho, -⟩ := ha i
      exact remasks_of_witnessed hin ho (hw i)
    exact ⟨fun i => (hr i).choose, fun i => (hr i).choose_spec⟩
  · intro g h y1 y2 a1 a2 c c' s s' het he' hne
    exact ⟨_, ChaumPedersenProtocol.extractWitness_spec het he' hne⟩

end Soundness

/-! ## Two cards that change places -/

section Sample

attribute [local instance] gameCurve Reference.sha256 numeralParser

def firstRemasking : DLEqualityProof where
  a1 := textAt 1
  a2 := textAt 5
  response := "0x8f9496dba32423475e744ae7d0ea99c5d132efe889b83497c77bf88b3f1ced"
  challenge := "0x23e525b6e8c908d1d79d12b9f43aa671744cbbfa226e0d25f1defe22cfc73b"

def secondRemasking : DLEqualityProof where
  a1 := textAt 2
  a2 := textAt 10
  response := "0x1ac3cf802c18f18d882cac7c3d0dc54bac2b115677feb33b8e97d74699a40be"
  challenge := "0x8ebefd56408508482b98ed41459ec6e8eb905c77d54e6692f87f26cdde1594"

def gameProof : ShuffleProof where
  remaskingProofs := [firstRemasking, secondRemasking]
  permutationCommitment := textAt (4 + 2 ^ 200)
  linearCombinationResponse := {
    aggregateCommitment :=
      textAt 0x1534dcf13eca59d93207bc9075e3be0dc0a5ce163766a6beb6da50fa87151e0
    challenge := "0x7119efb14ee1df310ad3edad1f694af403744b212778cea3cf37053825c5f4"
    response := "0x1534dcf13eca59d93207bc9075e3be0dc0a5ce163766a6beb6da50fa87151e1" }

def gameParameters : ShuffleParameters CyclicPoint := ⟨2, generator, generatorH⟩

def gameStatement : ShuffleStatement CyclicPoint := ⟨gameDeck, gameShuffled, gameAggregate⟩

open ShuffleArgument

def firstInput : MaskedCard CyclicPoint := ⟨CyclicPoint.mk 1, CyclicPoint.mk 12⟩

def secondInput : MaskedCard CyclicPoint := ⟨CyclicPoint.mk 2, CyclicPoint.mk 21⟩

def secondOutput : MaskedCard CyclicPoint := ⟨CyclicPoint.mk 4, CyclicPoint.mk 27⟩

lemma game_pairs :
    ChaumPedersenProtocol.verify generator gameAggregate.point (gameMasked.c0 - firstInput.c0)
      (gameMasked.c1 - firstInput.c1) firstRemasking shuffleContext = .ok false ∧
    ChaumPedersenProtocol.verify generator gameAggregate.point (gameMasked.c0 - secondInput.c0)
      (gameMasked.c1 - secondInput.c1) firstRemasking shuffleContext = .ok true ∧
    ChaumPedersenProtocol.verify generator gameAggregate.point (secondOutput.c0 - firstInput.c0)
      (secondOutput.c1 - firstInput.c1) secondRemasking shuffleContext = .ok true := by
  unfold ChaumPedersenProtocol.verify
  simp only [mul_eq_smul, gameTable.curve_smul]
  refine ⟨?_, ?_, ?_⟩ <;> decide +kernel

lemma game_first_match : Returns (matchInput gameParameters gameStatement gameProof ∅ 0 [0, 1])
    (some (1, CyclicPoint.mk 4, CyclicPoint.mk 20)) := by
  have hr : ChaumPedersenProtocol.verify gameParameters.g gameStatement.publicKey.point
      (gameMasked.c0 - secondInput.c0) (gameMasked.c1 - secondInput.c1) firstRemasking
      shuffleContext = .ok true := by
    dsimp only [gameParameters, gameStatement]
    exact game_pairs.2.1
  have hw : ChaumPedersenProtocol.verify gameParameters.g gameStatement.publicKey.point
      (gameMasked.c0 - firstInput.c0) (gameMasked.c1 - firstInput.c1) firstRemasking
      shuffleContext = .ok false := by
    dsimp only [gameParameters, gameStatement]
    exact game_pairs.1
  refine returns_matchInput_cons.mpr
    ⟨firstInput, gameMasked, firstRemasking, false, rfl, rfl, rfl, hw, ?_⟩
  refine returns_matchInput_cons.mpr
    ⟨secondInput, gameMasked, firstRemasking, true, rfl, rfl, rfl, hr, ?_⟩
  decide +kernel

lemma game_second_match :
    Returns (matchInput gameParameters gameStatement gameProof (insert 1 ∅) 1 [0, 1])
      (some (0, CyclicPoint.mk 3, CyclicPoint.mk 15)) := by
  have hr : ChaumPedersenProtocol.verify gameParameters.g gameStatement.publicKey.point
      (secondOutput.c0 - firstInput.c0) (secondOutput.c1 - firstInput.c1) secondRemasking
      shuffleContext = .ok true := by
    dsimp only [gameParameters, gameStatement]
    exact game_pairs.2.2
  refine returns_matchInput_cons.mpr
    ⟨firstInput, secondOutput, secondRemasking, true, rfl, rfl, rfl, hr, ?_⟩
  decide +kernel

def matchedAt (i : ℕ) : Matching CyclicPoint where
  transcript := transcriptAt [] ([1, 12, 2, 21, 6, 41, 4, 27, 5] ++ [4, 3].take i)
  diffPointsC0 := [CyclicPoint.mk 4, CyclicPoint.mk 3].take i
  diffPointsC1 := [CyclicPoint.mk 20, CyclicPoint.mk 15].take i
  usedInputIndices := ([1, 0].take i).foldl (fun used j => insert j used) ∅

lemma game_matched : Returns (matchOutputs gameParameters gameStatement gameProof [0, 1]
    (matchedAt 0)) (some (matchedAt 2)) := by
  have hf : addPointToTranscript (matchedAt 0).transcript (CyclicPoint.mk 4) =
      .ok (matchedAt 1).transcript := by decide +kernel
  have hs : addPointToTranscript (matchedAt 1).transcript (CyclicPoint.mk 3) =
      .ok (matchedAt 2).transcript := by decide +kernel
  rw [matchOutputs, returns_bind]
  refine ⟨_, game_first_match, ?_⟩
  simp only [returns_bind, returns_index, returns_lift]
  refine ⟨CyclicPoint.mk 4, rfl, _, hf, ?_⟩
  rw [matchOutputs, returns_bind]
  refine ⟨_, game_second_match, ?_⟩
  simp only [returns_bind, returns_index, returns_lift]
  refine ⟨CyclicPoint.mk 3, rfl, _, hs, ?_⟩
  rw [matchOutputs, returns_pure]
  rfl

lemma game_verified :
    Returns (MentalPokerProtocol.verifyShuffle gameDeck gameShuffled gameAggregate gameProof)
      true := by
  have hin : gameDeck.foldlM addMaskedCardToTranscript [] =
      .ok (transcriptAt [] [1, 12, 2, 21]) := by decide +kernel
  have ho : gameShuffled.foldlM addMaskedCardToTranscript (transcriptAt [] [1, 12, 2, 21]) =
      .ok (transcriptAt [] [1, 12, 2, 21, 6, 41, 4, 27]) := by decide +kernel
  have hkey : addPointToTranscript (transcriptAt [] [1, 12, 2, 21, 6, 41, 4, 27])
      gameAggregate.point = .ok (matchedAt 0).transcript := by decide +kernel
  have hr : verifyResponse gameParameters gameProof (matchedAt 2) = .ok true := by
    decide +kernel
  unfold MentalPokerProtocol.verifyShuffle ShuffleParameters.new ShuffleStatement.new
    ShuffleArgument.verify
  simp only [returns_bind, returns_ite_pure_false, returns_lift, except_ite_throw_eq_ok]
  exact ⟨by decide, gameParameters, ⟨by decide, rfl⟩, gameStatement, ⟨by decide, by decide, rfl⟩,
    by decide, _, hin, _, ho, _, hkey, _, game_matched, returns_lift.mpr hr⟩

lemma game_not_accepted : ¬ Accepted gameDeck gameShuffled gameAggregate gameProof 0 0 := by
  intro h
  obtain ⟨input, output, remaskingProof, hin, ho, hp, hv⟩ := h
  rw [show gameDeck[0]? = some firstInput from rfl] at hin
  rw [show gameShuffled[0]? = some gameMasked from rfl] at ho
  rw [show gameProof.remaskingProofs[0]? = some firstRemasking from rfl] at hp
  obtain rfl := Option.some.inj hin
  obtain rfl := Option.some.inj ho
  obtain rfl := Option.some.inj hp
  rw [game_pairs.1] at hv
  exact absurd (Except.ok.inj hv) (by decide)

lemma game_witnessed_first : Witnessed gameDeck gameShuffled gameAggregate 0 1 := by
  intro input output hin ho
  obtain rfl := Option.some.inj hin
  obtain rfl := Option.some.inj ho
  refine ⟨4, ?_⟩
  simp only [mul_eq_smul, gameTable.curve_smul]
  decide +kernel

lemma game_witnessed_second : Witnessed gameDeck gameShuffled gameAggregate 1 0 := by
  intro input output hin ho
  obtain rfl := Option.some.inj hin
  obtain rfl := Option.some.inj ho
  refine ⟨3, ?_⟩
  simp only [mul_eq_smul, gameTable.curve_smul]
  decide +kernel

/-- The cards that changed places were remasked. -/
theorem game_permuted : ∃ (p : Equiv.Perm (Fin gameDeck.length)) (r : Fin gameDeck.length → Felt),
    ∀ i, Remasks gameDeck gameShuffled gameAggregate i.val (p i) (r i) := by
  obtain ⟨⟨-, p, ha, hr⟩, -⟩ := verifyShuffle_permutes game_verified
  have hl : gameDeck.length = 2 := rfl
  have hf : ∀ i, i.val = 0 → (p i).val = 1 := by
    intro i hi
    have hp := ha i
    rw [hi] at hp
    have hne : (p i).val ≠ 0 := fun hz => game_not_accepted (hz ▸ hp)
    have hlt := (p i).isLt
    omega
  have hs : ∀ i, i.val = 1 → (p i).val = 0 := by
    intro i hi
    have hne : i ≠ ⟨0, by decide⟩ := by
      intro heq
      exact absurd (hi.symm.trans (congrArg Fin.val heq)) (by simp)
    have hd := Fin.val_ne_of_ne (p.injective.ne hne)
    rw [hf ⟨0, by decide⟩ rfl] at hd
    have hlt := (p i).isLt
    omega
  refine ⟨p, hr ?_⟩
  intro i
  have hi : i.val = 0 ∨ i.val = 1 := by
    have hlt := i.isLt
    omega
  rcases hi with hi | hi
  · rw [hf i hi, hi]
    exact game_witnessed_first
  · rw [hs i hi, hi]
    exact game_witnessed_second

end Sample

end KrustyKms.MentalPoker

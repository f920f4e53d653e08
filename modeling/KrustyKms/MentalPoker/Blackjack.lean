import Mathlib.Data.List.Basic
import Mathlib.Order.Bounds.Basic
import Mathlib.Tactic.Linarith

/-!
# Blackjack hands

The value of a hand is kept in 8-bit numbers: the hard total saturates, the count of the aces and
the soft total are plain sums.
-/

namespace KrustyKms.MentalPoker.Blackjack

/-! ## 8-bit arithmetic -/

def checkedAddU8 (a b : ℕ) : Option ℕ :=
  if a + b ≤ 255 then some (a + b) else none

def saturatingAddU8 (a b : ℕ) : ℕ := min (a + b) 255

/-! ## Cards -/

def rankFromIndex (index : ℕ) : Option ℕ :=
  if index = 0 then none else some ((index - 1) % 13)

def cardValue (index : ℕ) : Option ℕ :=
  if 1 ≤ index ∧ index ≤ 52 then do
    let rank ← rankFromIndex index
    if rank ≤ 8 then pure (rank + 2)
    else if rank ≤ 11 then pure 10
    else if rank = 12 then pure 11
    else none
  else none

def isAce (index : ℕ) : Option Bool := do
  let rank ← rankFromIndex index
  pure (rank == 12)

def isTenValue (index : ℕ) : Option Bool := do
  let rank ← rankFromIndex index
  pure (decide (8 ≤ rank ∧ rank ≤ 11))

/-! ## Hands -/

structure HandValue where
  /-- All aces count as 1. -/
  hard : ℕ
  /-- One ace counts as 11, if that is not bust. -/
  soft : Option ℕ
  aces : ℕ
deriving DecidableEq

namespace HandValue

/-- The best value of the hand that is not bust. -/
def best (hand : HandValue) : ℕ :=
  match hand.soft with
  | some soft => if soft ≤ 21 then soft else hand.hard
  | none => hand.hard

def isBust (hand : HandValue) : Bool := decide (21 < hand.hard)

end HandValue

def addCard (totals : ℕ × ℕ) (card : ℕ) : Option (ℕ × ℕ) := do
  let value ← cardValue card
  if value = 11 then
    let aceCount ← checkedAddU8 totals.2 1
    pure (saturatingAddU8 totals.1 1, aceCount)
  else
    pure (saturatingAddU8 totals.1 value, totals.2)

def softTotal (hardTotal aceCount : ℕ) : Option (Option ℕ) :=
  if aceCount > 0 then do
    let raised ← checkedAddU8 hardTotal 10
    pure (if raised ≤ 21 then some raised else none)
  else pure none

def calculateHandValue (cards : List ℕ) : Option HandValue := do
  let totals ← cards.foldlM addCard (0, 0)
  let soft ← softTotal totals.1 totals.2
  pure { hard := totals.1, soft, aces := totals.2 }

def isBlackjack : List ℕ → Option Bool
  | [first, second] => do
    let firstAce ← isAce first
    -- `||` does not look at the second card when the first decides
    let hasAce ← if firstAce then pure true else isAce second
    let firstTen ← isTenValue first
    let hasTen ← if firstTen then pure true else isTenValue second
    pure (hasAce && hasTen)
  | _ => pure false

/-! ## Outcome -/

inductive Outcome where
  | playerBlackjack
  | dealerBlackjack
  | bothBlackjack
  | playerWins
  | dealerWins
  | push
  | playerBusts
  | dealerBusts
deriving DecidableEq

def Outcome.isPlayerWin : Outcome → Bool
  | .playerBlackjack | .playerWins | .dealerBusts => true
  | _ => false

def compareHands (playerValue dealerValue : HandValue) : Outcome :=
  if playerValue.isBust then .playerBusts
  else if dealerValue.isBust then .dealerBusts
  else if dealerValue.best < playerValue.best then .playerWins
  else if playerValue.best < dealerValue.best then .dealerWins
  else .push

def determineWinner (playerCards dealerCards : List ℕ) : Option Outcome := do
  let playerBj ← isBlackjack playerCards
  let dealerBj ← isBlackjack dealerCards
  if playerBj && dealerBj then return .bothBlackjack
  if playerBj then return .playerBlackjack
  if dealerBj then return .dealerBlackjack
  let playerValue ← calculateHandValue playerCards
  let dealerValue ← calculateHandValue dealerCards
  return compareHands playerValue dealerValue

/-! ## What a hand is worth

The rules of the game, for cards of the deck and without a bound on the totals. -/

def IsCard (index : ℕ) : Prop := 1 ≤ index ∧ index ≤ 52

def IsAce (index : ℕ) : Prop := (index - 1) % 13 = 12

instance decidableIsAce : DecidablePred IsAce := fun index =>
  inferInstanceAs (Decidable ((index - 1) % 13 = 12))

def lowValue (index : ℕ) : ℕ :=
  if IsAce index then 1 else min ((index - 1) % 13 + 2) 10

def values (index : ℕ) : List ℕ :=
  if IsAce index then [1, 11] else [lowValue index]

def hardSum (cards : List ℕ) : ℕ := (cards.map lowValue).sum

def aceCount (cards : List ℕ) : ℕ := cards.countP fun card => decide (IsAce card)

def totals : List ℕ → List ℕ
  | [] => [0]
  | card :: cards => (values card).flatMap fun value => (totals cards).map (value + ·)

def IsBestTotal (cards : List ℕ) (total : ℕ) : Prop :=
  IsGreatest {t | t ∈ totals cards ∧ t ≤ 21} total

def IsBlackjackHand (cards : List ℕ) : Prop :=
  ∃ ace ten, IsAce ace ∧ ¬ IsAce ten ∧ lowValue ten = 10 ∧
    (cards = [ace, ten] ∨ cards = [ten, ace])

def ValuedRight (cards : List ℕ) : Prop :=
  ∃ value, calculateHandValue cards = some value ∧
    (value.isBust = true ↔ 21 < hardSum cards) ∧
    (hardSum cards ≤ 21 → IsBestTotal cards value.best) ∧
    (21 < hardSum cards → 21 < value.best)

def PlayerShouldWin (player dealer : List ℕ) : Prop :=
  IsBlackjackHand player ∧ ¬ IsBlackjackHand dealer ∨
    ¬ IsBlackjackHand player ∧ ¬ IsBlackjackHand dealer ∧ hardSum player ≤ 21 ∧
      (21 < hardSum dealer ∨
        ∃ best, IsBestTotal player best ∧ ∃ other, IsBestTotal dealer other ∧ other < best)

/-- The hand has no ace, or ten more than its hard total is still a byte. -/
def Fits (cards : List ℕ) : Prop := aceCount cards = 0 ∨ hardSum cards ≤ 245

instance decidableFits (cards : List ℕ) : Decidable (Fits cards) :=
  inferInstanceAs (Decidable (aceCount cards = 0 ∨ hardSum cards ≤ 245))

/-! ## The loop -/

variable {card : ℕ} {cards : List ℕ}

lemma cardValue_eq (hc : IsCard card) :
    cardValue card = some (if IsAce card then 11 else lowValue card) := by
  obtain ⟨hlow, hh⟩ := hc
  have hr : (card - 1) % 13 < 13 := Nat.mod_lt _ (by decide)
  have hne : card ≠ 0 := by omega
  simp only [cardValue, hlow, hh, and_self, if_true, rankFromIndex, hne, if_false,
    Option.bind_eq_bind, Option.bind_some, lowValue]
  by_cases hn : (card - 1) % 13 ≤ 8
  · have hace : ¬ IsAce card := by unfold IsAce; omega
    rw [if_pos hn, if_neg hace, if_neg hace, min_eq_left (by omega)]
    rfl
  · rw [if_neg hn]
    by_cases hf : (card - 1) % 13 ≤ 11
    · have hace : ¬ IsAce card := by unfold IsAce; omega
      rw [if_pos hf, if_neg hace, if_neg hace, min_eq_right (by omega)]
      rfl
    · have hace : (card - 1) % 13 = 12 := by omega
      rw [if_neg hf, if_pos hace, if_pos (show IsAce card from hace)]
      rfl

lemma lowValue_ne_eleven (card : ℕ) : lowValue card ≠ 11 := by
  unfold lowValue
  split_ifs
  · decide
  · have := min_le_right ((card - 1) % 13 + 2) 10
    omega

lemma addCard_eq (hc : IsCard card) (hard aces : ℕ) :
    addCard (min hard 255, aces) card =
      if IsAce card then
        if aces + 1 ≤ 255 then some (min (hard + lowValue card) 255, aces + 1) else none
      else some (min (hard + lowValue card) 255, aces) := by
  have hs : ∀ value, min (min hard 255 + value) 255 = min (hard + value) 255 := by
    intro value
    omega
  simp only [addCard, cardValue_eq hc, Option.bind_eq_bind, Option.bind_some,
    saturatingAddU8, checkedAddU8, hs]
  by_cases hace : IsAce card
  · have hone : lowValue card = 1 := if_pos hace
    rw [if_pos hace, if_pos rfl, if_pos hace, hone]
    split_ifs <;> rfl
  · rw [if_neg hace, if_neg (lowValue_ne_eleven card), if_neg hace]
    rfl

@[simp] lemma hardSum_cons (card : ℕ) (cards : List ℕ) :
    hardSum (card :: cards) = lowValue card + hardSum cards := rfl

lemma aceCount_cons (card : ℕ) (cards : List ℕ) :
    aceCount (card :: cards) = aceCount cards + if IsAce card then 1 else 0 := by
  unfold aceCount
  rw [List.countP_cons]
  by_cases hace : IsAce card
  · rw [if_pos hace, if_pos (decide_eq_true hace)]
  · rw [if_neg hace, if_neg (by simpa using hace)]

lemma aceCount_le_hardSum (cards : List ℕ) : aceCount cards ≤ hardSum cards := by
  induction cards with
  | nil => exact le_rfl
  | cons card cards ih =>
    rw [aceCount_cons, hardSum_cons]
    split_ifs with hace
    · have hone : lowValue card = 1 := if_pos hace
      omega
    · omega

lemma foldlM_addCard (hcr : ∀ card ∈ cards, IsCard card) (hard aces : ℕ) (ha : aces ≤ 255) :
    cards.foldlM addCard (min hard 255, aces) =
      if aces + aceCount cards ≤ 255 then
        some (min (hard + hardSum cards) 255, aces + aceCount cards)
      else none := by
  induction cards generalizing hard aces with
  | nil =>
    have hf : aces + aceCount [] ≤ 255 := ha
    rw [if_pos hf]
    rfl
  | cons card cards ih =>
    have ht : ∀ c ∈ cards, IsCard c := fun c hc => hcr c (List.mem_cons_of_mem _ hc)
    rw [List.foldlM_cons, addCard_eq (hcr card List.mem_cons_self), aceCount_cons,
      hardSum_cons]
    by_cases hace : IsAce card
    · rw [if_pos hace, if_pos hace]
      by_cases hm : aces + 1 ≤ 255
      · rw [if_pos hm, Option.bind_eq_bind, Option.bind_some, ih ht _ _ hm,
          add_assoc hard, add_assoc aces, add_comm 1]
      · rw [if_neg hm, if_neg (by omega)]
        rfl
    · rw [if_neg hace, if_neg hace, Option.bind_eq_bind, Option.bind_some, ih ht _ _ ha,
        Nat.add_zero, add_assoc hard]

lemma calculateHandValue_eq (hc : ∀ card ∈ cards, IsCard card) :
    calculateHandValue cards =
      if Fits cards then
        some {
          hard := min (hardSum cards) 255
          soft := if 0 < aceCount cards ∧ hardSum cards ≤ 11 then some (hardSum cards + 10)
            else none
          aces := aceCount cards }
      else none := by
  have hl := foldlM_addCard hc 0 0 (by decide)
  have ha := aceCount_le_hardSum cards
  simp only [Nat.zero_min, Nat.zero_add] at hl
  unfold calculateHandValue
  rw [hl]
  by_cases hm : aceCount cards ≤ 255
  · rw [if_pos hm, Option.bind_eq_bind, Option.bind_some]
    unfold softTotal checkedAddU8
    by_cases hace : 0 < aceCount cards
    · rw [if_pos hace]
      by_cases hsum : hardSum cards ≤ 245
      · have hmin : min (hardSum cards) 255 = hardSum cards := min_eq_left (by omega)
        have hr : hardSum cards + 10 ≤ 255 := by omega
        have hf : Fits cards := Or.inr hsum
        simp only [hf, if_true, hmin, hr, Option.bind_eq_bind, Option.bind_some,
          Option.pure_def, hace, true_and]
        by_cases hlow : hardSum cards ≤ 11
        · rw [if_pos hlow, if_pos (by omega)]
        · rw [if_neg hlow, if_neg (by omega)]
      · have hfl : ¬ min (hardSum cards) 255 + 10 ≤ 255 := by omega
        have hn : ¬ Fits cards := by unfold Fits; omega
        rw [if_neg hfl, if_neg hn]
        rfl
    · have hz : aceCount cards = 0 := by omega
      have hf : Fits cards := Or.inl hz
      rw [if_neg hace, if_pos hf, if_neg (fun h => hace h.1)]
      rfl
  · have hn : ¬ Fits cards := by unfold Fits; omega
    rw [if_neg hm, if_neg hn]
    rfl

/-! ## The totals of a hand -/

lemma mem_totals {total : ℕ} :
    total ∈ totals cards ↔ ∃ high ≤ aceCount cards, total = hardSum cards + 10 * high := by
  induction cards generalizing total with
  | nil =>
    simp only [totals, List.mem_singleton]
    constructor
    · rintro rfl
      exact ⟨0, le_rfl, rfl⟩
    · rintro ⟨high, hh, rfl⟩
      have hz : high = 0 := Nat.le_zero.mp hh
      rw [hz]
      rfl
  | cons card cards ih =>
    simp only [totals, List.mem_flatMap, List.mem_map, ih, hardSum_cons, aceCount_cons]
    by_cases hace : IsAce card
    · have hone : lowValue card = 1 := if_pos hace
      simp only [values, if_pos hace, hone, List.mem_cons, List.not_mem_nil, or_false]
      constructor
      · rintro ⟨value, rfl | rfl, _, ⟨high, hh, rfl⟩, rfl⟩
        · exact ⟨high, by omega, by omega⟩
        · exact ⟨high + 1, by omega, by omega⟩
      · rintro ⟨high, hh, rfl⟩
        -- the first ace is high only when all the others are
        by_cases hall : high ≤ aceCount cards
        · exact ⟨1, .inl rfl, _, ⟨high, hall, rfl⟩, by omega⟩
        · exact ⟨11, .inr rfl, _, ⟨aceCount cards, le_rfl, rfl⟩, by omega⟩
    · simp only [values, if_neg hace, List.mem_singleton]
      constructor
      · rintro ⟨value, rfl, _, ⟨high, hh, rfl⟩, rfl⟩
        exact ⟨high, hh, by omega⟩
      · rintro ⟨high, hh, rfl⟩
        exact ⟨_, rfl, _, ⟨high, hh, rfl⟩, by omega⟩

lemma isBestTotal_iff (hn : hardSum cards ≤ 21) (total : ℕ) :
    IsBestTotal cards total ↔
      total = if 0 < aceCount cards ∧ hardSum cards ≤ 11 then hardSum cards + 10
        else hardSum cards := by
  have hb : IsBestTotal cards (if 0 < aceCount cards ∧ hardSum cards ≤ 11 then
      hardSum cards + 10 else hardSum cards) := by
    constructor
    · split_ifs with hs
      · exact ⟨mem_totals.mpr ⟨1, hs.1, rfl⟩, by omega⟩
      · exact ⟨mem_totals.mpr ⟨0, Nat.zero_le _, rfl⟩, hn⟩
    · rintro _ ⟨hmem, hle⟩
      obtain ⟨high, hh, rfl⟩ := mem_totals.mp hmem
      -- two high aces are already 22
      have ha := aceCount_le_hardSum cards
      split_ifs with hs <;> omega
  constructor
  · intro ht
    exact ht.unique hb
  · rintro rfl
    exact hb

lemma best_eq (hn : hardSum cards ≤ 21) (aces : ℕ) :
    HandValue.best {
      hard := min (hardSum cards) 255
      soft := if 0 < aceCount cards ∧ hardSum cards ≤ 11 then some (hardSum cards + 10) else none
      aces } =
      if 0 < aceCount cards ∧ hardSum cards ≤ 11 then hardSum cards + 10 else hardSum cards := by
  have hh : min (hardSum cards) 255 = hardSum cards := min_eq_left (by omega)
  unfold HandValue.best
  by_cases hs : 0 < aceCount cards ∧ hardSum cards ≤ 11
  · simp only [if_pos hs]
    exact if_pos (by omega)
  · simp only [if_neg hs, hh]

lemma isBust_eq_true (hard aces : ℕ) (soft : Option ℕ) :
    HandValue.isBust { hard := min hard 255, soft, aces } = true ↔ 21 < hard := by
  unfold HandValue.isBust
  rw [decide_eq_true_iff]
  change 21 < min hard 255 ↔ 21 < hard
  omega

lemma valuedRight_iff (hc : ∀ card ∈ cards, IsCard card) :
    ValuedRight cards ↔ Fits cards := by
  unfold ValuedRight
  rw [calculateHandValue_eq hc]
  by_cases hf : Fits cards
  · rw [if_pos hf]
    simp only [hf, iff_true]
    refine ⟨_, rfl, isBust_eq_true _ _ _, ?_, ?_⟩
    · intro hn
      exact (isBestTotal_iff hn _).mpr (best_eq hn _)
    · intro hb
      have hs : ¬ (0 < aceCount cards ∧ hardSum cards ≤ 11) := by omega
      simp only [HandValue.best, if_neg hs]
      omega
  · rw [if_neg hf]
    simp [hf]

/-! ## The winner -/

lemma isAce_eq (hc : IsCard card) : isAce card = some (decide (IsAce card)) := by
  have hne : card ≠ 0 := by have := hc.1; omega
  simp only [isAce, rankFromIndex, hne, if_false, Option.bind_eq_bind, Option.bind_some,
    Option.pure_def, beq_eq_decide]
  rfl

lemma isTenValue_eq (hc : IsCard card) :
    isTenValue card = some (decide (¬ IsAce card ∧ lowValue card = 10)) := by
  have hne : card ≠ 0 := by have := hc.1; omega
  have hr : (card - 1) % 13 < 13 := Nat.mod_lt _ (by decide)
  simp only [isTenValue, rankFromIndex, hne, if_false, Option.bind_eq_bind, Option.bind_some,
    Option.pure_def, Option.some.injEq, decide_eq_decide]
  by_cases hace : IsAce card
  · have hr : (card - 1) % 13 = 12 := hace
    simp only [hace, not_true, false_and, iff_false]
    omega
  · have ho : (card - 1) % 13 ≠ 12 := hace
    simp only [hace, not_false_eq_true, true_and, lowValue, if_false]
    omega

lemma isBlackjack_eq (hcr : ∀ card ∈ cards, IsCard card) :
    ∃ answer, isBlackjack cards = some answer ∧ (answer = true ↔ IsBlackjackHand cards) := by
  match cards, hcr with
  | [], _ => exact ⟨false, rfl, by simp [IsBlackjackHand]⟩
  | [_], _ => exact ⟨false, rfl, by simp [IsBlackjackHand]⟩
  | _ :: _ :: _ :: _, _ => exact ⟨false, rfl, by simp [IsBlackjackHand]⟩
  | [first, second], hcr =>
    have hf : IsCard first := hcr first (by simp)
    have hs : IsCard second := hcr second (by simp)
    simp only [isBlackjack, isAce_eq hf, isAce_eq hs, isTenValue_eq hf,
      isTenValue_eq hs, Option.bind_eq_bind, Option.bind_some, Option.pure_def,
      IsBlackjackHand, List.cons.injEq, and_true]
    by_cases ha : IsAce first <;> by_cases hb : IsAce second <;>
      by_cases hc : lowValue first = 10 <;> by_cases hd : lowValue second = 10 <;>
      simp [ha, hb, hc, hd] <;> grind

lemma determineWinner_of_blackjack {player dealer : List ℕ} {playerBj dealerBj : Bool}
    (hp : isBlackjack player = some playerBj) (hd : isBlackjack dealer = some dealerBj)
    (hs : playerBj = true ∨ dealerBj = true) :
    ∃ outcome, determineWinner player dealer = some outcome ∧
      (outcome.isPlayerWin = true ↔ playerBj = true ∧ ¬ dealerBj = true) := by
  unfold determineWinner
  rw [hp, hd]
  cases playerBj <;> cases dealerBj
  · simp at hs
  · exact ⟨.dealerBlackjack, rfl, by decide⟩
  · exact ⟨.playerBlackjack, rfl, by decide⟩
  · exact ⟨.bothBlackjack, rfl, by decide⟩

lemma isPlayerWin_compareHands (player dealer : HandValue) :
    (compareHands player dealer).isPlayerWin = true ↔
      ¬ player.isBust = true ∧ (dealer.isBust = true ∨ dealer.best < player.best) := by
  unfold compareHands
  by_cases hp : player.isBust = true
  · simp [hp, Outcome.isPlayerWin]
  · by_cases hd : dealer.isBust = true
    · simp [hp, hd, Outcome.isPlayerWin]
    · by_cases hl : dealer.best < player.best
      · simp [hp, hd, hl, Outcome.isPlayerWin]
      · by_cases hm : player.best < dealer.best
        · simp [hp, hd, hl, hm, Outcome.isPlayerWin]
        · simp [hp, hd, hl, hm, Outcome.isPlayerWin]

lemma determineWinner_of_valuedRight {player dealer : List ℕ}
    (hpl : ∀ card ∈ player, IsCard card) (hde : ∀ card ∈ dealer, IsCard card)
    (hpy : ValuedRight player) (hdr : ValuedRight dealer) :
    ∃ outcome, determineWinner player dealer = some outcome ∧
      (outcome.isPlayerWin = true ↔ PlayerShouldWin player dealer) := by
  obtain ⟨playerBj, hpb, hpi⟩ := isBlackjack_eq hpl
  obtain ⟨dealerBj, hdl, hdi⟩ := isBlackjack_eq hde
  unfold PlayerShouldWin
  by_cases hs : playerBj = true ∨ dealerBj = true
  · obtain ⟨outcome, hrun, hwin⟩ := determineWinner_of_blackjack hpb hdl hs
    refine ⟨outcome, hrun, ?_⟩
    rw [hwin, ← hpi, ← hdi]
    tauto
  · obtain ⟨hn, hnd⟩ := not_or.mp hs
    obtain ⟨pv, hpv, hps, hpbe, -⟩ := hpy
    obtain ⟨dv, hdv, hds, hdbe, -⟩ := hdr
    refine ⟨compareHands pv dv, ?_, ?_⟩
    · unfold determineWinner
      simp only [hpb, hdl, hn, hnd, hpv, hdv, Option.bind_eq_bind,
        Option.bind_some]
      rfl
    · have hp : ¬ IsBlackjackHand player := fun h => hn (hpi.mpr h)
      have hd : ¬ IsBlackjackHand dealer := fun h => hnd (hdi.mpr h)
      simp only [isPlayerWin_compareHands, hps, hds, hp, hd, false_and, false_or,
        not_false_eq_true, true_and, not_lt]
      refine and_congr_right fun hnb => ?_
      by_cases hdb : 21 < hardSum dealer
      · simp only [hdb, true_or]
      · simp only [hdb, false_or]
        -- the best totals are unique, so they are the values compared
        have hpv := hpbe hnb
        have hdv := hdbe (not_lt.mp hdb)
        constructor
        · intro hl
          exact ⟨_, hpv, _, hdv, hl⟩
        · rintro ⟨best, hb, other, ho, hl⟩
          rwa [hb.unique hpv, ho.unique hdv] at hl

/-- Two hands are valued right and their winner is the right one, exactly when the 8-bit totals
of both fit. -/
theorem blackjack_right_iff_fits (player dealer : List ℕ) (hplayer : ∀ card ∈ player, IsCard card)
    (hdealer : ∀ card ∈ dealer, IsCard card) :
    (ValuedRight player ∧ ValuedRight dealer ∧
      ∃ outcome, determineWinner player dealer = some outcome ∧
        (outcome.isPlayerWin = true ↔ PlayerShouldWin player dealer)) ↔
      Fits player ∧ Fits dealer := by
  rw [← valuedRight_iff hplayer, ← valuedRight_iff hdealer]
  constructor
  · rintro ⟨hp, hd, -⟩
    exact ⟨hp, hd⟩
  · rintro ⟨hp, hd⟩
    exact ⟨hp, hd,
      determineWinner_of_valuedRight hplayer hdealer hp hd⟩

/-- A soft nineteen beats a hand of eighteen. -/
theorem blackjack_right_soft_nineteen :
    ValuedRight [13, 7] ∧ ValuedRight [9, 20] ∧
      ∃ outcome, determineWinner [13, 7] [9, 20] = some outcome ∧
        (outcome.isPlayerWin = true ↔ PlayerShouldWin [13, 7] [9, 20]) :=
  (blackjack_right_iff_fits [13, 7] [9, 20] (by simp [IsCard]) (by simp [IsCard])).mpr
    (by decide)

/-- Twenty-five tens and an ace: one more ten does not fit in 8 bits. -/
theorem calculateHandValue_overflow :
    (∀ card ∈ List.replicate 25 9 ++ [13], IsCard card) ∧
      calculateHandValue (List.replicate 25 9 ++ [13]) = none ∧
      ¬ ValuedRight (List.replicate 25 9 ++ [13]) := by
  have hc : ∀ card ∈ List.replicate 25 9 ++ [13], IsCard card := by
    simp [IsCard]
  refine ⟨hc, by decide, ?_⟩
  rw [valuedRight_iff hc]
  decide

end KrustyKms.MentalPoker.Blackjack

import Mathlib.Data.List.Basic
import Mathlib.Tactic.Lemma
import Mathlib.Tactic.SplitIfs

/-!
# Runs that may fail or panic

A run ends with a value, with an error, or in a panic, which is `none`.
-/

namespace KrustyKms.Support

/-- A run that may fail with an `ε` or panic. -/
abbrev MayPanic (ε : Type) := ExceptT ε Option

namespace MayPanic

variable {ε α β σ : Type}

def Returns (x : MayPanic ε α) (a : α) : Prop := x.run = some (.ok a)

instance [DecidableEq ε] [DecidableEq α] (x : MayPanic ε α) (a : α) : Decidable (Returns x a) :=
  inferInstanceAs (Decidable (x.run = some (.ok a)))

variable {x : MayPanic ε α} {a : α} {xs : List α} {n lo : ℕ} {e : ε} {f : α → MayPanic ε β}
  {c : Prop} {s : σ}

lemma Returns.unique {b : α} (ha : Returns x a) (hb : Returns x b) :
    a = b := by
  have h := ha.symm.trans hb
  simpa using h

def index (xs : List α) (i : ℕ) : MayPanic ε α := ExceptT.lift xs[i]?

lemma returns_index {i : ℕ} :
    Returns (index xs i : MayPanic ε α) a ↔ xs[i]? = some a := by
  unfold Returns index
  cases xs[i]? with
  | none => simp [ExceptT.lift, ExceptT.run, ExceptT.mk]
  | some b => simp [ExceptT.lift, ExceptT.run, ExceptT.mk]

def orPanic (x : Option α) : MayPanic ε α := ExceptT.lift x

lemma returns_orPanic {x : Option α} :
    Returns (orPanic x : MayPanic ε α) a ↔ x = some a := by
  unfold Returns orPanic
  cases x with
  | none => simp [ExceptT.lift, ExceptT.run, ExceptT.mk]
  | some b => simp [ExceptT.lift, ExceptT.run, ExceptT.mk]

def splitAt (xs : List α) (n : ℕ) : MayPanic ε (List α × List α) :=
  orPanic (if n ≤ xs.length then some (xs.take n, xs.drop n) else none)

lemma returns_splitAt {parts : List α × List α} :
    Returns (splitAt xs n : MayPanic ε (List α × List α)) parts ↔
      xs = parts.1 ++ parts.2 ∧ parts.1.length = n := by
  rw [splitAt, returns_orPanic]
  constructor
  · intro h
    split_ifs at h with hn
    rw [Option.some.injEq] at h
    subst h
    exact ⟨(List.take_append_drop n xs).symm, by simp [hn]⟩
  · intro h
    obtain ⟨front, back⟩ := parts
    obtain ⟨hxs, hn⟩ := h
    dsimp only at hxs hn
    subst hxs hn
    simp

def slice (xs : List α) (lo hi : ℕ) : MayPanic ε (List α) :=
  orPanic (if lo ≤ hi ∧ hi ≤ xs.length then some ((xs.take hi).drop lo) else none)

lemma returns_slice {part : List α} {hi : ℕ} :
    Returns (slice xs lo hi : MayPanic ε (List α)) part ↔
      (lo ≤ hi ∧ hi ≤ xs.length) ∧ part = (xs.take hi).drop lo := by
  rw [slice, returns_orPanic]
  split_ifs with h
  · simp [h, eq_comm]
  · simp [h]

def unsignedSub (a b : ℕ) : MayPanic ε ℕ := ExceptT.lift (if b ≤ a then some (a - b) else none)

lemma returns_unsignedSub {a b c : ℕ} :
    Returns (unsignedSub a b : MayPanic ε ℕ) c ↔ b ≤ a ∧ c = a - b := by
  unfold Returns unsignedSub
  split_ifs with h
  · simp [ExceptT.lift, ExceptT.run, ExceptT.mk, h, eq_comm]
  · simp [ExceptT.lift, ExceptT.run, ExceptT.mk, h]

/-- A run to its value or its error: what a caller holds before it looks at the error. -/
def attempt (x : MayPanic ε α) : MayPanic ε (Except ε α) := ExceptT.lift x.run

lemma returns_attempt :
    Returns (attempt x) (.ok a) ↔ Returns x a := by
  unfold Returns attempt
  cases h : x.run with
  | none => simp [ExceptT.lift, ExceptT.run, ExceptT.mk]
  | some r => simp [ExceptT.lift, ExceptT.run, ExceptT.mk]

@[simp] lemma returns_pure {b : α} : Returns (pure a : MayPanic ε α) b ↔ a = b := by
  simp [Returns, pure, ExceptT.pure, ExceptT.run, ExceptT.mk]

@[simp] lemma not_returns_throw : ¬ Returns (throw e : MayPanic ε α) a := by
  simp [Returns, throw, throwThe, MonadExceptOf.throw, ExceptT.run, ExceptT.mk]

@[simp] lemma returns_lift {r : Except ε α} :
    Returns (liftM r : MayPanic ε α) a ↔ r = .ok a := by
  simp [Returns, liftM, monadLift, MonadLift.monadLift, ExceptT.run, ExceptT.mk]

lemma returns_bind {b : β} :
    Returns (x >>= f) b ↔ ∃ a, Returns x a ∧ Returns (f a) b := by
  unfold Returns
  show (ExceptT.bind x f).run = _ ↔ _
  unfold ExceptT.bind ExceptT.run ExceptT.mk
  cases hx : (x : Option (Except ε α)) with
  | none => simp
  | some r =>
    cases r with
    | error e => simp [ExceptT.bindCont]
    | ok a => simp [ExceptT.bindCont]

lemma returns_ite_throw [Decidable c] {k : PUnit → MayPanic ε α} :
    Returns (if c then throw e >>= k else x) a ↔ ¬ c ∧ Returns x a := by
  by_cases h : c
  · simp [h]
  · simp [h]

lemma returns_ite_pure_false [Decidable c] {x : MayPanic ε Bool} :
    Returns (if c then pure false else x) true ↔ ¬ c ∧ Returns x true := by
  by_cases h : c
  · simp [h]
  · simp [h]

/-! ## Runs without a panic -/

/-- No panic, whatever the result. -/
def Completes (x : MayPanic ε α) : Prop := x.run ≠ none

lemma Returns.completes (h : Returns x a) : Completes x := by
  intro hn
  rw [Returns, hn] at h
  cases h

@[simp] lemma completes_pure : Completes (pure a : MayPanic ε α) :=
  (returns_pure.mpr rfl).completes

@[simp] lemma completes_throw : Completes (throw e : MayPanic ε α) := by
  simp [Completes, throw, throwThe, MonadExceptOf.throw, ExceptT.run, ExceptT.mk]

@[simp] lemma completes_lift {r : Except ε α} : Completes (liftM r : MayPanic ε α) := by
  simp [Completes, liftM, monadLift, MonadLift.monadLift, ExceptT.run, ExceptT.mk]

lemma completes_splitAt (h : n ≤ xs.length) :
    Completes (splitAt xs n : MayPanic ε (List α × List α)) := by
  have hs : Returns (splitAt xs n : MayPanic ε _) (xs.take n, xs.drop n) :=
    returns_splitAt.mpr ⟨(List.take_append_drop n xs).symm, List.length_take_of_le h⟩
  exact hs.completes

lemma completes_orPanic {x : Option α} : Completes (orPanic x : MayPanic ε α) ↔ x ≠ none := by
  unfold Completes orPanic
  cases x with
  | none => simp [ExceptT.lift, ExceptT.run, ExceptT.mk]
  | some a => simp [ExceptT.lift, ExceptT.run, ExceptT.mk]

lemma completes_index {i : ℕ} :
    Completes (index xs i : MayPanic ε α) ↔ i < xs.length := by
  rw [show (index xs i : MayPanic ε α) = orPanic xs[i]? from rfl, completes_orPanic, ne_eq,
    List.getElem?_eq_none_iff, Nat.not_le]

/-- A chain of steps completes exactly when each does after the values of the steps before. -/
lemma completes_bind_iff :
    Completes (x >>= f) ↔ Completes x ∧ ∀ a, Returns x a → Completes (f a) := by
  unfold Completes Returns
  show (ExceptT.bind x f).run ≠ none ↔ _
  unfold ExceptT.bind ExceptT.run ExceptT.mk
  cases hrun : (x : Option (Except ε α)) with
  | none => simp
  | some r =>
    cases r with
    | error e => simp [ExceptT.bindCont]
    | ok a => simp [ExceptT.bindCont]

lemma completes_bind (hx : Completes x)
    (hf : ∀ a, Returns x a → Completes (f a)) : Completes (x >>= f) :=
  completes_bind_iff.mpr ⟨hx, hf⟩

lemma completes_ite [Decidable c] {y : MayPanic ε α} (hx : c → Completes x)
    (hy : ¬ c → Completes y) : Completes (if c then x else y) := by
  by_cases h : c
  · rw [if_pos h]
    exact hx h
  · rw [if_neg h]
    exact hy h

/-! ## Loops -/

/-- What the rounds of a loop over `lo, …, lo + n - 1` preserve holds of what it returns. -/
theorem foldlM_range'_invariant (P : ℕ → σ → Prop) {f : σ → ℕ → MayPanic ε σ}
    {s' : σ} (hs : ∀ i t t', lo ≤ i → i < lo + n → P i t → Returns (f t i) t' → P (i + 1) t')
    (hin : P lo s) (h : Returns ((List.range' lo n).foldlM f s) s') : P (lo + n) s' := by
  induction n generalizing lo s with
  | zero =>
    rw [List.range'_zero, List.foldlM_nil, returns_pure] at h
    rw [← h]
    exact hin
  | succ n ih =>
    rw [List.range'_succ, List.foldlM_cons, returns_bind] at h
    obtain ⟨t, hf, hr⟩ := h
    have hn := hs lo s t (Nat.le_refl lo) (by omega) hin hf
    have hl := ih (fun i u u' hlo hhi => hs i u u' (by omega) (by omega)) hn hr
    rw [show lo + (n + 1) = lo + 1 + n by omega]
    exact hl

/-- A loop whose rounds all complete, under an invariant of those that return, completes. -/
theorem completes_foldlM_range' (P : ℕ → σ → Prop) {f : σ → ℕ → MayPanic ε σ}
    (hr : ∀ i t, lo ≤ i → i < lo + n → P i t → Completes (f t i))
    (hs : ∀ i t t', lo ≤ i → i < lo + n → P i t → Returns (f t i) t' → P (i + 1) t')
    (hin : P lo s) : Completes ((List.range' lo n).foldlM f s) := by
  induction n generalizing lo s with
  | zero =>
    rw [List.range'_zero, List.foldlM_nil]
    exact completes_pure
  | succ n ih =>
    rw [List.range'_succ, List.foldlM_cons]
    refine completes_bind (hr lo s (Nat.le_refl lo) (by omega) hin) ?_
    intro t hf
    exact ih (fun i u hlo hhi => hr i u (by omega) (by omega))
      (fun i u u' hlo hhi => hs i u u' (by omega) (by omega))
      (hs lo s t (Nat.le_refl lo) (by omega) hin hf)

theorem returns_foldlM_range' (P : ℕ → σ → Prop) (f : σ → ℕ → MayPanic ε σ) (lo n : ℕ)
    (hs : ∀ i t, lo ≤ i → i < lo + n → P i t → ∃ t', Returns (f t i) t' ∧ P (i + 1) t')
    (hin : P lo s) : ∃ s', Returns ((List.range' lo n).foldlM f s) s' ∧ P (lo + n) s' := by
  induction n generalizing lo s with
  | zero => exact ⟨s, by simp, hin⟩
  | succ n ih =>
    obtain ⟨t, hf, hn⟩ := hs lo s (Nat.le_refl lo) (by omega) hin
    obtain ⟨s', hr, hl⟩ :=
      ih (lo + 1) (fun i u hlo hhi => hs i u (by omega) (by omega)) hn
    refine ⟨s', ?_, ?_⟩
    · rw [List.range'_succ, List.foldlM_cons, returns_bind]
      exact ⟨t, hf, hr⟩
    · rw [show lo + (n + 1) = lo + 1 + n by omega]
      exact hl

lemma returns_mapM {ys : List β} :
    Returns (xs.mapM f) ys ↔ List.Forall₂ (fun x y => Returns (f x) y) xs ys := by
  induction xs generalizing ys with
  | nil =>
    rw [List.mapM_nil, returns_pure]
    constructor
    · intro h
      subst h
      exact .nil
    · intro h
      rcases h with ⟨⟩
      rfl
  | cons x xs ih =>
    rw [List.mapM_cons, returns_bind]
    constructor
    · intro h
      obtain ⟨y, hy, h⟩ := h
      rw [returns_bind] at h
      obtain ⟨ys', hys, h⟩ := h
      rw [returns_pure] at h
      subst h
      exact .cons hy (ih.mp hys)
    · intro h
      cases h with
      | cons hy hys => exact ⟨_, hy, returns_bind.mpr ⟨_, ih.mpr hys, returns_pure.mpr rfl⟩⟩

end MayPanic

end KrustyKms.Support

import KrustyKms.Codec.Parser
import KrustyKms.Support.Logged
import Mathlib.Algebra.BigOperators.Group.List.Basic
import Mathlib.Algebra.Ring.Nat

/-!
# Metered runs

A metered run notes each round of its loops and each piece of memory it asks for, whatever its end
is.
-/

namespace KrustyKms.Codec

open Support

/-- What a metered run notes: that a loop starts a round, and that memory is asked for. -/
inductive Event where
  | round
  | hold (bytes : ℕ)
deriving DecidableEq, Repr

abbrev Metered (ε α : Type) := Logged Event ε α

abbrev MeteredParser (τ ε α : Type) := StateT (List τ) (Logged Event ε) α

variable {τ ε ε' α β : Type}

namespace Event

def cost : Event → ℕ
  | round => 1
  | hold bytes => bytes

def rounds (events : List Event) : ℕ := events.countP (· = round)

def memory (events : List Event) : ℕ := (events.map fun
  | round => 0
  | hold bytes => bytes).sum

def work (events : List Event) : ℕ := (events.map cost).sum

@[simp] lemma work_nil : work [] = 0 := rfl

@[simp] lemma work_singleton (e : Event) : work [e] = e.cost := by simp [work]

@[simp] lemma work_append (xs ys : List Event) : work (xs ++ ys) = work xs + work ys := by
  simp [work]

lemma work_eq_rounds_add_memory (events : List Event) :
    work events = rounds events + memory events := by
  induction events with
  | nil => rfl
  | cons e events ih =>
    cases e with
    | round =>
      simp only [work, rounds, memory, List.map_cons, List.sum_cons, cost, List.countP_cons,
        decide_true, if_true] at ih ⊢
      omega
    | hold bytes =>
      simp only [work, rounds, memory, List.map_cons, List.sum_cons, cost, List.countP_cons,
        reduceCtorEq, decide_false, Bool.false_eq_true, if_false] at ih ⊢
      omega

end Event

namespace Metered

open Event

def round : Metered ε Unit := Logged.call .round

def hold (bytes : ℕ) : Metered ε Unit := Logged.call (.hold bytes)

def through (g : Except ε α → Except ε' β) (x : Metered ε α) : Metered ε' β :=
  ⟨x.calls, ExceptT.mk (x.outcome.run.map g)⟩

def find (p : α → Bool) : List α → Metered ε (Option α)
  | [] => pure none
  | a :: as => do
    round
    if p a then pure (some a) else find p as

def any (p : α → Bool) (as : List α) : Metered ε Bool := do
  let found ← find p as
  pure found.isSome

def all (p : α → Bool) (as : List α) : Metered ε Bool := do
  let found ← find (fun a => !p a) as
  pure found.isNone

def writeEach (write : α → List τ) : List α → Metered ε (List τ)
  | [] => pure []
  | a :: as => do
    round
    let written ← writeEach write as
    pure (write a ++ written)

def plain (p : Parser τ ε α) : MeteredParser τ ε α := fun s => liftM (p s)

def note (e : Event) : MeteredParser τ ε Unit := fun s => do
  Logged.call e
  pure ((), s)

def many (m : MeteredParser τ ε α) : ℕ → MeteredParser τ ε (List α)
  | 0 => pure []
  | n + 1 => do
    note .round
    let a ← m
    let as ← many m n
    pure (a :: as)

/-! ## Paid runs -/

def kept (left : α → ℕ) : Except ε α → ℕ
  | .ok a => left a
  | .error _ => 0

/-- The run ends as `r` does, and `n` credits pay for it and for those `left` keeps. -/
structure Affords (n : ℕ) (x : Metered ε α) (r : Except ε α) (left : α → ℕ) : Prop where
  outcome : x.outcome.run = some r
  paid : work x.calls + kept left r ≤ n

section Rules

variable {n m : ℕ} {x : Metered ε α} {r : Except ε α} {left : α → ℕ}

lemma Affords.work_le (h : Affords n x r left) : work x.calls ≤ n :=
  Nat.le_trans (Nat.le_add_right _ _) h.paid

lemma Affords.rounds_le (h : Affords n x r left) : rounds x.calls ≤ n := by
  have hw := h.work_le
  rw [work_eq_rounds_add_memory] at hw
  omega

lemma Affords.memory_le (h : Affords n x r left) : memory x.calls ≤ n := by
  have hw := h.work_le
  rw [work_eq_rounds_add_memory] at hw
  omega

lemma Affords.weaken {left' : α → ℕ} (h : Affords n x r left) (hn : n ≤ m)
    (hl : ∀ a, r = .ok a → left' a + n ≤ left a + m) : Affords m x r left' := by
  refine ⟨h.outcome, ?_⟩
  have hp := h.paid
  cases hr : r with
  | error e =>
    rw [hr] at hp
    exact Nat.le_trans hp hn
  | ok a =>
    rw [hr] at hp
    have hk := hl a hr
    simp only [kept] at hp ⊢
    omega

lemma Affords.frame (h : Affords n x r fun _ => 0) (hn : n ≤ m) :
    Affords m x r fun _ => m - n :=
  h.weaken hn fun _ _ => by omega

lemma affords_pure {a : α} (h : left a ≤ n) : Affords n (pure a : Metered ε α) (.ok a) left :=
  ⟨rfl, by simpa [pure, kept] using h⟩

lemma affords_throw {e : ε} : Affords n (throw e : Metered ε α) (.error e) left :=
  ⟨rfl, Nat.zero_le n⟩

lemma affords_lift (r : Except ε α) : Affords n (liftM r : Metered ε α) r fun _ => n := by
  refine ⟨rfl, ?_⟩
  show 0 + kept (fun _ => n) r ≤ n
  cases r with
  | error e => exact Nat.zero_le n
  | ok a => exact Nat.le_of_eq (Nat.zero_add n)

lemma affords_bind {f : α → Metered ε β} {g : α → Except ε β} {left' : β → ℕ}
    (hx : Affords n x r left) (hf : ∀ a, r = .ok a → Affords (left a) (f a) (g a) left') :
    Affords n (x >>= f) (r >>= g) left' := by
  have hrun := hx.outcome
  have hp := hx.paid
  cases hr : r with
  | error e =>
    rw [hr] at hrun hp
    have hs : x >>= f = ⟨x.calls, throw e⟩ := by
      show Logged.andThen x f = _
      unfold Logged.andThen
      rw [hrun]
    rw [hs]
    exact ⟨rfl, hp⟩
  | ok a =>
    rw [hr] at hrun hp
    have hgo : x >>= f = ⟨x.calls ++ (f a).calls, (f a).outcome⟩ := by
      show Logged.andThen x f = _
      unfold Logged.andThen
      rw [hrun]
    have hn := hf a hr
    rw [hgo]
    refine ⟨hn.outcome, ?_⟩
    have hm := hn.paid
    simp only [kept] at hp
    show work (x.calls ++ (f a).calls) + kept left' (g a) ≤ n
    rw [work_append]
    omega

lemma affords_step {a : α} {f : α → Metered ε β} {r : Except ε β} {left : β → ℕ}
    (hx : Affords m x (.ok a) fun _ => 0) (hm : m ≤ n) (hf : Affords (n - m) (f a) r left) :
    Affords n (x >>= f) r left := by
  refine affords_bind (r := .ok a) (g := fun _ => r) (hx.frame hm) ?_
  intro b hb
  injection hb with hb
  rw [← hb]
  exact hf

lemma affords_through (g : Except ε α → Except ε' β) (h : Affords n x r fun _ => 0) :
    Affords n (through g x) (g r) fun _ => 0 := by
  refine ⟨?_, ?_⟩
  · show x.outcome.run.map g = some (g r)
    rw [h.outcome]
    rfl
  · have hz : kept (fun _ : β => 0) (g r) = 0 := by cases g r <;> rfl
    rw [hz]
    exact h.work_le

lemma affords_event {e : Event} {f : Unit → Metered ε α} (he : e.cost ≤ n)
    (hf : Affords (n - e.cost) (f ()) r left) : Affords n (Logged.call e >>= f) r left := by
  refine ⟨hf.outcome, ?_⟩
  have hp := hf.paid
  show work ([e] ++ (f ()).calls) + _ ≤ n
  rw [work_append, work_singleton]
  omega

lemma affords_orPanic {a : Option β} {b : β} {f : β → Metered ε α} (ha : a = some b)
    (hf : Affords n (f b) r left) :
    Affords n (Logged.quiet (MayPanic.orPanic a) >>= f) r left := by
  subst ha
  exact ⟨hf.outcome, hf.paid⟩

end Rules

/-! ## Loops over a list -/

lemma affords_find (p : α → Bool) (as : List α) :
    Affords as.length (find p as : Metered ε _) (.ok (as.find? p)) fun _ => 0 := by
  induction as with
  | nil => exact affords_pure (Nat.le_refl _)
  | cons a as ih =>
    refine affords_event (by simp [cost]) ?_
    cases hp : p a with
    | true =>
      rw [if_pos rfl, List.find?_cons_of_pos hp]
      exact affords_pure (Nat.zero_le _)
    | false =>
      rw [if_neg Bool.false_ne_true, List.find?_cons_of_neg (by simp [hp])]
      exact ih

lemma affords_any (p : α → Bool) (as : List α) :
    Affords as.length (any p as : Metered ε _) (.ok (as.any p)) fun _ => 0 := by
  refine affords_step (affords_find p as) (Nat.le_refl _) ?_
  rw [← List.isSome_find?]
  exact affords_pure (Nat.zero_le _)

lemma affords_all (p : α → Bool) (as : List α) :
    Affords as.length (all p as : Metered ε _) (.ok (as.all p)) fun _ => 0 := by
  refine affords_step (affords_find _ as) (Nat.le_refl _) ?_
  rw [List.all_eq_not_any_not, ← List.isSome_find?, Option.not_isSome]
  exact affords_pure (Nat.zero_le _)

lemma affords_writeEach (write : α → List τ) (as : List α) :
    Affords as.length (writeEach write as : Metered ε _) (.ok (as.flatMap write)) fun _ => 0 := by
  induction as with
  | nil => exact affords_pure (Nat.le_refl _)
  | cons a as ih =>
    refine affords_event (by simp [cost]) ?_
    exact affords_step ih (Nat.le_refl _) (affords_pure (Nat.zero_le _))

/-! ## Readers -/

section Readers

variable {n : ℕ} {s : List τ} {m : MeteredParser τ ε α} {p : Parser τ ε α}
  {left : α × List τ → ℕ}

lemma affords_plain (p : Parser τ ε α) (s : List τ) : Affords n (plain p s) (p s) fun _ => n :=
  affords_lift (p s)

lemma affords_seq {f : α → MeteredParser τ ε β} {g : α → Parser τ ε β}
    {left' : β × List τ → ℕ} (hm : Affords n (m s) (p s) left)
    (hf : ∀ a s', p s = .ok (a, s') → Affords (left (a, s')) (f a s') (g a s') left') :
    Affords n ((m >>= f) s) ((p >>= g) s) left' :=
  affords_bind hm fun a ha => hf a.1 a.2 ha

lemma affords_lift_apply {x : Metered ε α} {r : Except ε α} {left : α → ℕ}
    (h : Affords n x r left) :
    Affords n ((liftM x : MeteredParser τ ε α) s) (r.map fun a => (a, s)) fun a => left a.1 := by
  have hmap : (r.map fun a => (a, s)) = (r >>= fun a => .ok (a, s)) := by cases r <;> rfl
  rw [hmap]
  exact affords_bind h fun _ _ => affords_pure (Nat.le_refl _)

lemma affords_event_seq {e : Event} {f : Unit → MeteredParser τ ε α} (he : e.cost ≤ n)
    (hf : Affords (n - e.cost) (f () s) (p s) left) :
    Affords n ((note e >>= f) s) (p s) left := by
  refine ⟨hf.outcome, ?_⟩
  have hp := hf.paid
  show work (([e] ++ []) ++ (f () s).calls) + _ ≤ n
  rw [List.append_nil, work_append, work_singleton]
  omega

lemma affords_orPanic_seq {a : Option β} {b : β} {f : β → MeteredParser τ ε α} (ha : a = some b)
    (hf : Affords n (f b s) (p s) left) :
    Affords n (((liftM (Logged.quiet (MayPanic.orPanic a) : Metered ε β) :
      MeteredParser τ ε β) >>= f) s) (p s) left := by
  subst ha
  exact ⟨hf.outcome, hf.paid⟩

lemma affords_run' (h : Affords n (m s) (p s) fun _ => 0) :
    Affords n (StateT.run' m s) (StateT.run' p s) fun _ => 0 := by
  have hf : StateT.run' p s = (p s >>= fun a => .ok a.1) := by
    show Prod.fst <$> p s = _
    cases p s <;> rfl
  rw [hf]
  show Affords n (m s >>= fun a => pure a.1) _ _
  exact affords_bind h fun _ _ => affords_pure (Nat.le_refl _)

def PerToken (k c : ℕ) (m : MeteredParser τ ε α) (p : Parser τ ε α) : Prop :=
  ∀ s, Affords (k * s.length + c) (m s) (p s) fun x => k * x.2.length + c

lemma PerToken.affords {k c : ℕ} (h : PerToken k c m p) (hn : k * s.length + c ≤ n) :
    Affords n (m s) (p s) fun x => n - k * s.length + k * x.2.length :=
  (h s).weaken hn fun _ _ => by omega

/-- A loop pays for itself when each of its readers does and leaves a credit for its round. -/
theorem perToken_many {k c : ℕ}
    (h : ∀ s, Affords (k * s.length + c) (m s) (p s) fun x => k * x.2.length + c + 1) (n : ℕ) :
    PerToken k (c + 1) (many m n) (Parser.many p n) := by
  -- induction on the rounds asked for; the tokens left carry the credits left
  induction n with
  | zero => exact fun s => affords_pure (Nat.le_refl _)
  | succ n ih =>
    intro s
    refine affords_event_seq (by rw [cost]; omega) ?_
    refine affords_seq (h s) ?_
    intro a s' _
    refine affords_seq (ih s') ?_
    intro as s'' _
    exact affords_pure (Nat.le_refl _)

end Readers

end Metered

end KrustyKms.Codec

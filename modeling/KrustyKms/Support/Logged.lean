import KrustyKms.Support.MayPanic

/-!
# Runs that keep a log

A run ends with a value, an error or a panic, and the calls that were made on the way are kept
whatever the end is.
-/

namespace KrustyKms.Support

structure Logged (κ ε α : Type) where
  calls : List κ
  outcome : MayPanic ε α

namespace Logged

variable {κ ε α β : Type}

def andThen (x : Logged κ ε α) (f : α → Logged κ ε β) : Logged κ ε β :=
  match x.outcome.run with
  | some (.ok a) => ⟨x.calls ++ (f a).calls, (f a).outcome⟩
  | some (.error e) => ⟨x.calls, throw e⟩
  | none => ⟨x.calls, MayPanic.orPanic none⟩

instance : Monad (Logged κ ε) where
  pure a := ⟨[], pure a⟩
  bind := andThen

def quiet (x : MayPanic ε α) : Logged κ ε α := ⟨[], x⟩

instance : MonadLift (Except ε) (Logged κ ε) := ⟨fun x => quiet (liftM x)⟩

instance : MonadExceptOf ε (Logged κ ε) where
  throw e := quiet (throw e)
  tryCatch x handle :=
    match x.outcome.run with
    | some (.error e) => ⟨x.calls ++ (handle e).calls, (handle e).outcome⟩
    | _ => x

def call (c : κ) : Logged κ ε Unit := ⟨[c], pure ()⟩

/-! ## Runs that return -/

def Returns (x : Logged κ ε α) (a : α) : Prop := x.outcome.Returns a

variable {a : α} {x : MayPanic ε α} {f : α → Logged κ ε β} {R : β → Prop}

@[simp] lemma returns_pure {b : α} : Returns (pure a : Logged κ ε α) b ↔ a = b :=
  MayPanic.returns_pure

@[simp] lemma returns_quiet :
    Returns (quiet x : Logged κ ε α) a ↔ x.Returns a := Iff.rfl

@[simp] lemma returns_lift {x : Except ε α} :
    Returns (liftM x : Logged κ ε α) a ↔ x = .ok a :=
  MayPanic.returns_lift

@[simp] lemma returns_call {c : κ} : Returns (call c : Logged κ ε Unit) () :=
  MayPanic.returns_pure.mpr rfl

lemma returns_bind {x : Logged κ ε α} {b : β} :
    Returns (x >>= f) b ↔ ∃ a, Returns x a ∧ Returns (f a) b := by
  show Returns (andThen x f) b ↔ _
  unfold Returns andThen
  cases h : x.outcome.run with
  | none =>
    have hp : ¬ (MayPanic.orPanic none : MayPanic ε β).Returns b := by
      rw [MayPanic.returns_orPanic]
      exact nofun
    simp [hp, MayPanic.Returns.eq_1 x.outcome, h]
  | some r =>
    cases r with
    | error e => simp [MayPanic.Returns, h]
    | ok a => simp [MayPanic.Returns, h]

/-! ## Safe runs -/

structure Safe (P : κ → Prop) (Q : α → Prop) (x : Logged κ ε α) : Prop where
  calls : ∀ c ∈ x.calls, P c
  completes : x.outcome.Completes
  value : ∀ a, Returns x a → Q a

variable {P : κ → Prop} {Q : α → Prop}

lemma safe_quiet (hcm : x.Completes) (hv : ∀ a, x.Returns a → Q a) :
    Safe P Q (quiet x : Logged κ ε α) :=
  ⟨fun _ hc => absurd hc List.not_mem_nil, hcm, hv⟩

lemma safe_lift {x : Except ε α} (hv : ∀ a, x = .ok a → Q a) :
    Safe P Q (liftM x : Logged κ ε α) :=
  safe_quiet MayPanic.completes_lift fun a ha => hv a (MayPanic.returns_lift.mp ha)

lemma safe_pure (ha : Q a) : Safe P Q (pure a : Logged κ ε α) := by
  refine safe_quiet MayPanic.completes_pure ?_
  intro b hb
  rw [MayPanic.returns_pure] at hb
  rw [← hb]
  exact ha

lemma safe_throw {e : ε} : Safe P Q (throw e : Logged κ ε α) :=
  safe_quiet MayPanic.completes_throw fun _ ha => absurd ha MayPanic.not_returns_throw

lemma safe_call {c : κ} (hc : P c) : Safe P (fun _ => True) (call c : Logged κ ε Unit) := by
  refine ⟨?_, MayPanic.completes_pure, fun _ _ => trivial⟩
  intro d hd
  rw [List.mem_singleton.mp hd]
  exact hc

lemma safe_bind {x : Logged κ ε α} (hx : Safe P Q x)
    (hf : ∀ a, Q a → Safe P R (f a)) : Safe P R (x >>= f) := by
  have hv : ∀ b, Returns (x >>= f) b → R b := by
    intro b hb
    obtain ⟨a, ha, hb⟩ := returns_bind.mp hb
    exact (hf a (hx.value a ha)).value b hb
  refine ⟨?_, ?_, hv⟩
  · show ∀ c ∈ (andThen x f).calls, P c
    unfold andThen
    cases h : x.outcome.run with
    | none => exact hx.calls
    | some r =>
      cases r with
      | error e => exact hx.calls
      | ok a =>
        intro c hc
        rcases List.mem_append.mp hc with hc | hc
        · exact hx.calls c hc
        · exact (hf a (hx.value a h)).calls c hc
  · show (andThen x f).outcome.Completes
    unfold andThen
    cases h : x.outcome.run with
    | none => exact absurd h hx.completes
    | some r =>
      cases r with
      | error e => exact MayPanic.completes_throw
      | ok a => exact (hf a (hx.value a h)).completes

lemma safe_lift_bind {x : Except ε α}
    (hf : ∀ a, x = .ok a → Safe P R (f a)) : Safe P R (liftM x >>= f) :=
  safe_bind (safe_lift fun _ ha => ha) hf

lemma safe_quiet_bind (hc : x.Completes) (hf : ∀ a, x.Returns a → Safe P R (f a)) :
    Safe P R (quiet x >>= f) :=
  safe_bind (safe_quiet hc fun _ ha => ha) hf

lemma safe_ite_throw {c : Prop} [Decidable c] {e : ε} {k : PUnit → Logged κ ε α}
    {x : Logged κ ε α} (hx : ¬ c → Safe P Q x) : Safe P Q (if c then throw e >>= k else x) := by
  by_cases h : c
  · rw [if_pos h]
    exact safe_bind (safe_throw : Safe P (fun _ => False) _) fun _ hno => hno.elim
  · rw [if_neg h]
    exact hx h

end Logged

end KrustyKms.Support

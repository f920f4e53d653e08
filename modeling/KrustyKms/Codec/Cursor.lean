import KrustyKms.Codec.Parser

/-!
# Cursors: parsers that keep the whole input

A cursor reads from a fixed token list at a position that only moves on, where a
`Parser` drops what it has read. A cursor *follows* a parser when, on inputs up
to a size limit, it accepts the same values and stops at the same token; the
errors may differ. Following is kept by sequencing, and a cursor that follows an
exact parser inherits exactness (`Follows.eq_write`, `Follows.of_write`).
-/

namespace KrustyKms.Codec

/-- A parser over a fixed token list, with the position of the next token. -/
abbrev Cursor (τ ε α : Type) := ReaderT (List τ) (StateT ℕ (Except ε)) α

namespace Cursor

variable {τ ε ε' α β : Type}

/-! ## Running a cursor -/

@[simp] lemma pure_apply (a : α) (tokens : List τ) (pos : ℕ) :
    (pure a : Cursor τ ε α) tokens pos = .ok (a, pos) := rfl

@[simp] lemma throw_apply (e : ε) (tokens : List τ) (pos : ℕ) :
    (throw e : Cursor τ ε α) tokens pos = .error e := rfl

lemma bind_eq_ok {c : Cursor τ ε α} {f : α → Cursor τ ε β} {tokens : List τ} {pos : ℕ} {r : β × ℕ} :
    (c >>= f) tokens pos = .ok r ↔
      ∃ a pos', c tokens pos = .ok (a, pos') ∧ f a tokens pos' = .ok r := by
  show (c tokens pos >>= fun x => f x.1 tokens x.2) = .ok r ↔ _
  cases c tokens pos with
  | error e => simp [bind, Except.bind]
  | ok x =>
    show f x.1 tokens x.2 = .ok r ↔ _
    constructor
    · intro h
      exact ⟨x.1, x.2, rfl, h⟩
    · intro h
      rcases h with ⟨a, pos', hx, hf⟩
      injection hx with hx
      rw [hx]
      exact hf

lemma ite_throw_eq_ok {q : Prop} [Decidable q] {e : ε} {c : Cursor τ ε α} {tokens : List τ}
    {pos : ℕ} {r : α × ℕ} :
    (if q then throw e else c) tokens pos = .ok r ↔ ¬ q ∧ c tokens pos = .ok r := by
  by_cases h : q
  · simp [h]
  · simp [h]

/-! ## Following a parser -/

/-- On inputs of at most `limit` tokens, `c` at the end of `pre` accepts what `p`
accepts on the rest `s`, and moves on by what `p` consumes. -/
structure Follows (limit : ℕ) (c : Cursor τ ε α) (p : Parser τ ε' α) : Prop where
  sound : ∀ {pre s : List τ} {a : α} {pos : ℕ}, (pre ++ s).length ≤ limit →
    c (pre ++ s) pre.length = .ok (a, pos) →
      ∃ t s', s = t ++ s' ∧ pos = (pre ++ t).length ∧ p s = .ok (a, s')
  complete : ∀ {pre s s' : List τ} {a : α}, (pre ++ s).length ≤ limit → p s = .ok (a, s') →
    ∃ t, s = t ++ s' ∧ c (pre ++ s) pre.length = .ok (a, (pre ++ t).length)

namespace Follows

variable {limit : ℕ} {c : Cursor τ ε α} {p : Parser τ ε' α}

lemma pure (a : α) :
    Follows limit (Pure.pure a : Cursor τ ε α) (Pure.pure a : Parser τ ε' α) := by
  refine ⟨?_, ?_⟩
  · intro pre s b pos _ h
    injection h with h
    injection h with ha hpos
    subst ha hpos
    exact ⟨[], s, rfl, by simp, rfl⟩
  · intro pre s s' b _ h
    injection h with h
    injection h with ha hs
    subst ha hs
    exact ⟨[], rfl, by simp⟩

lemma throw (e : ε) (e' : ε') :
    Follows limit (MonadExcept.throw e : Cursor τ ε α) (MonadExcept.throw e' : Parser τ ε' α) := by
  refine ⟨?_, ?_⟩
  · intro pre s a pos _ h
    cases h
  · intro pre s s' a _ h
    cases h

lemma bind {f : α → Cursor τ ε β} {g : α → Parser τ ε' β} (hc : Follows limit c p)
    (hf : ∀ a, Follows limit (f a) (g a)) : Follows limit (c >>= f) (p >>= g) := by
  refine ⟨?_, ?_⟩
  · intro pre s b pos hl h
    rw [Cursor.bind_eq_ok] at h
    rcases h with ⟨a, pos', hr, h⟩
    rcases hc.sound hl hr with ⟨t, s', hs, hp', hp⟩
    subst hs hp'
    -- the second cursor runs on the same tokens, now split behind `t`
    rw [← List.append_assoc] at h hl
    rcases (hf a).sound hl h with ⟨t', s'', hs', hpos, hg⟩
    subst hs'
    refine ⟨t ++ t', s'', by rw [List.append_assoc], by rw [hpos, List.append_assoc], ?_⟩
    exact Parser.bind_eq_ok.mpr ⟨a, _, hp, hg⟩
  · intro pre s s'' b hl h
    rcases Parser.bind_eq_ok.mp h with ⟨a, s', hp, hg⟩
    rcases hc.complete hl hp with ⟨t, hs, hr⟩
    subst hs
    rw [← List.append_assoc] at hl
    rcases (hf a).complete hl hg with ⟨t', hs', hr'⟩
    subst hs'
    refine ⟨t ++ t', by rw [List.append_assoc], ?_⟩
    rw [Cursor.bind_eq_ok]
    refine ⟨a, _, hr, ?_⟩
    rw [← List.append_assoc pre t (t' ++ s''), ← List.append_assoc pre t t']
    exact hr'

lemma get_bind {f : ℕ → Cursor τ ε α} (h : ∀ pos, Follows limit (f pos) p) :
    Follows limit (get >>= f) p :=
  ⟨fun hl hr => (h _).sound hl hr, fun hl hp => (h _).complete hl hp⟩

lemma eq_write {write : α → List τ} {Valid : α → Prop} (h : Follows limit c p)
    (hp : Parser.Exact p write Valid) {pre s : List τ} {a : α} {pos : ℕ}
    (hl : (pre ++ s).length ≤ limit) (hr : c (pre ++ s) pre.length = .ok (a, pos)) :
    ∃ s', s = write a ++ s' ∧ pos = (pre ++ write a).length ∧ Valid a := by
  rcases h.sound hl hr with ⟨t, s', hs, hpos, hpr⟩
  rcases hp.sound hpr with ⟨hs', hv⟩
  have ht : t = write a := List.append_cancel_right (hs.symm.trans hs')
  subst ht
  exact ⟨s', hs, hpos, hv⟩

lemma of_write {write : α → List τ} {Valid : α → Prop} (h : Follows limit c p)
    (hp : Parser.Exact p write Valid) {pre s' : List τ} {a : α}
    (hl : (pre ++ (write a ++ s')).length ≤ limit) (hv : Valid a) :
    c (pre ++ (write a ++ s')) pre.length = .ok (a, (pre ++ write a).length) := by
  rcases h.complete hl (hp.complete s' hv) with ⟨t, hs, hr⟩
  rw [← List.append_cancel_right hs] at hr
  exact hr

end Follows

end Cursor

end KrustyKms.Codec

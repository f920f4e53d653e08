import Mathlib.Data.List.Basic
import Mathlib.Order.Basic

/-!
# Exact parsers over token lists

A parser consumes a prefix of a token list or fails. It is *exact* for a
writer when it reads back precisely the written values: whatever it accepts is
the writing of a valid value followed by the untouched rest, and the writing of
every valid value is accepted, whatever follows it.
-/

namespace KrustyKms.Codec

/-- A parser over tokens `τ` with errors `ε`: it consumes a prefix or fails. -/
abbrev Parser (τ ε α : Type) := StateT (List τ) (Except ε) α

namespace Parser

variable {τ ε α β : Type}

/-! ## Running a parser -/

@[simp] lemma pure_apply (a : α) (s : List τ) :
    (pure a : Parser τ ε α) s = .ok (a, s) := rfl

@[simp] lemma throw_apply (e : ε) (s : List τ) :
    (throw e : Parser τ ε α) s = .error e := rfl

variable {p : Parser τ ε α} {f : α → Parser τ ε β} {s : List τ}

lemma bind_eq_ok {r : β × List τ} :
    (p >>= f) s = .ok r ↔ ∃ a s', p s = .ok (a, s') ∧ f a s' = .ok r := by
  constructor
  · intro h
    cases hp : p s with
    | error e =>
      have herr : (p >>= f) s = .error e := by
        change (p s >>= fun x => f x.1 x.2) = _
        rw [hp]; rfl
      rw [herr] at h
      cases h
    | ok x =>
      refine ⟨x.1, x.2, rfl, ?_⟩
      have hok : (p >>= f) s = f x.1 x.2 := by
        change (p s >>= fun x => f x.1 x.2) = _
        rw [hp]; rfl
      rw [← hok]
      exact h
  · intro h
    obtain ⟨a, s', hp, hf⟩ := h
    change (p s >>= fun x => f x.1 x.2) = _
    rw [hp]
    exact hf

lemma bind_of_ok {s' : List τ} {a : α} (h : p s = .ok (a, s')) : (p >>= f) s = f a s' := by
  change (p s >>= fun x => f x.1 x.2) = _
  rw [h]
  rfl

lemma bind_of_error {e : ε} (h : p s = .error e) : (p >>= f) s = .error e := by
  change (p s >>= fun x => f x.1 x.2) = _
  rw [h]
  rfl

def many (p : Parser τ ε α) : ℕ → Parser τ ε (List α)
  | 0 => pure []
  | n + 1 => do
    let a ← p
    let as ← many p n
    pure (a :: as)

/-! ## Exactness -/

/-- `p` reads back precisely the values `Valid` admits, as `write` writes them. -/
structure Exact (p : Parser τ ε α) (write : α → List τ) (Valid : α → Prop) : Prop where
  sound : ∀ {s a s'}, p s = .ok (a, s') → s = write a ++ s' ∧ Valid a
  complete : ∀ {a} (s' : List τ), Valid a → p (write a ++ s') = .ok (a, s')

/-- Prefix-free writings, one after the other, are told apart when their number is known. -/
lemma flatMap_append_inj {write : α → List τ}
    (hf : ∀ a b s t, write a ++ s = write b ++ t → a = b ∧ s = t) {as bs : List α}
    {t : List τ} (hl : as.length = bs.length)
    (h : as.flatMap write ++ s = bs.flatMap write ++ t) : as = bs ∧ s = t := by
  induction as generalizing bs with
  | nil =>
    rw [List.length_nil, eq_comm, List.length_eq_zero_iff] at hl
    subst hl
    exact ⟨rfl, h⟩
  | cons a as ih =>
    cases bs with
    | nil => simp at hl
    | cons b bs =>
      simp only [List.flatMap_cons, List.append_assoc] at h
      obtain ⟨hh, hr⟩ := hf _ _ _ _ h
      obtain ⟨ht, hst⟩ := ih (by simpa using hl) hr
      rw [hh, ht]
      exact ⟨rfl, hst⟩

lemma length_le_length_flatMap {write : α → List τ} (h : ∀ a, write a ≠ [])
    (items : List α) : items.length ≤ (items.flatMap write).length := by
  induction items with
  | nil => simp
  | cons a items ih =>
    have hpos := List.length_pos_iff.mpr (h a)
    rw [List.flatMap_cons, List.length_append, List.length_cons]
    omega

namespace Exact

variable {p : Parser τ ε α} {write : α → List τ} {Valid : α → Prop}

lemma eq_write (h : Exact p write Valid) {s s' : List τ} {a : α}
    (hp : p s = .ok (a, s')) : s = write a ++ s' :=
  (h.sound hp).1

lemma length_eq (h : Exact p write Valid) {s s' : List τ} {a : α}
    (hp : p s = .ok (a, s')) : s.length = (write a).length + s'.length := by
  rw [h.eq_write hp, List.length_append]

lemma valid (h : Exact p write Valid) {s s' : List τ} {a : α} (hp : p s = .ok (a, s')) : Valid a :=
  (h.sound hp).2

theorem prefix_free (h : Exact p write Valid) {a b : α} {s t : List τ}
    (ha : Valid a) (hb : Valid b) (heq : write a ++ s = write b ++ t) : a = b ∧ s = t := by
  have hr : p (write b ++ t) = .ok (a, s) := heq ▸ h.complete s ha
  rw [h.complete t hb] at hr
  injection hr with hp
  injection hp with hab hts
  exact ⟨hab.symm, hts.symm⟩

theorem many (h : Exact p write Valid) (n : ℕ) :
    Exact (Parser.many p n) (fun as => as.flatMap write)
      (fun as => as.length = n ∧ ∀ a ∈ as, Valid a) := by
  induction n with
  | zero =>
    refine ⟨?_, ?_⟩
    · intro s as s' hp
      simp only [Parser.many, pure_apply, Except.ok.injEq, Prod.mk.injEq] at hp
      obtain ⟨rfl, rfl⟩ := hp
      simp
    · intro as s' h
      obtain ⟨hlen, -⟩ := h
      rw [List.length_eq_zero_iff] at hlen
      subst hlen
      rfl
  | succ n ih =>
    refine ⟨?_, ?_⟩
    · intro s as s' hp
      simp only [Parser.many, bind_eq_ok, pure_apply, Except.ok.injEq, Prod.mk.injEq] at hp
      obtain ⟨a, s₁, ha, tail, s₂, ht, rfl, rfl⟩ := hp
      obtain ⟨rfl, hva⟩ := h.sound ha
      obtain ⟨rfl, hlen, hvl⟩ := ih.sound ht
      refine ⟨by simp, by simp [hlen], ?_⟩
      intro b hb
      rcases List.mem_cons.mp hb with rfl | hb
      · exact hva
      · exact hvl b hb
    · intro as s' h
      obtain ⟨hlen, hv⟩ := h
      cases as with
      | nil => simp at hlen
      | cons a tail =>
        have hva : Valid a := hv a (by simp)
        have hvt : ∀ b ∈ tail, Valid b := fun b hb => hv b (by simp [hb])
        have ht : tail.length = n := by simpa using hlen
        simp only [Parser.many, List.flatMap_cons, List.append_assoc]
        rw [bind_of_ok (h.complete _ hva), bind_of_ok (ih.complete _ ⟨ht, hvt⟩)]
        rfl

/-- A list written as its length followed by its elements. The length must be
one the count parser admits. -/
theorem counted {c : Parser τ ε ℕ} {writeCount : ℕ → List τ} {ValidCount : ℕ → Prop}
    (hc : Exact c writeCount ValidCount) (h : Exact p write Valid) :
    Exact (do let n ← c; Parser.many p n)
      (fun as => writeCount as.length ++ as.flatMap write)
      (fun as => ValidCount as.length ∧ ∀ a ∈ as, Valid a) := by
  refine ⟨?_, ?_⟩
  · intro s as s' hp
    obtain ⟨n, s₁, hn, hm⟩ := bind_eq_ok.mp hp
    obtain ⟨rfl, hvn⟩ := hc.sound hn
    obtain ⟨rfl, rfl, hv⟩ := (h.many n).sound hm
    exact ⟨by simp, hvn, hv⟩
  · intro as s' h
    obtain ⟨hvn, hv⟩ := h
    rw [List.append_assoc, bind_of_ok (hc.complete _ hvn)]
    exact (h.many as.length).complete s' ⟨rfl, hv⟩

/-- An unprefixed concatenation of non-empty writings determines the values. -/
theorem flatMap_injective (h : Exact p write Valid) (hne : ∀ a, Valid a → write a ≠ [])
    {as bs : List α} (ha : ∀ a ∈ as, Valid a) (hb : ∀ b ∈ bs, Valid b)
    (heq : as.flatMap write = bs.flatMap write) : as = bs := by
  induction as generalizing bs with
  | nil =>
    cases bs with
    | nil => rfl
    | cons b bs =>
      simp only [List.flatMap_nil, List.flatMap_cons] at heq
      exact absurd (List.append_eq_nil_iff.mp heq.symm).1 (hne b (hb b (by simp)))
  | cons a as ih =>
    cases bs with
    | nil =>
      simp only [List.flatMap_nil, List.flatMap_cons] at heq
      exact absurd (List.append_eq_nil_iff.mp heq).1 (hne a (ha a (by simp)))
    | cons b bs =>
      simp only [List.flatMap_cons] at heq
      obtain ⟨rfl, ht⟩ := h.prefix_free (ha a (by simp)) (hb b (by simp)) heq
      rw [ih (fun x hx => ha x (by simp [hx])) (fun x hx => hb x (by simp [hx])) ht]

end Exact

end Parser

end KrustyKms.Codec

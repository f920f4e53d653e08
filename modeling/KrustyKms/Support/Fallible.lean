import Mathlib.Algebra.BigOperators.Group.List.Basic
import Mathlib.Data.List.Nodup
import Mathlib.Data.List.Perm.Basic

/-!
# Fallible steps, lookups, and fallible updates at distinct positions of a list

A step that may fail returns an `Except`; `except_bind_eq_ok` takes a chain of steps that
succeeded apart.
-/

namespace KrustyKms.Support

variable {ε α : Type}

/-! ## Chains of steps -/

variable {β : Type} {x : Except ε α} {a : α} {xs ys : List α} {i : ℕ} {is : List ℕ}

lemma except_ok_bind (a : α) (f : α → Except ε β) : (Except.ok a >>= f) = f a := rfl

lemma except_error_bind (e : ε) (f : α → Except ε β) :
    (Except.error e >>= f) = .error e := rfl

/-- A chain of fallible steps succeeds when its first step does and the rest follows. -/
lemma except_bind_eq_ok {f : α → Except ε β} {b : β} :
    (x >>= f) = .ok b ↔ ∃ a, x = .ok a ∧ f a = .ok b := by
  cases x with
  | error e => simp [bind, Except.bind]
  | ok a => simp [bind, Except.bind]

lemma exists_except_bind_eq_ok {f : α → Except ε β} :
    (∃ b, (x >>= f) = .ok b) ↔ ∃ a, x = .ok a ∧ ∃ b, f a = .ok b := by
  simp only [except_bind_eq_ok]
  constructor
  · intro h
    obtain ⟨b, a, ha, hb⟩ := h
    exact ⟨a, ha, b, hb⟩
  · intro h
    obtain ⟨a, ha, b, hb⟩ := h
    exact ⟨b, a, ha, hb⟩

lemma exists_except_pure_eq_ok : (∃ b, (pure a : Except ε α) = .ok b) ↔ True :=
  iff_of_true ⟨a, rfl⟩ trivial

lemma except_map_eq_ok {f : α → β} {b : β} :
    x.map f = .ok b ↔ ∃ a, x = .ok a ∧ f a = b := by
  cases x with
  | error e => simp [Except.map]
  | ok a => simp [Except.map]

lemma except_mapError_eq_ok {δ : Type} {f : ε → δ} :
    x.mapError f = .ok a ↔ x = .ok a := by
  cases x with
  | error e => simp [Except.mapError]
  | ok b => simp [Except.mapError]

lemma except_mapM_ok {f : α → Except ε β} {ys : List β}
    (h : xs.mapM f = .ok ys) : ∀ x ∈ xs, ∃ y, f x = .ok y := by
  induction xs generalizing ys with
  | nil => simp
  | cons x xs ih =>
    rw [List.mapM_cons, except_bind_eq_ok] at h
    obtain ⟨y, hy, h⟩ := h
    rw [except_bind_eq_ok] at h
    obtain ⟨ys', hys, -⟩ := h
    exact List.forall_mem_cons.mpr ⟨⟨y, hy⟩, ih hys⟩

lemma except_mapM_eq_map {f : α → Except ε β} {g : α → β}
    (h : ∀ x ∈ xs, f x = .ok (g x)) : xs.mapM f = .ok (xs.map g) := by
  induction xs with
  | nil => rfl
  | cons x xs ih =>
    rw [List.forall_mem_cons] at h
    rw [List.mapM_cons, h.1, ih h.2]
    rfl

lemma except_mapM_eq_ok_iff {f : α → Except ε β} {ys : List β} :
    xs.mapM f = .ok ys ↔ xs.map f = ys.map .ok := by
  induction xs generalizing ys with
  | nil => simp [pure, Except.pure, eq_comm]
  | cons x xs ih =>
    simp only [List.mapM_cons, except_bind_eq_ok, ih, List.map_cons]
    cases ys with
    | nil => simp [pure, Except.pure]
    | cons y ys => simp [pure, Except.pure, eq_comm]

lemma option_mapM_forall₂ {decode : β → Option α} {ys : List β}
    (h : List.Forall₂ (fun y x => decode y = some x) ys xs) : ys.mapM decode = some xs := by
  induction h with
  | nil => rfl
  | cons hx _ ih =>
    rw [List.mapM_cons, hx, ih]
    rfl

lemma option_mapM_map {decode : β → Option α} {encode : α → β}
    (h : ∀ a, decode (encode a) = some a) (xs : List α) :
    (xs.map encode).mapM decode = some xs := by
  apply option_mapM_forall₂
  rw [List.forall₂_map_left_iff, List.forall₂_same]
  intro a _
  exact h a

lemma except_mapM_mem {f : α → Except ε β} {ys : List β}
    (h : xs.mapM f = .ok ys) : ∀ y ∈ ys, ∃ x ∈ xs, f x = .ok y := by
  induction xs generalizing ys with
  | nil =>
    obtain rfl := Except.ok.inj h
    simp
  | cons x xs ih =>
    rw [List.mapM_cons, except_bind_eq_ok] at h
    obtain ⟨y, hy, h⟩ := h
    rw [except_bind_eq_ok] at h
    obtain ⟨ys', hys, h⟩ := h
    obtain rfl := Except.ok.inj h
    refine List.forall_mem_cons.mpr ⟨⟨x, List.mem_cons_self, hy⟩, ?_⟩
    intro y' hy'
    obtain ⟨x', hx', hfx'⟩ := ih hys y' hy'
    exact ⟨x', List.mem_cons_of_mem x hx', hfx'⟩

lemma foldlM_append {γ : Type} {step : List β → α → Except ε (List β)} {f : α → Except ε γ}
    {g : γ → List β} (hs : ∀ out x, step out x = (f x).map (fun y => out ++ g y))
    (xs : List α) (out : List β) :
    xs.foldlM step out = (xs.mapM f).map (fun ys => out ++ ys.flatMap g) := by
  induction xs generalizing out with
  | nil => simp [pure, Except.pure, Except.map]
  | cons x xs ih =>
    rw [List.foldlM_cons, List.mapM_cons, hs]
    cases f x with
    | error e => rfl
    | ok y =>
      show xs.foldlM step (out ++ g y) = _
      rw [ih]
      cases hmap : xs.mapM f with
      | error e => simp [bind, Except.bind, Except.map]
      | ok ys => simp [bind, Except.bind, Except.map, pure, Except.pure]

lemma foldlM_sum_eq_ok {σ M : Type} [AddMonoid M] {step : σ → α → Except ε σ} {value : σ → M}
    {share : α → M} {P : α → Prop} (hv : Function.Bijective value)
    (hs : ∀ s x s', step s x = .ok s' ↔ P x ∧ value s' = value s + share x) {s s' : σ} :
    xs.foldlM step s = .ok s' ↔ (∀ x ∈ xs, P x) ∧ value s' = value s + (xs.map share).sum := by
  induction xs generalizing s with
  | nil =>
    rw [List.foldlM_nil, List.map_nil, List.sum_nil, add_zero]
    constructor
    · intro h
      rw [Except.ok.inj h]
      exact ⟨by simp, rfl⟩
    · intro h
      rw [hv.injective h.2]
      rfl
  | cons x xs ih =>
    rw [List.foldlM_cons, except_bind_eq_ok, List.forall_mem_cons, List.map_cons, List.sum_cons,
      ← add_assoc]
    constructor
    · intro h
      obtain ⟨t, hf, hr⟩ := h
      obtain ⟨hx, ht⟩ := (hs s x t).mp hf
      obtain ⟨hxs, hsum⟩ := ih.mp hr
      exact ⟨⟨hx, hxs⟩, by rw [hsum, ht]⟩
    · intro h
      obtain ⟨⟨hx, hxs⟩, hsum⟩ := h
      obtain ⟨t, ht⟩ := hv.surjective (value s + share x)
      refine ⟨t, (hs s x t).mpr ⟨hx, ht⟩, ih.mpr ⟨hxs, ?_⟩⟩
      rw [hsum, ht]

lemma except_toOption_congr {y : Except ε α} (h : ∀ a, x = .ok a ↔ y = .ok a) :
    x.toOption = y.toOption := by
  cases x with
  | ok a =>
    rw [(h a).mp rfl]
  | error e =>
    cases y with
    | ok a => cases (h a).mpr rfl
    | error e' => rfl

lemma except_toOption_bind (x : Except ε α) (f : α → Except ε β) :
    (x >>= f).toOption = x.toOption.bind fun a => (f a).toOption := by
  cases x with
  | ok a => rfl
  | error e => rfl

lemma ite_pure_false_eq_ok {c : Prop} [Decidable c] {x : Except ε Bool} :
    (if c then pure false else x) = .ok true ↔ ¬ c ∧ x = .ok true := by
  by_cases h : c
  · simp [h, pure, Except.pure]
  · simp [h]

lemma except_ite_throw_eq_ok {c : Prop} [Decidable c] {e : ε} {k : PUnit → Except ε β}
    {x : Except ε β} {b : β} :
    (if c then throw e >>= k else x) = .ok b ↔ ¬ c ∧ x = .ok b := by
  by_cases h : c
  · simp [h, throw, throwThe, MonadExceptOf.throw, bind, Except.bind]
  · simp [h]

/-! ## Lookups -/

/-- What stands at a position of the second of two related lists is related to what stands
there in the first. -/
lemma forall₂_getElem?_right {R : α → β → Prop} {ys : List β}
    {y : β} (h : List.Forall₂ R xs ys) (hy : ys[i]? = some y) : ∃ x, xs[i]? = some x ∧ R x y := by
  induction h generalizing i with
  | nil => simp at hy
  | cons hh _ ih =>
    cases i with
    | zero => exact ⟨_, rfl, Option.some.inj hy ▸ hh⟩
    | succ i => exact ih hy

lemma find?_key_eq_some {κ : Type} [DecidableEq κ] {key : α → κ} {k : κ} (hn : (xs.map key).Nodup) :
    (xs.find? fun x => key x = k) = some a ↔ a ∈ xs ∧ key a = k := by
  constructor
  · intro h
    have hkey := List.find?_some h
    rw [decide_eq_true_eq] at hkey
    exact ⟨List.mem_of_find?_eq_some h, hkey⟩
  · intro ⟨hmem, hkey⟩
    cases hf : xs.find? fun x => key x = k with
    | none =>
      have hnn := List.find?_eq_none.mp hf a hmem
      exact absurd hkey (by simpa using hnn)
    | some b =>
      have hb := List.find?_some hf
      rw [decide_eq_true_eq] at hb
      have hm := List.mem_of_find?_eq_some hf
      rw [List.inj_on_of_nodup_map hn hm hmem (hb.trans hkey.symm)]

section Entries

variable {κ β : Type} [BEq κ] [LawfulBEq κ] {entries : List (κ × β)}

lemma mem_of_lookup {k : κ} {b : β} (h : entries.lookup k = some b) : (k, b) ∈ entries := by
  obtain ⟨before, after, rfl, -⟩ := List.lookup_eq_some_iff.mp h
  exact List.mem_append_right _ List.mem_cons_self

lemma lookup_of_mem {entry : κ × β} (hn : (entries.map Prod.fst).Nodup)
    (h : entry ∈ entries) : entries.lookup entry.1 = some entry.2 := by
  obtain ⟨before, after, rfl⟩ := List.append_of_mem h
  refine List.lookup_eq_some_iff.mpr ⟨before, after, rfl, ?_⟩
  intro first hf
  rw [List.map_append, List.map_cons, List.nodup_append] at hn
  have hne := hn.2.2 first.1 (List.mem_map_of_mem hf) entry.1 List.mem_cons_self
  exact bne_iff_ne.mpr hne.symm

lemma lookup_perm {entries' : List (κ × β)} (hn : (entries.map Prod.fst).Nodup)
    (hp : entries.Perm entries') (k : κ) : entries.lookup k = entries'.lookup k := by
  cases h : entries'.lookup k with
  | some b => exact lookup_of_mem hn (hp.mem_iff.mpr (mem_of_lookup h))
  | none =>
    rw [List.lookup_eq_none_iff] at h ⊢
    intro entry hen
    exact h entry (hp.mem_iff.mp hen)

end Entries

/-! ## Indexed updates -/

def updateAt (g : ℕ → α → Except ε α) (missing : ℕ → ε) (xs : List α) (i : ℕ) :
    Except ε (List α) :=
  match xs[i]? with
  | none => .error (missing i)
  | some a => (g i a).map fun b => xs.set i b

def updateAll (g : ℕ → α → Except ε α) (missing : ℕ → ε) (is : List ℕ) (xs : List α) :
    Except ε (List α) :=
  is.foldlM (updateAt g missing) xs

variable {g : ℕ → α → Except ε α} {missing : ℕ → ε}

lemma updateAt_eq_ok :
    updateAt g missing xs i = .ok ys ↔
      ∃ a b, xs[i]? = some a ∧ g i a = .ok b ∧ ys = xs.set i b := by
  unfold updateAt
  cases hx : xs[i]? with
  | none => simp
  | some a =>
    simp only [except_map_eq_ok]
    constructor
    · intro h
      rcases h with ⟨b, hb, hys⟩
      exact ⟨a, b, rfl, hb, hys.symm⟩
    · intro h
      rcases h with ⟨a', b, ha, hb, hys⟩
      injection ha with ha
      subst ha
      exact ⟨b, hb, hys.symm⟩

lemma updateAll_nil (xs : List α) : updateAll g missing [] xs = .ok xs := rfl

lemma updateAll_cons_eq_ok {zs : List α} :
    updateAll g missing (i :: is) xs = .ok zs ↔
      ∃ ys, updateAt g missing xs i = .ok ys ∧ updateAll g missing is ys = .ok zs := by
  unfold updateAll
  rw [List.foldlM_cons, except_bind_eq_ok]

lemma updateAll_append_eq_ok {js : List ℕ} {zs : List α} :
    updateAll g missing (is ++ js) xs = .ok zs ↔
      ∃ ys, updateAll g missing is xs = .ok ys ∧ updateAll g missing js ys = .ok zs := by
  unfold updateAll
  rw [List.foldlM_append, except_bind_eq_ok]

/-- At distinct positions the outcome is decided position by position: listed
elements are replaced by what `g` makes of the original, the others stay. -/
theorem updateAll_eq_ok (hn : is.Nodup) :
    updateAll g missing is xs = .ok ys ↔
      (∀ i ∈ is, ∃ a b, xs[i]? = some a ∧ g i a = .ok b ∧ ys[i]? = some b) ∧
        ∀ i, i ∉ is → ys[i]? = xs[i]? := by
  induction is generalizing xs with
  | nil =>
    rw [updateAll_nil]
    constructor
    · intro h
      injection h with h
      subst h
      exact ⟨by simp, fun i _ => rfl⟩
    · intro h
      have heq : ys = xs := List.ext_getElem? fun i => h.2 i (by simp)
      rw [heq]
  | cons i is ih =>
    rw [List.nodup_cons] at hn
    rw [updateAll_cons_eq_ok]
    constructor
    · intro h
      rcases h with ⟨zs, hzs, hr⟩
      rw [updateAt_eq_ok] at hzs
      rcases hzs with ⟨a, b, ha, hb, rfl⟩
      rw [ih hn.2] at hr
      have hlt : i < xs.length := (List.getElem?_eq_some_iff.mp ha).1
      have hset : (xs.set i b)[i]? = some b := List.getElem?_set_self hlt
      refine ⟨?_, ?_⟩
      · intro j hj
        rcases List.mem_cons.mp hj with hj | hj
        · subst hj
          exact ⟨a, b, ha, hb, by rw [hr.2 j hn.1, hset]⟩
        · have hne : i ≠ j := fun heq => hn.1 (heq ▸ hj)
          have hj' := hr.1 j hj
          rwa [List.getElem?_set_ne hne] at hj'
      · intro j hj
        rw [List.mem_cons, not_or] at hj
        rw [hr.2 j hj.2, List.getElem?_set_ne (fun heq => hj.1 heq.symm)]
    · intro h
      rcases h.1 i (by simp) with ⟨a, b, ha, hb, hy⟩
      have hlt : i < xs.length := (List.getElem?_eq_some_iff.mp ha).1
      refine ⟨xs.set i b, updateAt_eq_ok.mpr ⟨a, b, ha, hb, rfl⟩, ?_⟩
      rw [ih hn.2]
      refine ⟨?_, ?_⟩
      · intro j hj
        have hne : i ≠ j := fun heq => hn.1 (heq ▸ hj)
        rw [List.getElem?_set_ne hne]
        exact h.1 j (by simp [hj])
      · intro j hj
        by_cases hij : i = j
        · subst hij
          rw [hy, List.getElem?_set_self hlt]
        · rw [List.getElem?_set_ne hij]
          exact h.2 j (by simp [hj, Ne.symm hij])

/-- The order in which distinct positions are updated does not matter. -/
theorem updateAll_perm {js : List ℕ} (hn : is.Nodup) (hp : is.Perm js) :
    updateAll g missing is xs = .ok ys ↔ updateAll g missing js xs = .ok ys := by
  rw [updateAll_eq_ok hn, updateAll_eq_ok (hp.nodup_iff.mp hn)]
  simp only [hp.mem_iff]

/-- Updating once more changes nothing when `g` keeps what it made. -/
theorem updateAll_fixed (hn : is.Nodup) (hfix : ∀ i a b, g i a = .ok b → g i b = .ok b)
    (h : updateAll g missing is xs = .ok ys) : updateAll g missing is ys = .ok ys := by
  rw [updateAll_eq_ok hn] at h ⊢
  refine ⟨?_, fun i _ => rfl⟩
  intro i hi
  rcases h.1 i hi with ⟨a, b, ha, hb, hy⟩
  exact ⟨b, b, hy, hfix i a b hb, hy⟩

lemma updateAll_length (h : updateAll g missing is xs = .ok ys) :
    ys.length = xs.length := by
  induction is generalizing xs with
  | nil =>
    injection h with h
    rw [h]
  | cons i is ih =>
    rcases updateAll_cons_eq_ok.mp h with ⟨zs, hzs, hr⟩
    rcases updateAt_eq_ok.mp hzs with ⟨a, b, _, _, hset⟩
    rw [ih hr, hset, List.length_set]

end KrustyKms.Support

import Mathlib.Data.List.Induction
import Mathlib.Data.Set.Function

/-!
# Chains of a hash of pairs

A chain folds a hash of pairs over a list. Where the hash does not collide on the pairs two
chains hash, equal ends are ends of equal lists: for lists of one length, whose starts are
then equal too (`foldl_hash_start_injective`), and for any lists where no pair hashes to the
start (`foldl_hash_injective`).
-/

namespace KrustyKms.Support

variable {α : Type} {h : α → α → α} {start : α}

def chainPairs (h : α → α → α) (start : α) : List α → List (α × α)
  | [] => []
  | x :: xs => (start, x) :: chainPairs h (h start x) xs

lemma chainPairs_append_singleton (xs : List α) (x : α) :
    chainPairs h start (xs ++ [x]) = chainPairs h start xs ++ [(xs.foldl h start, x)] := by
  induction xs generalizing start with
  | nil => rfl
  | cons y xs ih =>
    rw [List.cons_append, chainPairs, ih]
    rfl

variable {S : Set (α × α)} {xs ys : List α}

/-- Without collisions on the hashed pairs, the end of a chain tells its start and a list of
known length. -/
theorem foldl_hash_start_injective {start' : α}
    (hinj : Set.InjOn (fun p => h p.1 p.2) S) (hl : xs.length = ys.length)
    (hxs : ∀ p ∈ chainPairs h start xs, p ∈ S) (hys : ∀ p ∈ chainPairs h start' ys, p ∈ S)
    (heq : xs.foldl h start = ys.foldl h start') : start = start' ∧ xs = ys := by
  induction xs using List.reverseRecOn generalizing ys with
  | nil =>
    have hem := List.length_eq_zero_iff.mp hl.symm
    subst hem
    exact ⟨heq, rfl⟩
  | append_singleton xs x ih =>
    cases ys using List.reverseRecOn with
    | nil => simp at hl
    | append_singleton ys y =>
      rw [chainPairs_append_singleton, List.forall_mem_append, List.forall_mem_singleton] at hxs hys
      rw [List.foldl_append, List.foldl_append] at heq
      have hls := hinj hxs.2 hys.2 heq
      rw [Prod.mk.injEq] at hls
      obtain ⟨hs, hli⟩ := ih (by simpa using hl) hxs.1 hys.1 hls.1
      rw [hli, hls.2]
      exact ⟨hs, rfl⟩

/-- Without collisions on the hashed pairs, the end of a chain tells a list of known length. -/
theorem foldl_hash_injective_of_length
    (hinj : Set.InjOn (fun p => h p.1 p.2) S) (hl : xs.length = ys.length)
    (hxs : ∀ p ∈ chainPairs h start xs, p ∈ S) (hys : ∀ p ∈ chainPairs h start ys, p ∈ S)
    (heq : xs.foldl h start = ys.foldl h start) : xs = ys :=
  (foldl_hash_start_injective hinj hl hxs hys heq).2

/-- Without collisions on the hashed pairs, the end of a chain tells its list. -/
theorem foldl_hash_injective (hinj : Set.InjOn (fun p => h p.1 p.2) S)
    (hne : ∀ p ∈ S, h p.1 p.2 ≠ start)
    (hxs : ∀ p ∈ chainPairs h start xs, p ∈ S) (hys : ∀ p ∈ chainPairs h start ys, p ∈ S)
    (heq : xs.foldl h start = ys.foldl h start) : xs = ys := by
  -- the last pairs agree first, then the chains before them
  induction xs using List.reverseRecOn generalizing ys with
  | nil =>
    cases ys using List.reverseRecOn with
    | nil => rfl
    | append_singleton ys y =>
      rw [chainPairs_append_singleton, List.forall_mem_append, List.forall_mem_singleton] at hys
      rw [List.foldl_append] at heq
      exact absurd heq.symm (hne _ hys.2)
  | append_singleton xs x ih =>
    rw [chainPairs_append_singleton, List.forall_mem_append, List.forall_mem_singleton] at hxs
    rw [List.foldl_append] at heq
    cases ys using List.reverseRecOn with
    | nil => exact absurd heq (hne _ hxs.2)
    | append_singleton ys y =>
      rw [chainPairs_append_singleton, List.forall_mem_append, List.forall_mem_singleton] at hys
      rw [List.foldl_append] at heq
      have hl := hinj hxs.2 hys.2 heq
      rw [Prod.mk.injEq] at hl
      rw [ih hxs.1 hys.1 hl.1, hl.2]

end KrustyKms.Support

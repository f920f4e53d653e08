import Mathlib.Algebra.Module.Basic
import Mathlib.Tactic.Lemma

/-!
# Sums weighted by powers of two

`binarySum` weighs the entries of a list by `1`, `2`, `4`, and so on: of a list of digits it is
the number they spell, of a list of points or scalars the combination a bitwise commitment is
built from.
-/

namespace KrustyKms.Arithmetic

section AddMonoid

variable {M : Type*} [AddMonoid M]

def binarySum : List M → M
  | [] => 0
  | v :: vs => v + 2 • binarySum vs

@[simp] lemma binarySum_nil : binarySum ([] : List M) = 0 := rfl

@[simp] lemma binarySum_cons (v : M) (vs : List M) :
    binarySum (v :: vs) = v + 2 • binarySum vs := rfl

def doubleAndAdd (acc : M × M) (bit : Bool) : M × M :=
  (if bit then acc.1 + acc.2 else acc.1, acc.2 + acc.2)

theorem foldl_doubleAndAdd (bits : List Bool) (result temp : M) :
    bits.foldl doubleAndAdd (result, temp) =
      (result + binarySum (bits.map Bool.toNat) • temp, 2 ^ bits.length • temp) := by
  induction bits generalizing result temp with
  | nil => simp
  | cons bit bits ih =>
    have hd : temp + temp = 2 • temp := (two_nsmul temp).symm
    rw [List.foldl_cons, doubleAndAdd, hd, ih, smul_smul, smul_smul]
    rw [List.map_cons, binarySum_cons, List.length_cons, add_nsmul, ← add_assoc, smul_eq_mul,
      Nat.mul_comm 2, pow_succ]
    cases bit with
    | false => simp
    | true => simp

end AddMonoid

section AddCommMonoid

variable {M : Type*} [AddCommMonoid M]

lemma binarySum_append (us vs : List M) :
    binarySum (us ++ vs) = binarySum us + 2 ^ us.length • binarySum vs := by
  induction us with
  | nil => simp
  | cons u us ih =>
    rw [List.cons_append, binarySum_cons, binarySum_cons, ih, nsmul_add, smul_smul, ← add_assoc,
      List.length_cons, pow_succ']

lemma binarySum_concat (vs : List M) (v : M) :
    binarySum (vs ++ [v]) = binarySum vs + 2 ^ vs.length • v := by
  rw [binarySum_append, binarySum_cons, binarySum_nil, smul_zero, add_zero]

end AddCommMonoid

/-! ## Digits -/

lemma binarySum_digits (b size : ℕ) (h : b < 2 ^ size) :
    binarySum ((List.range size).map fun i => b / 2 ^ i % 2) = b := by
  induction size generalizing b with
  | zero =>
    have hb : b = 0 := by omega
    simp [hb]
  | succ size ih =>
    have hr := ih (b / 2) (by omega)
    rw [List.range_succ_eq_map, List.map_cons, List.map_map, binarySum_cons]
    have hd : (List.range size).map ((fun i => b / 2 ^ i % 2) ∘ Nat.succ) =
        (List.range size).map fun i => b / 2 / 2 ^ i % 2 := by
      apply List.map_congr_left
      intro i _
      show b / 2 ^ (i + 1) % 2 = b / 2 / 2 ^ i % 2
      rw [pow_succ', Nat.div_div_eq_div_mul]
    rw [hd, hr, pow_zero, Nat.div_one, smul_eq_mul]
    omega

/-! ## Openings -/

section Module

variable {F G : Type*} [Semiring F] [AddCommMonoid G] [Module F G] {g₁ g₂ : G}

lemma binarySum_combination {α : Type*} (l : List α) (n : α → ℕ) (r : α → F) :
    binarySum (l.map fun a => n a • g₁ + r a • g₂) =
      binarySum (l.map n) • g₁ + binarySum (l.map r) • g₂ := by
  induction l with
  | nil => simp
  | cons a l ih =>
    rw [List.map_cons, List.map_cons, List.map_cons, binarySum_cons, binarySum_cons, binarySum_cons,
      ih, nsmul_add, add_nsmul, smul_assoc 2 (binarySum (l.map n)), add_smul, smul_assoc]
    exact add_add_add_comm _ _ _ _

end Module

/-- A list of bits stands for a number of that many bits. -/
lemma binarySum_lt_two_pow {bits : List ℕ} (hbits : ∀ bit ∈ bits, bit ≤ 1) :
    binarySum bits < 2 ^ bits.length := by
  induction bits with
  | nil => simp
  | cons bit bits ih =>
    have hbit := hbits bit List.mem_cons_self
    have hrest := ih fun b hb => hbits b (List.mem_cons_of_mem _ hb)
    rw [binarySum_cons, List.length_cons, pow_succ, smul_eq_mul]
    omega

end KrustyKms.Arithmetic

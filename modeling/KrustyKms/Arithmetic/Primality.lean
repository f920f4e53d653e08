import Mathlib.Data.List.Prime
import Mathlib.NumberTheory.LegendreSymbol.Basic
import Mathlib.NumberTheory.LucasPrimality

/-!
# Primality by Lucas's test

`LucasTest p a factors` is decidable: its powers are computed by squaring, so the kernel evaluates
it for primes of a few hundred bits.
-/

namespace KrustyKms.Arithmetic

def powMod (m : ℕ) : ℕ → ℕ → ℕ → ℕ
  | 0, _, _ => 1 % m
  | width + 1, a, e =>
    let rest := powMod m width (a * a % m) (e / 2)
    if e % 2 = 0 then rest else a * rest % m

lemma powMod_mod (m width a e : ℕ) : powMod m width a e % m = powMod m width a e := by
  cases width with
  | zero => simp [powMod]
  | succ width =>
    rw [powMod]
    split_ifs
    · exact powMod_mod m width _ _
    · exact Nat.mod_mod _ _

lemma cast_powMod (m width a e : ℕ) (h : e < 2 ^ width) :
    (powMod m width a e : ZMod m) = (a : ZMod m) ^ e := by
  induction width generalizing a e with
  | zero =>
    have he : e = 0 := by omega
    simp [powMod, he]
  | succ width ih =>
    -- the recursive call is a power of the square
    have hr : (powMod m width (a * a % m) (e / 2) : ZMod m) = (a : ZMod m) ^ (2 * (e / 2)) := by
      rw [ih _ _ (by omega), ZMod.natCast_mod, Nat.cast_mul, ← pow_two, pow_mul]
    rw [powMod]
    split_ifs with hev
    · rw [hr, show 2 * (e / 2) = e by omega]
    · rw [ZMod.natCast_mod, Nat.cast_mul, hr, ← pow_succ',
        show 2 * (e / 2) + 1 = e by omega]

lemma powMod_eq_one_iff (m width a e : ℕ) (h : e < 2 ^ width) :
    powMod m width a e = 1 % m ↔ (a : ZMod m) ^ e = 1 := by
  have hone := ZMod.natCast_eq_natCast_iff' (powMod m width a e) 1 m
  rw [powMod_mod, Nat.cast_one, cast_powMod m width a e h] at hone
  exact hone.symm

def LucasTest (p a : ℕ) (factors : List ℕ) : Prop :=
  p < 2 ^ 256 ∧ factors.prod = p - 1 ∧ powMod p 256 a (p - 1) = 1 % p ∧
    ∀ q ∈ factors, powMod p 256 a ((p - 1) / q) ≠ 1 % p

instance (p a : ℕ) (factors : List ℕ) : Decidable (LucasTest p a factors) :=
  inferInstanceAs (Decidable (_ ∧ _ ∧ _ ∧ _))

theorem prime_of_lucasTest {p a : ℕ} {factors : List ℕ} (hp : ∀ q ∈ factors, q.Prime)
    (h : LucasTest p a factors) : p.Prime := by
  obtain ⟨hs, hpr, hone, hne⟩ := h
  apply lucas_primality p (a : ZMod p)
  · exact (powMod_eq_one_iff p 256 a _ (by omega)).mp hone
  · intro q hq hdvd
    rw [← hpr] at hdvd
    obtain ⟨factor, hmem, hf⟩ := (Prime.dvd_prod_iff hq.prime).mp hdvd
    -- a prime that divides a prime is that prime
    have heq : q = factor := (Nat.prime_dvd_prime_iff_eq hq (hp factor hmem)).mp hf
    have hlt : (p - 1) / q < 2 ^ 256 := lt_of_le_of_lt (Nat.div_le_self _ _) (by omega)
    rw [Ne, ← powMod_eq_one_iff p 256 a _ hlt, heq]
    exact hne factor hmem

/-- Euler's criterion, by a power the kernel computes. -/
theorem isSquare_iff_powMod {p a : ℕ} (hp : p.Prime) (hs : p < 2 ^ 256)
    (ha : (a : ZMod p) ≠ 0) : IsSquare (a : ZMod p) ↔ powMod p 256 a (p / 2) = 1 % p := by
  have : Fact p.Prime := ⟨hp⟩
  rw [ZMod.euler_criterion p ha, powMod_eq_one_iff p 256 a _ (by omega)]

end KrustyKms.Arithmetic

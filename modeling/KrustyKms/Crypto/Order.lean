import KrustyKms.Arithmetic.Primality
import Mathlib.Tactic.NormNum.Prime

/-!
# The two moduli of the Stark curve

Coordinates are integers modulo the field prime, scalars integers modulo the order of the curve,
which is the smaller of the two.
-/

namespace KrustyKms.Crypto

open Arithmetic

def fieldPrime : ℕ := 2 ^ 251 + 17 * 2 ^ 192 + 1

def curveOrder : ℕ := 0x0800000000000010ffffffffffffffffb781126dcae7b2321e66a241adc64d2f

instance : NeZero fieldPrime := ⟨by decide⟩

instance : NeZero curveOrder := ⟨by decide⟩

lemma curveOrder_lt_fieldPrime : curveOrder < fieldPrime := by decide

lemma fieldPrime_lt : fieldPrime < 256 ^ 32 := by decide

/-! ## The order is prime -/

private lemma prime_smallFactors : Nat.Prime 11753132899 ∧ Nat.Prime 28547348873 := by
  constructor
  · exact prime_of_lucasTest (by norm_num) (show LucasTest _ 3 [2, 3, 13, 19, 41, 67, 2887] by
      decide +kernel)
  · exact prime_of_lucasTest (by norm_num) (show LucasTest _ 3 [2, 2, 2, 7, 17, 53, 565787] by
      decide +kernel)

private lemma prime_12904939923103 : Nat.Prime 12904939923103 := by
  have hp : ∀ q ∈ [2, 3, 3, 61, 11753132899], q.Prime := by
    simp only [List.forall_mem_cons, prime_smallFactors.1]
    norm_num
  exact prime_of_lucasTest hp (show LucasTest _ 3 _ by decide +kernel)

private lemma prime_1803099112058626586861 : Nat.Prime 1803099112058626586861 := by
  have hp : ∀ q ∈ [2, 2, 5, 37, 43, 4391, 12904939923103], q.Prime := by
    simp only [List.forall_mem_cons, prime_12904939923103]
    norm_num
  exact prime_of_lucasTest hp (show LucasTest _ 2 _ by decide +kernel)

private def orderFactor : ℕ := 5470365079085120887157193270902448565659295524958143968059153

private lemma prime_orderFactor : orderFactor.Prime := by
  have hp : ∀ q ∈ [2, 2, 2, 2, 3, 131797, 10108547, 22206313, 74837449, 28547348873,
      1803099112058626586861], q.Prime := by
    simp only [List.forall_mem_cons, prime_smallFactors.2, prime_1803099112058626586861]
    norm_num
  exact prime_of_lucasTest hp (show LucasTest _ 15 _ by decide +kernel)

theorem curveOrder_prime : curveOrder.Prime := by
  have hp : ∀ q ∈ [2, 3, 1481071, 74436419, orderFactor], q.Prime := by
    simp only [List.forall_mem_cons, prime_orderFactor]
    norm_num
  exact prime_of_lucasTest hp (show LucasTest _ 3 _ by decide +kernel)

instance : Fact curveOrder.Prime := ⟨curveOrder_prime⟩

/-! ## The field prime is prime -/

theorem fieldPrime_prime : fieldPrime.Prime := by
  have hp : ∀ q ∈ List.replicate 192 2 ++ [5, 7, 98714381, 166848103], q.Prime := by
    rw [List.forall_mem_append]
    refine ⟨?_, by norm_num⟩
    intro q hq
    rw [List.eq_of_mem_replicate hq]
    exact Nat.prime_two
  exact prime_of_lucasTest hp (show LucasTest _ 3 _ by decide +kernel)

end KrustyKms.Crypto

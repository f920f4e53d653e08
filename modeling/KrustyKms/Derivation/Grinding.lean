import KrustyKms.Common.Reference
import KrustyKms.Derivation.Stark
import Mathlib.Data.Finset.Card

/-!
# What a ground key is

The hashes of the seed with a counter are tried in order, and the first below the limit with a
residue other than zero is taken.
-/

namespace KrustyKms.Derivation

open Codec Crypto

/-! ## The limit -/

section Limit

variable {n N : ℕ}

lemma largest_multiple (hn : 0 < n) (hN : ¬ n ∣ N) :
    n ∣ (N - 1) - (N - 1) % n ∧ (N - 1) - (N - 1) % n ≤ N ∧
      ∀ m, n ∣ m → m ≤ N → m ≤ (N - 1) - (N - 1) % n := by
  refine ⟨Nat.dvd_sub_mod (N - 1), by omega, ?_⟩
  rintro _ ⟨q, rfl⟩ hm
  have hne : n * q ≠ N := fun h => hN ⟨q, h.symm⟩
  have hq : q ≤ (N - 1) / n := by
    rw [Nat.le_div_iff_mul_le hn, Nat.mul_comm]
    omega
  have hd := Nat.div_add_mod (N - 1) n
  have hle := Nat.mul_le_mul_left n hq
  omega

lemma card_residue {limit r : ℕ} (hl : n ∣ limit) (hle : limit ≤ N) (hr : r < n) :
    ((Finset.range N).filter fun v => v < limit ∧ v % n = r).card = limit / n := by
  obtain ⟨q, rfl⟩ := hl
  rw [Nat.mul_div_cancel_left q (by omega)]
  refine (Finset.card_bij' (fun v _ => v / n) (fun k _ => n * k + r) ?_ ?_ ?_ ?_).trans
    (Finset.card_range q)
  · intro v hv
    simp only [Finset.mem_filter, Finset.mem_range] at hv ⊢
    exact Nat.div_lt_of_lt_mul hv.2.1
  · intro k hk
    simp only [Finset.mem_filter, Finset.mem_range] at hk ⊢
    have hlt : n * k + r < n * q := by
      calc n * k + r < n * k + n := by omega
        _ = n * (k + 1) := by ring
        _ ≤ n * q := Nat.mul_le_mul_left n hk
    exact ⟨by omega, hlt, by rw [Nat.mul_add_mod, Nat.mod_eq_of_lt hr]⟩
  · intro v hv
    simp only [Finset.mem_filter] at hv
    rw [← hv.2.2]
    exact Nat.div_add_mod v n
  · intro k _
    rw [Nat.mul_add_div (by omega), Nat.div_eq_of_lt hr, Nat.add_zero]

end Limit

/-! ## The rounds -/

section Rounds

variable [Sha256] (keySeed : Vector UInt8 32)

def hashWith (i : UInt8) : ℕ := beValue (Sha256.digest (keySeed.toList ++ [i])).toList

/-- The hash is below the limit and gives a key. -/
def Qualifies (i : UInt8) : Prop :=
  hashWith keySeed i < grindLimit ∧ hashWith keySeed i % curveOrder ≠ 0

omit [Sha256] in
lemma fromBytesBe_residue (v : ℕ) :
    (Felt.fromBytesBe (beVector 32 (v % curveOrder))).val = v % curveOrder := by
  have hlt : v % curveOrder < curveOrder := Nat.mod_lt v (by decide)
  have hf := curveOrder_lt_fieldPrime
  rw [Felt.fromBytesBe, toList_beVector, beValue_beBytes_of_lt, ZMod.val_natCast_of_lt]
  · omega
  · exact (hlt.trans hf).trans fieldPrime_lt

lemma grindRounds_cons (i : UInt8) (counters : List UInt8) :
    (Qualifies keySeed i ∧ ∃ key, grindRounds keySeed (i :: counters) = .ok key ∧
      key.val = hashWith keySeed i % curveOrder) ∨
    (¬ Qualifies keySeed i ∧
      grindRounds keySeed (i :: counters) = grindRounds keySeed counters) := by
  unfold Qualifies
  rw [grindRounds]
  change _ ∨ (_ ∧ (if hashWith keySeed i ≥ grindLimit then _ else
    if hashWith keySeed i % curveOrder = 0 then _ else _) = _)
  by_cases hl : hashWith keySeed i ≥ grindLimit
  · exact .inr ⟨by omega, if_pos hl⟩
  · by_cases hk : hashWith keySeed i % curveOrder = 0
    · exact .inr ⟨by omega, by rw [if_neg hl, if_pos hk]⟩
    · refine .inl ⟨⟨by omega, hk⟩, _, ?_, fromBytesBe_residue _⟩
      exact (if_neg hl).trans (if_neg hk)

lemma grindRounds_from (k s : ℕ) (hs : s + k = 256) :
    (∃ i key, grindRounds keySeed ((List.range' s k).map UInt8.ofNat) = .ok key ∧
      Qualifies keySeed i ∧ (∀ j, s ≤ j.toNat → j < i → ¬ Qualifies keySeed j) ∧
      key.val = hashWith keySeed i % curveOrder) ∨
    (∃ e, grindRounds keySeed ((List.range' s k).map UInt8.ofNat) = .error e) ∧
      ∀ j : UInt8, s ≤ j.toNat → ¬ Qualifies keySeed j := by
  induction k generalizing s with
  | zero =>
    refine .inr ⟨⟨_, rfl⟩, fun j hj => ?_⟩
    have := j.toNat_lt
    omega
  | succ k ih =>
    have hval : (UInt8.ofNat s).toNat = s := UInt8.toNat_ofNat_of_lt' (show s < 256 by omega)
    rw [List.range'_succ, List.map_cons]
    rcases grindRounds_cons keySeed (UInt8.ofNat s) ((List.range' (s + 1) k).map UInt8.ofNat) with
      ⟨hq, key, hk, hv⟩ | ⟨hq, hrun⟩
    · refine .inl ⟨_, key, hk, hq, fun j hj hlt => ?_, hv⟩
      rw [UInt8.lt_iff_toNat_lt, hval] at hlt
      omega
    · -- the counter `s` is out, and every other one from `s` on comes after it
      have hafter : ∀ j : UInt8, s ≤ j.toNat → Qualifies keySeed j → s + 1 ≤ j.toNat := by
        intro j hj hqj
        by_contra hlt
        have hjs : j = UInt8.ofNat s := UInt8.toNat_inj.mp (by omega)
        exact hq (hjs ▸ hqj)
      rw [hrun]
      rcases ih (s + 1) (by omega) with ⟨i, key, hk, hqi, hfirst, hv⟩ | ⟨he, hnone⟩
      · exact .inl ⟨i, key, hk, hqi, fun j hj hlt hqj => hfirst j (hafter j hj hqj) hlt hqj, hv⟩
      · exact .inr ⟨he, fun j hj hqj => hnone j (hafter j hj hqj) hqj⟩

/-- The key is the residue of the hash under the least counter that qualifies, there is none
exactly when no counter does, and the limit favours no residue. -/
theorem grindKey_least_counter :
    (∀ key, grindKey keySeed = .ok key ↔ ∃ i, Qualifies keySeed i ∧
      (∀ j < i, ¬ Qualifies keySeed j) ∧ key.val = hashWith keySeed i % curveOrder) ∧
    ((∃ e, grindKey keySeed = .error e) ↔ ∀ i, ¬ Qualifies keySeed i) ∧
    (curveOrder ∣ grindLimit ∧ grindLimit ≤ 2 ^ 256 ∧
      ∀ m, curveOrder ∣ m → m ≤ 2 ^ 256 → m ≤ grindLimit) ∧
    ∀ r, 1 ≤ r → r < curveOrder →
      ((Finset.range (2 ^ 256)).filter fun v => v < grindLimit ∧ v % curveOrder = r).card =
        grindLimit / curveOrder := by
  have hlimit := largest_multiple (by decide) (show ¬ curveOrder ∣ 2 ^ 256 by decide)
  have hrun := grindRounds_from keySeed 256 0 rfl
  rw [← List.range_eq_range'] at hrun
  refine ⟨?_, ?_, hlimit, fun r _ hr => card_residue hlimit.1 hlimit.2.1 hr⟩
  · intro key
    rcases hrun with ⟨i, found, hf, hq, hfirst, hv⟩ | ⟨⟨e, he⟩, hnone⟩
    · constructor
      · intro h
        obtain rfl : found = key := Except.ok.inj (hf.symm.trans h)
        exact ⟨i, hq, fun j => hfirst j (Nat.zero_le _), hv⟩
      · rintro ⟨i', hq', hfirst', hv'⟩
        have hi : i = i' := by
          rcases lt_trichotomy i.toNat i'.toNat with hlt | heq | hlt
          · exact absurd hq (hfirst' i hlt)
          · exact UInt8.toNat_inj.mp heq
          · exact absurd hq' (hfirst i' (Nat.zero_le _) hlt)
        subst hi
        rw [show key = found from ZMod.val_injective _ (hv'.trans hv.symm)]
        exact hf
    · constructor
      · intro h
        cases he.symm.trans h
      · rintro ⟨i, hq, -⟩
        exact absurd hq (hnone i (Nat.zero_le _))
  · rcases hrun with ⟨i, found, hf, hq, -⟩ | ⟨he, hnone⟩
    · constructor
      · rintro ⟨e, h⟩
        cases hf.symm.trans h
      · intro hnone
        exact absurd hq (hnone i)
    · exact ⟨fun _ i => hnone i (Nat.zero_le _), fun _ => he⟩

end Rounds

/-! ## The seed of zeros -/

def zeroSeed : Vector UInt8 32 := beVector 32 0

theorem zeroSeed_ground :
    (∃ key, @grindKey Reference.sha256 zeroSeed = .ok key ∧
      key.val = 0x79c9e31ac8255cb2f258583df262dc0bcdf5483bc9cd2e60196c90c789ae728) ∧
    ((Finset.range (2 ^ 256)).filter fun v => v < grindLimit ∧ v % curveOrder = 1).card =
      grindLimit / curveOrder := by
  obtain ⟨hkey, -, -, hcard⟩ := @grindKey_least_counter Reference.sha256 zeroSeed
  refine ⟨⟨0x79c9e31ac8255cb2f258583df262dc0bcdf5483bc9cd2e60196c90c789ae728, ?_, by decide⟩,
    hcard 1 le_rfl (by decide)⟩
  refine (hkey _).mpr ⟨0, ⟨by decide +kernel, by decide +kernel⟩, fun j hj => ?_, by decide +kernel⟩
  exact absurd hj (by simp [UInt8.lt_iff_toNat_lt])

end KrustyKms.Derivation

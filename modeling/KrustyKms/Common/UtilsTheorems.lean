import KrustyKms.Common.AmountTheorems
import KrustyKms.Common.Utils
import Mathlib.Order.Bounds.Defs

/-!
# Unit conversions are exact

* `baseUnitsToTongo_isLeast`: the fewest Tongo units that cover an amount;
* `formatTongoBalance_eq`: what is printed, in cents;
* `conversions_exact`: the conversions and the printed balance.
-/

namespace KrustyKms

open Amount (checked okOr Numeral Part checked_eq_some okOr_eq_ok zeroPadded)
open Support

/-! ## Conversions -/

variable {rate tongo : Fin (2 ^ 128)}

lemma validateRate_of_ne_zero (hr : rate ≠ 0) :
    validateRate rate = .ok () := if_neg hr

lemma val_pos_of_ne_zero (hr : rate ≠ 0) : 0 < rate.val :=
  Nat.pos_of_ne_zero fun hz => hr (Fin.ext hz)

lemma divCeil_val {a b : Fin (2 ^ 128)} (hb : b ≠ 0) :
    (divCeil a b).val = if 0 < a.val % b.val then a.val / b.val + 1 else a.val / b.val := by
  have hpos := val_pos_of_ne_zero hb
  have ha := a.isLt
  unfold divCeil
  split_ifs with hmod
  · apply Nat.mod_eq_of_lt
    have hd : 2 ≤ b.val := by
      by_contra hs
      have hone : b.val = 1 := by omega
      rw [hone, Nat.mod_one] at hmod
      omega
    have hq : a.val / b.val ≤ a.val / 2 := Nat.div_le_div_left hd (by omega)
    omega
  · rfl

lemma baseUnitsToTongo_isLeast (amount : Fin (2 ^ 128)) (hr : rate ≠ 0) :
    ∃ t, baseUnitsToTongo amount rate = .ok t ∧
      IsLeast {u : ℕ | amount.val ≤ u * rate.val} t.val := by
  have hpos := val_pos_of_ne_zero hr
  have hs := Nat.div_add_mod' amount.val rate.val
  have hmod := Nat.mod_lt amount.val hpos
  refine ⟨divCeil amount rate, ?_, ?_, ?_⟩
  · simp only [baseUnitsToTongo, validateRate_of_ne_zero hr]
    rfl
  · show amount.val ≤ (divCeil amount rate).val * rate.val
    rw [divCeil_val hr]
    split_ifs with hrs
    · rw [Nat.add_mul]
      omega
    · omega
  · intro u hu
    have hu : amount.val ≤ u * rate.val := hu
    rw [divCeil_val hr]
    split_ifs with hrs
    · -- Fewer units would fall short of the remainder.
      rw [Nat.succ_le_iff, Nat.div_lt_iff_lt_mul hpos]
      apply Nat.lt_of_le_of_ne hu
      intro heq
      rw [heq, Nat.mul_mod_left] at hrs
      omega
    · exact Nat.div_le_of_le_mul (Nat.mul_comm u rate.val ▸ hu)

lemma tongoToBaseUnits_eq_ok {base : Fin (2 ^ 128)} (hr : rate ≠ 0) :
    tongoToBaseUnits tongo rate = .ok base ↔ tongo.val * rate.val = base.val := by
  simp only [tongoToBaseUnits, validateRate_of_ne_zero hr]
  exact okOr_eq_ok.trans checked_eq_some

lemma tongoToBaseUnits_of_dvd {amount : Fin (2 ^ 128)} (hr : rate ≠ 0)
    (hdvd : rate.val ∣ amount.val) :
    ∃ t, baseUnitsToTongo amount rate = .ok t ∧ tongoToBaseUnits t rate = .ok amount := by
  refine ⟨divCeil amount rate, ?_, ?_⟩
  · simp only [baseUnitsToTongo, validateRate_of_ne_zero hr]
    rfl
  · rw [tongoToBaseUnits_eq_ok hr, divCeil_val hr, Nat.mod_eq_zero_of_dvd hdvd,
      if_neg (by omega), Nat.div_mul_cancel hdvd]

/-! ## The printed balance -/

def IsNearestCent (base cents : ℕ) : Prop :=
  (cents : ℚ) ≤ base / 10 ^ 16 + 1 / 2 ∧ (base / 10 ^ 16 + 1 / 2 : ℚ) < cents + 1

lemma isNearestCent_div (base : ℕ) : IsNearestCent base ((base + 5 * 10 ^ 15) / 10 ^ 16) := by
  have hsum : (base / 10 ^ 16 + 1 / 2 : ℚ) = ((base + 5 * 10 ^ 15 : ℕ) : ℚ) / 10 ^ 16 := by
    push_cast
    ring
  unfold IsNearestCent
  rw [hsum, le_div_iff₀ (by positivity), div_lt_iff₀ (by positivity)]
  generalize base + 5 * 10 ^ 15 = sum
  have hle : sum / 10 ^ 16 * 10 ^ 16 ≤ sum := Nat.div_mul_le_self sum _
  have hlt : sum < (sum / 10 ^ 16 + 1) * 10 ^ 16 := by omega
  exact ⟨by exact_mod_cast hle, by exact_mod_cast hlt⟩

lemma formatScaledInteger_two (value : Fin (2 ^ 128)) :
    ∃ n : Numeral, formatScaledInteger value 2 = .ok (String.ofList n.text) ∧ n.Plain ∧
      n.places = 2 ∧ n.value * 100 = value.val := by
  have hf : value.val % 100 < 10 ^ 2 := Nat.mod_lt _ (by decide)
  let fraction : Part :=
    ⟨false, zeroPadded 2 (value.val % 100), fun _ => Amount.isDigit_of_mem_zeroPadded⟩
  have hv : fraction.value = value.val % 100 := Amount.decimalValue_zeroPadded _ _
  have hp : fraction.digits.length = 2 := Amount.length_zeroPadded (by decide) hf
  refine ⟨⟨.ofNat (value.val / 100), some fraction⟩, ?_, ⟨rfl, ?_, .inl Nat.toDigits_ne_nil⟩,
    hp, ?_⟩
  · rw [Numeral.text_some, Part.text_ofNat]
    apply congrArg Except.ok
    apply String.toList_inj.mp
    simp [fraction]
  · intro part hpr
    obtain rfl := Option.some.inj hpr
    rfl
  · have hs : value.val / 100 * 100 + value.val % 100 = value.val := by omega
    simp only [Numeral.value, Part.value_ofNat, hv, hp]
    have hc : ((value.val % 100 : ℕ) : ℚ) / 10 ^ 2 * 100 = (value.val % 100 : ℕ) := by ring
    rw [add_mul, hc]
    exact_mod_cast hs

lemma tenPow_eq_ok {exp : ℕ} {power : Fin (2 ^ 128)} :
    tenPow exp = .ok power ↔ 10 ^ exp = power.val := okOr_eq_ok.trans checked_eq_some

lemma roundDiv_eq (value divisor : Fin (2 ^ 128)) :
    roundDiv value divisor =
      if h : value.val + divisor.val / 2 < 2 ^ 128 then .ok (⟨_, h⟩ / divisor)
      else .error (.invalidAmount "Amount overflow") := by
  unfold roundDiv checked
  dsimp only
  split_ifs with hf
  · rfl
  · rfl

lemma formatTongoBalance_eq {base : Fin (2 ^ 128)}
    (hb : tongoToBaseUnits tongo rate = .ok base) {divisor : Fin (2 ^ 128)}
    (hd : 10 ^ 16 = divisor.val) :
    formatTongoBalance tongo rate = (do
      let rounded ← roundDiv base divisor
      let text ← formatScaledInteger rounded 2
      pure (text ++ " STRK")) := by
  have hexp : (18 - 2 : UInt8).toNat = 16 := by decide
  have hp : tenPow (18 - 2 : UInt8).toNat = .ok divisor := by
    rw [hexp]
    exact tenPow_eq_ok.mpr hd
  have hs : formatAmountWithScale ⟨base, 18⟩ 2 = (do
      let rounded ← roundDiv base divisor
      formatScaledInteger rounded 2) := by
    simp only [formatAmountWithScale, if_neg (by decide : ¬ (2 : UInt8) = 0),
      if_pos (by decide : (18 : UInt8) > 2), hp]
    rfl
  have hst : tongoToStrk tongo rate = .ok ⟨base, 18⟩ := by
    rw [tongoToStrk, hb]
    rfl
  unfold formatTongoBalance
  rw [hst, except_ok_bind, hs, bind_assoc]

def PrintsCents (text : String) (cents : ℕ) : Prop :=
  ∃ n : Numeral, text = String.ofList n.text ++ " STRK" ∧ n.Plain ∧ n.places = 2 ∧
    n.value * 100 = cents

lemma formatTongoBalance_nearest (hrt : rate ≠ 0)
    (hf : tongo.val * rate.val + 5 * 10 ^ 15 < 2 ^ 128) :
    ∃ text cents, formatTongoBalance tongo rate = .ok text ∧ PrintsCents text cents ∧
      IsNearestCent (tongo.val * rate.val) cents := by
  have hp : tongo.val * rate.val < 2 ^ 128 := by omega
  have hb : tongoToBaseUnits tongo rate = .ok ⟨_, hp⟩ :=
    (tongoToBaseUnits_eq_ok hrt).mpr rfl
  obtain ⟨divisor, hd⟩ : ∃ divisor : Fin (2 ^ 128), 10 ^ 16 = divisor.val :=
    ⟨⟨10 ^ 16, by decide⟩, rfl⟩
  have hh : divisor.val / 2 = 5 * 10 ^ 15 := by omega
  have hr := roundDiv_eq ⟨_, hp⟩ divisor
  rw [hh, dif_pos hf] at hr
  have hc := isNearestCent_div (tongo.val * rate.val)
  rw [hd] at hc
  obtain ⟨n, hn, hpl, hpc, hv⟩ :=
    formatScaledInteger_two (⟨tongo.val * rate.val + 5 * 10 ^ 15, hf⟩ / divisor)
  refine ⟨_, _, ?_, ⟨n, rfl, hpl, hpc, hv⟩, hc⟩
  rw [formatTongoBalance_eq hb hd, hr, except_ok_bind, hn, except_ok_bind]
  rfl

lemma formatTongoBalance_overflow (hrt : rate ≠ 0) (hp : tongo.val * rate.val < 2 ^ 128)
    (hl : 2 ^ 128 ≤ tongo.val * rate.val + 5 * 10 ^ 15) :
    formatTongoBalance tongo rate = .error (.invalidAmount "Amount overflow") := by
  have hb : tongoToBaseUnits tongo rate = .ok ⟨_, hp⟩ :=
    (tongoToBaseUnits_eq_ok hrt).mpr rfl
  obtain ⟨divisor, hd⟩ : ∃ divisor : Fin (2 ^ 128), 10 ^ 16 = divisor.val :=
    ⟨⟨10 ^ 16, by decide⟩, rfl⟩
  have hh : divisor.val / 2 = 5 * 10 ^ 15 := by omega
  have hr := roundDiv_eq ⟨_, hp⟩ divisor
  rw [hh, dif_neg (Nat.not_lt.mpr hl)] at hr
  rw [formatTongoBalance_eq hb hd, hr]
  rfl

/-- Amounts are rounded up to the fewest Tongo units that cover them, multiples of the rate come
back exactly, and a balance is printed to the nearest cent, a half rounded up, unless its base
units or the half cent that rounding adds to them leave 128 bits. -/
theorem conversions_exact (amount tongo rate : Fin (2 ^ 128)) (hrate : rate ≠ 0) :
    (∃ t, baseUnitsToTongo amount rate = .ok t ∧
        IsLeast {u : ℕ | amount.val ≤ u * rate.val} t.val) ∧
      (rate.val ∣ amount.val →
        ∃ t, baseUnitsToTongo amount rate = .ok t ∧ tongoToBaseUnits t rate = .ok amount) ∧
      (tongo.val * rate.val + 5 * 10 ^ 15 < 2 ^ 128 →
        ∃ text cents, formatTongoBalance tongo rate = .ok text ∧ PrintsCents text cents ∧
          IsNearestCent (tongo.val * rate.val) cents) ∧
      (tongo.val * rate.val < 2 ^ 128 → 2 ^ 128 ≤ tongo.val * rate.val + 5 * 10 ^ 15 →
        formatTongoBalance tongo rate = .error (.invalidAmount "Amount overflow")) :=
  ⟨baseUnitsToTongo_isLeast amount hrate, tongoToBaseUnits_of_dvd hrate,
    formatTongoBalance_nearest hrate, formatTongoBalance_overflow hrate⟩

/-- A balance of 1.005 STRK. -/
theorem conversions_exact_half_cent :
    ∃ text cents, formatTongoBalance 201 5000000000000000 = .ok text ∧ PrintsCents text cents ∧
      IsNearestCent (201 * 5000000000000000) cents :=
  (conversions_exact 0 201 5000000000000000 (by decide +kernel)).2.2.1 (by decide +kernel)

example : formatTongoBalance 201 5000000000000000 = .ok "1.01 STRK" := by decide +kernel

/-- The largest balance at rate one is not printed. -/
theorem largest_balance_not_printed :
    (340282366920938463463374607431768211455 : Fin (2 ^ 128)).val * (1 : Fin (2 ^ 128)).val
        < 2 ^ 128 ∧
      formatTongoBalance 340282366920938463463374607431768211455 1 =
        .error (.invalidAmount "Amount overflow") := by
  decide +kernel

end KrustyKms

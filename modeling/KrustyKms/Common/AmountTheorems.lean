import KrustyKms.Common.Amount
import KrustyKms.Support.Fallible
import Mathlib.Data.Rat.Defs
import Mathlib.Tactic.FieldSimp
import Mathlib.Tactic.Ring

/-!
# The numerals that `Amount::from_human` reads

A `Numeral` is an integer part and perhaps a point with a fraction, each with or without a plus
sign, as the standard integer parser takes it.
-/

namespace KrustyKms.Amount

open Codec (trim textSize isWhitespace)
open Support

/-! ## Parts of a numeral -/

structure Part where
  sign : Bool
  digits : List Char
  isDigit : ∀ c ∈ digits, c.isDigit = true

namespace Part

def text (part : Part) : List Char :=
  if part.sign then '+' :: part.digits else part.digits

def value (part : Part) : ℕ := decimalValue part.digits

def pad (part : Part) (count : ℕ) : Part where
  sign := part.sign
  digits := part.digits ++ List.replicate count '0'
  isDigit := by
    intro c hc
    obtain hc | hc := List.mem_append.mp hc
    · exact part.isDigit c hc
    · rw [List.eq_of_mem_replicate hc]
      rfl

@[simp] lemma text_mk_true {digits : List Char} (h : ∀ c ∈ digits, c.isDigit = true) :
    text ⟨true, digits, h⟩ = '+' :: digits := rfl

@[simp] lemma text_mk_false {digits : List Char} (h : ∀ c ∈ digits, c.isDigit = true) :
    text ⟨false, digits, h⟩ = digits := rfl

lemma length_text (part : Part) :
    part.text.length = part.sign.toNat + part.digits.length := by
  obtain ⟨_ | _, digits, hd⟩ := part
  · simp
  · simp [Nat.add_comm]

lemma text_pad (part : Part) (count : ℕ) :
    (part.pad count).text = part.text ++ List.replicate count '0' := by
  obtain ⟨_ | _, digits, hd⟩ := part
  · rfl
  · rfl

lemma value_pad (part : Part) (count : ℕ) : (part.pad count).value = part.value * 10 ^ count := by
  show decimalValue (part.digits ++ List.replicate count '0') =
    decimalValue part.digits * 10 ^ count
  unfold decimalValue
  induction count with
  | zero => simp
  | succ count ih =>
    rw [List.replicate_succ', ← List.append_assoc, List.foldl_append, ih]
    simp only [List.foldl_cons, List.foldl_nil, Nat.sub_self, Nat.pow_succ]
    ring

lemma mem_text {part : Part} {c : Char} (hc : c ∈ part.text) : c = '+' ∨ c.isDigit = true := by
  obtain ⟨_ | _, digits, hd⟩ := part
  · exact .inr (hd c hc)
  · obtain rfl | hc := List.mem_cons.mp hc
    · exact .inl rfl
    · exact .inr (hd c hc)

lemma toNat_of_isDigit {c : Char} (hc : c.isDigit = true) : 48 ≤ c.toNat ∧ c.toNat ≤ 57 := by
  unfold Char.isDigit at hc
  simpa [UInt32.le_iff_toNat_le] using hc

lemma utf8Size_of_isDigit {c : Char} (hc : c.isDigit = true) : c.utf8Size = 1 := by
  rw [Char.utf8Size_eq_one_iff, UInt32.le_iff_toNat_le]
  exact Nat.le_trans (toNat_of_isDigit hc).2 (by decide)

lemma textSize_text (part : Part) : textSize part.text = part.text.length := by
  apply Codec.textSize_of_ascii
  intro c hc
  obtain rfl | hc := mem_text hc
  · rfl
  · exact utf8Size_of_isDigit hc

lemma point_not_mem_text (part : Part) : '.' ∉ part.text := by
  intro hmem
  obtain hp | hp := mem_text hmem
  · exact absurd hp (by decide)
  · exact absurd hp (by decide)

lemma text_injective {part other : Part} (h : part.text = other.text) : part = other := by
  obtain ⟨_ | _, digits, hd⟩ := part <;> obtain ⟨_ | _, others, ho⟩ := other
  · obtain rfl : digits = others := h
    rfl
  · obtain rfl : digits = '+' :: others := h
    exact absurd (hd '+' List.mem_cons_self) (by decide)
  · obtain rfl : '+' :: digits = others := h
    exact absurd (ho '+' List.mem_cons_self) (by decide)
  · obtain rfl : digits = others := (List.cons.inj h).2
    rfl

lemma exists_pad {part : Part} {front : List Char} {count : ℕ}
    (h : part.text = front ++ List.replicate count '0') :
    ∃ unpadded : Part, unpadded.text = front ∧ part = unpadded.pad count := by
  obtain ⟨_ | _, digits, hd⟩ := part
  · obtain rfl : digits = front ++ List.replicate count '0' := h
    exact ⟨⟨false, front, fun c hc => hd c (List.mem_append_left _ hc)⟩, rfl, rfl⟩
  · cases front with
    | nil =>
      have hp : '+' ∈ List.replicate count '0' := by
        rw [← List.nil_append (List.replicate count '0'), ← h]
        exact List.mem_cons_self
      exact absurd (List.eq_of_mem_replicate hp) (by decide)
    | cons c front =>
      obtain ⟨rfl, hr⟩ := List.cons.inj h
      obtain rfl : digits = front ++ List.replicate count '0' := hr
      exact ⟨⟨true, front, fun c hc => hd c (List.mem_append_left _ hc)⟩, rfl, rfl⟩

end Part

/-! ## Numerals -/

structure Numeral where
  integer : Part
  fraction : Option Part

namespace Numeral

def text (n : Numeral) : List Char :=
  match n.fraction with
  | none => n.integer.text
  | some fraction => n.integer.text ++ '.' :: fraction.text

structure Plain (n : Numeral) : Prop where
  integer : n.integer.sign = false
  fraction : ∀ part ∈ n.fraction, part.sign = false
  digit : n.integer.digits ≠ [] ∨ ∃ part ∈ n.fraction, part.digits ≠ []

def places (n : Numeral) : ℕ :=
  match n.fraction with
  | none => 0
  | some fraction => fraction.digits.length

def value (n : Numeral) : ℚ :=
  match n.fraction with
  | none => n.integer.value
  | some fraction => n.integer.value + fraction.value / 10 ^ fraction.digits.length

/-- The parser takes the numeral: a signed integer part, and one without a point, has a digit;
the fraction fits the decimals with its sign, and its padding leaves a digit behind the sign. -/
structure Readable (n : Numeral) (decimals : ℕ) : Prop where
  integer : n.integer.sign = true ∨ n.fraction = none → n.integer.digits ≠ []
  fraction : ∀ part ∈ n.fraction, part.text.length ≤ decimals ∧ part.sign.toNat < decimals

def raw (n : Numeral) (decimals : ℕ) : ℕ :=
  match n.fraction with
  | none => n.integer.value * 10 ^ decimals
  | some fraction => n.integer.value * 10 ^ decimals +
      fraction.value * 10 ^ (decimals - fraction.text.length)

lemma text_some (integer fraction : Part) :
    text ⟨integer, some fraction⟩ = integer.text ++ '.' :: fraction.text := rfl

lemma raw_some (integer fraction : Part) (decimals : ℕ) :
    raw ⟨integer, some fraction⟩ decimals = integer.value * 10 ^ decimals +
      fraction.value * 10 ^ (decimals - fraction.text.length) := rfl

lemma takeWhile_text (n : Numeral) : n.text.takeWhile (· != '.') = n.integer.text := by
  have hin : ∀ c ∈ n.integer.text, (c != '.') = true := by
    intro c hc
    rw [bne_iff_ne]
    exact fun hp => n.integer.point_not_mem_text (hp ▸ hc)
  obtain ⟨integer, _ | fraction⟩ := n
  · rw [← List.append_nil (text _)]
    exact (List.takeWhile_append_of_pos hin).trans (List.append_nil _)
  · exact (List.takeWhile_append_of_pos hin).trans (List.append_nil _)

lemma dropWhile_text (n : Numeral) :
    n.text.dropWhile (· != '.') = match n.fraction with
      | none => []
      | some fraction => '.' :: fraction.text := by
  have ha := List.takeWhile_append_dropWhile (p := (· != '.')) (l := n.text)
  rw [takeWhile_text] at ha
  obtain ⟨integer, _ | fraction⟩ := n
  · exact List.append_right_eq_self.mp ha
  · exact List.append_cancel_left ha

lemma text_injective {n m : Numeral} (h : n.text = m.text) : n = m := by
  have hin : n.integer = m.integer := by
    apply Part.text_injective
    rw [← takeWhile_text, ← takeWhile_text, h]
  have hd := congrArg (List.dropWhile (· != '.')) h
  rw [dropWhile_text, dropWhile_text] at hd
  obtain ⟨integer, _ | fraction⟩ := n <;> obtain ⟨_, _ | fraction'⟩ := m
  · obtain rfl := hin
    rfl
  · exact absurd hd (by simp)
  · exact absurd hd (by simp)
  · obtain rfl := hin
    obtain rfl := Part.text_injective (List.cons.inj hd).2
    rfl

lemma Plain.raw_eq {n : Numeral} (hp : n.Plain) {decimals : ℕ} (hpl : n.places ≤ decimals) :
    (n.raw decimals : ℚ) = n.value * 10 ^ decimals := by
  obtain ⟨integer, _ | fraction⟩ := n
  · simp [raw, value]
  · have hl : fraction.text.length = fraction.digits.length := by
      rw [Part.length_text, hp.fraction fraction rfl]
      exact Nat.zero_add _
    have hs : (10 : ℚ) ^ decimals =
        10 ^ (decimals - fraction.digits.length) * 10 ^ fraction.digits.length := by
      rw [← pow_add]
      exact congrArg _ (Nat.sub_add_cancel hpl).symm
    simp only [raw, value, hl]
    push_cast
    rw [add_mul, hs]
    field_simp

lemma mem_text {n : Numeral} {c : Char} (hc : c ∈ n.text) :
    c = '.' ∨ c = '+' ∨ c.isDigit = true := by
  obtain ⟨integer, _ | fraction⟩ := n
  · exact .inr (Part.mem_text hc)
  · obtain hc | hc := List.mem_append.mp hc
    · exact .inr (Part.mem_text hc)
    · obtain hc | hc := List.mem_cons.mp hc
      · exact .inl hc
      · exact .inr (Part.mem_text hc)

lemma not_isWhitespace {n : Numeral} {c : Char} (hc : c ∈ n.text) : isWhitespace c = false := by
  obtain rfl | rfl | hd := mem_text hc
  · decide
  · decide
  · obtain ⟨hlow, hh⟩ := Part.toNat_of_isDigit hd
    simp only [isWhitespace, List.mem_cons, List.not_mem_nil, or_false, decide_eq_false_iff_not]
    omega

end Numeral

/-! ## The parser -/

lemma okOr_eq_ok {α : Type} {value : Option α} {message : String} {a : α} :
    okOr value message = .ok a ↔ value = some a := by
  cases value <;> simp [okOr]

variable {n decimals : ℕ} {a : Fin (2 ^ 128)} {text : List Char} {c : Char} {s : String}
  {amount : Amount}

lemma checked_eq_some : checked n = some a ↔ n = a.val := by
  unfold checked
  constructor
  · intro h
    split_ifs at h with hn
    rw [← Option.some.inj h]
  · intro h
    subst h
    rw [dif_pos a.isLt]

lemma parseU128_unsigned (h : text.head? ≠ some '+') :
    parseU128 text =
      if text ≠ [] ∧ text.all Char.isDigit then checked (decimalValue text) else none := by
  unfold parseU128
  dsimp only
  split
  · exact absurd rfl h
  · rfl

lemma parseU128_text (part : Part) :
    parseU128 part.text = if part.digits ≠ [] then checked part.value else none := by
  have hall : (part.digits ≠ [] ∧ part.digits.all Char.isDigit = true) ↔ part.digits ≠ [] :=
    and_iff_left (List.all_eq_true.mpr part.isDigit)
  obtain ⟨_ | _, digits, hd⟩ := part
  · have hh : digits.head? ≠ some '+' := by
      intro hp
      exact absurd (hd '+' (List.mem_of_head? hp)) (by decide)
    rw [Part.text_mk_false, parseU128_unsigned hh]
    exact if_congr hall rfl rfl
  · exact if_congr hall rfl rfl

lemma parseU128_eq_some :
    parseU128 text = some a ↔
      ∃ part : Part, part.text = text ∧ part.digits ≠ [] ∧ part.value = a.val := by
  constructor
  · intro h
    have hp : ∃ part : Part, part.text = text := by
      unfold parseU128 at h
      dsimp only at h
      split_ifs at h with hd
      split at hd
      · rename_i digits
        exact ⟨⟨true, digits, List.all_eq_true.mp hd.2⟩, rfl⟩
      · exact ⟨⟨false, text, List.all_eq_true.mp hd.2⟩, rfl⟩
    obtain ⟨part, rfl⟩ := hp
    rw [parseU128_text] at h
    split_ifs at h with hd
    exact ⟨part, rfl, hd, checked_eq_some.mp h⟩
  · intro h
    obtain ⟨part, rfl, hd, hv⟩ := h
    rw [parseU128_text, if_pos hd]
    exact checked_eq_some.mpr hv

lemma pad_digits_ne_nil {part : Part} (hl : part.text.length ≤ decimals) :
    (part.pad (decimals - part.text.length)).digits ≠ [] ↔ part.sign.toNat < decimals := by
  have hd : (part.pad (decimals - part.text.length)).digits.length =
      part.digits.length + (decimals - part.text.length) := by
    simp [Part.pad]
  rw [Part.length_text] at hl hd
  rw [Part.length_text, ← List.length_pos_iff, hd]
  omega

lemma eq_point_of_dropWhile {rest : List Char}
    (h : text.dropWhile (· != '.') = c :: rest) : c = '.' := by
  have hh := List.head?_dropWhile_not (· != '.') text
  rw [h] at hh
  simpa using hh

lemma fromHuman_of_integer {decimals : UInt8} (hd : (trim s).toList.dropWhile (· != '.') = []) :
    fromHuman s decimals = .ok amount ↔
      10 ^ decimals.toNat < 2 ^ 128 ∧ amount.decimals = decimals ∧
        ∃ intVal, parseU128 (trim s).toList = some intVal ∧
          intVal.val * 10 ^ decimals.toNat = amount.raw.val := by
  simp only [fromHuman, hd, except_bind_eq_ok, okOr_eq_ok, checked_eq_some]
  constructor
  · intro h
    obtain ⟨factor, hf, intVal, hint, raw, hraw, ha⟩ := h
    obtain rfl := Except.ok.inj ha
    exact ⟨hf ▸ factor.isLt, rfl, intVal, hint, hf ▸ hraw⟩
  · intro h
    obtain ⟨hf, rfl, intVal, hint, hraw⟩ := h
    exact ⟨⟨_, hf⟩, rfl, intVal, hint, amount.raw, hraw, rfl⟩

lemma fromHuman_of_point {decimals : UInt8}
    {fracPart : List Char} (hd : (trim s).toList.dropWhile (· != '.') = c :: fracPart) :
    fromHuman s decimals = .ok amount ↔
      10 ^ decimals.toNat < 2 ^ 128 ∧ amount.decimals = decimals ∧
        textSize fracPart ≤ decimals.toNat ∧
        ∃ intVal fracVal,
          integerValue ((trim s).toList.takeWhile (· != '.')) (trim s) = .ok intVal ∧
          parseU128 (fracPart ++ List.replicate (decimals.toNat - fracPart.length) '0') =
            some fracVal ∧
          intVal.val * 10 ^ decimals.toNat + fracVal.val = amount.raw.val := by
  simp only [fromHuman, hd, except_bind_eq_ok, except_ite_throw_eq_ok, okOr_eq_ok,
    checked_eq_some, Option.bind_eq_some_iff, not_lt, gt_iff_lt]
  constructor
  · intro h
    obtain ⟨factor, hf, hs, intVal, hint, fracVal, hfr, raw, hraw, ha⟩ := h
    obtain ⟨scaled, hsc, hsum⟩ := hraw
    obtain rfl := Except.ok.inj ha
    exact ⟨hf ▸ factor.isLt, rfl, hs, intVal, fracVal, hint, hfr,
      hf ▸ hsc ▸ hsum⟩
  · intro h
    obtain ⟨hf, rfl, hs, intVal, fracVal, hint, hfr, hraw⟩ := h
    have hsc : intVal.val * 10 ^ amount.decimals.toNat < 2 ^ 128 := by
      have := amount.raw.isLt
      omega
    exact ⟨⟨_, hf⟩, rfl, hs, intVal, hint, fracVal, hfr, amount.raw,
      ⟨⟨_, hsc⟩, rfl, hraw⟩, rfl⟩

lemma integerValue_eq_ok :
    integerValue text s = .ok a ↔
      ∃ part : Part, part.text = text ∧ (part.sign = true → part.digits ≠ []) ∧
        part.value = a.val := by
  unfold integerValue
  constructor
  · intro h
    split_ifs at h with hem
    · obtain rfl := Except.ok.inj h
      exact ⟨⟨false, [], by simp⟩, hem.symm, by simp, rfl⟩
    · obtain ⟨part, ht, hd, hv⟩ := parseU128_eq_some.mp (okOr_eq_ok.mp h)
      exact ⟨part, ht, fun _ => hd, hv⟩
  · intro h
    obtain ⟨part, rfl, hsg, hv⟩ := h
    by_cases hd : part.digits = []
    · -- Nothing is read as zero.
      have hs : part.sign = false := by
        by_contra hs
        exact hsg (Bool.of_not_eq_false hs) hd
      obtain ⟨sign, digits, hall⟩ := part
      obtain rfl : digits = [] := hd
      obtain rfl : sign = false := hs
      rw [Part.text_mk_false, if_pos rfl]
      exact congrArg Except.ok (Fin.ext hv)
    · have ht : part.text ≠ [] := by
        intro hnil
        have hl := part.length_text
        rw [hnil] at hl
        exact hd (List.length_eq_zero_iff.mp (by simp at hl; omega))
      rw [if_neg ht, okOr_eq_ok]
      exact parseU128_eq_some.mpr ⟨part, rfl, hd, hv⟩

lemma parseU128_padded (hl : textSize text ≤ decimals) :
    parseU128 (text ++ List.replicate (decimals - text.length) '0') = some a ↔
      ∃ part : Part, part.text = text ∧ part.sign.toNat < decimals ∧
        part.value * 10 ^ (decimals - part.text.length) = a.val := by
  rw [parseU128_eq_some]
  constructor
  · intro h
    obtain ⟨padded, ht, hd, hv⟩ := h
    obtain ⟨part, rfl, rfl⟩ := Part.exists_pad ht
    rw [Part.textSize_text] at hl
    exact ⟨part, rfl, (pad_digits_ne_nil hl).mp hd, part.value_pad _ ▸ hv⟩
  · intro h
    obtain ⟨part, rfl, hs, hv⟩ := h
    rw [Part.textSize_text] at hl
    exact ⟨part.pad _, part.text_pad _, (pad_digits_ne_nil hl).mpr hs,
      (part.value_pad _).trans hv⟩

lemma fromHuman_eq_ok {decimals : UInt8} :
    fromHuman s decimals = .ok amount ↔
      10 ^ decimals.toNat < 2 ^ 128 ∧ amount.decimals = decimals ∧
        ∃ n : Numeral, n.text = (trim s).toList ∧ n.Readable decimals.toNat ∧
          n.raw decimals.toNat = amount.raw.val := by
  constructor
  · intro h
    have hs := List.takeWhile_append_dropWhile (p := (· != '.')) (l := (trim s).toList)
    cases hd : (trim s).toList.dropWhile (· != '.') with
    | nil =>
      obtain ⟨hf, hdc, intVal, hint, hraw⟩ := (fromHuman_of_integer hd).mp h
      obtain ⟨part, ht, hdg, hv⟩ := parseU128_eq_some.mp hint
      rw [← hv] at hraw
      exact ⟨hf, hdc, ⟨part, none⟩, ht, ⟨fun _ => hdg, by simp⟩, hraw⟩
    | cons c fracPart =>
      obtain ⟨hf, hdc, hsz, intVal, fracVal, hint, hfc, hraw⟩ :=
        (fromHuman_of_point hd).mp h
      obtain ⟨integer, hin, hsi, hv⟩ := integerValue_eq_ok.mp hint
      obtain ⟨fraction, rfl, hsg, hfr⟩ := (parseU128_padded hsz).mp hfc
      rw [hd, ← hin, eq_point_of_dropWhile hd] at hs
      rw [Part.textSize_text] at hsz
      rw [← Numeral.text_some] at hs
      rw [← hv, ← hfr, ← Numeral.raw_some] at hraw
      refine ⟨hf, hdc, ⟨integer, some fraction⟩, hs, ⟨?_, ?_⟩, hraw⟩
      · intro hc
        obtain hc | hc := hc
        · exact hsi hc
        · exact absurd hc (by simp)
      · intro part hp
        obtain rfl := Option.some.inj hp
        exact ⟨hsz, hsg⟩
  · intro h
    obtain ⟨hf, hdc, n, ht, hr, hraw⟩ := h
    have hd := n.dropWhile_text
    have htk := n.takeWhile_text
    rw [ht] at hd htk
    have hlt := amount.raw.isLt
    have hpos : 0 < 10 ^ decimals.toNat := Nat.pow_pos (by omega)
    obtain ⟨integer, _ | fraction⟩ := n
    · have hraw : integer.value * 10 ^ decimals.toNat = amount.raw.val := hraw
      have hv : integer.value < 2 ^ 128 := by
        have := Nat.le_mul_of_pos_right integer.value hpos
        omega
      refine (fromHuman_of_integer hd).mpr ⟨hf, hdc, ⟨_, hv⟩, ?_, hraw⟩
      exact parseU128_eq_some.mpr ⟨integer, ht, hr.integer (.inr rfl), rfl⟩
    · rw [Numeral.raw_some] at hraw
      have hv : integer.value < 2 ^ 128 := by
        have := Nat.le_mul_of_pos_right integer.value hpos
        omega
      have hfr : fraction.value * 10 ^ (decimals.toNat - fraction.text.length) < 2 ^ 128 := by
        omega
      obtain ⟨hl, hsg⟩ := hr.fraction fraction rfl
      rw [← Part.textSize_text] at hl
      refine (fromHuman_of_point hd).mpr
        ⟨hf, hdc, hl, ⟨_, hv⟩, ⟨_, hfr⟩, ?_, ?_, hraw⟩
      · rw [htk]
        exact integerValue_eq_ok.mpr ⟨integer, rfl, fun h => hr.integer (.inl h), rfl⟩
      · exact (parseU128_padded hl).mpr ⟨fraction, rfl, hsg, rfl⟩

/-! ## Plain numerals -/

lemma Numeral.Plain.read {n : Numeral} (hp : n.Plain) (hr : n.Readable decimals) :
    n.places ≤ decimals ∧ (n.raw decimals : ℚ) = n.value * 10 ^ decimals := by
  have hpl : n.places ≤ decimals := by
    obtain ⟨integer, _ | fraction⟩ := n
    · exact Nat.zero_le decimals
    · obtain ⟨hl, -⟩ := hr.fraction fraction rfl
      rw [Part.length_text, hp.fraction fraction rfl] at hl
      exact Nat.le_trans (Nat.le_add_left _ _) hl
  exact ⟨hpl, hp.raw_eq hpl⟩

lemma trim_of_text {n : Numeral} (ht : n.text = s.toList) : trim s = s := by
  apply Codec.trim_eq_self
  intro c hc
  rw [← ht] at hc
  exact n.not_isWhitespace hc

/-- The parser reads nothing but plain decimal numerals, as exactly their value, and refuses a
value that does not fit, at the inputs that are a plain numeral themselves and at those that it
does not read: more than 38 decimals, or a text between blanks that is not a numeral, with signs
or without, that fits the decimals and 128 bits. -/
theorem fromHuman_exact_iff (s : String) (decimals : UInt8) :
    ((∀ amount, fromHuman s decimals = .ok amount →
        ∃ n : Numeral, n.text = s.toList ∧ n.Plain ∧ n.places ≤ decimals.toNat ∧
          (amount.raw.val : ℚ) = n.value * 10 ^ decimals.toNat) ∧
      (∀ n : Numeral, n.text = s.toList → n.Plain →
        2 ^ 128 ≤ n.value * 10 ^ decimals.toNat → ∃ e, fromHuman s decimals = .error e)) ↔
      (∃ n : Numeral, n.text = s.toList ∧ n.Plain) ∨ 38 < decimals.toNat ∨
        ∀ n : Numeral, n.text = (trim s).toList → n.Readable decimals.toNat →
          2 ^ 128 ≤ n.raw decimals.toNat := by
  have hrd {n : Numeral} (ht : n.text = s.toList) (hp : n.Plain) {amount : Amount}
      (h : fromHuman s decimals = .ok amount) :
      n.places ≤ decimals.toNat ∧ (amount.raw.val : ℚ) = n.value * 10 ^ decimals.toNat := by
    obtain ⟨-, -, m, hm, hr, hraw⟩ := fromHuman_eq_ok.mp h
    rw [trim_of_text ht, ← ht] at hm
    obtain rfl := Numeral.text_injective hm
    rw [← hraw]
    exact hp.read hr
  constructor
  · intro h
    obtain ⟨hex, -⟩ := h
    by_contra hnot
    push Not at hnot
    obtain ⟨hn, hd, n, ht, hr, hft⟩ := hnot
    have hf : 10 ^ decimals.toNat < 2 ^ 128 :=
      Nat.lt_of_le_of_lt (Nat.pow_le_pow_right (by omega) hd) (by decide)
    obtain ⟨m, hm, hp, -⟩ := hex ⟨⟨_, hft⟩, decimals⟩
      (fromHuman_eq_ok.mpr ⟨hf, rfl, n, ht, hr, rfl⟩)
    exact hn m hm hp
  · intro h
    refine ⟨?_, ?_⟩
    · intro amount hok
      obtain ⟨n, ht, hp⟩ | hd | hls := h
      · exact ⟨n, ht, hp, hrd ht hp hok⟩
      · obtain ⟨hf, -⟩ := fromHuman_eq_ok.mp hok
        have hpow : 10 ^ 39 ≤ 10 ^ decimals.toNat := Nat.pow_le_pow_right (by omega) hd
        exact absurd (Nat.lt_of_le_of_lt hpow hf) (by decide)
      · obtain ⟨-, -, n, ht, hr, hraw⟩ := fromHuman_eq_ok.mp hok
        have hl := hls n ht hr
        rw [hraw] at hl
        exact absurd amount.raw.isLt (Nat.not_lt.mpr hl)
    · intro n ht hp hl
      cases hok : fromHuman s decimals with
      | error e => exact ⟨e, rfl⟩
      | ok amount =>
        obtain ⟨-, hv⟩ := hrd ht hp hok
        rw [← hv] at hl
        have hl : 2 ^ 128 ≤ amount.raw.val := by exact_mod_cast hl
        exact absurd amount.raw.isLt (Nat.not_lt.mpr hl)

/-- `1.+5` is read as 1.05. -/
theorem signed_fraction_read :
    fromHuman "1.+5" 2 = .ok ⟨105, 2⟩ ∧ ¬ ∃ n : Numeral, n.text = "1.+5".toList ∧ n.Plain := by
  refine ⟨by decide +kernel, ?_⟩
  intro h
  obtain ⟨n, ht, hp⟩ := h
  have hs : n = ⟨⟨false, ['1'], List.all_eq_true.mp (by decide)⟩,
      some ⟨true, ['5'], List.all_eq_true.mp (by decide)⟩⟩ :=
    Numeral.text_injective ht
  subst hs
  exact absurd (hp.fraction _ rfl) (by decide)

/-! ## Printing -/

def Part.ofNat (n : ℕ) : Part := ⟨false, Nat.toDigits 10 n, (toDigits_decimal n).1⟩

@[simp] lemma Part.text_ofNat (n : ℕ) : (Part.ofNat n).text = Nat.toDigits 10 n := rfl

@[simp] lemma Part.value_ofNat (n : ℕ) : (Part.ofNat n).value = n := (toDigits_decimal n).2

lemma decimalValue_zeroPadded (width n : ℕ) : decimalValue (zeroPadded width n) = n := by
  have hz (count : ℕ) :
      decimalValue (List.replicate count '0' ++ Nat.toDigits 10 n) = n := by
    induction count with
    | zero => exact (toDigits_decimal n).2
    | succ count ih => exact ih
  exact hz _

lemma isDigit_of_mem_zeroPadded {width : ℕ} (hc : c ∈ zeroPadded width n) :
    c.isDigit = true := by
  obtain hc | hc := List.mem_append.mp hc
  · rw [List.eq_of_mem_replicate hc]
    rfl
  · exact (toDigits_decimal n).1 c hc

lemma length_zeroPadded {width : ℕ} (hw : 0 < width) (hn : n < 10 ^ width) :
    (zeroPadded width n).length = width := by
  have hl : (Nat.toDigits 10 n).length ≤ width :=
    (Nat.length_toDigits_le_iff (by decide) hw).mpr hn
  rw [zeroPadded, List.length_append, List.length_replicate]
  omega

lemma trimEndZeros_append (digits : List Char) :
    ∃ count, trimEndZeros digits ++ List.replicate count '0' = digits := by
  have hs := List.takeWhile_append_dropWhile (p := (· == '0')) (l := digits.reverse)
  have hz : digits.reverse.takeWhile (· == '0') =
      List.replicate (digits.reverse.takeWhile (· == '0')).length '0' := by
    apply List.eq_replicate_of_mem
    intro c hc
    simpa using List.all_eq_true.mp (List.all_takeWhile (p := (· == '0'))) c hc
  refine ⟨(digits.reverse.takeWhile (· == '0')).length, ?_⟩
  apply List.reverse_injective
  rw [List.reverse_append, List.reverse_replicate, ← hz, trimEndZeros, List.reverse_reverse,
    hs]

lemma exists_fraction {fraction : ℕ} (hd : 0 < decimals) (hf : fraction < 10 ^ decimals) :
    ∃ part : Part, part.text = trimEndZeros (zeroPadded decimals fraction) ∧ part.sign = false ∧
      part.text.length ≤ decimals ∧
      part.value * 10 ^ (decimals - part.text.length) = fraction := by
  obtain ⟨count, hcn⟩ := trimEndZeros_append (zeroPadded decimals fraction)
  have hl := congrArg List.length hcn
  rw [List.length_append, List.length_replicate, length_zeroPadded hd hf] at hl
  have hdg : ∀ c ∈ trimEndZeros (zeroPadded decimals fraction), c.isDigit = true := by
    intro c hc
    have hmem : c ∈ zeroPadded decimals fraction := hcn ▸ List.mem_append_left _ hc
    exact isDigit_of_mem_zeroPadded hmem
  let part : Part := ⟨false, trimEndZeros (zeroPadded decimals fraction), hdg⟩
  have hp : decimals - part.text.length = count := by
    rw [Part.text_mk_false]
    omega
  refine ⟨part, rfl, rfl, ?_, ?_⟩
  · rw [Part.text_mk_false]
    omega
  · rw [hp, ← part.value_pad count]
    show decimalValue (trimEndZeros (zeroPadded decimals fraction) ++ List.replicate count '0') =
      fraction
    rw [hcn, decimalValue_zeroPadded]

lemma exists_numeral_toHuman (hd : amount.decimals.toNat ≤ 38) :
    ∃ n : Numeral, n.text = amount.toHuman.toList ∧ n.Readable amount.decimals.toNat ∧
      n.raw amount.decimals.toNat = amount.raw.val := by
  have hin (n : ℕ) : (Part.ofNat n).digits ≠ [] := Nat.toDigits_ne_nil
  have ht (n : ℕ) : (toString n).toList = Nat.toDigits 10 n := String.toList_ofList
  have hfc : 10 ^ amount.decimals.toNat < 2 ^ 128 :=
    Nat.lt_of_le_of_lt (Nat.pow_le_pow_right (by omega) hd) (by decide)
  have hc : checked (10 ^ amount.decimals.toNat) = some ⟨_, hfc⟩ :=
    checked_eq_some.mpr rfl
  have hs := Nat.div_add_mod' amount.raw.val (10 ^ amount.decimals.toNat)
  have hmod : amount.raw.val % 10 ^ amount.decimals.toNat < 10 ^ amount.decimals.toNat :=
    Nat.mod_lt _ (Nat.pow_pos (by decide))
  by_cases hz : amount.decimals.toNat = 0
  · refine ⟨⟨.ofNat amount.raw.val, none⟩, ?_, ⟨fun _ => hin _, by simp⟩, ?_⟩
    · simp only [toHuman, hz, if_true]
      exact (ht _).symm
    · simp [Numeral.raw, hz]
  · have hpos : 0 < amount.decimals.toNat := Nat.pos_of_ne_zero hz
    by_cases hf : amount.raw.val % 10 ^ amount.decimals.toNat = 0
    · refine ⟨⟨.ofNat (amount.raw.val / 10 ^ amount.decimals.toNat), some (.ofNat 0)⟩, ?_,
        ⟨fun _ => hin _, ?_⟩, ?_⟩
      · simp only [toHuman, hz, if_false, hc, hf, if_true, String.toList_append,
          ht, Numeral.text_some, Part.text_ofNat]
        rfl
      · intro part hp
        obtain rfl := Option.some.inj hp
        exact ⟨hpos, hpos⟩
      · rw [Numeral.raw_some]
        simp only [Part.value_ofNat]
        omega
    · obtain ⟨part, hp, hsg, hl, hv⟩ := exists_fraction hpos hmod
      refine ⟨⟨.ofNat (amount.raw.val / 10 ^ amount.decimals.toNat), some part⟩, ?_,
        ⟨fun _ => hin _, ?_⟩, ?_⟩
      · simp only [toHuman, hz, if_false, hc, hf, String.toList_append, ht,
          Numeral.text_some, Part.text_ofNat, hp, String.toList_ofList]
        simp
      · intro other ho
        obtain rfl := Option.some.inj ho
        rw [hsg]
        exact ⟨hl, hpos⟩
      · rw [Numeral.raw_some, hv, Part.value_ofNat]
        exact hs

/-- What is printed is read back as the same amount. -/
theorem fromHuman_toHuman (raw : Fin (2 ^ 128)) (decimals : UInt8) (h : decimals.toNat ≤ 38) :
    fromHuman (toHuman ⟨raw, decimals⟩) decimals = .ok ⟨raw, decimals⟩ := by
  have hp : (⟨raw, decimals⟩ : Amount).decimals.toNat ≤ 38 := h
  obtain ⟨n, ht, hr, hraw⟩ := exists_numeral_toHuman hp
  refine fromHuman_eq_ok.mpr ⟨?_, rfl, n, ?_, hr, hraw⟩
  · exact Nat.lt_of_le_of_lt (Nat.pow_le_pow_right (by omega) h) (by decide)
  · rw [trim_of_text ht]
    exact ht

theorem fromHuman_toHuman_largest :
    fromHuman (toHuman ⟨340282366920938463463374607431768211455, 38⟩) 38 =
      .ok ⟨340282366920938463463374607431768211455, 38⟩ :=
  fromHuman_toHuman 340282366920938463463374607431768211455 38 (by decide)

end KrustyKms.Amount

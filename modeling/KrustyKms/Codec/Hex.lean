import KrustyKms.Codec.Text
import Mathlib.Data.Nat.Digits.Defs
import Mathlib.Tactic.Lemma

/-!
# Numbers in lowercase hexadecimal

The text has no leading zeros, and zero is `0`; it tells the number (`lowerHex_injective`), which
`readHex` reads back, also with zeros in front of it (`readHex_replicate`).
-/

namespace KrustyKms.Codec

def lowerHex (n : ℕ) : String := String.ofList (Nat.toDigits 16 n)

lemma digitChar_inj {a b : ℕ} (ha : a < 16) (hb : b < 16) (h : a.digitChar = b.digitChar) :
    a = b := by
  have hall : ∀ a < 16, ∀ b < 16, a.digitChar = b.digitChar → a = b := by decide
  exact hall a ha b hb h

lemma toDigits_ne_nil (n : ℕ) : Nat.toDigits 16 n ≠ [] := by
  by_cases h : n < 16
  · simp [Nat.toDigits_of_lt_base h]
  · simp [Nat.toDigits_of_base_le (by decide : 1 < 16) (by omega : 16 ≤ n)]

lemma toDigits_injective : Function.Injective (Nat.toDigits 16) := by
  intro a
  -- the last digits agree first, then the digits in front of them
  induction a using Nat.strongRecOn with
  | ind a ih =>
    intro b h
    by_cases ha : a < 16
    · rw [Nat.toDigits_of_lt_base ha] at h
      by_cases hb : b < 16
      · rw [Nat.toDigits_of_lt_base hb] at h
        exact digitChar_inj ha hb (List.singleton_inj.mp h)
      · rw [Nat.toDigits_of_base_le (by decide) (by omega)] at h
        have hl : (Nat.toDigits 16 (b / 16)).length = 0 := by
          simpa using (congrArg List.length h).symm
        exact absurd (List.length_eq_zero_iff.mp hl) (toDigits_ne_nil _)
    · rw [Nat.toDigits_of_base_le (by decide) (by omega)] at h
      by_cases hb : b < 16
      · rw [Nat.toDigits_of_lt_base hb] at h
        have hl : (Nat.toDigits 16 (a / 16)).length = 0 := by
          simpa using congrArg List.length h
        exact absurd (List.length_eq_zero_iff.mp hl) (toDigits_ne_nil _)
      · rw [Nat.toDigits_of_base_le (by decide) (by omega : 16 ≤ b)] at h
        obtain ⟨hf, hls⟩ := List.append_inj' h rfl
        have hdiv : a / 16 = b / 16 := ih (a / 16) (by omega) hf
        have hmod : a % 16 = b % 16 := digitChar_inj (Nat.mod_lt _ (by decide))
          (Nat.mod_lt _ (by decide)) (List.singleton_inj.mp hls)
        omega

theorem lowerHex_injective : Function.Injective lowerHex := by
  intro a b h
  exact toDigits_injective (String.ofList_injective h)

/-! ## Reading -/

def hexDigit (c : Char) : Option ℕ :=
  if '0' ≤ c ∧ c ≤ '9' then some (c.toNat - '0'.toNat)
  else if 'a' ≤ c ∧ c ≤ 'f' then some (c.toNat - 'a'.toNat + 10)
  else none

def readHexFrom (n : ℕ) (digits : List Char) : Option ℕ :=
  digits.foldlM (fun n c => (hexDigit c).map (16 * n + ·)) n

def readHex (digits : List Char) : Option ℕ :=
  if digits = [] then none else readHexFrom 0 digits

variable {d : ℕ} {c : Char} {bytes : List UInt8}

lemma hexDigit_digitChar (h : d < 16) : hexDigit d.digitChar = some d := by
  have hall : ∀ d < 16, hexDigit d.digitChar = some d := by decide
  exact hall d h

lemma readHexFrom_append (n : ℕ) (front back : List Char) :
    readHexFrom n (front ++ back) = (readHexFrom n front).bind fun m => readHexFrom m back :=
  List.foldlM_append

lemma readHexFrom_toDigits (n : ℕ) : readHexFrom 0 (Nat.toDigits 16 n) = some n := by
  -- the last digit is read after the number in front of it
  induction n using Nat.strongRecOn with
  | ind n ih =>
    by_cases h : n < 16
    · rw [Nat.toDigits_of_lt_base h]
      simp [readHexFrom, hexDigit_digitChar h]
    · rw [Nat.toDigits_of_base_le (by decide) (by omega), readHexFrom_append,
        ih (n / 16) (by omega), Option.bind_some]
      simp only [readHexFrom, List.foldlM_cons, List.foldlM_nil,
        hexDigit_digitChar (Nat.mod_lt n (by decide : 0 < 16)), Option.map_some]
      exact congrArg some (Nat.div_add_mod n 16)

lemma readHexFrom_replicate (k : ℕ) : readHexFrom 0 (List.replicate k '0') = some 0 := by
  induction k with
  | zero => rfl
  | succ k ih =>
    rw [List.replicate_succ]
    exact ih

/-- Zeros in front do not change the number. -/
theorem readHex_replicate (k n : ℕ) :
    readHex (List.replicate k '0' ++ Nat.toDigits 16 n) = some n := by
  unfold readHex
  rw [if_neg (by simp), readHexFrom_append, readHexFrom_replicate,
    Option.bind_some, readHexFrom_toDigits]

/-! ## Bytes -/

def byteDigits (byte : UInt8) : List Char :=
  [(byte.toNat / 16).digitChar, (byte.toNat % 16).digitChar]

def encodeBytes (bytes : List UInt8) : String := String.ofList (bytes.flatMap byteDigits)

def hexDigitAnyCase (c : Char) : Option ℕ :=
  if 'A' ≤ c ∧ c ≤ 'F' then some (c.toNat - 'A'.toNat + 10) else hexDigit c

def isHexDigit (c : Char) : Bool := (hexDigitAnyCase c).isSome

def decodeDigits : List Char → Option (List UInt8)
  | [] => some []
  | high :: low :: rest => do
    let h ← hexDigitAnyCase high
    let l ← hexDigitAnyCase low
    let bytes ← decodeDigits rest
    pure (UInt8.ofNat (16 * h + l) :: bytes)
  | [_] => none

def decodeBytes (text : String) : Option (List UInt8) := decodeDigits text.toList

lemma hexDigitAnyCase_digitChar (h : d < 16) : hexDigitAnyCase d.digitChar = some d := by
  have hall : ∀ d < 16, hexDigitAnyCase d.digitChar = some d := by decide
  exact hall d h

lemma isHexDigit_of_mem_toDigits {n : ℕ} (h : c ∈ Nat.toDigits 16 n) :
    isHexDigit c = true := by
  have hd : ∀ d < 16, isHexDigit d.digitChar = true := by decide
  induction n using Nat.strongRecOn with
  | ind n ih =>
    by_cases hn : n < 16
    · rw [Nat.toDigits_of_lt_base hn, List.mem_singleton] at h
      rw [h]
      exact hd n hn
    · rw [Nat.toDigits_of_base_le (by decide) (by omega), List.mem_append,
        List.mem_singleton] at h
      rcases h with h | rfl
      · exact ih (n / 16) (by omega) h
      · exact hd _ (Nat.mod_lt _ (by decide))

lemma isWhitespace_of_isHexDigit (h : isHexDigit c = true) :
    isWhitespace c = false := by
  have hr : 48 ≤ c.toNat ∧ c.toNat ≤ 102 := by
    unfold isHexDigit hexDigitAnyCase hexDigit at h
    split_ifs at h with hu hd hl
    · have hlow : 'A'.toNat ≤ c.toNat := hu.1
      have hh : c.toNat ≤ 'F'.toNat := hu.2
      exact ⟨le_trans (by decide) hlow, le_trans hh (by decide)⟩
    · have hlow : '0'.toNat ≤ c.toNat := hd.1
      have hh : c.toNat ≤ '9'.toNat := hd.2
      exact ⟨le_trans (by decide) hlow, le_trans hh (by decide)⟩
    · have hlow : 'a'.toNat ≤ c.toNat := hl.1
      have hh : c.toNat ≤ 'f'.toNat := hl.2
      exact ⟨le_trans (by decide) hlow, le_trans hh (by decide)⟩
    · cases h
  simp only [isWhitespace, decide_eq_false_iff_not, List.mem_cons, List.not_mem_nil,
    or_false]
  omega

lemma decodeDigits_flatMap (bytes : List UInt8) :
    decodeDigits (bytes.flatMap byteDigits) = some bytes := by
  induction bytes with
  | nil => rfl
  | cons byte bytes ih =>
    have hlt : byte.toNat < 256 := byte.toNat_lt
    have hb : UInt8.ofNat (16 * (byte.toNat / 16) + byte.toNat % 16) = byte := by
      rw [Nat.div_add_mod]
      exact UInt8.ofNat_toNat
    rw [List.flatMap_cons, byteDigits]
    simp only [List.cons_append, List.nil_append, decodeDigits, ih,
      hexDigitAnyCase_digitChar (by omega : byte.toNat / 16 < 16),
      hexDigitAnyCase_digitChar (by omega : byte.toNat % 16 < 16)]
    show some (UInt8.ofNat (16 * (byte.toNat / 16) + byte.toNat % 16) :: bytes) = _
    rw [hb]

theorem decodeBytes_encodeBytes (bytes : List UInt8) :
    decodeBytes (encodeBytes bytes) = some bytes := by
  unfold decodeBytes encodeBytes
  rw [String.toList_ofList]
  exact decodeDigits_flatMap bytes

lemma digitChar_of_hexDigit (h : hexDigit c = some d) :
    d < 16 ∧ d.digitChar = c ∧ hexDigitAnyCase c = some d := by
  have hall : ∀ n < 128, (hexDigit (Char.ofNat n)).all fun d =>
      d < 16 ∧ d.digitChar = Char.ofNat n ∧ hexDigitAnyCase (Char.ofNat n) = some d := by
    decide
  have ha : c.toNat < 128 := by
    unfold hexDigit at h
    split_ifs at h with hd hl
    · have hle : c.toNat ≤ '9'.toNat := hd.2
      exact Nat.lt_of_le_of_lt hle (by decide)
    · have hle : c.toNat ≤ 'f'.toNat := hl.2
      exact Nat.lt_of_le_of_lt hle (by decide)
  have hc := hall c.toNat ha
  rw [Char.ofNat_toNat, h] at hc
  simpa using hc

lemma flatMap_of_decodeDigits {digits : List Char}
    (hl : ∀ c ∈ digits, (hexDigit c).isSome) (h : decodeDigits digits = some bytes) :
    bytes.flatMap byteDigits = digits := by
  induction digits using decodeDigits.induct generalizing bytes with
  | case1 =>
    obtain rfl := Option.some.inj h
    rfl
  | case2 high low rest ih =>
    rw [List.forall_mem_cons, List.forall_mem_cons] at hl
    obtain ⟨hh, hlow, hr⟩ := hl
    obtain ⟨a, ha⟩ := Option.isSome_iff_exists.mp hh
    obtain ⟨b, hb⟩ := Option.isSome_iff_exists.mp hlow
    obtain ⟨halt, hac, han⟩ := digitChar_of_hexDigit ha
    obtain ⟨hblt, hbc, hbn⟩ := digitChar_of_hexDigit hb
    simp only [decodeDigits, han, hbn, Option.bind_eq_bind, Option.bind_some,
      Option.bind_eq_some_iff] at h
    obtain ⟨bytes', hb', h⟩ := h
    obtain rfl := Option.some.inj h
    have hv : (UInt8.ofNat (16 * a + b)).toNat = 16 * a + b := by
      rw [UInt8.toNat_ofNat']
      omega
    rw [List.flatMap_cons, ih hr hb', byteDigits, hv,
      show (16 * a + b) / 16 = a by omega, show (16 * a + b) % 16 = b by omega, hac, hbc]
    rfl
  | case3 c => cases h

theorem encodeBytes_of_decodeBytes {text : String}
    (hl : ∀ c ∈ text.toList, (hexDigit c).isSome) (h : decodeBytes text = some bytes) :
    encodeBytes bytes = text := by
  unfold encodeBytes
  rw [flatMap_of_decodeDigits hl h]
  exact String.ofList_toList

lemma toList_encodeBytes (bytes : List UInt8) :
    (encodeBytes bytes).toList = bytes.flatMap byteDigits := by
  unfold encodeBytes
  rw [String.toList_ofList]

lemma length_toList_encodeBytes (bytes : List UInt8) :
    (encodeBytes bytes).toList.length = 2 * bytes.length := by
  rw [toList_encodeBytes]
  induction bytes with
  | nil => rfl
  | cons byte bytes ih =>
    rw [List.flatMap_cons, List.length_append, ih, byteDigits, List.length_cons, List.length_cons,
      List.length_nil, List.length_cons]
    omega

lemma isSome_hexDigit_of_mem (h : c ∈ (encodeBytes bytes).toList) :
    (hexDigit c).isSome := by
  rw [toList_encodeBytes, List.mem_flatMap] at h
  obtain ⟨byte, -, hc⟩ := h
  have hlt : byte.toNat < 256 := byte.toNat_lt
  rw [byteDigits, List.mem_cons, List.mem_singleton] at hc
  rcases hc with rfl | rfl
  · rw [hexDigit_digitChar (by omega)]
    rfl
  · rw [hexDigit_digitChar (by omega)]
    rfl

end KrustyKms.Codec

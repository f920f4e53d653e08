import KrustyKms.Codec.Text
import Mathlib.Data.List.Basic
import Mathlib.Tactic.Lemma

/-!
# RFC 4648 base64

The padded standard alphabet, decoded strictly: the padding has to be there and
the bits it stands for have to be zero.
-/

namespace KrustyKms.Codec.Rfc4648

def digit (n : ℕ) : Char :=
  if n < 26 then Char.ofNat (n + 65)
  else if n < 52 then Char.ofNat (n + 71)
  else if n < 62 then Char.ofNat (n - 4)
  else if n = 62 then '+'
  else '/'

def value (c : Char) : Option ℕ :=
  let n := c.toNat
  if 65 ≤ n ∧ n ≤ 90 then some (n - 65)
  else if 97 ≤ n ∧ n ≤ 122 then some (n - 71)
  else if 48 ≤ n ∧ n ≤ 57 then some (n + 4)
  else if n = 43 then some 62
  else if n = 47 then some 63
  else none

def encodeChars : List UInt8 → List Char
  | [] => []
  | [x] => [digit (x.toNat / 4), digit (x.toNat % 4 * 16), '=', '=']
  | [x, y] =>
    [digit (x.toNat / 4), digit (x.toNat % 4 * 16 + y.toNat / 16), digit (y.toNat % 16 * 4), '=']
  | x :: y :: z :: rest =>
    digit (x.toNat / 4) :: digit (x.toNat % 4 * 16 + y.toNat / 16) ::
      digit (y.toNat % 16 * 4 + z.toNat / 64) :: digit (z.toNat % 64) :: encodeChars rest

def decodeChars : List Char → Option (List UInt8)
  | [] => some []
  | c₀ :: c₁ :: c₂ :: c₃ :: rest => do
    let a ← value c₀
    let b ← value c₁
    if c₂ = '=' then
      -- one byte, in the first twelve bits
      if c₃ = '=' ∧ rest = [] ∧ b % 16 = 0 then some [UInt8.ofNat (a * 4 + b / 16)] else none
    else do
      let c ← value c₂
      if c₃ = '=' then
        -- two bytes, in the first eighteen bits
        if rest = [] ∧ c % 4 = 0 then
          some [UInt8.ofNat (a * 4 + b / 16), UInt8.ofNat (b % 16 * 16 + c / 4)]
        else none
      else do
        let d ← value c₃
        let tail ← decodeChars rest
        some (UInt8.ofNat (a * 4 + b / 16) :: UInt8.ofNat (b % 16 * 16 + c / 4) ::
          UInt8.ofNat (c % 4 * 64 + d) :: tail)
  | _ => none

def encode (bytes : List UInt8) : String := String.ofList (encodeChars bytes)

def decode (text : String) : Option (List UInt8) := decodeChars text.toList

/-! ## Round trip -/

lemma value_digit {n : ℕ} (h : n < 64) : value (digit n) = some n := by
  have hall : ∀ m : Fin 64, value (digit m) = some m := by decide
  exact hall ⟨n, h⟩

lemma digit_ne_pad {n : ℕ} (h : n < 64) : digit n ≠ '=' := by
  have hall : ∀ m : Fin 64, digit m ≠ '=' := by decide
  exact hall ⟨n, h⟩

lemma utf8Size_digit {n : ℕ} (h : n < 64) : (digit n).utf8Size = 1 := by
  have hall : ∀ m : Fin 64, (digit m).utf8Size = 1 := by decide
  exact hall ⟨n, h⟩

lemma ofNat_eq (x : UInt8) {n : ℕ} (h : n = x.toNat) : UInt8.ofNat n = x := by
  rw [h]
  exact UInt8.ofNat_toNat

lemma decodeChars_encodeChars (bytes : List UInt8) :
    decodeChars (encodeChars bytes) = some bytes := by
  induction bytes using encodeChars.induct with
  | case1 => rfl
  | case2 x =>
    have hx := x.toNat_lt
    simp only [encodeChars, decodeChars]
    rw [value_digit (by omega), value_digit (by omega)]
    simp only [Option.bind_eq_bind, Option.bind_some]
    rw [if_pos trivial, if_pos ⟨trivial, trivial, by omega⟩, ofNat_eq x (by omega)]
  | case3 x y =>
    have hx := x.toNat_lt
    have hy := y.toNat_lt
    simp only [encodeChars, decodeChars]
    rw [value_digit (by omega), value_digit (by omega), value_digit (by omega)]
    simp only [Option.bind_eq_bind, Option.bind_some]
    rw [if_neg (digit_ne_pad (by omega)), if_pos trivial, if_pos ⟨trivial, by omega⟩,
      ofNat_eq x (by omega), ofNat_eq y (by omega)]
  | case4 x y z rest ih =>
    have hx := x.toNat_lt
    have hy := y.toNat_lt
    have hz := z.toNat_lt
    simp only [encodeChars, decodeChars]
    rw [value_digit (by omega), value_digit (by omega), value_digit (by omega),
      value_digit (by omega), ih]
    simp only [Option.bind_eq_bind, Option.bind_some]
    rw [if_neg (digit_ne_pad (by omega)), if_neg (digit_ne_pad (by omega)),
      ofNat_eq x (by omega), ofNat_eq y (by omega), ofNat_eq z (by omega)]

theorem decode_encode (bytes : List UInt8) : decode (encode bytes) = some bytes := by
  unfold decode encode
  rw [String.toList_ofList]
  exact decodeChars_encodeChars bytes

lemma head?_encode (byte : UInt8) (bytes : List UInt8) :
    (encode (byte :: bytes)).toList.head? = some (digit (byte.toNat / 4)) := by
  unfold encode
  rw [String.toList_ofList]
  match bytes with
  | [] => rfl
  | [_] => rfl
  | _ :: _ :: _ => rfl

/-! ## Length -/

lemma length_encodeChars (bytes : List UInt8) :
    (encodeChars bytes).length = (bytes.length + 2) / 3 * 4 := by
  induction bytes using encodeChars.induct with
  | case1 => rfl
  | case2 x => simp [encodeChars]
  | case3 x y => simp [encodeChars]
  | case4 x y z rest ih =>
    simp only [encodeChars, List.length_cons]
    omega

lemma mem_encodeChars {bytes : List UInt8} {c : Char} (h : c ∈ encodeChars bytes) :
    c = '=' ∨ ∃ n < 64, c = digit n := by
  induction bytes using encodeChars.induct with
  | case1 => simp [encodeChars] at h
  | case2 x =>
    have hx := x.toNat_lt
    simp only [encodeChars, List.mem_cons, List.not_mem_nil, or_false] at h
    rcases h with h | h | h | h
    · exact .inr ⟨_, by omega, h⟩
    · exact .inr ⟨_, by omega, h⟩
    · exact .inl h
    · exact .inl h
  | case3 x y =>
    have hx := x.toNat_lt
    have hy := y.toNat_lt
    simp only [encodeChars, List.mem_cons, List.not_mem_nil, or_false] at h
    rcases h with h | h | h | h
    · exact .inr ⟨_, by omega, h⟩
    · exact .inr ⟨_, by omega, h⟩
    · exact .inr ⟨_, by omega, h⟩
    · exact .inl h
  | case4 x y z rest ih =>
    have hx := x.toNat_lt
    have hy := y.toNat_lt
    have hz := z.toNat_lt
    simp only [encodeChars, List.mem_cons] at h
    rcases h with h | h | h | h | h
    · exact .inr ⟨_, by omega, h⟩
    · exact .inr ⟨_, by omega, h⟩
    · exact .inr ⟨_, by omega, h⟩
    · exact .inr ⟨_, by omega, h⟩
    · exact ih h

lemma utf8Size_of_mem_encodeChars {bytes : List UInt8} {c : Char} (h : c ∈ encodeChars bytes) :
    c.utf8Size = 1 := by
  rcases mem_encodeChars h with rfl | ⟨n, hn, rfl⟩
  · decide
  · exact utf8Size_digit hn

theorem utf8ByteSize_encode (bytes : List UInt8) :
    (encode bytes).utf8ByteSize = (bytes.length + 2) / 3 * 4 := by
  unfold encode
  rw [utf8ByteSize_ofList, textSize_of_ascii fun c => utf8Size_of_mem_encodeChars,
    length_encodeChars]

end KrustyKms.Codec.Rfc4648

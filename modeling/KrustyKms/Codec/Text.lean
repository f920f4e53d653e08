import Mathlib.Algebra.BigOperators.Group.List.Basic
import Mathlib.Algebra.Ring.Nat

/-!
# Sizes of texts, and their blanks

The bytes that characters take in UTF-8, without their encoding, and the blanks around a text.
-/

namespace KrustyKms.Codec

def textSize (chars : List Char) : ℕ := (chars.map Char.utf8Size).sum

@[simp] lemma textSize_nil : textSize [] = 0 := rfl

@[simp] lemma textSize_cons (c : Char) (chars : List Char) :
    textSize (c :: chars) = c.utf8Size + textSize chars := by
  simp [textSize]

@[simp] lemma textSize_append (front back : List Char) :
    textSize (front ++ back) = textSize front + textSize back := by
  simp [textSize]

lemma utf8ByteSize_ofList (chars : List Char) :
    (String.ofList chars).utf8ByteSize = textSize chars := by
  induction chars with
  | nil => rfl
  | cons c chars ih =>
    have hc : String.ofList (c :: chars) = String.singleton c ++ String.ofList chars := by
      apply String.toList_inj.mp
      simp
    rw [hc, String.utf8ByteSize_append, String.utf8ByteSize_singleton, ih, textSize_cons]

lemma textSize_toList (text : String) : textSize text.toList = text.utf8ByteSize := by
  rw [← utf8ByteSize_ofList, String.ofList_toList]

lemma textSize_of_ascii {chars : List Char} (h : ∀ c ∈ chars, c.utf8Size = 1) :
    textSize chars = chars.length := by
  induction chars with
  | nil => rfl
  | cons c chars ih =>
    rw [List.forall_mem_cons] at h
    rw [textSize_cons, h.1, ih h.2, List.length_cons, Nat.add_comm]

/-! ## Blanks -/

def isWhitespace (c : Char) : Bool :=
  (9 ≤ c.toNat ∧ c.toNat ≤ 13) ∨ c.toNat ∈ [0x20, 0x85, 0xa0, 0x1680] ∨
    (0x2000 ≤ c.toNat ∧ c.toNat ≤ 0x200a) ∨ c.toNat ∈ [0x2028, 0x2029, 0x202f, 0x205f, 0x3000]

def trim (text : String) : String :=
  String.ofList (((text.toList.dropWhile isWhitespace).reverse.dropWhile isWhitespace).reverse)

lemma trim_eq_self {text : String} (h : ∀ c ∈ text.toList, isWhitespace c = false) :
    trim text = text := by
  have hk : ∀ chars : List Char, (∀ c ∈ chars, isWhitespace c = false) →
      chars.dropWhile isWhitespace = chars := by
    intro chars hc
    cases chars with
    | nil => rfl
    | cons c chars =>
      rw [List.dropWhile_cons_of_neg]
      simp [hc c List.mem_cons_self]
  unfold trim
  rw [hk _ h, hk _ (by simpa using h), List.reverse_reverse, String.ofList_toList]

end KrustyKms.Codec

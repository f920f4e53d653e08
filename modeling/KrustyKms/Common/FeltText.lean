import KrustyKms.Codec.Hex
import KrustyKms.Crypto.Scalar

/-!
# Felts and public keys as text

The workspace writes felts in hexadecimal, with and without leading zeros, and reads them with
`Felt::from_hex` or through `serde`.
-/

namespace KrustyKms.Crypto

open Codec

def Felt.toHex (felt : Felt) : String := "0x" ++ lowerHex felt.val

def Felt.fixedDigits (felt : Felt) : List Char :=
  List.replicate (64 - (Nat.toDigits 16 felt.val).length) '0' ++ Nat.toDigits 16 felt.val

def Felt.toFixedHex (felt : Felt) : String := "0x" ++ String.ofList felt.fixedDigits

lemma toList_numeral (digits : List Char) :
    ("0x" ++ String.ofList digits).toList = '0' :: 'x' :: digits := by
  rw [String.toList_append, show (String.ofList digits).toList = digits from String.toList_ofList]
  rfl

/-- `Felt::from_hex`, with the text of its error. -/
class FeltParser where
  fromHex : String → Except String Felt

namespace FeltParser

/-- Numerals of at most 64 lowercase digits below the field prime are read as their value. -/
def Exact [FeltParser] : Prop :=
  ∀ (digits : List Char) (n : ℕ), readHex digits = some n → digits.length ≤ 64 →
    n < fieldPrime → fromHex ("0x" ++ String.ofList digits) = .ok (n : Felt)

lemma length_digits_le (felt : Felt) : (Nat.toDigits 16 felt.val).length ≤ 64 := by
  have hlt := ZMod.val_lt felt
  have hs : fieldPrime < 16 ^ 64 := by decide
  rw [Nat.length_toDigits_le_iff (by decide) (by decide)]
  omega

lemma length_fixedDigits (felt : Felt) : felt.fixedDigits.length = 64 := by
  have hle := length_digits_le felt
  unfold Felt.fixedDigits
  rw [List.length_append, List.length_replicate]
  omega

lemma isHexDigit_of_mem_fixedDigits {felt : Felt} {c : Char} (h : c ∈ felt.fixedDigits) :
    isHexDigit c = true := by
  rw [Felt.fixedDigits, List.mem_append] at h
  rcases h with h | h
  · rw [List.eq_of_mem_replicate h]
    decide
  · exact isHexDigit_of_mem_toDigits h

variable [FeltParser]

lemma Exact.fromHex_toHex (h : Exact) (felt : Felt) : fromHex felt.toHex = .ok felt := by
  have hr := readHex_replicate 0 felt.val
  have hp := h _ _ hr (length_digits_le felt) (ZMod.val_lt felt)
  rwa [ZMod.natCast_zmod_val] at hp

lemma Exact.fromHex_toFixedHex (h : Exact) (felt : Felt) :
    fromHex felt.toFixedHex = .ok felt := by
  have hl := length_digits_le felt
  have hr := readHex_replicate (64 - (Nat.toDigits 16 felt.val).length) felt.val
  have hp := h _ _ hr (by simp; omega) (ZMod.val_lt felt)
  rwa [ZMod.natCast_zmod_val] at hp

end FeltParser

/-- `Felt`'s `Deserialize`, on text. -/
class FeltSerde where
  deserialize : String → Option Felt

/-- The numerals that the parser reads are deserialized too. -/
def FeltSerde.Exact [FeltSerde] : Prop :=
  ∀ (digits : List Char) (n : ℕ), readHex digits = some n → digits.length ≤ 64 →
    n < fieldPrime → deserialize ("0x" ++ String.ofList digits) = some (n : Felt)

lemma FeltSerde.Exact.deserialize_toFixedHex [FeltSerde] (h : FeltSerde.Exact) (felt : Felt) :
    deserialize felt.toFixedHex = some felt := by
  have hl := FeltParser.length_digits_le felt
  have hr := readHex_replicate (64 - (Nat.toDigits 16 felt.val).length) felt.val
  have hp := h _ _ hr (by simp; omega) (ZMod.val_lt felt)
  rwa [ZMod.natCast_zmod_val] at hp

/-! ## Public keys -/

section PublicKeys

variable [FeltParser]

def parsePublicKeyDigits (digits : List Char) : Result (Felt × Felt) := do
  if ¬ digits.all isHexDigit then
    throw (.invalidPublicKey "Public key must contain only hex digits")
  if digits.length ≠ 128 then
    throw (.invalidPublicKey s!"Expected 128 hex chars, got {digits.length}")
  let (xHex, yHex) := digits.splitAt 64
  let x ← (FeltParser.fromHex ("0x" ++ String.ofList xHex)).mapError .invalidPublicKey
  let y ← (FeltParser.fromHex ("0x" ++ String.ofList yHex)).mapError .invalidPublicKey
  pure (x, y)

def parsePrefixedPublicKeyHex (hex : String) : Result (Felt × Felt) :=
  match hex.toList with
  | '0' :: 'x' :: digits => parsePublicKeyDigits digits
  | '0' :: 'X' :: digits => parsePublicKeyDigits digits
  | _ => .error (.invalidPublicKey "Public key must start with 0x")

def publicKeyHex (x y : Felt) : String := "0x" ++ String.ofList (x.fixedDigits ++ y.fixedDigits)

lemma parsePrefixedPublicKeyHex_publicKeyHex (h : FeltParser.Exact) (x y : Felt) :
    parsePrefixedPublicKeyHex (publicKeyHex x y) = .ok (x, y) := by
  have hx := h.fromHex_toFixedHex x
  have hy := h.fromHex_toFixedHex y
  have hl := FeltParser.length_fixedDigits x
  have hly := FeltParser.length_fixedDigits y
  have hall : (x.fixedDigits ++ y.fixedDigits).all isHexDigit = true := by
    rw [List.all_eq_true]
    intro c hc
    rcases List.mem_append.mp hc with hc | hc
    · exact FeltParser.isHexDigit_of_mem_fixedDigits hc
    · exact FeltParser.isHexDigit_of_mem_fixedDigits hc
  have hs : (x.fixedDigits ++ y.fixedDigits).splitAt 64 = (x.fixedDigits, y.fixedDigits) := by
    rw [List.splitAt_eq, ← hl, List.take_left, List.drop_left]
  rw [Felt.toFixedHex] at hx hy
  unfold parsePrefixedPublicKeyHex publicKeyHex
  simp only [toList_numeral]
  unfold parsePublicKeyDigits
  rw [if_neg (not_not.mpr hall), if_neg (by rw [List.length_append, hl, hly]; decide),
    hs]
  simp only [hx, hy]
  rfl

end PublicKeys

@[reducible] def numeralParser : FeltParser where
  fromHex text :=
    match text.toList with
    | '0' :: 'x' :: digits =>
      match readHex digits with
      | some n => if n < fieldPrime then .ok (n : Felt) else .error "number too large"
      | none => .error "invalid hex digit"
    | _ => .error "missing prefix"

lemma numeralParser_exact : @FeltParser.Exact numeralParser := by
  intro digits n hr _ hlt
  unfold numeralParser FeltParser.fromHex
  simp only [toList_numeral, hr, if_pos hlt]

@[reducible] def numeralSerde : FeltSerde := ⟨fun text => (numeralParser.fromHex text).toOption⟩

lemma numeralSerde_exact : @FeltSerde.Exact numeralSerde := by
  intro digits n hr hl hlt
  show (numeralParser.fromHex ("0x" ++ String.ofList digits)).toOption = some (n : Felt)
  rw [numeralParser_exact digits n hr hl hlt]
  rfl

end KrustyKms.Crypto

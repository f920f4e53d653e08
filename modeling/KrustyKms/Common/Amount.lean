import KrustyKms.Codec.Text
import KrustyKms.Common.JsonText

/-!
# Precision-safe token amount representation
-/

namespace KrustyKms

open Codec (trim textSize)

/-- A token amount with associated decimal precision: the raw (smallest-unit) value and the
number of decimals. -/
structure Amount where
  raw : Fin (2 ^ 128)
  decimals : UInt8
deriving DecidableEq, Repr

namespace Amount

def checked (n : ℕ) : Option (Fin (2 ^ 128)) :=
  if h : n < 2 ^ 128 then some ⟨n, h⟩ else none

def parseU128 (text : List Char) : Option (Fin (2 ^ 128)) :=
  let digits := match text with
    | '+' :: digits => digits
    | digits => digits
  if digits ≠ [] ∧ digits.all Char.isDigit then checked (decimalValue digits) else none

def okOr {α : Type} (value : Option α) (message : String) : Result α :=
  match value with
  | some value => .ok value
  | none => .error (.invalidAmount message)

def integerValue (integerPart : List Char) (s : String) : Result (Fin (2 ^ 128)) :=
  if integerPart = [] then .ok 0 else okOr (parseU128 integerPart) s!"invalid number: {s}"

def fromHuman (s : String) (decimals : UInt8) : Result Amount := do
  let s := trim s
  let factor ← okOr (checked (10 ^ decimals.toNat)) "decimals too large"
  let raw ← match s.toList.dropWhile (· != '.') with
    | _ :: fracPart => do
      let integerPart := s.toList.takeWhile (· != '.')
      if textSize fracPart > decimals.toNat then
        throw (.invalidAmount s!"too many decimal places (max {decimals})")
      let intVal ← integerValue integerPart s
      let paddedFrac :=
        fracPart ++ List.replicate (decimals.toNat - fracPart.length) '0'
      let fracVal ← okOr (parseU128 paddedFrac) s!"invalid fraction: {s}"
      okOr ((checked (intVal.val * factor.val)).bind fun v => checked (v.val + fracVal.val))
        "overflow"
    | [] => do
      let intVal ← okOr (parseU128 s.toList) s!"invalid number: {s}"
      okOr (checked (intVal.val * factor.val)) "overflow"
  pure ⟨raw, decimals⟩

def zeroPadded (width n : ℕ) : List Char :=
  List.replicate (width - (Nat.toDigits 10 n).length) '0' ++ Nat.toDigits 10 n

def trimEndZeros (digits : List Char) : List Char :=
  (digits.reverse.dropWhile (· == '0')).reverse

def toHuman (amount : Amount) : String :=
  let decimals := amount.decimals.toNat
  if decimals = 0 then toString amount.raw.val
  else match checked (10 ^ decimals) with
    | none =>
      -- The integer part is always zero here, and only the fraction is rendered.
      let trimmed := trimEndZeros (zeroPadded decimals amount.raw.val)
      if trimmed = [] then "0.0" else "0." ++ String.ofList trimmed
    | some factor =>
      let integer := amount.raw.val / factor.val
      let fraction := amount.raw.val % factor.val
      if fraction = 0 then toString integer ++ ".0"
      else toString integer ++ "." ++ String.ofList (trimEndZeros (zeroPadded decimals fraction))

end Amount

end KrustyKms

import KrustyKms.Common.Amount
import Mathlib.Algebra.Ring.Nat

/-!
# Unit conversion utilities

Base units, Tongo units and STRK. A rate is the number of base units in one Tongo unit.
-/

namespace KrustyKms

open Amount (checked okOr zeroPadded)

def strkDecimals : UInt8 := 18

def divCeil (a b : Fin (2 ^ 128)) : Fin (2 ^ 128) :=
  if 0 < a.val % b.val then ⟨(a.val / b.val + 1) % 2 ^ 128, Nat.mod_lt _ (by decide)⟩ else a / b

def validateRate (rate : Fin (2 ^ 128)) : Result Unit :=
  if rate = 0 then .error (.invalidAmount "Rate must be greater than zero") else .ok ()

def friToStrk (fri : Fin (2 ^ 128)) : Amount := ⟨fri, strkDecimals⟩

def baseUnitsToTongo (amount rate : Fin (2 ^ 128)) : Result (Fin (2 ^ 128)) := do
  validateRate rate
  pure (divCeil amount rate)

def tongoToBaseUnits (tongoAmount rate : Fin (2 ^ 128)) : Result (Fin (2 ^ 128)) := do
  validateRate rate
  okOr (checked (tongoAmount.val * rate.val)) "Amount overflow"

def tongoToStrk (tongoAmount rate : Fin (2 ^ 128)) : Result Amount := do
  let fri ← tongoToBaseUnits tongoAmount rate
  pure (friToStrk fri)

def tenPow (exp : ℕ) : Result (Fin (2 ^ 128)) := okOr (checked (10 ^ exp)) "Amount overflow"

def roundDiv (value divisor : Fin (2 ^ 128)) : Result (Fin (2 ^ 128)) := do
  let half := divisor.val / 2
  let adjusted ← okOr (checked (value.val + half)) "Amount overflow"
  pure (adjusted / divisor)

def formatScaledInteger (value : Fin (2 ^ 128)) (scale : UInt8) : Result String := do
  let factor ← tenPow scale.toNat
  let integer := value.val / factor.val
  let fraction := value.val % factor.val
  pure (toString integer ++ "." ++ String.ofList (zeroPadded scale.toNat fraction))

def formatAmountWithScale (amount : Amount) (scale : UInt8) : Result String := do
  let decimals := amount.decimals
  if scale = 0 then
    let divisor ← tenPow decimals.toNat
    let rounded ← roundDiv amount.raw divisor
    pure (toString rounded.val)
  else if decimals > scale then
    let divisor ← tenPow (decimals - scale).toNat
    let rounded ← roundDiv amount.raw divisor
    formatScaledInteger rounded scale
  else
    let multiplier ← tenPow (scale - decimals).toNat
    let scaled ← okOr (checked (amount.raw.val * multiplier.val)) "Amount overflow"
    formatScaledInteger scaled scale

def formatTongoBalance (tongoAmount rate : Fin (2 ^ 128)) : Result String := do
  let strk ← tongoToStrk tongoAmount rate
  let text ← formatAmountWithScale strk 2
  pure (text ++ " STRK")

end KrustyKms

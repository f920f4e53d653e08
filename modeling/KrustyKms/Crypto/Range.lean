import KrustyKms.Crypto.Bit
import KrustyKms.Support.MayPanic

/-!
# Range proofs

A value is committed to bit by bit and each commitment carries a bit proof; the verifier
recombines the commitments with powers of two.
-/

namespace KrustyKms.Crypto

open StarkCurve Support MayPanic

variable {Point : Type}

structure Range where
  commitments : List SerializablePoint
  proofs : List ProofOfBit
deriving DecidableEq

namespace Range

def powerOfTwo (i : ℕ) : MayPanic KmsError ℕ :=
  ExceptT.lift (if i < 128 then some (2 ^ i) else none)

def maxValue (bitSize : ℕ) : MayPanic KmsError ℕ :=
  -- `u128::MAX`: the shift below would panic
  if bitSize = 128 then pure (2 ^ 128 - 1) else do
    let pow ← powerOfTwo bitSize
    pure (pow - 1)

def addRandomness (r : Felt) (entry : Felt × ℕ) : MayPanic KmsError Felt := do
  let (rInn, i) := entry
  let pow ← powerOfTwo i
  let rInnPow ← scalarMul pow rInn
  scalarAdd r rInnPow

def computeTotalRandomness (randomValues : List Felt) : MayPanic KmsError Felt := do
  if randomValues.length > 128 then
    throw (.cryptoError s!"random_values length {randomValues.length} exceeds maximum 128")
  randomValues.zipIdx.foldlM addRandomness 0

variable [CurvePoint Point] [Poseidon]

def proveBit (draws : ℕ → Bit.Draws) (b : ℕ) (g1 g2 : Point) (initialPrefix : Felt)
    (randomValues : List Felt) (i : ℕ) : MayPanic KmsError (Point × ProofOfBit × Felt) := do
  let bit := UInt8.ofNat ((b >>> i) &&& 1)
  let rInn ← index randomValues i
  let prefixFelt := initialPrefix + (i : Felt)
  let (v, proof) ← Bit.prove (draws i) bit rInn g1 g2 prefixFelt
  pure (v, proof, rInn)

def accumulate (acc : List ProofOfBit × List SerializablePoint × Felt)
    (entry : (Point × ProofOfBit × Felt) × ℕ) :
    MayPanic KmsError (List ProofOfBit × List SerializablePoint × Felt) := do
  let (proofs, commitments, r) := acc
  let ((v, proof, rInn), i) := entry
  let pow ← powerOfTwo i
  let commitment ← SerializablePoint.tryFromProjective v
  let rInnPow ← scalarMul pow rInn
  let r ← scalarAdd r rInnPow
  pure (proofs ++ [proof], commitments ++ [commitment], r)

/-- Generates a range proof from given random values, with `draws i` for the random
choices of the bit proof at index `i`; returns the proof and the total randomness. -/
def proveWithRandomness (draws : ℕ → Bit.Draws) (b bitSize : ℕ) (g1 g2 : Point)
    (initialPrefix : Felt) (randomValues : List Felt) : MayPanic KmsError (Range × Felt) := do
  if bitSize > 128 then
    throw (.cryptoError s!"bit_size {bitSize} exceeds maximum 128")
  if randomValues.length ≠ bitSize then
    throw (.cryptoError s!"random_values length {randomValues.length} != bit_size {bitSize}")
  let max ← maxValue bitSize
  if b > max then
    throw (.cryptoError s!"Value {b} is not in range [0, {max}]")
  let bitResults ←
    (List.range bitSize).mapM (proveBit draws b g1 g2 initialPrefix randomValues)
  let (proofs, commitments, r) ← bitResults.zipIdx.foldlM accumulate ([], [], 0)
  pure ({ commitments, proofs }, r)

def verifyBit (range : Range) (g1 g2 : Point) (initialPrefix : Felt) (i : ℕ) :
    MayPanic KmsError Point := do
  let commitment ← index range.commitments i
  let vCommitment ← (commitment.toAffine : Result (AffinePoint Point))
  let v := affineToProjective vCommitment
  let proof ← index range.proofs i
  if !(← Bit.verify v g1 g2 proof (initialPrefix + (i : Felt))) then
    throw (.cryptoError s!"Bit proof failed at index {i}")
  pure v

def verifyRound (range : Range) (g1 g2 : Point) (initialPrefix : Felt) (vTotal : Point) (i : ℕ) :
    MayPanic KmsError Point := do
  let pow ← powerOfTwo i
  let v ← verifyBit range g1 g2 initialPrefix i
  let vPow := mul pow (some v)
  pure (add vTotal vPow)

def verify (range : Range) (bitSize : ℕ) (g1 g2 : Point) (initialPrefix : Felt) :
    MayPanic KmsError Point := do
  if range.commitments.length ≠ bitSize ∨ range.proofs.length ≠ bitSize then
    throw (.cryptoError (s!"Length mismatch: commitments={range.commitments.length}, " ++
      s!"proofs={range.proofs.length}, bit_size={bitSize}"))
  let v0 ← verifyBit range g1 g2 initialPrefix 0
  (List.range' 1 (bitSize - 1)).foldlM (verifyRound range g1 g2 initialPrefix) v0

end Range

end KrustyKms.Crypto

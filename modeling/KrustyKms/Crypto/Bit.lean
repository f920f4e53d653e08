import KrustyKms.Crypto.Hash

/-!
# Bit proofs

A bit proof says that a commitment `V = b g1 + r g2` holds a bit, as a disjunction of two proofs
of exponentiation to the base `g2`: of `V`, and of `V - g1`.
-/

namespace KrustyKms.Crypto

variable {Point : Type} [CurvePoint Point]

open StarkCurve

namespace ProofOfExponentiation

def verifyInternal (y gen a : Point) (c s : Felt) : Result Bool := do
  let lhs := mul s (some gen)
  let yC := mul c (some y)
  let rhs := add a yC
  let lhsAffine ← projectiveToAffine lhs
  let rhsAffine ← projectiveToAffine rhs
  pure (decide (lhsAffine = rhsAffine))

end ProofOfExponentiation

structure ProofOfBit where
  a0 : SerializablePoint
  a1 : SerializablePoint
  c0 : Felt
  s0 : Felt
  s1 : Felt
deriving DecidableEq

namespace Bit

/-- What `random_felt` returns during one proof, in the order of the calls: the
response and the challenge of the simulated branch, then the nonce of the other. -/
structure Draws where
  s : Felt
  c : Felt
  k : Felt

def negate (point : Point) : Result Point := do
  let affine ← projectiveToAffine point
  match (AffinePoint.new affine.x (-affine.y) : Except String (AffinePoint Point)) with
  | .ok negated => pure (affineToProjective negated)
  | .error e => .error (.cryptoError s!"Point negation failed: {e}")

def simulatePoe (draws : Draws) (y gen : Point) : Result (Point × Felt × Felt) := do
  let genS := mul draws.s (some gen)
  let yC := mul draws.c (some y)
  let negYC ← negate yC
  let a := add genS negYC
  pure (a, draws.c, draws.s)

variable [Poseidon]

def proveBit0 (draws : Draws) (random : Felt) (g1 g2 : Point) (prefixFelt : Felt) :
    Result (Point × ProofOfBit) := do
  let v := mul random (some g2)
  let negG1 ← negate g1
  let v1 := add v negG1
  let (a1, c1, s1) ← simulatePoe draws v1 g2
  let a0 := mul draws.k (some g2)
  let c ← computePoseidonChallenge prefixFelt [v, a0, a1]
  let c0 ← scalarSub c c1
  let s0 ← scalarAdd draws.k (← scalarMul c0 random)
  let proof := {
    a0 := ← SerializablePoint.tryFromProjective a0
    a1 := ← SerializablePoint.tryFromProjective a1
    c0, s0, s1 }
  pure (v, proof)

def proveBit1 (draws : Draws) (random : Felt) (g1 g2 : Point) (prefixFelt : Felt) :
    Result (Point × ProofOfBit) := do
  let g2R := mul random (some g2)
  let v := add g1 g2R
  let (a0, c0, s0) ← simulatePoe draws v g2
  let a1 := mul draws.k (some g2)
  let c ← computePoseidonChallenge prefixFelt [v, a0, a1]
  let c1 ← scalarSub c c0
  let s1 ← scalarAdd draws.k (← scalarMul c1 random)
  let proof := {
    a0 := ← SerializablePoint.tryFromProjective a0
    a1 := ← SerializablePoint.tryFromProjective a1
    c0, s0, s1 }
  pure (v, proof)

def prove (draws : Draws) (bit : UInt8) (random : Felt) (g1 g2 : Point) (prefixFelt : Felt) :
    Result (Point × ProofOfBit) :=
  if bit = 0 then proveBit0 draws random g1 g2 prefixFelt
  else if bit = 1 then proveBit1 draws random g1 g2 prefixFelt
  else .error (.cryptoError "Bit must be 0 or 1")

def verify (v g1 g2 : Point) (proof : ProofOfBit) (prefixFelt : Felt) : Result Bool := do
  let a0 ← (proof.a0.toAffine : Result (AffinePoint Point))
  let a1 ← (proof.a1.toAffine : Result (AffinePoint Point))
  let a0Proj := affineToProjective a0
  let a1Proj := affineToProjective a1
  let c ← computePoseidonChallenge prefixFelt [v, a0Proj, a1Proj]
  let c1 ← scalarSub c proof.c0
  if !(← ProofOfExponentiation.verifyInternal v g2 a0Proj proof.c0 proof.s0) then
    return false
  let negG1 ← negate g1
  let v1 := add v negG1
  if !(← ProofOfExponentiation.verifyInternal v1 g2 a1Proj c1 proof.s1) then
    return false
  return true

end Bit

end KrustyKms.Crypto

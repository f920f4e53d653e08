import KrustyKms.Crypto.Elgamal
import KrustyKms.Crypto.Hash

/-!
# ElGamal encryption with a proof, and small plaintexts

`encrypt` returns a ciphertext with a proof that its maker knows the message and the randomness.
-/

namespace KrustyKms.Crypto

open StarkCurve

variable {Point : Type} [CurvePoint Point]

structure ElGamalProof where
  al : SerializablePoint
  ar : SerializablePoint
  sb : Felt
  sr : Felt
  c : Felt
deriving DecidableEq

structure ElGamalEncryption (Point : Type) where
  l : Point
  r : Point
  proof : ElGamalProof
deriving DecidableEq

namespace ElGamal

/-! ## Encryption -/

/-- The shape of the Fiat-Shamir transcript. -/
inductive Transcript where
  | legacy
  | strong
deriving DecidableEq

/-- What `random_felt` returns during one proof, in the order of the calls. -/
structure Draws where
  rB : Felt
  rR : Felt

section Proof

variable [Pedersen]

def Transcript.challenge (transcript : Transcript) (prefixFelt : Felt)
    (publicKey l r aL aR : Point) : Result Felt :=
  match transcript with
  | legacy => computeChallengeTriple prefixFelt l r aL
  | strong => computeChallenge prefixFelt [publicKey, l, r, aL, aR]

def proveEncryption (draws : Draws) (message random : Felt) (publicKey l r : Point)
    (prefixFelt : Felt) (transcript : Transcript) : Result ElGamalProof := do
  let g : Point := generator
  let gRb := mul draws.rB (some g)
  let pkRr := mul draws.rR (some publicKey)
  let aL := add gRb pkRr
  let aR := mul draws.rR (some g)
  let c ← transcript.challenge prefixFelt publicKey l r aL aR
  let cMessage ← scalarMul c message
  let sB ← scalarAdd draws.rB cMessage
  let cRandom ← scalarMul c random
  let sR ← scalarAdd draws.rR cRandom
  pure {
    al := ← SerializablePoint.tryFromProjective aL
    ar := ← SerializablePoint.tryFromProjective aR
    sb := sB
    sr := sR
    c }

def encryptWithTranscript (draws : Draws) (message : Felt) (publicKey : Point) (random : Felt)
    (prefixFelt : Felt) (transcript : Transcript) : Result (ElGamalEncryption Point) := do
  let g : Point := generator
  let gM := mul message (some g)
  let pkR := mul random (some publicKey)
  let l := add gM pkR
  let r := mul random (some g)
  let proof ← proveEncryption draws message random publicKey l r prefixFelt transcript
  pure { l, r, proof }

def encrypt (draws : Draws) (message : Felt) (publicKey : Point) (random prefixFelt : Felt) :
    Result (ElGamalEncryption Point) :=
  encryptWithTranscript draws message publicKey random prefixFelt .legacy

def encryptStrong (draws : Draws) (message : Felt) (publicKey : Point)
    (random prefixFelt : Felt) : Result (ElGamalEncryption Point) :=
  encryptWithTranscript draws message publicKey random prefixFelt .strong

def verifyInner (l r publicKey : Point) (proof : ElGamalProof) (prefixFelt : Felt)
    (transcript : Transcript) : Result Bool := do
  let g : Point := generator
  let aL := affineToProjective (← (proof.al.toAffine : Result (AffinePoint Point)))
  let aR := affineToProjective (← (proof.ar.toAffine : Result (AffinePoint Point)))
  let cComputed ← transcript.challenge prefixFelt publicKey l r aL aR
  if proof.c ≠ cComputed then
    return false
  let lhs1 := mul proof.sr (some g)
  let rC := mul proof.c (some r)
  let rhs1 := add aR rC
  let lhs1Affine ← projectiveToAffine lhs1
  let rhs1Affine ← projectiveToAffine rhs1
  if lhs1Affine ≠ rhs1Affine then
    return false
  let gSb := mul proof.sb (some g)
  let pkSr := mul proof.sr (some publicKey)
  let lhs2 := add gSb pkSr
  let lC := mul proof.c (some l)
  let rhs2 := add aL lC
  let lhs2Affine ← projectiveToAffine lhs2
  let rhs2Affine ← projectiveToAffine rhs2
  return decide (lhs2Affine = rhs2Affine)

def verify (l r publicKey : Point) (proof : ElGamalProof) (prefixFelt : Felt) : Result Bool :=
  verifyInner l r publicKey proof prefixFelt .legacy

def verifyStrong (l r publicKey : Point) (proof : ElGamalProof) (prefixFelt : Felt) :
    Result Bool :=
  verifyInner l r publicKey proof prefixFelt .strong

end Proof

/-! ## Small plaintexts -/

/-- The loop of `recover_small_discrete_log`, with the values that are left to try, the next
of them and its multiple of the generator. -/
def searchFrom (maxSearch : ℕ) (target : AffinePoint Point) : ℕ → ℕ → Point → Result ℕ
  | 0, _, _ => .error (.cryptoError
      s!"Failed to recover balance within search limit of {maxSearch}")
  | left + 1, value, current => do
    let affine ← projectiveToAffine current
    if affine = target then
      return value
    searchFrom maxSearch target left (value + 1) (add current generator)

def recoverSmallDiscreteLog (point : Point) (maxSearch : ℕ) : Result ℕ := do
  if (toAffine point).isNone then
    return 0
  let targetAffine ← projectiveToAffine point
  searchFrom maxSearch targetAffine maxSearch 1 generator

def decryptBalanceWithLimit (ciphertext : ElGamalCiphertext Point) (privateKey : Felt)
    (maxSearch : ℕ) : Result ℕ := do
  let messagePoint ← decrypt ciphertext privateKey
  recoverSmallDiscreteLog messagePoint maxSearch

end ElGamal

end KrustyKms.Crypto

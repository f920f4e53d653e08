import KrustyKms.MentalPoker.Protocol
import Mathlib.Data.Finset.Insert

/-!
# The shuffle verifier

The verifier is not told which input an output came from: for each output it tries the inputs in
order and takes the first for which the remasking proof is accepted.
-/

namespace KrustyKms.MentalPoker

open Crypto StarkCurve Support MayPanic

variable {Point : Type} [CurvePoint Point]

def shuffleContext : Bytes := utf8 "mental-poker-shuffle-v1"

structure LinearCombinationProof where
  aggregateCommitment : SerializablePoint
  challenge : String
  response : String

structure ShuffleProof where
  remaskingProofs : List DLEqualityProof
  permutationCommitment : SerializablePoint
  linearCombinationResponse : LinearCombinationProof

structure ShuffleParameters (Point : Type) where
  n : ℕ
  g : Point
  h : Point

def ShuffleParameters.new (n : ℕ) : Except MentalPokerError (ShuffleParameters Point) := do
  if n = 0 then
    throw (.invalidParameters "Shuffle size must be positive")
  pure { n, g := generator, h := generatorH }

structure ShuffleStatement (Point : Type) where
  inputDeck : List (MaskedCard Point)
  outputDeck : List (MaskedCard Point)
  publicKey : PublicKey Point

omit [CurvePoint Point] in
def ShuffleStatement.new (inputDeck outputDeck : List (MaskedCard Point))
    (publicKey : PublicKey Point) : Except MentalPokerError (ShuffleStatement Point) := do
  if inputDeck.length ≠ outputDeck.length then
    throw (.invalidParameters "Input and output deck sizes must match")
  if inputDeck.isEmpty then
    throw (.invalidParameters "Deck cannot be empty")
  pure { inputDeck, outputDeck, publicKey }

def addPointToTranscript (transcript : Bytes) (point : Point) : Except MentalPokerError Bytes := do
  let affine ← projectiveToAffine point
  pure (transcript ++ pointBytes affine)

def addMaskedCardToTranscript (transcript : Bytes) (card : MaskedCard Point) :
    Except MentalPokerError Bytes := do
  let transcript ← addPointToTranscript transcript card.c0
  addPointToTranscript transcript card.c1

namespace ShuffleArgument

variable [Sha256] [FeltParser]

def transcriptChallenge (transcript : Bytes) : Felt :=
  computeChallenge (shuffleContext ++ transcript)

/-- The inputs from `j` on are tried for the output at `i`: the first for which the proof is
accepted, with the differences, or none if there is no such input or it was used. -/
def matchInput (params : ShuffleParameters Point) (statement : ShuffleStatement Point)
    (proof : ShuffleProof) (used : Finset ℕ) (i : ℕ) :
    List ℕ → MayPanic MentalPokerError (Option (ℕ × Point × Point))
  | [] => pure none
  | j :: js => do
    let input ← index statement.inputDeck j
    let negInputC0 ← liftM (negatePoint input.c0)
    let negInputC1 ← liftM (negatePoint input.c1)
    let output ← index statement.outputDeck i
    let diffC0 := add output.c0 negInputC0
    let diffC1 := add output.c1 negInputC1
    let remaskingProof ← index proof.remaskingProofs i
    let valid ← liftM (ChaumPedersenProtocol.verify params.g statement.publicKey.point diffC0
      diffC1 remaskingProof shuffleContext)
    if valid then
      -- an input that is matched twice ends the verification
      if j ∈ used then pure none else pure (some (j, diffC0, diffC1))
    else matchInput params statement proof used i js

structure Matching (Point : Type) where
  transcript : Bytes
  diffPointsC0 : List Point
  diffPointsC1 : List Point
  usedInputIndices : Finset ℕ

def matchOutputs (params : ShuffleParameters Point) (statement : ShuffleStatement Point)
    (proof : ShuffleProof) :
    List ℕ → Matching Point → MayPanic MentalPokerError (Option (Matching Point))
  | [], found => pure (some found)
  | i :: is, found => do
    let matched ← matchInput params statement proof found.usedInputIndices i
      (List.range params.n)
    match matched with
    | none => pure none
    | some (j, diffC0, diffC1) => do
      let diffPointsC0 := found.diffPointsC0 ++ [diffC0]
      let diffPointsC1 := found.diffPointsC1 ++ [diffC1]
      let usedInputIndices := insert j found.usedInputIndices
      let point ← index diffPointsC0 i
      let transcript ← liftM (addPointToTranscript found.transcript point)
      matchOutputs params statement proof is
        { transcript, diffPointsC0, diffPointsC1, usedInputIndices }

def verifyResponse (params : ShuffleParameters Point) (proof : ShuffleProof)
    (found : Matching Point) : Except MentalPokerError Bool := do
  if found.usedInputIndices.card ≠ params.n then
    return false
  let permCommitment ← (proof.permutationCommitment.toProjective : Except _ Point)
  let transcript ← addPointToTranscript found.transcript permCommitment
  let expectedChallenge := transcriptChallenge transcript
  let proofChallenge ← parseFelt proof.linearCombinationResponse.challenge
  if expectedChallenge ≠ proofChallenge then
    return false
  let aggregateCommitment ←
    (proof.linearCombinationResponse.aggregateCommitment.toProjective : Except _ Point)
  let response ← parseFelt proof.linearCombinationResponse.response
  if isInfinity aggregateCommitment ∧ ¬ found.diffPointsC0.isEmpty then
    let sum := found.diffPointsC0.foldl add 0
    if ¬ isInfinity sum ∧ isInfinity aggregateCommitment then
      return false
  if params.n > 1 ∧ response = 0 then
    return false
  return true

def verify (params : ShuffleParameters Point) (statement : ShuffleStatement Point)
    (proof : ShuffleProof) : MayPanic MentalPokerError Bool := do
  if proof.remaskingProofs.length ≠ params.n then
    return false
  let transcript ← liftM (statement.inputDeck.foldlM addMaskedCardToTranscript [])
  let transcript ← liftM (statement.outputDeck.foldlM addMaskedCardToTranscript transcript)
  let transcript ← liftM (addPointToTranscript transcript statement.publicKey.point)
  let matched ← matchOutputs params statement proof (List.range params.n)
    { transcript, diffPointsC0 := [], diffPointsC1 := [], usedInputIndices := ∅ }
  match matched with
  | none => pure false
  | some found => liftM (verifyResponse params proof found)

end ShuffleArgument

def MentalPokerProtocol.verifyShuffle [Sha256] [FeltParser]
    (originalDeck shuffledDeck : List (MaskedCard Point)) (aggregatePk : PublicKey Point)
    (proof : ShuffleProof) : MayPanic MentalPokerError Bool := do
  if originalDeck.length ≠ shuffledDeck.length then
    return false
  let params ← liftM (ShuffleParameters.new originalDeck.length :
    Except MentalPokerError (ShuffleParameters Point))
  let statement ← liftM (ShuffleStatement.new originalDeck shuffledDeck aggregatePk)
  ShuffleArgument.verify params statement proof

end KrustyKms.MentalPoker

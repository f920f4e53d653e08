import KrustyKms.MentalPoker.Zkp

/-!
# The mental poker protocol

Keys are aggregated, cards are masked under the aggregate key and remasked by each player in turn,
and a card is opened with one reveal token of every player.
-/

namespace KrustyKms.MentalPoker

open Crypto StarkCurve Support MayPanic

variable {Point : Type} [CurvePoint Point]

def keyOwnershipContext : Bytes := utf8 "mental-poker-key-ownership"
def maskingContext : Bytes := utf8 "mental-poker-masking"
def remaskingContext : Bytes := utf8 "mental-poker-remasking"
def revealContext : Bytes := utf8 "mental-poker-reveal"

structure MaskDraws where
  factor : Felt
  nonce : Felt

namespace MentalPokerProtocol

variable [Sha256]

def proveKeyOwnership (nonce : Felt) (pk : PublicKey Point) (sk : SecretKey)
    (playerInfo : Bytes) : Except MentalPokerError KeyOwnershipProof :=
  SchnorrProtocol.prove nonce pk sk (keyOwnershipContext ++ playerInfo)

def mask (draws : MaskDraws) (card : Card Point) (aggregatePk : PublicKey Point)
    (r : Option Felt) : Except MentalPokerError (MaskedCard Point × DLEqualityProof) := do
  let g : Point := generator
  let rVal := r.getD draws.factor
  let c0 := mul rVal (some g)
  let pkR := mul rVal (some aggregatePk.point)
  let c1 := add card.point pkR
  let masked : MaskedCard Point := { c0, c1 }
  let negCard ← negatePoint card.point
  let c1MinusCard := add c1 negCard
  let proof ← ChaumPedersenProtocol.prove draws.nonce g aggregatePk.point c0 c1MinusCard rVal
    maskingContext
  pure (masked, proof)

def remask (draws : MaskDraws) (masked : MaskedCard Point) (aggregatePk : PublicKey Point)
    (alpha : Option Felt) : Except MentalPokerError (MaskedCard Point × DLEqualityProof) := do
  let g : Point := generator
  let alphaVal := alpha.getD draws.factor
  let zeroC0 := mul alphaVal (some g)
  let zeroC1 := mul alphaVal (some aggregatePk.point)
  let newC0 := add masked.c0 zeroC0
  let newC1 := add masked.c1 zeroC1
  let remasked : MaskedCard Point := { c0 := newC0, c1 := newC1 }
  let diff := remasked.add (← masked.negate)
  let proof ← ChaumPedersenProtocol.prove draws.nonce g aggregatePk.point diff.c0 diff.c1 alphaVal
    remaskingContext
  pure (remasked, proof)

def computeRevealToken (nonce : Felt) (masked : MaskedCard Point) (sk : SecretKey)
    (pk : PublicKey Point) : Except MentalPokerError (RevealToken Point × DLEqualityProof) := do
  let tokenPoint := mul sk.scalar (some masked.c0)
  let token : RevealToken Point := ⟨tokenPoint⟩
  let proof ← ChaumPedersenProtocol.prove nonce masked.c0 generator token.point pk.point sk.scalar
    revealContext
  pure (token, proof)

def shuffleAndRemask (draws : ℕ → MaskDraws) (deck : List (MaskedCard Point))
    (aggregatePk : PublicKey Point) (permutation : Permutation) (maskingFactors : List Felt) :
    MayPanic MentalPokerError (List (MaskedCard Point × DLEqualityProof)) := do
  if deck.length ≠ permutation.len ∨ deck.length ≠ maskingFactors.length then
    throw (.invalidParameters "Deck, permutation, and masking factors must have same length")
  let permuted ← permutation.permute deck
  (permuted.zip maskingFactors).zipIdx.mapM fun ((card, factor), i) =>
    liftM (remask (draws i) card aggregatePk (some factor))

variable [FeltParser]

def verifyKeyOwnership (pk : PublicKey Point) (proof : KeyOwnershipProof) (playerInfo : Bytes) :
    Except MentalPokerError Bool :=
  SchnorrProtocol.verify pk proof (keyOwnershipContext ++ playerInfo)

def addKey (aggregate : PublicKey Point) (entry : PublicKey Point × KeyOwnershipProof × Bytes) :
    Except MentalPokerError (PublicKey Point) := do
  let (pk, proof, playerInfo) := entry
  if !(← verifyKeyOwnership pk proof playerInfo) then
    throw .invalidKeyOwnership
  pure (aggregate.add pk)

def computeAggregateKey (playerKeys : List (PublicKey Point × KeyOwnershipProof × Bytes)) :
    Except MentalPokerError (PublicKey Point) :=
  playerKeys.foldlM addKey .zero

def verifyRevealToken (masked : MaskedCard Point) (token : RevealToken Point)
    (pk : PublicKey Point) (proof : DLEqualityProof) : Except MentalPokerError Bool :=
  ChaumPedersenProtocol.verify masked.c0 generator token.point pk.point proof revealContext

def addToken (masked : MaskedCard Point) (aggregate : RevealToken Point)
    (entry : RevealToken Point × DLEqualityProof × PublicKey Point) :
    Except MentalPokerError (RevealToken Point) := do
  let (token, proof, pk) := entry
  if !(← verifyRevealToken masked token pk proof) then
    throw .invalidRevealProof
  pure (aggregate.add token)

def unmask (masked : MaskedCard Point)
    (revealTokens : List (RevealToken Point × DLEqualityProof × PublicKey Point)) :
    Except MentalPokerError (Card Point) := do
  let aggregateToken ← revealTokens.foldlM (addToken masked) .zero
  let negToken ← negatePoint aggregateToken.point
  let cardPoint := add masked.c1 negToken
  pure ⟨cardPoint⟩

end MentalPokerProtocol

end KrustyKms.MentalPoker

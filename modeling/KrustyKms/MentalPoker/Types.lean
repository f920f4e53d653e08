import KrustyKms.Common.FeltText
import KrustyKms.Crypto.CurveTheorems
import KrustyKms.Support.MayPanic

/-!
# Types of the mental poker protocol

Cards are points and masked cards ElGamal ciphertexts under the aggregate key. Points and
scalars of proofs travel as hexadecimal text.
-/

namespace KrustyKms.MentalPoker

open Crypto StarkCurve Support MayPanic

inductive MentalPokerError where
  | proofVerificationError (reason : String)
  | invalidKeyOwnership
  | invalidMaskingProof
  | invalidRemaskingProof
  | invalidRevealProof
  | invalidShuffleProof
  | invalidCard
  | cardNotFound
  | invalidParameters (reason : String)
  | serializationError (reason : String)
  | invalidPoint
  /-- An error of the curve crate; the source keeps its text. -/
  | cryptoError (source : KmsError)
  | insufficientRevealTokens
  | invalidCardIndex (reason : String)
  | invalidDeckConfig (reason : String)
deriving DecidableEq

/-- `?` on an error of the curve crate. -/
instance : MonadLift (Except KmsError) (Except MentalPokerError) where
  monadLift x := x.mapError .cryptoError

@[simp] lemma liftM_eq_ok {α : Type} {x : Result α} {a : α} :
    (liftM x : Except MentalPokerError α) = .ok a ↔ x = .ok a :=
  except_mapError_eq_ok

variable {Point : Type} [CurvePoint Point]

/-! ## Cards and keys -/

/-- An open card. -/
structure Card (Point : Type) where
  point : Point
deriving DecidableEq

structure MaskedCard (Point : Type) where
  c0 : Point
  c1 : Point
deriving DecidableEq

/-- What a player reveals of a masked card: `c0^sk`. -/
structure RevealToken (Point : Type) where
  point : Point
deriving DecidableEq

structure PublicKey (Point : Type) where
  point : Point
deriving DecidableEq

structure SecretKey where
  scalar : Felt

def negatePoint (point : Point) : Except MentalPokerError Point := do
  if isInfinity point then
    return 0
  let affine ← projectiveToAffine point
  match (CurvePoint.fromAffine affine.x (-affine.y) : Option Point) with
  | some negated => pure negated
  | none => throw .invalidPoint

def MaskedCard.add (card other : MaskedCard Point) : MaskedCard Point where
  c0 := StarkCurve.add card.c0 other.c0
  c1 := StarkCurve.add card.c1 other.c1

def MaskedCard.negate (card : MaskedCard Point) : Except MentalPokerError (MaskedCard Point) := do
  let c0 ← negatePoint card.c0
  let c1 ← negatePoint card.c1
  pure { c0, c1 }

def RevealToken.zero : RevealToken Point := ⟨0⟩

def RevealToken.add (token other : RevealToken Point) : RevealToken Point :=
  ⟨StarkCurve.add token.point other.point⟩

def PublicKey.zero : PublicKey Point := ⟨0⟩

def PublicKey.add (key other : PublicKey Point) : PublicKey Point :=
  ⟨StarkCurve.add key.point other.point⟩

def SecretKey.publicKey (sk : SecretKey) : PublicKey Point := ⟨mulGenerator sk.scalar⟩

/-! ## Proofs -/

structure SerializablePoint where
  x : String
  y : String
deriving DecidableEq

structure KeyOwnershipProof where
  commitment : SerializablePoint
  response : String
  challenge : String
deriving DecidableEq

structure DLEqualityProof where
  a1 : SerializablePoint
  a2 : SerializablePoint
  response : String
  challenge : String
deriving DecidableEq

def SerializablePoint.fromProjective (point : Point) :
    Except MentalPokerError SerializablePoint := do
  let affine ← projectiveToAffine point
  pure { x := affine.x.toHex, y := affine.y.toHex }

section Text

variable [FeltParser]

def parseFelt (text : String) : Except MentalPokerError Felt :=
  (FeltParser.fromHex text).mapError .serializationError

def SerializablePoint.toProjective (point : SerializablePoint) :
    Except MentalPokerError Point := do
  let x ← parseFelt point.x
  let y ← parseFelt point.y
  match (CurvePoint.fromAffine x y : Option Point) with
  | some projective => pure projective
  | none => throw .invalidPoint

end Text

/-! ## Permutations -/

structure Permutation where
  indices : List ℕ

namespace Permutation

def len (permutation : Permutation) : ℕ := permutation.indices.length

def permute {α : Type} (permutation : Permutation) (arr : List α) :
    MayPanic MentalPokerError (List α) :=
  permutation.indices.mapM fun i => index arr i

end Permutation

/-! ## What the operations compute -/

lemma fromAffine_eq_some (a : AffinePoint Point) :
    CurvePoint.fromAffine a.x a.y = some (affineToProjective a) := by
  simp [affineToProjective]

lemma negatePoint_eq (P : Point) : negatePoint P = .ok (-P) := by
  unfold negatePoint
  by_cases h : isInfinity P = true
  · rw [if_pos h, isInfinity_eq_true.mp h, neg_zero]
    rfl
  · rw [if_neg h]
    have hne : P ≠ 0 := fun hz => h (isInfinity_eq_true.mpr hz)
    obtain ⟨a, rfl⟩ := exists_affine hne
    obtain ⟨b, hnew, hb⟩ := exists_negated a
    obtain ⟨hx, hy⟩ := AffinePoint.new_eq_ok.mp hnew
    rw [except_bind_eq_ok]
    refine ⟨a, liftM_eq_ok.mpr (projectiveToAffine_eq_ok.mpr rfl), ?_⟩
    rw [← hx, ← hy, fromAffine_eq_some, hb]
    rfl

lemma fromProjective_eq_ok {P : Point} {text : SerializablePoint} :
    SerializablePoint.fromProjective P = .ok text ↔
      ∃ a : AffinePoint Point, affineToProjective a = P ∧ text = ⟨a.x.toHex, a.y.toHex⟩ := by
  unfold SerializablePoint.fromProjective
  simp only [except_bind_eq_ok, liftM_eq_ok, projectiveToAffine_eq_ok]
  constructor
  · intro h
    obtain ⟨a, ha, h⟩ := h
    exact ⟨a, ha, (Except.ok.inj h).symm⟩
  · intro h
    obtain ⟨a, ha, rfl⟩ := h
    exact ⟨a, ha, rfl⟩

section Text

variable [FeltParser]

lemma parseFelt_eq_ok {text : String} {felt : Felt} :
    parseFelt text = .ok felt ↔ FeltParser.fromHex text = .ok felt :=
  except_mapError_eq_ok

lemma toProjective_of_fromProjective (hex : FeltParser.Exact) {P : Point}
    {text : SerializablePoint} (h : SerializablePoint.fromProjective P = .ok text) :
    text.toProjective = .ok P := by
  obtain ⟨a, rfl, rfl⟩ := fromProjective_eq_ok.mp h
  unfold SerializablePoint.toProjective
  simp only [except_bind_eq_ok, parseFelt_eq_ok, hex.fromHex_toHex, Except.ok.injEq]
  refine ⟨_, rfl, _, rfl, ?_⟩
  rw [fromAffine_eq_some]
  rfl

end Text

end KrustyKms.MentalPoker

import KrustyKms.Sdk.Shared

/-!
# Withdrawals
-/

namespace KrustyKms.Sdk

open Crypto StarkCurve Support MayPanic

variable {Point : Type} [CurvePoint Point]

structure WithdrawParams (Point : Type) where
  recipientAddress : Felt
  amount : ℕ
  nonce : Felt
  chainId : Felt
  tongoAddress : Felt
  senderAddress : Felt
  currentBalance : ElGamalCiphertext Point
  bitSize : ℕ
  auditorKey : Option Point

def WithdrawParams.auditPrefix (params : WithdrawParams Point) (y : Point) :
    AuditPrefixData Point where
  chainId := params.chainId
  tongoAddress := params.tongoAddress
  senderAddress := params.senderAddress
  userPubKey := y

structure WithdrawProof (Point : Type) where
  y : Point
  aX : Point
  aR : Point
  a : Point
  aV : Point
  sx : Felt
  sb : Felt
  sr : Felt
  auxiliarCipher : ElGamalCiphertext Point
  range : Range
  amount : ℕ
  recipient : Felt
  audit : Option (Audit Point)
deriving DecidableEq

structure WithdrawDraws where
  randomValues : ℕ → Felt
  range : ℕ → Bit.Draws
  commitmentRandoms : ℕ → Felt
  audit : AuditDraws

def withdrawCairoString : Felt := 0x7769746864726177

def WithdrawParams.leftoverCipher (params : WithdrawParams Point) (y : Point) :
    Result (ElGamalCiphertext Point) := do
  let g : Point := generator
  let cipherL :=
    let gAmount := mul (params.amount : Felt) (some g)
    let yR := mul withdrawCairoString (some y)
    add gAmount yR
  let cipherR := mul withdrawCairoString (some g)
  let lLeft ← subtractPoint params.currentBalance.l cipherL
  let rLeft ← subtractPoint params.currentBalance.r cipherR
  pure { l := lLeft, r := rLeft }

variable [Poseidon]

def WithdrawParams.prefixOf (params : WithdrawParams Point) (yAffine : AffinePoint Point)
    (v rAux : Point) : Result Felt := do
  let l0Affine ← projectiveToAffine params.currentBalance.l
  let r0Affine ← projectiveToAffine params.currentBalance.r
  let vAffine ← projectiveToAffine v
  let rAuxAffine ← projectiveToAffine rAux
  pure (poseidonHashMany [params.chainId, params.tongoAddress, params.senderAddress,
    withdrawCairoString, yAffine.x, yAffine.y, params.nonce, (params.amount : Felt),
    params.recipientAddress, l0Affine.x, l0Affine.y, r0Affine.x, r0Affine.y,
    vAffine.x, vAffine.y, rAuxAffine.x, rAuxAffine.y])

variable [Sha256] [XChaCha20Poly1305]

def withdrawAudit (draws : AuditDraws) (account : TongoAccount Point)
    (params : WithdrawParams Point) (left : ℕ) : Result (Option (Audit Point)) :=
  match params.auditorKey with
  | none => pure none
  | some auditorKey => do
    let leftoverCipher ← params.leftoverCipher account.ownerPublicKey
    let audit ← buildAudit draws account.ownerPrivateKey left leftoverCipher auditorKey false
      (params.auditPrefix account.ownerPublicKey)
    pure (some audit)

def withdraw (draws : WithdrawDraws) (account : TongoAccount Point)
    (params : WithdrawParams Point) : MayPanic KmsError (WithdrawProof Point) := do
  if params.amount = 0 then
    throw (.invalidAmount "Amount must be greater than zero")
  if ¬ account.hasSufficientBalance params.amount then
    throw .insufficientBalance
  let x := account.ownerPrivateKey
  let g : Point := generator
  let h : Point := generatorH
  let y := account.ownerPublicKey
  let yAffine ← projectiveToAffine y
  let r0 := params.currentBalance.r
  verifyCipherEncryptsBalance params.currentBalance x account.balance g
  let left ← unsignedSub account.balance params.amount
  let randomValues := randomFelts draws.randomValues params.bitSize
  let r ← Range.computeTotalRandomness randomValues
  let rAux := mul r (some g)
  let v :=
    let gLeft := mul (left : Felt) (some g)
    let hR := mul r (some h)
    add gLeft hR
  let prefixFelt ← params.prefixOf yAffine v rAux
  let (range, _) ←
    Range.proveWithRandomness draws.range left params.bitSize g h prefixFelt randomValues
  let commitmentRandoms := randomFelts draws.commitmentRandoms 3
  let kb ← index commitmentRandoms 0
  let kx ← index commitmentRandoms 1
  let kr ← index commitmentRandoms 2
  let aX := mul kx (some g)
  let aR := mul kr (some g)
  let gKb := mul kb (some g)
  let r0Kx := mul kx (some r0)
  let hKr := mul kr (some h)
  let a := add gKb r0Kx
  let aV := add gKb hKr
  let c ← computePoseidonChallenge prefixFelt [aX, aR, a, aV]
  let cLeft ← scalarMul c (left : Felt)
  let sb ← scalarAdd kb cLeft
  let cX ← scalarMul c x
  let sx ← scalarAdd kx cX
  let cR ← scalarMul c r
  let sr ← scalarAdd kr cR
  let auxiliarCipher : ElGamalCiphertext Point := { l := v, r := rAux }
  let audit ← withdrawAudit draws.audit account params left
  pure {
    y, aX, aR, a, aV, sx, sb, sr, auxiliarCipher, range
    amount := params.amount
    recipient := params.recipientAddress
    audit }

end KrustyKms.Sdk

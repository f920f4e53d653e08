import KrustyKms.Sdk.Shared

/-!
# Transfers

The phases of `TransferBuildState`, in the order in which `execute` runs them.
-/

namespace KrustyKms.Sdk

open Crypto StarkCurve Support MayPanic

variable {Point : Type} [CurvePoint Point]

structure TransferParams (Point : Type) where
  recipientPublicKey : Point
  amount : ℕ
  nonce : Felt
  chainId : Felt
  tongoAddress : Felt
  senderAddress : Felt
  currentBalance : ElGamalCiphertext Point
  bitSize : ℕ
  auditorPubKey : Option Point

def TransferParams.auditPrefix (params : TransferParams Point) (owner : Point) :
    AuditPrefixData Point where
  chainId := params.chainId
  tongoAddress := params.tongoAddress
  senderAddress := params.senderAddress
  userPubKey := owner

structure ProofOfTransfer where
  aX : SerializablePoint
  aR : SerializablePoint
  aR2 : SerializablePoint
  aB : SerializablePoint
  aB2 : SerializablePoint
  aV : SerializablePoint
  aV2 : SerializablePoint
  aBar : SerializablePoint
  sX : Felt
  sR : Felt
  sB : Felt
  sB2 : Felt
  sR2 : Felt
  range : Range
  range2 : Range
deriving DecidableEq

structure TransferProof (Point : Type) where
  transferBalanceL : Point
  transferBalanceR : Point
  transferBalanceSelfL : Point
  transferBalanceSelfR : Point
  proof : ProofOfTransfer
  auxiliarCipher : ElGamalCiphertext Point
  auxiliarCipher2 : ElGamalCiphertext Point
  newBalanceCipher : ElGamalCiphertext Point
  auditBalance : Option (Audit Point)
  auditTransfer : Option (Audit Point)

def transferCairoString : Felt := 0x7472616e73666572

structure TransferDraws where
  amountRandomness : ℕ → Felt
  leftoverRandomness : ℕ → Felt
  range : ℕ → Bit.Draws
  range2 : ℕ → Bit.Draws
  kx : Felt
  kb : Felt
  kr : Felt
  kb2 : Felt
  kr2 : Felt
  auditBalance : AuditDraws
  auditTransfer : AuditDraws

/-- Validated inputs shared by each transfer construction phase. -/
structure TransferBuildState (Point : Type) where
  params : TransferParams Point
  secret : Felt
  owner : Point
  amount : ℕ
  leftover : ℕ
  generator : Point
  generatorH : Point

structure PreparedCiphertexts (Point : Type) where
  randomness : Felt
  leftoverRandomness : Felt
  amountRandomness : List Felt
  leftoverRandomnessValues : List Felt
  transferBalanceL : Point
  transferBalanceR : Point
  transferBalanceSelfL : Point
  transferBalanceSelfR : Point
  auxiliarCipher : ElGamalCiphertext Point
  auxiliarCipher2 : ElGamalCiphertext Point
deriving DecidableEq

def addScaled (firstScalar : Felt) (firstPoint : Point) (secondScalar : Felt)
    (secondPoint : Point) : Point :=
  add (mul firstScalar (some firstPoint)) (mul secondScalar (some secondPoint))

def response (randomness challenge value : Felt) : Result Felt := do
  scalarAdd randomness (← scalarMul challenge value)

namespace TransferBuildState

def new (account : TongoAccount Point) (params : TransferParams Point) :
    MayPanic KmsError (TransferBuildState Point) := do
  if params.amount = 0 then
    throw (.invalidAmount "Amount must be greater than zero")
  if ¬ account.hasSufficientBalance params.amount then
    throw .insufficientBalance
  let secret := account.ownerPrivateKey
  let g : Point := StarkCurve.generator
  verifyCipherEncryptsBalance params.currentBalance secret account.balance g
  let leftover ← unsignedSub account.balance params.amount
  pure {
    params, secret, leftover
    amount := params.amount
    owner := account.ownerPublicKey
    generator := g
    generatorH := StarkCurve.generatorH }

variable (state : TransferBuildState Point)

def prepareCiphertexts (draws : TransferDraws) :
    MayPanic KmsError (PreparedCiphertexts Point) := do
  let amountRandomness := randomFelts draws.amountRandomness state.params.bitSize
  let leftoverRandomnessValues := randomFelts draws.leftoverRandomness state.params.bitSize
  let randomness ← Range.computeTotalRandomness amountRandomness
  let leftoverRandomness ← Range.computeTotalRandomness leftoverRandomnessValues
  let amount := (state.amount : Felt)
  let leftover := (state.leftover : Felt)
  pure {
    randomness, leftoverRandomness, amountRandomness, leftoverRandomnessValues
    transferBalanceSelfL := addScaled amount state.generator randomness state.owner
    transferBalanceSelfR := mul randomness (some state.generator)
    transferBalanceL :=
      addScaled amount state.generator randomness state.params.recipientPublicKey
    transferBalanceR := mul randomness (some state.generator)
    auxiliarCipher := {
      l := addScaled amount state.generator randomness state.generatorH
      r := mul randomness (some state.generator) }
    auxiliarCipher2 := {
      l := addScaled leftover state.generator leftoverRandomness state.generatorH
      r := mul leftoverRandomness (some state.generator) } }

variable [Poseidon]

def prefixOf (params : TransferParams Point) (ownerKey transferBalanceSelfL transferBalanceSelfR
    transferBalanceL transferBalanceR : Point)
    (auxiliarCipher auxiliarCipher2 : ElGamalCiphertext Point) : Result Felt := do
  let owner ← projectiveToAffine ownerKey
  let recipient ← projectiveToAffine params.recipientPublicKey
  let currentL ← projectiveToAffine params.currentBalance.l
  let currentR ← projectiveToAffine params.currentBalance.r
  let tbsL ← projectiveToAffine transferBalanceSelfL
  let tbsR ← projectiveToAffine transferBalanceSelfR
  let tbL ← projectiveToAffine transferBalanceL
  let tbR ← projectiveToAffine transferBalanceR
  let auxiliary ← projectiveToAffine auxiliarCipher.l
  let auxiliaryR ← projectiveToAffine auxiliarCipher.r
  let auxiliary2 ← projectiveToAffine auxiliarCipher2.l
  let auxiliary2R ← projectiveToAffine auxiliarCipher2.r
  pure (poseidonHashMany [params.chainId, params.tongoAddress, params.senderAddress,
    transferCairoString, owner.x, owner.y, recipient.x, recipient.y, params.nonce,
    currentL.x, currentL.y, currentR.x, currentR.y, tbsL.x, tbsL.y, tbsR.x, tbsR.y,
    tbL.x, tbL.y, tbR.x, tbR.y, auxiliary.x, auxiliary.y, auxiliaryR.x, auxiliaryR.y,
    auxiliary2.x, auxiliary2.y, auxiliary2R.x, auxiliary2R.y])

def protocolPrefix (prepared : PreparedCiphertexts Point) : Result Felt :=
  prefixOf state.params state.owner prepared.transferBalanceSelfL prepared.transferBalanceSelfR
    prepared.transferBalanceL prepared.transferBalanceR prepared.auxiliarCipher
    prepared.auxiliarCipher2

def proveRange (draws : ℕ → Bit.Draws) (value : ℕ) (randomness : List Felt) (prefixFelt : Felt) :
    MayPanic KmsError (Range × Felt) :=
  Range.proveWithRandomness draws value state.params.bitSize state.generator state.generatorH
    prefixFelt randomness

def proveRanges (draws : TransferDraws) (prepared : PreparedCiphertexts Point)
    (prefixFelt : Felt) : MayPanic KmsError (Range × Range) := do
  let amount ← attempt
    (state.proveRange draws.range state.amount prepared.amountRandomness prefixFelt)
  let leftover ← attempt
    (state.proveRange draws.range2 state.leftover prepared.leftoverRandomnessValues prefixFelt)
  pure ((← amount).1, (← leftover).1)

def buildProtocolProof (draws : TransferDraws) (prepared : PreparedCiphertexts Point)
    (prefixFelt : Felt) (range range2 : Range) : Result ProofOfTransfer := do
  let negTransferR ← negatePoint prepared.transferBalanceSelfR
  let gPoint := add state.params.currentBalance.r negTransferR
  let aX := mul draws.kx (some state.generator)
  let aR := mul draws.kr (some state.generator)
  let aR2 := mul draws.kr2 (some state.generator)
  let aB := addScaled draws.kb state.generator draws.kr state.owner
  let aBar := addScaled draws.kb state.generator draws.kr state.params.recipientPublicKey
  let aV := addScaled draws.kb state.generator draws.kr state.generatorH
  let aB2 := addScaled draws.kb2 state.generator draws.kx gPoint
  let aV2 := addScaled draws.kb2 state.generator draws.kr2 state.generatorH
  let challenge ← computePoseidonChallenge prefixFelt [aX, aR, aR2, aB, aB2, aV, aV2, aBar]
  pure {
    aX := ← SerializablePoint.tryFromProjective aX
    aR := ← SerializablePoint.tryFromProjective aR
    aR2 := ← SerializablePoint.tryFromProjective aR2
    aB := ← SerializablePoint.tryFromProjective aB
    aB2 := ← SerializablePoint.tryFromProjective aB2
    aV := ← SerializablePoint.tryFromProjective aV
    aV2 := ← SerializablePoint.tryFromProjective aV2
    aBar := ← SerializablePoint.tryFromProjective aBar
    sX := ← response draws.kx challenge state.secret
    sR := ← response draws.kr challenge prepared.randomness
    sB := ← response draws.kb challenge (state.amount : Felt)
    sB2 := ← response draws.kb2 challenge (state.leftover : Felt)
    sR2 := ← response draws.kr2 challenge prepared.leftoverRandomness
    range, range2 }

omit [Poseidon] in
def newBalanceCipher (prepared : PreparedCiphertexts Point) :
    Result (ElGamalCiphertext Point) := do
  let l ← subtractPoint state.params.currentBalance.l prepared.transferBalanceSelfL
  let r ← subtractPoint state.params.currentBalance.r prepared.transferBalanceSelfR
  pure { l, r }

variable [Sha256] [XChaCha20Poly1305]

def buildAudits (draws : TransferDraws) (prepared : PreparedCiphertexts Point)
    (newBalance : ElGamalCiphertext Point) : Result (Option (Audit Point) × Option (Audit Point)) :=
  match state.params.auditorPubKey with
  | none => pure (none, none)
  | some auditor => do
    let auditPrefix := state.params.auditPrefix state.owner
    let balance ← buildAudit draws.auditBalance state.secret state.leftover newBalance auditor
      false auditPrefix
    let transferSelf := { l := prepared.transferBalanceSelfL, r := prepared.transferBalanceSelfR }
    let transfer ← buildAudit draws.auditTransfer state.secret state.amount transferSelf auditor
      true auditPrefix
    pure (some balance, some transfer)

def execute (draws : TransferDraws) : MayPanic KmsError (TransferProof Point) := do
  let prepared ← state.prepareCiphertexts draws
  let prefixFelt ← state.protocolPrefix prepared
  let (range, range2) ← state.proveRanges draws prepared prefixFelt
  let proof ← state.buildProtocolProof draws prepared prefixFelt range range2
  let newBalanceCipher ← state.newBalanceCipher prepared
  let (auditBalance, auditTransfer) ← state.buildAudits draws prepared newBalanceCipher
  pure {
    transferBalanceL := prepared.transferBalanceL
    transferBalanceR := prepared.transferBalanceR
    transferBalanceSelfL := prepared.transferBalanceSelfL
    transferBalanceSelfR := prepared.transferBalanceSelfR
    proof
    auxiliarCipher := prepared.auxiliarCipher
    auxiliarCipher2 := prepared.auxiliarCipher2
    newBalanceCipher, auditBalance, auditTransfer }

end TransferBuildState

def transfer [Poseidon] [Sha256] [XChaCha20Poly1305] (draws : TransferDraws)
    (account : TongoAccount Point) (params : TransferParams Point) :
    MayPanic KmsError (TransferProof Point) := do
  let state ← TransferBuildState.new account params
  state.execute draws

end KrustyKms.Sdk

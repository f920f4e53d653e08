import KrustyKms.Sdk.Shared

/-!
# Ragequit

The whole balance is withdrawn: there is no leftover to prove in range, and the audit is
of the balance zero.
-/

namespace KrustyKms.Sdk

open Crypto StarkCurve

variable {Point : Type} [CurvePoint Point]

structure RagequitParams (Point : Type) where
  recipientAddress : Felt
  nonce : Felt
  chainId : Felt
  tongoAddress : Felt
  senderAddress : Felt
  currentBalance : ElGamalCiphertext Point
  auditorKey : Option Point

def RagequitParams.auditPrefix (params : RagequitParams Point) (y : Point) :
    AuditPrefixData Point where
  chainId := params.chainId
  tongoAddress := params.tongoAddress
  senderAddress := params.senderAddress
  userPubKey := y

structure RagequitProof (Point : Type) where
  y : Point
  aX : Point
  aR : Point
  sx : Felt
  amount : ℕ
  recipient : Felt
  audit : Option (Audit Point)
deriving DecidableEq

structure RagequitDraws where
  kx : Felt
  audit : AuditDraws

def ragequitCairoString : Felt := 0x7261676571756974

def fullBalanceError : KmsError → KmsError
  | .cryptoError _ => .cryptoError "storedBalance is not an encryption of full balance"
  | other => other

variable [Poseidon]

def RagequitParams.prefixOf (params : RagequitParams Point) (yAffine : AffinePoint Point)
    (fullAmount : ℕ) : Result Felt := do
  let l0Affine ← projectiveToAffine params.currentBalance.l
  let r0Affine ← projectiveToAffine params.currentBalance.r
  pure (poseidonHashMany [params.chainId, params.tongoAddress, params.senderAddress,
    ragequitCairoString, yAffine.x, yAffine.y, params.nonce, (fullAmount : Felt),
    params.recipientAddress, l0Affine.x, l0Affine.y, r0Affine.x, r0Affine.y])

variable [Sha256] [XChaCha20Poly1305]

def ragequitAudit (draws : AuditDraws) (account : TongoAccount Point)
    (params : RagequitParams Point) : Result (Option (Audit Point)) :=
  match params.auditorKey with
  | none => pure none
  | some auditorKey => do
    let newBalanceCipher := { l := account.ownerPublicKey, r := generator }
    let audit ← buildAudit draws account.ownerPrivateKey 0 newBalanceCipher auditorKey true
      (params.auditPrefix account.ownerPublicKey)
    pure (some audit)

def ragequit (draws : RagequitDraws) (account : TongoAccount Point)
    (params : RagequitParams Point) : Result (RagequitProof Point) := do
  let x := account.ownerPrivateKey
  let g : Point := generator
  let y := account.ownerPublicKey
  let yAffine ← projectiveToAffine y
  let r0 := params.currentBalance.r
  (verifyCipherEncryptsBalance params.currentBalance x account.balance g).mapError fullBalanceError
  let fullAmount := account.balance
  let prefixFelt ← params.prefixOf yAffine fullAmount
  let aX := mul draws.kx (some g)
  let aR := mul draws.kx (some r0)
  let c ← computePoseidonChallenge prefixFelt [aX, aR]
  let cX ← scalarMul c x
  let sx ← scalarAdd draws.kx cX
  let audit ← ragequitAudit draws.audit account params
  pure { y, aX, aR, sx, amount := fullAmount, recipient := params.recipientAddress, audit }

end KrustyKms.Sdk

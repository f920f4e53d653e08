import KrustyKms.Crypto.Poe
import KrustyKms.Sdk.Shared

/-!
# Fund and rollover

Both operations prove knowledge of the private key. The contract adds the amount to the
balance before it checks an audit, so a funded balance is audited as it will be.
-/

namespace KrustyKms.Sdk

open Crypto StarkCurve

variable {Point : Type} [CurvePoint Point]

structure FundParams (Point : Type) where
  amount : ℕ
  nonce : Felt
  chainId : Felt
  tongoAddress : Felt
  senderAddress : Felt
  auditorPubKey : Option Point
  currentBalance : ElGamalCiphertext Point

def FundParams.auditPrefix (params : FundParams Point) (y : Point) : AuditPrefixData Point where
  chainId := params.chainId
  tongoAddress := params.tongoAddress
  senderAddress := params.senderAddress
  userPubKey := y

structure FundProof (Point : Type) where
  y : Point
  proof : PoeProof
  amount : ℕ
  audit : Option (Audit Point)
deriving DecidableEq

structure FundDraws where
  poe : Felt
  audit : AuditDraws

def fundCairoString : Felt := 0x66756e64

def fundedBalance (balance amount : ℕ) : Result ℕ :=
  if balance + amount < 2 ^ 128 then .ok (balance + amount)
  else .error (.invalidAmount "funded balance overflow")

def FundParams.newCipherBalance (params : FundParams Point) (y : Point) :
    ElGamalCiphertext Point :=
  let fundCipherL :=
    let gAmount := mul (params.amount : Felt) (some generator)
    let yR := mul fundCairoString (some y)
    add gAmount yR
  let fundCipherR := mul fundCairoString (some generator)
  { l := add params.currentBalance.l fundCipherL
    r := add params.currentBalance.r fundCipherR }

variable [Poseidon]

def FundParams.prefixOf (params : FundParams Point) (yAffine : AffinePoint Point) : Felt :=
  poseidonHashMany [params.chainId, params.tongoAddress, params.senderAddress, fundCairoString,
    yAffine.x, yAffine.y, (params.amount : Felt), params.nonce]

def fundAudit [Sha256] [XChaCha20Poly1305] (draws : AuditDraws) (account : TongoAccount Point)
    (params : FundParams Point) : Result (Option (Audit Point)) :=
  match params.auditorPubKey with
  | none => pure none
  | some auditorKey => do
    let newBalance ← fundedBalance account.balance params.amount
    -- `AuditProver::prove`, then `encrypt_for_auditor`
    let audit ← buildAudit draws account.ownerPrivateKey newBalance
      (params.newCipherBalance account.ownerPublicKey) auditorKey true
      (params.auditPrefix account.ownerPublicKey)
    pure (some audit)

def fund [Sha256] [XChaCha20Poly1305] (draws : FundDraws) (account : TongoAccount Point)
    (params : FundParams Point) : Result (FundProof Point) := do
  if params.amount = 0 then
    throw (.invalidAmount "Amount must be greater than zero")
  let y := account.ownerPublicKey
  let yAffine ← projectiveToAffine y
  let prefixFelt := params.prefixOf yAffine
  let (_, proof) ← (ProofOfExponentiation.prove draws.poe account.ownerPrivateKey prefixFelt :
    Result (Point × PoeProof))
  let audit ← fundAudit draws.audit account params
  pure { y, proof, amount := params.amount, audit }

/-! ## Rollover -/

structure RolloverParams where
  nonce : Felt
  chainId : Felt
  tongoAddress : Felt
  senderAddress : Felt

structure RolloverProof (Point : Type) where
  y : Point
  proof : PoeProof
  pendingAmount : ℕ
deriving DecidableEq

def rolloverCairoString : Felt := 0x726f6c6c6f766572

def rollover (draw : Felt) (account : TongoAccount Point) (params : RolloverParams) :
    Result (RolloverProof Point) := do
  let y := account.ownerPublicKey
  let yAffine ← projectiveToAffine y
  let prefixFelt := poseidonHashMany [params.chainId, params.tongoAddress, params.senderAddress,
    rolloverCairoString, yAffine.x, yAffine.y, params.nonce]
  let (_, proof) ← (ProofOfExponentiation.prove draw account.ownerPrivateKey prefixFelt :
    Result (Point × PoeProof))
  pure { y, proof, pendingAmount := account.state.pendingBalance }

end KrustyKms.Sdk

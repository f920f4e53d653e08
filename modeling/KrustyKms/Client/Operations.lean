import KrustyKms.Sdk.Ragequit
import KrustyKms.Sdk.Serialization
import KrustyKms.Sdk.Withdraw

/-!
# Tongo operation calldata builders

The calls of the Tongo operations for an account of `starknet-rs`, whose felts are another type
than the SDK's: they are converted by their bytes.
-/

namespace KrustyKms.Client

open Crypto Sdk

variable {Point : Type} [CurvePoint Point]

structure Call where
  toAddress : Felt
  selector : Felt
  calldata : List Felt
deriving DecidableEq

/-- `get_selector_from_name` of `starknet-rs`; an error is its text. -/
class SelectorNames where
  getSelectorFromName : String → Except String Felt

/-- Convert a felt of the SDK. -/
def coreFeltToRs (felt : Felt) : Felt := Felt.fromBytesBe (Felt.toBytesBe felt)

lemma coreFeltToRs_eq (felt : Felt) : coreFeltToRs felt = felt := fromBytesBe_toBytesBe felt

lemma map_coreFeltToRs (felts : List Felt) : felts.map coreFeltToRs = felts := by
  rw [funext coreFeltToRs_eq, List.map_id']

def auditFelts (audit : Option (Audit Point)) : Result (List Felt) :=
  serializeAuditOption (audit.map fun audit =>
    ⟨audit.auditedBalance, audit.hintCiphertext, audit.hintNonce, audit.proof⟩)

section Builders

variable [SelectorNames]

def selectorOf (name : String) : Result Felt :=
  (SelectorNames.getSelectorFromName name).mapError .cryptoError

def buildErc20Approve (erc20Address spender : Felt) (amount : ℕ) : Result Call := do
  let (low, high) := u128ToU256 amount
  pure {
    toAddress := coreFeltToRs erc20Address
    selector := ← selectorOf "approve"
    calldata := [spender, low, high].map coreFeltToRs }

def buildFundCalls (tongoAddress erc20Address : Felt) (rate : ℕ) (proof : FundProof Point)
    (hintCiphertext : Vector UInt8 64) (hintNonce : Vector UInt8 24) : Result (Call × Call) := do
  let approveAmount ← match checkedMulU128 proof.amount rate with
    | some amount => pure amount
    | none => throw (.invalidAmount "approve amount overflow: amount * rate exceeds u128")
  let approveCall ← buildErc20Approve erc20Address tongoAddress approveAmount
  let (toX, toY) ← serializeProjectivePoint proof.y
  let hint ← serializeAeBalance hintCiphertext.toList hintNonce.toList
  let proofFelts ← serializePoeProof proof.proof
  let audit ← auditFelts proof.audit
  let fundCall := {
    toAddress := coreFeltToRs tongoAddress
    selector := ← selectorOf "fund"
    calldata :=
      ([toX, toY, (proof.amount : Felt)] ++ hint ++ proofFelts ++ audit).map coreFeltToRs }
  pure (approveCall, fundCall)

def buildRolloverCall (tongoAddress : Felt) (proof : RolloverProof Point)
    (hintCiphertext : Vector UInt8 64) (hintNonce : Vector UInt8 24) : Result Call := do
  let (toX, toY) ← serializeProjectivePoint proof.y
  let hint ← serializeAeBalance hintCiphertext.toList hintNonce.toList
  let proofFelts ← serializePoeProof proof.proof
  pure {
    toAddress := coreFeltToRs tongoAddress
    selector := ← selectorOf "rollover"
    calldata := ([toX, toY] ++ hint ++ proofFelts).map coreFeltToRs }

def buildWithdrawCall (tongoAddress : Felt) (proof : WithdrawProof Point)
    (hintCiphertext : Vector UInt8 64) (hintNonce : Vector UInt8 24) : Result Call := do
  let (fromX, fromY) ← serializeProjectivePoint proof.y
  let hint ← serializeAeBalance hintCiphertext.toList hintNonce.toList
  let auxiliarCipher ← serializeCipherBalance proof.auxiliarCipher
  let (axX, axY) ← serializeProjectivePoint proof.aX
  let (arX, arY) ← serializeProjectivePoint proof.aR
  let (aX, aY) ← serializeProjectivePoint proof.a
  let (avX, avY) ← serializeProjectivePoint proof.aV
  let range ← serializeRange proof.range
  let audit ← auditFelts proof.audit
  pure {
    toAddress := coreFeltToRs tongoAddress
    selector := ← selectorOf "withdraw"
    calldata := ([fromX, fromY, proof.recipient, (proof.amount : Felt)] ++ hint ++
      auxiliarCipher ++ [axX, axY, arX, arY, aX, aY, avX, avY, proof.sx, proof.sb, proof.sr] ++
      range ++ audit).map coreFeltToRs }

def buildTransferCall (tongoAddress : Felt) (sender recipient : Point) (proof : TransferProof Point)
    (hintTransferCiphertext : Vector UInt8 64) (hintTransferNonce : Vector UInt8 24)
    (hintLeftoverCiphertext : Vector UInt8 64) (hintLeftoverNonce : Vector UInt8 24) :
    Result Call := do
  let (fromX, fromY) ← serializeProjectivePoint sender
  let (toX, toY) ← serializeProjectivePoint recipient
  let (tbLX, tbLY) ← serializeProjectivePoint proof.transferBalanceL
  let (tbRX, tbRY) ← serializeProjectivePoint proof.transferBalanceR
  let (tbsLX, tbsLY) ← serializeProjectivePoint proof.transferBalanceSelfL
  let (tbsRX, tbsRY) ← serializeProjectivePoint proof.transferBalanceSelfR
  let hintTransfer ←
    serializeAeBalance hintTransferCiphertext.toList hintTransferNonce.toList
  let hintLeftover ←
    serializeAeBalance hintLeftoverCiphertext.toList hintLeftoverNonce.toList
  let auxiliarCipher ← serializeCipherBalance proof.auxiliarCipher
  let auxiliarCipher2 ← serializeCipherBalance proof.auxiliarCipher2
  let proofFelts ← serializeProofOfTransfer proof.proof
  let auditBalance ← auditFelts proof.auditBalance
  let auditTransfer ← auditFelts proof.auditTransfer
  pure {
    toAddress := coreFeltToRs tongoAddress
    selector := ← selectorOf "transfer"
    calldata := ([fromX, fromY, toX, toY, tbLX, tbLY, tbRX, tbRY, tbsLX, tbsLY, tbsRX, tbsRY] ++
      hintTransfer ++ hintLeftover ++ auxiliarCipher ++ auxiliarCipher2 ++ proofFelts ++
      auditBalance ++ auditTransfer).map coreFeltToRs }

def buildRagequitCall (tongoAddress : Felt) (proof : RagequitProof Point)
    (hintCiphertext : Vector UInt8 64) (hintNonce : Vector UInt8 24) : Result Call := do
  let (fromX, fromY) ← serializeProjectivePoint proof.y
  let hint ← serializeAeBalance hintCiphertext.toList hintNonce.toList
  let (axX, axY) ← serializeProjectivePoint proof.aX
  let (arX, arY) ← serializeProjectivePoint proof.aR
  let audit ← auditFelts proof.audit
  pure {
    toAddress := coreFeltToRs tongoAddress
    selector := ← selectorOf "ragequit"
    calldata := ([fromX, fromY, proof.recipient, (proof.amount : Felt)] ++ hint ++
      [axX, axY, arX, arY, proof.sx] ++ audit).map coreFeltToRs }

end Builders

end KrustyKms.Client

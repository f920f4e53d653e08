import KrustyKms.Ffi.Helpers
import KrustyKms.Sdk.ProofJson
import KrustyKms.Sdk.Ragequit
import KrustyKms.Sdk.Withdraw

/-!
# Proof generation over the C interface

Each generator reads its parameters from a JSON document, runs the operation of the SDK, and
writes the fields of the proof as another document (`fundResult` and its siblings).
-/

namespace KrustyKms.Ffi

open Codec Crypto Sdk Support

variable {Point : Type} [CurvePoint Point]

def defaultBitSize : ℕ := 40

/-! ## Results -/

structure JsonFundResult where
  yX : String
  yY : String
  proofJson : String
  amount : String
  auditJson : Option String

def JsonFundResult.toJson (result : JsonFundResult) : Json := .object [
  ("y_x", .string result.yX), ("y_y", .string result.yY),
  ("proof_json", .string result.proofJson), ("amount", .string result.amount),
  ("audit_json", Json.ofOptionalText result.auditJson)]

structure JsonTransferResult where
  transferLX : String
  transferLY : String
  transferRX : String
  transferRY : String
  selfLX : String
  selfLY : String
  selfRX : String
  selfRY : String
  newBalanceLX : String
  newBalanceLY : String
  newBalanceRX : String
  newBalanceRY : String
  auxVX : String
  auxVY : String
  auxRX : String
  auxRY : String
  aux2VX : String
  aux2VY : String
  aux2RX : String
  aux2RY : String
  proofJson : String
  auditBalanceJson : Option String
  auditTransferJson : Option String

def JsonTransferResult.toJson (result : JsonTransferResult) : Json := .object [
  ("transfer_l_x", .string result.transferLX), ("transfer_l_y", .string result.transferLY),
  ("transfer_r_x", .string result.transferRX), ("transfer_r_y", .string result.transferRY),
  ("self_l_x", .string result.selfLX), ("self_l_y", .string result.selfLY),
  ("self_r_x", .string result.selfRX), ("self_r_y", .string result.selfRY),
  ("new_balance_l_x", .string result.newBalanceLX),
  ("new_balance_l_y", .string result.newBalanceLY),
  ("new_balance_r_x", .string result.newBalanceRX),
  ("new_balance_r_y", .string result.newBalanceRY),
  ("aux_v_x", .string result.auxVX), ("aux_v_y", .string result.auxVY),
  ("aux_r_x", .string result.auxRX), ("aux_r_y", .string result.auxRY),
  ("aux2_v_x", .string result.aux2VX), ("aux2_v_y", .string result.aux2VY),
  ("aux2_r_x", .string result.aux2RX), ("aux2_r_y", .string result.aux2RY),
  ("proof_json", .string result.proofJson),
  ("audit_balance_json", Json.ofOptionalText result.auditBalanceJson),
  ("audit_transfer_json", Json.ofOptionalText result.auditTransferJson)]

structure JsonRolloverResult where
  yX : String
  yY : String
  proofJson : String
  pendingAmount : String

def JsonRolloverResult.toJson (result : JsonRolloverResult) : Json := .object [
  ("y_x", .string result.yX), ("y_y", .string result.yY),
  ("proof_json", .string result.proofJson), ("pending_amount", .string result.pendingAmount)]

structure JsonWithdrawResult where
  yX : String
  yY : String
  aXX : String
  aXY : String
  aRX : String
  aRY : String
  aX2 : String
  aY2 : String
  aVX : String
  aVY : String
  sx : String
  sb : String
  sr : String
  vAuxX : String
  vAuxY : String
  rAuxX : String
  rAuxY : String
  rangeJson : String
  amount : String
  recipient : String
  auditJson : Option String

def JsonWithdrawResult.toJson (result : JsonWithdrawResult) : Json := .object [
  ("y_x", .string result.yX), ("y_y", .string result.yY), ("a_x_x", .string result.aXX),
  ("a_x_y", .string result.aXY), ("a_r_x", .string result.aRX), ("a_r_y", .string result.aRY),
  ("a_x2", .string result.aX2), ("a_y2", .string result.aY2), ("a_v_x", .string result.aVX),
  ("a_v_y", .string result.aVY), ("sx", .string result.sx), ("sb", .string result.sb),
  ("sr", .string result.sr), ("v_aux_x", .string result.vAuxX), ("v_aux_y", .string result.vAuxY),
  ("r_aux_x", .string result.rAuxX), ("r_aux_y", .string result.rAuxY),
  ("range_json", .string result.rangeJson), ("amount", .string result.amount),
  ("recipient", .string result.recipient), ("audit_json", Json.ofOptionalText result.auditJson)]

structure JsonRagequitResult where
  yX : String
  yY : String
  aXX : String
  aXY : String
  aRX : String
  aRY : String
  sx : String
  amount : String
  recipient : String
  auditJson : Option String

def JsonRagequitResult.toJson (result : JsonRagequitResult) : Json := .object [
  ("y_x", .string result.yX), ("y_y", .string result.yY), ("a_x_x", .string result.aXX),
  ("a_x_y", .string result.aXY), ("a_r_x", .string result.aRX), ("a_r_y", .string result.aRY),
  ("sx", .string result.sx), ("amount", .string result.amount),
  ("recipient", .string result.recipient), ("audit_json", Json.ofOptionalText result.auditJson)]

/-! ## What a proof is written as -/

def pointToHexXy (point : Point) : Status (String × String) :=
  match toAffine point with
  | some affine => .ok (affine.x.toFixedHex, affine.y.toFixedHex)
  | none => .error kmsErrCrypto

section Writing

variable [FeltParser]

def serializeAudit (audit : Audit Point) : Status String := do
  let (lX, lY) ← pointToHexXy audit.auditedBalance.l
  let (rX, rY) ← pointToHexXy audit.auditedBalance.r
  pure (toDeterministicJson (.object [
    ("audited_balance", .object [
      ("l", .object [("x", .string lX), ("y", .string lY)]),
      ("r", .object [("x", .string rX), ("y", .string rY)])]),
    ("hint_ciphertext", .string (encodeBytes audit.hintCiphertext.toList)),
    ("hint_nonce", .string (encodeBytes audit.hintNonce.toList)),
    ("proof", auditProofToJson audit.proof)]))

def fundResult (proof : FundProof Point) : Status String := do
  let (yX, yY) ← pointToHexXy proof.y
  let proofJson := toDeterministicJson (poeProofToJson proof.proof)
  let auditJson ← proof.audit.mapM serializeAudit
  let result : JsonFundResult :=
    { yX, yY, proofJson, amount := toString proof.amount, auditJson }
  pure result.toJson.write

def transferResult (proof : TransferProof Point) : Status String := do
  let (transferLX, transferLY) ← pointToHexXy proof.transferBalanceL
  let (transferRX, transferRY) ← pointToHexXy proof.transferBalanceR
  let (selfLX, selfLY) ← pointToHexXy proof.transferBalanceSelfL
  let (selfRX, selfRY) ← pointToHexXy proof.transferBalanceSelfR
  let (newBalanceLX, newBalanceLY) ← pointToHexXy proof.newBalanceCipher.l
  let (newBalanceRX, newBalanceRY) ← pointToHexXy proof.newBalanceCipher.r
  let (auxVX, auxVY) ← pointToHexXy proof.auxiliarCipher.l
  let (auxRX, auxRY) ← pointToHexXy proof.auxiliarCipher.r
  let (aux2VX, aux2VY) ← pointToHexXy proof.auxiliarCipher2.l
  let (aux2RX, aux2RY) ← pointToHexXy proof.auxiliarCipher2.r
  let proofJson := toDeterministicJson (proofOfTransferToJson proof.proof)
  let auditBalanceJson ← proof.auditBalance.mapM serializeAudit
  let auditTransferJson ← proof.auditTransfer.mapM serializeAudit
  let result : JsonTransferResult := {
    transferLX, transferLY, transferRX, transferRY, selfLX, selfLY, selfRX, selfRY, newBalanceLX,
    newBalanceLY, newBalanceRX, newBalanceRY, auxVX, auxVY, auxRX, auxRY, aux2VX, aux2VY, aux2RX,
    aux2RY, proofJson, auditBalanceJson, auditTransferJson }
  pure result.toJson.write

def rolloverResult (proof : RolloverProof Point) : Status String := do
  let (yX, yY) ← pointToHexXy proof.y
  let proofJson := toDeterministicJson (poeProofToJson proof.proof)
  let result : JsonRolloverResult :=
    { yX, yY, proofJson, pendingAmount := toString proof.pendingAmount }
  pure result.toJson.write

def withdrawResult (proof : WithdrawProof Point) : Status String := do
  let (yX, yY) ← pointToHexXy proof.y
  let (aXX, aXY) ← pointToHexXy proof.aX
  let (aRX, aRY) ← pointToHexXy proof.aR
  let (aX2, aY2) ← pointToHexXy proof.a
  let (aVX, aVY) ← pointToHexXy proof.aV
  let (vAuxX, vAuxY) ← pointToHexXy proof.auxiliarCipher.l
  let (rAuxX, rAuxY) ← pointToHexXy proof.auxiliarCipher.r
  let rangeJson := toDeterministicJson (rangeToJson proof.range)
  let auditJson ← proof.audit.mapM serializeAudit
  let result : JsonWithdrawResult := {
    yX, yY, aXX, aXY, aRX, aRY, aX2, aY2, aVX, aVY
    sx := proof.sx.toFixedHex
    sb := proof.sb.toFixedHex
    sr := proof.sr.toFixedHex
    vAuxX, vAuxY, rAuxX, rAuxY, rangeJson
    amount := toString proof.amount
    recipient := proof.recipient.toFixedHex
    auditJson }
  pure result.toJson.write

def ragequitResult (proof : RagequitProof Point) : Status String := do
  let (yX, yY) ← pointToHexXy proof.y
  let (aXX, aXY) ← pointToHexXy proof.aX
  let (aRX, aRY) ← pointToHexXy proof.aR
  let auditJson ← proof.audit.mapM serializeAudit
  let result : JsonRagequitResult := {
    yX, yY, aXX, aXY, aRX, aRY
    sx := proof.sx.toFixedHex
    amount := toString proof.amount
    recipient := proof.recipient.toFixedHex
    auditJson }
  pure result.toJson.write

end Writing

/-! ## Parameters -/

structure JsonCiphertext where
  lX : String
  lY : String
  rX : String
  rY : String

def JsonCiphertext.fromJson (json : Json) : Option JsonCiphertext := do
  let field ← json.fieldsOf ["l_x", "l_y", "r_x", "r_y"]
  pure {
    lX := ← Json.textOf field "l_x"
    lY := ← Json.textOf field "l_y"
    rX := ← Json.textOf field "r_x"
    rY := ← Json.textOf field "r_y" }

def optionalU8Of (field : String → Option Json) (name : String) : Option (Option UInt8) :=
  match field name with
  | none | some .null => some none
  | some json => do
    let value ← json.asU64
    if value.toNat < 2 ^ 8 then some (some value.toUInt8) else none

structure JsonContext where
  nonce : String
  chainId : String
  tongoAddress : String
  senderAddress : String

def JsonContext.ofFields (field : String → Option Json) : Option JsonContext := do
  pure {
    nonce := ← Json.textOf field "nonce"
    chainId := ← Json.textOf field "chain_id"
    tongoAddress := ← Json.textOf field "tongo_address"
    senderAddress := ← Json.textOf field "sender_address" }

structure JsonFundParams extends JsonContext where
  amount : String
  currentCipher : JsonCiphertext
  auditorPublicKey : Option String

def JsonFundParams.fromJson (json : Json) : Option JsonFundParams := do
  let field ← json.fieldsOf ["amount", "nonce", "chain_id", "tongo_address", "sender_address",
    "current_cipher", "auditor_public_key"]
  pure {
    toJsonContext := ← JsonContext.ofFields field
    amount := ← Json.textOf field "amount"
    currentCipher := ← (field "current_cipher").bind JsonCiphertext.fromJson
    auditorPublicKey := ← Json.optionalTextOf field "auditor_public_key" }

structure JsonTransferParams extends JsonContext where
  recipientPublicKey : String
  amount : String
  currentCipher : JsonCiphertext
  bitSize : Option UInt8
  auditorPublicKey : Option String

def JsonTransferParams.fromJson (json : Json) : Option JsonTransferParams := do
  let field ← json.fieldsOf ["recipient_public_key", "amount", "nonce", "chain_id",
    "tongo_address", "sender_address", "current_cipher", "bit_size", "auditor_public_key"]
  pure {
    toJsonContext := ← JsonContext.ofFields field
    recipientPublicKey := ← Json.textOf field "recipient_public_key"
    amount := ← Json.textOf field "amount"
    currentCipher := ← (field "current_cipher").bind JsonCiphertext.fromJson
    bitSize := ← optionalU8Of field "bit_size"
    auditorPublicKey := ← Json.optionalTextOf field "auditor_public_key" }

def JsonRolloverParams.fromJson (json : Json) : Option JsonContext := do
  let field ← json.fieldsOf ["nonce", "chain_id", "tongo_address", "sender_address"]
  JsonContext.ofFields field

structure JsonWithdrawParams extends JsonContext where
  recipientAddress : String
  amount : String
  currentCipher : JsonCiphertext
  bitSize : Option UInt8
  auditorPublicKey : Option String

def JsonWithdrawParams.fromJson (json : Json) : Option JsonWithdrawParams := do
  let field ← json.fieldsOf ["recipient_address", "amount", "nonce", "chain_id",
    "tongo_address", "sender_address", "current_cipher", "bit_size", "auditor_public_key"]
  pure {
    toJsonContext := ← JsonContext.ofFields field
    recipientAddress := ← Json.textOf field "recipient_address"
    amount := ← Json.textOf field "amount"
    currentCipher := ← (field "current_cipher").bind JsonCiphertext.fromJson
    bitSize := ← optionalU8Of field "bit_size"
    auditorPublicKey := ← Json.optionalTextOf field "auditor_public_key" }

structure JsonRagequitParams extends JsonContext where
  recipientAddress : String
  currentCipher : JsonCiphertext
  auditorPublicKey : Option String

def JsonRagequitParams.fromJson (json : Json) : Option JsonRagequitParams := do
  let field ← json.fieldsOf ["recipient_address", "nonce", "chain_id", "tongo_address",
    "sender_address", "current_cipher", "auditor_public_key"]
  pure {
    toJsonContext := ← JsonContext.ofFields field
    recipientAddress := ← Json.textOf field "recipient_address"
    currentCipher := ← (field "current_cipher").bind JsonCiphertext.fromJson
    auditorPublicKey := ← Json.optionalTextOf field "auditor_public_key" }

/-! ## Generators -/

section Generators

variable [FeltParser]

def parseCiphertext (c : JsonCiphertext) : Status (ElGamalCiphertext Point) := do
  let lx ← parseFelt c.lX
  let ly ← parseFelt c.lY
  let rx ← parseFelt c.rX
  let ry ← parseFelt c.rY
  let l ← fromAffine lx ly
  let r ← fromAffine rx ry
  pure { l, r }

def ofRun {α : Type} (run : MayPanic KmsError α) : Status α :=
  match run.run with
  | some (.ok value) => .ok value
  | some (.error _) => .error kmsErrCrypto
  | none => .error kmsErrInternal

variable [SerdeJson] [Poseidon] [Sha256] [XChaCha20Poly1305]

/-- What the generators do once the parameters are parsed. -/
def generateProof {Params Proof : Type} (account : Status (TongoAccount Point))
    (params : Status Params) (prove : TongoAccount Point → Params → Status Proof)
    (result : Proof → Status String) : Status String := do
  let params ← params
  let account ← account
  let proof ← prove account params
  result proof

def kmsGenerateFundProof (draws : FundDraws) (account : Status (TongoAccount Point))
    (paramsJson : String) : Status String :=
  generateProof account (do
    let params ← readJson JsonFundParams.fromJson paramsJson
    let amount ← parseU128 params.amount
    let currentBalance ← parseCiphertext params.currentCipher
    let auditorPubKey ← params.auditorPublicKey.mapM parsePublicKey
    let nonce ← parseFelt params.nonce
    let chainId ← parseFelt params.chainId
    let tongoAddress ← parseFelt params.tongoAddress
    let senderAddress ← parseFelt params.senderAddress
    pure { amount, nonce, chainId, tongoAddress, senderAddress, auditorPubKey, currentBalance })
    (fun account params => (fund draws account params).mapError fun _ => kmsErrCrypto) fundResult

def kmsGenerateTransferProof (draws : TransferDraws) (account : Status (TongoAccount Point))
    (paramsJson : String) : Status String :=
  generateProof account (do
    let params ← readJson JsonTransferParams.fromJson paramsJson
    let amount ← parseU128 params.amount
    let currentBalance ← parseCiphertext params.currentCipher
    let recipientPublicKey ← parsePublicKey params.recipientPublicKey
    let auditorPubKey ← params.auditorPublicKey.mapM parsePublicKey
    let nonce ← parseFelt params.nonce
    let chainId ← parseFelt params.chainId
    let tongoAddress ← parseFelt params.tongoAddress
    let senderAddress ← parseFelt params.senderAddress
    let bitSize := (params.bitSize.map UInt8.toNat).getD defaultBitSize
    pure {
      recipientPublicKey, amount, nonce, chainId, tongoAddress, senderAddress, currentBalance,
      bitSize, auditorPubKey })
    (fun account params => ofRun (transfer draws account params)) transferResult

def kmsGenerateRolloverProof (draw : Felt) (account : Status (TongoAccount Point))
    (paramsJson : String) : Status String :=
  generateProof account (do
    let params ← readJson JsonRolloverParams.fromJson paramsJson
    let nonce ← parseFelt params.nonce
    let chainId ← parseFelt params.chainId
    let tongoAddress ← parseFelt params.tongoAddress
    let senderAddress ← parseFelt params.senderAddress
    pure { nonce, chainId, tongoAddress, senderAddress })
    (fun account params => (rollover draw account params).mapError fun _ => kmsErrCrypto)
    rolloverResult

def kmsGenerateWithdrawProof (draws : WithdrawDraws) (account : Status (TongoAccount Point))
    (paramsJson : String) : Status String :=
  generateProof account (do
    let params ← readJson JsonWithdrawParams.fromJson paramsJson
    let amount ← parseU128 params.amount
    let currentBalance ← parseCiphertext params.currentCipher
    let auditorKey ← params.auditorPublicKey.mapM parsePublicKey
    let recipientAddress ← parseFelt params.recipientAddress
    let nonce ← parseFelt params.nonce
    let chainId ← parseFelt params.chainId
    let tongoAddress ← parseFelt params.tongoAddress
    let senderAddress ← parseFelt params.senderAddress
    let bitSize := (params.bitSize.map UInt8.toNat).getD defaultBitSize
    pure {
      recipientAddress, amount, nonce, chainId, tongoAddress, senderAddress, currentBalance,
      bitSize, auditorKey })
    (fun account params => ofRun (withdraw draws account params)) withdrawResult

def kmsGenerateRagequitProof (draws : RagequitDraws) (account : Status (TongoAccount Point))
    (paramsJson : String) : Status String :=
  generateProof account (do
    let params ← readJson JsonRagequitParams.fromJson paramsJson
    let currentBalance ← parseCiphertext params.currentCipher
    let auditorKey ← params.auditorPublicKey.mapM parsePublicKey
    let recipientAddress ← parseFelt params.recipientAddress
    let nonce ← parseFelt params.nonce
    let chainId ← parseFelt params.chainId
    let tongoAddress ← parseFelt params.tongoAddress
    let senderAddress ← parseFelt params.senderAddress
    pure {
      recipientAddress, nonce, chainId, tongoAddress, senderAddress, currentBalance, auditorKey })
    (fun account params => (ragequit draws account params).mapError fun _ => kmsErrCrypto)
    ragequitResult

end Generators

end KrustyKms.Ffi

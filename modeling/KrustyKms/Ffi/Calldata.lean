import KrustyKms.Ffi.Proof

/-!
# Calldata encoding over the C interface

Each encoder reads the fields of a proof and the addresses from a JSON document and writes the
calls to submit as another, with hexadecimal text for felts.
-/

namespace KrustyKms.Ffi

open Codec Crypto Sdk

variable {Point : Type} [CurvePoint Point]

/-! ## Calls -/

structure CallJson where
  toAddress : String
  selector : String
  calldata : List String

def CallJson.toJson (call : CallJson) : Json := .object [
  ("to", .string call.toAddress), ("selector", .string call.selector),
  ("calldata", .array (call.calldata.map .string))]

def buildCallsJson (calls : List CallJson) : String :=
  (Json.object [("calls", .array (calls.map CallJson.toJson))]).write

def selector [Keccak256] (name : String) : Felt :=
  Felt.fromBytesBeSlice ((Keccak256.digest (utf8 name)).toList.modifyHead (· &&& 0x03))

def feltsToHexVec (felts : List Felt) : List String := felts.map Felt.toHex

/-! ## Parts of the calldata -/

def decodeHexBytes (n : ℕ) (hexData : String) : Status (Vector UInt8 n) :=
  match (decodeBytes hexData).bind (arrayFromSlice n) with
  | some bytes => .ok bytes
  | none => .error kmsErrInvalidInput

def cryptoStatus {α : Type} (result : Result α) : Status α :=
  result.mapError fun _ => kmsErrCrypto

def hintFelts (hintCiphertextHex hintNonceHex : String) : Status (List String) := do
  let ciphertext ← decodeHexBytes 64 hintCiphertextHex
  let nonce ← decodeHexBytes 24 hintNonceHex
  let felts ← cryptoStatus (serializeAeBalance ciphertext.toList nonce.toList)
  pure (feltsToHexVec felts)

structure AuditJsonPoint where
  x : String
  y : String

structure AuditJsonCipherBalance where
  l : AuditJsonPoint
  r : AuditJsonPoint

structure AuditJsonData where
  auditedBalance : AuditJsonCipherBalance
  hintCiphertext : String
  hintNonce : String
  proof : AuditProof

def AuditJsonPoint.fromJson (json : Json) : Option AuditJsonPoint := do
  let field ← json.fieldsOf ["x", "y"]
  pure ⟨← Json.textOf field "x", ← Json.textOf field "y"⟩

def AuditJsonCipherBalance.fromJson (json : Json) : Option AuditJsonCipherBalance := do
  let field ← json.fieldsOf ["l", "r"]
  pure ⟨← (field "l").bind AuditJsonPoint.fromJson, ← (field "r").bind AuditJsonPoint.fromJson⟩

def AuditJsonData.fromJson [FeltSerde] (json : Json) : Option AuditJsonData := do
  let field ← json.fieldsOf ["audited_balance", "hint_ciphertext", "hint_nonce", "proof"]
  pure {
    auditedBalance := ← (field "audited_balance").bind AuditJsonCipherBalance.fromJson
    hintCiphertext := ← Json.textOf field "hint_ciphertext"
    hintNonce := ← Json.textOf field "hint_nonce"
    proof := ← (field "proof").bind auditProofFromJson }

section Parts

variable [FeltParser]

def parseProjectivePoint (point : AuditJsonPoint) : Status Point := do
  let x ← parseFelt point.x
  let y ← parseFelt point.y
  fromAffine x y

def publicKeyFelts (Point : Type) [CurvePoint Point] (publicKeyHex : String) :
    Status (List String) := do
  let point ← (parsePublicKey publicKeyHex : Status Point)
  let (x, y) ← (serializeProjectivePoint point).mapError fun _ => kmsErrInvalidInput
  pure [x.toHex, y.toHex]

def feltText (text : String) : Status String := do
  let felt ← parseFelt text
  pure felt.toHex

variable [SerdeJson] [FeltSerde]

def auditOptionFelts (Point : Type) [CurvePoint Point] :
    Option String → Status (List String)
  | some auditJson => do
    let audit ← readJson AuditJsonData.fromJson auditJson
    let l ← (parseProjectivePoint audit.auditedBalance.l : Status Point)
    let r ← parseProjectivePoint audit.auditedBalance.r
    let hintCiphertext ← decodeHexBytes 64 audit.hintCiphertext
    let hintNonce ← decodeHexBytes 24 audit.hintNonce
    let felts ← cryptoStatus (serializeAuditOption
      (some ⟨⟨l, r⟩, hintCiphertext, hintNonce, audit.proof⟩))
    pure (feltsToHexVec felts)
  | none => do
    let felts ← cryptoStatus (serializeAuditOption (none : Option (AuditCalldata Point)))
    pure (feltsToHexVec felts)

end Parts

/-! ## Fields of the proofs -/

def FundProofData.fromJson (json : Json) : Option JsonFundResult := do
  let field ← json.fieldsOf ["y_x", "y_y", "proof_json", "amount", "audit_json"]
  pure {
    yX := ← Json.textOf field "y_x"
    yY := ← Json.textOf field "y_y"
    proofJson := ← Json.textOf field "proof_json"
    amount := ← Json.textOf field "amount"
    auditJson := ← Json.optionalTextOf field "audit_json" }

structure RolloverProofData where
  yX : String
  yY : String
  proofJson : String

def RolloverProofData.fromJson (json : Json) : Option RolloverProofData := do
  let field ← json.fieldsOf ["y_x", "y_y", "proof_json"]
  pure {
    yX := ← Json.textOf field "y_x"
    yY := ← Json.textOf field "y_y"
    proofJson := ← Json.textOf field "proof_json" }

def TransferProofData.fromJson (json : Json) : Option JsonTransferResult := do
  let field ← json.fieldsOf ["transfer_l_x", "transfer_l_y", "transfer_r_x", "transfer_r_y",
    "self_l_x", "self_l_y", "self_r_x", "self_r_y", "new_balance_l_x", "new_balance_l_y",
    "new_balance_r_x", "new_balance_r_y", "aux_v_x", "aux_v_y", "aux_r_x", "aux_r_y", "aux2_v_x",
    "aux2_v_y", "aux2_r_x", "aux2_r_y", "proof_json", "audit_balance_json", "audit_transfer_json"]
  pure {
    transferLX := ← Json.textOf field "transfer_l_x"
    transferLY := ← Json.textOf field "transfer_l_y"
    transferRX := ← Json.textOf field "transfer_r_x"
    transferRY := ← Json.textOf field "transfer_r_y"
    selfLX := ← Json.textOf field "self_l_x"
    selfLY := ← Json.textOf field "self_l_y"
    selfRX := ← Json.textOf field "self_r_x"
    selfRY := ← Json.textOf field "self_r_y"
    newBalanceLX := ← Json.textOf field "new_balance_l_x"
    newBalanceLY := ← Json.textOf field "new_balance_l_y"
    newBalanceRX := ← Json.textOf field "new_balance_r_x"
    newBalanceRY := ← Json.textOf field "new_balance_r_y"
    auxVX := ← Json.textOf field "aux_v_x"
    auxVY := ← Json.textOf field "aux_v_y"
    auxRX := ← Json.textOf field "aux_r_x"
    auxRY := ← Json.textOf field "aux_r_y"
    aux2VX := ← Json.textOf field "aux2_v_x"
    aux2VY := ← Json.textOf field "aux2_v_y"
    aux2RX := ← Json.textOf field "aux2_r_x"
    aux2RY := ← Json.textOf field "aux2_r_y"
    proofJson := ← Json.textOf field "proof_json"
    auditBalanceJson := ← Json.optionalTextOf field "audit_balance_json"
    auditTransferJson := ← Json.optionalTextOf field "audit_transfer_json" }

def WithdrawProofData.fromJson (json : Json) : Option JsonWithdrawResult := do
  let field ← json.fieldsOf ["y_x", "y_y", "a_x_x", "a_x_y", "a_r_x", "a_r_y", "a_x2", "a_y2",
    "a_v_x", "a_v_y", "sx", "sb", "sr", "v_aux_x", "v_aux_y", "r_aux_x", "r_aux_y", "range_json",
    "amount", "recipient", "audit_json"]
  pure {
    yX := ← Json.textOf field "y_x"
    yY := ← Json.textOf field "y_y"
    aXX := ← Json.textOf field "a_x_x"
    aXY := ← Json.textOf field "a_x_y"
    aRX := ← Json.textOf field "a_r_x"
    aRY := ← Json.textOf field "a_r_y"
    aX2 := ← Json.textOf field "a_x2"
    aY2 := ← Json.textOf field "a_y2"
    aVX := ← Json.textOf field "a_v_x"
    aVY := ← Json.textOf field "a_v_y"
    sx := ← Json.textOf field "sx"
    sb := ← Json.textOf field "sb"
    sr := ← Json.textOf field "sr"
    vAuxX := ← Json.textOf field "v_aux_x"
    vAuxY := ← Json.textOf field "v_aux_y"
    rAuxX := ← Json.textOf field "r_aux_x"
    rAuxY := ← Json.textOf field "r_aux_y"
    rangeJson := ← Json.textOf field "range_json"
    amount := ← Json.textOf field "amount"
    recipient := ← Json.textOf field "recipient"
    auditJson := ← Json.optionalTextOf field "audit_json" }

def RagequitProofData.fromJson (json : Json) : Option JsonRagequitResult := do
  let field ← json.fieldsOf ["y_x", "y_y", "a_x_x", "a_x_y", "a_r_x", "a_r_y", "sx", "amount",
    "recipient", "audit_json"]
  pure {
    yX := ← Json.textOf field "y_x"
    yY := ← Json.textOf field "y_y"
    aXX := ← Json.textOf field "a_x_x"
    aXY := ← Json.textOf field "a_x_y"
    aRX := ← Json.textOf field "a_r_x"
    aRY := ← Json.textOf field "a_r_y"
    sx := ← Json.textOf field "sx"
    amount := ← Json.textOf field "amount"
    recipient := ← Json.textOf field "recipient"
    auditJson := ← Json.optionalTextOf field "audit_json" }

/-! ## Parameters -/

structure EncodeFundParams where
  tongoAddress : String
  erc20Address : String
  rate : String
  proofResultJson : String
  hintCiphertextHex : String
  hintNonceHex : String

def EncodeFundParams.fromJson (json : Json) : Option EncodeFundParams := do
  let field ← json.fieldsOf ["tongo_address", "erc20_address", "rate", "proof_result_json",
    "hint_ciphertext_hex", "hint_nonce_hex"]
  pure {
    tongoAddress := ← Json.textOf field "tongo_address"
    erc20Address := ← Json.textOf field "erc20_address"
    rate := ← Json.textOf field "rate"
    proofResultJson := ← Json.textOf field "proof_result_json"
    hintCiphertextHex := ← Json.textOf field "hint_ciphertext_hex"
    hintNonceHex := ← Json.textOf field "hint_nonce_hex" }

structure EncodeParams where
  tongoAddress : String
  proofResultJson : String
  hintCiphertextHex : String
  hintNonceHex : String

def EncodeParams.fromJson (json : Json) : Option EncodeParams := do
  let field ← json.fieldsOf ["tongo_address", "proof_result_json", "hint_ciphertext_hex",
    "hint_nonce_hex"]
  pure {
    tongoAddress := ← Json.textOf field "tongo_address"
    proofResultJson := ← Json.textOf field "proof_result_json"
    hintCiphertextHex := ← Json.textOf field "hint_ciphertext_hex"
    hintNonceHex := ← Json.textOf field "hint_nonce_hex" }

structure EncodeTransferParams where
  tongoAddress : String
  senderPublicKey : String
  recipientPublicKey : String
  proofResultJson : String
  hintCiphertextHex : String
  hintNonceHex : String
  hintLeftoverCiphertextHex : String
  hintLeftoverNonceHex : String

def EncodeTransferParams.fromJson (json : Json) : Option EncodeTransferParams := do
  let field ← json.fieldsOf ["tongo_address", "sender_public_key", "recipient_public_key",
    "proof_result_json", "hint_ciphertext_hex", "hint_nonce_hex", "hint_leftover_ciphertext_hex",
    "hint_leftover_nonce_hex"]
  pure {
    tongoAddress := ← Json.textOf field "tongo_address"
    senderPublicKey := ← Json.textOf field "sender_public_key"
    recipientPublicKey := ← Json.textOf field "recipient_public_key"
    proofResultJson := ← Json.textOf field "proof_result_json"
    hintCiphertextHex := ← Json.textOf field "hint_ciphertext_hex"
    hintNonceHex := ← Json.textOf field "hint_nonce_hex"
    hintLeftoverCiphertextHex := ← Json.textOf field "hint_leftover_ciphertext_hex"
    hintLeftoverNonceHex := ← Json.textOf field "hint_leftover_nonce_hex" }

/-! ## Encoders -/

section Encoders

variable [FeltParser] [SerdeJson] [FeltSerde] [Keccak256] (Point)

def kmsEncodeFundCalls (paramsJson : String) : Status String := do
  let params ← readJson EncodeFundParams.fromJson paramsJson
  let proofData ← readJson FundProofData.fromJson params.proofResultJson
  let amount ← parseU128 proofData.amount
  let rate ← parseU128 params.rate
  let tongoAddr ← parseFelt params.tongoAddress
  let approveAmount ← match checkedMulU128 amount rate with
    | some amount => pure amount
    | none => throw kmsErrInvalidInput
  let (low, high) := u128ToU256 approveAmount
  let yX ← feltText proofData.yX
  let yY ← feltText proofData.yY
  let hint ← hintFelts params.hintCiphertextHex params.hintNonceHex
  let poe ← readJson poeProofFromJson proofData.proofJson
  let proofFelts ← cryptoStatus (serializePoeProof poe)
  let audit ← auditOptionFelts Point proofData.auditJson
  pure (buildCallsJson [
    { toAddress := params.erc20Address
      selector := (selector "approve").toHex
      calldata := [tongoAddr.toHex, low.toHex, high.toHex] },
    { toAddress := params.tongoAddress
      selector := (selector "fund").toHex
      calldata := [yX, yY, (amount : Felt).toHex] ++ hint ++ feltsToHexVec proofFelts ++ audit }])

def kmsEncodeRolloverCalls (paramsJson : String) : Status String := do
  let params ← readJson EncodeParams.fromJson paramsJson
  let proofData ← readJson RolloverProofData.fromJson params.proofResultJson
  let yX ← feltText proofData.yX
  let yY ← feltText proofData.yY
  let hint ← hintFelts params.hintCiphertextHex params.hintNonceHex
  let poe ← readJson poeProofFromJson proofData.proofJson
  let proofFelts ← cryptoStatus (serializePoeProof poe)
  pure (buildCallsJson [
    { toAddress := params.tongoAddress
      selector := (selector "rollover").toHex
      calldata := [yX, yY] ++ hint ++ feltsToHexVec proofFelts }])

def transferCalldata (params : EncodeTransferParams) (proofData : JsonTransferResult) :
    Status (List String) := do
  let sender ← publicKeyFelts Point params.senderPublicKey
  let recipient ← publicKeyFelts Point params.recipientPublicKey
  let balances ← [proofData.transferLX, proofData.transferLY, proofData.transferRX,
    proofData.transferRY, proofData.selfLX, proofData.selfLY, proofData.selfRX,
    proofData.selfRY].mapM feltText
  let hint ← hintFelts params.hintCiphertextHex params.hintNonceHex
  let hintLeftover ← hintFelts params.hintLeftoverCiphertextHex params.hintLeftoverNonceHex
  let transferProof ← readJson proofOfTransferFromJson proofData.proofJson
  let proofFelts ← cryptoStatus (serializeProofOfTransfer transferProof)
  let auditBalance ← auditOptionFelts Point proofData.auditBalanceJson
  let auditTransfer ← auditOptionFelts Point proofData.auditTransferJson
  pure (sender ++ recipient ++ balances ++ hint ++ hintLeftover ++ [proofData.auxVX,
    proofData.auxVY, proofData.auxRX, proofData.auxRY, proofData.aux2VX, proofData.aux2VY,
    proofData.aux2RX, proofData.aux2RY] ++ feltsToHexVec proofFelts ++ auditBalance ++
    auditTransfer)

def kmsEncodeTransferCalls (paramsJson : String) : Status String := do
  let params ← readJson EncodeTransferParams.fromJson paramsJson
  let proofData ← readJson TransferProofData.fromJson params.proofResultJson
  let calldata ← transferCalldata Point params proofData
  pure (buildCallsJson [
    { toAddress := params.tongoAddress
      selector := (selector "transfer").toHex
      calldata }])

def kmsEncodeWithdrawCalls (paramsJson : String) : Status String := do
  let params ← readJson EncodeParams.fromJson paramsJson
  let pd ← readJson WithdrawProofData.fromJson params.proofResultJson
  let amount ← parseU128 pd.amount
  let hint ← hintFelts params.hintCiphertextHex params.hintNonceHex
  let range ← readJson rangeFromJson pd.rangeJson
  let rangeFelts ← cryptoStatus (serializeRange range)
  let audit ← auditOptionFelts Point pd.auditJson
  pure (buildCallsJson [
    { toAddress := params.tongoAddress
      selector := (selector "withdraw").toHex
      calldata := [pd.yX, pd.yY, pd.recipient, (amount : Felt).toHex] ++ hint ++
        [pd.vAuxX, pd.vAuxY, pd.rAuxX, pd.rAuxY, pd.aXX, pd.aXY, pd.aRX, pd.aRY, pd.aX2, pd.aY2,
          pd.aVX, pd.aVY, pd.sx, pd.sb, pd.sr] ++ feltsToHexVec rangeFelts ++ audit }])

def kmsEncodeRagequitCalls (paramsJson : String) : Status String := do
  let params ← readJson EncodeParams.fromJson paramsJson
  let pd ← readJson RagequitProofData.fromJson params.proofResultJson
  let amount ← parseU128 pd.amount
  let hint ← hintFelts params.hintCiphertextHex params.hintNonceHex
  let audit ← auditOptionFelts Point pd.auditJson
  pure (buildCallsJson [
    { toAddress := params.tongoAddress
      selector := (selector "ragequit").toHex
      calldata := [pd.yX, pd.yY, pd.recipient, (amount : Felt).toHex] ++ hint ++
        [pd.aXX, pd.aXY, pd.aRX, pd.aRY, pd.sx] ++ audit }])

end Encoders

end KrustyKms.Ffi

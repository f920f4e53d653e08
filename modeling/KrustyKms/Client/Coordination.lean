import KrustyKms.Client.Multisig
import KrustyKms.Common.FeltText
import KrustyKms.Common.JsonText

/-!
# Multisig coordination on the wire

Envelopes are published as JSON documents and received in two ways: one by one from a
subscription, or in an array that an HTTP response brings in chunks.
-/

namespace KrustyKms.Multisig

open Crypto

/-! ## Encodings -/

def addressToHex (address : Address) : String := address.asFelt.toFixedHex

def chainIdName : ChainId → String
  | .mainnet => "Mainnet"
  | .sepolia => "Sepolia"

def callToJson (call : MultisigCall) : Json := .object [
  ("to", .string (addressToHex call.toAddress)), ("selector", .string (feltToHex call.selector)),
  ("calldata", .array (call.calldata.val.map fun felt => .string (feltToHex felt)))]

def topicToJson (topic : MultisigTopic) : List (String × Json) := [
  ("multisig", .string (addressToHex topic.multisig)),
  ("chain_id", .string (chainIdName topic.chainId)),
  ("transaction_id", .string (feltToHex topic.transactionId))]

def memoToJson : Option String → List (String × Json)
  | some memo => [("memo", .string memo)]
  | none => []

namespace MultisigCoordinationMessage

def typeName : MultisigCoordinationMessage → String
  | proposal _ => "proposal"
  | confirmation _ => "confirmation"
  | revocation _ => "revocation"
  | execution _ => "execution"

def detailsToJson : MultisigCoordinationMessage → List (String × Json)
  | .proposal offer => [
      ("calls", .array (offer.calls.val.map callToJson)), ("salt", .string (feltToHex offer.salt)),
      ("proposer", .string (addressToHex offer.proposer))] ++ memoToJson offer.memo
  | confirmation notice | revocation notice => [("signer", .string (addressToHex notice.signer))]
  | execution notice => [("executor", .string (addressToHex notice.executor))]

def toJson (message : MultisigCoordinationMessage) : Json :=
  .object (("type", .string message.typeName) ::
    (topicToJson message.topic ++ message.detailsToJson))

end MultisigCoordinationMessage

/-- Versioned wire envelope published to and received from coordinators. -/
inductive MultisigCoordinationEnvelope where
  | signed (signed : SignedMultisigCoordinationMessage)
  | unsigned (message : MultisigCoordinationMessage)
deriving DecidableEq

namespace MultisigCoordinationEnvelope

def message : MultisigCoordinationEnvelope → MultisigCoordinationMessage
  | .signed envelope => envelope.message
  | unsigned message => message

def topic (envelope : MultisigCoordinationEnvelope) : MultisigTopic := envelope.message.topic

def toJson : MultisigCoordinationEnvelope → Json
  | .signed envelope => .object [
      ("version", .posInt envelope.version.toUInt64), ("message", envelope.message.toJson),
      ("signature", .array (envelope.signature.val.map fun felt => .string (feltToHex felt)))]
  | unsigned message => message.toJson

end MultisigCoordinationEnvelope

/-! ## Decoding -/

section Decoding

variable [FeltParser]

def feltFromJson (json : Json) : Option Felt :=
  json.asStr.bind fun text => (FeltParser.fromHex text).toOption

def addressFromJson (json : Json) : Option Address := (feltFromJson json).map Address.mk

def vecFromJson {α : Type} (decode : Json → Option α) : Json → Option (Vec α)
  | .array elements => do
    let values ← elements.mapM decode
    if h : values.length < 2 ^ 64 then some ⟨values, h⟩ else none
  | _ => none

def chainIdFromName (name : String) : Option ChainId :=
  if name = "Mainnet" then some .mainnet else if name = "Sepolia" then some .sepolia else none

def isUnit : Json → Bool
  | .null | .object [] => true
  | _ => false

def chainIdFromJson : Json → Option ChainId
  | .string name => chainIdFromName name
  | .object entries => do
    let (name, value) ← entries.getLast?
    guard (entries.all (·.1 = name) ∧ isUnit value)
    chainIdFromName name
  | _ => none

/-- The fields of a structure, where they are present: an object may hold other keys, and an
array holds the fields in their order. -/
def structFields (fields : List String) : Json → Option (List (Option Json))
  | .object entries => some (fields.map (Json.object entries).last)
  | .array elements =>
    if elements.length ≤ fields.length then
      some ((List.range fields.length).map fun i => elements[i]?)
    else none
  | _ => none

def orDefault {α : Type} (default : α) (decode : Json → Option α) : Option Json → Option α
  | some json => decode json
  | none => some default

def memoFromJson : Json → Option (Option String)
  | .null => some none
  | .string memo => some (some memo)
  | _ => none

def callFromJson (json : Json) : Option MultisigCall := do
  match ← structFields ["to", "selector", "calldata"] json with
  | [toAddress, selector, calldata] =>
    pure ⟨← toAddress.bind addressFromJson, ← selector.bind feltFromJson,
      ← orDefault ⟨[], by decide⟩ (vecFromJson feltFromJson) calldata⟩
  | _ => none

def proposalFromJson (json : Json) : Option MultisigProposal := do
  match ← structFields
      ["multisig", "chain_id", "transaction_id", "calls", "salt", "proposer", "memo"] json with
  | [multisig, chainId, transactionId, calls, salt, proposer, memo] =>
    pure ⟨← multisig.bind addressFromJson, ← chainId.bind chainIdFromJson,
      ← transactionId.bind feltFromJson, ← calls.bind (vecFromJson callFromJson),
      ← salt.bind feltFromJson, ← proposer.bind addressFromJson,
      ← orDefault none memoFromJson memo⟩
  | _ => none

def noticeFromJson (actor : String) (json : Json) : Option (MultisigTopic × Address) := do
  match ← structFields ["multisig", "chain_id", "transaction_id", actor] json with
  | [multisig, chainId, transactionId, actor] =>
    pure (⟨← multisig.bind addressFromJson, ← chainId.bind chainIdFromJson,
      ← transactionId.bind feltFromJson⟩, ← actor.bind addressFromJson)
  | _ => none

def signerNoticeFromJson (json : Json) : Option MultisigSignerNotice := do
  let (topic, signer) ← noticeFromJson "signer" json
  pure ⟨topic.multisig, topic.chainId, topic.transactionId, signer⟩

def executionNoticeFromJson (json : Json) : Option MultisigExecutionNotice := do
  let (topic, executor) ← noticeFromJson "executor" json
  pure ⟨topic.multisig, topic.chainId, topic.transactionId, executor⟩

def taggedContent : Json → Option (Json × Json)
  | .object entries => do
    let tag ← (Json.object entries).last "type"
    pure (tag, .object entries)
  | .array (tag :: elements) => some (tag, .array elements)
  | _ => none

def messageFromJson (json : Json) : Option MultisigCoordinationMessage := do
  let (tag, content) ← taggedContent json
  match tag with
  | .string "proposal" => (proposalFromJson content).map .proposal
  | .string "confirmation" => (signerNoticeFromJson content).map .confirmation
  | .string "revocation" => (signerNoticeFromJson content).map .revocation
  | .string "execution" => (executionNoticeFromJson content).map .execution
  | _ => none

def versionFromJson (json : Json) : Option UInt32 := do
  let version ← json.asU64
  if version.toNat < 2 ^ 32 then some version.toUInt32 else none

def signedFromJson (json : Json) : Option SignedMultisigCoordinationMessage := do
  match ← structFields ["version", "message", "signature"] json with
  | [version, message, signature] =>
    pure ⟨← version.bind versionFromJson, ← message.bind messageFromJson,
      ← signature.bind (vecFromJson feltFromJson)⟩
  | _ => none

def envelopeFromJson (json : Json) : Option MultisigCoordinationEnvelope :=
  if (json.last "version").isSome then (signedFromJson json).map .signed
  else (messageFromJson json).map .unsigned

end Decoding

/-! ## Validation -/

section Validation

variable [Pedersen]

def validateEnvelopePayload (envelope : MultisigCoordinationEnvelope) : Result Unit := do
  match envelope with
  | .signed envelope => envelope.validateStructure
  | .unsigned _ => pure ()
  match envelope.message with
  | .proposal offer => offer.validateTransactionId
  | _ => pure ()

def validateIncomingEnvelope (topic : MultisigTopic) (envelope : MultisigCoordinationEnvelope) :
    Result Unit := do
  if envelope.topic ≠ topic then
    throw (.multisigError "coordination message topic does not match the subscribed topic")
  validateEnvelopePayload envelope

end Validation

/-! ## Transports -/

def maxCoordinatorPayloadBytes : ℕ := 1024 * 1024
def maxCoordinatorEnvelopeBytes : ℕ := maxCoordinatorPayloadBytes - 2
def maxCoordinatorResponseBytes : ℕ := maxCoordinatorPayloadBytes
def maxCoordinatorEnvelopes : ℕ := 1024

def encodeCoordinatorPayload (envelope : MultisigCoordinationEnvelope) : Result Bytes :=
  let payload := utf8 envelope.toJson.write
  if payload.length > maxCoordinatorEnvelopeBytes then
    .error (.multisigError (s!"coordination envelope serializes to {payload.length} bytes, " ++
      s!"above the {maxCoordinatorEnvelopeBytes} byte limit every receiver applies"))
  else .ok payload

def responseTooLong : KmsError := .multisigError
  s!"coordinator response exceeds the {maxCoordinatorResponseBytes} byte limit"

def appendResponseChunk (body chunk : Bytes) : Result Bytes :=
  if chunk.length > maxCoordinatorResponseBytes - body.length then .error responseTooLong
  else .ok (body ++ chunk)

def readBoundedResponse (contentLength : Option UInt64) (chunks : List (Except String Bytes)) :
    Result Bytes := do
  if contentLength.any fun length => length.toNat > maxCoordinatorResponseBytes then
    throw responseTooLong
  chunks.foldlM (fun body chunk => do
    let chunk ← chunk.mapError KmsError.multisigError
    appendResponseChunk body chunk) []

/-- The texts of the errors of `serde_json::from_slice`, by what is refused. -/
class FromSliceErrors where
  text : Bytes → String

variable [SerdeJson] [FromSliceErrors]

/-- `serde_json::from_slice` to a type that is decoded from the tree. -/
def fromSlice {α : Type} (decode : Json → Option α) (bytes : Bytes) : Result α :=
  match ((fromUtf8 bytes).bind SerdeJson.parse).bind decode with
  | some value => .ok value
  | none => .error (.multisigError (FromSliceErrors.text bytes))

variable [FeltParser]

def boundedEnvelopes (envelopes : List MultisigCoordinationEnvelope) :
    List Json → Option (List MultisigCoordinationEnvelope)
  | [] => some envelopes
  | element :: elements => do
    let envelope ← envelopeFromJson element
    if envelopes.length = maxCoordinatorEnvelopes then none
    else boundedEnvelopes (envelopes ++ [envelope]) elements

def decodeEnvelopes (body : Bytes) : Result (List MultisigCoordinationEnvelope) :=
  fromSlice (fun json => json.asArray.bind (boundedEnvelopes [])) body

def decodeSubscribedPayload [Pedersen] (topic : MultisigTopic) (payload : Bytes) :
    Result MultisigCoordinationEnvelope := do
  if payload.length > maxCoordinatorPayloadBytes then
    throw (.multisigError
      s!"coordinator message exceeds the {maxCoordinatorPayloadBytes} byte limit")
  let parsed ← fromSlice envelopeFromJson payload
  validateIncomingEnvelope topic parsed
  pure parsed

end KrustyKms.Multisig

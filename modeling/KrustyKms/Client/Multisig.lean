import KrustyKms.Common.FeltText
import KrustyKms.Crypto.Hash

/-!
# Multisig coordination messages and their hashes

A coordination message is signed through a Pedersen chain over its topic, its kind and a digest of
its payload.
-/

namespace KrustyKms

open Crypto

structure Address where
  asFelt : Felt
deriving DecidableEq

inductive ChainId where
  | mainnet
  | sepolia
deriving DecidableEq

def ChainId.asFelt : ChainId → Felt
  | mainnet => Felt.fromBytesBeSlice (utf8 "SN_MAIN")
  | sepolia => Felt.fromBytesBeSlice (utf8 "SN_SEPOLIA")

def ChainId.name : ChainId → String
  | mainnet => "SN_MAIN"
  | sepolia => "SN_SEPOLIA"

namespace Multisig

def feltToHex (felt : Felt) : String := felt.toFixedHex

structure MultisigCall where
  toAddress : Address
  selector : Felt
  calldata : Vec Felt
deriving DecidableEq

structure MultisigTopic where
  multisig : Address
  chainId : ChainId
  transactionId : Felt
deriving DecidableEq

structure MultisigProposal where
  multisig : Address
  chainId : ChainId
  transactionId : Felt
  calls : Vec MultisigCall
  salt : Felt
  proposer : Address
  memo : Option String
deriving DecidableEq

structure MultisigSignerNotice where
  multisig : Address
  chainId : ChainId
  transactionId : Felt
  signer : Address
deriving DecidableEq

structure MultisigExecutionNotice where
  multisig : Address
  chainId : ChainId
  transactionId : Felt
  executor : Address
deriving DecidableEq

inductive MultisigCoordinationMessage where
  | proposal (proposal : MultisigProposal)
  | confirmation (notice : MultisigSignerNotice)
  | revocation (notice : MultisigSignerNotice)
  | execution (notice : MultisigExecutionNotice)
deriving DecidableEq

namespace MultisigCoordinationMessage

def topic : MultisigCoordinationMessage → MultisigTopic
  | .proposal offer => ⟨offer.multisig, offer.chainId, offer.transactionId⟩
  | confirmation notice | revocation notice =>
    ⟨notice.multisig, notice.chainId, notice.transactionId⟩
  | execution notice => ⟨notice.multisig, notice.chainId, notice.transactionId⟩

def kindFelt : MultisigCoordinationMessage → Felt
  | proposal _ => 1
  | confirmation _ => 2
  | revocation _ => 3
  | execution _ => 4

end MultisigCoordinationMessage

/-! ## Hashes -/

section

variable [Pedersen]

def pedersenUpdate (state value : Felt) : Felt := Pedersen.hash state value

def lenFelt {α : Type} (xs : Vec α) : Felt := ((UInt64.ofNat xs.val.length).toNat : Felt)

def updateWithCall (state : Felt) (call : MultisigCall) : Felt :=
  let state := pedersenUpdate state call.toAddress.asFelt
  let state := pedersenUpdate state call.selector
  let state := pedersenUpdate state (lenFelt call.calldata)
  call.calldata.val.foldl pedersenUpdate state

def hashTransactionBatch (calls : Vec MultisigCall) (salt : Felt) : Felt :=
  let state := pedersenUpdate 0 (lenFelt calls)
  let state := calls.val.foldl updateWithCall state
  pedersenUpdate state salt

def coordinationDomainTag : Bytes := utf8 "krusty-kms.multisig.notice.v1"

variable [StarknetKeccak]

def coordinationPayloadHash : MultisigCoordinationMessage → Felt
  | .proposal proposal =>
    let memoHash := match proposal.memo with
      | none => 0
      | some memo => StarknetKeccak.hash (utf8 memo)
    let state := pedersenUpdate 0 proposal.proposer.asFelt
    pedersenUpdate state memoHash
  | .confirmation notice | .revocation notice => pedersenUpdate 0 notice.signer.asFelt
  | .execution notice => pedersenUpdate 0 notice.executor.asFelt

def coordinationMessageHash (message : MultisigCoordinationMessage) : Felt :=
  let topic := message.topic
  let state := pedersenUpdate 0 (Felt.fromBytesBeSlice coordinationDomainTag)
  let state := pedersenUpdate state topic.chainId.asFelt
  let state := pedersenUpdate state topic.multisig.asFelt
  let state := pedersenUpdate state topic.transactionId
  let state := pedersenUpdate state message.kindFelt
  pedersenUpdate state (coordinationPayloadHash message)

end

/-! ## Signed messages -/

def multisigCoordinationSchemaVersion : UInt32 := 1

/-- Coordination message authenticated by the claimed actor's account key. -/
structure SignedMultisigCoordinationMessage where
  version : UInt32
  message : MultisigCoordinationMessage
  signature : Vec Felt
deriving DecidableEq

variable [Pedersen]

def MultisigProposal.validateTransactionId (proposal : MultisigProposal) : Result Unit :=
  let expected := hashTransactionBatch proposal.calls proposal.salt
  if expected ≠ proposal.transactionId then
    .error (.multisigError (s!"proposal transaction id {feltToHex proposal.transactionId} " ++
      s!"does not match computed id {feltToHex expected}"))
  else .ok ()

/-- Payload validation: supported schema version, non-empty signature, and for proposals that
the transaction id recomputes from the calls and the salt. -/
def SignedMultisigCoordinationMessage.validateStructure
    (signed : SignedMultisigCoordinationMessage) : Result Unit :=
  if signed.version ≠ multisigCoordinationSchemaVersion then
    .error (.multisigError (s!"unsupported signed coordination schema version {signed.version} " ++
      s!"(expected {multisigCoordinationSchemaVersion})"))
  else if signed.signature.val = [] then
    .error (.multisigError "signed coordination message carries an empty signature")
  else
    match signed.message with
    | .proposal proposal => proposal.validateTransactionId
    | _ => .ok ()

end Multisig

end KrustyKms

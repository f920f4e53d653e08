import KrustyKms.Client.Coordination
import KrustyKms.Client.MultisigTheorems
import KrustyKms.Support.Fallible

/-!
# What one signer publishes every other signer receives

* `published_receivable`: an envelope that passes the checks of the sender is read back by both
  transports and passes the checks of the receiver; and a document with a version is never read
  as an unsigned message.
-/

namespace KrustyKms.Multisig

open Crypto Codec Support

/-! ## Documents are decoded to what they were written from -/

section Decoding

variable [FeltParser]

lemma feltFromJson_feltToHex (hf : FeltParser.Exact) (felt : Felt) :
    feltFromJson (.string (feltToHex felt)) = some felt := by
  have hr : FeltParser.fromHex (feltToHex felt) = .ok felt := hf.fromHex_toFixedHex felt
  unfold feltFromJson Json.asStr
  rw [Option.bind_some, hr]
  rfl

lemma addressFromJson_addressToHex (hf : FeltParser.Exact) (address : Address) :
    addressFromJson (.string (addressToHex address)) = some address := by
  have hr := feltFromJson_feltToHex hf address.asFelt
  unfold addressFromJson
  rw [show addressToHex address = feltToHex address.asFelt from rfl, hr]
  rfl

omit [FeltParser] in
lemma vecFromJson_map {α : Type} {decode : Json → Option α} {encode : α → Json}
    (h : ∀ value, decode (encode value) = some value) (values : Vec α) :
    vecFromJson decode (.array (values.val.map encode)) = some values := by
  unfold vecFromJson
  dsimp only
  rw [option_mapM_map h]
  exact dif_pos values.property

omit [FeltParser] in
lemma chainIdFromJson_chainIdName (chainId : ChainId) :
    chainIdFromJson (.string (chainIdName chainId)) = some chainId := by
  cases chainId with
  | mainnet => rfl
  | sepolia => rfl

lemma callFromJson_callToJson (hf : FeltParser.Exact) (call : MultisigCall) :
    callFromJson (callToJson call) = some call := by
  have ha := addressFromJson_addressToHex hf call.toAddress
  have hs := feltFromJson_feltToHex hf call.selector
  have hc := vecFromJson_map (feltFromJson_feltToHex hf) call.calldata
  unfold callFromJson callToJson
  simp [structFields, Json.last, List.lookup_cons, orDefault, ha, hs, hc]

lemma proposalFromJson_toJson (hf : FeltParser.Exact) (offer : MultisigProposal) :
    proposalFromJson (MultisigCoordinationMessage.proposal offer).toJson = some offer := by
  have ha := addressFromJson_addressToHex hf
  have hr := feltFromJson_feltToHex hf
  have hc := vecFromJson_map (callFromJson_callToJson hf) offer.calls
  obtain ⟨multisig, chainId, transactionId, calls, salt, proposer, memo⟩ := offer
  unfold proposalFromJson
  cases memo with
  | none =>
    simp [MultisigCoordinationMessage.toJson, MultisigCoordinationMessage.typeName,
      MultisigCoordinationMessage.topic, MultisigCoordinationMessage.detailsToJson, topicToJson,
      memoToJson, structFields, Json.last, List.lookup_cons, orDefault, ha, hr, hc,
      chainIdFromJson_chainIdName]
  | some memo =>
    simp [MultisigCoordinationMessage.toJson, MultisigCoordinationMessage.typeName,
      MultisigCoordinationMessage.topic, MultisigCoordinationMessage.detailsToJson, topicToJson,
      memoToJson, memoFromJson, structFields, Json.last, List.lookup_cons, orDefault, ha,
      hr, hc, chainIdFromJson_chainIdName]

lemma noticeFromJson_object (hf : FeltParser.Exact) (actor : String) (tag : Json)
    (topic : MultisigTopic) (address : Address)
    (ha : actor ∉ ["type", "multisig", "chain_id", "transaction_id"]) :
    noticeFromJson actor (.object (("type", tag) ::
      (topicToJson topic ++ [(actor, .string (addressToHex address))]))) =
        some (topic, address) := by
  simp only [List.mem_cons, List.not_mem_nil, or_false, not_or] at ha
  obtain ⟨-, hm, hc, ht⟩ := ha
  have hne : ("multisig" == actor) = false ∧ ("chain_id" == actor) = false ∧
      ("transaction_id" == actor) = false := by
    simp [Ne.symm hm, Ne.symm hc, Ne.symm ht]
  unfold noticeFromJson
  simp [topicToJson, structFields, Json.last, List.lookup_cons, hne,
    addressFromJson_addressToHex hf, feltFromJson_feltToHex hf, chainIdFromJson_chainIdName]

lemma signerNoticeFromJson_object (hf : FeltParser.Exact) (tag : Json)
    (notice : MultisigSignerNotice) :
    signerNoticeFromJson (.object (("type", tag) ::
      (topicToJson ⟨notice.multisig, notice.chainId, notice.transactionId⟩ ++
        [("signer", .string (addressToHex notice.signer))]))) = some notice := by
  unfold signerNoticeFromJson
  rw [noticeFromJson_object hf "signer" tag _ _ (by decide)]
  rfl

lemma executionNoticeFromJson_object (hf : FeltParser.Exact) (tag : Json)
    (notice : MultisigExecutionNotice) :
    executionNoticeFromJson (.object (("type", tag) ::
      (topicToJson ⟨notice.multisig, notice.chainId, notice.transactionId⟩ ++
        [("executor", .string (addressToHex notice.executor))]))) = some notice := by
  unfold executionNoticeFromJson
  rw [noticeFromJson_object hf "executor" tag _ _ (by decide)]
  rfl

def messageKeys : List String :=
  ["multisig", "chain_id", "transaction_id", "calls", "salt", "proposer", "memo", "signer",
    "executor"]

omit [FeltParser] in
lemma keys_subset (message : MultisigCoordinationMessage) :
    (topicToJson message.topic ++ message.detailsToJson).map Prod.fst ⊆ messageKeys := by
  cases message with
  | proposal offer =>
    obtain ⟨multisig, chainId, transactionId, calls, salt, proposer, memo⟩ := offer
    cases memo with
    | none =>
      show ["multisig", "chain_id", "transaction_id", "calls", "salt", "proposer"] ⊆ messageKeys
      decide
    | some memo =>
      show ["multisig", "chain_id", "transaction_id", "calls", "salt", "proposer", "memo"] ⊆
        messageKeys
      decide
  | confirmation notice =>
    show ["multisig", "chain_id", "transaction_id", "signer"] ⊆ messageKeys
    decide
  | revocation notice =>
    show ["multisig", "chain_id", "transaction_id", "signer"] ⊆ messageKeys
    decide
  | execution notice =>
    show ["multisig", "chain_id", "transaction_id", "executor"] ⊆ messageKeys
    decide

omit [FeltParser] in
lemma key_ne_of_notMem {message : MultisigCoordinationMessage} {key : String}
    (hkey : key ∉ messageKeys) :
    ∀ entry ∈ topicToJson message.topic ++ message.detailsToJson, entry.1 ≠ key := by
  intro entry hen heq
  rw [← heq] at hkey
  exact hkey (keys_subset message (List.mem_map_of_mem hen))

omit [FeltParser] in
/-- The tag is found behind the other fields, and they are the variant's content. -/
lemma taggedContent_toJson (message : MultisigCoordinationMessage) :
    taggedContent message.toJson = some (.string message.typeName, message.toJson) := by
  unfold MultisigCoordinationMessage.toJson taggedContent
  dsimp only
  rw [Json.last_cons _ (key_ne_of_notMem (by decide))]
  rfl

lemma messageFromJson_toJson (hf : FeltParser.Exact) (message : MultisigCoordinationMessage) :
    messageFromJson message.toJson = some message := by
  unfold messageFromJson
  rw [taggedContent_toJson]
  cases message with
  | proposal offer =>
    exact congrArg (Option.map MultisigCoordinationMessage.proposal)
      (proposalFromJson_toJson hf offer)
  | confirmation notice =>
    exact congrArg (Option.map MultisigCoordinationMessage.confirmation)
      (signerNoticeFromJson_object hf _ notice)
  | revocation notice =>
    exact congrArg (Option.map MultisigCoordinationMessage.revocation)
      (signerNoticeFromJson_object hf _ notice)
  | execution notice =>
    exact congrArg (Option.map MultisigCoordinationMessage.execution)
      (executionNoticeFromJson_object hf _ notice)

omit [FeltParser] in
lemma last_version_toJson (message : MultisigCoordinationMessage) :
    message.toJson.last "version" = none := by
  unfold MultisigCoordinationMessage.toJson
  rw [Json.last_eq_none, List.forall_mem_cons]
  exact ⟨(by decide : "type" ≠ "version"), key_ne_of_notMem (by decide)⟩

omit [FeltParser] in
lemma versionFromJson_posInt (version : UInt32) :
    versionFromJson (.posInt version.toUInt64) = some version := by
  have hlt : version.toUInt64.toNat < 2 ^ 32 := version.toNat_lt
  show (if version.toUInt64.toNat < 2 ^ 32 then some version.toUInt64.toUInt32 else none) = _
  rw [if_pos hlt, UInt32.toUInt32_toUInt64]

lemma envelopeFromJson_toJson (hf : FeltParser.Exact) (envelope : MultisigCoordinationEnvelope) :
    envelopeFromJson envelope.toJson = some envelope := by
  unfold envelopeFromJson
  cases envelope with
  | unsigned message =>
    have hn : (MultisigCoordinationEnvelope.unsigned message).toJson.last "version" = none :=
      last_version_toJson message
    rw [hn]
    exact congrArg (Option.map MultisigCoordinationEnvelope.unsigned)
      (messageFromJson_toJson hf message)
  | signed envelope =>
    have hm := messageFromJson_toJson hf envelope.message
    have hs := vecFromJson_map (feltFromJson_feltToHex hf) envelope.signature
    unfold signedFromJson MultisigCoordinationEnvelope.toJson
    simp [structFields, Json.last, List.lookup_cons, versionFromJson_posInt, hm, hs]

lemma envelopeFromJson_version {json : Json} {message : MultisigCoordinationMessage}
    (h : envelopeFromJson json = some (.unsigned message)) : json.last "version" = none := by
  unfold envelopeFromJson at h
  split_ifs at h with hv
  · cases hs : signedFromJson json with
    | none =>
      rw [hs] at h
      cases h
    | some envelope =>
      rw [hs] at h
      cases h
  · simpa using hv

end Decoding

/-! ## The documents are plain -/

lemma plainElements_strings {α : Type} (encode : α → String) (depth : ℕ) (values : List α) :
    Json.plainElements depth (values.map fun value => .string (encode value)) = true := by
  rw [Json.plainElements_iff]
  intro element hel
  obtain ⟨value, -, rfl⟩ := List.mem_map.mp hel
  rfl

lemma plainElements_calls (depth : ℕ) (calls : List MultisigCall) :
    Json.plainElements (depth + 2) (calls.map callToJson) = true := by
  rw [Json.plainElements_iff]
  intro element hel
  obtain ⟨call, -, rfl⟩ := List.mem_map.mp hel
  simp [callToJson, Json.plain, Json.plainEntries, plainElements_strings]

lemma plain_toJson (depth : ℕ) (message : MultisigCoordinationMessage) :
    message.toJson.plain (depth + 4) = true := by
  have ht : ∀ entry ∈ topicToJson message.topic, entry.2.plain (depth + 3) = true := by
    simp [topicToJson, Json.plain]
  rw [MultisigCoordinationMessage.toJson, Json.plain, Json.plainEntries_iff, List.forall_mem_cons,
    List.forall_mem_append]
  refine ⟨rfl, ht, ?_⟩
  cases message with
  | proposal offer =>
    obtain ⟨multisig, chainId, transactionId, calls, salt, proposer, memo⟩ := offer
    cases memo with
    | none =>
      simp [MultisigCoordinationMessage.detailsToJson, memoToJson, Json.plain, plainElements_calls]
    | some memo =>
      simp [MultisigCoordinationMessage.detailsToJson, memoToJson, Json.plain, plainElements_calls]
  | confirmation notice => simp [MultisigCoordinationMessage.detailsToJson, Json.plain]
  | revocation notice => simp [MultisigCoordinationMessage.detailsToJson, Json.plain]
  | execution notice => simp [MultisigCoordinationMessage.detailsToJson, Json.plain]

lemma plain_envelope (depth : ℕ) (envelope : MultisigCoordinationEnvelope) :
    envelope.toJson.plain (depth + 5) = true := by
  cases envelope with
  | unsigned message => exact plain_toJson (depth + 1) message
  | signed envelope =>
    simp [MultisigCoordinationEnvelope.toJson, Json.plain, Json.plainEntries, plain_toJson,
      plainElements_strings]

/-! ## Transports -/

lemma foldlM_appendResponseChunk {chunks : List Bytes} {body : Bytes}
    (h : body.length + chunks.flatten.length ≤ maxCoordinatorResponseBytes) :
    (chunks.map .ok).foldlM (fun body (chunk : Except String Bytes) => do
      let chunk ← chunk.mapError KmsError.multisigError
      appendResponseChunk body chunk) body = .ok (body ++ chunks.flatten) := by
  induction chunks generalizing body with
  | nil =>
    rw [List.flatten_nil, List.append_nil]
    rfl
  | cons chunk chunks ih =>
    rw [List.flatten_cons, List.length_append] at h
    have ha : appendResponseChunk body chunk = .ok (body ++ chunk) := by
      unfold appendResponseChunk
      rw [if_neg]
      omega
    have hr := @ih (body ++ chunk) (by rw [List.length_append]; omega)
    rw [List.map_cons, List.foldlM_cons, List.flatten_cons, ← List.append_assoc, ← hr]
    show appendResponseChunk body chunk >>= _ = _
    rw [ha]
    rfl

lemma utf8_write_singleton (json : Json) :
    utf8 (Json.array [json]).write = utf8 "[" ++ utf8 json.write ++ utf8 "]" := by
  have ht : (Json.array [json]).write = "[" ++ json.write ++ "]" := by
    apply String.toList_inj.mp
    simp [Json.write, Json.chars, Json.arrayTail]
  rw [ht, utf8_append, utf8_append]

lemma encodeCoordinatorPayload_eq_ok {envelope : MultisigCoordinationEnvelope} {payload : Bytes} :
    encodeCoordinatorPayload envelope = .ok payload ↔
      payload = utf8 envelope.toJson.write ∧ payload.length ≤ maxCoordinatorEnvelopeBytes := by
  unfold encodeCoordinatorPayload
  dsimp only
  constructor
  · intro h
    split_ifs at h with hl
    obtain rfl := Except.ok.inj h
    exact ⟨rfl, Nat.not_lt.mp hl⟩
  · intro h
    obtain ⟨rfl, hle⟩ := h
    rw [if_neg (Nat.not_lt.mpr hle)]

lemma readBoundedResponse_chunks {chunks : List Bytes} {contentLength : Option UInt64}
    (hl : chunks.flatten.length ≤ maxCoordinatorResponseBytes)
    (ha : contentLength ∈ [none, some (UInt64.ofNat chunks.flatten.length)]) :
    readBoundedResponse contentLength (chunks.map .ok) = .ok chunks.flatten := by
  have hr := @foldlM_appendResponseChunk chunks [] (by simpa using hl)
  have hs : ¬ (contentLength.any fun length => length.toNat > maxCoordinatorResponseBytes) := by
    simp only [List.mem_cons, List.not_mem_nil, or_false] at ha
    rcases ha with rfl | rfl
    · simp
    · have hlt : chunks.flatten.length < 2 ^ 64 := Nat.lt_of_le_of_lt hl (by decide)
      rw [Option.any_some, decide_eq_true_eq, UInt64.toNat_ofNat_of_lt' hlt, Nat.not_lt]
      exact hl
  unfold readBoundedResponse
  rw [if_neg hs]
  exact hr

lemma validateIncomingEnvelope_topic [Pedersen] {envelope : MultisigCoordinationEnvelope}
    (h : validateEnvelopePayload envelope = .ok ()) :
    validateIncomingEnvelope envelope.topic envelope = .ok () := by
  unfold validateIncomingEnvelope
  rw [except_ite_throw_eq_ok]
  exact ⟨not_not.mpr rfl, h⟩

section Receiving

variable [SerdeJson] [FromSliceErrors]

lemma fromSlice_eq_ok {α : Type} {decode : Json → Option α} {text : String} {value : α} :
    fromSlice decode (utf8 text) = .ok value ↔
      ∃ json, SerdeJson.parse text = some json ∧ decode json = some value := by
  unfold fromSlice
  rw [fromUtf8_eq_some.mpr rfl, Option.bind_some, ← Option.bind_eq_some_iff]
  cases (SerdeJson.parse text).bind decode with
  | none => simp
  | some other => simp

variable [FeltParser] [Pedersen]

lemma decodeSubscribedPayload_eq_ok {topic : MultisigTopic} {payload : Bytes}
    {envelope : MultisigCoordinationEnvelope} :
    decodeSubscribedPayload topic payload = .ok envelope ↔
      payload.length ≤ maxCoordinatorPayloadBytes ∧
        fromSlice envelopeFromJson payload = .ok envelope ∧
        validateIncomingEnvelope topic envelope = .ok () := by
  unfold decodeSubscribedPayload
  simp only [except_ite_throw_eq_ok, except_bind_eq_ok, Nat.not_lt]
  constructor
  · intro h
    obtain ⟨hle, parsed, hp, _, hv, h⟩ := h
    obtain rfl := Except.ok.inj h
    exact ⟨hle, hp, hv⟩
  · intro h
    exact ⟨h.1, envelope, h.2.1, (), h.2.2, rfl⟩

/-- **What is published is receivable.** An envelope that the sender's checks let pass is returned
by a subscription to its topic, and by the array that holds it alone, in whatever chunks that
comes; and the receiver's checks let it pass. A document with a version is never read as an
unsigned message. -/
theorem published_receivable (hjson : SerdeJson.Exact) (hfelt : FeltParser.Exact) :
    (∀ (envelope : MultisigCoordinationEnvelope) (payload : Bytes),
      validateEnvelopePayload envelope = .ok () →
      encodeCoordinatorPayload envelope = .ok payload →
      decodeSubscribedPayload envelope.topic payload = .ok envelope ∧
      (∀ chunks : List Bytes, chunks.flatten = utf8 "[" ++ payload ++ utf8 "]" →
        ∀ contentLength ∈ [none, some (UInt64.ofNat chunks.flatten.length)],
        readBoundedResponse contentLength (chunks.map .ok) = .ok chunks.flatten ∧
        decodeEnvelopes chunks.flatten = .ok [envelope]) ∧
      validateIncomingEnvelope envelope.topic envelope = .ok ()) ∧
    ∀ (entries : List (String × Json)) (message : MultisigCoordinationMessage),
      (∃ value, ("version", value) ∈ entries) →
      envelopeFromJson (.object entries) ≠ some (.unsigned message) ∧
      ∀ (topic : MultisigTopic) (text : String), SerdeJson.parse text = some (.object entries) →
        decodeSubscribedPayload topic (utf8 text) ≠ .ok (.unsigned message) := by
  refine ⟨?_, ?_⟩
  · intro envelope payload hv hen
    obtain ⟨rfl, hle⟩ := encodeCoordinatorPayload_eq_ok.mp hen
    have hd := envelopeFromJson_toJson hfelt envelope
    have hin := validateIncomingEnvelope_topic hv
    refine ⟨?_, ?_, hin⟩
    · have hr := fromSlice_eq_ok.mpr ⟨_, hjson _ (plain_envelope 122 envelope), hd⟩
      exact decodeSubscribedPayload_eq_ok.mpr ⟨hle.trans (Nat.sub_le _ _), hr, hin⟩
    · intro chunks hc contentLength ha
      have hl : chunks.flatten.length ≤ maxCoordinatorResponseBytes := by
        have hb : (utf8 "[").length = 1 ∧ (utf8 "]").length = 1 := by decide
        have hlm : maxCoordinatorEnvelopeBytes + 2 = maxCoordinatorResponseBytes := by decide
        rw [hc, List.length_append, List.length_append]
        omega
      refine ⟨readBoundedResponse_chunks hl ha, ?_⟩
      have hp : (Json.array [envelope.toJson]).plain serdeJsonDepth = true :=
        Json.plainElements_iff.mpr fun element hel => by
          rw [List.mem_singleton.mp hel]
          exact plain_envelope 121 envelope
      have hall : boundedEnvelopes [] [envelope.toJson] = some [envelope] := by
        simp [boundedEnvelopes, hd, maxCoordinatorEnvelopes]
      rw [hc, ← utf8_write_singleton]
      exact fromSlice_eq_ok.mpr ⟨_, hjson _ hp, hall⟩
  · intro entries message hvr
    have hn : envelopeFromJson (.object entries) ≠ some (.unsigned message) := by
      intro h
      obtain ⟨value, hvl⟩ := hvr
      exact Json.last_eq_none.mp (envelopeFromJson_version h) _ hvl rfl
    refine ⟨hn, ?_⟩
    intro topic text hpr h
    obtain ⟨-, hr, -⟩ := decodeSubscribedPayload_eq_ok.mp h
    obtain ⟨json, hj', hd⟩ := fromSlice_eq_ok.mp hr
    rw [hpr] at hj'
    rw [← Option.some.inj hj'] at hd
    exact hn hd

end Receiving

/-! ## A signed proposal -/

section Sample

@[reducible] def sliceErrors : FromSliceErrors := ⟨fun _ => "expected value"⟩

attribute [local instance] samplePedersen sliceErrors numeralParser compactReader

def sampleEnvelope : MultisigCoordinationEnvelope :=
  .signed { sampleSigned 3 4 with
    message := .proposal { sampleProposal with memo := some "pay \"rent\"" } }

/-- A signed proposal with a memo is received. -/
theorem sampleEnvelope_received :
    ∃ payload, encodeCoordinatorPayload sampleEnvelope = .ok payload ∧
      decodeSubscribedPayload sampleEnvelope.topic payload = .ok sampleEnvelope ∧
      decodeEnvelopes (utf8 "[" ++ payload ++ utf8 "]") = .ok [sampleEnvelope] := by
  have hv : validateEnvelopePayload sampleEnvelope = .ok () := by decide +kernel
  have hl : (utf8 sampleEnvelope.toJson.write).length ≤ maxCoordinatorEnvelopeBytes := by
    rw [length_utf8, Json.write, utf8ByteSize_ofList]
    decide +kernel
  have hen := encodeCoordinatorPayload_eq_ok.mpr ⟨rfl, hl⟩
  obtain ⟨hs, hr, -⟩ := (published_receivable compactReader_exact
    numeralParser_exact).1 _ _ hv hen
  exact ⟨_, hen, hs, by simpa using (hr [_] (by simp) none (by simp)).2⟩

end Sample

end KrustyKms.Multisig

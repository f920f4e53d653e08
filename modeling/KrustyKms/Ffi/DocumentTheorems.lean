import KrustyKms.Ffi.Calldata

/-!
# The documents of the C interface are read back

Proofs, the fields of a result and the parameters of an encoder are read from their documents as
they were written: from canonical ones, where felts have a fixed width and keys are sorted, and
from those that `serde_json` writes for a structure.
-/

namespace KrustyKms.Ffi

open Codec Crypto Sdk Support

/-! ## Proofs are read back from their documents -/

section Documents

variable [FeltParser] [FeltSerde]

/-- Both readers of felts read what the workspace writes. -/
structure FeltLaws : Prop where
  parser : FeltParser.Exact
  serde : FeltSerde.Exact

variable (laws : FeltLaws)

include laws

lemma feltFromJson_canonical (felt : Felt) :
    feltFromJson (canonical (feltToJson felt)) = some felt := by
  have hr := laws.serde.deserialize_toFixedHex felt
  unfold feltFromJson feltToJson
  rw [canonical_toHex laws.parser, Json.asStr, Option.bind_some, hr]

lemma pointFromJson_canonical (point : SerializablePoint) :
    pointFromJson (canonical (pointToJson point)) = some point := by
  unfold pointFromJson pointToJson
  refine fieldsOf_canonical_bind rfl (by decide) ?_
  intro field hf
  simp only [List.forall_mem_cons] at hf
  simp [hf, feltFromJson_canonical laws]

omit [FeltSerde] laws in
lemma listOf_canonical {α : Type} {decode : Json → Option α} {encode : α → Json}
    (h : ∀ value, decode (canonical (encode value)) = some value) (values : List α) :
    Json.listOf decode (canonical (.array (values.map encode))) = some values := by
  rw [canonical_array, List.map_map]
  exact option_mapM_map h values

lemma poeProofFromJson_canonical (proof : PoeProof) :
    poeProofFromJson (canonical (poeProofToJson proof)) = some proof := by
  unfold poeProofFromJson poeProofToJson
  refine fieldsOf_canonical_bind rfl (by decide) ?_
  intro field hf
  simp only [List.forall_mem_cons] at hf
  simp [hf, feltFromJson_canonical laws, pointFromJson_canonical laws]

lemma auditProofFromJson_canonical (proof : AuditProof) :
    auditProofFromJson (canonical (auditProofToJson proof)) = some proof := by
  unfold auditProofFromJson auditProofToJson
  refine fieldsOf_canonical_bind rfl (by decide) ?_
  intro field hf
  simp only [List.forall_mem_cons] at hf
  simp [hf, feltFromJson_canonical laws, pointFromJson_canonical laws]

lemma bitProofFromJson_canonical (proof : ProofOfBit) :
    bitProofFromJson (canonical (bitProofToJson proof)) = some proof := by
  unfold bitProofFromJson bitProofToJson
  refine fieldsOf_canonical_bind rfl (by decide) ?_
  intro field hf
  simp only [List.forall_mem_cons] at hf
  simp [hf, feltFromJson_canonical laws, pointFromJson_canonical laws]

lemma rangeFromJson_canonical (range : Range) :
    rangeFromJson (canonical (rangeToJson range)) = some range := by
  have hc := listOf_canonical (pointFromJson_canonical laws) range.commitments
  have hp := listOf_canonical (bitProofFromJson_canonical laws) range.proofs
  unfold rangeFromJson rangeToJson
  refine fieldsOf_canonical_bind rfl (by decide) ?_
  intro field hf
  simp only [List.forall_mem_cons] at hf
  simp [hf, hc, hp]

lemma proofOfTransferFromJson_canonical (proof : ProofOfTransfer) :
    proofOfTransferFromJson (canonical (proofOfTransferToJson proof)) = some proof := by
  unfold proofOfTransferFromJson proofOfTransferToJson
  refine fieldsOf_canonical_bind rfl (by decide) ?_
  intro field hf
  simp only [List.forall_mem_cons] at hf
  simp [hf, feltFromJson_canonical laws, pointFromJson_canonical laws,
    rangeFromJson_canonical laws]

lemma AuditJsonData.fromJson_canonical (lX lY rX rY : Felt) (ciphertext nonce : Bytes)
    (proof : AuditProof) :
    AuditJsonData.fromJson (canonical (.object [
      ("audited_balance", .object [
        ("l", .object [("x", .string lX.toFixedHex), ("y", .string lY.toFixedHex)]),
        ("r", .object [("x", .string rX.toFixedHex), ("y", .string rY.toFixedHex)])]),
      ("hint_ciphertext", .string (encodeBytes ciphertext)),
      ("hint_nonce", .string (encodeBytes nonce)), ("proof", auditProofToJson proof)])) =
    some {
      auditedBalance := ⟨⟨lX.toFixedHex, lY.toFixedHex⟩, ⟨rX.toFixedHex, rY.toFixedHex⟩⟩
      hintCiphertext := encodeBytes ciphertext
      hintNonce := encodeBytes nonce
      proof } := by
  have hp : ∀ x y : Felt, AuditJsonPoint.fromJson (canonical (.object
      [("x", .string x.toFixedHex), ("y", .string y.toFixedHex)])) =
        some ⟨x.toFixedHex, y.toFixedHex⟩ := by
    intro x y
    unfold AuditJsonPoint.fromJson
    refine fieldsOf_canonical_bind rfl (by decide) ?_
    intro field hf
    simp only [List.forall_mem_cons, canonical_toFixedHex laws.parser] at hf
    simp [hf, Json.textOf, Json.asStr]
  have hb : AuditJsonCipherBalance.fromJson (canonical (.object [
      ("l", .object [("x", .string lX.toFixedHex), ("y", .string lY.toFixedHex)]),
      ("r", .object [("x", .string rX.toFixedHex), ("y", .string rY.toFixedHex)])])) =
        some ⟨⟨lX.toFixedHex, lY.toFixedHex⟩, ⟨rX.toFixedHex, rY.toFixedHex⟩⟩ := by
    unfold AuditJsonCipherBalance.fromJson
    refine fieldsOf_canonical_bind rfl (by decide) ?_
    intro field hf
    simp only [List.forall_mem_cons] at hf
    simp [hf, hp]
  unfold AuditJsonData.fromJson
  refine fieldsOf_canonical_bind rfl (by decide) ?_
  intro field hf
  simp only [List.forall_mem_cons, canonical_encodeBytes] at hf
  simp [hf, hb, Json.textOf, Json.asStr, auditProofFromJson_canonical laws]

end Documents

lemma plain_rangeToJson (depth : ℕ) (range : Range) :
    (rangeToJson range).plain (depth + 4) = true := by
  have hc :
      Json.plainElements (depth + 2) (range.commitments.map pointToJson) = true := by
    rw [Json.plainElements_iff, List.forall_mem_map]
    intro point _
    rfl
  have hp : Json.plainElements (depth + 2) (range.proofs.map bitProofToJson) = true := by
    rw [Json.plainElements_iff, List.forall_mem_map]
    intro proof _
    rfl
  simp [rangeToJson, Json.plain, Json.plainEntries, hc, hp]

lemma plain_proofOfTransferToJson (depth : ℕ) (proof : ProofOfTransfer) :
    (proofOfTransferToJson proof).plain (depth + 5) = true := by
  have hr := plain_rangeToJson depth proof.range
  have hrange2 := plain_rangeToJson depth proof.range2
  simp [proofOfTransferToJson, pointToJson, feltToJson, Json.plain, Json.plainEntries, hr,
    hrange2]

/-! ## Fields are read back as they were written -/

lemma FundProofData.fromJson_toJson (result : JsonFundResult) :
    FundProofData.fromJson result.toJson = some result := by
  unfold FundProofData.fromJson JsonFundResult.toJson
  refine Json.fieldsOf_bind (List.Perm.refl _) rfl (by decide) ?_
  intro field hf
  simp only [List.forall_mem_cons] at hf
  have ha := Json.optionalTextOf_ofOptionalText hf.2.2.2.2.1
  simp [Json.textOf, Json.asStr, hf, ha]

lemma RolloverProofData.fromJson_toJson (result : JsonRolloverResult) :
    RolloverProofData.fromJson result.toJson =
      some ⟨result.yX, result.yY, result.proofJson⟩ := by
  unfold RolloverProofData.fromJson JsonRolloverResult.toJson
  rw [Json.fieldsOf_object (by simp)]
  simp [Json.textOf, Json.asStr, List.lookup_cons]

lemma TransferProofData.fromJson_toJson (result : JsonTransferResult) :
    TransferProofData.fromJson result.toJson = some result := by
  unfold TransferProofData.fromJson JsonTransferResult.toJson
  refine Json.fieldsOf_bind (List.Perm.refl _) rfl (by decide) ?_
  intro field hf
  simp only [List.forall_mem_cons] at hf
  have hb : Json.optionalTextOf field "audit_balance_json" = some result.auditBalanceJson :=
    Json.optionalTextOf_ofOptionalText (by simp only [hf])
  have ht :
      Json.optionalTextOf field "audit_transfer_json" = some result.auditTransferJson :=
    Json.optionalTextOf_ofOptionalText (by simp only [hf])
  simp [Json.textOf, Json.asStr, hf, hb, ht]

lemma WithdrawProofData.fromJson_toJson (result : JsonWithdrawResult) :
    WithdrawProofData.fromJson result.toJson = some result := by
  unfold WithdrawProofData.fromJson JsonWithdrawResult.toJson
  refine Json.fieldsOf_bind (List.Perm.refl _) rfl (by decide) ?_
  intro field hf
  simp only [List.forall_mem_cons] at hf
  have ha : Json.optionalTextOf field "audit_json" = some result.auditJson :=
    Json.optionalTextOf_ofOptionalText (by simp only [hf])
  simp [Json.textOf, Json.asStr, hf, ha]

lemma RagequitProofData.fromJson_toJson (result : JsonRagequitResult) :
    RagequitProofData.fromJson result.toJson = some result := by
  unfold RagequitProofData.fromJson JsonRagequitResult.toJson
  refine Json.fieldsOf_bind (List.Perm.refl _) rfl (by decide) ?_
  intro field hf
  simp only [List.forall_mem_cons] at hf
  have ha : Json.optionalTextOf field "audit_json" = some result.auditJson :=
    Json.optionalTextOf_ofOptionalText (by simp only [hf])
  simp [Json.textOf, Json.asStr, hf, ha]

section Results

variable [SerdeJson] (hjson : SerdeJson.Exact) {text : String}

include hjson

lemma readJson_fundResult {result : JsonFundResult}
    (h : (pure result.toJson.write : Status String) = .ok text) :
    readJson FundProofData.fromJson text = .ok result := by
  rw [← Except.ok.inj h]
  refine readJson_write hjson ?_ (FundProofData.fromJson_toJson result)
  simp [JsonFundResult.toJson, serdeJsonDepth, Json.plain, Json.plainEntries,
    Json.plain_ofOptionalText]

lemma readJson_rolloverResult {result : JsonRolloverResult}
    (h : (pure result.toJson.write : Status String) = .ok text) :
    readJson RolloverProofData.fromJson text =
      .ok ⟨result.yX, result.yY, result.proofJson⟩ := by
  rw [← Except.ok.inj h]
  exact readJson_write hjson rfl (RolloverProofData.fromJson_toJson result)

lemma readJson_transferResult {result : JsonTransferResult}
    (h : (pure result.toJson.write : Status String) = .ok text) :
    readJson TransferProofData.fromJson text = .ok result := by
  rw [← Except.ok.inj h]
  refine readJson_write hjson ?_ (TransferProofData.fromJson_toJson result)
  simp [JsonTransferResult.toJson, serdeJsonDepth, Json.plain, Json.plainEntries,
    Json.plain_ofOptionalText]

lemma readJson_withdrawResult {result : JsonWithdrawResult}
    (h : (pure result.toJson.write : Status String) = .ok text) :
    readJson WithdrawProofData.fromJson text = .ok result := by
  rw [← Except.ok.inj h]
  refine readJson_write hjson ?_ (WithdrawProofData.fromJson_toJson result)
  simp [JsonWithdrawResult.toJson, serdeJsonDepth, Json.plain, Json.plainEntries,
    Json.plain_ofOptionalText]

lemma readJson_ragequitResult {result : JsonRagequitResult}
    (h : (pure result.toJson.write : Status String) = .ok text) :
    readJson RagequitProofData.fromJson text = .ok result := by
  rw [← Except.ok.inj h]
  refine readJson_write hjson ?_ (RagequitProofData.fromJson_toJson result)
  simp [JsonRagequitResult.toJson, serdeJsonDepth, Json.plain, Json.plainEntries,
    Json.plain_ofOptionalText]

end Results

/-! ## Documents of parameters -/

def EncodeFundParams.toJson (params : EncodeFundParams) : Json := .object [
  ("tongo_address", .string params.tongoAddress), ("erc20_address", .string params.erc20Address),
  ("rate", .string params.rate), ("proof_result_json", .string params.proofResultJson),
  ("hint_ciphertext_hex", .string params.hintCiphertextHex),
  ("hint_nonce_hex", .string params.hintNonceHex)]

def EncodeParams.toJson (params : EncodeParams) : Json := .object [
  ("tongo_address", .string params.tongoAddress),
  ("proof_result_json", .string params.proofResultJson),
  ("hint_ciphertext_hex", .string params.hintCiphertextHex),
  ("hint_nonce_hex", .string params.hintNonceHex)]

def EncodeTransferParams.toJson (params : EncodeTransferParams) : Json := .object [
  ("tongo_address", .string params.tongoAddress),
  ("sender_public_key", .string params.senderPublicKey),
  ("recipient_public_key", .string params.recipientPublicKey),
  ("proof_result_json", .string params.proofResultJson),
  ("hint_ciphertext_hex", .string params.hintCiphertextHex),
  ("hint_nonce_hex", .string params.hintNonceHex),
  ("hint_leftover_ciphertext_hex", .string params.hintLeftoverCiphertextHex),
  ("hint_leftover_nonce_hex", .string params.hintLeftoverNonceHex)]

section Params

variable [SerdeJson] (hjson : SerdeJson.Exact)

include hjson

lemma readJson_encodeFundParams (params : EncodeFundParams) :
    readJson EncodeFundParams.fromJson params.toJson.write = .ok params := by
  refine readJson_write hjson rfl ?_
  unfold EncodeFundParams.fromJson EncodeFundParams.toJson
  refine Json.fieldsOf_bind (List.Perm.refl _) rfl (by decide) ?_
  intro field hf
  simp only [List.forall_mem_cons] at hf
  simp [Json.textOf, Json.asStr, hf]

lemma readJson_encodeParams (params : EncodeParams) :
    readJson EncodeParams.fromJson params.toJson.write = .ok params := by
  refine readJson_write hjson rfl ?_
  unfold EncodeParams.fromJson EncodeParams.toJson
  refine Json.fieldsOf_bind (List.Perm.refl _) rfl (by decide) ?_
  intro field hf
  simp only [List.forall_mem_cons] at hf
  simp [Json.textOf, Json.asStr, hf]

lemma readJson_encodeTransferParams (params : EncodeTransferParams) :
    readJson EncodeTransferParams.fromJson params.toJson.write = .ok params := by
  refine readJson_write hjson rfl ?_
  unfold EncodeTransferParams.fromJson EncodeTransferParams.toJson
  refine Json.fieldsOf_bind (List.Perm.refl _) rfl (by decide) ?_
  intro field hf
  simp only [List.forall_mem_cons] at hf
  simp [Json.textOf, Json.asStr, hf]

end Params

end KrustyKms.Ffi

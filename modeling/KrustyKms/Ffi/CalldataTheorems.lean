import KrustyKms.Client.Operations
import KrustyKms.Ffi.DocumentTheorems
import KrustyKms.Sdk.SharedTheorems

/-!
# The C interface encodes the calls that the client builds
-/

namespace KrustyKms.Ffi

open Codec Crypto Sdk Support

/-! ## Calls, read as felts -/

section Calls

variable [FeltParser]

/-- A felt as the reader of the calls takes it. -/
def readFelt (text : String) : Option Felt := (FeltParser.fromHex text).toOption

def callFromJson (json : Json) : Option Client.Call := do
  let field ← json.fieldsOf ["to", "selector", "calldata"]
  let calldata ← (field "calldata").bind (Json.listOf Json.asStr)
  pure {
    toAddress := ← (Json.textOf field "to").bind readFelt
    selector := ← (Json.textOf field "selector").bind readFelt
    calldata := ← calldata.mapM readFelt }

def callsFromJson (json : Json) : Option (List Client.Call) := do
  let field ← json.fieldsOf ["calls"]
  (field "calls").bind (Json.listOf callFromJson)

def readCalls [SerdeJson] (text : String) : Option (List Client.Call) :=
  (SerdeJson.parse text).bind callsFromJson

/-- Each text is read as the felt at its place. -/
def Reads (texts : List String) (felts : List Felt) : Prop :=
  List.Forall₂ (fun text felt => FeltParser.fromHex text = .ok felt) texts felts

lemma Reads.append {texts texts' : List String} {felts felts' : List Felt}
    (h : Reads texts felts) (h' : Reads texts' felts') :
    Reads (texts ++ texts') (felts ++ felts') := List.rel_append h h'

lemma reads_feltsToHexVec (hfelt : FeltParser.Exact) (felts : List Felt) :
    Reads (feltsToHexVec felts) felts := by
  induction felts with
  | nil => exact .nil
  | cons felt felts ih => exact .cons (hfelt.fromHex_toHex felt) ih

lemma reads_toFixedHex (hfelt : FeltParser.Exact) (felts : List Felt) :
    Reads (felts.map Felt.toFixedHex) felts := by
  induction felts with
  | nil => exact .nil
  | cons felt felts ih => exact .cons (hfelt.fromHex_toFixedHex felt) ih

lemma Reads.mapM_readFelt {texts : List String} {felts : List Felt} (h : Reads texts felts) :
    texts.mapM readFelt = some felts := by
  apply option_mapM_forall₂
  refine h.imp ?_
  intro text felt hfelt
  rw [readFelt, hfelt]
  rfl

/-- The call that the texts of `call` stand for. -/
structure CallJson.Denotes (call : CallJson) (built : Client.Call) : Prop where
  toAddress : FeltParser.fromHex call.toAddress = .ok built.toAddress
  selector : FeltParser.fromHex call.selector = .ok built.selector
  calldata : Reads call.calldata built.calldata

lemma CallJson.Denotes.callFromJson {call : CallJson} {built : Client.Call}
    (h : call.Denotes built) : Ffi.callFromJson call.toJson = some built := by
  have hs : ∀ text, Json.asStr (.string text) = some text := fun _ => rfl
  have ht : Json.listOf Json.asStr (.array (call.calldata.map .string)) = some call.calldata :=
    option_mapM_map hs call.calldata
  have hc := h.calldata.mapM_readFelt
  unfold Ffi.callFromJson CallJson.toJson
  refine Json.fieldsOf_bind (List.Perm.refl _) rfl (by decide) ?_
  intro field hf
  simp only [List.forall_mem_cons] at hf
  simp [Json.textOf, Json.asStr, hf, ht, hc, readFelt, h.toAddress, h.selector,
    Except.toOption]

omit [FeltParser] in
lemma plain_callToJson (depth : ℕ) (call : CallJson) : call.toJson.plain (depth + 2) = true := by
  have ht : Json.plainElements depth (call.calldata.map .string) = true := by
    rw [Json.plainElements_iff, List.forall_mem_map]
    intro text _
    rfl
  simp [CallJson.toJson, Json.plain, Json.plainEntries, ht]

lemma readCalls_buildCallsJson [SerdeJson] (hj : SerdeJson.Exact) {calls : List CallJson}
    {built : List Client.Call} (h : List.Forall₂ CallJson.Denotes calls built) :
    readCalls (buildCallsJson calls) = some built := by
  have hp : (Json.object [("calls", .array (calls.map CallJson.toJson))]).plain
      serdeJsonDepth = true := by
    have hc : Json.plainElements 125 (calls.map CallJson.toJson) = true := by
      rw [Json.plainElements_iff, List.forall_mem_map]
      intro call _
      exact plain_callToJson 123 call
    simp [serdeJsonDepth, Json.plain, Json.plainEntries, hc]
  have hc : (calls.map CallJson.toJson).mapM callFromJson = some built := by
    apply option_mapM_forall₂
    rw [List.forall₂_map_left_iff]
    exact h.imp fun _ _ hcl => hcl.callFromJson
  unfold readCalls buildCallsJson
  rw [hj _ hp, Option.bind_some]
  unfold callsFromJson
  refine Json.fieldsOf_bind (List.Perm.refl _) rfl (by decide) ?_
  intro field hf
  simp only [List.forall_mem_cons] at hf
  rw [hf.1]
  exact hc

end Calls

/-! ## Parts of the calldata -/

section Parts

variable {Point : Type} [CurvePoint Point]

lemma pointToHexXy_eq_ok {P : Point} {texts : String × String} :
    pointToHexXy P = .ok texts ↔ ∃ a : AffinePoint Point, StarkCurve.affineToProjective a = P ∧
      (a.x.toFixedHex, a.y.toFixedHex) = texts := by
  unfold pointToHexXy
  simp only [← toAffine_eq_some]
  cases toAffine P with
  | none => simp
  | some a => simp

lemma fromAffine_eq_ok {x y : Felt} {P : Point} :
    fromAffine x y = .ok P ↔ CurvePoint.fromAffine x y = some P := by
  unfold fromAffine
  cases (CurvePoint.fromAffine x y : Option Point) with
  | none => simp
  | some Q => simp

lemma decodeHexBytes_encodeBytes {n : ℕ} (bytes : Vector UInt8 n) :
    decodeHexBytes n (encodeBytes bytes.toList) = .ok bytes := by
  unfold decodeHexBytes
  rw [decodeBytes_encodeBytes, Option.bind_some, arrayFromSlice_eq_some.mpr rfl]

lemma exists_hintFelts {ciphertextHex nonceHex : String} {ciphertext : Vector UInt8 64}
    {nonce : Vector UInt8 24} (hc : decodeHexBytes 64 ciphertextHex = .ok ciphertext)
    (hn : decodeHexBytes 24 nonceHex = .ok nonce) :
    ∃ felts, serializeAeBalance ciphertext.toList nonce.toList = .ok felts ∧
      hintFelts ciphertextHex nonceHex = .ok (feltsToHexVec felts) := by
  obtain ⟨felts, hf⟩ := exists_serializeAeBalance ciphertext nonce
  refine ⟨felts, hf, ?_⟩
  unfold hintFelts
  rw [hc, hn]
  show (cryptoStatus (serializeAeBalance ciphertext.toList nonce.toList) >>= _) = _
  rw [hf]
  rfl

variable [FeltParser]

lemma parseFelt_eq_ok {text : String} {felt : Felt} :
    parseFelt text = .ok felt ↔ FeltParser.fromHex text = .ok felt := except_mapError_eq_ok

lemma feltText_toFixedHex (hfelt : FeltParser.Exact) (felt : Felt) :
    feltText felt.toFixedHex = .ok felt.toHex := by
  unfold feltText
  rw [parseFelt_eq_ok.mpr (hfelt.fromHex_toFixedHex felt)]
  rfl

lemma parseProjectivePoint_toFixedHex (hfelt : FeltParser.Exact) (a : AffinePoint Point) :
    parseProjectivePoint ⟨a.x.toFixedHex, a.y.toFixedHex⟩ =
      .ok (StarkCurve.affineToProjective a) := by
  unfold parseProjectivePoint
  rw [parseFelt_eq_ok.mpr (hfelt.fromHex_toFixedHex a.x),
    parseFelt_eq_ok.mpr (hfelt.fromHex_toFixedHex a.y)]
  exact fromAffine_coordinates a

lemma exists_publicKeyFelts {text : String} {P : Point} (h : parsePublicKey text = .ok P) :
    ∃ x y, serializeProjectivePoint P = .ok (x, y) ∧
      publicKeyFelts Point text = .ok [x.toHex, y.toHex] := by
  have hne : P ≠ 0 := by
    unfold parsePublicKey at h
    rw [except_bind_eq_ok] at h
    obtain ⟨⟨x, y⟩, -, h⟩ := h
    have hc := (CurvePoint.coordinates_eq_some P x y).mpr (fromAffine_eq_ok.mp h)
    intro hz
    rw [← CurvePoint.coordinates_eq_none, hc] at hz
    cases hz
  obtain ⟨a, rfl⟩ := exists_affine hne
  refine ⟨a.x, a.y, serializeProjectivePoint_affine a, ?_⟩
  unfold publicKeyFelts
  rw [h]
  show ((serializeProjectivePoint (StarkCurve.affineToProjective a)).mapError _ >>= _) = _
  rw [serializeProjectivePoint_affine]
  rfl

/-! Proofs are written where none of their points is at infinity. -/

omit [FeltParser] in
lemma exists_pointToHexXy {P : Point} : (∃ x y, pointToHexXy P = .ok (x, y)) ↔ P ≠ 0 := by
  simp only [pointToHexXy_eq_ok]
  constructor
  · intro h
    obtain ⟨-, -, a, rfl, -⟩ := h
    exact affineToProjective_ne_zero a
  · intro h
    obtain ⟨a, ha⟩ := exists_affine h
    exact ⟨_, _, a, ha, rfl⟩

/-- Neither point of the audited ciphertext is at infinity. -/
def AuditFinite (audit : Option (Audit Point)) : Prop :=
  ∀ part ∈ audit, part.auditedBalance.l ≠ 0 ∧ part.auditedBalance.r ≠ 0

lemma exists_mapM_serializeAudit {audit : Option (Audit Point)} :
    (∃ text, audit.mapM serializeAudit = .ok text) ↔ AuditFinite audit := by
  cases audit with
  | none => exact ⟨fun _ part hp => absurd hp (by simp), fun _ => ⟨none, rfl⟩⟩
  | some audit =>
    have hp : (∃ text, serializeAudit audit = .ok text) ↔ AuditFinite (some audit) := by
      simp [serializeAudit, exists_except_bind_eq_ok, exists_pointToHexXy, AuditFinite, pure,
        Except.pure]
    rw [← hp]
    show (∃ text, (serializeAudit audit).map some = .ok text) ↔ _
    simp [except_map_eq_ok]

lemma exists_fundResult {proof : FundProof Point} :
    (∃ text, fundResult proof = .ok text) ↔ proof.y ≠ 0 ∧ AuditFinite proof.audit := by
  simp [fundResult, exists_except_bind_eq_ok, exists_pointToHexXy, exists_mapM_serializeAudit,
    pure, Except.pure]

lemma exists_rolloverResult {proof : RolloverProof Point} :
    (∃ text, rolloverResult proof = .ok text) ↔ proof.y ≠ 0 := by
  simp [rolloverResult, exists_except_bind_eq_ok, exists_pointToHexXy, pure, Except.pure]

lemma exists_transferResult {proof : TransferProof Point} :
    (∃ text, transferResult proof = .ok text) ↔ proof.transferBalanceL ≠ 0 ∧
      proof.transferBalanceR ≠ 0 ∧ proof.transferBalanceSelfL ≠ 0 ∧ proof.transferBalanceSelfR ≠ 0 ∧
      proof.newBalanceCipher.l ≠ 0 ∧ proof.newBalanceCipher.r ≠ 0 ∧ proof.auxiliarCipher.l ≠ 0 ∧
      proof.auxiliarCipher.r ≠ 0 ∧ proof.auxiliarCipher2.l ≠ 0 ∧ proof.auxiliarCipher2.r ≠ 0 ∧
      AuditFinite proof.auditBalance ∧ AuditFinite proof.auditTransfer := by
  simp [transferResult, exists_except_bind_eq_ok, exists_pointToHexXy, exists_mapM_serializeAudit,
    pure, Except.pure]

lemma exists_withdrawResult {proof : WithdrawProof Point} :
    (∃ text, withdrawResult proof = .ok text) ↔ proof.y ≠ 0 ∧ proof.aX ≠ 0 ∧ proof.aR ≠ 0 ∧
      proof.a ≠ 0 ∧ proof.aV ≠ 0 ∧ proof.auxiliarCipher.l ≠ 0 ∧ proof.auxiliarCipher.r ≠ 0 ∧
      AuditFinite proof.audit := by
  simp [withdrawResult, exists_except_bind_eq_ok, exists_pointToHexXy, exists_mapM_serializeAudit,
    pure, Except.pure]

lemma exists_ragequitResult {proof : RagequitProof Point} :
    (∃ text, ragequitResult proof = .ok text) ↔ proof.y ≠ 0 ∧ proof.aX ≠ 0 ∧ proof.aR ≠ 0 ∧
      AuditFinite proof.audit := by
  simp [ragequitResult, exists_except_bind_eq_ok, exists_pointToHexXy, exists_mapM_serializeAudit,
    pure, Except.pure]

variable [FeltSerde] [SerdeJson]

lemma exists_auditFelts (hj : SerdeJson.Exact) (laws : FeltLaws) {audit : Option (Audit Point)}
    {text : Option String} (h : audit.mapM serializeAudit = .ok text) :
    ∃ felts, Client.auditFelts audit = .ok felts ∧
      auditOptionFelts Point text = .ok (feltsToHexVec felts) := by
  cases audit with
  | none =>
    obtain rfl : none = text := Except.ok.inj h
    exact ⟨serializeCairoNone, rfl, rfl⟩
  | some audit =>
    obtain ⟨⟨l, r⟩, hintCiphertext, hintNonce, proof⟩ := audit
    obtain ⟨text, ht, h⟩ := except_map_eq_ok.mp h
    subst h
    unfold serializeAudit at ht
    simp only [except_bind_eq_ok, pointToHexXy_eq_ok] at ht
    obtain ⟨-, ⟨l, rfl, rfl⟩, -, ⟨r, rfl, rfl⟩, ht⟩ := ht
    obtain rfl := Except.ok.inj ht
    have hr := readJson_toDeterministicJson hj rfl (AuditJsonData.fromJson_canonical laws
      l.x l.y r.x r.y hintCiphertext.toList hintNonce.toList proof)
    obtain ⟨felts, hf⟩ := exists_serializeAuditOption l r hintCiphertext hintNonce proof
    refine ⟨felts, hf, ?_⟩
    unfold auditOptionFelts
    simp only [hr, parseProjectivePoint_toFixedHex laws.parser, decodeHexBytes_encodeBytes,
      hf, bind, Except.bind]
    rfl

end Parts

/-! ## What a generator writes -/

/-- A text that a generator returns is what it writes for a proof of the account. -/
theorem generateProof_written {Point : Type} [CurvePoint Point] {Params Proof : Type}
    {account : Status (TongoAccount Point)} {params : Status Params}
    {prove : TongoAccount Point → Params → Status Proof} {result : Proof → Status String}
    {text : String} (h : generateProof account params prove result = .ok text) :
    ∃ owner given proof, account = .ok owner ∧ params = .ok given ∧
      prove owner given = .ok proof ∧ result proof = .ok text := by
  unfold generateProof at h
  simp only [except_bind_eq_ok] at h
  obtain ⟨given, hgiven, owner, howner, proof, hproof, hresult⟩ := h
  exact ⟨owner, given, proof, howner, hgiven, hproof, hresult⟩

/-! ## Parameters, and their texts -/

section Parameters

variable {Point : Type} [CurvePoint Point] [FeltParser]

/-- The values that the texts of the parameters are read as. -/
structure EncodeParams.Denotes (params : EncodeParams) (tongoAddress : Felt)
    (hintCiphertext : Vector UInt8 64) (hintNonce : Vector UInt8 24) : Prop where
  tongoAddress : FeltParser.fromHex params.tongoAddress = .ok tongoAddress
  hintCiphertext : decodeHexBytes 64 params.hintCiphertextHex = .ok hintCiphertext
  hintNonce : decodeHexBytes 24 params.hintNonceHex = .ok hintNonce

structure EncodeFundParams.Denotes (params : EncodeFundParams) (tongoAddress erc20Address : Felt)
    (rate : ℕ) (hintCiphertext : Vector UInt8 64) (hintNonce : Vector UInt8 24) : Prop where
  tongoAddress : FeltParser.fromHex params.tongoAddress = .ok tongoAddress
  erc20Address : FeltParser.fromHex params.erc20Address = .ok erc20Address
  rate : parseU128 params.rate = .ok rate
  hintCiphertext : decodeHexBytes 64 params.hintCiphertextHex = .ok hintCiphertext
  hintNonce : decodeHexBytes 24 params.hintNonceHex = .ok hintNonce

structure EncodeTransferParams.Denotes (params : EncodeTransferParams) (tongoAddress : Felt)
    (sender recipient : Point) (hintTransferCiphertext : Vector UInt8 64)
    (hintTransferNonce : Vector UInt8 24) (hintLeftoverCiphertext : Vector UInt8 64)
    (hintLeftoverNonce : Vector UInt8 24) : Prop where
  tongoAddress : FeltParser.fromHex params.tongoAddress = .ok tongoAddress
  sender : parsePublicKey params.senderPublicKey = .ok sender
  recipient : parsePublicKey params.recipientPublicKey = .ok recipient
  hintTransferCiphertext : decodeHexBytes 64 params.hintCiphertextHex = .ok hintTransferCiphertext
  hintTransferNonce : decodeHexBytes 24 params.hintNonceHex = .ok hintTransferNonce
  hintLeftoverCiphertext :
    decodeHexBytes 64 params.hintLeftoverCiphertextHex = .ok hintLeftoverCiphertext
  hintLeftoverNonce : decodeHexBytes 24 params.hintLeftoverNonceHex = .ok hintLeftoverNonce

/-- The parameters whose texts denote the values. -/
def EncodeParams.ofValues (tongoAddress : Felt) (proofResultJson : String)
    (hintCiphertext : Vector UInt8 64) (hintNonce : Vector UInt8 24) : EncodeParams where
  tongoAddress := tongoAddress.toHex
  proofResultJson := proofResultJson
  hintCiphertextHex := encodeBytes hintCiphertext.toList
  hintNonceHex := encodeBytes hintNonce.toList

def EncodeFundParams.ofValues (tongoAddress erc20Address : Felt) (rate : ℕ)
    (proofResultJson : String) (hintCiphertext : Vector UInt8 64) (hintNonce : Vector UInt8 24) :
    EncodeFundParams where
  tongoAddress := tongoAddress.toHex
  erc20Address := erc20Address.toHex
  rate := toString rate
  proofResultJson := proofResultJson
  hintCiphertextHex := encodeBytes hintCiphertext.toList
  hintNonceHex := encodeBytes hintNonce.toList

def EncodeTransferParams.ofValues (tongoAddress : Felt) (sender recipient : AffinePoint Point)
    (proofResultJson : String) (hintTransferCiphertext : Vector UInt8 64)
    (hintTransferNonce : Vector UInt8 24) (hintLeftoverCiphertext : Vector UInt8 64)
    (hintLeftoverNonce : Vector UInt8 24) : EncodeTransferParams where
  tongoAddress := tongoAddress.toHex
  senderPublicKey := publicKeyHex sender.x sender.y
  recipientPublicKey := publicKeyHex recipient.x recipient.y
  proofResultJson := proofResultJson
  hintCiphertextHex := encodeBytes hintTransferCiphertext.toList
  hintNonceHex := encodeBytes hintTransferNonce.toList
  hintLeftoverCiphertextHex := encodeBytes hintLeftoverCiphertext.toList
  hintLeftoverNonceHex := encodeBytes hintLeftoverNonce.toList

variable (hfelt : FeltParser.Exact) (text : String) (tongoAddress : Felt)
  (hintCiphertext : Vector UInt8 64) (hintNonce : Vector UInt8 24)

include hfelt

lemma EncodeParams.denotes_ofValues :
    (ofValues tongoAddress text hintCiphertext hintNonce).Denotes tongoAddress hintCiphertext
      hintNonce where
  tongoAddress := hfelt.fromHex_toHex tongoAddress
  hintCiphertext := decodeHexBytes_encodeBytes hintCiphertext
  hintNonce := decodeHexBytes_encodeBytes hintNonce

lemma EncodeFundParams.denotes_ofValues (erc20Address : Felt) {rate : ℕ} (hr : rate < 2 ^ 128) :
    (ofValues tongoAddress erc20Address rate text hintCiphertext hintNonce).Denotes tongoAddress
      erc20Address rate hintCiphertext hintNonce where
  tongoAddress := hfelt.fromHex_toHex tongoAddress
  erc20Address := hfelt.fromHex_toHex erc20Address
  rate := parseU128_toString hr
  hintCiphertext := decodeHexBytes_encodeBytes hintCiphertext
  hintNonce := decodeHexBytes_encodeBytes hintNonce

lemma EncodeTransferParams.denotes_ofValues (sender recipient : AffinePoint Point)
    (hintLeftoverCiphertext : Vector UInt8 64) (hintLeftoverNonce : Vector UInt8 24) :
    (ofValues tongoAddress sender recipient text hintCiphertext hintNonce hintLeftoverCiphertext
      hintLeftoverNonce).Denotes tongoAddress (StarkCurve.affineToProjective sender)
        (StarkCurve.affineToProjective recipient) hintCiphertext hintNonce hintLeftoverCiphertext
        hintLeftoverNonce where
  tongoAddress := hfelt.fromHex_toHex tongoAddress
  sender := parsePublicKey_publicKeyHex hfelt sender
  recipient := parsePublicKey_publicKeyHex hfelt recipient
  hintTransferCiphertext := decodeHexBytes_encodeBytes hintCiphertext
  hintTransferNonce := decodeHexBytes_encodeBytes hintNonce
  hintLeftoverCiphertext := decodeHexBytes_encodeBytes hintLeftoverCiphertext
  hintLeftoverNonce := decodeHexBytes_encodeBytes hintLeftoverNonce

end Parameters

/-! ## The same calls on both sides -/

section Agreement

variable {Point : Type} [CurvePoint Point] [FeltParser] [FeltSerde] [SerdeJson] [Keccak256]
  [Client.SelectorNames]

/-- What both sides rely on: documents and felts are read back as they were written, and the
names of the entry points have the selectors that are encoded. -/
structure InterfaceLaws : Prop extends FeltLaws where
  json : SerdeJson.Exact
  selectors : ∀ name ∈ ["approve", "fund", "rollover", "transfer", "withdraw", "ragequit"],
    Client.SelectorNames.getSelectorFromName name = .ok (selector name)

/-- The document that is encoded is read as the calls that are built. -/
def Agree (encoded : Status String) (built : Result (List Client.Call)) : Prop :=
  ∃ text calls, encoded = .ok text ∧ built = .ok calls ∧ readCalls text = some calls

lemma selectorOf_eq (laws : InterfaceLaws) {name : String}
    (hn : name ∈ ["approve", "fund", "rollover", "transfer", "withdraw", "ragequit"]) :
    Client.selectorOf name = .ok (selector name) := by
  unfold Client.selectorOf
  rw [laws.selectors name hn]
  rfl

lemma agree_of_denotes (laws : InterfaceLaws) {encoded : Status String}
    {built : Result (List Client.Call)} {calls : List CallJson} {calls' : List Client.Call}
    (hen : encoded = .ok (buildCallsJson calls)) (hb : built = .ok calls')
    (h : List.Forall₂ CallJson.Denotes calls calls') : Agree encoded built :=
  ⟨_, _, hen, hb, readCalls_buildCallsJson laws.json h⟩

/-- One call to the contract: its calldata is all that is left to compare. -/
lemma agree_of_reads (laws : InterfaceLaws) (name : String) {encoded : Status String}
    {built : Result Client.Call} {addressText : String} {address : Felt} {texts : List String}
    {felts : List Felt}
    (haddress : FeltParser.fromHex addressText = .ok address)
    (hencoded : encoded = .ok (buildCallsJson [⟨addressText, (selector name).toHex, texts⟩]))
    (hbuilt : built = .ok ⟨address, selector name, felts⟩) (hreads : Reads texts felts) :
    Agree encoded (built.map ([·])) :=
  agree_of_denotes laws hencoded (by rw [hbuilt]; rfl)
    (.cons ⟨haddress, laws.parser.fromHex_toHex _, hreads⟩ .nil)

variable {paramsJson : String} {params : EncodeParams} {tongoAddress : Felt}
  {hintCiphertext : Vector UInt8 64} {hintNonce : Vector UInt8 24}

lemma rollover_agree (laws : InterfaceLaws) {proof : RolloverProof Point}
    (hw : rolloverResult proof = .ok params.proofResultJson)
    (hr : readJson EncodeParams.fromJson paramsJson = .ok params)
    (hp : params.Denotes tongoAddress hintCiphertext hintNonce) :
    Agree (kmsEncodeRolloverCalls paramsJson)
      ((Client.buildRolloverCall tongoAddress proof hintCiphertext hintNonce).map ([·])) := by
  unfold rolloverResult at hw
  simp only [except_bind_eq_ok, pointToHexXy_eq_ok] at hw
  obtain ⟨-, ⟨y, hy, rfl⟩, hw⟩ := hw
  have hd := readJson_rolloverResult laws.json hw
  have hpoe := readJson_toDeterministicJson laws.json rfl
    (poeProofFromJson_canonical laws.toFeltLaws proof.proof)
  obtain ⟨hint, hsr, hh⟩ := exists_hintFelts hp.hintCiphertext hp.hintNonce
  have hsl := selectorOf_eq laws (by decide : "rollover" ∈ _)
  have hs := reads_feltsToHexVec laws.parser
  have hreads := ((hs [y.x, y.y]).append (hs hint)).append
    (hs [proof.proof.a.x, proof.proof.a.y, proof.proof.s])
  refine agree_of_reads laws "rollover" hp.tongoAddress ?_ ?_ hreads
  · unfold kmsEncodeRolloverCalls
    simp only [hr, hd, feltText_toFixedHex laws.parser, hh, hpoe, bind, Except.bind]
    rfl
  · unfold Client.buildRolloverCall
    simp only [← hy, serializeProjectivePoint_affine, hsr, serializePoeProof, hsl,
      Client.map_coreFeltToRs, Client.coreFeltToRs_eq, bind, Except.bind]
    rfl

lemma ragequit_agree (laws : InterfaceLaws) {proof : RagequitProof Point}
    (ha : proof.amount < 2 ^ 128) (hw : ragequitResult proof = .ok params.proofResultJson)
    (hr : readJson EncodeParams.fromJson paramsJson = .ok params)
    (hp : params.Denotes tongoAddress hintCiphertext hintNonce) :
    Agree (kmsEncodeRagequitCalls Point paramsJson)
      ((Client.buildRagequitCall tongoAddress proof hintCiphertext hintNonce).map ([·])) := by
  unfold ragequitResult at hw
  simp only [except_bind_eq_ok, pointToHexXy_eq_ok] at hw
  obtain ⟨-, ⟨y, hy, rfl⟩, -, ⟨aX, haX, rfl⟩, -, ⟨aR, haR, rfl⟩, auditJson, had, hw⟩ := hw
  have hd := readJson_ragequitResult laws.json hw
  obtain ⟨hint, hsr, hh⟩ := exists_hintFelts hp.hintCiphertext hp.hintNonce
  obtain ⟨auditPart, hab, hae⟩ := exists_auditFelts laws.json laws.toFeltLaws had
  have hsl := selectorOf_eq laws (by decide : "ragequit" ∈ _)
  have hf := reads_toFixedHex laws.parser
  have hs := reads_feltsToHexVec laws.parser
  have hreads := ((((hf [y.x, y.y, proof.recipient]).append (hs [(proof.amount : Felt)])).append
    (hs hint)).append (hf [aX.x, aX.y, aR.x, aR.y, proof.sx])).append (hs auditPart)
  refine agree_of_reads laws "ragequit" hp.tongoAddress ?_ ?_ hreads
  · unfold kmsEncodeRagequitCalls
    simp only [hr, hd, parseU128_toString ha, hh, hae, bind, Except.bind]
    rfl
  · unfold Client.buildRagequitCall
    simp only [← hy, ← haX, ← haR, serializeProjectivePoint_affine, hsr, hab, hsl,
      Client.map_coreFeltToRs, Client.coreFeltToRs_eq, bind, Except.bind]
    rfl

lemma withdraw_agree (laws : InterfaceLaws) {proof : WithdrawProof Point}
    (ha : proof.amount < 2 ^ 128) (hw : withdrawResult proof = .ok params.proofResultJson)
    (hrd : readJson EncodeParams.fromJson paramsJson = .ok params)
    (hp : params.Denotes tongoAddress hintCiphertext hintNonce) :
    Agree (kmsEncodeWithdrawCalls Point paramsJson)
      ((Client.buildWithdrawCall tongoAddress proof hintCiphertext hintNonce).map ([·])) := by
  unfold withdrawResult at hw
  simp only [except_bind_eq_ok, pointToHexXy_eq_ok] at hw
  obtain ⟨-, ⟨y, hy, rfl⟩, -, ⟨aX, haX, rfl⟩, -, ⟨aR, haR, rfl⟩, -, ⟨a, haa, rfl⟩, -,
    ⟨aV, haV, rfl⟩, -, ⟨auxL, hauxL, rfl⟩, -, ⟨auxR, hauxR, rfl⟩, auditJson, had, hw⟩ := hw
  have hd := readJson_withdrawResult laws.json hw
  have hrn := readJson_toDeterministicJson laws.json (plain_rangeToJson 123 proof.range)
    (rangeFromJson_canonical laws.toFeltLaws proof.range)
  obtain ⟨rangeFelts, hr⟩ := exists_serializeRange proof.range
  obtain ⟨hint, hsr, hh⟩ := exists_hintFelts hp.hintCiphertext hp.hintNonce
  obtain ⟨auditPart, hab, hae⟩ := exists_auditFelts laws.json laws.toFeltLaws had
  have hsl := selectorOf_eq laws (by decide : "withdraw" ∈ _)
  have hf := reads_toFixedHex laws.parser
  have hs := reads_feltsToHexVec laws.parser
  have hreads := (((((hf [y.x, y.y, proof.recipient]).append (hs [(proof.amount : Felt)])).append
    (hs hint)).append (hf [auxL.x, auxL.y, auxR.x, auxR.y, aX.x, aX.y, aR.x, aR.y, a.x, a.y, aV.x,
      aV.y, proof.sx, proof.sb, proof.sr])).append (hs rangeFelts)).append (hs auditPart)
  refine agree_of_reads laws "withdraw" hp.tongoAddress ?_ ?_ hreads
  · unfold kmsEncodeWithdrawCalls
    simp only [hrd, hd, parseU128_toString ha, hh, hrn, hr, hae, bind, Except.bind]
    rfl
  · unfold Client.buildWithdrawCall serializeCipherBalance
    simp only [← hy, ← haX, ← haR, ← haa, ← haV, ← hauxL, ← hauxR,
      serializeProjectivePoint_affine, hsr, hr, hab, hsl, Client.map_coreFeltToRs,
      Client.coreFeltToRs_eq, bind, Except.bind]
    simp [pure, Except.pure]

lemma transfer_agree (laws : InterfaceLaws) {proof : TransferProof Point}
    {params : EncodeTransferParams} {sender recipient : Point}
    {hintTransferCiphertext : Vector UInt8 64} {hintTransferNonce : Vector UInt8 24}
    {hintLeftoverCiphertext : Vector UInt8 64} {hintLeftoverNonce : Vector UInt8 24}
    (hw : transferResult proof = .ok params.proofResultJson)
    (hr : readJson EncodeTransferParams.fromJson paramsJson = .ok params)
    (hp : params.Denotes tongoAddress sender recipient hintTransferCiphertext
    hintTransferNonce hintLeftoverCiphertext hintLeftoverNonce) :
    Agree (kmsEncodeTransferCalls Point paramsJson)
      ((Client.buildTransferCall tongoAddress sender recipient proof hintTransferCiphertext
        hintTransferNonce hintLeftoverCiphertext hintLeftoverNonce).map ([·])) := by
  unfold transferResult at hw
  simp only [except_bind_eq_ok, pointToHexXy_eq_ok] at hw
  obtain ⟨-, ⟨tbL, htbL, rfl⟩, -, ⟨tbR, htbR, rfl⟩, -, ⟨tbsL, htbsL, rfl⟩, -,
    ⟨tbsR, htbsR, rfl⟩, -, ⟨newL, -, rfl⟩, -, ⟨newR, -, rfl⟩, -, ⟨auxL, hauxL, rfl⟩, -,
    ⟨auxR, hauxR, rfl⟩, -, ⟨aux2L, haux2L, rfl⟩, -, ⟨aux2R, haux2R, rfl⟩, auditBalanceJson, ha,
    auditTransferJson, hat, hw⟩ := hw
  have hd := readJson_transferResult laws.json hw
  have hpot := readJson_toDeterministicJson laws.json (plain_proofOfTransferToJson 122 proof.proof)
    (proofOfTransferFromJson_canonical laws.toFeltLaws proof.proof)
  obtain ⟨potFelts, hpf⟩ := exists_serializeProofOfTransfer proof.proof
  obtain ⟨fromX, fromY, hf, hfe⟩ := exists_publicKeyFelts hp.sender
  obtain ⟨toX, toY, hto, ht⟩ := exists_publicKeyFelts hp.recipient
  obtain ⟨hint, hh, hhn⟩ := exists_hintFelts hp.hintTransferCiphertext hp.hintTransferNonce
  obtain ⟨leftover, hl, hlf⟩ := exists_hintFelts hp.hintLeftoverCiphertext hp.hintLeftoverNonce
  obtain ⟨balancePart, hb, hbe⟩ := exists_auditFelts laws.json laws.toFeltLaws ha
  obtain ⟨transferPart, htb, hte⟩ := exists_auditFelts laws.json laws.toFeltLaws hat
  have hsl := selectorOf_eq laws (by decide : "transfer" ∈ _)
  have hbl : [tbL.x.toFixedHex, tbL.y.toFixedHex, tbR.x.toFixedHex, tbR.y.toFixedHex,
      tbsL.x.toFixedHex, tbsL.y.toFixedHex, tbsR.x.toFixedHex, tbsR.y.toFixedHex].mapM feltText =
        .ok (feltsToHexVec [tbL.x, tbL.y, tbR.x, tbR.y, tbsL.x, tbsL.y, tbsR.x, tbsR.y]) := by
    simp only [List.mapM_cons, List.mapM_nil, feltText_toFixedHex laws.parser]
    rfl
  have hfx := reads_toFixedHex laws.parser
  have hs := reads_feltsToHexVec laws.parser
  have hreads := ((((((((hs [fromX, fromY]).append (hs [toX, toY])).append
    (hs [tbL.x, tbL.y, tbR.x, tbR.y, tbsL.x, tbsL.y, tbsR.x, tbsR.y])).append (hs hint)).append
    (hs leftover)).append (hfx [auxL.x, auxL.y, auxR.x, auxR.y, aux2L.x, aux2L.y, aux2R.x,
      aux2R.y])).append (hs potFelts)).append (hs balancePart)).append (hs transferPart)
  refine agree_of_reads laws "transfer" hp.tongoAddress ?_ ?_ hreads
  · unfold kmsEncodeTransferCalls transferCalldata
    simp only [hr, hd, hfe, ht, hbl, hhn, hlf, hpot, hpf, hbe, hte, bind, Except.bind]
    rfl
  · unfold Client.buildTransferCall serializeCipherBalance
    simp only [hf, hto, ← htbL, ← htbR, ← htbsL, ← htbsR, ← hauxL, ← hauxR, ← haux2L, ← haux2R,
      serializeProjectivePoint_affine, hh, hl, hpf, hb, htb, hsl, Client.map_coreFeltToRs,
      Client.coreFeltToRs_eq, bind, Except.bind]
    simp [pure, Except.pure]

lemma fund_agree (laws : InterfaceLaws) {proof : FundProof Point}
    {params : EncodeFundParams} {erc20Address : Felt} {rate : ℕ}
    (ha : proof.amount < 2 ^ 128) (hw : fundResult proof = .ok params.proofResultJson)
    (hr : readJson EncodeFundParams.fromJson paramsJson = .ok params)
    (hp : params.Denotes tongoAddress erc20Address rate hintCiphertext hintNonce) :
    if proof.amount * rate < 2 ^ 128 then
      Agree (kmsEncodeFundCalls Point paramsJson)
        ((Client.buildFundCalls tongoAddress erc20Address rate proof hintCiphertext hintNonce).map
          fun (approve, fund) => [approve, fund])
    else
      kmsEncodeFundCalls Point paramsJson = .error kmsErrInvalidInput ∧
        Client.buildFundCalls tongoAddress erc20Address rate proof hintCiphertext hintNonce =
          .error (.invalidAmount "approve amount overflow: amount * rate exceeds u128") := by
  unfold fundResult at hw
  simp only [except_bind_eq_ok, pointToHexXy_eq_ok] at hw
  obtain ⟨-, ⟨y, hy, rfl⟩, auditJson, had, hw⟩ := hw
  have hd := readJson_fundResult laws.json hw
  have ht := parseFelt_eq_ok.mpr hp.tongoAddress
  split_ifs with hf
  · have hpr : checkedMulU128 proof.amount rate = some (proof.amount * rate) := if_pos hf
    have hpoe := readJson_toDeterministicJson laws.json rfl
      (poeProofFromJson_canonical laws.toFeltLaws proof.proof)
    obtain ⟨hint, hsr, hh⟩ := exists_hintFelts hp.hintCiphertext hp.hintNonce
    obtain ⟨auditPart, hab, hae⟩ := exists_auditFelts laws.json laws.toFeltLaws had
    have hfn := selectorOf_eq laws (by decide : "fund" ∈ _)
    have hap := selectorOf_eq laws (by decide : "approve" ∈ _)
    have hs := reads_feltsToHexVec laws.parser
    have happrove : CallJson.Denotes ⟨params.erc20Address, (selector "approve").toHex, _⟩
        ⟨erc20Address, selector "approve", _⟩ :=
      ⟨hp.erc20Address, laws.parser.fromHex_toHex _,
        hs [tongoAddress, ((proof.amount * rate : ℕ) : Felt), 0]⟩
    have hfund : CallJson.Denotes ⟨params.tongoAddress, (selector "fund").toHex, _⟩
        ⟨tongoAddress, selector "fund", _⟩ :=
      ⟨hp.tongoAddress, laws.parser.fromHex_toHex _,
        (((hs [y.x, y.y, (proof.amount : Felt)]).append (hs hint)).append
          (hs [proof.proof.a.x, proof.proof.a.y, proof.proof.s])).append (hs auditPart)⟩
    refine agree_of_denotes laws ?_ ?_ (.cons happrove (.cons hfund .nil))
    · unfold kmsEncodeFundCalls
      simp only [hr, hd, parseU128_toString ha, hp.rate, ht, hpr,
        feltText_toFixedHex laws.parser, hh, hpoe, hae, bind, Except.bind]
      rfl
    · unfold Client.buildFundCalls Client.buildErc20Approve
      simp only [hpr, ← hy, serializeProjectivePoint_affine, hsr, serializePoeProof,
        hab, hfn, hap, u128ToU256, Client.map_coreFeltToRs, Client.coreFeltToRs_eq,
        bind, Except.bind]
      rfl
  · have hpr : checkedMulU128 proof.amount rate = none := if_neg hf
    refine ⟨?_, ?_⟩
    · unfold kmsEncodeFundCalls
      simp only [hr, hd, parseU128_toString ha, hp.rate, ht, hpr, bind,
        Except.bind]
      rfl
    · unfold Client.buildFundCalls
      simp only [hpr, bind, Except.bind]
      rfl

/-- For every proof whose fields are written, the encoder makes the calls that the client builds
for the proof and the parameters that the texts are read as. -/
theorem encoded_calls_agree (laws : InterfaceLaws) :
    (∀ (proof : FundProof Point) (paramsJson : String) (params : EncodeFundParams)
      (tongoAddress erc20Address : Felt) (rate : ℕ) (hintCiphertext : Vector UInt8 64)
      (hintNonce : Vector UInt8 24), proof.amount < 2 ^ 128 →
      fundResult proof = .ok params.proofResultJson →
      readJson EncodeFundParams.fromJson paramsJson = .ok params →
      params.Denotes tongoAddress erc20Address rate hintCiphertext hintNonce →
      if proof.amount * rate < 2 ^ 128 then
        Agree (kmsEncodeFundCalls Point paramsJson)
          ((Client.buildFundCalls tongoAddress erc20Address rate proof hintCiphertext
            hintNonce).map fun (approve, fund) => [approve, fund])
      else
        kmsEncodeFundCalls Point paramsJson = .error kmsErrInvalidInput ∧
          Client.buildFundCalls tongoAddress erc20Address rate proof hintCiphertext hintNonce =
            .error (.invalidAmount "approve amount overflow: amount * rate exceeds u128")) ∧
    (∀ (proof : RolloverProof Point) (paramsJson : String) (params : EncodeParams)
      (tongoAddress : Felt) (hintCiphertext : Vector UInt8 64) (hintNonce : Vector UInt8 24),
      rolloverResult proof = .ok params.proofResultJson →
      readJson EncodeParams.fromJson paramsJson = .ok params →
      params.Denotes tongoAddress hintCiphertext hintNonce →
      Agree (kmsEncodeRolloverCalls paramsJson)
        ((Client.buildRolloverCall tongoAddress proof hintCiphertext hintNonce).map ([·]))) ∧
    (∀ (proof : TransferProof Point) (paramsJson : String) (params : EncodeTransferParams)
      (tongoAddress : Felt) (sender recipient : Point)
      (hintTransferCiphertext : Vector UInt8 64) (hintTransferNonce : Vector UInt8 24)
      (hintLeftoverCiphertext : Vector UInt8 64) (hintLeftoverNonce : Vector UInt8 24),
      transferResult proof = .ok params.proofResultJson →
      readJson EncodeTransferParams.fromJson paramsJson = .ok params →
      params.Denotes tongoAddress sender recipient hintTransferCiphertext hintTransferNonce
        hintLeftoverCiphertext hintLeftoverNonce →
      Agree (kmsEncodeTransferCalls Point paramsJson)
        ((Client.buildTransferCall tongoAddress sender recipient proof hintTransferCiphertext
          hintTransferNonce hintLeftoverCiphertext hintLeftoverNonce).map ([·]))) ∧
    (∀ (proof : WithdrawProof Point) (paramsJson : String) (params : EncodeParams)
      (tongoAddress : Felt) (hintCiphertext : Vector UInt8 64) (hintNonce : Vector UInt8 24),
      proof.amount < 2 ^ 128 → withdrawResult proof = .ok params.proofResultJson →
      readJson EncodeParams.fromJson paramsJson = .ok params →
      params.Denotes tongoAddress hintCiphertext hintNonce →
      Agree (kmsEncodeWithdrawCalls Point paramsJson)
        ((Client.buildWithdrawCall tongoAddress proof hintCiphertext hintNonce).map ([·]))) ∧
    (∀ (proof : RagequitProof Point) (paramsJson : String) (params : EncodeParams)
      (tongoAddress : Felt) (hintCiphertext : Vector UInt8 64) (hintNonce : Vector UInt8 24),
      proof.amount < 2 ^ 128 → ragequitResult proof = .ok params.proofResultJson →
      readJson EncodeParams.fromJson paramsJson = .ok params →
      params.Denotes tongoAddress hintCiphertext hintNonce →
      Agree (kmsEncodeRagequitCalls Point paramsJson)
        ((Client.buildRagequitCall tongoAddress proof hintCiphertext hintNonce).map ([·]))) := by
  refine ⟨?_, ?_, ?_, ?_, ?_⟩
  · intro proof paramsJson params tongoAddress erc20Address rate hintCiphertext hintNonce ha
      hw hr hp
    exact fund_agree laws ha hw hr hp
  · intro proof paramsJson params tongoAddress hintCiphertext hintNonce hw hr hp
    exact rollover_agree laws hw hr hp
  · intro proof paramsJson params tongoAddress sender recipient hintTransferCiphertext
      hintTransferNonce hintLeftoverCiphertext hintLeftoverNonce hw hr hp
    exact transfer_agree laws hw hr hp
  · intro proof paramsJson params tongoAddress hintCiphertext hintNonce ha hw hr
      hp
    exact withdraw_agree laws ha hw hr hp
  · intro proof paramsJson params tongoAddress hintCiphertext hintNonce ha hw hr
      hp
    exact ragequit_agree laws ha hw hr hp

end Agreement

/-! ## Proofs of each operation, with both kinds of audits -/

section Samples

@[reducible] def sampleKeccak256 : Keccak256 := tableKeccak256 [
  (utf8 "approve", 0x5219209e083275171774dab1df80982e9df2096516f06319c5c6d71ae0a8480c),
  (utf8 "fund", 0xce1651a2349bcdb7013b1ff4b698174e0af10bca7624ae0e4f832dbb407eee20),
  (utf8 "rollover", 0xbf587511558a364dd791967d1d1190665c476e9588485c30c7473d6618fb8ed1),
  (utf8 "transfer", 0xb483afd3f4caedc6eebf44246fe54e38c95e3179a5ec9ea81740eca5b482d12e),
  (utf8 "withdraw", 0x855511cc3694f64379908437d6d64458dc76d02482052bfb8a5b33a72c054c77),
  (utf8 "ragequit", 0x54527537e04b80d3b3bd9dfa43834f03d4b745f8411ca72260a3c7e02ea7fa3f)]

def sampleSelectors : List (String × Felt) := [
  ("approve", 0x219209e083275171774dab1df80982e9df2096516f06319c5c6d71ae0a8480c),
  ("fund", 0x21651a2349bcdb7013b1ff4b698174e0af10bca7624ae0e4f832dbb407eee20),
  ("rollover", 0x3587511558a364dd791967d1d1190665c476e9588485c30c7473d6618fb8ed1),
  ("transfer", 0x83afd3f4caedc6eebf44246fe54e38c95e3179a5ec9ea81740eca5b482d12e),
  ("withdraw", 0x15511cc3694f64379908437d6d64458dc76d02482052bfb8a5b33a72c054c77),
  ("ragequit", 0x527537e04b80d3b3bd9dfa43834f03d4b745f8411ca72260a3c7e02ea7fa3f)]

@[reducible] def sampleNames : Client.SelectorNames where
  getSelectorFromName name := match sampleSelectors.lookup name with
    | some felt => .ok felt
    | none => .error "unknown name"

attribute [local instance] sampleCurve numeralParser numeralSerde compactReader sampleKeccak256
  sampleNames

lemma sampleLaws : InterfaceLaws where
  parser := numeralParser_exact
  serde := numeralSerde_exact
  json := compactReader_exact
  selectors := by decide +kernel

def sampleTongo : Felt := 0x1e240
def sampleErc20 : Felt := 0x4718f5a0fc34cc1af16a1cdee98ffb20c31f5cd61d6ab07201858f4287c938d
def sampleHint : Vector UInt8 64 := beVector 64 0x102030405060708
def sampleNonce : Vector UInt8 24 := beVector 24 0x90a0b0c

def samplePoe : PoeProof := ⟨sampleTable.point 3, 5, 6⟩

def sampleRange : Range where
  commitments := [sampleTable.point 7]
  proofs := [⟨sampleTable.point 3, sampleTable.point 23, 1, 2, 3⟩]

def sampleAudit : Audit CyclicPoint where
  auditedBalance := sampleBalance
  hintCiphertext := sampleHint
  hintNonce := sampleNonce
  proof := ⟨sampleTable.point 1, sampleTable.point 3, sampleTable.point 7, sampleTable.point 23, 8,
    9, 10, 11⟩

def sampleFund : FundProof CyclicPoint := ⟨CyclicPoint.mk 7, samplePoe, 2, some sampleAudit⟩

def sampleRollover : RolloverProof CyclicPoint := ⟨CyclicPoint.mk 7, samplePoe, 4⟩

def sampleTransfer : TransferProof CyclicPoint where
  transferBalanceL := CyclicPoint.mk 23
  transferBalanceR := CyclicPoint.mk 3
  transferBalanceSelfL := CyclicPoint.mk 7
  transferBalanceSelfR := CyclicPoint.mk 3
  proof := ⟨sampleTable.point 1, sampleTable.point 3, sampleTable.point 7, sampleTable.point 23,
    sampleTable.point 1, sampleTable.point 3, sampleTable.point 7, sampleTable.point 23, 1, 2, 3, 4,
    5, sampleRange, sampleRange⟩
  auxiliarCipher := sampleBalance
  auxiliarCipher2 := sampleBalance
  newBalanceCipher := sampleBalance
  auditBalance := some sampleAudit
  auditTransfer := none

def sampleWithdraw : WithdrawProof CyclicPoint where
  y := CyclicPoint.mk 7
  aX := CyclicPoint.mk 3
  aR := CyclicPoint.mk 23
  a := CyclicPoint.mk 1
  aV := CyclicPoint.mk 3
  sx := 1
  sb := 2
  sr := 3
  auxiliarCipher := sampleBalance
  range := sampleRange
  amount := 1
  recipient := 0xabc
  audit := none

def sampleRagequit : RagequitProof CyclicPoint :=
  ⟨CyclicPoint.mk 7, CyclicPoint.mk 3, CyclicPoint.mk 23, 4, 2, 0xabc, some sampleAudit⟩

def sampleSender : AffinePoint CyclicPoint :=
  ⟨(sampleTable.point 7).x, (sampleTable.point 7).y, sampleOwner_onCurve⟩
def sampleRecipient : AffinePoint CyclicPoint :=
  ⟨(sampleTable.point 3).x, (sampleTable.point 3).y, by decide +kernel⟩

lemma sampleAudit_finite : AuditFinite (some sampleAudit) := by
  intro part hp
  obtain rfl := Option.some.inj hp
  decide +kernel

theorem sampleCalls_agree :
    (∃ text, fundResult sampleFund = .ok text ∧
      Agree (kmsEncodeFundCalls CyclicPoint (EncodeFundParams.ofValues sampleTongo sampleErc20 3
        text sampleHint sampleNonce).toJson.write) ((Client.buildFundCalls sampleTongo sampleErc20 3
          sampleFund sampleHint sampleNonce).map fun (approve, fund) => [approve, fund])) ∧
    (∃ text, rolloverResult sampleRollover = .ok text ∧
      Agree (kmsEncodeRolloverCalls
        (EncodeParams.ofValues sampleTongo text sampleHint sampleNonce).toJson.write)
        ((Client.buildRolloverCall sampleTongo sampleRollover sampleHint sampleNonce).map ([·]))) ∧
    (∃ text, transferResult sampleTransfer = .ok text ∧
      Agree (kmsEncodeTransferCalls CyclicPoint (EncodeTransferParams.ofValues sampleTongo
        sampleSender sampleRecipient text sampleHint sampleNonce sampleHint
        sampleNonce).toJson.write) ((Client.buildTransferCall sampleTongo
          (StarkCurve.affineToProjective sampleSender)
          (StarkCurve.affineToProjective sampleRecipient) sampleTransfer sampleHint sampleNonce
          sampleHint sampleNonce).map ([·]))) ∧
    (∃ text, withdrawResult sampleWithdraw = .ok text ∧
      Agree (kmsEncodeWithdrawCalls CyclicPoint
        (EncodeParams.ofValues sampleTongo text sampleHint sampleNonce).toJson.write)
        ((Client.buildWithdrawCall sampleTongo sampleWithdraw sampleHint sampleNonce).map ([·]))) ∧
    (∃ text, ragequitResult sampleRagequit = .ok text ∧
      Agree (kmsEncodeRagequitCalls CyclicPoint
        (EncodeParams.ofValues sampleTongo text sampleHint sampleNonce).toJson.write)
        ((Client.buildRagequitCall sampleTongo sampleRagequit sampleHint sampleNonce).map
          ([·]))) := by
  have hfelt := numeralParser_exact
  have hj := compactReader_exact
  have hn : AuditFinite (none : Option (Audit CyclicPoint)) := by
    intro part hp
    cases hp
  obtain ⟨hf, hr, htr, hw, hrg⟩ :=
    @encoded_calls_agree CyclicPoint _ _ _ _ _ _ sampleLaws
  refine ⟨?_, ?_, ?_, ?_, ?_⟩
  · obtain ⟨text, ht⟩ := (@exists_fundResult _ _ _ sampleFund).mpr
      ⟨by decide +kernel, sampleAudit_finite⟩
    have ha := hf sampleFund _ _ _ _ _ _ _ (by decide) ht
      (readJson_encodeFundParams hj _)
      (EncodeFundParams.denotes_ofValues hfelt text sampleTongo sampleHint sampleNonce sampleErc20
        (by decide : 3 < 2 ^ 128))
    rw [if_pos (by decide)] at ha
    exact ⟨text, ht, ha⟩
  · obtain ⟨text, ht⟩ := (@exists_rolloverResult _ _ _ sampleRollover).mpr (by decide +kernel)
    exact ⟨text, ht, hr _ _ _ _ _ _ ht (readJson_encodeParams hj _)
      (EncodeParams.denotes_ofValues hfelt text sampleTongo sampleHint sampleNonce)⟩
  · obtain ⟨text, ht⟩ := (@exists_transferResult _ _ _ sampleTransfer).mpr
      ⟨by decide +kernel, by decide +kernel, by decide +kernel, by decide +kernel,
        by decide +kernel, by decide +kernel, by decide +kernel, by decide +kernel,
        by decide +kernel, by decide +kernel, sampleAudit_finite, hn⟩
    exact ⟨text, ht, htr _ _ _ _ _ _ _ _ _ _ ht (readJson_encodeTransferParams hj _)
      (EncodeTransferParams.denotes_ofValues hfelt text sampleTongo sampleHint sampleNonce
        sampleSender sampleRecipient sampleHint sampleNonce)⟩
  · obtain ⟨text, ht⟩ := (@exists_withdrawResult _ _ _ sampleWithdraw).mpr
      ⟨by decide +kernel, by decide +kernel, by decide +kernel, by decide +kernel,
        by decide +kernel, by decide +kernel, by decide +kernel, hn⟩
    exact ⟨text, ht, hw _ _ _ _ _ _ (by decide) ht (readJson_encodeParams hj _)
      (EncodeParams.denotes_ofValues hfelt text sampleTongo sampleHint sampleNonce)⟩
  · obtain ⟨text, ht⟩ := (@exists_ragequitResult _ _ _ sampleRagequit).mpr
      ⟨by decide +kernel, by decide +kernel, by decide +kernel, sampleAudit_finite⟩
    exact ⟨text, ht, hrg _ _ _ _ _ _ (by decide) ht (readJson_encodeParams hj _)
      (EncodeParams.denotes_ofValues hfelt text sampleTongo sampleHint sampleNonce)⟩

end Samples

end KrustyKms.Ffi

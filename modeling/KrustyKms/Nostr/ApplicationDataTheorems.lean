import KrustyKms.Nostr.ApplicationData
import KrustyKms.Nostr.Nip44Theorems

/-!
# Gift wraps are opened to what was wrapped

* `giftWrap_exact`: the recipient of a wrap gets the content, the identifier and the sender, and
  whatever is opened was sealed with a signature of the sender it reports.
-/

namespace KrustyKms.Nostr

open Codec Support

/-! ## Hexadecimal text -/

lemma verbatim_hexDigit {c : Char} (h : (hexDigit c).isSome) :
    escapeChar c = [c] ∧ c.utf8Size = 1 := by
  obtain ⟨d, hd⟩ := Option.isSome_iff_exists.mp h
  obtain ⟨hlt, rfl, -⟩ := digitChar_of_hexDigit hd
  have hall : ∀ d < 16, escapeChar d.digitChar = [d.digitChar] ∧ d.digitChar.utf8Size = 1 := by
    decide
  exact hall d hlt

lemma verbatim_encodeBytes (bytes : Bytes) : Verbatim (encodeBytes bytes) :=
  fun _ hc => verbatim_hexDigit (isSome_hexDigit_of_mem hc)

lemma utf8ByteSize_encodeBytes (bytes : Bytes) :
    (encodeBytes bytes).utf8ByteSize = 2 * bytes.length := by
  rw [← textSize_toList, textSize_of_ascii fun c hc => (verbatim_encodeBytes bytes c hc).2,
    length_toList_encodeBytes]

lemma decodeHex_eq_ok {n : ℕ} {value name : String} {array : Vector UInt8 n} :
    decodeHex n value name = .ok array ↔ value = encodeBytes array.toList := by
  unfold decodeHex
  dsimp only
  rw [except_ite_throw_eq_ok]
  constructor
  · intro h
    obtain ⟨hv, h⟩ := h
    rw [not_or, not_not, not_not, List.all_eq_true] at hv
    cases hb : decodeBytes value with
    | none =>
      rw [hb] at h
      cases h
    | some bytes =>
      rw [hb] at h
      dsimp only at h
      cases ha : arrayFromSlice n bytes with
      | none =>
        rw [ha] at h
        cases h
      | some other =>
        rw [ha] at h
        obtain rfl := Except.ok.inj h
        rw [← arrayFromSlice_eq_some.mp ha, encodeBytes_of_decodeBytes hv.2 hb]
  · intro h
    subst h
    have hall : (encodeBytes array.toList).toList.all (fun c => (hexDigit c).isSome) = true :=
      List.all_eq_true.mpr fun c hc => isSome_hexDigit_of_mem hc
    refine ⟨?_, ?_⟩
    · rw [utf8ByteSize_encodeBytes, array.length_toList, hall]
      simp [Nat.mul_comm]
    · rw [decodeBytes_encodeBytes]
      dsimp only
      rw [arrayFromSlice_eq_some.mpr rfl]
      rfl

/-! ## Events as JSON -/

lemma tagsFromJson_tagsToJson (tags : List (List String)) :
    tagsFromJson (tagsToJson tags) = some tags := by
  have hs : ∀ text, Json.asStr (.string text) = some text := fun _ => rfl
  have htag : ∀ tag : List String, Json.listOf Json.asStr (.array (tag.map .string)) = some tag :=
    fun tag => option_mapM_map hs tag
  exact option_mapM_map htag tags

lemma u16FromJson_toUInt64 (kind : UInt16) : u16FromJson (.posInt kind.toUInt64) = some kind := by
  have hlt : kind.toUInt64.toNat < 2 ^ 16 := kind.toNat_lt
  rw [u16FromJson, if_pos hlt]
  simp

lemma UnsignedEvent.fromJson_toJson (event : UnsignedEvent) :
    UnsignedEvent.fromJson event.toJson = some event := by
  unfold UnsignedEvent.fromJson UnsignedEvent.toJson Json.strictFieldsOf Json.fieldsOf
  simp [Json.textOf, Json.asStr, Json.asU64, u16FromJson_toUInt64, tagsFromJson_tagsToJson,
    List.lookup_cons]

lemma SignedEvent.fromJson_toJson (event : SignedEvent) :
    SignedEvent.fromJson event.toJson = some event := by
  unfold SignedEvent.fromJson SignedEvent.toJson Json.strictFieldsOf Json.fieldsOf
  simp [Json.textOf, Json.asStr, Json.asU64, u16FromJson_toUInt64, tagsFromJson_tagsToJson,
    List.lookup_cons]

lemma plain_tagsToJson (depth : ℕ) (tags : List (List String)) :
    (tagsToJson tags).plain (depth + 2) = true := by
  rw [tagsToJson, Json.plain, Json.plainElements_iff]
  intro element hel
  obtain ⟨tag, -, rfl⟩ := List.mem_map.mp hel
  rw [Json.plain, Json.plainElements_iff]
  intro text ht
  obtain ⟨_, -, rfl⟩ := List.mem_map.mp ht
  rfl

section Reading

variable [SerdeJson] [SerdeJsonErrors]

lemma UnsignedEvent.fromStr_write (hj : SerdeJson.Exact) (event : UnsignedEvent) :
    fromStr UnsignedEvent.fromJson event.toJson.write = .ok event := by
  refine fromStr_eq_ok.mpr ⟨event.toJson, hj _ ?_, event.fromJson_toJson⟩
  simp [UnsignedEvent.toJson, Json.plain, Json.plainEntries, serdeJsonDepth, plain_tagsToJson]

lemma SignedEvent.fromStr_write (hj : SerdeJson.Exact) (event : SignedEvent) :
    fromStr SignedEvent.fromJson event.toJson.write = .ok event := by
  refine fromStr_eq_ok.mpr ⟨event.toJson, hj _ ?_, event.fromJson_toJson⟩
  simp [SignedEvent.toJson, Json.plain, Json.plainEntries, serdeJsonDepth, plain_tagsToJson]

end Reading

/-! ## The size of a wrap -/

lemma Verbatim.rfc4648 (bytes : Bytes) : Verbatim (Rfc4648.encode bytes) := by
  have hpad : escapeChar '=' = ['='] ∧ ('=').utf8Size = 1 := by decide
  have hd : ∀ n < 64, escapeChar (Rfc4648.digit n) = [Rfc4648.digit n] ∧
      (Rfc4648.digit n).utf8Size = 1 := by decide
  intro c hc
  rw [Rfc4648.encode, String.toList_ofList] at hc
  rcases Rfc4648.mem_encodeChars hc with rfl | ⟨n, hn, rfl⟩
  · exact hpad
  · exact hd n hn

lemma textSize_toDigits (value : UInt64) : textSize (Nat.toDigits 10 value.toNat) ≤ 20 := by
  have ha : ∀ c ∈ Nat.toDigits 10 value.toNat, c.utf8Size = 1 := by
    intro c hc
    have hd := (toDigits_decimal value.toNat).1 c hc
    rw [Char.isDigit, Bool.and_eq_true, decide_eq_true_eq, decide_eq_true_eq] at hd
    have hle : ('9').val ≤ 127 := by decide
    exact Char.utf8Size_eq_one_iff.mpr (UInt32.le_trans hd.2 hle)
  rw [textSize_of_ascii ha, Nat.length_toDigits_le_iff (by decide) (by decide)]
  exact value.toNat_lt.trans (by decide)

lemma utf8Size_marks : ∀ c ∈ ['\x7b', '\x7d', '[', ']', ':', ','], c.utf8Size = 1 := by
  have hall : ['\x7b', '\x7d', '[', ']', ':', ','].all (·.utf8Size == 1) = true := by decide
  simpa using hall

lemma length_write_pos (event : SignedEvent) : 1 ≤ (utf8 event.toJson.write).length := by
  have hpos := Char.utf8Size_pos '\x7b'
  rw [length_utf8, Json.write, utf8ByteSize_ofList, SignedEvent.toJson, Json.chars, textSize_cons]
  omega

lemma length_write_le {id publicKey signature : Bytes} {createdAt : UInt64} {kind : UInt16}
    {tags : List (List String)} {content : String} (hid : id.length = 32)
    (hp : publicKey.length = 32) (hs : signature.length = 64) (hc : Verbatim content) :
    (utf8 (SignedEvent.toJson
      { id := encodeBytes id, pubkey := encodeBytes publicKey, createdAt, kind, tags, content,
        sig := encodeBytes signature }).write).length ≤
      textSize (tagsToJson tags).chars + content.toList.length + 500 := by
  have hk : textSize (quoted "id") = 4 ∧ textSize (quoted "pubkey") = 8 ∧
      textSize (quoted "created_at") = 12 ∧ textSize (quoted "kind") = 6 ∧
      textSize (quoted "tags") = 6 ∧ textSize (quoted "content") = 9 ∧
      textSize (quoted "sig") = 5 := by decide
  have hm := utf8Size_marks
  simp only [List.forall_mem_cons] at hm
  have hsz := fun bytes => (verbatim_encodeBytes bytes).textSize_quoted
  have ht := textSize_toDigits createdAt
  have hkn := textSize_toDigits kind.toUInt64
  rw [length_utf8, Json.write, utf8ByteSize_ofList]
  simp only [SignedEvent.toJson, Json.chars, Json.objectTail, textSize_cons, textSize_append,
    textSize_nil, hsz, length_toList_encodeBytes, hid, hp, hs,
    hc.textSize_quoted, hm, hk]
  linarith only [ht, hkn]

lemma textSize_recipientTag {recipient : Bytes} (hr : recipient.length = 32) :
    textSize (tagsToJson [["p", encodeBytes recipient]]).chars = 74 := by
  have hkey : textSize (quoted "p") = 3 := by decide
  have hm := utf8Size_marks
  simp only [List.forall_mem_cons] at hm
  simp only [tagsToJson, Json.chars, Json.arrayTail, List.map, textSize_cons, textSize_append,
    textSize_nil, (verbatim_encodeBytes recipient).textSize_quoted, length_toList_encodeBytes,
    hr, hm, hkey]

/-! ## Signed events -/

section Events

variable [Sha256] [NostrK256]

def SchnorrCorrect : Prop :=
  ∀ privateKey message publicKey signed, nostrPublicKey privateKey = .ok publicKey →
    signNostrEventId privateKey message = .ok signed →
    ∃ verifyingKey signature, NostrK256.verifyingKeyFromSlice publicKey = .ok verifyingKey ∧
      NostrK256.signatureFromSlice signed.signature = .ok signature ∧
      NostrK256.verifyPrehash verifyingKey message signature = true

variable {privateKey : Vector UInt8 32} {createdAt : UInt64} {kind : UInt16}
  {tags : List (List String)} {content : String} {event : SignedEvent}

lemma signedEvent_eq_ok :
    signedEvent privateKey createdAt kind tags content = .ok event ↔
      ∃ publicKey signed, nostrPublicKey privateKey = .ok publicKey ∧
        signNostrEventId privateKey
          (eventId (encodeBytes publicKey.toList) createdAt kind tags content) = .ok signed ∧
        event =
          { id := encodeBytes
              (eventId (encodeBytes publicKey.toList) createdAt kind tags content).toList
            pubkey := encodeBytes publicKey.toList, createdAt, kind, tags, content
            sig := encodeBytes signed.signature.toList } := by
  unfold signedEvent
  simp only [except_bind_eq_ok]
  constructor
  · intro h
    obtain ⟨publicKey, hp, signed, hs, h⟩ := h
    exact ⟨publicKey, signed, hp, hs, (Except.ok.inj h).symm⟩
  · intro h
    obtain ⟨publicKey, signed, hp, hs, rfl⟩ := h
    exact ⟨publicKey, hp, signed, hs, rfl⟩

variable {publicKey : Vector UInt8 32} {plaintext : String}

lemma signedEvent_fields (hp : nostrPublicKey privateKey = .ok publicKey)
    (h : signedEvent privateKey createdAt kind tags content = .ok event) :
    event.pubkey = encodeBytes publicKey.toList ∧ event.kind = kind ∧ event.tags = tags ∧
      event.content = content := by
  obtain ⟨other, signed, ho, -, rfl⟩ := signedEvent_eq_ok.mp h
  rw [hp] at ho
  obtain rfl := Except.ok.inj ho
  exact ⟨rfl, rfl, rfl, rfl⟩

def SignatureVerifies (event : SignedEvent) (publicKey : Vector UInt8 32) : Prop :=
  ∃ signatureBytes verifyingKey signature, event.sig = encodeBytes signatureBytes.toList ∧
    NostrK256.verifyingKeyFromSlice publicKey = .ok verifyingKey ∧
    NostrK256.signatureFromSlice signatureBytes = .ok signature ∧
    NostrK256.verifyPrehash verifyingKey
      (eventId event.pubkey event.createdAt event.kind event.tags event.content) signature = true

lemma verifyEvent_eq_ok :
    verifyEvent event = .ok () ↔
      event.id = encodeBytes
        (eventId event.pubkey event.createdAt event.kind event.tags event.content).toList ∧
      ∃ publicKey, event.pubkey = encodeBytes publicKey.toList ∧
        SignatureVerifies event publicKey := by
  unfold verifyEvent SignatureVerifies
  simp only [except_bind_eq_ok, except_ite_throw_eq_ok, except_mapError_eq_ok, decodeHex_eq_ok,
    not_not]
  constructor
  · intro h
    obtain ⟨id, hid, rfl, publicKey, hp, signatureBytes, hb, verifyingKey, hkey, signature,
      hs, h⟩ := h
    split_ifs at h with hv
    exact ⟨hid, publicKey, hp, signatureBytes, verifyingKey, signature, hb, hkey,
      hs, hv⟩
  · intro h
    obtain ⟨hid, publicKey, hp, signatureBytes, verifyingKey, signature, hb, hkey,
      hs, hv⟩ := h
    refine ⟨_, hid, rfl, publicKey, hp, signatureBytes, hb, verifyingKey, hkey, signature,
      hs, ?_⟩
    rw [if_pos hv]
    rfl

lemma verifyEvent_signedEvent (hs : SchnorrCorrect)
    (h : signedEvent privateKey createdAt kind tags content = .ok event) :
    verifyEvent event = .ok () := by
  obtain ⟨publicKey, signed, hp, hsg, rfl⟩ := signedEvent_eq_ok.mp h
  obtain ⟨verifyingKey, signature, hkey, hsi, hv⟩ :=
    hs _ _ _ _ hp hsg
  exact verifyEvent_eq_ok.mpr ⟨rfl, publicKey, rfl, signed.signature, verifyingKey, signature, rfl,
    hkey, hsi, hv⟩

/-! ## Payloads -/

variable [ChaCha20] [Base64]

structure TransportLaws [SerdeJson] : Prop where
  ecdh : Nip44.EcdhSymmetric
  chaCha20 : ChaCha20.Xors
  base64 : StandardBase64
  schnorr : SchnorrCorrect
  json : SerdeJson.Exact

variable [SerdeJson]

lemma encrypt_spec (laws : TransportLaws) {peerPrivateKey peerPublicKey : Vector UInt8 32}
    (hpb : nostrPublicKey privateKey = .ok publicKey)
    (hpr : nostrPublicKey peerPrivateKey = .ok peerPublicKey)
    {nonce : Except String (Vector UInt8 32)} {payload : String}
    (h : Nip44.encrypt nonce privateKey peerPublicKey plaintext = .ok payload) :
    Nip44.decrypt peerPrivateKey publicKey payload = .ok plaintext ∧ Verbatim payload ∧
      (utf8 plaintext).length ≤ Nip44.maxPlaintextBytes ∧
      payload.toList.length = (Nip44.paddedLength (utf8 plaintext).length + 69) / 3 * 4 := by
  unfold Nip44.encrypt at h
  rw [except_bind_eq_ok] at h
  obtain ⟨nonce, -, h⟩ := h
  obtain ⟨keys, key, iv, buffer, tag, -, hb, -, hp⟩ := Nip44.encryptWithNonce_eq_ok.mp h
  obtain ⟨⟨hpos, hmax⟩, -⟩ := Nip44.padded_eq_ok.mp hb
  have hv : Verbatim payload := by
    rw [hp, laws.base64.encode_eq]
    exact Verbatim.rfc4648 _
  refine ⟨?_, hv, hmax, ?_⟩
  · obtain ⟨payload', hp', hd⟩ := Nip44.decrypt_encryptWithNonce laws.ecdh laws.chaCha20
      laws.base64 hpb hpr nonce hpos hmax
    rw [h] at hp'
    rw [Except.ok.inj hp']
    exact hd
  · rw [← textSize_of_ascii fun c hc => (hv c hc).2, textSize_toList, hp,
      laws.base64.encode_eq, Rfc4648.utf8ByteSize_encode]
    simp only [Nip44.payloadBytes, List.length_cons, List.length_append, Vector.length_toList,
      laws.chaCha20.length_applyKeystream, Nip44.length_padded hb]
    omega

/-! ## Wrapping -/

omit [Sha256] [ChaCha20] [Base64] [SerdeJson] in
lemma exists_publicKey_of_ephemeral {draws : ℕ → Except String (Vector UInt8 32)} {tries i : ℕ}
    (h : ephemeralPrivateKeyFrom draws tries i = .ok privateKey) :
    ∃ publicKey, nostrPublicKey privateKey = .ok publicKey := by
  induction tries generalizing i with
  | zero => cases h
  | succ tries ih =>
    rw [ephemeralPrivateKeyFrom, except_bind_eq_ok] at h
    obtain ⟨candidate, -, h⟩ := h
    cases hp : nostrPublicKey candidate with
    | error error =>
      rw [hp] at h
      exact ih h
    | ok publicKey =>
      rw [hp] at h
      obtain rfl := Except.ok.inj h
      exact ⟨publicKey, hp⟩

/-! ## Opening -/

variable [SerdeJsonErrors]

/-- The content of `outer` decrypts to the document of `inner`. -/
def Encloses {α : Type} (decode : Json → Option α) (privateKey : Vector UInt8 32)
    (outer : SignedEvent) (inner : α) : Prop :=
  ∃ publicKey json, outer.pubkey = encodeBytes publicKey.toList ∧
    Nip44.decrypt privateKey publicKey outer.content = .ok json ∧ fromStr decode json = .ok inner

/-- A gift wrap whose three layers pass all checks, and the data it holds. -/
structure Opened (privateKey : Vector UInt8 32) (eventJson : String) (wrap sealEvent : SignedEvent)
    (rumor : UnsignedEvent) (data : NostrApplicationData) : Prop where
  size : ¬ ((utf8 eventJson).isEmpty ∨ (utf8 eventJson).length > maxEventJsonBytes)
  wrap_read : fromStr SignedEvent.fromJson eventJson = .ok wrap
  wrap_verified : verifyEvent wrap = .ok ()
  wrap_kind : wrap.kind = giftWrapKind
  wrap_tags : ∃ publicKey, nostrPublicKey privateKey = .ok publicKey ∧
    wrap.tags = [["p", encodeBytes publicKey.toList]]
  seal_read : Encloses SignedEvent.fromJson privateKey wrap sealEvent
  seal_verified : verifyEvent sealEvent = .ok ()
  seal_kind : sealEvent.kind = sealKind
  seal_tags : sealEvent.tags = []
  rumor_read : Encloses UnsignedEvent.fromJson privateKey sealEvent rumor
  rumor_id : rumor.id = encodeBytes
    (eventId rumor.pubkey rumor.createdAt rumor.kind rumor.tags rumor.content).toList
  rumor_pubkey : rumor.pubkey = sealEvent.pubkey
  rumor_kind : rumor.kind = applicationDataKind
  rumor_tags : rumor.tags = [["d", data.identifier]]
  identifier : validIdentifier data.identifier = true
  content : validateContent rumor.content = .ok ()
  data_content : data.content = rumor.content
  data_sender : data.senderPublicKey = rumor.pubkey

lemma openNostrApplicationData_eq_ok {eventJson : String} {data : NostrApplicationData} :
    openNostrApplicationData privateKey eventJson = .ok data ↔
      ∃ wrap sealEvent rumor, Opened privateKey eventJson wrap sealEvent rumor data := by
  unfold openNostrApplicationData
  simp only [except_bind_eq_ok, except_ite_throw_eq_ok, decodeHex_eq_ok, not_or, not_not]
  constructor
  · intro h
    obtain ⟨hsz, wrap, hwr, _, hv, publicKey, hp, ⟨hk, ht⟩, wrapKey, hw,
      sealJson, hs, sealEvent, hsl, _, hsv, ⟨hse, hst⟩, senderKey,
      hsk, rumorJson, hr, rumor, hrm, h⟩ := h
    split at h
    · next identifier htag =>
      rw [except_ite_throw_eq_ok, except_bind_eq_ok] at h
      simp only [not_or, not_not] at h
      obtain ⟨⟨hid, hpb, hrk, hin⟩, _, hc, h⟩ := h
      obtain rfl := Except.ok.inj h
      exact ⟨wrap, sealEvent, rumor,
        { size := not_or.mpr hsz, wrap_read := hwr, wrap_verified := hv
          wrap_kind := hk, wrap_tags := ⟨publicKey, hp, ht⟩
          seal_read := ⟨wrapKey, sealJson, hw, hs, hsl⟩
          seal_verified := hsv, seal_kind := hse
          seal_tags := List.isEmpty_iff.mp hst
          rumor_read := ⟨senderKey, rumorJson, hsk, hr, hrm⟩
          rumor_id := hid, rumor_pubkey := hpb, rumor_kind := hrk, rumor_tags := htag
          identifier := hin, content := hc, data_content := rfl
          data_sender := rfl }⟩
    · cases h
  · intro h
    obtain ⟨wrap, sealEvent, rumor, h⟩ := h
    obtain ⟨publicKey, hp, ht⟩ := h.wrap_tags
    obtain ⟨wrapKey, sealJson, hw, hs, hsl⟩ := h.seal_read
    obtain ⟨senderKey, rumorJson, hsk, hr, hrm⟩ := h.rumor_read
    refine ⟨not_or.mp h.size, wrap, h.wrap_read, (), h.wrap_verified, publicKey, hp,
      ⟨h.wrap_kind, ht⟩, wrapKey, hw, sealJson, hs, sealEvent, hsl, (),
      h.seal_verified, ⟨h.seal_kind, List.isEmpty_iff.mpr h.seal_tags⟩, senderKey, hsk,
      rumorJson, hr, rumor, hrm, ?_⟩
    split
    · next identifier htag =>
      have hin : identifier = data.identifier := by simpa [htag] using h.rumor_tags
      subst hin
      rw [except_ite_throw_eq_ok, except_bind_eq_ok]
      simp only [not_or, not_not]
      refine ⟨⟨h.rumor_id, h.rumor_pubkey, h.rumor_kind, h.identifier⟩, (), h.content, ?_⟩
      rw [← h.data_content, ← h.data_sender]
      rfl
    · next hno => exact absurd h.rumor_tags (hno _)

/-! ## The transport is exact -/

omit [ChaCha20] [Base64] [SerdeJson] [SerdeJsonErrors] in
lemma length_wrap {wrap : SignedEvent} {recipient : Vector UInt8 32}
    (h : signedEvent privateKey createdAt kind [["p", encodeBytes recipient.toList]] content =
    .ok wrap) (hv : Verbatim content) (hl : content.toList.length ≤ 87472) :
    ¬ ((utf8 wrap.toJson.write).isEmpty ∨ (utf8 wrap.toJson.write).length > maxEventJsonBytes) := by
  obtain ⟨publicKey, signed, -, -, rfl⟩ := signedEvent_eq_ok.mp h
  rw [not_or, Nat.not_lt, List.isEmpty_iff, ← List.length_eq_zero_iff]
  refine ⟨Nat.pos_iff_ne_zero.mp (length_write_pos _), ?_⟩
  refine (length_write_le Vector.length_toList publicKey.length_toList
    signed.signature.length_toList hv).trans ?_
  rw [textSize_recipientTag recipient.length_toList]
  unfold maxEventJsonBytes
  omega

lemma open_wrap (laws : TransportLaws) {draws : WrapDraws} {recipientKey : Vector UInt8 32}
    {recipientPublicKey : Vector UInt8 32} {identifier giftWrap : String} {now : UInt64}
    (hp : nostrPublicKey privateKey = .ok publicKey)
    (hr : nostrPublicKey recipientKey = .ok recipientPublicKey)
    (h : wrapNostrApplicationDataAt draws privateKey (encodeBytes recipientPublicKey.toList)
    identifier content now = .ok giftWrap) :
    openNostrApplicationData recipientKey giftWrap =
      .ok ⟨content, identifier, encodeBytes publicKey.toList⟩ := by
  unfold wrapNostrApplicationDataAt at h
  simp only [except_bind_eq_ok, except_ite_throw_eq_ok] at h
  obtain ⟨_, hc, hid, recipient, hd, sender, hs, -, -, sealContent,
    hsc, sealTime, -, sealEvent, hsl, -, -, ephemeral, heh, wrapContent,
    hwc, wrapTime, -, wrap, hw, h⟩ := h
  obtain rfl := Except.ok.inj h
  -- the keys are those of the two parties
  rw [decodeHex_eq_ok.mpr rfl] at hd
  obtain rfl := Except.ok.inj hd
  rw [hp] at hs
  obtain rfl := Except.ok.inj hs
  obtain ⟨ephemeralPublicKey, hep⟩ := exists_publicKey_of_ephemeral heh
  -- each layer is read back
  obtain ⟨hsd, -, -, -⟩ := encrypt_spec laws hp hr hsc
  obtain ⟨hwd, hv, hmax, hl⟩ :=
    encrypt_spec laws hep hr hwc
  have hpd := Nip44.paddedLength_le (by decide) (by decide) le_rfl (Nat.le_succ_of_le hmax)
  obtain ⟨hwk, hwr, hwt, rfl⟩ := signedEvent_fields hep hw
  obtain ⟨hsk, hse, hst, rfl⟩ := signedEvent_fields hp hsl
  exact openNostrApplicationData_eq_ok.mpr ⟨wrap, sealEvent,
    unsignedEvent (encodeBytes publicKey.toList) now applicationDataKind [["d", identifier]]
      content,
    { size := length_wrap hw hv (by omega)
      wrap_read := wrap.fromStr_write laws.json
      wrap_verified := verifyEvent_signedEvent laws.schnorr hw
      wrap_kind := hwr
      wrap_tags := ⟨recipientPublicKey, hr, hwt⟩
      seal_read := ⟨ephemeralPublicKey, _, hwk, hwd,
        sealEvent.fromStr_write laws.json⟩
      seal_verified := verifyEvent_signedEvent laws.schnorr hsl
      seal_kind := hse
      seal_tags := hst
      rumor_read := ⟨publicKey, _, hsk, hsd,
        UnsignedEvent.fromStr_write laws.json _⟩
      rumor_id := rfl
      rumor_pubkey := hsk.symm
      rumor_kind := rfl
      rumor_tags := rfl
      identifier := by simpa using hid
      content := hc
      data_content := rfl
      data_sender := rfl }⟩

/-- **The transport is exact.** What is wrapped for a key pair is opened with it, with the
sender's public key; and of whatever is opened, the seal's signature verifies under the sender's
public key that is reported, which is also the rumor's. -/
theorem giftWrap_exact (laws : TransportLaws) :
    (∀ (draws : WrapDraws) (privateKey recipientKey publicKey recipientPublicKey : Vector UInt8 32)
        (recipient identifier content giftWrap : String) (now : UInt64),
      nostrPublicKey privateKey = .ok publicKey →
      nostrPublicKey recipientKey = .ok recipientPublicKey →
      recipient = encodeBytes recipientPublicKey.toList →
      wrapNostrApplicationDataAt draws privateKey recipient identifier content now = .ok giftWrap →
      openNostrApplicationData recipientKey giftWrap =
        .ok ⟨content, identifier, encodeBytes publicKey.toList⟩) ∧
    ∀ (recipientKey : Vector UInt8 32) (giftWrap : String) (data : NostrApplicationData),
      openNostrApplicationData recipientKey giftWrap = .ok data →
      ∃ wrap sealEvent rumor publicKey,
        fromStr SignedEvent.fromJson giftWrap = .ok wrap ∧
        Encloses SignedEvent.fromJson recipientKey wrap sealEvent ∧
        Encloses UnsignedEvent.fromJson recipientKey sealEvent rumor ∧
        data.senderPublicKey = encodeBytes publicKey.toList ∧
        SignatureVerifies sealEvent publicKey ∧ rumor.pubkey = data.senderPublicKey := by
  refine ⟨?_, ?_⟩
  · intro draws privateKey recipientKey publicKey recipientPublicKey recipient identifier content
      giftWrap now hp hr ht h
    subst ht
    exact open_wrap laws hp hr h
  · intro recipientKey giftWrap data h
    obtain ⟨wrap, sealEvent, rumor, ho⟩ := openNostrApplicationData_eq_ok.mp h
    obtain ⟨-, publicKey, hpb, hv⟩ := verifyEvent_eq_ok.mp ho.seal_verified
    have hs : data.senderPublicKey = encodeBytes publicKey.toList := by
      rw [ho.data_sender, ho.rumor_pubkey, hpb]
    exact ⟨wrap, sealEvent, rumor, publicKey, ho.wrap_read, ho.seal_read,
      ho.rumor_read, hs, hv, ho.data_sender.symm⟩

/-! ## Wrapping succeeds -/

def SchnorrTotal : Prop :=
  ∀ privateKey publicKey message, nostrPublicKey privateKey = .ok publicKey →
    ∃ signed, signNostrEventId privateKey message = .ok signed

omit [ChaCha20] [Base64] [SerdeJson] [SerdeJsonErrors] in
lemma exists_signedEvent (ht : SchnorrTotal)
    (hp : nostrPublicKey privateKey = .ok publicKey) (createdAt : UInt64) (kind : UInt16)
    (tags : List (List String)) (content : String) :
    ∃ event, signedEvent privateKey createdAt kind tags content = .ok event := by
  obtain ⟨signed, hs⟩ := ht _ _
    (eventId (encodeBytes publicKey.toList) createdAt kind tags content) hp
  exact ⟨_, signedEvent_eq_ok.mpr ⟨publicKey, signed, hp, hs, rfl⟩⟩

omit [Sha256] [NostrK256] [ChaCha20] [Base64] [SerdeJson] [SerdeJsonErrors] in
lemma validateNestedPlaintext_eq_ok :
    validateNestedPlaintext plaintext = .ok () ↔
      1 ≤ (utf8 plaintext).length ∧ (utf8 plaintext).length ≤ Nip44.maxPlaintextBytes := by
  rw [← Nip44.validPlaintext_iff]
  unfold validateNestedPlaintext
  cases Nip44.validPlaintext (utf8 plaintext) with
  | false => simp
  | true => simp

omit [SerdeJsonErrors] in
lemma exists_encrypt (laws : TransportLaws) {peerPrivateKey peerPublicKey : Vector UInt8 32}
    (hp : nostrPublicKey privateKey = .ok publicKey)
    (hpr : nostrPublicKey peerPrivateKey = .ok peerPublicKey) (nonce : Vector UInt8 32)
    (hpl : validateNestedPlaintext plaintext = .ok ()) :
    ∃ payload, Nip44.encrypt (.ok nonce) privateKey peerPublicKey plaintext = .ok payload := by
  obtain ⟨hpos, hmax⟩ := validateNestedPlaintext_eq_ok.mp hpl
  obtain ⟨payload, hpy, -⟩ := Nip44.decrypt_encryptWithNonce laws.ecdh laws.chaCha20
    laws.base64 hp hpr nonce hpos hmax
  exact ⟨payload, hpy⟩

omit [SerdeJsonErrors] in
lemma exists_wrap (laws : TransportLaws) (ht : SchnorrTotal)
    {recipientKey ephemeral recipientPublicKey ephemeralPublicKey : Vector UInt8 32}
    (hp : nostrPublicKey privateKey = .ok publicKey)
    (hr : nostrPublicKey recipientKey = .ok recipientPublicKey)
    (hep : nostrPublicKey ephemeral = .ok ephemeralPublicKey)
    (sealNonce wrapNonce : Vector UInt8 32) (sealOffset wrapOffset : Vector UInt8 8)
    {identifier : String} {now : UInt64} (hc : validateContent content = .ok ())
    (hid : validIdentifier identifier = true) {rumorJson : String}
    (hrj : rumorJson = (unsignedEvent (encodeBytes publicKey.toList) now applicationDataKind
    [["d", identifier]] content).toJson.write)
    (hrm : 1 ≤ (utf8 rumorJson).length) (hs : (utf8 rumorJson).length ≤ 40960) :
    ∃ giftWrap, wrapNostrApplicationDataAt ⟨.ok sealNonce, .ok sealOffset, fun _ => .ok ephemeral,
      .ok wrapNonce, .ok wrapOffset⟩ privateKey (encodeBytes recipientPublicKey.toList) identifier
      content now = .ok giftWrap := by
  subst hrj
  have hn := validateNestedPlaintext_eq_ok.mpr ⟨hrm, hs.trans (by decide)⟩
  obtain ⟨sealContent, hsc⟩ := exists_encrypt laws hp hr sealNonce hn
  have hd : ∀ name, decodeHex 32 (encodeBytes recipientPublicKey.toList) name =
      .ok recipientPublicKey := fun name => decodeHex_eq_ok.mpr rfl
  have htm : ∀ offset, ∃ time, randomizedPastTimestamp (.ok offset) now = .ok time :=
    fun offset => ⟨_, rfl⟩
  obtain ⟨sealTime, hst⟩ := htm sealOffset
  obtain ⟨wrapTime, hw⟩ := htm wrapOffset
  obtain ⟨sealEvent, hsl⟩ := exists_signedEvent ht hp sealTime sealKind [] sealContent
  have hsn : validateNestedPlaintext sealEvent.toJson.write = .ok () := by
    obtain ⟨-, hv, -, hl⟩ := encrypt_spec laws hp hr hsc
    have hpd := Nip44.paddedLength_le (by decide) (by decide) (by decide) hs
    obtain ⟨other, signed, -, -, rfl⟩ := signedEvent_eq_ok.mp hsl
    refine validateNestedPlaintext_eq_ok.mpr ⟨length_write_pos _, ?_⟩
    refine (length_write_le Vector.length_toList other.length_toList
      signed.signature.length_toList hv).trans ?_
    have htg : textSize (tagsToJson []).chars = 2 := by decide
    rw [htg]
    unfold Nip44.maxPlaintextBytes
    omega
  obtain ⟨wrapContent, hwc⟩ :=
    exists_encrypt laws hep hr wrapNonce hsn
  obtain ⟨wrap, hwr⟩ := exists_signedEvent ht hep wrapTime giftWrapKind
    [["p", encodeBytes recipientPublicKey.toList]] wrapContent
  have hek : ephemeralPrivateKey (fun _ => .ok ephemeral) = .ok ephemeral := by
    unfold ephemeralPrivateKey
    rw [ephemeralPrivateKeyFrom, except_bind_eq_ok]
    refine ⟨ephemeral, rfl, ?_⟩
    rw [hep]
    rfl
  unfold wrapNostrApplicationDataAt
  simp only [except_bind_eq_ok, except_ite_throw_eq_ok]
  exact ⟨wrap.toJson.write, (), hc, by simpa using hid, recipientPublicKey,
    hd _, publicKey, hp, (), hn, sealContent, hsc, sealTime, hst,
    sealEvent, hsl, (), hsn, ephemeral, hek, wrapContent, hwc,
    wrapTime, hw, wrap, hwr, rfl⟩

end Events

/-! ## A wrap -/

section Sample

open Nip44 Secp256k1

attribute [local instance] sampleK256 Reference.sha256 Reference.chaCha20 standardBase64
  compactReader compactErrors

lemma signNostrEventId_eq {privateKey publicKey : Vector UInt8 32} (message : Vector UInt8 32)
    (hp : nostrPublicKey privateKey = .ok publicKey) :
    signNostrEventId privateKey message =
      .ok ⟨publicKey, signatureOf publicKey message.toList⟩ := by
  obtain ⟨scalar, hs, rfl⟩ := nostrPublicKey_eq_ok.mp hp
  unfold signNostrEventId signNostrEventIdWithAuxRand parseSigningKey
  simp only [except_bind_eq_ok, except_mapError_eq_ok]
  exact ⟨scalar, hs, _, rfl, rfl⟩

lemma sampleK256_correct : SchnorrCorrect := by
  intro privateKey message publicKey signed hp hs
  rw [signNostrEventId_eq message hp] at hs
  obtain rfl := Except.ok.inj hs
  exact ⟨publicKey, _, rfl, rfl, decide_eq_true rfl⟩

lemma sampleLaws : TransportLaws where
  ecdh := sampleK256_symmetric
  chaCha20 := Reference.chaCha20_xors
  base64 := standardBase64_standard
  schnorr := sampleK256_correct
  json := compactReader_exact

def sampleRumor : String :=
  (unsignedEvent (encodeBytes generatorX.toList) 1700000000 applicationDataKind [["d", "game"]]
    "\"hello\"").toJson.write

/-- A message of the key of scalar 1 is opened with that of scalar 2. The wrap is signed with the
key of scalar 3, and both signatures are known. -/
theorem sampleWrap_opened :
    ∃ draws giftWrap, wrapNostrApplicationDataAt draws (beVector 32 1) (encodeBytes doubleX.toList)
        "game" "\"hello\"" 1700000000 = .ok giftWrap ∧
      openNostrApplicationData (beVector 32 2) giftWrap =
        .ok ⟨"\"hello\"", "game", encodeBytes generatorX.toList⟩ := by
  have hp : nostrPublicKey (beVector 32 1) = .ok generatorX := by decide +kernel
  have hr : nostrPublicKey (beVector 32 2) = .ok doubleX := by decide +kernel
  have hep : nostrPublicKey (beVector 32 3) = .ok tripleX := by decide +kernel
  have hc : validateContent "\"hello\"" = .ok () := by decide
  have hid : validIdentifier "game" = true := by decide
  have hrm : 1 ≤ (utf8 sampleRumor).length ∧ (utf8 sampleRumor).length ≤ 40960 := by
    rw [length_utf8, sampleRumor, Json.write, utf8ByteSize_ofList]
    decide +kernel
  have ht : SchnorrTotal := fun _ _ message hp => ⟨_, signNostrEventId_eq message hp⟩
  obtain ⟨giftWrap, hw⟩ := exists_wrap sampleLaws ht hp hr hep
    (beVector 32 5) (beVector 32 6) (beVector 8 100000) (beVector 8 200000) hc hid
    (rfl : sampleRumor = _) hrm.1 hrm.2
  exact ⟨_, giftWrap, hw,
    (giftWrap_exact sampleLaws).1 _ _ _ _ _ _ _ _ _ _ hp hr rfl hw⟩

end Sample

end KrustyKms.Nostr

import KrustyKms.Codec.Hex
import KrustyKms.Common.Serde
import KrustyKms.Nostr.Nip44

/-!
# NIP-59 transport for application data

A rumor with the data is encrypted into a seal that the sender signs, and the seal into a gift
wrap that is signed with an ephemeral key.
-/

namespace KrustyKms.Nostr

open Codec

def applicationDataKind : UInt16 := 30078
def sealKind : UInt16 := 13
def giftWrapKind : UInt16 := 1059
def maxContentBytes : ℕ := 32768
def maxEventJsonBytes : ℕ := 131070
def maxIdentifierBytes : ℕ := 128
def twoDaysSeconds : ℕ := 2 * 24 * 60 * 60

structure NostrApplicationData where
  content : String
  identifier : String
  senderPublicKey : String
deriving DecidableEq

structure UnsignedEvent where
  id : String
  pubkey : String
  createdAt : UInt64
  kind : UInt16
  tags : List (List String)
  content : String

structure SignedEvent where
  id : String
  pubkey : String
  createdAt : UInt64
  kind : UInt16
  tags : List (List String)
  content : String
  sig : String

/-! ## Events as JSON -/

def tagsToJson (tags : List (List String)) : Json :=
  .array (tags.map fun tag => .array (tag.map .string))

def UnsignedEvent.toJson (event : UnsignedEvent) : Json := .object [
  ("id", .string event.id), ("pubkey", .string event.pubkey),
  ("created_at", .posInt event.createdAt), ("kind", .posInt event.kind.toUInt64),
  ("tags", tagsToJson event.tags), ("content", .string event.content)]

def SignedEvent.toJson (event : SignedEvent) : Json := .object [
  ("id", .string event.id), ("pubkey", .string event.pubkey),
  ("created_at", .posInt event.createdAt), ("kind", .posInt event.kind.toUInt64),
  ("tags", tagsToJson event.tags), ("content", .string event.content),
  ("sig", .string event.sig)]

def u16FromJson : Json → Option UInt16
  | .posInt value => if value.toNat < 2 ^ 16 then some value.toUInt16 else none
  | _ => none

def tagsFromJson : Json → Option (List (List String)) :=
  Json.listOf (Json.listOf Json.asStr)

def UnsignedEvent.fromJson (json : Json) : Option UnsignedEvent := do
  let field ← json.strictFieldsOf ["id", "pubkey", "created_at", "kind", "tags", "content"]
  pure {
    id := ← Json.textOf field "id"
    pubkey := ← Json.textOf field "pubkey"
    createdAt := ← (field "created_at").bind Json.asU64
    kind := ← (field "kind").bind u16FromJson
    tags := ← (field "tags").bind tagsFromJson
    content := ← Json.textOf field "content" }

def SignedEvent.fromJson (json : Json) : Option SignedEvent := do
  let field ← json.strictFieldsOf
    ["id", "pubkey", "created_at", "kind", "tags", "content", "sig"]
  pure {
    id := ← Json.textOf field "id"
    pubkey := ← Json.textOf field "pubkey"
    createdAt := ← (field "created_at").bind Json.asU64
    kind := ← (field "kind").bind u16FromJson
    tags := ← (field "tags").bind tagsFromJson
    content := ← Json.textOf field "content"
    sig := ← Json.textOf field "sig" }

/-! ## Checks -/

def validIdentifier (identifier : String) : Bool :=
  !(utf8 identifier).isEmpty && (utf8 identifier).length ≤ maxIdentifierBytes &&
    (utf8 identifier).all fun byte => 0x20 ≤ byte && byte ≤ 0x7e

def validateContent (content : String) : Result Unit :=
  if (utf8 content).isEmpty ∨ (utf8 content).length > maxContentBytes then
    .error (.serializationError "Nostr application data must be 1-32768 UTF-8 bytes")
  else .ok ()

def validateNestedPlaintext (value : String) : Result Unit :=
  if !Nip44.validPlaintext (utf8 value) then
    .error (.serializationError "Nostr application data exceeds the nested envelope limit")
  else .ok ()

def decodeHex (n : ℕ) (value name : String) : Result (Vector UInt8 n) := do
  let invalid := KmsError.deserializationError s!"Invalid Nostr {name}"
  if value.utf8ByteSize ≠ n * 2 ∨ ¬ value.toList.all fun c => (hexDigit c).isSome then
    throw invalid
  match decodeBytes value with
  | none => throw (.hexError "Invalid character")
  | some bytes =>
    match arrayFromSlice n bytes with
    | none => throw invalid
    | some array => pure array

/-! ## Events -/

variable [Sha256]

def eventId (publicKey : String) (createdAt : UInt64) (kind : UInt16) (tags : List (List String))
    (content : String) : Vector UInt8 32 :=
  let canonical : Json := .array [.posInt 0, .string publicKey, .posInt createdAt,
    .posInt kind.toUInt64, tagsToJson tags, .string content]
  Sha256.digest (utf8 canonical.write)

def unsignedEvent (publicKey : String) (createdAt : UInt64) (kind : UInt16)
    (tags : List (List String)) (content : String) : UnsignedEvent :=
  let id := eventId publicKey createdAt kind tags content
  { id := encodeBytes id.toList, pubkey := publicKey, createdAt, kind, tags, content }

variable [NostrK256]

def signedEvent (privateKey : Vector UInt8 32) (createdAt : UInt64) (kind : UInt16)
    (tags : List (List String)) (content : String) : Result SignedEvent := do
  let publicKey := encodeBytes (← nostrPublicKey privateKey).toList
  let id := eventId publicKey createdAt kind tags content
  let signature ← signNostrEventId privateKey id
  pure { id := encodeBytes id.toList, pubkey := publicKey, createdAt, kind, tags, content,
         sig := encodeBytes signature.signature.toList }

def verifyEvent (event : SignedEvent) : Result Unit := do
  let expected := eventId event.pubkey event.createdAt event.kind event.tags event.content
  if (← decodeHex 32 event.id "event id") ≠ expected then
    throw (.cryptoError "Nostr event id does not match its contents")
  let publicKey ← decodeHex 32 event.pubkey "public key"
  let signatureBytes ← decodeHex 64 event.sig "signature"
  let verifyingKey ←
    (NostrK256.verifyingKeyFromSlice publicKey).mapError KmsError.invalidPublicKey
  let signature ← (NostrK256.signatureFromSlice signatureBytes).mapError KmsError.cryptoError
  if NostrK256.verifyPrehash verifyingKey expected signature then
    pure ()
  else
    throw (.cryptoError "Nostr event signature is invalid")

/-! ## Wrapping -/

structure WrapDraws where
  sealNonce : Except String (Vector UInt8 32)
  sealOffset : Except String (Vector UInt8 8)
  ephemeral : ℕ → Except String (Vector UInt8 32)
  wrapNonce : Except String (Vector UInt8 32)
  wrapOffset : Except String (Vector UInt8 8)

def entropyUnavailable (error : String) : KmsError :=
  .cryptoError s!"Nostr entropy unavailable: {error}"

def randomizedPastTimestamp (draw : Except String (Vector UInt8 8)) (now : UInt64) :
    Result UInt64 := do
  let bytes ← draw.mapError entropyUnavailable
  let offset := beValue bytes.toList % (twoDaysSeconds + 1)
  pure (UInt64.ofNat (now.toNat - offset))

def ephemeralPrivateKeyFrom (draws : ℕ → Except String (Vector UInt8 32)) :
    ℕ → ℕ → Result (Vector UInt8 32)
  | 0, _ => .error (.cryptoError "Could not generate a valid Nostr key")
  | tries + 1, i => do
    let candidate ← (draws i).mapError entropyUnavailable
    match nostrPublicKey candidate with
    | .ok _ => pure candidate
    | .error _ => ephemeralPrivateKeyFrom draws tries (i + 1)

def ephemeralPrivateKey (draws : ℕ → Except String (Vector UInt8 32)) :
    Result (Vector UInt8 32) :=
  ephemeralPrivateKeyFrom draws 8 0

variable [ChaCha20] [Base64]

def wrapNostrApplicationDataAt (draws : WrapDraws) (privateKey : Vector UInt8 32)
    (recipientPublicKey identifier content : String) (now : UInt64) : Result String := do
  validateContent content
  if !validIdentifier identifier then
    throw (.serializationError "Invalid Nostr application identifier")
  let recipient ← decodeHex 32 recipientPublicKey "recipient public key"
  let senderPublicKey := encodeBytes (← nostrPublicKey privateKey).toList
  let rumor := unsignedEvent senderPublicKey now applicationDataKind [["d", identifier]] content
  let rumorJson := rumor.toJson.write
  validateNestedPlaintext rumorJson
  let sealContent ← Nip44.encrypt draws.sealNonce privateKey recipient rumorJson
  let sealTime ← randomizedPastTimestamp draws.sealOffset now
  let sealEvent ← signedEvent privateKey sealTime sealKind [] sealContent
  let sealJson := sealEvent.toJson.write
  validateNestedPlaintext sealJson
  let ephemeral ← ephemeralPrivateKey draws.ephemeral
  let wrapContent ← Nip44.encrypt draws.wrapNonce ephemeral recipient sealJson
  let wrapTime ← randomizedPastTimestamp draws.wrapOffset now
  let wrap ← signedEvent ephemeral wrapTime giftWrapKind [["p", recipientPublicKey]] wrapContent
  pure wrap.toJson.write

/-! ## Opening -/

variable [SerdeJson] [SerdeJsonErrors]

def openNostrApplicationData (privateKey : Vector UInt8 32) (eventJson : String) :
    Result NostrApplicationData := do
  if (utf8 eventJson).isEmpty ∨ (utf8 eventJson).length > maxEventJsonBytes then
    throw (.deserializationError "Invalid Nostr gift-wrap size")
  let wrap ← fromStr SignedEvent.fromJson eventJson
  verifyEvent wrap
  let recipientPublicKey := encodeBytes (← nostrPublicKey privateKey).toList
  if wrap.kind ≠ giftWrapKind ∨ wrap.tags ≠ [["p", recipientPublicKey]] then
    throw (.deserializationError "Invalid Nostr gift wrap")
  let wrapPublicKey ← decodeHex 32 wrap.pubkey "gift-wrap public key"
  let sealJson ← Nip44.decrypt privateKey wrapPublicKey wrap.content
  let sealEvent ← fromStr SignedEvent.fromJson sealJson
  verifyEvent sealEvent
  if sealEvent.kind ≠ sealKind ∨ ¬ sealEvent.tags.isEmpty then
    throw (.deserializationError "Invalid Nostr seal")
  let senderPublicKey ← decodeHex 32 sealEvent.pubkey "sender public key"
  let rumorJson ← Nip44.decrypt privateKey senderPublicKey sealEvent.content
  let rumor ← fromStr UnsignedEvent.fromJson rumorJson
  let expectedId := eventId rumor.pubkey rumor.createdAt rumor.kind rumor.tags rumor.content
  match rumor.tags with
  | [["d", identifier]] =>
    if rumor.id ≠ encodeBytes expectedId.toList ∨ rumor.pubkey ≠ sealEvent.pubkey ∨
        rumor.kind ≠ applicationDataKind ∨ ¬ validIdentifier identifier then
      throw (.deserializationError "Invalid Nostr application rumor")
    validateContent rumor.content
    pure { content := rumor.content, identifier, senderPublicKey := rumor.pubkey }
  | _ => throw (.deserializationError "Invalid Nostr application rumor")

end KrustyKms.Nostr

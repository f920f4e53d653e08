import KrustyKms.Common.Json
import KrustyKms.Crypto.Hash

/-!
# SNIP-12 typed data

A document is parsed, checked for duplicate keys and unknown envelope fields, and decoded by the
reference crate into types, a primary type and a message.
-/

namespace KrustyKms.TypedData

open Crypto Codec

def maxTypedDataJsonBytes : ℕ := 256 * 1024

def invalidTypedDataError : KmsError :=
  .serializationError "typed data is not valid canonical SNIP-12"

/-! ## Duplicate keys -/

mutual

def rejectDuplicateKeys : Json → Bool
  | .object entries => visitMap [] entries
  | .array elements => visitSeq elements
  | _ => true

def visitMap (keys : List String) : List (String × Json) → Bool
  | [] => true
  | (key, value) :: entries =>
    if keys.contains key then false
    else rejectDuplicateKeys value && visitMap (key :: keys) entries

def visitSeq : List Json → Bool
  | [] => true
  | element :: elements => rejectDuplicateKeys element && visitSeq elements

end

/-! ## The envelope -/

structure CanonicalTypedDataDomain where
  name : Json
  version : Json
  chainId : Json
  revision : Option Json

structure CanonicalTypedDataEnvelope where
  types : Json
  domain : CanonicalTypedDataDomain
  primaryType : Json
  message : Json

def optionFromJson : Json → Option Json
  | .null => none
  | value => some value

/-- The derived deserializer, with `deny_unknown_fields`; a structure may also be written as the
array of its fields. -/
def domainFromJson : Json → Option CanonicalTypedDataDomain
  | .object entries => do
    guard (entries.all fun entry => ["name", "version", "chainId", "revision"].contains entry.1)
    let name ← entries.lookup "name"
    let version ← entries.lookup "version"
    let chainId ← entries.lookup "chainId"
    pure ⟨name, version, chainId, (entries.lookup "revision").bind optionFromJson⟩
  | .array [name, version, chainId] => some ⟨name, version, chainId, none⟩
  | .array [name, version, chainId, revision] =>
    some ⟨name, version, chainId, optionFromJson revision⟩
  | _ => none

def envelopeFromJson : Json → Option CanonicalTypedDataEnvelope
  | .object entries => do
    guard (entries.all fun entry =>
      ["types", "domain", "primaryType", "message"].contains entry.1)
    let types ← entries.lookup "types"
    let domain ← entries.lookup "domain" >>= domainFromJson
    let primaryType ← entries.lookup "primaryType"
    let message ← entries.lookup "message"
    pure ⟨types, domain, primaryType, message⟩
  | .array [types, domain, primaryType, message] => do
    pure ⟨types, ← domainFromJson domain, primaryType, message⟩
  | _ => none

def CanonicalTypedDataDomain.toJson (domain : CanonicalTypedDataDomain) : Json :=
  .object ([("name", domain.name), ("version", domain.version), ("chainId", domain.chainId)] ++
    (domain.revision.map fun revision => ("revision", revision)).toList)

def CanonicalTypedDataEnvelope.toJson (envelope : CanonicalTypedDataEnvelope) : Json :=
  .object [("types", envelope.types), ("domain", envelope.domain.toJson),
    ("primaryType", envelope.primaryType), ("message", envelope.message)]

def isRevisionField : Json → Bool
  | .object entries => entries.length = 2 &&
      (entries.lookup "name").any (·.isString "revision") &&
      (entries.lookup "type").any (·.isString "felt")
  | _ => false

def replaceKey (key : String) (value : Json) : List (String × Json) → List (String × Json)
  | [] => []
  | entry :: entries =>
    if entry.1 = key then (key, value) :: entries else entry :: replaceKey key value entries

/-- The legacy domain type may declare `revision: felt` when its value is "0". The field is
removed, and the answer says whether it was. -/
def stripLegacyRevisionField (envelope : CanonicalTypedDataEnvelope) :
    CanonicalTypedDataEnvelope × Bool :=
  if envelope.domain.revision.any (·.isString "0") then
    match envelope.types, (envelope.types.get "StarkNetDomain").bind Json.asArray with
    | .object entries, some [name, version, chainId, revision] =>
      if isRevisionField revision then
        ({ envelope with
          types := .object (replaceKey "StarkNetDomain" (.array [name, version, chainId]) entries) },
          true)
      else (envelope, false)
    | _, _ => (envelope, false)
  else (envelope, false)

/-! ## Types and values of the reference crate -/

inductive Revision where
  | v0
  | v1
deriving DecidableEq

/-- `CommonTypeReference`, with what the reference itself demands of a custom type. -/
inductive TypeReference where
  | custom (name : String) (mustBeEnum mustBeStruct : Bool)
  | array (element : TypeReference)
  | merkleTree (leaf : TypeReference)
  | felt
  | bool
  | string
  | selector
  | timestamp
  | i128
  | u128
  | contractAddress
  | classHash
  | shortString
  | u256
  | tokenAmount
  | nftId
deriving DecidableEq

structure FieldDefinition where
  name : String
  type : TypeReference
deriving DecidableEq

structure StructDefinition where
  fields : List FieldDefinition
deriving DecidableEq

structure VariantDefinition where
  name : String
  tupleTypes : List TypeReference
deriving DecidableEq

structure EnumDefinition where
  variants : List VariantDefinition
deriving DecidableEq

inductive TypeDefinition where
  | struct (definition : StructDefinition)
  | enum (definition : EnumDefinition)
deriving DecidableEq

inductive Value where
  | string (text : String)
  | unsignedInteger (value : BitVec 128)
  | signedInteger (value : ℤ)
  | boolean (value : Bool)
  | object (fields : List (String × Value))
  | array (elements : List Value)

structure Types where
  getType : String → Option TypeDefinition
  getTypeHash : String → Option Felt

structure Encoder where
  revision : Revision
  types : Types
  encodeValue : TypeReference → Value → Option Felt

structure StarknetTypedData where
  encoder : Encoder
  primaryType : TypeReference
  message : Value

/-- The decoders of `starknet-rust-core`. -/
class StarknetCore where
  typedDataFromJson : Json → Option StarknetTypedData
  valueFromJson : Json → Option Value
  feltFromHex : String → Option Felt

/-! ## Hashes -/

/-- `poseidon_hash` of two felts. -/
class PoseidonPair where
  hash : Felt → Felt → Felt

section

variable [Pedersen] [Poseidon] [PoseidonPair]

/-- `compute_hash_on_elements`: the Pedersen chain, then the number of elements. -/
def computeHashOnElements (elements : List Felt) : Felt :=
  Pedersen.hash (elements.foldl Pedersen.hash 0) (elements.length : Felt)

def hashElements (revision : Revision) (elements : List Felt) : Felt :=
  match revision with
  | .v0 => computeHashOnElements elements
  | .v1 => Poseidon.hashArray elements

def hashPair (revision : Revision) (a b : Felt) : Felt :=
  match revision with
  | .v0 => Pedersen.hash a b
  | .v1 => PoseidonPair.hash a b

def feltMin (a b : Felt) : Felt := if a.val ≤ b.val then a else b
def feltMax (a b : Felt) : Felt := if a.val ≤ b.val then b else a

def merkleLayer (revision : Revision) : List Felt → List Felt
  | a :: b :: layer => hashPair revision (feltMin a b) (feltMax a b) :: merkleLayer revision layer
  | [a] => [hashPair revision 0 a]
  | [] => []

/-- The loop over the layers; a layer has at most half as many nodes as the one below, so that
`rounds` may be the number of leaves. -/
def merkleLayers (revision : Revision) : ℕ → List Felt → List Felt
  | 0, layer => layer
  | rounds + 1, layer =>
    if layer.length > 1 then merkleLayers revision rounds (merkleLayer revision layer) else layer

end

/-! ## Primitive values -/

def parseI128 (text : String) : Option ℤ :=
  let (negative, digits) := match text.toList with
    | '-' :: digits => (true, digits)
    | '+' :: digits => (false, digits)
    | digits => (false, digits)
  if digits = [] ∨ !digits.all Char.isDigit then none
  else
    let magnitude : ℤ := digits.foldl (fun value digit => 10 * value + (digit.toNat - 48 : ℕ)) 0
    let value := if negative then -magnitude else magnitude
    if -2 ^ 127 ≤ value ∧ value < 2 ^ 127 then some value else none

def isAsciiHexdigit (c : Char) : Bool :=
  c.isDigit || ('a' ≤ c && c ≤ 'f') || ('A' ≤ c && c ≤ 'F')

def stripUpperHex (raw : String) : Option (List Char) :=
  match raw.toList with
  | '0' :: 'X' :: hex => some hex
  | _ => none

def stripLowerHex (raw : String) : Option (List Char) :=
  match raw.toList with
  | '0' :: 'x' :: hex => some hex
  | _ => none

def orInvalid {α : Type} (answer : Option α) : Result α :=
  match answer with
  | some a => .ok a
  | none => .error invalidTypedDataError

variable [StarknetCore]

def encodePrimitive (encoder : Encoder) (typeRef : TypeReference) (value : Value) : Result Felt :=
  match typeRef, value with
  | .i128, .signedInteger integer => orInvalid (encoder.encodeValue .i128 (.signedInteger integer))
  | .i128, .unsignedInteger integer =>
    if integer.toNat < 2 ^ 127 then
      orInvalid (encoder.encodeValue .i128 (.signedInteger integer.toNat))
    else .error invalidTypedDataError
  | .i128, .string text => do
    let integer ← orInvalid (parseI128 text)
    orInvalid (encoder.encodeValue .i128 (.signedInteger integer))
  | .i128, _ => .error invalidTypedDataError
  | .felt, .string raw | .shortString, .string raw =>
    match stripUpperHex raw with
    | some hex =>
      if hex ≠ [] ∧ hex.all isAsciiHexdigit then
        orInvalid (encoder.encodeValue typeRef (.string ("0x" ++ String.ofList hex)))
      else orInvalid (encoder.encodeValue typeRef (.string raw))
    | none => orInvalid (encoder.encodeValue typeRef (.string raw))
  | .selector, .string raw =>
    match (stripLowerHex raw).or (stripUpperHex raw) with
    | some hex =>
      if hex.all isAsciiHexdigit then
        if hex = [] then .error invalidTypedDataError
        else orInvalid (StarknetCore.feltFromHex ("0x" ++ String.ofList hex))
      else orInvalid (encoder.encodeValue .selector (.string raw))
    | none => orInvalid (encoder.encodeValue .selector (.string raw))
  | _, _ => orInvalid (encoder.encodeValue typeRef value)

/-! ## Encoding along the types -/

def TypeReference.isComposite : TypeReference → Bool
  | custom .. | array _ | merkleTree _ => true
  | _ => false

def customDefinition (encoder : Encoder) (name : String) (mustBeEnum mustBeStruct : Bool) :
    Option TypeDefinition :=
  match encoder.types.getType name with
  | some (.struct definition) => if mustBeEnum then none else some (.struct definition)
  | some (.enum definition) => if mustBeStruct then none else some (.enum definition)
  | none => none

variable [Pedersen] [Poseidon] [PoseidonPair]

def encodeStruct (encoder : Encoder) (typeHash : Felt) (definition : StructDefinition)
    (fieldCount : ℕ) (encodeField : FieldDefinition → Result Felt) : Result Felt :=
  if fieldCount ≠ definition.fields.length then .error invalidTypedDataError
  else do
    let encoded ← definition.fields.mapM encodeField
    .ok (hashElements encoder.revision (typeHash :: encoded))

def merkleRoot (revision : Revision) (layer : List Felt) : Result Felt :=
  orInvalid (merkleLayers revision layer.length layer).head?

mutual

/-- `encode_value`. Every refusal is the same error, so that the cases may be told apart by the
value first. -/
def encodeValue (encoder : Encoder) : Value → TypeReference → Result Felt
  | .object fields, .custom name mustBeEnum mustBeStruct =>
    match customDefinition encoder name mustBeEnum mustBeStruct with
    | some (.struct definition) => do
      let typeHash ← orInvalid (encoder.types.getTypeHash name)
      encodeStruct encoder typeHash definition fields.length (encodeField encoder fields)
    | some (.enum definition) => encodeEnum encoder fields definition
    | none => .error invalidTypedDataError
  | .array elements, .array element => do
    let encoded ← encodeElements encoder elements element
    .ok (hashElements encoder.revision encoded)
  | .array elements, .merkleTree leaf =>
    if elements.isEmpty then .error invalidTypedDataError
    else do
      let layer ← encodeElements encoder elements leaf
      merkleRoot encoder.revision layer
  | value, typeRef =>
    if typeRef.isComposite then .error invalidTypedDataError
    else encodePrimitive encoder typeRef value

def encodeField (encoder : Encoder) : List (String × Value) → FieldDefinition → Result Felt
  | [], _ => .error invalidTypedDataError
  | (key, value) :: fields, field =>
    if key = field.name then encodeValue encoder value field.type
    else encodeField encoder fields field

def encodeEnum (encoder : Encoder) : List (String × Value) → EnumDefinition → Result Felt
  | [(variantName, .array tuple)], definition =>
    match definition.variants.findIdx? fun variant => variant.name = variantName with
    | some index => do
      let variant ← orInvalid definition.variants[index]?
      let encoded ← encodeTuple encoder tuple variant.tupleTypes
      .ok (hashElements encoder.revision ((index : Felt) :: encoded))
    | none => .error invalidTypedDataError
  | _, _ => .error invalidTypedDataError

def encodeTuple (encoder : Encoder) : List Value → List TypeReference → Result (List Felt)
  | [], [] => .ok []
  | value :: tuple, typeRef :: types => do
    let head ← encodeValue encoder value typeRef
    let tail ← encodeTuple encoder tuple types
    .ok (head :: tail)
  | _, _ => .error invalidTypedDataError

def encodeElements (encoder : Encoder) : List Value → TypeReference → Result (List Felt)
  | [], _ => .ok []
  | value :: elements, typeRef => do
    let head ← encodeValue encoder value typeRef
    let tail ← encodeElements encoder elements typeRef
    .ok (head :: tail)

end

/-! ## The message hash -/

def domainDefinition (revision : Revision) (legacyRevisionField : Bool) : StructDefinition :=
  let fieldType := match revision with
    | .v0 => TypeReference.felt
    | .v1 => .shortString
  let fields := ["name", "version", "chainId"].map fun name => ⟨name, fieldType⟩
  if revision = .v1 || legacyRevisionField then ⟨fields ++ [⟨"revision", fieldType⟩]⟩
  else ⟨fields⟩

def domainSignature (revision : Revision) (legacyRevisionField : Bool) : Option String :=
  match revision, legacyRevisionField with
  | .v0, false => some "StarkNetDomain(name:felt,version:felt,chainId:felt)"
  | .v0, true => some "StarkNetDomain(name:felt,version:felt,chainId:felt,revision:felt)"
  | .v1, false => some ("\"StarknetDomain\"(\"name\":\"shortstring\"," ++
      "\"version\":\"shortstring\",\"chainId\":\"shortstring\",\"revision\":\"shortstring\")")
  | .v1, true => none

variable [StarknetKeccak]

def encodeDomain (encoder : Encoder) (definition : StructDefinition) (value : Value)
    (legacyRevisionField : Bool) : Result Felt := do
  let signature ← orInvalid (domainSignature encoder.revision legacyRevisionField)
  let typeHash := StarknetKeccak.hash (utf8 signature)
  match value with
  | .object fields =>
    encodeStruct encoder typeHash definition fields.length (encodeField encoder fields)
  | _ => .error invalidTypedDataError

def TypeReference.isDomain : TypeReference → String → Bool
  | custom name _ _, domainName => name = domainName
  | _, _ => false

def domainName : Revision → String
  | .v0 => "StarkNetDomain"
  | .v1 => "StarknetDomain"

structure DecodedDocument where
  typedData : StarknetTypedData
  domainType : Json
  domain : CanonicalTypedDataDomain
  legacyRevisionField : Bool

namespace DecodedDocument

def encoder (document : DecodedDocument) : Encoder := document.typedData.encoder

def definition (document : DecodedDocument) : StructDefinition :=
  domainDefinition document.encoder.revision document.legacyRevisionField

def domainForHash (document : DecodedDocument) : Json :=
  if document.encoder.revision = .v0 && !document.legacyRevisionField then
    { document.domain with revision := none }.toJson
  else document.domain.toJson

def encodeMessage (document : DecodedDocument) : Result Felt :=
  if document.typedData.primaryType.isDomain (domainName document.encoder.revision) then
    encodeDomain document.encoder document.definition document.typedData.message
      document.legacyRevisionField
  else encodeValue document.encoder document.typedData.message document.typedData.primaryType

def messageHash (document : DecodedDocument) (address : Felt) : Result Felt := do
  let fields ← orInvalid document.domainType.asArray
  if fields.length ≠ document.definition.fields.length - document.legacyRevisionField.toNat then
    .error invalidTypedDataError
  else do
    let domainValue ← orInvalid (StarknetCore.valueFromJson document.domainForHash)
    let domainHash ← encodeDomain document.encoder document.definition domainValue
      document.legacyRevisionField
    let messageHash ← document.encodeMessage
    .ok (hashElements document.encoder.revision
      [Felt.fromBytesBeSlice (utf8 "StarkNet Message"), domainHash, address, messageHash])

end DecodedDocument

variable [SerdeJson]

def decodeDocument (typedDataJson : String) : Result DecodedDocument := do
  if (utf8 typedDataJson).length > maxTypedDataJsonBytes then
    .error (.serializationError
      s!"typed data JSON exceeds the {maxTypedDataJsonBytes} byte limit")
  else do
    let json ← orInvalid (SerdeJson.parse typedDataJson)
    if !rejectDuplicateKeys json then .error invalidTypedDataError
    else do
      let envelope ← orInvalid (envelopeFromJson json)
      let (envelope, legacyRevisionField) := stripLegacyRevisionField envelope
      let domainTypeName :=
        if (envelope.types.get "StarkNetDomain").isSome then "StarkNetDomain"
        else "StarknetDomain"
      let domainType ← orInvalid (envelope.types.get domainTypeName)
      let typedData ← orInvalid (StarknetCore.typedDataFromJson envelope.toJson)
      .ok ⟨typedData, domainType, envelope.domain, legacyRevisionField⟩

def computeTypedDataMessageHash (typedDataJson : String) (accountAddress : Felt) :
    Result Felt := do
  let document ← decodeDocument typedDataJson
  document.messageHash accountAddress

end KrustyKms.TypedData

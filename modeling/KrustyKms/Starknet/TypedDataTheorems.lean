import KrustyKms.Starknet.TypedData
import KrustyKms.Support.Fallible

/-!
# Which keys of a message are signed

An accepted message is encoded along its types (`Accepted`).
-/

namespace KrustyKms.TypedData

open Crypto Support

/-! ## Struct types -/

def StructDefinition.names (definition : StructDefinition) : List String :=
  definition.fields.map FieldDefinition.name

def presetDefinition : TypeReference → Option StructDefinition
  | .u256 => some ⟨[⟨"low", .u128⟩, ⟨"high", .u128⟩]⟩
  | .tokenAmount => some ⟨[⟨"token_address", .contractAddress⟩, ⟨"amount", .u256⟩]⟩
  | .nftId => some ⟨[⟨"collection_address", .contractAddress⟩, ⟨"token_id", .u256⟩]⟩
  | _ => none

def structDefinition (encoder : Encoder) : TypeReference → Option StructDefinition
  | .custom name mustBeEnum mustBeStruct =>
    match customDefinition encoder name mustBeEnum mustBeStruct with
    | some (.struct definition) => some definition
    | _ => none
  | typeRef => presetDefinition typeRef

def Value.isScalar : Value → Bool
  | .object _ | .array _ => false
  | _ => true

/-! ## What is said of a message -/

inductive KeysHashed (encoder : Encoder) : TypeReference → Value → Prop where
  | scalar {typeRef value} (hscalar : value.isScalar = true) : KeysHashed encoder typeRef value
  | struct {typeRef definition fields}
      (hstruct : structDefinition encoder typeRef = some definition)
      (hkeys : ∀ key ∈ fields.map Prod.fst, key ∈ definition.names)
      (hfields : ∀ field ∈ definition.fields, ∀ value, fields.lookup field.name = some value →
        KeysHashed encoder field.type value) : KeysHashed encoder typeRef (.object fields)
  | enum {name mustBeEnum mustBeStruct definition variantName variant tuple}
      (henum : customDefinition encoder name mustBeEnum mustBeStruct = some (.enum definition))
      (hvariant : definition.variants.find? (fun variant => variant.name = variantName) =
        some variant)
      (htuple : ∀ element ∈ tuple.zip variant.tupleTypes, KeysHashed encoder element.2 element.1) :
      KeysHashed encoder (.custom name mustBeEnum mustBeStruct)
        (.object [(variantName, .array tuple)])
  | array {typeRef elements} (helements : ∀ value ∈ elements, KeysHashed encoder typeRef value) :
      KeysHashed encoder (.array typeRef) (.array elements)
  | merkleTree {typeRef elements}
      (helements : ∀ value ∈ elements, KeysHashed encoder typeRef value) :
      KeysHashed encoder (.merkleTree typeRef) (.array elements)

inductive EncodesStruct (encoder : Encoder) :
    TypeReference → Value → StructDefinition → Prop where
  | here {typeRef definition fields}
      (hstruct : structDefinition encoder typeRef = some definition) :
      EncodesStruct encoder typeRef (.object fields) definition
  | field {typeRef definition fields field value inner}
      (hstruct : structDefinition encoder typeRef = some definition)
      (hfield : field ∈ definition.fields) (hvalue : fields.lookup field.name = some value)
      (hinner : EncodesStruct encoder field.type value inner) :
      EncodesStruct encoder typeRef (.object fields) inner
  | variant {name mustBeEnum mustBeStruct definition variantName variant tuple element inner}
      (henum : customDefinition encoder name mustBeEnum mustBeStruct = some (.enum definition))
      (hvariant : definition.variants.find? (fun variant => variant.name = variantName) =
        some variant)
      (helement : element ∈ tuple.zip variant.tupleTypes)
      (hinner : EncodesStruct encoder element.2 element.1 inner) :
      EncodesStruct encoder (.custom name mustBeEnum mustBeStruct)
        (.object [(variantName, .array tuple)]) inner
  | element {typeRef elements value inner} (hvalue : value ∈ elements)
      (hinner : EncodesStruct encoder typeRef value inner) :
      EncodesStruct encoder (.array typeRef) (.array elements) inner
  | leaf {typeRef elements value inner} (hvalue : value ∈ elements)
      (hinner : EncodesStruct encoder typeRef value inner) :
      EncodesStruct encoder (.merkleTree typeRef) (.array elements) inner

def NamesOnce (encoder : Encoder) (typeRef : TypeReference) (value : Value) : Prop :=
  ∀ definition, EncodesStruct encoder typeRef value definition → definition.names.Nodup

/-- No object in the value has a key twice. -/
inductive DistinctKeys : Value → Prop where
  | scalar {value} (hscalar : value.isScalar = true) : DistinctKeys value
  | object {fields} (hnodup : (fields.map Prod.fst).Nodup)
      (hfields : ∀ entry ∈ fields, DistinctKeys entry.2) : DistinctKeys (.object fields)
  | array {elements} (helements : ∀ value ∈ elements, DistinctKeys value) :
      DistinctKeys (.array elements)

/-! ## What is accepted -/

/-- The values `encodeValue` accepts for a type, as far as their shape goes. -/
inductive Accepted (encoder : Encoder) : TypeReference → Value → Prop where
  | scalar {typeRef value} (hscalar : value.isScalar = true) : Accepted encoder typeRef value
  | struct {typeRef definition fields}
      (hstruct : structDefinition encoder typeRef = some definition)
      (hcount : fields.length = definition.fields.length)
      (hnames : ∀ name ∈ definition.names, name ∈ fields.map Prod.fst)
      (hfields : ∀ field ∈ definition.fields, ∀ value, fields.lookup field.name = some value →
        Accepted encoder field.type value) : Accepted encoder typeRef (.object fields)
  | enum {name mustBeEnum mustBeStruct definition variantName variant tuple}
      (henum : customDefinition encoder name mustBeEnum mustBeStruct = some (.enum definition))
      (hvariant : definition.variants.find? (fun variant => variant.name = variantName) =
        some variant)
      (htuple : ∀ element ∈ tuple.zip variant.tupleTypes, Accepted encoder element.2 element.1) :
      Accepted encoder (.custom name mustBeEnum mustBeStruct)
        (.object [(variantName, .array tuple)])
  | array {typeRef elements} (helements : ∀ value ∈ elements, Accepted encoder typeRef value) :
      Accepted encoder (.array typeRef) (.array elements)
  | merkleTree {typeRef elements}
      (helements : ∀ value ∈ elements, Accepted encoder typeRef value) :
      Accepted encoder (.merkleTree typeRef) (.array elements)

variable {encoder : Encoder}

lemma keys_subset_iff_nodup {keys names : List String} (hn : keys.Nodup)
    (hc : keys.length = names.length) (hnm : ∀ name ∈ names, name ∈ keys) :
    (∀ key ∈ keys, key ∈ names) ↔ names.Nodup := by
  constructor
  · intro hk
    have hp : keys.Perm names :=
      (List.subperm_of_subset hn hk).perm_of_length_le hc.ge
    exact hp.nodup_iff.mp hn
  · intro hn'
    have hp : names.Perm keys :=
      (List.subperm_of_subset hn' hnm).perm_of_length_le hc.le
    exact fun key hkey => hp.mem_iff.mpr hkey

variable {fields : List (String × Value)} {name : String} {value : Value} {typeRef : TypeReference}

lemma keys_named_iff_nodup {definition : StructDefinition}
    (hn : (fields.map Prod.fst).Nodup) (hc : fields.length = definition.fields.length)
    (hnm : ∀ name ∈ definition.names, name ∈ fields.map Prod.fst) :
    (∀ key ∈ fields.map Prod.fst, key ∈ definition.names) ↔ definition.names.Nodup := by
  refine keys_subset_iff_nodup hn ?_ hnm
  rw [List.length_map, hc, StructDefinition.names, List.length_map]

lemma structDefinition_enum {mustBeEnum mustBeStruct : Bool} {definition : EnumDefinition}
    (henum : customDefinition encoder name mustBeEnum mustBeStruct = some (.enum definition)) :
    structDefinition encoder (.custom name mustBeEnum mustBeStruct) = none := by
  rw [structDefinition, henum]

/-! ## Both sides, constructor by constructor -/

section Inversion

variable {typeRef : TypeReference} {definition : StructDefinition}
  {fields : List (String × Value)} {elements : List Value}

lemma keysHashed_struct (hs : structDefinition encoder typeRef = some definition) :
    KeysHashed encoder typeRef (.object fields) ↔
      (∀ key ∈ fields.map Prod.fst, key ∈ definition.names) ∧
      ∀ field ∈ definition.fields, ∀ value, fields.lookup field.name = some value →
        KeysHashed encoder field.type value := by
  constructor
  · intro h
    cases h with
    | scalar hsc => cases hsc
    | struct hs' hk hf =>
      obtain rfl : definition = _ := Option.some.inj (hs.symm.trans hs')
      exact ⟨hk, hf⟩
    | enum henum =>
      rw [structDefinition_enum henum] at hs
      cases hs
  · intro h
    exact .struct hs h.1 h.2

lemma namesOnce_struct (hs : structDefinition encoder typeRef = some definition) :
    NamesOnce encoder typeRef (.object fields) ↔
      definition.names.Nodup ∧
      ∀ field ∈ definition.fields, ∀ value, fields.lookup field.name = some value →
        NamesOnce encoder field.type value := by
  constructor
  · intro h
    refine ⟨h _ (.here hs), ?_⟩
    intro field hf value hv inner hin
    exact h inner (.field hs hf hv hin)
  · intro h inner hin
    cases hin with
    | here hs' =>
      obtain rfl : definition = inner := Option.some.inj (hs.symm.trans hs')
      exact h.1
    | field hs' hf hv hin =>
      obtain rfl : definition = _ := Option.some.inj (hs.symm.trans hs')
      exact h.2 _ hf _ hv inner hin
    | variant henum =>
      rw [structDefinition_enum henum] at hs
      cases hs

section Enum

variable {name variantName : String} {mustBeEnum mustBeStruct : Bool}
  {enumDefinition : EnumDefinition} {variant : VariantDefinition} {tuple : List Value}
  (henum : customDefinition encoder name mustBeEnum mustBeStruct = some (.enum enumDefinition))
  (hvariant : enumDefinition.variants.find? (fun variant => variant.name = variantName) =
    some variant)

include henum hvariant

lemma keysHashed_enum :
    KeysHashed encoder (.custom name mustBeEnum mustBeStruct)
        (.object [(variantName, .array tuple)]) ↔
      ∀ element ∈ tuple.zip variant.tupleTypes, KeysHashed encoder element.2 element.1 := by
  refine ⟨?_, .enum henum hvariant⟩
  intro h
  cases h with
  | scalar hsc => cases hsc
  | struct hs =>
    rw [structDefinition_enum henum] at hs
    cases hs
  | enum he' hv' ht =>
    obtain rfl : enumDefinition = _ :=
      TypeDefinition.enum.inj (Option.some.inj (henum.symm.trans he'))
    obtain rfl : variant = _ := Option.some.inj (hvariant.symm.trans hv')
    exact ht

lemma namesOnce_enum :
    NamesOnce encoder (.custom name mustBeEnum mustBeStruct)
        (.object [(variantName, .array tuple)]) ↔
      ∀ element ∈ tuple.zip variant.tupleTypes, NamesOnce encoder element.2 element.1 := by
  constructor
  · intro h element hel inner hin
    exact h inner (.variant henum hvariant hel hin)
  · intro h inner hin
    cases hin with
    | here hs | field hs =>
      rw [structDefinition_enum henum] at hs
      cases hs
    | variant he' hv' hel hin =>
      obtain rfl : enumDefinition = _ :=
        TypeDefinition.enum.inj (Option.some.inj (henum.symm.trans he'))
      obtain rfl : variant = _ := Option.some.inj (hvariant.symm.trans hv')
      exact h _ hel inner hin

end Enum

lemma keysHashed_array :
    KeysHashed encoder (.array typeRef) (.array elements) ↔
      ∀ value ∈ elements, KeysHashed encoder typeRef value := by
  refine ⟨?_, .array⟩
  intro h
  cases h with
  | scalar hs => cases hs
  | array hel => exact hel

lemma namesOnce_array :
    NamesOnce encoder (.array typeRef) (.array elements) ↔
      ∀ value ∈ elements, NamesOnce encoder typeRef value := by
  constructor
  · intro h value hv inner hin
    exact h inner (.element hv hin)
  · intro h inner hin
    cases hin with
    | element hv hin => exact h _ hv inner hin

lemma keysHashed_merkleTree :
    KeysHashed encoder (.merkleTree typeRef) (.array elements) ↔
      ∀ value ∈ elements, KeysHashed encoder typeRef value := by
  refine ⟨?_, .merkleTree⟩
  intro h
  cases h with
  | scalar hs => cases hs
  | merkleTree hel => exact hel

lemma namesOnce_merkleTree :
    NamesOnce encoder (.merkleTree typeRef) (.array elements) ↔
      ∀ value ∈ elements, NamesOnce encoder typeRef value := by
  constructor
  · intro h value hv inner hin
    exact h inner (.leaf hv hin)
  · intro h inner hin
    cases hin with
    | leaf hv hin => exact h _ hv inner hin

end Inversion

lemma DistinctKeys.of_object (h : DistinctKeys (.object fields)) :
    (fields.map Prod.fst).Nodup ∧ ∀ entry ∈ fields, DistinctKeys entry.2 := by
  cases h with
  | scalar hs => cases hs
  | object hn hf => exact ⟨hn, hf⟩

lemma DistinctKeys.of_mem {elements : List Value}
    (h : DistinctKeys (.array elements)) (hv : value ∈ elements) : DistinctKeys value := by
  cases h with
  | scalar hs => cases hs
  | array hel => exact hel value hv

lemma keysHashed_iff (ha : Accepted encoder typeRef value) (hd : DistinctKeys value) :
    KeysHashed encoder typeRef value ↔ NamesOnce encoder typeRef value := by
  induction ha with
  | scalar hs =>
    refine iff_of_true (.scalar hs) ?_
    intro definition hec
    cases hec <;> cases hs
  | struct hst hc hn _ ih =>
    obtain ⟨hnd, hen⟩ := hd.of_object
    rw [keysHashed_struct hst, namesOnce_struct hst,
      keys_named_iff_nodup hnd hc hn]
    refine and_congr_right' (forall₂_congr ?_)
    intro field hf
    refine forall₂_congr ?_
    intro value hv
    exact ih field hf value hv (hen _ (mem_of_lookup hv))
  | enum henum hvariant _ ih =>
    obtain ⟨-, hen⟩ := hd.of_object
    rw [keysHashed_enum henum hvariant, namesOnce_enum henum hvariant]
    refine forall₂_congr ?_
    intro element hel
    exact ih element hel
      ((hen _ (List.mem_singleton_self _)).of_mem (List.of_mem_zip hel).1)
  | array _ ih =>
    rw [keysHashed_array, namesOnce_array]
    exact forall₂_congr fun value hv => ih value hv (hd.of_mem hv)
  | merkleTree _ ih =>
    rw [keysHashed_merkleTree, namesOnce_merkleTree]
    exact forall₂_congr fun value hv => ih value hv (hd.of_mem hv)

/-! ## The encoder accepts -/

/-- What is relied on of the reference encoder: it accepts an object only for a preset type, with
the fields of the preset and no others. -/
structure ChecksPresets (encoder : Encoder) : Prop where
  preset : ∀ {typeRef definition value hash}, presetDefinition typeRef = some definition →
    encoder.encodeValue typeRef value = some hash →
    ∃ fields, value = .object fields ∧ fields.length = definition.fields.length ∧
      ∀ field ∈ definition.fields, ∃ inner innerHash, fields.lookup field.name = some inner ∧
        encoder.encodeValue field.type inner = some innerHash
  scalar : ∀ {typeRef value hash}, presetDefinition typeRef = none →
    typeRef.isComposite = false → encoder.encodeValue typeRef value = some hash →
    value.isScalar = true

lemma orInvalid_eq_ok {α : Type} {answer : Option α} {a : α} :
    orInvalid answer = .ok a ↔ answer = some a := by
  cases answer with
  | none => simp [orInvalid]
  | some b => simp [orInvalid]

lemma mem_keys_of_lookup (h : fields.lookup name = some value) : name ∈ fields.map Prod.fst :=
  List.mem_map.mpr ⟨_, mem_of_lookup h, rfl⟩

lemma sizeOf_lookup_lt
    (h : fields.lookup name = some value) : sizeOf value < sizeOf (Value.object fields) := by
  have hmem := List.sizeOf_lt_of_mem (mem_of_lookup h)
  simp only [Value.object.sizeOf_spec, Prod.mk.sizeOf_spec] at hmem ⊢
  omega

lemma sizeOf_mem_lt {elements : List Value} (h : value ∈ elements) :
    sizeOf value < sizeOf (Value.array elements) := by
  have hmem := List.sizeOf_lt_of_mem h
  simp only [Value.array.sizeOf_spec]
  omega

lemma isComposite_of_preset {definition : StructDefinition}
    (h : presetDefinition typeRef = some definition) :
    ∀ field ∈ definition.fields, field.type.isComposite = false := by
  cases typeRef with
  | u256 | tokenAmount | nftId =>
    obtain rfl := Option.some.inj h
    decide
  | _ => cases h

lemma accepted_of_reference (hen : ChecksPresets encoder)
    {hash : Felt} (hc : typeRef.isComposite = false)
    (h : encoder.encodeValue typeRef value = some hash) : Accepted encoder typeRef value := by
  induction hsz : sizeOf value using Nat.strong_induction_on generalizing typeRef value hash with
  | _ n ih =>
    cases hp : presetDefinition typeRef with
    | none => exact .scalar (hen.scalar hp hc h)
    | some definition =>
      obtain ⟨fields, rfl, hcn, hfl⟩ := hen.preset hp h
      have hs : structDefinition encoder typeRef = some definition := by
        rw [← hp]
        cases typeRef with
        | custom => cases hc
        | _ => rfl
      refine .struct hs hcn ?_ ?_
      · intro name hn
        obtain ⟨field, hf, rfl⟩ := List.mem_map.mp hn
        obtain ⟨inner, innerHash, hin, -⟩ := hfl field hf
        exact mem_keys_of_lookup hin
      · intro field hf inner hin
        obtain ⟨inner', innerHash, hi', hec⟩ := hfl field hf
        obtain rfl : inner = inner' := Option.some.inj (hin.symm.trans hi')
        have hlt := sizeOf_lookup_lt hin
        exact ih _ (by omega) (isComposite_of_preset hp field hf) hec rfl

section

variable [StarknetCore]

variable {typeRef : TypeReference} {value : Value} {hash : Felt} {fields : List (String × Value)}
  {hashes : List Felt}

lemma accepted_of_encodePrimitive (hen : ChecksPresets encoder) (hc : typeRef.isComposite = false)
    (h : encodePrimitive encoder typeRef value = .ok hash) : Accepted encoder typeRef value := by
  by_cases hs : value.isScalar = true
  · exact .scalar hs
  · have hr : encodePrimitive encoder typeRef value =
        if typeRef = .i128 then .error invalidTypedDataError
        else orInvalid (encoder.encodeValue typeRef value) := by
      cases value with
      | object | array =>
        cases typeRef with
        | _ => rfl
      | _ => exact absurd rfl hs
    rw [hr] at h
    split_ifs at h
    exact accepted_of_reference hen hc (orInvalid_eq_ok.mp h)

variable [Pedersen] [Poseidon] [PoseidonPair]

lemma encodeField_eq_ok {field : FieldDefinition} :
    encodeField encoder fields field = .ok hash ↔
      ∃ value, fields.lookup field.name = some value ∧
        encodeValue encoder value field.type = .ok hash := by
  induction fields with
  | nil => simp [encodeField]
  | cons entry fields ih =>
    obtain ⟨key, value⟩ := entry
    rw [encodeField, List.lookup_cons]
    by_cases hkey : key = field.name
    · simp [hkey]
    · have hbeq : (field.name == key) = false := beq_false_of_ne (Ne.symm hkey)
      rw [if_neg hkey, hbeq, ih]

lemma encodeElements_ok {elements : List Value}
    (h : encodeElements encoder elements typeRef = .ok hashes) :
    ∀ value ∈ elements, ∃ hash, encodeValue encoder value typeRef = .ok hash := by
  induction elements generalizing hashes with
  | nil => simp
  | cons value elements ih =>
    rw [encodeElements, except_bind_eq_ok] at h
    obtain ⟨head, hh, h⟩ := h
    rw [except_bind_eq_ok] at h
    obtain ⟨tail, ht, -⟩ := h
    exact List.forall_mem_cons.mpr ⟨⟨head, hh⟩, ih ht⟩

lemma encodeTuple_ok {tuple : List Value} {types : List TypeReference}
    (h : encodeTuple encoder tuple types = .ok hashes) :
    ∀ element ∈ tuple.zip types, ∃ hash, encodeValue encoder element.1 element.2 = .ok hash := by
  induction tuple generalizing types hashes with
  | nil => simp
  | cons value tuple ih =>
    cases types with
    | nil => simp
    | cons typeRef types =>
      rw [encodeTuple, except_bind_eq_ok] at h
      obtain ⟨head, hh, h⟩ := h
      rw [except_bind_eq_ok] at h
      obtain ⟨tail, ht, -⟩ := h
      exact List.forall_mem_cons.mpr ⟨⟨head, hh⟩, ih ht⟩

lemma encodeEnum_ok {definition : EnumDefinition}
    (h : encodeEnum encoder fields definition = .ok hash) :
    ∃ variantName tuple variant, fields = [(variantName, .array tuple)] ∧
      definition.variants.find? (fun variant => variant.name = variantName) = some variant ∧
      ∀ element ∈ tuple.zip variant.tupleTypes,
        ∃ hash, encodeValue encoder element.1 element.2 = .ok hash := by
  match fields with
  | [(variantName, .array tuple)] =>
    rw [encodeEnum] at h
    cases hin : definition.variants.findIdx? fun variant => variant.name = variantName with
    | none =>
      rw [hin] at h
      cases h
    | some index =>
      rw [hin] at h
      dsimp only at h
      rw [except_bind_eq_ok] at h
      obtain ⟨variant, hvariant, h⟩ := h
      rw [except_bind_eq_ok] at h
      obtain ⟨hashes, ht, -⟩ := h
      refine ⟨variantName, tuple, variant, rfl, ?_, encodeTuple_ok ht⟩
      rw [List.find?_eq_bind_findIdx?_getElem?, hin]
      exact orInvalid_eq_ok.mp hvariant
  | [] | _ :: _ :: _ | [(_, .object _)] | [(_, .string _)] | [(_, .unsignedInteger _)]
  | [(_, .signedInteger _)] | [(_, .boolean _)] =>
    rw [encodeEnum] at h
    · cases h
    all_goals simp

lemma encodeStruct_ok {typeHash : Felt} {definition : StructDefinition}
    (h : encodeStruct encoder typeHash definition fields.length (encodeField encoder fields) =
    .ok hash) :
    fields.length = definition.fields.length ∧
      ∀ field ∈ definition.fields, ∃ value hash, fields.lookup field.name = some value ∧
        encodeValue encoder value field.type = .ok hash := by
  unfold encodeStruct at h
  split_ifs at h with hc
  rw [not_not] at hc
  rw [except_bind_eq_ok] at h
  obtain ⟨encoded, hen, -⟩ := h
  refine ⟨hc, ?_⟩
  intro field hf
  obtain ⟨fieldHash, hfh⟩ := except_mapM_ok hen field hf
  obtain ⟨value, hv, hec⟩ := encodeField_eq_ok.mp hfh
  exact ⟨value, fieldHash, hv, hec⟩

lemma accepted_struct {definition : StructDefinition} {typeHash : Felt}
    (hs : structDefinition encoder typeRef = some definition)
    (h : encodeStruct encoder typeHash definition fields.length (encodeField encoder fields) =
    .ok hash) (ih : ∀ value, sizeOf value < sizeOf (Value.object fields) → ∀ typeRef hash,
    encodeValue encoder value typeRef = .ok hash → Accepted encoder typeRef value) :
    Accepted encoder typeRef (.object fields) := by
  obtain ⟨hc, hfl⟩ := encodeStruct_ok h
  refine .struct hs hc ?_ ?_
  · intro name hn
    obtain ⟨field, hf, rfl⟩ := List.mem_map.mp hn
    obtain ⟨value, fieldHash, hv, -⟩ := hfl field hf
    exact mem_keys_of_lookup hv
  · intro field hf value hv
    obtain ⟨value', fieldHash, hv', hen⟩ := hfl field hf
    obtain rfl : value = value' := Option.some.inj (hv.symm.trans hv')
    exact ih value (sizeOf_lookup_lt hv) _ _ hen

lemma encodePrimitive_of_encodeValue (hc : typeRef.isComposite = false)
    (h : encodeValue encoder value typeRef = .ok hash) :
    encodePrimitive encoder typeRef value = .ok hash := by
  cases typeRef with
  | custom | array | merkleTree => cases hc
  | _ =>
    cases value with
    | _ => exact h

lemma accepted_element {elements : List Value}
    (h : encodeElements encoder elements typeRef = .ok hashes)
    (ih : ∀ value, sizeOf value < sizeOf (Value.array elements) → ∀ typeRef hash,
    encodeValue encoder value typeRef = .ok hash → Accepted encoder typeRef value) :
    ∀ value ∈ elements, Accepted encoder typeRef value := by
  intro value hv
  obtain ⟨hash, hen⟩ := encodeElements_ok h value hv
  exact ih value (sizeOf_mem_lt hv) _ _ hen

lemma accepted_custom {name : String} {mustBeEnum mustBeStruct : Bool}
    (h : encodeValue encoder (.object fields) (.custom name mustBeEnum mustBeStruct) = .ok hash)
    (ih : ∀ value, sizeOf value < sizeOf (Value.object fields) → ∀ typeRef hash,
    encodeValue encoder value typeRef = .ok hash → Accepted encoder typeRef value) :
    Accepted encoder (.custom name mustBeEnum mustBeStruct) (.object fields) := by
  rw [encodeValue] at h
  cases hc : customDefinition encoder name mustBeEnum mustBeStruct with
  | none =>
    rw [hc] at h
    cases h
  | some typeDefinition =>
    rw [hc] at h
    cases typeDefinition with
    | struct definition =>
      dsimp only at h
      rw [except_bind_eq_ok] at h
      obtain ⟨typeHash, -, h⟩ := h
      refine accepted_struct ?_ h ih
      rw [structDefinition, hc]
    | enum definition =>
      obtain ⟨variantName, tuple, variant, rfl, hvariant, ht⟩ := encodeEnum_ok h
      refine .enum hc hvariant ?_
      intro element hel
      obtain ⟨elementHash, hen⟩ := ht element hel
      have hlt := sizeOf_mem_lt (List.of_mem_zip hel).1
      have hl :
          [(variantName, Value.array tuple)].lookup variantName = some (.array tuple) := by
        simp
      exact ih element.1 (hlt.trans (sizeOf_lookup_lt hl)) _ _ hen

lemma accepted_of_encodeValue (hen : ChecksPresets encoder)
    (h : encodeValue encoder value typeRef = .ok hash) :
    Accepted encoder typeRef value := by
  induction hs : sizeOf value using Nat.strong_induction_on generalizing value typeRef hash with
  | _ n ih =>
    have ih' : ∀ inner, sizeOf inner < sizeOf value → ∀ typeRef hash,
        encodeValue encoder inner typeRef = .ok hash → Accepted encoder typeRef inner :=
      fun inner hlt _ _ hin => ih _ (by omega) hin rfl
    cases typeRef with
    | custom name mustBeEnum mustBeStruct =>
      cases value with
      | object fields => exact accepted_custom h ih'
      | _ => cases h
    | array element =>
      cases value with
      | array elements =>
        rw [encodeValue, except_bind_eq_ok] at h
        obtain ⟨hashes, hh, -⟩ := h
        exact .array fun inner hin => accepted_element hh ih' inner hin
      | _ => cases h
    | merkleTree leaf =>
      cases value with
      | array elements =>
        rw [encodeValue] at h
        split_ifs at h
        rw [except_bind_eq_ok] at h
        obtain ⟨hashes, hh, -⟩ := h
        exact .merkleTree fun inner hin => accepted_element hh ih' inner hin
      | _ => cases h
    | _ => exact accepted_of_encodePrimitive hen rfl (encodePrimitive_of_encodeValue rfl h)

end

/-! ## The document -/

lemma visitSeq_eq_true {elements : List Json} (h : visitSeq elements = true) :
    ∀ element ∈ elements, rejectDuplicateKeys element = true := by
  induction elements with
  | nil => simp
  | cons element elements ih =>
    rw [visitSeq, Bool.and_eq_true] at h
    exact List.forall_mem_cons.mpr ⟨h.1, ih h.2⟩

lemma visitMap_eq_true {keys : List String} {entries : List (String × Json)}
    (h : visitMap keys entries = true) :
    (entries.map Prod.fst).Nodup ∧ (∀ entry ∈ entries, entry.1 ∉ keys) ∧
      ∀ entry ∈ entries, rejectDuplicateKeys entry.2 = true := by
  induction entries generalizing keys with
  | nil => simp
  | cons entry entries ih =>
    obtain ⟨key, value⟩ := entry
    rw [visitMap] at h
    split_ifs at h with hkey
    rw [Bool.and_eq_true] at h
    obtain ⟨hn, hf, hv⟩ := ih h.2
    rw [List.contains_iff_mem] at hkey
    refine ⟨?_, ?_, List.forall_mem_cons.mpr ⟨h.1, hv⟩⟩
    · rw [List.map_cons, List.nodup_cons]
      refine ⟨?_, hn⟩
      intro hmem
      obtain ⟨entry, hen, hnm⟩ := List.mem_map.mp hmem
      exact hf entry hen (by simp [hnm])
    · rw [List.forall_mem_cons]
      refine ⟨hkey, ?_⟩
      intro entry hen hmem
      exact hf entry hen (List.mem_cons_of_mem _ hmem)

/-- What is relied on of the reference decoders: they keep the keys of objects and the elements of
arrays, and the message of a document. -/
structure DecodesValues [StarknetCore] : Prop where
  object : ∀ {entries value}, StarknetCore.valueFromJson (.object entries) = some value →
    ∃ fields written, value = .object fields ∧ written.Perm entries ∧
      List.Forall₂ (fun entry field => field.1 = entry.1 ∧
        StarknetCore.valueFromJson entry.2 = some field.2) written fields
  array : ∀ {elements value}, StarknetCore.valueFromJson (.array elements) = some value →
    ∃ values, value = .array values ∧
      List.Forall₂ (fun element value => StarknetCore.valueFromJson element = some value)
        elements values
  scalar : ∀ {json value}, (∀ entries, json ≠ .object entries) →
    (∀ elements, json ≠ .array elements) → StarknetCore.valueFromJson json = some value →
    value.isScalar = true
  message : ∀ {json typedData}, StarknetCore.typedDataFromJson json = some typedData →
    ∃ message, json.get "message" = some message ∧
      StarknetCore.valueFromJson message = some typedData.message

section

variable [StarknetCore]

lemma keys_of_forall₂ {entries : List (String × Json)} {fields : List (String × Value)}
    (h : List.Forall₂ (fun entry field => field.1 = entry.1 ∧
    StarknetCore.valueFromJson entry.2 = some field.2) entries fields) :
    fields.map Prod.fst = entries.map Prod.fst ∧ ∀ field ∈ fields, ∃ entry ∈ entries,
      StarknetCore.valueFromJson entry.2 = some field.2 := by
  induction h with
  | nil => simp
  | cons hh _ ih =>
    rw [List.map_cons, List.map_cons, hh.1, ih.1]
    refine ⟨rfl, List.forall_mem_cons.mpr ⟨⟨_, List.mem_cons_self, hh.2⟩, ?_⟩⟩
    intro field hf
    obtain ⟨entry, hen, hv⟩ := ih.2 field hf
    exact ⟨entry, List.mem_cons_of_mem _ hen, hv⟩

lemma mem_of_forall₂ {elements : List Json} {values : List Value}
    (h : List.Forall₂ (fun element value => StarknetCore.valueFromJson element = some value)
    elements values) :
    ∀ value ∈ values, ∃ element ∈ elements, StarknetCore.valueFromJson element = some value := by
  induction h with
  | nil => simp
  | cons hh _ ih =>
    refine List.forall_mem_cons.mpr ⟨⟨_, List.mem_cons_self, hh⟩, ?_⟩
    intro value hv
    obtain ⟨element, hel, hd⟩ := ih value hv
    exact ⟨element, List.mem_cons_of_mem _ hel, hd⟩

lemma distinctKeys_of_json (hd : DecodesValues) {json : Json} {value : Value}
    (hj : rejectDuplicateKeys json = true)
    (hv : StarknetCore.valueFromJson json = some value) : DistinctKeys value := by
  induction hs : sizeOf json using Nat.strong_induction_on generalizing json value with
  | _ n ih =>
    cases json with
    | object entries =>
      obtain ⟨fields, written, rfl, hp, hf⟩ := hd.object hv
      obtain ⟨hk, hvl⟩ := keys_of_forall₂ hf
      obtain ⟨hn, -, hen⟩ := visitMap_eq_true hj
      refine .object ?_ ?_
      · rw [hk]
        exact (hp.map Prod.fst).nodup_iff.mpr hn
      · intro field hfl
        obtain ⟨entry, het, hdc⟩ := hvl field hfl
        have hmem := hp.mem_iff.mp het
        refine ih (sizeOf entry.2) ?_ (hen entry hmem) hdc rfl
        have hlt := List.sizeOf_lt_of_mem hmem
        obtain ⟨key, inner⟩ := entry
        simp only [Json.object.sizeOf_spec, Prod.mk.sizeOf_spec] at hs hlt ⊢
        omega
    | array elements =>
      obtain ⟨values, rfl, hvl⟩ := hd.array hv
      refine .array ?_
      intro inner hin
      obtain ⟨element, hel, hdc⟩ := mem_of_forall₂ hvl inner hin
      refine ih (sizeOf element) ?_ (visitSeq_eq_true hj element hel) hdc rfl
      have hlt := List.sizeOf_lt_of_mem hel
      simp only [Json.array.sizeOf_spec] at hs
      omega
    | _ => exact .scalar (hd.scalar (by simp) (by simp) hv)

end

lemma rejectDuplicateKeys_of_lookup {entries : List (String × Json)} {key : String} {value : Json}
    (hj : rejectDuplicateKeys (.object entries) = true) (h : entries.lookup key = some value) :
    rejectDuplicateKeys value = true := by
  obtain ⟨-, -, hen⟩ := visitMap_eq_true hj
  exact hen _ (mem_of_lookup h)

lemma rejectDuplicateKeys_message {json : Json} {envelope : CanonicalTypedDataEnvelope}
    (hj : rejectDuplicateKeys json = true) (hen : envelopeFromJson json = some envelope) :
    rejectDuplicateKeys envelope.message = true := by
  match json with
  | .object entries =>
    simp only [envelopeFromJson, Option.bind_eq_bind, Option.bind_eq_some_iff,
      Option.pure_def, Option.some.injEq] at hen
    obtain ⟨-, -, types, -, domain, -, primaryType, -, message, hm, rfl⟩ := hen
    exact rejectDuplicateKeys_of_lookup hj hm
  | .array [types, domain, primaryType, message] =>
    simp only [envelopeFromJson, Option.bind_eq_bind, Option.bind_eq_some_iff,
      Option.pure_def, Option.some.injEq] at hen
    obtain ⟨domain', -, rfl⟩ := hen
    exact visitSeq_eq_true hj message (by simp)
  | .array [] | .array [_] | .array [_, _] | .array [_, _, _] | .array (_ :: _ :: _ :: _ :: _ :: _)
  | .null | .bool _ | .posInt _ | .negInt _ | .float _ | .string _ => cases hen

lemma message_strip (envelope : CanonicalTypedDataEnvelope) :
    (stripLegacyRevisionField envelope).1.message = envelope.message := by
  unfold stripLegacyRevisionField
  split_ifs
  · split
    · split_ifs
      · rfl
      · rfl
    · rfl
  · rfl

/-! ## The message -/

namespace DecodedDocument

def MessageKeysHashed (document : DecodedDocument) : Prop :=
  if document.typedData.primaryType.isDomain (domainName document.encoder.revision) then
    ∃ fields, document.typedData.message = .object fields ∧
      ∀ entry ∈ fields, entry.1 ∈ document.definition.names ∧ entry.2.isScalar = true
  else KeysHashed document.encoder document.typedData.primaryType document.typedData.message

def EncodesStructIn (document : DecodedDocument) (definition : StructDefinition) : Prop :=
  if document.typedData.primaryType.isDomain (domainName document.encoder.revision) then
    definition = document.definition
  else
    EncodesStruct document.encoder document.typedData.primaryType document.typedData.message
      definition

end DecodedDocument

lemma domainDefinition_names_nodup (revision : Revision) (legacyRevisionField : Bool) :
    (domainDefinition revision legacyRevisionField).names.Nodup := by
  cases revision <;> cases legacyRevisionField <;> decide

lemma structDefinition_domain {revision : Revision} {legacyRevisionField : Bool} :
    ∀ field ∈ (domainDefinition revision legacyRevisionField).fields,
      structDefinition encoder field.type = none ∧ field.type.isComposite = false := by
  have ht : ∀ field ∈ (domainDefinition revision legacyRevisionField).fields,
      field.type = .felt ∨ field.type = .shortString := by
    cases revision <;> cases legacyRevisionField <;> decide
  intro field hf
  rcases ht field hf with h | h
  · rw [h]
    exact ⟨rfl, rfl⟩
  · rw [h]
    exact ⟨rfl, rfl⟩

lemma Accepted.isScalar
    (h : Accepted encoder typeRef value) (hs : structDefinition encoder typeRef = none)
    (hc : typeRef.isComposite = false) : value.isScalar = true := by
  cases h with
  | scalar hsc => exact hsc
  | struct hs' =>
    rw [hs] at hs'
    cases hs'
  | enum | array | merkleTree => cases hc

section

variable [StarknetCore] [Pedersen] [Poseidon] [PoseidonPair] [StarknetKeccak]

lemma domain_keysHashed (henc : ChecksPresets encoder) {legacyRevisionField : Bool}
    {value : Value} {hash : Felt} (hd : DistinctKeys value)
    (h : encodeDomain encoder (domainDefinition encoder.revision legacyRevisionField) value
    legacyRevisionField = .ok hash) :
    ∃ fields, value = .object fields ∧ ∀ entry ∈ fields,
      entry.1 ∈ (domainDefinition encoder.revision legacyRevisionField).names ∧
        entry.2.isScalar = true := by
  rw [encodeDomain, except_bind_eq_ok] at h
  obtain ⟨signature, -, h⟩ := h
  cases value with
  | object fields =>
    refine ⟨fields, rfl, ?_⟩
    obtain ⟨hc, hfl⟩ := encodeStruct_ok h
    cases hd with
    | scalar hs => cases hs
    | object hnd _ =>
      have hnm : ∀ name ∈ (domainDefinition encoder.revision legacyRevisionField).names,
          name ∈ fields.map Prod.fst := by
        intro name hn
        obtain ⟨field, hf, rfl⟩ := List.mem_map.mp hn
        obtain ⟨inner, innerHash, hin, -⟩ := hfl field hf
        exact mem_keys_of_lookup hin
      have hk := (keys_named_iff_nodup hnd hc hnm).mpr
        (domainDefinition_names_nodup _ _)
      intro entry hen
      have hn := hk entry.1 (List.mem_map.mpr ⟨entry, hen, rfl⟩)
      refine ⟨hn, ?_⟩
      obtain ⟨field, hf, hfn⟩ := List.mem_map.mp hn
      obtain ⟨inner, innerHash, hin, hec⟩ := hfl field hf
      rw [hfn, lookup_of_mem hnd hen, Option.some.injEq] at hin
      obtain ⟨hst, hcm⟩ := structDefinition_domain field hf
      rw [← hin] at hec
      exact (accepted_of_encodeValue henc hec).isScalar hst hcm
  | _ => cases h

lemma encodeMessage_of_messageHash {document : DecodedDocument} {address hash : Felt}
    (h : document.messageHash address = .ok hash) :
    ∃ messageHash, document.encodeMessage = .ok messageHash := by
  unfold DecodedDocument.messageHash at h
  rw [except_bind_eq_ok] at h
  obtain ⟨fields, -, h⟩ := h
  split_ifs at h
  rw [except_bind_eq_ok] at h
  obtain ⟨domainValue, -, h⟩ := h
  rw [except_bind_eq_ok] at h
  obtain ⟨domainHash, -, h⟩ := h
  rw [except_bind_eq_ok] at h
  obtain ⟨messageHash, hm, -⟩ := h
  exact ⟨messageHash, hm⟩

variable [SerdeJson]

omit [Pedersen] [Poseidon] [PoseidonPair] [StarknetKeccak] in
lemma distinctKeys_message (hd : DecodesValues) {typedDataJson : String}
    {document : DecodedDocument} (h : decodeDocument typedDataJson = .ok document) :
    DistinctKeys document.typedData.message ∧
      ∃ json, StarknetCore.typedDataFromJson json = some document.typedData := by
  unfold decodeDocument at h
  split_ifs at h
  rw [except_bind_eq_ok] at h
  obtain ⟨json, -, h⟩ := h
  by_cases hr : rejectDuplicateKeys json = true
  · simp only [hr, Bool.not_true, Bool.false_eq_true, if_false] at h
    rw [except_bind_eq_ok] at h
    obtain ⟨envelope, hen, h⟩ := h
    rw [orInvalid_eq_ok] at hen
    rw [except_bind_eq_ok] at h
    obtain ⟨domainType, -, h⟩ := h
    rw [except_bind_eq_ok] at h
    obtain ⟨typedData, ht, h⟩ := h
    rw [orInvalid_eq_ok] at ht
    injection h with h
    subst h
    refine ⟨?_, _, ht⟩
    obtain ⟨message, hm, hdc⟩ := hd.message ht
    -- the decoder sees the message of the document
    have heq : message = envelope.message := by
      rw [← message_strip envelope]
      exact (Option.some.inj hm).symm
    rw [heq] at hdc
    exact distinctKeys_of_json hd (rejectDuplicateKeys_message hr hen) hdc
  · simp [hr] at h

/-- **The keys of an accepted message are signed exactly when its struct types name each field
once.** The reference crate is relied on to keep the keys of a document, and to check the
objects of the preset types. -/
theorem messageKeysHashed_iff (hdecoders : DecodesValues)
    (hpresets : ∀ json typedData, StarknetCore.typedDataFromJson json = some typedData →
    ChecksPresets typedData.encoder) {typedDataJson : String} {address hash : Felt}
    (h : computeTypedDataMessageHash typedDataJson address = .ok hash) :
    ∃ document, decodeDocument typedDataJson = .ok document ∧
      (document.MessageKeysHashed ↔
        ∀ definition, document.EncodesStructIn definition → definition.names.Nodup) := by
  rw [computeTypedDataMessageHash, except_bind_eq_ok] at h
  obtain ⟨document, hd, hh⟩ := h
  refine ⟨document, hd, ?_⟩
  obtain ⟨hds, json, ht⟩ := distinctKeys_message hdecoders hd
  have hen := hpresets json _ ht
  obtain ⟨messageHash, hm⟩ := encodeMessage_of_messageHash hh
  unfold DecodedDocument.MessageKeysHashed DecodedDocument.EncodesStructIn
  unfold DecodedDocument.encodeMessage at hm
  by_cases hdm :
      document.typedData.primaryType.isDomain (domainName document.encoder.revision) = true
  · simp only [hdm, if_true] at hm ⊢
    refine iff_of_true (domain_keysHashed hen hds hm) ?_
    intro definition hdf
    rw [hdf]
    exact domainDefinition_names_nodup _ _
  · simp only [hdm] at hm ⊢
    exact keysHashed_iff (accepted_of_encodeValue hen hm) hds

end

/-! ## Documents -/

section Sample

mutual

def sampleValue : Json → Option Value
  | .bool value => some (.boolean value)
  | .posInt value => some (.unsignedInteger (BitVec.ofNat 128 value.toNat))
  | .negInt value => some (.signedInteger value)
  | .string text => some (.string text)
  | .array elements => (sampleElements elements).map .array
  | .object entries => (sampleFields entries).map .object
  | .null | .float _ => none

def sampleElements : List Json → Option (List Value)
  | [] => some []
  | element :: elements => (sampleValue element).bind fun value =>
      (sampleElements elements).map (value :: ·)

def sampleFields : List (String × Json) → Option (List (String × Value))
  | [] => some []
  | (key, entry) :: entries => (sampleValue entry).bind fun value =>
      (sampleFields entries).map ((key, value) :: ·)

end

lemma sampleElements_forall₂ {elements : List Json} {values : List Value}
    (h : sampleElements elements = some values) :
    List.Forall₂ (fun element value => sampleValue element = some value) elements values := by
  induction elements generalizing values with
  | nil =>
    obtain rfl := Option.some.inj h
    exact .nil
  | cons element elements ih =>
    simp only [sampleElements, Option.bind_eq_some_iff, Option.map_eq_some_iff] at h
    obtain ⟨value, hv, values', hvl, rfl⟩ := h
    exact .cons hv (ih hvl)

lemma sampleFields_forall₂ {entries : List (String × Json)} {fields : List (String × Value)}
    (h : sampleFields entries = some fields) :
    List.Forall₂ (fun entry field => field.1 = entry.1 ∧ sampleValue entry.2 = some field.2)
      entries fields := by
  induction entries generalizing fields with
  | nil =>
    obtain rfl := Option.some.inj h
    exact .nil
  | cons entry entries ih =>
    obtain ⟨key, json⟩ := entry
    simp only [sampleFields, Option.bind_eq_some_iff, Option.map_eq_some_iff] at h
    obtain ⟨value, hv, fields', hf, rfl⟩ := h
    exact .cons ⟨rfl, hv⟩ (ih hf)

def sampleEncoder (second : String) : Encoder where
  revision := .v0
  types :=
    { getType name := if name = "Order" then
        some (.struct ⟨[⟨"amount", .felt⟩, ⟨second, .felt⟩]⟩) else none
      getTypeHash name := if name = "Order" then
        [("amount", 0x1cd8fe1b70f7b85ae373387aa70d4cd2ddd6873a43483c23a9ab05d65974be2),
          ("recipient", 0x211cba97235fd86fbc93d67fa2bec184b3a5a1006daa63a5e60d4a73ade78b7)].lookup
          second
        else none }
  encodeValue
    | .felt, .string text => [("1", 1), ("2", 2), ("Shop", 0x53686f70),
        ("SN_SEPOLIA", 0x534e5f5345504f4c4941)].lookup text
    | _, _ => none

lemma sampleEncoder_checksPresets (second : String) : ChecksPresets (sampleEncoder second) where
  preset hp h := by
    rename_i typeRef definition value hash
    cases typeRef with
    | u256 | tokenAmount | nftId => cases h
    | _ => cases hp
  scalar hp hc h := by
    rename_i typeRef value hash
    cases value with
    | object | array =>
      cases typeRef with
      | _ => cases h
    | _ => rfl

@[reducible] def sampleCore (second : String) : StarknetCore where
  typedDataFromJson json := (json.get "message").bind fun message =>
    (sampleValue message).map fun value =>
      ⟨sampleEncoder second, .custom "Order" false false, value⟩
  valueFromJson := sampleValue
  feltFromHex _ := none

lemma sampleCore_decodesValues (second : String) : @DecodesValues (sampleCore second) := by
  let := sampleCore second
  constructor
  case object =>
    intro entries value h
    obtain ⟨fields, hf, rfl⟩ := Option.map_eq_some_iff.mp h
    exact ⟨fields, entries, rfl, .refl _, sampleFields_forall₂ hf⟩
  case array =>
    intro elements value h
    obtain ⟨values, hv, rfl⟩ := Option.map_eq_some_iff.mp h
    exact ⟨values, rfl, sampleElements_forall₂ hv⟩
  case scalar =>
    intro json value ho ha h
    cases json with
    | object entries => exact absurd rfl (ho entries)
    | array elements => exact absurd rfl (ha elements)
    | null | float => cases h
    | bool | posInt | negInt | string =>
      obtain rfl := Option.some.inj h
      rfl
  case message =>
    intro json typedData h
    obtain ⟨message, hm, h⟩ := Option.bind_eq_some_iff.mp h
    obtain ⟨value, hvl, rfl⟩ := Option.map_eq_some_iff.mp h
    exact ⟨message, hm, hvl⟩

@[reducible] def samplePedersen : Pedersen := tablePedersen (
  chainTable 0 [
    (0x1bfc207425a47a5dfa1a50a4f5241203f50624ca5fdf5e18755765416b8e288,
      0x13d41f388b8ea4db56c5aa6562f13359fab192b3db57651af916790f9debee9),
    (0x53686f70, 0x6853337dfd6269d54ee3985f8e69b2acaae2afc9b0f5bfe203edb7923baab6),
    (0x1, 0x3ef168ac10446a1285d1247d4a1e44c9a2ec5931759413aabffac8e1db21191),
    (0x534e5f5345504f4c4941, 0x6606079c8b224840410ae58581594d65263053e79d15af11387be6f479a474e),
    (0x4, 0x6051c5bb0e1ee8ab9e92a33cd6bfb4a302ae481ca02ddf3cb4f563968f205a)] ++
  chainTable 0 [
    (0x1cd8fe1b70f7b85ae373387aa70d4cd2ddd6873a43483c23a9ab05d65974be2,
      0x62fa93c194a45869db84173d0c7b24a1373282da316416aefed1d39fca43fad),
    (0x1, 0x5ecbfcfd2131f7cba09c2e813a8d9f2549aecd35dabf2b644e6fa2e128a2c08),
    (0x1, 0x5ee67f1c901a25971c77e45f613253f8ad6fb8c3907b4100debf7488e548d9e),
    (0x3, 0x7713a5f72394a567b2e0e889fb843eeca9139d7c4ee27d06d748461d73fdfa)] ++
  chainTable 0 [
    (0x537461726b4e6574204d657373616765,
      0x3eda2b491ae6582dcc091d1e2c3e45428243c9a39d2f1757ef5dfe3afe58f57),
    (0x6051c5bb0e1ee8ab9e92a33cd6bfb4a302ae481ca02ddf3cb4f563968f205a,
      0x397d425bcdc8e8a031be3b118bcbe74e5d921a4e0354a86df09859c49b7c6fe),
    (0x1234, 0x949b74468953779d2b8282ac54443cd2c1bf738f6adc85ce97e48ee13c6a7a),
    (0x7713a5f72394a567b2e0e889fb843eeca9139d7c4ee27d06d748461d73fdfa,
      0x6559409950a9d0c8cb906efa2b308e5a6deabc71c0b1cf83adefd5bcf690268),
    (0x4, 0x9ff261287478da78d694e0df85d597c5fecaef54020f9595e3659389751e4c)] ++
  chainTable 0 [
    (0x211cba97235fd86fbc93d67fa2bec184b3a5a1006daa63a5e60d4a73ade78b7,
      0x682473806d08acf2e074d105f00dc28ff36f360af2d4e3fb4484e314b0c9ca3),
    (0x1, 0x25d3e9febb3fb12cd8289f5e0314d3ea0045c730d8c4fa9744f3861de929b3e),
    (0x2, 0x66045ce341c7e2b38d51cb36da9de2571411059c75ec71bd12c5517aba8f06f),
    (0x3, 0xffa02b1a29d428a7d3095834e0a835a5187f779e560b0efc58f772f7a148b3)] ++
  chainTable 0x949b74468953779d2b8282ac54443cd2c1bf738f6adc85ce97e48ee13c6a7a [
    (0xffa02b1a29d428a7d3095834e0a835a5187f779e560b0efc58f772f7a148b3,
      0x35822c9fae2abd9befe5650c4ce5d2f98e4707082573cd007bd58588fddcb61),
    (0x4, 0x55fe0a9f91efb98baaf31194ec90c021c3caae481b15e39431b5220354fab70)])

@[reducible] def sampleKeccak : StarknetKeccak := tableStarknetKeccak
  [(utf8 "StarkNetDomain(name:felt,version:felt,chainId:felt)",
    0x1bfc207425a47a5dfa1a50a4f5241203f50624ca5fdf5e18755765416b8e288)]

@[reducible] def samplePoseidon : Poseidon := tablePoseidon []

@[reducible] def samplePoseidonPair : PoseidonPair where
  hash _ _ := 0

def sampleField (name : String) : Json :=
  .object [("name", .string name), ("type", .string "felt")]

def sampleJson (second : String) : Json :=
  .object [
    ("types", .object [
      ("StarkNetDomain", .array [sampleField "name", sampleField "version", sampleField "chainId"]),
      ("Order", .array [sampleField "amount", sampleField second])]),
    ("primaryType", .string "Order"),
    ("domain", .object [("name", .string "Shop"), ("version", .string "1"),
      ("chainId", .string "SN_SEPOLIA")]),
    ("message", .object [("amount", .string "1"), ("recipient", .string "2")])]

def sampleText (second : String) : String :=
  "\x7b\"types\":\x7b\"StarkNetDomain\":[\x7b\"name\":\"name\",\"type\":\"felt\"\x7d," ++
  "\x7b\"name\":\"version\",\"type\":\"felt\"\x7d," ++
  "\x7b\"name\":\"chainId\",\"type\":\"felt\"\x7d]," ++
  "\"Order\":[\x7b\"name\":\"amount\",\"type\":\"felt\"\x7d,\x7b\"name\":\"" ++ second ++
  "\",\"type\":\"felt\"\x7d]\x7d,\"primaryType\":\"Order\"," ++
  "\"domain\":\x7b\"name\":\"Shop\",\"version\":\"1\",\"chainId\":\"SN_SEPOLIA\"\x7d," ++
  "\"message\":\x7b\"amount\":\"1\",\"recipient\":\"2\"\x7d\x7d"

@[reducible] def sampleSerdeJson (second : String) : SerdeJson where
  parse text := if text = sampleText second then some (sampleJson second) else none

attribute [local instance] samplePedersen sampleKeccak samplePoseidon samplePoseidonPair

def sampleDocument (second : String) : DecodedDocument where
  typedData := ⟨sampleEncoder second, .custom "Order" false false,
    .object [("amount", .string "1"), ("recipient", .string "2")]⟩
  domainType := .array [sampleField "name", sampleField "version", sampleField "chainId"]
  domain := ⟨.string "Shop", .string "1", .string "SN_SEPOLIA", none⟩
  legacyRevisionField := false

lemma decodeDocument_sample {second : String}
    (hl : (utf8 (sampleText second)).length ≤ maxTypedDataJsonBytes) :
    @decodeDocument (sampleCore second) (sampleSerdeJson second) (sampleText second) =
      .ok (sampleDocument second) := by
  let := sampleCore second
  let := sampleSerdeJson second
  have hp : SerdeJson.parse (sampleText second) = some (sampleJson second) := if_pos rfl
  have hr : rejectDuplicateKeys (sampleJson second) = true := by
    exact of_decide_eq_true rfl
  unfold decodeDocument
  rw [if_neg (by omega), except_bind_eq_ok]
  refine ⟨sampleJson second, orInvalid_eq_ok.mpr hp, ?_⟩
  rw [hr]
  rfl

lemma messageHash_sample_amount :
    @DecodedDocument.messageHash (sampleCore "amount") _ _ _ _ (sampleDocument "amount") 0x1234 =
      .ok 0x9ff261287478da78d694e0df85d597c5fecaef54020f9595e3659389751e4c := by
  decide +kernel

lemma messageHash_sample_recipient :
    @DecodedDocument.messageHash (sampleCore "recipient") _ _ _ _ (sampleDocument "recipient")
      0x1234 = .ok 0x55fe0a9f91efb98baaf31194ec90c021c3caae481b15e39431b5220354fab70 := by
  decide +kernel

/-- A type that names `amount` twice takes an order that shows a recipient, and leaves the
recipient out of what is signed. -/
theorem recipient_not_hashed :
    letI := sampleCore "amount"
    letI := sampleSerdeJson "amount"
    computeTypedDataMessageHash (sampleText "amount") 0x1234 =
      .ok 0x9ff261287478da78d694e0df85d597c5fecaef54020f9595e3659389751e4c ∧
    ∃ document, decodeDocument (sampleText "amount") = .ok document ∧
      ¬ document.MessageKeysHashed := by
  let := sampleCore "amount"
  let := sampleSerdeJson "amount"
  have hd := @decodeDocument_sample "amount" (by decide +kernel)
  refine ⟨?_, sampleDocument "amount", hd, ?_⟩
  · exact except_bind_eq_ok.mpr ⟨_, hd, messageHash_sample_amount⟩
  · intro hashed
    cases hashed with
    | scalar hs => cases hs
    | struct hst hk _ =>
      obtain rfl := Option.some.inj hst
      exact absurd (hk "recipient" (by decide)) (by decide)

theorem sampleDocument_keysHashed :
    letI := sampleCore "recipient"
    letI := sampleSerdeJson "recipient"
    computeTypedDataMessageHash (sampleText "recipient") 0x1234 =
      .ok 0x55fe0a9f91efb98baaf31194ec90c021c3caae481b15e39431b5220354fab70 ∧
    ∃ document, decodeDocument (sampleText "recipient") = .ok document ∧
      (document.MessageKeysHashed ↔
        ∀ definition, document.EncodesStructIn definition → definition.names.Nodup) := by
  let := sampleCore "recipient"
  let := sampleSerdeJson "recipient"
  have hh : computeTypedDataMessageHash (sampleText "recipient") 0x1234 =
      .ok 0x55fe0a9f91efb98baaf31194ec90c021c3caae481b15e39431b5220354fab70 :=
    except_bind_eq_ok.mpr
      ⟨_, @decodeDocument_sample "recipient" (by decide +kernel), messageHash_sample_recipient⟩
  refine ⟨hh, messageKeysHashed_iff (sampleCore_decodesValues "recipient") ?_ hh⟩
  intro json typedData h
  obtain ⟨message, -, h⟩ := Option.bind_eq_some_iff.mp h
  obtain ⟨value, -, rfl⟩ := Option.map_eq_some_iff.mp h
  exact sampleEncoder_checksPresets "recipient"

end Sample

end KrustyKms.TypedData

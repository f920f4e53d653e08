import KrustyKms.Common.FeltText
import KrustyKms.Common.Serde
import KrustyKms.Crypto.CurveTheorems

/-!
# The C interface: status codes, texts and documents

The functions of the interface take and return JSON documents; an error is one of the status
codes.
-/

namespace KrustyKms.Ffi

open Codec Crypto

/-- What a function of the interface returns, or its status code. -/
abbrev Status (α : Type) := Except Int32 α

def kmsErrInvalidInput : Int32 := 2
def kmsErrCrypto : Int32 := 4
def kmsErrInternal : Int32 := 5
def kmsErrJson : Int32 := 7

def readJson [SerdeJson] {α : Type} (decode : Json → Option α) (text : String) : Status α :=
  match (SerdeJson.parse text).bind decode with
  | some value => .ok value
  | none => .error kmsErrJson

lemma readJson_write [SerdeJson] (hj : SerdeJson.Exact) {α : Type} {decode : Json → Option α}
    {json : Json} {value : α} (hp : json.plain serdeJsonDepth = true)
    (hd : decode json = some value) : readJson decode json.write = .ok value := by
  unfold readJson
  rw [hj _ hp, Option.bind_some, hd]

def parseU128 (text : String) : Status ℕ :=
  let digits := match text.toList with
    | '+' :: digits => digits
    | digits => digits
  if digits ≠ [] ∧ digits.all Char.isDigit ∧ decimalValue digits < 2 ^ 128 then
    .ok (decimalValue digits)
  else .error kmsErrInvalidInput

def fromAffine {Point : Type} [CurvePoint Point] (x y : Felt) : Status Point :=
  match CurvePoint.fromAffine x y with
  | some point => .ok point
  | none => .error kmsErrInvalidInput

section Felts

variable [FeltParser]

def parseFelt (text : String) : Status Felt :=
  (FeltParser.fromHex text).mapError fun _ => kmsErrInvalidInput

def parsePublicKey {Point : Type} [CurvePoint Point] (hex : String) : Status Point := do
  let (x, y) ← (parsePrefixedPublicKeyHex (trim hex)).mapError fun _ => kmsErrInvalidInput
  fromAffine x y

def normalizeHexString (text : String) : Option String :=
  match text.toList with
  | '0' :: x :: digits =>
    if (x = 'x' ∨ x = 'X') ∧ digits ≠ [] ∧ digits.all isHexDigit then
      (FeltParser.fromHex text).toOption.map Felt.toFixedHex
    else none
  | _ => none

mutual

def normalizeHexJson : Json → Json
  | .string text => .string ((normalizeHexString text).getD text)
  | .array elements => .array (normalizeHexElements elements)
  | .object entries => .object (normalizeHexEntries entries)
  | json => json

def normalizeHexElements : List Json → List Json
  | [] => []
  | element :: elements => normalizeHexJson element :: normalizeHexElements elements

def normalizeHexEntries : List (String × Json) → List (String × Json)
  | [] => []
  | (key, value) :: entries => (key, normalizeHexJson value) :: normalizeHexEntries entries

end

def canonical (json : Json) : Json := normalizeHexJson json.toValue

def toDeterministicJson (json : Json) : String := (canonical json).write

/-! ## Canonical documents -/

lemma normalizeHexElements_eq (elements : List Json) :
    normalizeHexElements elements = elements.map normalizeHexJson := by
  induction elements with
  | nil => rfl
  | cons element elements ih => rw [normalizeHexElements, ih, List.map_cons]

lemma normalizeHexEntries_eq (entries : List (String × Json)) :
    normalizeHexEntries entries = entries.map fun entry => (entry.1, normalizeHexJson entry.2) := by
  induction entries with
  | nil => rfl
  | cons entry entries ih => rw [normalizeHexEntries, ih, List.map_cons]

lemma canonical_array (elements : List Json) :
    canonical (.array elements) = .array (elements.map canonical) := by
  rw [canonical, Json.toValue, normalizeHexJson, Json.toValueElements_eq, normalizeHexElements_eq,
    List.map_map]
  rfl

lemma exists_canonical_object (entries : List (String × Json)) :
    ∃ sorted, canonical (.object entries) = .object sorted ∧
      sorted.Perm (entries.map fun entry => (entry.1, canonical entry.2)) := by
  refine ⟨_, by rw [canonical, Json.toValue, normalizeHexJson, normalizeHexEntries_eq], ?_⟩
  have hs : (Json.sortKeys (Json.toValueEntries entries)).Perm
      (entries.map fun entry => (entry.1, entry.2.toValue)) := by
    rw [← Json.toValueEntries_eq]
    exact List.perm_insertionSort _ _
  have hm := hs.map fun entry => (entry.1, normalizeHexJson entry.2)
  rw [List.map_map] at hm
  exact hm

lemma fieldsOf_canonical_bind {names : List String} {entries : List (String × Json)} {α : Type}
    {decode : (String → Option Json) → Option α} {value : α}
    (hn : entries.map Prod.fst = names) (hnd : names.Nodup) (h : ∀ field : String → Option Json,
    (∀ entry ∈ entries, field entry.1 = some (canonical entry.2)) → decode field = some value) :
    ((canonical (.object entries)).fieldsOf names >>= decode) = some value := by
  obtain ⟨sorted, hc, hp⟩ := exists_canonical_object entries
  rw [hc]
  refine Json.fieldsOf_bind hp (by rw [List.map_map]; exact hn) hnd ?_
  intro field hf
  rw [List.forall_mem_map] at hf
  exact h field hf

-- the levels of a document are those of its parts
mutual

lemma plain_canonical : ∀ (json : Json) (depth : ℕ), json.plain depth = true →
    (canonical json).plain depth = true
  | .array elements, depth + 1, h => by
    rw [Json.plain] at h
    rw [canonical_array, Json.plain]
    exact plainElements_canonical elements depth h
  | .object entries, depth + 1, h => by
    obtain ⟨sorted, hc, hp⟩ := exists_canonical_object entries
    rw [Json.plain] at h
    have hv := plainEntries_canonical entries depth h
    rw [Json.plainEntries_iff] at hv
    rw [hc, Json.plain, Json.plainEntries_iff]
    intro entry hen
    exact hv entry (hp.mem_iff.mp hen)
  | .null, _, h => h
  | .bool _, _, h => h
  | .posInt _, _, h => h
  | .negInt _, _, h => h
  | .float _, _, h => h
  | .string _, _, _ => by simp [canonical, Json.toValue, normalizeHexJson, Json.plain]
  | .array _, 0, h => absurd h (by simp [Json.plain])
  | .object _, 0, h => absurd h (by simp [Json.plain])

lemma plainElements_canonical : ∀ (elements : List Json) (depth : ℕ),
    Json.plainElements depth elements = true →
    Json.plainElements depth (elements.map canonical) = true
  | [], _, h => h
  | element :: elements, depth, h => by
    rw [Json.plainElements, Bool.and_eq_true] at h
    rw [List.map_cons, Json.plainElements, Bool.and_eq_true]
    exact ⟨plain_canonical element depth h.1, plainElements_canonical elements depth h.2⟩

lemma plainEntries_canonical : ∀ (entries : List (String × Json)) (depth : ℕ),
    Json.plainEntries depth entries = true →
    Json.plainEntries depth (entries.map fun entry => (entry.1, canonical entry.2)) = true
  | [], _, h => h
  | (_, value) :: entries, depth, h => by
    rw [Json.plainEntries, Bool.and_eq_true] at h
    rw [List.map_cons, Json.plainEntries, Bool.and_eq_true]
    exact ⟨plain_canonical value depth h.1, plainEntries_canonical entries depth h.2⟩

end

lemma readJson_toDeterministicJson [SerdeJson] (hj : SerdeJson.Exact) {α : Type}
    {decode : Json → Option α} {json : Json} {value : α}
    (hp : json.plain serdeJsonDepth = true) (hd : decode (canonical json) = some value) :
    readJson decode (toDeterministicJson json) = .ok value :=
  readJson_write hj (plain_canonical json _ hp) hd

/-! ## Texts -/

lemma normalizeHexString_numeral {digits : List Char} {felt : Felt} (hne : digits ≠ [])
    (hd : ∀ c ∈ digits, isHexDigit c = true)
    (hr : FeltParser.fromHex ("0x" ++ String.ofList digits) = .ok felt) :
    normalizeHexString ("0x" ++ String.ofList digits) = some felt.toFixedHex := by
  unfold normalizeHexString
  rw [toList_numeral, hr]
  exact if_pos ⟨Or.inl rfl, hne, List.all_eq_true.mpr hd⟩

lemma canonical_string (text : String) :
    canonical (.string text) = .string ((normalizeHexString text).getD text) := by
  simp [canonical, Json.toValue, normalizeHexJson]

lemma canonical_toHex (hf : FeltParser.Exact) (felt : Felt) :
    canonical (.string felt.toHex) = .string felt.toFixedHex := by
  have hn : normalizeHexString felt.toHex = some felt.toFixedHex :=
    normalizeHexString_numeral (toDigits_ne_nil felt.val) (fun _ => isHexDigit_of_mem_toDigits)
      (hf.fromHex_toHex felt)
  rw [canonical_string, hn]
  rfl

lemma canonical_toFixedHex (hf : FeltParser.Exact) (felt : Felt) :
    canonical (.string felt.toFixedHex) = .string felt.toFixedHex := by
  have hne : felt.fixedDigits ≠ [] := by
    intro h
    have hl := FeltParser.length_fixedDigits felt
    rw [h] at hl
    cases hl
  have hn : normalizeHexString felt.toFixedHex = some felt.toFixedHex :=
    normalizeHexString_numeral hne (fun _ => FeltParser.isHexDigit_of_mem_fixedDigits)
      (hf.fromHex_toFixedHex felt)
  rw [canonical_string, hn]
  rfl

lemma canonical_encodeBytes (bytes : Bytes) :
    canonical (.string (encodeBytes bytes)) = .string (encodeBytes bytes) := by
  have hn : normalizeHexString (encodeBytes bytes) = none := by
    have hd : ∀ c ∈ (encodeBytes bytes).toList, (hexDigit c).isSome :=
      fun _ => isSome_hexDigit_of_mem
    unfold normalizeHexString
    split
    · rename_i x digits ht
      rw [ht, List.forall_mem_cons, List.forall_mem_cons] at hd
      rw [if_neg]
      intro h
      rcases h.1 with rfl | rfl
      · exact absurd hd.2.1 (by decide)
      · exact absurd hd.2.1 (by decide)
    · rfl
  rw [canonical_string, hn]
  rfl

omit [FeltParser] in
lemma fromAffine_coordinates {Point : Type} [CurvePoint Point] (a : AffinePoint Point) :
    (fromAffine a.x a.y : Status Point) = .ok (StarkCurve.affineToProjective a) := by
  have hp : CurvePoint.fromAffine a.x a.y = some (StarkCurve.affineToProjective a) :=
    (Option.some_get a.onCurve).symm
  unfold fromAffine
  rw [hp]

lemma parsePublicKey_publicKeyHex {Point : Type} [CurvePoint Point] (hf : FeltParser.Exact)
    (a : AffinePoint Point) :
    parsePublicKey (publicKeyHex a.x a.y) = .ok (StarkCurve.affineToProjective a) := by
  have ht : trim (publicKeyHex a.x a.y) = publicKeyHex a.x a.y := by
    apply trim_eq_self
    rw [publicKeyHex, toList_numeral, List.forall_mem_cons, List.forall_mem_cons,
      List.forall_mem_append]
    exact ⟨by decide, by decide,
      fun _ hc => isWhitespace_of_isHexDigit (FeltParser.isHexDigit_of_mem_fixedDigits hc),
      fun _ hc => isWhitespace_of_isHexDigit (FeltParser.isHexDigit_of_mem_fixedDigits hc)⟩
  unfold parsePublicKey
  rw [ht, parsePrefixedPublicKeyHex_publicKeyHex hf]
  exact fromAffine_coordinates a

end Felts

lemma parseU128_toString {n : ℕ} (h : n < 2 ^ 128) : parseU128 (toString n) = .ok n := by
  obtain ⟨hd, hv⟩ := toDigits_decimal n
  have ht : (toString n).toList = Nat.toDigits 10 n := String.toList_ofList
  have hs : (match Nat.toDigits 10 n with
      | '+' :: digits => digits
      | digits => digits) = Nat.toDigits 10 n := by
    split
    · rename_i digits hp
      rw [hp] at hd
      exact absurd (hd '+' List.mem_cons_self) (by decide)
    · rfl
  unfold parseU128
  rw [ht]
  dsimp only
  rw [hs, hv, if_pos ⟨Nat.toDigits_ne_nil, List.all_eq_true.mpr hd, h⟩]

end KrustyKms.Ffi

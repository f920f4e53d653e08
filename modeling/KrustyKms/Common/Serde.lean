import KrustyKms.Common.JsonText
import KrustyKms.Support.Fallible
import Mathlib.Data.List.Sort

/-!
# Structures as JSON documents

`Json.fieldsOf` is how `derive(Deserialize)` finds the fields of a structure, and `Json.toValue`
is what `serde_json::to_value` keeps of a document: its maps are sorted by their keys.
-/

namespace KrustyKms

namespace Json

/-- The fields of a structure, by their names. In an object none of them is there twice and the
other keys are ignored; an array holds all of them in their order. -/
def fieldsOf (names : List String) : Json → Option (String → Option Json)
  | object entries =>
    if ((entries.map Prod.fst).filter (· ∈ names)).Nodup then some fun name => entries.lookup name
    else none
  | array elements =>
    if elements.length = names.length then some fun name => (names.zip elements).lookup name
    else none
  | _ => none

/-- The same with `deny_unknown_fields`. -/
def strictFieldsOf (names : List String) (json : Json) : Option (String → Option Json) :=
  match json with
  | object entries => if ∀ entry ∈ entries, entry.1 ∈ names then json.fieldsOf names else none
  | _ => json.fieldsOf names

def textOf (field : String → Option Json) (name : String) : Option String :=
  (field name).bind asStr

def optionalTextOf (field : String → Option Json) (name : String) : Option (Option String) :=
  match field name with
  | none | some null => some none
  | some json => json.asStr.map some

def ofOptionalText : Option String → Json
  | some text => string text
  | none => null

def listOf {α : Type} (decode : Json → Option α) (json : Json) : Option (List α) :=
  json.asArray.bind fun elements => elements.mapM decode

def sortKeys (entries : List (String × Json)) : List (String × Json) :=
  entries.insertionSort fun a b => a.1 ≤ b.1

mutual

def toValue : Json → Json
  | .array elements => .array (toValueElements elements)
  | .object entries => .object (sortKeys (toValueEntries entries))
  | json => json

def toValueElements : List Json → List Json
  | [] => []
  | element :: elements => toValue element :: toValueElements elements

def toValueEntries : List (String × Json) → List (String × Json)
  | [] => []
  | (key, value) :: entries => (key, toValue value) :: toValueEntries entries

end

lemma toValueElements_eq (elements : List Json) :
    toValueElements elements = elements.map toValue := by
  induction elements with
  | nil => rfl
  | cons element elements ih => rw [toValueElements, ih, List.map_cons]

lemma toValueEntries_eq (entries : List (String × Json)) :
    toValueEntries entries = entries.map fun entry => (entry.1, toValue entry.2) := by
  induction entries with
  | nil => rfl
  | cons entry entries ih => rw [toValueEntries, ih, List.map_cons]

/-! ## Finding fields -/

lemma fieldsOf_object {names : List String} {entries : List (String × Json)}
    (hn : (entries.map Prod.fst).Nodup) :
    fieldsOf names (object entries) = some fun name => entries.lookup name := by
  rw [fieldsOf, if_pos (hn.filter _)]

lemma fieldsOf_perm {names : List String} {entries entries' : List (String × Json)}
    (hn : (entries.map Prod.fst).Nodup) (hp : entries'.Perm entries) :
    fieldsOf names (object entries') = some fun name => entries.lookup name := by
  have hn' : (entries'.map Prod.fst).Nodup := (hp.map Prod.fst).nodup_iff.mpr hn
  rw [fieldsOf_object hn']
  congr 1
  funext name
  exact Support.lookup_perm hn' hp name

lemma fieldsOf_bind {names : List String} {entries entries' : List (String × Json)} {α : Type}
    {decode : (String → Option Json) → Option α} {value : α} (hp : entries'.Perm entries)
    (hnm : entries.map Prod.fst = names) (hn : names.Nodup)
    (h : ∀ field : String → Option Json, (∀ entry ∈ entries, field entry.1 = some entry.2) →
    decode field = some value) :
    ((object entries').fieldsOf names >>= decode) = some value := by
  rw [← hnm] at hn
  rw [fieldsOf_perm hn hp]
  exact h _ fun entry hen => Support.lookup_of_mem hn hen

lemma plain_ofOptionalText (depth : ℕ) (text : Option String) :
    (ofOptionalText text).plain depth = true := by
  cases text with
  | none => rfl
  | some text => rfl

lemma optionalTextOf_ofOptionalText {field : String → Option Json} {name : String}
    {text : Option String} (h : field name = some (ofOptionalText text)) :
    optionalTextOf field name = some text := by
  unfold optionalTextOf
  rw [h]
  cases text with
  | none => rfl
  | some text => rfl

end Json

end KrustyKms

import KrustyKms.Codec.Hex
import KrustyKms.Common.Json

/-!
# The text of JSON documents

`Json.write` is `serde_json`'s compact formatter: no blanks, keys in their order, strings with the
short escapes and `\u00xx` for the other control characters.
-/

namespace KrustyKms

/-! ## Values of a document -/

namespace Json

/-- `Value::get` on the tree as it is written: of a key that is there twice the last value is
kept. -/
def last : Json → String → Option Json
  | object entries, key => entries.reverse.lookup key
  | _, _ => none

lemma last_eq_none {entries : List (String × Json)} {key : String} :
    (object entries).last key = none ↔ ∀ entry ∈ entries, entry.1 ≠ key := by
  rw [last, List.lookup_eq_none_iff]
  simp only [List.mem_reverse, bne_iff_ne, ne_comm]

lemma last_cons {entries : List (String × Json)} {key : String} (value : Json)
    (h : ∀ entry ∈ entries, entry.1 ≠ key) :
    (object ((key, value) :: entries)).last key = some value := by
  have hr : entries.reverse.lookup key = none := last_eq_none.mpr h
  rw [last, List.reverse_cons, List.lookup_append, hr]
  simp

def index (json : Json) (key : String) : Json := (json.last key).getD null

def asU64 : Json → Option UInt64
  | posInt value => some value
  | _ => none

def asStr : Json → Option String
  | string text => some text
  | _ => none

end Json

/-! ## Writing -/

/-- `format_escaped_str`: a control character without a short escape is a code of four digits. -/
def escapeChar (c : Char) : List Char :=
  if c = '"' then ['\\', '"']
  else if c = '\\' then ['\\', '\\']
  else if c = '\x08' then ['\\', 'b']
  else if c = '\x0c' then ['\\', 'f']
  else if c = '\n' then ['\\', 'n']
  else if c = '\r' then ['\\', 'r']
  else if c = '\t' then ['\\', 't']
  else if c.toNat < 32 then
    ['\\', 'u', '0', '0', (c.toNat / 16).digitChar, (c.toNat % 16).digitChar]
  else [c]

def quoted (text : String) : List Char := '"' :: (text.toList.flatMap escapeChar ++ ['"'])

namespace Json

mutual

/-- The text of `to_string`, without blanks. -/
def chars : Json → List Char
  | .null => ['n', 'u', 'l', 'l']
  | .bool true => ['t', 'r', 'u', 'e']
  | .bool false => ['f', 'a', 'l', 's', 'e']
  | .posInt value => Nat.toDigits 10 value.toNat
  | .negInt value => '-' :: Nat.toDigits 10 value.natAbs
  | .float text => text.toList
  | .string text => quoted text
  | .array [] => ['[', ']']
  | .array (element :: elements) => '[' :: (chars element ++ arrayTail elements)
  | .object [] => ['{', '}']
  | .object ((key, value) :: entries) =>
    '{' :: (quoted key ++ ':' :: (chars value ++ objectTail entries))

def arrayTail : List Json → List Char
  | [] => [']']
  | element :: elements => ',' :: (chars element ++ arrayTail elements)

def objectTail : List (String × Json) → List Char
  | [] => ['}']
  | (key, value) :: entries => ',' :: (quoted key ++ ':' :: (chars value ++ objectTail entries))

end

def write (json : Json) : String := String.ofList json.chars

mutual

/-- What is read back as it was written: no floats, and no nesting beyond the depth. -/
def plain : ℕ → Json → Bool
  | _, .float _ => false
  | _, .negInt value => -2 ^ 63 ≤ value ∧ value < 0
  | depth + 1, .array elements => plainElements depth elements
  | 0, .array _ => false
  | depth + 1, .object entries => plainEntries depth entries
  | 0, .object _ => false
  | _, _ => true

def plainElements : ℕ → List Json → Bool
  | _, [] => true
  | depth, element :: elements => plain depth element && plainElements depth elements

def plainEntries : ℕ → List (String × Json) → Bool
  | _, [] => true
  | depth, (_, value) :: entries => plain depth value && plainEntries depth entries

end

lemma plainElements_iff {depth : ℕ} {elements : List Json} :
    plainElements depth elements = true ↔ ∀ element ∈ elements, element.plain depth = true := by
  induction elements with
  | nil => simp [plainElements]
  | cons element elements ih =>
    rw [plainElements, Bool.and_eq_true, ih, List.forall_mem_cons]

lemma plainEntries_iff {depth : ℕ} {entries : List (String × Json)} :
    plainEntries depth entries = true ↔ ∀ entry ∈ entries, entry.2.plain depth = true := by
  induction entries with
  | nil => simp [plainEntries]
  | cons entry entries ih =>
    rw [plainEntries, Bool.and_eq_true, ih, List.forall_mem_cons]

end Json

/-! ## Sizes -/

/-- Every character is written as itself, in one byte. -/
def Verbatim (text : String) : Prop :=
  ∀ c ∈ text.toList, escapeChar c = [c] ∧ c.utf8Size = 1

lemma flatMap_escapeChar {chars : List Char} (h : ∀ c ∈ chars, escapeChar c = [c]) :
    chars.flatMap escapeChar = chars := by
  induction chars with
  | nil => rfl
  | cons c chars ih =>
    rw [List.forall_mem_cons] at h
    rw [List.flatMap_cons, h.1, ih h.2]
    rfl

lemma Verbatim.textSize_quoted {text : String} (h : Verbatim text) :
    Codec.textSize (quoted text) = text.toList.length + 2 := by
  have hes := flatMap_escapeChar fun c hc => (h c hc).1
  have hs := Codec.textSize_of_ascii fun c hc => (h c hc).2
  have hm : ('"').utf8Size = 1 := by decide
  rw [quoted, hes, Codec.textSize_cons, Codec.textSize_append, hs, Codec.textSize_cons,
    Codec.textSize_nil, hm]
  omega

/-- The recursion limit of the parser lets through so many levels. -/
def serdeJsonDepth : ℕ := 127

/-- The parser reads what is written. -/
def SerdeJson.Exact [SerdeJson] : Prop :=
  ∀ json : Json, json.plain serdeJsonDepth → parse json.write = some json

/-- The texts of the crate's errors, by the document that is refused. -/
class SerdeJsonErrors where
  text : String → String

/-- `serde_json::from_str` to a type that is decoded from the tree. -/
def fromStr [SerdeJson] [SerdeJsonErrors] {α : Type} (decode : Json → Option α) (text : String) :
    Result α :=
  match (SerdeJson.parse text).bind decode with
  | some value => .ok value
  | none => .error (.jsonError (SerdeJsonErrors.text text))

lemma fromStr_eq_ok [SerdeJson] [SerdeJsonErrors] {α : Type} {decode : Json → Option α}
    {text : String} {value : α} :
    fromStr decode text = .ok value ↔ ∃ json, SerdeJson.parse text = some json ∧
      decode json = some value := by
  unfold fromStr
  rw [← Option.bind_eq_some_iff]
  cases (SerdeJson.parse text).bind decode with
  | none => simp
  | some other => simp

/-! ## Reading -/

def shortEscape (c : Char) : Option Char :=
  if c = '"' then some '"'
  else if c = '\\' then some '\\'
  else if c = 'b' then some '\x08'
  else if c = 'f' then some '\x0c'
  else if c = 'n' then some '\n'
  else if c = 'r' then some '\r'
  else if c = 't' then some '\t'
  else none

def readString : List Char → Option (List Char × List Char)
  | [] => none
  | c :: rest =>
    if c = '"' then some ([], rest)
    else if c = '\\' then
      match rest with
      | 'u' :: '0' :: '0' :: high :: low :: rest => do
        let h ← Codec.hexDigit high
        let l ← Codec.hexDigit low
        let (text, rest) ← readString rest
        pure (Char.ofNat (16 * h + l) :: text, rest)
      | escape :: rest => do
        let char ← shortEscape escape
        let (text, rest) ← readString rest
        pure (char :: text, rest)
      | [] => none
    else do
      let (text, rest) ← readString rest
      pure (c :: text, rest)

def decimalValue (digits : List Char) : ℕ :=
  digits.foldl (fun n c => 10 * n + (c.toNat - '0'.toNat)) 0

namespace Json

mutual

/-- The value at the front of a compact text, and what follows it. -/
def readValue : ℕ → List Char → Option (Json × List Char)
  | 0, _ => none
  | _, [] => none
  | fuel + 1, c :: rest =>
    if c = '"' then do
      let (text, rest) ← readString rest
      pure (.string (String.ofList text), rest)
    else if c = '[' then
      if rest.head? = some ']' then pure (.array [], rest.tail)
      else do
        let (element, rest) ← readValue fuel rest
        let (elements, rest) ← readArrayTail fuel rest
        pure (.array (element :: elements), rest)
    else if c = '{' then
      if rest.head? = some '}' then pure (.object [], rest.tail)
      else do
        let (entry, rest) ← readEntry fuel rest
        let (entries, rest) ← readObjectTail fuel rest
        pure (.object (entry :: entries), rest)
    else if c = '-' then
      pure (.negInt (-decimalValue (rest.takeWhile Char.isDigit)), rest.dropWhile Char.isDigit)
    else if c.isDigit then
      pure (.posInt (UInt64.ofNat (decimalValue ((c :: rest).takeWhile Char.isDigit))),
        (c :: rest).dropWhile Char.isDigit)
    else if (c :: rest).take 4 = ['n', 'u', 'l', 'l'] then pure (.null, rest.drop 3)
    else if (c :: rest).take 4 = ['t', 'r', 'u', 'e'] then pure (.bool true, rest.drop 3)
    else if (c :: rest).take 5 = ['f', 'a', 'l', 's', 'e'] then pure (.bool false, rest.drop 4)
    else none

def readArrayTail : ℕ → List Char → Option (List Json × List Char)
  | 0, _ => none
  | _, [] => none
  | fuel + 1, c :: rest =>
    if c = ']' then pure ([], rest)
    else if c = ',' then do
      let (element, rest) ← readValue fuel rest
      let (elements, rest) ← readArrayTail fuel rest
      pure (element :: elements, rest)
    else none

def readObjectTail : ℕ → List Char → Option (List (String × Json) × List Char)
  | 0, _ => none
  | _, [] => none
  | fuel + 1, c :: rest =>
    if c = '}' then pure ([], rest)
    else if c = ',' then do
      let (entry, rest) ← readEntry fuel rest
      let (entries, rest) ← readObjectTail fuel rest
      pure (entry :: entries, rest)
    else none

def readEntry : ℕ → List Char → Option ((String × Json) × List Char)
  | 0, _ => none
  | _, [] => none
  | fuel + 1, c :: rest =>
    if c = '"' then do
      let (key, rest) ← readString rest
      match rest with
      | ':' :: rest => do
        let (value, rest) ← readValue fuel rest
        pure ((String.ofList key, value), rest)
      | _ => none
    else none

end

end Json

@[reducible] def compactReader : SerdeJson where
  parse text :=
    match Json.readValue (text.toList.length + 1) text.toList with
    | some (json, []) => some json
    | _ => none

@[reducible] def compactErrors : SerdeJsonErrors := ⟨fun _ => "expected value"⟩

/-! ## What is written is read back -/

lemma readString_short {c escape : Char} (hs : shortEscape escape = some c)
    (rest : List Char) : readString ('\\' :: escape :: rest) =
      (readString rest).map fun (text, rest) => (c :: text, rest) := by
  have hu : escape ≠ 'u' := by
    rintro rfl
    simp [shortEscape] at hs
  rw [readString, if_neg (by decide), if_pos rfl, hs]
  · cases readString rest with
    | none => rfl
    | some read => rfl
  · intro _ _ _ heq
    exact absurd heq hu

lemma readString_escapeChar (c : Char) (rest : List Char) :
    readString (escapeChar c ++ rest) =
      (readString rest).map fun (text, rest) => (c :: text, rest) := by
  unfold escapeChar
  split_ifs with hq hbc hb hf hn hr ht hcn
  · exact readString_short (by subst hq; decide) rest
  · exact readString_short (by subst hbc; decide) rest
  · exact readString_short (by subst hb; decide) rest
  · exact readString_short (by subst hf; decide) rest
  · exact readString_short (by subst hn; decide) rest
  · exact readString_short (by subst hr; decide) rest
  · exact readString_short (by subst ht; decide) rest
  · have hc : Char.ofNat (16 * (c.toNat / 16) + c.toNat % 16) = c := by
      rw [Nat.div_add_mod, Char.ofNat_toNat]
    simp only [List.cons_append, List.nil_append]
    rw [readString, if_neg (by decide), if_pos rfl]
    simp only [Codec.hexDigit_digitChar (by omega : c.toNat / 16 < 16),
      Codec.hexDigit_digitChar (by omega : c.toNat % 16 < 16)]
    cases readString rest with
    | none => rfl
    | some read =>
      show some (Char.ofNat (16 * (c.toNat / 16) + c.toNat % 16) :: read.1, read.2) = _
      rw [hc]
      rfl
  · rw [List.singleton_append, readString.eq_def]
    dsimp only
    rw [if_neg hq, if_neg hbc]
    cases readString rest with
    | none => rfl
    | some read => rfl

lemma readString_quoted (text rest : List Char) :
    readString (text.flatMap escapeChar ++ '"' :: rest) = some (text, rest) := by
  induction text with
  | nil =>
    rw [List.flatMap_nil, List.nil_append, readString.eq_def]
    exact if_pos rfl
  | cons c text ih =>
    rw [List.flatMap_cons, List.append_assoc, readString_escapeChar, ih]
    rfl

lemma digitChar_isDigit {d : ℕ} (h : d < 10) :
    d.digitChar.isDigit = true ∧ d.digitChar.toNat - '0'.toNat = d := by
  have hall : ∀ d < 10, d.digitChar.isDigit = true ∧ d.digitChar.toNat - '0'.toNat = d := by decide
  exact hall d h

lemma toDigits_decimal (n : ℕ) :
    (∀ c ∈ Nat.toDigits 10 n, c.isDigit = true) ∧ decimalValue (Nat.toDigits 10 n) = n := by
  induction n using Nat.strongRecOn with
  | ind n ih =>
    by_cases h : n < 10
    · obtain ⟨hd, hv⟩ := digitChar_isDigit h
      rw [Nat.toDigits_of_lt_base h]
      exact ⟨by simpa using hd, by simpa [decimalValue] using hv⟩
    · obtain ⟨hd, hv⟩ := digitChar_isDigit (Nat.mod_lt n (by decide : 0 < 10))
      obtain ⟨hf, hv'⟩ := ih (n / 10) (by omega)
      rw [Nat.toDigits_of_base_le (by decide) (by omega)]
      refine ⟨?_, ?_⟩
      · intro c hc
        rcases List.mem_append.mp hc with hc | hc
        · exact hf c hc
        · rw [List.mem_singleton.mp hc]
          exact hd
      · unfold decimalValue at hv' ⊢
        rw [List.foldl_append, hv']
        simp only [List.foldl_cons, List.foldl_nil, hv]
        omega

/-- A number before `rest` ends there. -/
def NoDigit (rest : List Char) : Prop := ∀ c ∈ rest.head?, c.isDigit = false

lemma span_toDigits (n : ℕ) {rest : List Char} (hr : NoDigit rest) :
    (Nat.toDigits 10 n ++ rest).takeWhile Char.isDigit = Nat.toDigits 10 n ∧
      (Nat.toDigits 10 n ++ rest).dropWhile Char.isDigit = rest := by
  have hd := (toDigits_decimal n).1
  have hem : rest.takeWhile Char.isDigit = [] ∧ rest.dropWhile Char.isDigit = rest := by
    cases rest with
    | nil => exact ⟨rfl, rfl⟩
    | cons c rest =>
      have hc := hr c rfl
      simp [hc]
  rw [List.takeWhile_append_of_pos hd, List.dropWhile_append_of_pos hd, hem.1,
    hem.2, List.append_nil]
  exact ⟨rfl, rfl⟩

namespace Json

lemma exists_toDigits (n : ℕ) :
    ∃ c digits, Nat.toDigits 10 n = c :: digits ∧ c.isDigit = true := by
  have hd := (toDigits_decimal n).1
  cases h : Nat.toDigits 10 n with
  | nil => exact absurd h Nat.toDigits_ne_nil
  | cons c digits => exact ⟨c, digits, rfl, hd c (by rw [h]; exact List.mem_cons_self)⟩

lemma exists_chars {depth : ℕ} {json : Json} (h : json.plain depth) :
    ∃ c rest, json.chars = c :: rest ∧ c ≠ ']' := by
  cases json with
  | null => exact ⟨'n', _, rfl, by decide⟩
  | bool value =>
    cases value with
    | true => exact ⟨'t', _, rfl, by decide⟩
    | false => exact ⟨'f', _, rfl, by decide⟩
  | posInt value =>
    obtain ⟨c, digits, hd, hc⟩ := exists_toDigits value.toNat
    refine ⟨c, digits, hd, ?_⟩
    rintro rfl
    exact absurd hc (by decide)
  | negInt value => exact ⟨'-', _, rfl, by decide⟩
  | float text => simp [plain] at h
  | string text => exact ⟨'"', _, rfl, by decide⟩
  | array elements =>
    cases elements with
    | nil => exact ⟨'[', _, rfl, by decide⟩
    | cons element elements => exact ⟨'[', _, by rw [chars], by decide⟩
  | object entries =>
    cases entries with
    | nil => exact ⟨'{', _, rfl, by decide⟩
    | cons entry entries => exact ⟨'{', _, by rw [chars], by decide⟩

lemma noDigit_arrayTail (elements : List Json) (rest : List Char) :
    NoDigit (arrayTail elements ++ rest) := by
  cases elements with
  | nil =>
    intro c hc
    obtain rfl := Option.some.inj hc
    decide
  | cons element elements =>
    intro c hc
    rw [arrayTail] at hc
    obtain rfl := Option.some.inj hc
    decide

lemma noDigit_objectTail (entries : List (String × Json)) (rest : List Char) :
    NoDigit (objectTail entries ++ rest) := by
  cases entries with
  | nil =>
    intro c hc
    obtain rfl := Option.some.inj hc
    decide
  | cons entry entries =>
    intro c hc
    rw [objectTail] at hc
    obtain rfl := Option.some.inj hc
    decide

variable {fuel : ℕ} {rest : List Char}

lemma readValue_posInt (value : UInt64) (hr : NoDigit rest) :
    readValue (fuel + 1) (chars (.posInt value) ++ rest) = some (.posInt value, rest) := by
  obtain ⟨c, digits, hdg, hc⟩ := exists_toDigits value.toNat
  have hs := span_toDigits value.toNat hr
  have hv := (toDigits_decimal value.toNat).2
  have hne : ∀ d : Char, d.isDigit = false → c ≠ d := by
    intro d hd heq
    rw [heq, hd] at hc
    cases hc
  rw [hdg, List.cons_append] at hs
  rw [chars, hdg, List.cons_append, readValue, if_neg (hne _ (by decide)),
    if_neg (hne _ (by decide)), if_neg (hne _ (by decide)), if_neg (hne _ (by decide)), if_pos hc,
    hs.1, hs.2, ← hdg, hv, UInt64.ofNat_toNat]
  rfl

lemma readValue_negInt {value : Int} (hneg : value < 0) (hr : NoDigit rest) :
    readValue (fuel + 1) (chars (.negInt value) ++ rest) = some (.negInt value, rest) := by
  have hs := span_toDigits value.natAbs hr
  have hv := (toDigits_decimal value.natAbs).2
  have habs : -(value.natAbs : Int) = value := by omega
  rw [chars, List.cons_append, readValue, if_neg (by decide), if_neg (by decide),
    if_neg (by decide), if_pos rfl, hs.1, hs.2, hv, habs]
  rfl

lemma readValue_string (text : String) :
    readValue (fuel + 1) (chars (.string text) ++ rest) = some (.string text, rest) := by
  rw [chars, quoted, List.cons_append, List.append_assoc, List.singleton_append, readValue,
    if_pos rfl, readString_quoted]
  simp

lemma readEntry_chars (key : String) {value : Json}
    (hv : readValue fuel (chars value ++ rest) = some (value, rest)) :
    readEntry (fuel + 1) (quoted key ++ ':' :: (chars value ++ rest)) =
      some ((key, value), rest) := by
  rw [quoted, List.cons_append, List.append_assoc, List.singleton_append, readEntry, if_pos rfl,
    readString_quoted]
  simp [hv]

-- one lemma for each of the writer's functions, by the structure of the document
mutual

lemma readValue_chars : ∀ (json : Json) (depth fuel : ℕ) (rest : List Char),
    json.plain depth = true → json.chars.length ≤ fuel → NoDigit rest →
    readValue fuel (json.chars ++ rest) = some (json, rest)
  | .null, _, fuel + 1, rest, _, _, _ => by
    simp [chars, readValue]
  | .bool true, _, fuel + 1, rest, _, _, _ => by
    simp [chars, readValue]
  | .bool false, _, fuel + 1, rest, _, _, _ => by
    simp [chars, readValue]
  | .posInt value, _, fuel + 1, rest, _, _, hr => readValue_posInt value hr
  | .negInt value, _, fuel + 1, rest, hp, _, hr => by
    have hneg : -2 ^ 63 ≤ value ∧ value < 0 := by simpa [plain] using hp
    exact readValue_negInt hneg.2 hr
  | .string text, _, fuel + 1, rest, _, _, _ => readValue_string text
  | .array [], _, fuel + 1, rest, _, _, _ => by
    simp [chars, readValue]
  | .array (element :: elements), depth + 1, fuel + 1, rest, hp, hf, hr => by
    rw [plain, plainElements, Bool.and_eq_true] at hp
    rw [chars, List.length_cons, List.length_append] at hf
    have hel := readValue_chars element depth fuel (arrayTail elements ++ rest) hp.1
      (by omega) (noDigit_arrayTail elements rest)
    have hem := readArrayTail_chars elements depth fuel rest hp.2 (by omega)
    have hh : (chars element ++ (arrayTail elements ++ rest)).head? ≠ some ']' := by
      obtain ⟨c, tail, hch, hc⟩ := exists_chars hp.1
      rw [hch]
      simpa using hc
    rw [chars, List.cons_append, List.append_assoc, readValue, if_neg (by decide), if_pos rfl,
      if_neg hh]
    simp [hel, hem]
  | .object [], _, fuel + 1, rest, _, _, _ => by
    simp [chars, readValue]
  | .object ((key, value) :: entries), depth + 1, fuel + 1, rest, hp, hf, hr => by
    rw [plain, plainEntries, Bool.and_eq_true] at hp
    rw [chars, List.length_cons, List.length_append, List.length_cons, List.length_append] at hf
    have hv := readValue_chars value depth (fuel - 1) (objectTail entries ++ rest) hp.1
      (by omega) (noDigit_objectTail entries rest)
    have hen := readEntry_chars key hv
    rw [Nat.sub_add_cancel (by omega)] at hen
    have het := readObjectTail_chars entries depth fuel rest hp.2 (by omega)
    rw [chars, List.cons_append, List.append_assoc, List.cons_append, List.append_assoc,
      readValue, if_neg (by decide), if_neg (by decide), if_pos rfl, if_neg (by simp [quoted])]
    simp [hen, het]
  | json, depth, 0, rest, hp, hf, _ => by
    obtain ⟨c, tail, hch, -⟩ := exists_chars hp
    rw [hch] at hf
    exact absurd hf (by simp)

lemma readArrayTail_chars : ∀ (elements : List Json) (depth fuel : ℕ) (rest : List Char),
    plainElements depth elements = true → (arrayTail elements).length ≤ fuel →
    readArrayTail fuel (arrayTail elements ++ rest) = some (elements, rest)
  | [], _, fuel + 1, rest, _, _ => by
    simp [arrayTail, readArrayTail]
  | element :: elements, depth, fuel + 1, rest, hp, hf => by
    rw [plainElements, Bool.and_eq_true] at hp
    rw [arrayTail, List.length_cons, List.length_append] at hf
    have hel := readValue_chars element depth fuel (arrayTail elements ++ rest) hp.1
      (by omega) (noDigit_arrayTail elements rest)
    have hem := readArrayTail_chars elements depth fuel rest hp.2 (by omega)
    rw [arrayTail, List.cons_append, List.append_assoc, readArrayTail, if_neg (by decide),
      if_pos rfl]
    simp [hel, hem]
  | [], _, 0, _, _, hf => absurd hf (by simp [arrayTail])
  | _ :: _, _, 0, _, _, hf => absurd hf (by simp [arrayTail])

lemma readObjectTail_chars : ∀ (entries : List (String × Json)) (depth fuel : ℕ)
    (rest : List Char), plainEntries depth entries = true → (objectTail entries).length ≤ fuel →
    readObjectTail fuel (objectTail entries ++ rest) = some (entries, rest)
  | [], _, fuel + 1, rest, _, _ => by
    simp [objectTail, readObjectTail]
  | (key, value) :: entries, depth, fuel + 1, rest, hp, hf => by
    rw [plainEntries, Bool.and_eq_true] at hp
    rw [objectTail, List.length_cons, List.length_append, List.length_cons,
      List.length_append] at hf
    have hv := readValue_chars value depth (fuel - 1) (objectTail entries ++ rest) hp.1
      (by omega) (noDigit_objectTail entries rest)
    have hen := readEntry_chars key hv
    rw [Nat.sub_add_cancel (by omega)] at hen
    have het := readObjectTail_chars entries depth fuel rest hp.2 (by omega)
    rw [objectTail, List.cons_append, List.append_assoc, List.cons_append, List.append_assoc,
      readObjectTail, if_neg (by decide), if_pos rfl]
    simp [hen, het]
  | [], _, 0, _, _, hf => absurd hf (by simp [objectTail])
  | _ :: _, _, 0, _, _, hf => absurd hf (by simp [objectTail])

end

end Json

theorem compactReader_exact : @SerdeJson.Exact compactReader := by
  intro json hp
  have hr := json.readValue_chars serdeJsonDepth (json.chars.length + 1) [] hp
    (Nat.le_succ _) (by simp [NoDigit])
  have ht : json.write.toList = json.chars := String.toList_ofList
  show (match Json.readValue (json.write.toList.length + 1) json.write.toList with
    | some (json, []) => some json
    | _ => none) = some json
  rw [List.append_nil] at hr
  rw [ht, hr]

/-! ## One line -/

lemma newline_not_mem_escapeChar (c : Char) : '\n' ∉ escapeChar c := by
  by_cases hcontrol : c.toNat < 32
  · have hall : ∀ n < 32, '\n' ∉ escapeChar (Char.ofNat n) := by decide
    rw [← Char.ofNat_toNat c]
    exact hall _ hcontrol
  · have hplain : '\n' ∉ [c] := by
      rw [List.mem_singleton]
      rintro rfl
      exact hcontrol (by decide)
    unfold escapeChar
    rw [if_neg hcontrol]
    split_ifs
    all_goals first | exact hplain | decide

lemma newline_not_mem_quoted (text : String) : '\n' ∉ quoted text := by
  unfold quoted
  rw [List.mem_cons, List.mem_append, List.mem_flatMap, not_or, not_or]
  refine ⟨by decide, ?_, by decide⟩
  rintro ⟨c, -, hc⟩
  exact newline_not_mem_escapeChar c hc

lemma newline_not_mem_toDigits (n : ℕ) : '\n' ∉ Nat.toDigits 10 n :=
  fun h => absurd ((toDigits_decimal n).1 _ h) (by decide)

namespace Json

mutual

/-- Compact JSON is one line: control characters are written as escapes. -/
lemma newline_not_mem_chars : ∀ (json : Json) (depth : ℕ), json.plain depth = true →
    '\n' ∉ json.chars
  | .null, _, _ | .bool true, _, _ | .bool false, _, _ | .array [], _, _ | .object [], _, _ => by
    simp [chars]
  | .posInt value, _, _ => newline_not_mem_toDigits value.toNat
  | .negInt value, _, _ => by
    simp [chars, newline_not_mem_toDigits]
  | .string text, _, _ => newline_not_mem_quoted text
  | .array (element :: elements), depth + 1, h => by
    rw [plain, plainElements, Bool.and_eq_true] at h
    simp [chars, newline_not_mem_chars element depth h.1,
      newline_not_mem_arrayTail elements depth h.2]
  | .object ((key, value) :: entries), depth + 1, h => by
    rw [plain, plainEntries, Bool.and_eq_true] at h
    simp [chars, newline_not_mem_quoted, newline_not_mem_chars value depth h.1,
      newline_not_mem_objectTail entries depth h.2]

lemma newline_not_mem_arrayTail : ∀ (elements : List Json) (depth : ℕ),
    plainElements depth elements = true → '\n' ∉ arrayTail elements
  | [], _, _ => by simp [arrayTail]
  | element :: elements, depth, h => by
    rw [plainElements, Bool.and_eq_true] at h
    simp [arrayTail, newline_not_mem_chars element depth h.1,
      newline_not_mem_arrayTail elements depth h.2]

lemma newline_not_mem_objectTail : ∀ (entries : List (String × Json)) (depth : ℕ),
    plainEntries depth entries = true → '\n' ∉ objectTail entries
  | [], _, _ => by simp [objectTail]
  | (key, value) :: entries, depth, h => by
    rw [plainEntries, Bool.and_eq_true] at h
    simp [objectTail, newline_not_mem_quoted, newline_not_mem_chars value depth h.1,
      newline_not_mem_objectTail entries depth h.2]

end

end Json

end KrustyKms

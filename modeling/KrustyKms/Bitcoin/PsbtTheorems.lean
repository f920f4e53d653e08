import KrustyKms.Bitcoin.Psbt
import KrustyKms.Bitcoin.TxTheorems

/-!
# PSBTs are read exactly

* `readMap_exact`: a map is accepted precisely when its keys are distinct and
  every pair has a minimally encoded type and passes the field table;
* `Psbt.parse_eq_ok`: a byte string parses to a PSBT precisely when it is that
  PSBT's serialization and the PSBT is well formed.
-/

namespace KrustyKms.Bitcoin

open Codec Codec.Parser Reader

/-! ## Pure steps and key types -/

lemma ofResult_eq_ok {α : Type} {result : Result α} {s : Bytes} {r : α × Bytes} :
    ofResult result s = .ok r ↔ result = .ok r.1 ∧ r.2 = s := by
  unfold ofResult
  cases result with
  | error e => simp [Except.map]
  | ok a =>
    simp only [Except.map, Except.ok.injEq]
    constructor
    · intro h
      rw [← h]
      exact ⟨rfl, rfl⟩
    · intro h
      rw [h.1, ← h.2]

lemma ofResult_ok {α : Type} {result : Result α} {a : α} (h : result = .ok a) (s : Bytes) :
    ofResult result s = .ok (a, s) :=
  ofResult_eq_ok.mpr ⟨h, rfl⟩

def keyBytes (parts : UInt64 × Bytes) : Bytes := writeCompactSize parts.1.toNat ++ parts.2

lemma keyParts_eq_ok {key : Bytes} {parts : UInt64 × Bytes} :
    keyParts key = .ok parts ↔ key = keyBytes parts := by
  constructor
  · intro h
    exact compactU64_exact.eq_write h
  · intro h
    rw [h]
    exact compactU64_exact.complete parts.2 trivial

lemma keyBytes_injective {parts parts' : UInt64 × Bytes} (h : keyBytes parts = keyBytes parts') :
    parts = parts' := by
  have hok := keyParts_eq_ok.mpr h
  rw [keyParts_eq_ok.mpr rfl] at hok
  injection hok

lemma keyBytes_ne_nil (parts : UInt64 × Bytes) : keyBytes parts ≠ [] := by
  intro h
  exact writeCompactSize_ne_nil _ (List.append_eq_nil_iff.mp h).1

/-! ## Maps -/

section Maps
variable [Sha256] [BitcoinHashes] [K256] [Target]

def PairOk (scope : Scope) (pair : Pair) : Prop :=
  ∃ parts : UInt64 × Bytes, pair.key = keyBytes parts ∧ pair.key.length ≤ usizeMax ∧
    pair.value.length ≤ usizeMax ∧ checkPair scope parts.1 parts.2 pair.value = .ok ()

structure MapOk (scope : Scope) (map : Map) : Prop where
  pairs : ∀ pair ∈ map, PairOk scope pair
  nodup : (map.map Pair.key).Nodup

omit [Sha256] [BitcoinHashes] [K256] [Target] in
lemma serializeMap_nil (s : Bytes) : serializeMap [] ++ s = writeVarBytes [] ++ s := by
  simp [serializeMap, writeVarBytes]

omit [Sha256] [BitcoinHashes] [K256] [Target] in
lemma serializeMap_cons (pair : Pair) (map : Map) (s : Bytes) :
    serializeMap (pair :: map) ++ s =
      writeVarBytes pair.key ++ (writeVarBytes pair.value ++ (serializeMap map ++ s)) := by
  simp [serializeMap]

omit [Sha256] [BitcoinHashes] [K256] [Target] in
lemma length_lt_length_serializeMap (map : Map) : map.length < (serializeMap map).length := by
  induction map with
  | nil =>
    have h := List.length_pos_iff.mpr (writeCompactSize_ne_nil 0)
    simpa [serializeMap] using h
  | cons pair map ih =>
    have hkey := List.length_pos_iff.mpr (writeCompactSize_ne_nil pair.key.length)
    have hc := serializeMap_cons pair map []
    rw [List.append_nil, List.append_nil] at hc
    rw [hc]
    simp only [writeVarBytes, List.length_append, List.length_cons]
    omega

def NewKeys (keys : List (UInt64 × Bytes)) (map : Map) : Prop :=
  ∀ pair ∈ map, pair.key ∉ keys.map keyBytes

variable {keys : List (UInt64 × Bytes)} {scope : Scope}

omit [Sha256] [BitcoinHashes] [K256] [Target] in
lemma contains_iff_mem_keyBytes {parts : UInt64 × Bytes} :
    keys.contains parts = true ↔ keyBytes parts ∈ keys.map keyBytes := by
  rw [List.contains_iff_mem, List.mem_map_of_injective fun _ _ => keyBytes_injective]

lemma mapOk_cons {pair : Pair} {map : Map}
    {parts : UInt64 × Bytes} (hkey : pair.key = keyBytes parts) :
    MapOk scope (pair :: map) ∧ NewKeys keys (pair :: map) ↔
      PairOk scope pair ∧ keys.contains parts = false ∧
        MapOk scope map ∧ NewKeys (parts :: keys) map := by
  have hnew : keys.contains parts = false ↔ pair.key ∉ keys.map keyBytes := by
    rw [← Bool.not_eq_true, contains_iff_mem_keyBytes, hkey]
  have hr : NewKeys (parts :: keys) map ↔
      pair.key ∉ map.map Pair.key ∧ NewKeys keys map := by
    unfold NewKeys
    simp only [List.map_cons, List.mem_cons, List.mem_map, ← hkey]
    grind
  rw [hnew, hr]
  constructor
  · intro h
    have hn := h.1.nodup
    rw [List.map_cons, List.nodup_cons] at hn
    have hp := List.forall_mem_cons.mp h.1.pairs
    have hk := List.forall_mem_cons.mp h.2
    exact ⟨hp.1, hk.1, ⟨hp.2, hn.2⟩, hn.1, hk.2⟩
  · intro h
    rcases h with ⟨hpr, hf, hok, hnt, hk⟩
    refine ⟨⟨List.forall_mem_cons.mpr ⟨hpr, hok.pairs⟩, ?_⟩,
      List.forall_mem_cons.mpr ⟨hf, hk⟩⟩
    rw [List.map_cons, List.nodup_cons]
    exact ⟨hnt, hok.nodup⟩

lemma readPairs_sound (rounds : ℕ) {s s' : Bytes}
    {map : Map} (h : readPairs scope rounds keys s = .ok (map, s')) :
    s = serializeMap map ++ s' ∧ MapOk scope map ∧ NewKeys keys map := by
  induction rounds generalizing keys s map with
  | zero => cases h
  | succ rounds ih =>
    unfold readPairs at h
    rw [bind_eq_ok] at h
    rcases h with ⟨key, s₁, hkey, h⟩
    by_cases hem : key.isEmpty = true
    · -- the separator
      rw [if_pos hem] at h
      injection h with h
      injection h with hmap hs
      subst hmap hs
      rw [List.isEmpty_iff] at hem
      rw [varBytes_exact.eq_write hkey, hem, serializeMap_nil]
      exact ⟨rfl, ⟨by simp, by simp⟩, by simp [NewKeys]⟩
    · rw [if_neg hem] at h
      simp only [bind_eq_ok, ofResult_eq_ok, rejectIf_eq_ok, pure_apply] at h
      rcases h with ⟨parts, s₂, ⟨hp, hs₂⟩, _, s₃, ⟨hnew, hs₃⟩, value, s₄, hv, _, s₅,
        ⟨hc, hs₅⟩, tail, s₆, ht, h⟩
      injection h with h
      injection h with hmap hs
      injection hs₃ with _ hs₃
      subst hmap hs hs₂ hs₃ hs₅
      rw [keyParts_eq_ok] at hp
      rcases ih ht with ⟨hs, hok, hf⟩
      have hpr : PairOk scope ⟨key, value⟩ :=
        ⟨parts, hp, varBytes_exact.valid hkey, varBytes_exact.valid hv, hc⟩
      refine ⟨?_, (mapOk_cons hp).mpr ⟨hpr, hnew, hok, hf⟩⟩
      rw [varBytes_exact.eq_write hkey, varBytes_exact.eq_write hv, hs, serializeMap_cons]

lemma readPairs_complete (map : Map) {rounds : ℕ}
    (s' : Bytes) (hok : MapOk scope map) (hnew : NewKeys keys map) (hr : map.length < rounds) :
    readPairs scope rounds keys (serializeMap map ++ s') = .ok (map, s') := by
  induction map generalizing rounds keys with
  | nil =>
    cases rounds with
    | zero => simp at hr
    | succ rounds =>
      unfold readPairs
      rw [serializeMap_nil, bind_of_ok (varBytes_exact.complete _ (by simp))]
      rfl
  | cons pair map ih =>
    cases rounds with
    | zero => simp at hr
    | succ rounds =>
      rcases hok.pairs pair List.mem_cons_self with ⟨parts, hkey, hfit, hv, hc⟩
      rcases (mapOk_cons hkey).mp ⟨hok, hnew⟩ with ⟨_, hs, hok', hn'⟩
      have hne : ¬ pair.key.isEmpty = true := by
        rw [List.isEmpty_iff, hkey]
        exact keyBytes_ne_nil parts
      have hrs := ih hok' hn' (Nat.lt_of_succ_lt_succ hr)
      unfold readPairs
      rw [serializeMap_cons, bind_of_ok (varBytes_exact.complete _ hfit), if_neg hne,
        bind_of_ok (ofResult_ok (keyParts_eq_ok.mpr hkey) _)]
      simp only
      rw [bind_of_ok (rejectIf_false _ _ hs), bind_of_ok (varBytes_exact.complete _ hv),
        bind_of_ok (ofResult_ok hc _), bind_of_ok hrs]
      rfl

theorem readMap_exact (scope : Scope) : Exact (readMap scope) serializeMap (MapOk scope) := by
  constructor
  · intro s map s' h
    rcases readPairs_sound _ h with ⟨hs, hok, _⟩
    exact ⟨hs, hok⟩
  · intro map s' hok
    apply readPairs_complete map s' hok (by simp [NewKeys])
    have h := length_lt_length_serializeMap map
    rw [List.length_append]
    omega

end Maps

/-! ## Whole PSBTs -/

namespace Psbt

variable [Sha256] [BitcoinHashes] [K256] [Target]

structure WellFormed (psbt : Psbt) : Prop where
  global : MapOk .global psbt.global
  unsignedTx : unsignedTransaction psbt.global = .ok psbt.unsignedTx
  inputs_length : psbt.inputs.length = psbt.unsignedTx.inputs.length
  inputs : ∀ map ∈ psbt.inputs, MapOk .input map
  checked : checkInputs 0 (psbt.unsignedTx.inputs.zip psbt.inputs) = .ok ()
  outputs_length : psbt.outputs.length = psbt.unsignedTx.outputs.length
  outputs : ∀ map ∈ psbt.outputs, MapOk .output map

omit [Sha256] [BitcoinHashes] [K256] [Target] in
lemma serialize_eq (psbt : Psbt) :
    psbt.serialize = magic ++ (serializeMap psbt.global ++
      (psbt.inputs.flatMap serializeMap ++ psbt.outputs.flatMap serializeMap)) := by
  simp [serialize]

theorem parse_eq_ok {bytes : Bytes} {psbt : Psbt} :
    parse bytes = .ok psbt ↔ bytes = psbt.serialize ∧ psbt.WellFormed := by
  unfold parse
  rw [run'_eq_ok, serialize_eq]
  constructor
  · intro h
    simp only [bind_eq_ok, rejectIf_eq_ok, ofResult_eq_ok, finish_eq_ok, pure_apply] at h
    rcases h with ⟨s', head, s₁, hh, _, s₂, ⟨hm, hs₂⟩, global, s₃, hg, tx, s₄,
      ⟨htx, hs₄⟩, inputs, s₅, hin, _, s₆, ⟨hc, hs₆⟩, outputs, s₇, hout, _, s₈,
      ⟨hs₇, hs₈⟩, h⟩
    injection h with h
    injection h with hp _
    injection hs₂ with _ hs₂
    subst hp hs₂ hs₄ hs₆ hs₇
    have hh' : head = magic := by simpa using hm
    have hsp := (take_exact magic.length).eq_write hh
    have hins := ((readMap_exact .input).many tx.inputs.length).sound hin
    have ho := ((readMap_exact .output).many tx.outputs.length).sound hout
    refine ⟨?_, ⟨(readMap_exact .global).valid hg, htx, hins.2.1, hins.2.2, hc,
      ho.2.1, ho.2.2⟩⟩
    rw [hsp, hh', (readMap_exact .global).eq_write hg, hins.1, ho.1,
      List.append_nil]
    rfl
  · intro h
    rcases h with ⟨hb, hwf⟩
    have hh : ∀ s : Bytes, take magic.length (magic ++ s) = .ok (magic, s) :=
      fun s => (take_exact magic.length).complete s rfl
    have hins := ((readMap_exact .input).many psbt.unsignedTx.inputs.length).complete
      (psbt.outputs.flatMap serializeMap) ⟨hwf.inputs_length, hwf.inputs⟩
    have ho := ((readMap_exact .output).many psbt.unsignedTx.outputs.length).complete
      [] ⟨hwf.outputs_length, hwf.outputs⟩
    rw [List.append_nil] at ho
    refine ⟨[], ?_⟩
    rw [hb, bind_of_ok (hh _), bind_of_ok (rejectIf_false _ _ (by simp)),
      bind_of_ok ((readMap_exact .global).complete _ hwf.global),
      bind_of_ok (ofResult_ok hwf.unsignedTx _), bind_of_ok hins,
      bind_of_ok (ofResult_ok hwf.checked _), bind_of_ok ho]
    rfl

/-- Parsing and serializing are inverse to each other: a parsed PSBT serializes
to the bytes it came from and is read back from them, so no two byte strings are
read as the same PSBT. -/
theorem parse_serialize_inverse :
    (∀ bytes psbt, parse bytes = .ok psbt → psbt.serialize = bytes) ∧
      (∀ bytes psbt, parse bytes = .ok psbt → parse psbt.serialize = .ok psbt) ∧
      ∀ bytes bytes' psbt, parse bytes = .ok psbt → parse bytes' = .ok psbt → bytes = bytes' := by
  refine ⟨?_, ?_, ?_⟩
  · intro bytes psbt h
    exact (parse_eq_ok.mp h).1.symm
  · intro bytes psbt h
    rw [← (parse_eq_ok.mp h).1]
    exact h
  · intro bytes bytes' psbt h h'
    rw [(parse_eq_ok.mp h).1, (parse_eq_ok.mp h').1]

end Psbt

end KrustyKms.Bitcoin

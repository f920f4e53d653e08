import KrustyKms.Bitcoin.PsbtTheorems
import KrustyKms.Bitcoin.Sighash
import KrustyKms.Support.Fallible

/-!
# How a PSBT is signed

The signing loop is an update of the listed input maps (`signInputs_eq`), where one map is
accepted precisely when it is `Signable` (`signMap_eq_ok`), and then gets one partial signature
(`putPartialSignature_put`).
-/

namespace KrustyKms.Bitcoin

open Codec Codec.Parser Reader Support

/-! ## Putting a partial signature -/

/-- `map'` is `map` with the pair under `key` set to `value`: in the place of the
one pair that has the key, or at the end when there is none. -/
def PutPair (key value : Bytes) (map map' : Map) : Prop :=
  (∃ (pre post : Map) (old : Bytes), key ∉ pre.map Pair.key ∧
    map = pre ++ ⟨key, old⟩ :: post ∧ map' = pre ++ ⟨key, value⟩ :: post) ∨
  (key ∉ map.map Pair.key ∧ map' = map ++ [⟨key, value⟩])

def partialSigKey (publicKey : Vector UInt8 33) : Bytes := inPartialSig :: publicKey.toList

lemma putPartialSignature_nil (publicKey : Vector UInt8 33) (signature : Bytes) :
    putPartialSignature [] publicKey signature =
      [⟨partialSigKey publicKey, signature⟩] := rfl

lemma putPartialSignature_cons (pair : Pair) (map : Map) (publicKey : Vector UInt8 33)
    (signature : Bytes) :
    putPartialSignature (pair :: map) publicKey signature =
      if pair.key = partialSigKey publicKey then
        ⟨partialSigKey publicKey, signature⟩ :: map
      else pair :: putPartialSignature map publicKey signature := by
  unfold putPartialSignature
  simp only [List.findIdx?_cons, decide_eq_true_eq]
  by_cases hkey : pair.key = partialSigKey publicKey
  · rw [if_pos hkey, if_pos (show pair.key = inPartialSig :: publicKey.toList from hkey)]
    show { key := pair.key, value := signature } :: map = _
    rw [hkey]
  · rw [if_neg hkey, if_neg (show ¬ pair.key = inPartialSig :: publicKey.toList from hkey)]
    cases map.findIdx? fun pair => decide (pair.key = inPartialSig :: publicKey.toList) with
    | none => rfl
    | some i => rfl

lemma putPartialSignature_put (map : Map) (publicKey : Vector UInt8 33) (signature : Bytes) :
    PutPair (partialSigKey publicKey) signature map
      (putPartialSignature map publicKey signature) := by
  induction map with
  | nil => exact Or.inr ⟨by simp, rfl⟩
  | cons pair map ih =>
    rw [putPartialSignature_cons]
    by_cases hkey : pair.key = partialSigKey publicKey
    · rw [if_pos hkey]
      refine Or.inl ⟨[], map, pair.value, by simp, ?_, rfl⟩
      rw [← hkey]
      rfl
    · rw [if_neg hkey]
      rcases ih with ⟨pre, post, old, hpre, hmap, hput⟩ | ⟨hmap, hput⟩
      · refine Or.inl ⟨pair :: pre, post, old, ?_, by rw [hmap]; rfl, by rw [hput]; rfl⟩
        simp [hpre, Ne.symm hkey]
      · refine Or.inr ⟨?_, by rw [hput]; rfl⟩
        rw [List.map_cons, List.mem_cons, not_or]
        exact ⟨Ne.symm hkey, hmap⟩

lemma putPartialSignature_idem (map : Map) (publicKey : Vector UInt8 33) (signature : Bytes) :
    putPartialSignature (putPartialSignature map publicKey signature) publicKey signature =
      putPartialSignature map publicKey signature := by
  induction map with
  | nil =>
    rw [putPartialSignature_nil, putPartialSignature_cons, if_pos rfl]
  | cons pair map ih =>
    rw [putPartialSignature_cons]
    by_cases hkey : pair.key = partialSigKey publicKey
    · rw [if_pos hkey, putPartialSignature_cons, if_pos rfl]
    · rw [if_neg hkey, putPartialSignature_cons, if_neg hkey, ih]

lemma mem_putPartialSignature {map : Map} {publicKey : Vector UInt8 33} {signature : Bytes}
    {pair : Pair} (h : pair ∈ putPartialSignature map publicKey signature) :
    pair ∈ map ∨ pair = ⟨partialSigKey publicKey, signature⟩ := by
  rcases putPartialSignature_put map publicKey signature with
    ⟨pre, post, old, _, hmap, hput⟩ | ⟨_, hput⟩
  · rw [hput, List.mem_append, List.mem_cons] at h
    rw [hmap, List.mem_append, List.mem_cons]
    rcases h with h | h | h
    · exact Or.inl (Or.inl h)
    · exact Or.inr h
    · exact Or.inl (Or.inr (Or.inr h))
  · rw [hput, List.mem_append, List.mem_singleton] at h
    exact h

lemma nodup_putPartialSignature {map : Map} (publicKey : Vector UInt8 33) (signature : Bytes)
    (h : (map.map Pair.key).Nodup) :
    ((putPartialSignature map publicKey signature).map Pair.key).Nodup := by
  rcases putPartialSignature_put map publicKey signature with
    ⟨pre, post, old, _, hmap, hput⟩ | ⟨hnew, hput⟩
  · -- replacing a value leaves the list of keys as it is
    rw [hmap, List.map_append, List.map_cons] at h
    rw [hput, List.map_append, List.map_cons]
    exact h
  · rw [hput, List.map_append, List.nodup_append]
    refine ⟨h, by simp, ?_⟩
    intro key hkey key' hk' heq
    rw [List.map_cons, List.map_nil, List.mem_singleton] at hk'
    rw [heq, hk'] at hkey
    exact hnew hkey

lemma find_putPartialSignature (map : Map) (publicKey : Vector UInt8 33) (signature : Bytes)
    (keyType : UInt8) : find (putPartialSignature map publicKey signature) keyType =
      find map keyType := by
  have hne : partialSigKey publicKey ≠ [keyType] := by
    intro h
    have hlen := congrArg List.length h
    simp [partialSigKey] at hlen
  rcases putPartialSignature_put map publicKey signature with
    ⟨pre, post, old, _, hmap, hput⟩ | ⟨_, hput⟩
  · rw [hput, hmap]
    simp [find, List.find?_append, hne]
  · rw [hput]
    simp [find, List.find?_append, hne]

section Signing
variable [Sha256] [BitcoinHashes] [K256] [Target]

/-! ## The checks on a listed input -/

variable {refuse : String → KmsError} {map : Map} {signer : P2wpkhSigner} {index inputCount : ℕ}
  {indices : List UInt32} {checked : List ℕ}

omit [K256] [Target] in
lemma refuseListedFields_eq_ok :
    refuseListedFields refuse map = .ok () ↔
      ∀ pair ∈ map, ∃ parts, pair.key = keyBytes parts ∧ refusedOnListedInput parts.1 = none := by
  induction map with
  | nil => simp [refuseListedFields]
  | cons pair map ih =>
    unfold refuseListedFields
    rw [except_bind_eq_ok]
    simp only [List.forall_mem_cons]
    constructor
    · intro h
      rcases h with ⟨parts, hp, h⟩
      have hkey := keyParts_eq_ok.mp hp
      cases hr : refusedOnListedInput parts.1 with
      | some reason =>
        simp only [hr] at h
        cases h
      | none =>
        simp only [hr] at h
        exact ⟨⟨parts, hkey, hr⟩, ih.mp h⟩
    · intro h
      rcases h with ⟨⟨parts, hkey, hr⟩, hrs⟩
      refine ⟨parts, keyParts_eq_ok.mpr hkey, ?_⟩
      simp only [hr]
      exact ih.mpr hrs

/-- The map `map` of input `index` of `tx` makes it a plain P2WPKH SIGHASH_ALL
spend of `signer`'s, of the output `utxo` of the transaction it carries. -/
structure Signable (signer : P2wpkhSigner) (tx : Transaction) (index : ℕ) (map : Map)
    (utxo : TxOut) : Prop where
  fields : ∀ pair ∈ map, ∃ parts, pair.key = keyBytes parts ∧ refusedOnListedInput parts.1 = none
  sighashType : ∀ value, find map inSighashType = some value → value = u32LeBytes 1
  partialSigs : hasPartialSignatureOtherThanAll map = false
  witnessUtxo : ∃ raw, find map inWitnessUtxo = some raw ∧ TxOut.parseExact raw = .ok utxo
  script : utxo.scriptPubkey = signer.scriptPubkey
  spent : ∃ raw previousTx input, find map inNonWitnessUtxo = some raw ∧
    Transaction.parseNetwork raw = .ok previousTx ∧ tx.inputs[index]? = some input ∧
      previousTx.outputs[input.previousOutput.vout.toNat]? = some utxo

lemma listedWitnessUtxo_eq_ok {utxo : TxOut} :
    listedWitnessUtxo refuse map signer = .ok utxo ↔
      (∀ pair ∈ map, ∃ parts, pair.key = keyBytes parts ∧
        refusedOnListedInput parts.1 = none) ∧
      (∀ value, find map inSighashType = some value → value = u32LeBytes 1) ∧
      hasPartialSignatureOtherThanAll map = false ∧
      (∃ raw, find map inWitnessUtxo = some raw ∧ TxOut.parseExact raw = .ok utxo) ∧
      utxo.scriptPubkey = signer.scriptPubkey := by
  unfold listedWitnessUtxo
  have hall : (sighashAll.toUInt32 : UInt32) = 1 := rfl
  have hd : (find map inSighashType).any (· ≠ u32LeBytes sighashAll.toUInt32) = true ↔
      ¬ ∀ value, find map inSighashType = some value → value = u32LeBytes 1 := by
    rw [hall]
    cases find map inSighashType with
    | none => simp
    | some value => simp
  rw [except_bind_eq_ok]
  constructor
  · intro h
    rcases h with ⟨_, hf, h⟩
    refine ⟨refuseListedFields_eq_ok.mp hf, ?_⟩
    split_ifs at h with hs hsg
    cases hu : find map inWitnessUtxo with
    | none =>
      simp only [hu] at h
      cases h
    | some raw =>
      simp only [hu, except_bind_eq_ok] at h
      rcases h with ⟨utxo', hraw, h⟩
      split_ifs at h with hsc
      injection h with h
      subst h
      rw [hd, not_not] at hs
      exact ⟨hs, by simpa using hsg, ⟨raw, rfl, hraw⟩, not_not.mp hsc⟩
  · intro h
    rcases h with ⟨hf, hs, hsg, ⟨raw, hu, hraw⟩, hsc⟩
    refine ⟨(), refuseListedFields_eq_ok.mpr hf, ?_⟩
    rw [if_neg (by rw [hd, not_not]; exact hs), if_neg (by simp [hsg])]
    simp only [hu]
    rw [except_bind_eq_ok]
    exact ⟨utxo, hraw, by rw [if_neg (not_not.mpr hsc)]; rfl⟩

omit [Sha256] [BitcoinHashes] [K256] in
lemma spentOutput_eq_ok {input : Option TxIn} {missing : KmsError} {utxo : TxOut} :
    spentOutput refuse map input missing = .ok utxo ↔
      ∃ raw previousTx txIn, find map inNonWitnessUtxo = some raw ∧
        Transaction.parseNetwork raw = .ok previousTx ∧ input = some txIn ∧
          previousTx.outputs[txIn.previousOutput.vout.toNat]? = some utxo := by
  unfold spentOutput
  cases find map inNonWitnessUtxo with
  | none => simp
  | some raw =>
    simp only [except_bind_eq_ok]
    cases input with
    | none => simp
    | some txIn =>
      simp only [usizeTryFrom_uint32, Option.bind_some]
      constructor
      · intro h
        rcases h with ⟨previousTx, hp, h⟩
        cases hs : previousTx.outputs[txIn.previousOutput.vout.toNat]? with
        | none => simp [hs] at h
        | some spent =>
          simp only [hs, Except.ok.injEq] at h
          subst h
          exact ⟨raw, previousTx, txIn, rfl, hp, rfl, hs⟩
      · intro h
        rcases h with ⟨raw', previousTx, txIn', hraw, hp, ht, hs⟩
        injection hraw with hraw
        injection ht with ht
        subst hraw ht
        exact ⟨previousTx, hp, by simp only [hs]⟩

/-! ## The signing loop as an update of the listed maps -/

def signMap (signer : P2wpkhSigner) (tx : Transaction) (index : ℕ) (map : Map) : Result Map := do
  let refuse := fun reason => KmsError.transactionError s!"PSBT input {index}: {reason}"
  let utxo ← listedWitnessUtxo refuse map signer
  let spent ← spentOutput refuse map tx.inputs[index]? (outOfRange index)
  if spent ≠ utxo then
    .error (refuse "witness_utxo does not match the output it spends")
  else do
    let sighash ← tx.p2wpkhSighashAll tx.sighashMidstate index signer.pubkeyHash utxo.value
    let signature ← signer.signSighashAll sighash
    pure (putPartialSignature map signer.publicKey signature)

lemma signInput_eq (signer : P2wpkhSigner) (psbt : Psbt) (index : ℕ) :
    signInput signer psbt.unsignedTx.sighashMidstate psbt index =
      (updateAt (signMap signer psbt.unsignedTx) outOfRange psbt.inputs index).map
        fun inputs => { psbt with inputs } := by
  unfold signInput updateAt signableAmount signMap
  -- both sides fail at the same step with the same error, or write the same map
  cases hmap : psbt.inputs[index]? with
  | none => rfl
  | some map =>
    simp only
    cases listedWitnessUtxo _ map signer with
    | error e => rfl
    | ok utxo =>
      simp only [bind, Except.bind]
      cases spentOutput _ map psbt.unsignedTx.inputs[index]? (outOfRange index) with
      | error e => rfl
      | ok spent =>
        by_cases hs : spent ≠ utxo
        · simp only [if_pos hs]
          rfl
        · simp only [if_neg hs]
          cases psbt.unsignedTx.p2wpkhSighashAll psbt.unsignedTx.sighashMidstate index
            signer.pubkeyHash utxo.value with
          | error e => rfl
          | ok sighash =>
            simp only
            cases signer.signSighashAll sighash with
            | error e => rfl
            | ok signature => rfl

lemma signInputs_eq (signer : P2wpkhSigner) (psbt : Psbt) (indices : List ℕ) :
    indices.foldlM (signInput signer psbt.unsignedTx.sighashMidstate) psbt =
      (updateAll (signMap signer psbt.unsignedTx) outOfRange indices psbt.inputs).map
        fun inputs => { psbt with inputs } := by
  unfold updateAll
  -- a round leaves the transaction as it is, so the midstate stays that of the PSBT
  induction indices generalizing psbt with
  | nil => rfl
  | cons index indices ih =>
    rw [List.foldlM_cons, List.foldlM_cons, signInput_eq]
    cases updateAt (signMap signer psbt.unsignedTx) outOfRange psbt.inputs index with
    | error e => rfl
    | ok inputs => exact ih { psbt with inputs }

lemma signMap_eq_ok {tx : Transaction} {map' : Map} :
    signMap signer tx index map = .ok map' ↔
      ∃ utxo input signature, Signable signer tx index map utxo ∧
        tx.inputs[index]? = some input ∧
        signer.signSighashAll (tx.bip143Digest input
          (Transaction.p2wpkhScriptCode signer.pubkeyHash) utxo.value) = .ok signature ∧
        map' = putPartialSignature map signer.publicKey signature := by
  unfold signMap
  simp only [except_bind_eq_ok, listedWitnessUtxo_eq_ok, spentOutput_eq_ok]
  constructor
  · intro h
    rcases h with ⟨utxo, ⟨hf, hsg, hsi, hu, hsc⟩, spent,
      ⟨raw, previousTx, input, hraw, hp, hin, ho⟩, h⟩
    split_ifs at h with hsp
    -- the witness UTXO is the output that the previous transaction proves
    rw [not_not] at hsp
    subst hsp
    simp only [except_bind_eq_ok, Transaction.p2wpkhSighashAll_midstate tx index _ _ hin] at h
    rcases h with ⟨sighash, hd, signature, hs, hput⟩
    injection hd with hd
    injection hput with hput
    subst hd
    exact ⟨spent, input, signature, ⟨hf, hsg, hsi, hu, hsc,
      ⟨raw, previousTx, input, hraw, hp, hin, ho⟩⟩, hin, hs, hput.symm⟩
  · intro h
    rcases h with ⟨utxo, input, signature, hok, hin, hs, hput⟩
    refine ⟨utxo, ⟨hok.fields, hok.sighashType, hok.partialSigs, hok.witnessUtxo, hok.script⟩,
      utxo, hok.spent, ?_⟩
    rw [if_neg (not_not.mpr rfl), Transaction.p2wpkhSighashAll_midstate tx index _ _ hin]
    show (signer.signSighashAll _ >>= _) = _
    rw [hs, hput]
    rfl

/-! ## The listed indices -/

omit [Sha256] [BitcoinHashes] [K256] [Target] in
lemma nodup_map_toNat :
    (indices.map UInt32.toNat).Nodup ↔ indices.Nodup :=
  List.nodup_map_iff fun _ _ h => UInt32.toNat_inj.mp h

omit [Sha256] [BitcoinHashes] [K256] in
lemma checkIndices_cons_eq_ok {seen : List ℕ} {index : UInt32} :
    checkIndices inputCount seen (index :: indices) = .ok checked ↔
      index.toNat < inputCount ∧ index.toNat ∉ seen ∧
        ∃ rest, checkIndices inputCount (index.toNat :: seen) indices = .ok rest ∧
          index.toNat :: rest = checked := by
  simp only [checkIndices, usizeTryFrom_uint32, Option.getD_some]
  split_ifs with hr hs
  · simp only [false_iff]
    omega
  · simp only [List.contains_iff_mem.mp hs, not_true, false_and, and_false]
  · rw [List.contains_iff_mem] at hs
    rw [except_bind_eq_ok, and_iff_right (Nat.lt_of_not_le hr), and_iff_right hs]
    simp only [pure, Except.pure, Except.ok.injEq]

omit [Sha256] [BitcoinHashes] [K256] in
lemma checkIndices_eq_ok {seen : List ℕ} :
    checkIndices inputCount seen indices = .ok checked ↔
      checked = indices.map UInt32.toNat ∧ (∀ i ∈ checked, i < inputCount ∧ i ∉ seen) ∧
        checked.Nodup := by
  induction indices generalizing seen checked with
  | nil =>
    simp only [checkIndices, Except.ok.injEq, List.map_nil]
    constructor
    · intro h
      subst h
      simp
    · intro h
      exact h.1.symm
  | cons index indices ih =>
    rw [checkIndices_cons_eq_ok]
    constructor
    · intro h
      rcases h with ⟨hr, hnew, rest, hrs, rfl⟩
      rcases ih.mp hrs with ⟨hmap, hf, hn⟩
      refine ⟨by rw [hmap, List.map_cons], ?_, ?_⟩
      · intro i hi
        rcases List.mem_cons.mp hi with hi | hi
        · rw [hi]
          exact ⟨hr, hnew⟩
        · have h := hf i hi
          rw [List.mem_cons, not_or] at h
          exact ⟨h.1, h.2.2⟩
      · rw [List.nodup_cons]
        refine ⟨?_, hn⟩
        intro hin
        exact (hf _ hin).2 List.mem_cons_self
    · intro h
      rcases h with ⟨rfl, hf, hn⟩
      rw [List.map_cons, List.forall_mem_cons] at hf
      rw [List.map_cons, List.nodup_cons] at hn
      refine ⟨hf.1.1, hf.1.2, indices.map UInt32.toNat, ih.mpr ⟨rfl, ?_, hn.2⟩, rfl⟩
      intro i hi
      refine ⟨(hf.2 i hi).1, ?_⟩
      rw [List.mem_cons, not_or]
      exact ⟨fun heq => hn.1 (heq ▸ hi), (hf.2 i hi).2⟩

omit [Sha256] [BitcoinHashes] [K256] in
/-- The index list is accepted when it is not empty, in range and free of
duplicates; the length check refuses nothing that the others would not. -/
lemma checkedIndices_eq_ok :
    checkedIndices indices inputCount = .ok checked ↔
      indices ≠ [] ∧ checked = indices.map UInt32.toNat ∧
        (∀ index ∈ indices, index.toNat < inputCount) ∧ indices.Nodup := by
  have hcr : checkIndices inputCount [] indices = .ok checked ↔
      checked = indices.map UInt32.toNat ∧ (∀ index ∈ indices, index.toNat < inputCount) ∧
        indices.Nodup := by
    rw [checkIndices_eq_ok]
    constructor
    · intro h
      rcases h with ⟨hc, hr, hnd⟩
      subst hc
      refine ⟨rfl, ?_, nodup_map_toNat.mp hnd⟩
      intro index hin
      exact (hr _ (List.mem_map.mpr ⟨index, hin, rfl⟩)).1
    · intro h
      rcases h with ⟨hc, hr, hnd⟩
      subst hc
      refine ⟨rfl, ?_, nodup_map_toNat.mpr hnd⟩
      intro i hi
      rcases List.mem_map.mp hi with ⟨index, hin, rfl⟩
      exact ⟨hr index hin, by simp⟩
  unfold checkedIndices
  by_cases hem : indices = []
  · simp [hem]
  · rw [if_neg (by simpa using hem)]
    by_cases hl : indices.length > inputCount
    · rw [if_pos hl]
      simp only [reduceCtorEq, false_iff]
      intro h
      rcases h with ⟨_, _, hr, hnd⟩
      -- distinct positions below `inputCount` are at most that many
      have hsub : indices.map UInt32.toNat ⊆ List.range inputCount := by
        intro i hi
        rcases List.mem_map.mp hi with ⟨index, hin, rfl⟩
        exact List.mem_range.mpr (hr index hin)
      have hle := (List.subperm_of_subset (nodup_map_toNat.mpr hnd) hsub).length_le
      rw [List.length_map, List.length_range] at hle
      omega
    · rw [if_neg hl, hcr]
      simp [hem]

lemma signWith_eq_ok [Base64] {psbtBase64 : String} {inputIndices : List UInt32} {out : String} :
    signWith signer psbtBase64 inputIndices = .ok out ↔
      ∃ bytes psbt inputs, decodeBounded psbtBase64 = .ok bytes ∧ Psbt.parse bytes = .ok psbt ∧
        (inputIndices ≠ [] ∧ (∀ index ∈ inputIndices, index.toNat < psbt.inputs.length) ∧
          inputIndices.Nodup) ∧
        updateAll (signMap signer psbt.unsignedTx) outOfRange (inputIndices.map UInt32.toNat)
          psbt.inputs = .ok inputs ∧
        out = Base64.encode { psbt with inputs }.serialize := by
  unfold signWith
  simp only [except_bind_eq_ok, checkedIndices_eq_ok, signInputs_eq, except_map_eq_ok]
  constructor
  · intro h
    rcases h with ⟨bytes, hb, psbt, hp, _, ⟨hne, hc, hr, hn⟩, _,
      ⟨inputs, hin, rfl⟩, h⟩
    subst hc
    injection h with h
    exact ⟨bytes, psbt, inputs, hb, hp, ⟨hne, hr, hn⟩, hin, h.symm⟩
  · intro h
    rcases h with ⟨bytes, psbt, inputs, hb, hp, ⟨hne, hr, hn⟩, hin, h⟩
    exact ⟨bytes, hb, psbt, hp, _, ⟨hne, rfl, hr, hn⟩, _,
      ⟨inputs, hin, rfl⟩, by rw [h]⟩

/-! ## What parsing already checked -/

omit [BitcoinHashes] [K256] in
lemma requireSpentTransaction_eq_ok {outpoint : OutPoint} :
    requireSpentTransaction index outpoint map = .ok () ↔
      ∀ raw, find map inNonWitnessUtxo = some raw → ∃ previousTx,
        Transaction.parseNetwork raw = .ok previousTx ∧ previousTx.txid = outpoint.txid ∧
          outpoint.vout.toNat < previousTx.outputs.length := by
  unfold requireSpentTransaction
  cases find map inNonWitnessUtxo with
  | none => simp
  | some raw =>
    simp only [except_bind_eq_ok, Option.some.injEq, forall_eq', usizeTryFrom_uint32,
      Option.all_some, decide_eq_true_eq]
    constructor
    · intro h
      rcases h with ⟨previousTx, hp, h⟩
      split_ifs at h with ht hv
      exact ⟨previousTx, hp, not_not.mp ht, by omega⟩
    · intro h
      rcases h with ⟨previousTx, hp, ht, hv⟩
      refine ⟨previousTx, hp, ?_⟩
      rw [if_neg (not_not.mpr ht), if_neg (by omega)]

def InputChecked (input : TxIn) (map : Map) : Prop :=
  requireSpentTransaction 0 input.previousOutput map = .ok () ∧
    requireDeclaredSighash 0 map = .ok ()

omit [Sha256] [BitcoinHashes] [K256] [Target] in
lemma requireDeclaredSighash_eq_ok :
    requireDeclaredSighash index map = .ok () ↔
      ∀ declared, find map inSighashType = some declared →
        ∀ pair ∈ map, pair.key.head? = some inPartialSig →
          (pair.value.getLast?.map fun byte => [byte, 0, 0, 0]) =
            if declared.length = 4 then some declared else none := by
  unfold requireDeclaredSighash
  cases find map inSighashType with
  | none => simp
  | some declared =>
    simp only [Option.some.injEq, forall_eq']
    generalize (if declared.length = 4 then some declared else none) = expected
    split_ifs with hany
    · simp only [false_iff]
      intro h
      rw [List.any_eq_true] at hany
      rcases hany with ⟨pair, hp, hbad⟩
      simp only [Bool.and_eq_true, decide_eq_true_eq] at hbad
      exact hbad.2 (h pair hp hbad.1)
    · simp only [true_iff]
      intro pair hp hh
      by_contra hne
      apply hany
      rw [List.any_eq_true]
      exact ⟨pair, hp, by simp [hh, hne]⟩

omit [BitcoinHashes] [K256] in
lemma inputChecked_iff (index : ℕ) {input : TxIn} :
    InputChecked input map ↔ requireSpentTransaction index input.previousOutput map = .ok () ∧
      requireDeclaredSighash index map = .ok () := by
  unfold InputChecked
  simp only [requireSpentTransaction_eq_ok, requireDeclaredSighash_eq_ok]

omit [BitcoinHashes] [K256] in
lemma checkInputs_eq_ok {checked : List (TxIn × Map)} :
    checkInputs index checked = .ok () ↔ ∀ each ∈ checked, InputChecked each.1 each.2 := by
  induction checked generalizing index with
  | nil => simp [checkInputs]
  | cons each checked ih =>
    rcases each with ⟨input, map⟩
    simp only [checkInputs, except_bind_eq_ok, List.forall_mem_cons]
    rw [inputChecked_iff index]
    constructor
    · intro h
      rcases h with ⟨_, hs, _, hd, hr⟩
      exact ⟨⟨hs, hd⟩, ih.mp hr⟩
    · intro h
      rcases h with ⟨⟨hs, hd⟩, hr⟩
      exact ⟨(), hs, (), hd, ih.mpr hr⟩

lemma Psbt.WellFormed.inputChecked {psbt : Psbt} (hwf : psbt.WellFormed) {i : ℕ} {input : TxIn}
    (hin : psbt.unsignedTx.inputs[i]? = some input)
    (hmap : psbt.inputs[i]? = some map) : InputChecked input map := by
  have hmem : (input, map) ∈ psbt.unsignedTx.inputs.zip psbt.inputs := by
    apply List.mem_of_getElem? (i := i)
    rw [List.getElem?_zip_eq_some]
    exact ⟨hin, hmap⟩
  exact checkInputs_eq_ok.mp hwf.checked _ hmem

/-! ## Single-byte fields -/

omit [Sha256] [BitcoinHashes] [K256] [Target] in
lemma mem_of_find {keyType : UInt8} {value : Bytes}
    (h : find map keyType = some value) : (⟨[keyType], value⟩ : Pair) ∈ map := by
  unfold find at h
  rw [Option.map_eq_some_iff] at h
  rcases h with ⟨pair, hp, hv⟩
  have hkey := List.find?_some hp
  rw [decide_eq_true_eq] at hkey
  rw [← hkey, ← hv]
  exact List.mem_of_find?_eq_some hp

omit [Sha256] [BitcoinHashes] [K256] [Target] in
lemma find_of_mem {keyType : UInt8} {value : Bytes}
    (hn : (map.map Pair.key).Nodup) (h : (⟨[keyType], value⟩ : Pair) ∈ map) :
    find map keyType = some value := by
  unfold find
  rw [(find?_key_eq_some hn).mpr ⟨h, rfl⟩]
  rfl

end Signing

end KrustyKms.Bitcoin

import KrustyKms.Bitcoin.PsbtMetered
import KrustyKms.Bitcoin.PsbtTheorems

/-!
# The PSBT parser takes linear time and memory

Each byte of the input pays for a fixed number of loop rounds and of bytes of memory.
-/

namespace KrustyKms.Bitcoin.Counted

open Codec Metered Support Event
open Reader hiding compactU64 compactSize varBytes

/-! ## The reader -/

lemma affords_compactU64 {n : ℕ} (s : Bytes) :
    Affords n (compactU64 s) (Reader.compactU64 s) fun _ => n := by
  refine affords_seq (affords_plain _ s) ?_
  intro bytes s' _
  have hin : bytes.toList[0]? = some bytes[0] := by rw [toList_vector_one]; rfl
  refine affords_orPanic_seq hin ?_
  split_ifs with hfd hfe hff
  · exact affords_seq (affords_plain _ s') fun _ s'' _ => affords_plain _ s''
  · exact affords_seq (affords_plain _ s') fun _ s'' _ => affords_plain _ s''
  · exact affords_seq (affords_plain _ s') fun _ s'' _ => affords_plain _ s''
  · exact affords_pure (Nat.le_refl _)

lemma affords_pushed {α : Type} {n : ℕ} {m : CountedReader α} {p : Reader α} {s : Bytes}
    {left left' : α × Bytes → ℕ} (h : Affords n (m s) (p s) left)
    (hl : ∀ a s', p s = .ok (a, s') → slot + left' (a, s') ≤ left (a, s')) :
    Affords n (pushed m s) (p s) left' := by
  rw [← bind_pure p] at hl ⊢
  refine affords_seq h ?_
  intro a s' ha
  have hs := hl a s' (by rw [bind_pure]; exact ha)
  refine affords_event_seq (p := pure a) (by rw [cost]; omega) ?_
  exact affords_pure (by rw [cost]; omega)

section Transactions
variable [Target]

lemma affords_compactSize {n : ℕ} (s : Bytes) :
    Affords n (compactSize s) (Reader.compactSize s) fun _ => n := by
  refine affords_seq (affords_compactU64 s) ?_
  intro value s' _
  cases usizeTryFrom value.toNat with
  | none => exact affords_throw
  | some len => exact affords_pure (Nat.le_refl _)

lemma affords_varBytes {n : ℕ} (s : Bytes) :
    Affords n (varBytes s) (Reader.varBytes s) fun _ => n := by
  refine affords_seq (affords_compactSize s) ?_
  intro len s' _
  exact affords_plain _ s'

lemma length_of_compactSize {s s' : Bytes} {len : ℕ} (h : Reader.compactSize s = .ok (len, s')) :
    s'.length + 1 ≤ s.length := by
  have hpos := List.length_pos_iff.mpr (writeCompactSize_ne_nil len)
  have hl := compactSize_exact.length_eq h
  omega

lemma length_of_varBytes {s s' bytes : Bytes} (h : Reader.varBytes s = .ok (bytes, s')) :
    bytes.length + s'.length + 1 ≤ s.length := by
  have hpos := List.length_pos_iff.mpr (writeCompactSize_ne_nil bytes.length)
  have hl := varBytes_exact.length_eq h
  rw [writeVarBytes, List.length_append] at hl
  omega

/-! ## Transactions -/

lemma length_of_parseInput {s s' : Bytes} {input : TxIn}
    (h : Bitcoin.parseInput s = .ok (input, s')) :
    input.scriptSig.length + s'.length + 1 ≤ s.length := by
  have hl := parseInput_exact.length_eq h
  simp only [Transaction.serializeInput, writeVarBytes, List.length_append,
    length_u32LeBytes] at hl
  omega

lemma length_of_parseOutput {s s' : Bytes} {output : TxOut} (h : TxOut.parse s = .ok (output, s')) :
    output.scriptPubkey.length + s'.length + 1 ≤ s.length := by
  have hl := TxOut.parse_exact.length_eq h
  simp only [TxOut.serializeInto, writeVarBytes, List.length_append,
    length_u64LeBytes] at hl
  omega

lemma affords_parseInput (s : Bytes) :
    Affords (514 * s.length) (parseInput s) (Bitcoin.parseInput s)
      fun x => 514 * s.length - x.1.scriptSig.length := by
  refine affords_seq (affords_plain _ s) ?_
  intro previousOutput s₁ ho
  refine affords_seq (affords_varBytes s₁) ?_
  intro scriptSig s₂ hs
  have hr := OutPoint.parse_exact.length_eq ho
  have hl := length_of_varBytes hs
  refine affords_event_seq (by rw [cost]; omega) ?_
  refine affords_seq (affords_plain _ s₂) ?_
  intro sequence s₃ _
  exact affords_pure (Nat.le_refl _)

lemma affords_parseOutput (s : Bytes) :
    Affords (514 * s.length) (parseOutput s) (TxOut.parse s)
      fun x => 514 * s.length - x.1.scriptPubkey.length := by
  refine affords_seq (affords_plain _ s) ?_
  intro value s₁ hv
  refine affords_seq (affords_varBytes s₁) ?_
  intro scriptPubkey s₂ hs
  have hr := u64Le_exact.length_eq hv
  have hl := length_of_varBytes hs
  refine affords_event_seq (p := (pure { value, scriptPubkey } : Reader TxOut)) ?_ ?_
  · rw [cost]
    omega
  · exact affords_pure (Nat.le_refl _)

lemma perToken_counted {α : Type} {m : CountedReader α} {p : Reader α}
    (h : ∀ s, Affords (514 * s.length) (m s) (p s) fun x => 514 * x.2.length + 1) :
    PerToken 514 1 (compactSize >>= many m) (Reader.compactSize >>= Parser.many p) := by
  intro s
  refine affords_seq (affords_compactSize s) ?_
  intro count s' hc
  have hl := length_of_compactSize hc
  have hm : PerToken 514 (0 + 1) (many m count) (Parser.many p count) := perToken_many h count
  exact (hm.affords (by omega)).weaken (Nat.le_refl _) fun _ _ => by omega

lemma perToken_parseInputs : PerToken 514 1 parseInputs Bitcoin.parseInputs := by
  refine perToken_counted ?_
  intro s
  refine affords_pushed (affords_parseInput s) ?_
  intro input s' hin
  have hl := length_of_parseInput hin
  rw [slot]
  dsimp only
  omega

lemma perToken_parseOutputs : PerToken 514 1 parseOutputs Bitcoin.parseOutputs := by
  refine perToken_counted ?_
  intro s
  refine affords_pushed (affords_parseOutput s) ?_
  intro output s' ho
  have hl := length_of_parseOutput ho
  rw [slot]
  dsimp only
  omega

lemma perToken_items (items : ℕ) :
    PerToken 514 1 (many varBytes items) (Parser.many Reader.varBytes items) := by
  refine perToken_many (c := 0) ?_ items
  intro s
  refine (affords_varBytes s).weaken (Nat.le_refl _) ?_
  intro item hit
  have hl := length_of_varBytes hit
  omega

lemma perToken_skipWitnesses (inputs : ℕ) (hasWitness : Bool) :
    PerToken 514 1 (skipWitnesses inputs hasWitness)
      (Bitcoin.skipWitnesses inputs hasWitness) := by
  -- induction on the inputs left, as the loop goes
  induction inputs generalizing hasWitness with
  | zero => exact fun s => affords_pure (Nat.le_refl _)
  | succ inputs ih =>
    intro s
    refine affords_event_seq (by rw [cost]; omega) ?_
    refine affords_seq (affords_compactSize s) ?_
    intro items s₁ hit
    have hl := length_of_compactSize hit
    refine affords_seq ((perToken_items items).affords (by rw [cost]; omega)) ?_
    intro _ s₂ _
    refine ((ih _).affords (by rw [cost]; dsimp only; omega)).weaken (Nat.le_refl _) ?_
    intro _ _
    rw [cost]
    dsimp only
    omega

lemma affords_parseLegacy (bytes : Bytes) :
    Affords (514 * bytes.length + 1) (parseLegacy bytes) (Transaction.parseLegacy bytes)
      fun _ => 0 := by
  refine affords_run' ?_
  refine affords_seq (affords_plain _ bytes) ?_
  intro version s₁ hv
  have hr := u32Le_exact.length_eq hv
  refine affords_seq (perToken_parseInputs.affords (by omega)) ?_
  intro inputs s₂ _
  refine affords_seq (perToken_parseOutputs.affords (by dsimp only; omega)) ?_
  intro outputs s₃ _
  refine affords_seq (affords_plain _ s₃) ?_
  intro lockTime s₄ _
  refine affords_seq (affords_plain _ s₄) ?_
  intro _ s₅ _
  exact affords_pure (Nat.zero_le _)

lemma perToken_parseWitnesses (segwit : Bool) (inputs : List TxIn) :
    PerToken 514 1 (parseWitnesses segwit inputs) (Transaction.parseWitnesses segwit inputs) := by
  cases segwit with
  | false => exact fun s => affords_pure (Nat.le_refl _)
  | true =>
    intro s
    refine affords_seq (perToken_skipWitnesses inputs.length false s) ?_
    intro hasWitness s' _
    refine (affords_plain _ s').weaken (Nat.le_refl _) ?_
    intro _ hr
    rw [(rejectIf_eq_ok.mp hr).2]

lemma affords_parseNetworkBody {n : ℕ} (version : UInt32) (segwit : Bool) {s : Bytes}
    (hn : 514 * s.length + 1 ≤ n) :
    Affords n (parseNetworkBody version segwit s)
      (Transaction.parseNetworkBody version segwit s) fun _ => 0 := by
  refine affords_seq (perToken_parseInputs.affords hn) ?_
  intro inputs s₁ _
  refine affords_seq (perToken_parseOutputs.affords (by dsimp only; omega)) ?_
  intro outputs s₂ _
  refine affords_seq (affords_plain _ s₂) ?_
  intro _ s₃ hr
  obtain ⟨-, hrs⟩ := rejectIf_eq_ok.mp hr
  rw [(Prod.mk.inj hrs).2]
  refine affords_seq ((perToken_parseWitnesses segwit inputs).affords (by dsimp only; omega)) ?_
  intro _ s₄ _
  refine affords_seq (affords_plain _ s₄) ?_
  intro lockTime s₅ _
  refine affords_seq (affords_plain _ s₅) ?_
  intro _ s₆ _
  exact affords_pure (Nat.zero_le _)

lemma affords_parseNetwork (bytes : Bytes) :
    Affords (514 * bytes.length + 1) (parseNetwork bytes) (Transaction.parseNetwork bytes)
      fun _ => 0 := by
  rw [Transaction.parseNetwork_eq]
  refine affords_run' ?_
  refine affords_seq (affords_plain _ bytes) ?_
  intro version s₁ hv
  have hr := u32Le_exact.length_eq hv
  refine affords_seq (affords_plain _ s₁) ?_
  intro segwit s₂ hs
  obtain ⟨-, rfl⟩ : [0x00, 0x01].isPrefixOf s₁ = segwit ∧ s₁ = s₂ := by
    simpa [startsWith] using hs
  cases segwit with
  | false => exact affords_parseNetworkBody version false (by omega)
  | true =>
    refine affords_seq (affords_plain _ s₁) ?_
    intro marker s₃ hm
    have hsk := (take_exact 2).length_eq hm
    exact affords_parseNetworkBody version true (by omega)

lemma affords_parseExact (bytes : Bytes) :
    Affords (514 * bytes.length) (parseExact bytes) (TxOut.parseExact bytes) fun _ => 0 := by
  refine affords_run' ?_
  refine affords_seq (affords_parseOutput bytes) ?_
  intro output s₁ _
  refine affords_seq (affords_plain _ s₁) ?_
  intro _ s₂ _
  exact affords_pure (Nat.zero_le _)

omit [Target] in
lemma affords_serializeLegacy (tx : Transaction) :
    Affords (4 * tx.serializeLegacy.length + 8) (serializeLegacy tx) (.ok tx.serializeLegacy)
      fun _ => 0 := by
  have hl := tx.length_le_length_serializeLegacy
  refine affords_step (affords_writeEach _ tx.inputs) (by omega) ?_
  refine affords_step (affords_writeEach _ tx.outputs) (by omega) ?_
  refine affords_event ?_ (affords_pure (Nat.zero_le _))
  show grown tx.serializeLegacy.length ≤ _
  rw [grown]
  omega

end Transactions

/-! ## Field checks -/

section Fields
variable [Sha256] [BitcoinHashes] [K256] [Target]

omit [Sha256] [BitcoinHashes] [K256] [Target] in
lemma affords_isMasterConsistent (xpub : Bytes) :
    Affords 8 (isMasterConsistent xpub) (.ok (Bitcoin.isMasterConsistent xpub)) fun _ => 0 := by
  unfold isMasterConsistent Bitcoin.isMasterConsistent
  split_ifs with hd hl
  · rw [hd]
    exact affords_pure (Nat.zero_le _)
  · have hall := affords_all (ε := KmsError) (· == 0) ((xpub.drop 5).take 8)
    rw [Bool.eq_false_iff.mpr hd, decide_eq_true hl, Bool.false_or, Bool.true_and]
    exact (hall.frame (List.length_take_le _ _)).weaken (Nat.le_refl _) fun _ _ => by omega
  · rw [Bool.eq_false_iff.mpr hd, decide_eq_false hl, Bool.false_or, Bool.false_and]
    exact affords_pure (Nat.zero_le _)

omit [Sha256] [BitcoinHashes] [K256] in
lemma affords_isProprietaryKey (keyData : Bytes) :
    Affords 0 (isProprietaryKey keyData) (.ok (Bitcoin.isProprietaryKey keyData)) fun _ => 0 := by
  refine affords_through (fun parsed => .ok parsed.isOk) (affords_run' ?_)
  refine affords_seq (affords_compactSize keyData) ?_
  intro identifierLen s₁ _
  refine affords_seq (affords_plain _ s₁) ?_
  intro _ s₂ _
  exact affords_compactU64 s₂

omit [Sha256] [BitcoinHashes] [K256] in
lemma affords_isWitnessStack (value : Bytes) :
    Affords (514 * value.length + 1) (isWitnessStack value) (.ok (Bitcoin.isWitnessStack value))
      fun _ => 0 := by
  refine affords_through (fun parsed => .ok parsed.isOk) (affords_run' ?_)
  refine affords_seq (affords_compactSize value) ?_
  intro items s₁ hit
  have hl := length_of_compactSize hit
  refine affords_seq ((perToken_items items).affords (by omega)) ?_
  intro _ s₂ _
  exact (affords_plain _ s₂).weaken (Nat.le_refl _) fun _ _ => by omega

omit [Sha256] [BitcoinHashes] in
lemma affords_keyIsValid (key : KeyData) (keyData : Bytes) :
    Affords 8 (keyIsValid key keyData) (.ok (Bitcoin.keyIsValid key keyData)) fun _ => 0 := by
  cases key with
  | none => exact affords_pure (Nat.zero_le _)
  | hash len => exact affords_pure (Nat.zero_le _)
  | publicKey => exact affords_pure (Nat.zero_le _)
  | proprietary =>
    exact (affords_isProprietaryKey keyData).weaken (Nat.zero_le _) fun _ _ => by omega
  | extendedPublicKey =>
    unfold keyIsValid Bitcoin.keyIsValid
    dsimp only
    split_ifs with hs
    · rw [hs, Bool.true_and]
      exact affords_step (affords_isMasterConsistent keyData) (Nat.le_refl _)
        (affords_pure (Nat.zero_le _))
    · rw [Bool.eq_false_iff.mpr hs, Bool.false_and, Bool.false_and]
      exact affords_pure (Nat.zero_le _)

omit [K256] [Target] in
lemma length_preimage_le {field : Field} (hf : field ∈ fields) {hash : Bytes → Bytes}
    (hh : field.value = .preimage hash) (value : Bytes) : (hash value).length ≤ 32 := by
  simp only [fields, f, refused, List.mem_cons, List.not_mem_nil, or_false] at hf
  rcases hf with h | h | h | h | h | h | h | h | h | h | h | h | h | h | h | h | h | h | h |
    h | h | h
  all_goals
    subst h
    cases hh <;>
    simp [ripemd160Of, sha256Of, hash160Of, hash256Of]

omit [Sha256] [BitcoinHashes] [K256] [Target] in
lemma affords_verdict {n : ℕ} {x : Metered KmsError Bool} {r : Result Bool} {e : KmsError}
    (h : Affords n x r fun _ => 0) :
    Affords n (do let valid ← x; if valid then pure () else throw e)
      (do let valid ← r; if valid then .ok () else .error e) fun _ => 0 := by
  refine affords_bind h ?_
  intro valid _
  cases valid with
  | false => exact affords_throw
  | true => exact affords_pure (Nat.le_refl _)

omit [Sha256] [BitcoinHashes] [K256] [Target] in
lemma within_eq_ok {α : Type} {field : Field} {parsed : Result α} {a : α} :
    within field parsed = .ok a ↔ parsed = .ok a := by
  unfold within
  split <;> simp

omit [Sha256] [BitcoinHashes] [K256] in
lemma affords_unsignedVerdict (field : Field) (value : Bytes) {e : KmsError} :
    Affords (515 * value.length + 40)
      (do
        let tx ← through (within field) (parseLegacy value)
        let hasScriptSig ← any (fun input => !input.scriptSig.isEmpty) tx.inputs
        if hasScriptSig then throw e else pure true)
      (do
        let tx ← within field (Transaction.parseLegacy value)
        if tx.inputs.any fun input => !input.scriptSig.isEmpty then .error e
        else pure true)
      fun _ => 0 := by
  have hp := affords_through (within field) (affords_parseLegacy value)
  refine affords_bind (hp.frame (by omega)) ?_
  intro tx htx
  obtain ⟨hs, -⟩ := Transaction.parseLegacy_eq_ok.mp (within_eq_ok.mp htx)
  have hl := tx.length_le_length_serializeLegacy
  rw [← hs] at hl
  have hany := affords_any (ε := KmsError) (fun input => !input.scriptSig.isEmpty) tx.inputs
  refine affords_step hany (by omega) ?_
  split_ifs
  · exact affords_throw
  · exact affords_pure (Nat.zero_le _)

omit [K256] in
lemma affords_checkValue {field : Field} (hf : field ∈ fields) (keyData value : Bytes) :
    Affords (515 * value.length + 40) (checkValue field keyData value)
      (Bitcoin.checkValue field keyData value) fun _ => 0 := by
  have hh : ∀ hash, field.value = .preimage hash → (hash value).length ≤ 32 :=
    fun _ hk => length_preimage_le hf hk value
  unfold checkValue Bitcoin.checkValue valueIsValid
  cases hk : field.value with
  | any => exact affords_verdict (affords_pure (Nat.zero_le _))
  | unsignedTransaction =>
    have hv := affords_verdict (e := malformed s!"{field.name} has a malformed value")
      (affords_unsignedVerdict field value
        (e := malformed "unsigned transaction has a scriptSig"))
    convert hv using 1
    cases within field (Transaction.parseLegacy value) with
    | error e => rfl
    | ok tx =>
      cases hany : tx.inputs.any fun input => !input.scriptSig.isEmpty <;>
        simp [bind, Except.bind, hany]
  | transaction =>
    have hp := affords_through (fun parsed => (within field parsed).map fun _ => true)
      (affords_parseNetwork value)
    exact affords_verdict (hp.weaken (by omega) fun _ _ => by omega)
  | output =>
    have hp := affords_through (fun parsed => (within field parsed).map fun _ => true)
      (affords_parseExact value)
    exact affords_verdict (hp.weaken (by omega) fun _ _ => by omega)
  | signature => exact affords_verdict (affords_pure (Nat.zero_le _))
  | u32 => exact affords_verdict (affords_pure (Nat.zero_le _))
  | version =>
    dsimp only
    split_ifs with hvr
    · exact affords_verdict affords_throw
    · exact affords_verdict (affords_pure (Nat.zero_le _))
  | keyOrigin => exact affords_verdict (affords_pure (Nat.zero_le _))
  | xpubKeyOrigin => exact affords_verdict (affords_pure (Nat.zero_le _))
  | witnessStack =>
    exact affords_verdict ((affords_isWitnessStack value).weaken (by omega) fun _ _ => by omega)
  | preimage hash =>
    have hc : (Event.hold (hash value).length).cost ≤ 515 * value.length + 40 :=
      (hh hash hk).trans (by omega)
    dsimp only
    split_ifs with hpr
    · exact affords_verdict (affords_event hc affords_throw)
    · exact affords_verdict (affords_event hc (affords_pure (Nat.zero_le _)))

lemma affords_checkPair (scope : Scope) (keyType : UInt64) (keyData value : Bytes) :
    Affords (515 * value.length + 70) (checkPair scope keyType keyData value)
      (Bitcoin.checkPair scope keyType keyData value) fun _ => 0 := by
  unfold checkPair Bitcoin.checkPair
  split_ifs with hv hp
  · exact affords_throw
  · exact affords_throw
  · have hl : Affords 22 (lookup scope keyType) (.ok (Bitcoin.lookup scope keyType))
        fun _ => 0 := affords_find _ fields
    refine affords_step hl (by omega) ?_
    cases hf : Bitcoin.lookup scope keyType with
    | none => exact affords_pure (Nat.zero_le _)
    | some field =>
      have hc := affords_checkValue (List.mem_of_find?_eq_some hf) keyData value
      refine affords_step (affords_keyIsValid field.key keyData) (by omega) ?_
      dsimp only
      split_ifs with hkey
      · exact affords_throw
      · exact hc.weaken (by omega) fun _ _ => by omega

end Fields

/-! ## Maps -/

lemma affords_mapFind (map : Map) (keyType : UInt8) :
    Affords map.length (find map keyType) (.ok (Bitcoin.find map keyType)) fun _ => 0 :=
  affords_step (affords_find _ map) (Nat.le_refl _) (affords_pure (Nat.zero_le _))

lemma length_value_add_length_le {map : Map} {pair : Pair} (hp : pair ∈ map) :
    pair.value.length + map.length ≤ (serializeMap map).length := by
  induction map with
  | nil => cases hp
  | cons first map ih =>
    have hf := congrArg List.length (serializeMap_cons first map [])
    have hr := length_lt_length_serializeMap map
    have hkey := List.length_pos_iff.mpr (writeCompactSize_ne_nil first.key.length)
    simp only [writeVarBytes, List.length_append, List.length_nil] at hf
    rw [List.length_cons]
    rcases List.mem_cons.mp hp with rfl | hp
    · omega
    · have ht := ih hp
      omega

lemma length_of_find {map : Map} {keyType : UInt8} {value : Bytes}
    (h : Bitcoin.find map keyType = some value) :
    value.length + map.length ≤ (serializeMap map).length := by
  obtain ⟨pair, hp, rfl⟩ := Option.map_eq_some_iff.mp h
  exact length_value_add_length_le (List.mem_of_find?_eq_some hp)

section Parsing
variable [Sha256] [BitcoinHashes] [K256] [Target]

lemma perToken_readPairs (scope : Scope) (rounds : ℕ) (keys : List (UInt64 × Bytes)) :
    PerToken 600 1 (readPairs scope rounds keys) (Bitcoin.readPairs scope rounds keys) := by
  induction rounds generalizing keys with
  | zero => exact fun s => affords_throw
  | succ rounds ih =>
    intro s
    refine affords_event_seq (by rw [cost]; omega) ?_
    refine affords_seq (affords_varBytes s) ?_
    intro key s₁ hkey
    have hk := length_of_varBytes hkey
    cases hem : key.isEmpty with
    | true =>
      refine affords_pure ?_
      rw [cost]
      dsimp only
      omega
    | false =>
      refine affords_seq (p := ofResult (keyParts key))
        (affords_lift_apply (affords_compactU64 key)) ?_
      intro parts s₂ hp
      have hs : s₂ = s₁ := (ofResult_eq_ok.mp hp).2
      subst hs
      have hps : 1 ≤ key.length := List.length_pos_iff.mpr (by simpa using hem)
      refine affords_event_seq (by rw [cost, cost, slot]; omega) ?_
      refine affords_seq (affords_plain _ s₂) ?_
      intro _ s₃ hr
      obtain ⟨-, hrs⟩ := rejectIf_eq_ok.mp hr
      rw [(Prod.mk.inj hrs).2]
      refine affords_seq (affords_varBytes s₂) ?_
      intro value s₄ hv
      have hvl := length_of_varBytes hv
      have hc := affords_checkPair scope parts.1 parts.2 value
      refine affords_seq (p := ofResult (Bitcoin.checkPair scope parts.1 parts.2 value))
        (affords_lift_apply (hc.frame ?_)) ?_
      · rw [cost, cost, slot]
        omega
      · intro _ s₅ hpr
        have hs : s₅ = s₄ := (ofResult_eq_ok.mp hpr).2
        subst hs
        refine affords_event_seq ?_ ?_
        · simp only [cost, slot]
          omega
        · refine affords_seq ((ih _).affords ?_) ?_
          · simp only [cost, slot]
            omega
          · intro map s₆ _
            refine affords_pure ?_
            simp only [cost, slot]
            omega

lemma perToken_readMap (scope : Scope) :
    PerToken 600 1 (readMap scope) (Bitcoin.readMap scope) :=
  fun s => perToken_readPairs scope (s.length + 1) [] s

lemma perToken_readMaps (scope : Scope) (count : ℕ) :
    PerToken 1200 2 (many (pushed (readMap scope)) count)
      (Parser.many (Bitcoin.readMap scope) count) := by
  refine perToken_many (c := 1) ?_ count
  intro s
  refine affords_pushed ((perToken_readMap scope).affords (by omega)) ?_
  intro map s' hmap
  have hl := (readMap_exact scope).length_eq hmap
  have hm := length_lt_length_serializeMap map
  rw [slot]
  dsimp only
  omega

/-! ## Input rules -/

omit [Sha256] [BitcoinHashes] [K256] in
lemma length_serializeLegacy_le {bytes : Bytes} {tx : Transaction}
    (h : Transaction.parseNetwork bytes = .ok tx) :
    tx.serializeLegacy.length ≤ bytes.length := by
  obtain ⟨-, -, -, hen⟩ := Transaction.parseNetwork_eq_ok.mp h
  rcases hen with rfl | ⟨record, -, -, rfl⟩
  · exact Nat.le_refl _
  · simp only [Transaction.serializeLegacy, Transaction.serializeWitness, List.length_append]
    omega

omit [BitcoinHashes] [K256] [Target] in
lemma affords_txid (tx : Transaction) :
    Affords (4 * tx.serializeLegacy.length + 8) (txid tx) (.ok tx.txid) fun _ => 0 :=
  affords_step (affords_serializeLegacy tx) (Nat.le_refl _) (affords_pure (Nat.zero_le _))

omit [BitcoinHashes] [K256] in
lemma affords_requireSpentTransaction (index : ℕ) (outpoint : OutPoint) (map : Map) :
    Affords (518 * (serializeMap map).length + 9) (requireSpentTransaction index outpoint map)
      (Bitcoin.requireSpentTransaction index outpoint map) fun _ => 0 := by
  have hmap := length_lt_length_serializeMap map
  unfold requireSpentTransaction Bitcoin.requireSpentTransaction
  refine affords_step (affords_mapFind map inNonWitnessUtxo) (by omega) ?_
  cases hf : Bitcoin.find map inNonWitnessUtxo with
  | none => exact affords_pure (Nat.zero_le _)
  | some bytes =>
    have hl := length_of_find hf
    refine affords_bind ((affords_parseNetwork bytes).frame (by omega)) ?_
    intro previousTx hp
    have hw := length_serializeLegacy_le hp
    refine affords_step (affords_txid previousTx) (by omega) ?_
    split_ifs with ht hv
    · exact affords_throw
    · exact affords_throw
    · exact affords_pure (Nat.zero_le _)

omit [Sha256] [BitcoinHashes] [K256] [Target] in
lemma affords_requireDeclaredSighash (index : ℕ) (map : Map) :
    Affords (2 * map.length) (requireDeclaredSighash index map)
      (Bitcoin.requireDeclaredSighash index map) fun _ => 0 := by
  unfold requireDeclaredSighash Bitcoin.requireDeclaredSighash
  refine affords_step (affords_mapFind map inSighashType) (by omega) ?_
  cases Bitcoin.find map inSighashType with
  | none => exact affords_pure (Nat.zero_le _)
  | some declared =>
    refine affords_step (affords_any _ map) (by omega) ?_
    dsimp only
    generalize List.any map _ = mismatch
    cases mismatch with
    | false => exact affords_pure (Nat.zero_le _)
    | true => exact affords_throw

omit [BitcoinHashes] [K256] in
/-- The bytes of the input maps pay for the rules on them; the count of a `usize` number of
inputs does not overflow. -/
lemma affords_checkInputs (index : ℕ) (inputs : List (TxIn × Map))
    (hin : index + inputs.length ≤ usizeMax) :
    Affords (530 * (inputs.flatMap fun input => serializeMap input.2).length)
      (checkInputs index inputs) (Bitcoin.checkInputs index inputs) fun _ => 0 := by
  induction inputs generalizing index with
  | nil => exact affords_pure (Nat.le_refl _)
  | cons input inputs ih =>
    have hmap := length_lt_length_serializeMap input.2
    rw [List.length_cons] at hin
    rw [List.flatMap_cons, List.length_append]
    refine affords_event (by rw [cost]; omega) ?_
    refine affords_orPanic (if_pos (show index + 1 ≤ usizeMax by omega)) ?_
    refine affords_bind ((affords_requireSpentTransaction index _ input.2).frame ?_) ?_
    · rw [cost]
      omega
    · intro _ _
      refine affords_bind ((affords_requireDeclaredSighash index input.2).frame ?_) ?_
      · rw [cost]
        omega
      · intro _ _
        refine (ih (index + 1) (by omega)).weaken ?_ fun _ _ => ?_
        · rw [cost]
          omega
        · rw [cost]
          omega

omit [Sha256] [BitcoinHashes] [K256] in
lemma affords_unsignedTransaction (global : Map) :
    Affords (514 * (serializeMap global).length + 1) (unsignedTransaction global)
      (Bitcoin.unsignedTransaction global) fun _ => 0 := by
  have hmap := length_lt_length_serializeMap global
  unfold unsignedTransaction Bitcoin.unsignedTransaction
  refine affords_step (affords_mapFind global globalUnsignedTx) (by omega) ?_
  cases hf : Bitcoin.find global globalUnsignedTx with
  | none => exact affords_throw
  | some raw =>
    have hl := length_of_find hf
    exact (affords_parseLegacy raw).weaken (by omega) fun _ _ => by omega

omit [Sha256] [BitcoinHashes] [K256] in
lemma length_inputs_le {global : Map} {tx : Transaction}
    (h : Bitcoin.unsignedTransaction global = .ok tx) : tx.inputs.length ≤ usizeMax := by
  unfold Bitcoin.unsignedTransaction at h
  cases hf : Bitcoin.find global globalUnsignedTx with
  | none =>
    rw [hf] at h
    cases h
  | some raw =>
    rw [hf] at h
    exact (Transaction.parseLegacy_eq_ok.mp h).2.inputs

omit [Sha256] [BitcoinHashes] [K256] [Target] in
lemma flatMap_zip_serializeMap {inputs : List TxIn} {maps : List Map}
    (h : maps.length = inputs.length) :
    (inputs.zip maps).flatMap (fun input => serializeMap input.2) = maps.flatMap serializeMap := by
  rw [← List.flatMap_map, List.map_snd_zip (Nat.le_of_eq h)]

/-! ## The parser -/

lemma affords_parse (bytes : Bytes) :
    Affords (2000 * bytes.length) (parse bytes) (Psbt.parse bytes) fun _ => 0 := by
  refine affords_run' ?_
  refine affords_seq (affords_plain _ bytes) ?_
  intro head s₁ hh
  have hm : bytes.length = magic.length + s₁.length := by
    rw [(take_exact _).length_eq hh, id, (take_exact _).valid hh]
  rw [show magic.length = 5 from rfl] at hm
  refine affords_seq (affords_plain _ s₁) ?_
  intro _ s₂ hrj
  obtain ⟨-, hrs⟩ := rejectIf_eq_ok.mp hrj
  rw [(Prod.mk.inj hrs).2]
  refine affords_seq ((perToken_readMap .global).affords (by omega)) ?_
  intro global s₃ hg
  have hgl := (readMap_exact .global).length_eq hg
  refine affords_seq (p := ofResult (Bitcoin.unsignedTransaction global))
    (affords_lift_apply ((affords_unsignedTransaction global).frame ?_)) ?_
  · dsimp only
    omega
  intro unsignedTx s₄ hu
  have hs : s₄ = s₃ := (ofResult_eq_ok.mp hu).2
  subst hs
  refine affords_seq ((perToken_readMaps .input _).affords ?_) ?_
  · dsimp only
    omega
  intro inputs s₅ hin
  obtain ⟨hib, hc, -⟩ := ((readMap_exact .input).many _).sound hin
  have hil := congrArg List.length hib
  rw [List.length_append] at hil
  have hr := affords_checkInputs 0 (unsignedTx.inputs.zip inputs) (by
    have hus : unsignedTx.inputs.length ≤ usizeMax :=
      length_inputs_le (ofResult_eq_ok.mp hu).1
    rw [List.length_zip]
    omega)
  rw [flatMap_zip_serializeMap hc] at hr
  refine affords_seq (p := ofResult (Bitcoin.checkInputs 0 (unsignedTx.inputs.zip inputs)))
    (affords_lift_apply (hr.frame ?_)) ?_
  · dsimp only
    omega
  intro _ s₆ hch
  have hs : s₆ = s₅ := (ofResult_eq_ok.mp hch).2
  subst hs
  refine affords_seq ((perToken_readMaps .output _).affords ?_) ?_
  · dsimp only
    omega
  intro outputs s₇ _
  refine affords_seq (affords_plain _ s₇) ?_
  intro _ s₈ _
  exact affords_pure (Nat.zero_le _)

/-- The PSBT parser ends as it does without its meter, never in a panic; its loops take at
most 2000 rounds a byte of the input together, and it asks for at most 2000 bytes of memory
a byte of the input. -/
theorem parse_linear (bytes : Bytes) :
    (parse bytes).outcome.run = some (Psbt.parse bytes) ∧
      rounds (parse bytes).calls ≤ 2000 * bytes.length ∧
      memory (parse bytes).calls ≤ 2000 * bytes.length := by
  have h := affords_parse bytes
  exact ⟨h.outcome, h.rounds_le, h.memory_le⟩

end Parsing

end KrustyKms.Bitcoin.Counted

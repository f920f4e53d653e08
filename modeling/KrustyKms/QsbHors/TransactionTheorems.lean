import KrustyKms.Bitcoin.TxTheorems
import KrustyKms.QsbHors.Transaction
import KrustyKms.Support.Fallible
import Mathlib.Algebra.Order.BigOperators.Group.List

/-!
# The two transaction parsers accept the same bytes

The vault's parser and `Transaction.parse_legacy` were written independently.
-/

namespace KrustyKms.QsbHors

open Codec Codec.Cursor Bitcoin Support

variable [Target]

/-! ## The readers follow those of the transaction parser -/

namespace Reader

lemma take_apply (len : UInt64) (field : String) {bytes : Bytes} (pos : ℕ)
    (hl : bytes.length ≤ usizeMax) :
    take len field bytes pos =
      if pos + len.toNat ≤ bytes.length then
        .ok ((bytes.take (pos + len.toNat)).drop pos, pos + len.toNat)
      else .error (malformed s!"truncated {field} at byte {pos}") := by
  unfold take usizeTryFrom checkedAdd
  by_cases hend : pos + len.toNat ≤ bytes.length
  · rw [if_pos hend, if_pos (by omega), Option.bind_some, if_pos (by omega)]
    simp only [Option.filter_some, hend, decide_true, if_true]
  · rw [if_neg hend]
    by_cases hlen : len.toNat ≤ usizeMax
    · rw [if_pos hlen, Option.bind_some]
      by_cases hadd : pos + len.toNat ≤ usizeMax
      · rw [if_pos hadd, Option.filter_some, if_neg (by simpa using hend)]
      · rw [if_neg hadd]
        rfl
    · rw [if_neg hlen]
      rfl

lemma take_follows (len : UInt64) (field : String) :
    Follows usizeMax (take len field) (Bitcoin.Reader.take len.toNat) := by
  have ha : ∀ {pre s : Bytes}, (pre ++ s).length ≤ usizeMax →
      take len field (pre ++ s) pre.length =
        if len.toNat ≤ s.length then .ok (s.take len.toNat, pre.length + len.toNat)
        else .error (malformed s!"truncated {field} at byte {pre.length}") := by
    intro pre s hl
    rw [take_apply len field _ hl, List.take_length_add_append, List.drop_left,
      List.length_append]
    simp only [Nat.add_le_add_iff_left]
  refine ⟨?_, ?_⟩
  · intro pre s bytes pos hl h
    rw [ha hl] at h
    split_ifs at h with hend
    injection h with h
    injection h with hb hpos
    refine ⟨s.take len.toNat, s.drop len.toNat, (List.take_append_drop _ _).symm, ?_, ?_⟩
    · rw [← hpos, List.length_append, List.length_take_of_le hend]
    · rw [← hb, Bitcoin.Reader.take, if_pos hend]
  · intro pre s s' bytes hl h
    unfold Bitcoin.Reader.take at h
    split_ifs at h with hend
    injection h with h
    injection h with hb hs
    subst hb hs
    refine ⟨s.take len.toNat, (List.take_append_drop _ _).symm, ?_⟩
    rw [ha hl, if_pos hend, List.length_append, List.length_take_of_le hend]

lemma array_follows {n : ℕ} (hn : n < 2 ^ 64) (field : String) :
    Follows usizeMax (array n field) (Bitcoin.Reader.array n) := by
  have ht := take_follows (UInt64.ofNat n) field
  rw [UInt64.toNat_ofNat_of_lt' hn] at ht
  apply ht.bind
  intro taken
  by_cases h : taken.length = n
  · rw [dif_pos h, dif_pos h]
    exact .pure _
  · rw [dif_neg h, dif_neg h]
    exact .throw _ _

omit [Target] in
lemma canonical_follows (value minimum : UInt64) (field : String) (start limit : ℕ) :
    Follows limit (canonical value minimum field start)
      (Bitcoin.Reader.canonical value minimum) := by
  unfold canonical Bitcoin.Reader.canonical Bitcoin.Reader.rejectIf
  by_cases h : value < minimum
  · rw [if_pos h, if_pos (by simpa using h)]
    exact .throw _ _
  · rw [if_neg h, if_neg (by simpa using h)]
    exact .pure _

theorem compactSize_follows (field : String) :
    Follows usizeMax (compactSize field) Bitcoin.Reader.compactU64 := by
  unfold compactSize Bitcoin.Reader.compactU64 Bitcoin.Reader.u64Le Bitcoin.Reader.uintLe
  simp only [bind_assoc, pure_bind]
  apply Follows.get_bind
  intro start
  apply (array_follows (by decide) field).bind
  intro tag
  have hget : tag.get ⟨0, Nat.one_pos⟩ = tag[0] := rfl
  rw [hget]
  by_cases hfd : tag[0] = 0xfd
  · rw [if_pos hfd, if_pos hfd]
    exact (array_follows (by decide) field).bind fun _ => canonical_follows _ _ _ _ _
  rw [if_neg hfd, if_neg hfd]
  by_cases hfe : tag[0] = 0xfe
  · rw [if_pos hfe, if_pos hfe]
    exact (array_follows (by decide) field).bind fun _ => canonical_follows _ _ _ _ _
  rw [if_neg hfe, if_neg hfe]
  by_cases hff : tag[0] = 0xff
  · rw [if_pos hff, if_pos hff]
    exact (array_follows (by decide) field).bind fun _ => canonical_follows _ _ _ _ _
  · rw [if_neg hff, if_neg hff]
    exact .pure _

end Reader

open Reader

/-! ## Inputs -/

def nullOutpoint : OutPoint := ⟨.replicate 32 0, 0xffffffff⟩

omit [Target] in
lemma exists_outPoint (bytes : Vector UInt8 36) :
    ∃ outpoint : OutPoint, bytes.toList = outpoint.serializeInto := by
  have hs : (bytes.toList.take 32).toArray.size = 32 := by simp
  have ht : (Vector.mk (bytes.toList.take 32).toArray hs).toList = bytes.toList.take 32 :=
    Bitcoin.Reader.toList_mk_toArray _ hs
  have hv : u32LeBytes (u32FromLeBytes (bytes.toList.drop 32)) = bytes.toList.drop 32 :=
    Bitcoin.Reader.u32LeBytes_u32FromLeBytes (by simp)
  refine ⟨⟨⟨_, hs⟩, u32FromLeBytes (bytes.toList.drop 32)⟩, ?_⟩
  show _ = Vector.toList _ ++ u32LeBytes _
  rw [ht, hv, List.take_append_drop]

variable {bytes pre s s' : Bytes} {outpoint : OutPoint} {seen : List OutPoint}
  {outpoints : List (Vector UInt8 36)} {rounds input pos output : ℕ} {r : Unit × ℕ}
  {total inputCount : UInt64}

omit [Target] in
lemma isNullOutpoint_iff {bytes : Vector UInt8 36} (h : bytes.toList = outpoint.serializeInto) :
    isNullOutpoint bytes = true ↔ outpoint = nullOutpoint := by
  unfold isNullOutpoint
  rw [h, OutPoint.serializeInto, List.take_left' (by simp), List.drop_left' (by simp)]
  simp only [Bool.and_eq_true, beq_iff_eq]
  constructor
  · intro hz
    apply OutPoint.serializeInto_injective
    rw [OutPoint.serializeInto, hz.1, hz.2]
    decide
  · intro hn
    rw [hn]
    decide

/-- The vault's rules for inputs that come behind inputs spending `seen`. -/
structure InputsOk (seen : List OutPoint) (inputs : List TxIn) : Prop where
  scriptSig : ∀ input ∈ inputs, input.scriptSig = []
  notNull : ∀ input ∈ inputs, input.previousOutput ≠ nullOutpoint
  fresh : ∀ input ∈ inputs, input.previousOutput ∉ seen
  nodup : (inputs.map TxIn.previousOutput).Nodup

omit [Target] in
lemma inputsOk_nil (seen : List OutPoint) : InputsOk seen [] :=
  ⟨by simp, by simp, by simp, by simp⟩

omit [Target] in
lemma inputsOk_cons {input : TxIn} {inputs : List TxIn} :
    InputsOk seen (input :: inputs) ↔
      input.scriptSig = [] ∧ input.previousOutput ≠ nullOutpoint ∧ input.previousOutput ∉ seen ∧
        InputsOk (input.previousOutput :: seen) inputs := by
  constructor
  · intro h
    have hn := h.nodup
    rw [List.map_cons, List.nodup_cons] at hn
    refine ⟨h.scriptSig input (by simp), h.notNull input (by simp), h.fresh input (by simp),
      ⟨fun each hec => h.scriptSig each (by simp [hec]),
        fun each hec => h.notNull each (by simp [hec]), ?_, hn.2⟩⟩
    intro each hec hin
    rcases List.mem_cons.mp hin with heq | hin
    · exact hn.1 (List.mem_map.mpr ⟨each, hec, heq⟩)
    · exact h.fresh each (by simp [hec]) hin
  · intro h
    rcases h with ⟨hs, hnl, hnew, hr⟩
    refine ⟨?_, ?_, ?_, ?_⟩
    · simpa [hs] using hr.scriptSig
    · simpa [hnl] using hr.notNull
    · intro each hec
      rcases List.mem_cons.mp hec with heq | hec
      · rw [heq]
        exact hnew
      · exact fun hin => hr.fresh each hec (List.mem_cons_of_mem _ hin)
    · rw [List.map_cons, List.nodup_cons]
      refine ⟨?_, hr.nodup⟩
      intro hin
      rcases List.mem_map.mp hin with ⟨each, hec, heq⟩
      exact hr.fresh each hec (by rw [heq]; exact List.mem_cons_self)

omit [Target] in
lemma serializeInput_empty {input : TxIn} (h : input.scriptSig = []) :
    Transaction.serializeInput input =
      input.previousOutput.serializeInto ++ ([0x00] ++ u32LeBytes input.sequence) := by
  rw [Transaction.serializeInput, h, List.append_assoc]
  rfl

def SameOutpoints (outpoints : List (Vector UInt8 36)) (seen : List OutPoint) : Prop :=
  outpoints.map Vector.toList = seen.map OutPoint.serializeInto

omit [Target] in
lemma SameOutpoints.cons {bytes : Vector UInt8 36} (hs : SameOutpoints outpoints seen)
    (hb : bytes.toList = outpoint.serializeInto) :
    SameOutpoints (bytes :: outpoints) (outpoint :: seen) := by
  unfold SameOutpoints at hs ⊢
  rw [List.map_cons, List.map_cons, hs, hb]

omit [Target] in
lemma SameOutpoints.contains_iff {bytes : Vector UInt8 36} (hs : SameOutpoints outpoints seen)
    (hb : bytes.toList = outpoint.serializeInto) :
    outpoints.contains bytes = true ↔ outpoint ∈ seen := by
  have hl : bytes.toList ∈ outpoints.map Vector.toList ↔ bytes ∈ outpoints :=
    List.mem_map_of_injective fun _ _ => Vector.toList_inj.mp
  have hr : outpoint.serializeInto ∈ seen.map OutPoint.serializeInto ↔ outpoint ∈ seen :=
    List.mem_map_of_injective fun _ _ => OutPoint.serializeInto_injective
  rw [List.contains_iff_mem, ← hl, hs, hb, hr]

lemma readInputs_succ_sound (hs : SameOutpoints outpoints seen) (hl : (pre ++ s).length ≤ usizeMax)
    (h : readInputs (rounds + 1) input outpoints (pre ++ s) pre.length = .ok r) :
    ∃ first bytes s', s = Transaction.serializeInput first ++ s' ∧ first.scriptSig = [] ∧
      first.previousOutput ≠ nullOutpoint ∧ first.previousOutput ∉ seen ∧
      SameOutpoints (bytes :: outpoints) (first.previousOutput :: seen) ∧
      readInputs rounds (input + 1) (bytes :: outpoints)
        ((pre ++ Transaction.serializeInput first) ++ s')
        (pre ++ Transaction.serializeInput first).length = .ok r := by
  unfold readInputs at h
  rw [Cursor.bind_eq_ok] at h
  rcases h with ⟨bytes, pos₁, hb, h⟩
  rcases (array_follows (by decide) _).eq_write (Bitcoin.Reader.array_exact 36) hl hb with
    ⟨s₁, rfl, rfl, _⟩
  rcases exists_outPoint bytes with ⟨outpoint, ho⟩
  rw [ite_throw_eq_ok, ite_throw_eq_ok, Cursor.bind_eq_ok] at h
  rcases h with ⟨hn, hr, scriptLen, pos₂, hsc, h⟩
  rw [← List.append_assoc] at hsc h hl
  rcases (compactSize_follows _).eq_write Bitcoin.Reader.compactU64_exact hl hsc with
    ⟨s₂, rfl, rfl, _⟩
  rw [ite_throw_eq_ok, not_not, Cursor.bind_eq_ok] at h
  rcases h with ⟨rfl, sequence, pos₃, hsq, h⟩
  rw [← List.append_assoc] at hsq h hl
  rcases (take_follows _ _).eq_write (Bitcoin.Reader.take_exact _) hl hsq with
    ⟨s₃, rfl, rfl, hlen⟩
  have hf : Transaction.serializeInput ⟨outpoint, [], u32FromLeBytes sequence⟩ =
      bytes.toList ++ (writeCompactSize (0 : UInt64).toNat ++ sequence) := by
    rw [serializeInput_empty rfl, ho, Bitcoin.Reader.u32LeBytes_u32FromLeBytes hlen]
    rfl
  refine ⟨⟨outpoint, [], u32FromLeBytes sequence⟩, bytes, s₃, ?_, rfl, ?_, ?_,
    hs.cons ho, ?_⟩
  · rw [hf]
    simp only [id, List.append_assoc]
  · rw [isNullOutpoint_iff ho] at hn
    exact hn
  · rw [hs.contains_iff ho] at hr
    exact hr
  · rw [hf]
    simp only [id, List.append_assoc] at h ⊢
    exact h

lemma readInputs_succ_complete {first : TxIn} (hsn : SameOutpoints outpoints seen)
    (hl : (pre ++ (Transaction.serializeInput first ++ s')).length ≤ usizeMax)
    (hsc : first.scriptSig = []) (hn : first.previousOutput ≠ nullOutpoint)
    (hnew : first.previousOutput ∉ seen)
    (hr : ∀ bytes, SameOutpoints (bytes :: outpoints) (first.previousOutput :: seen) →
    readInputs rounds (input + 1) (bytes :: outpoints)
    ((pre ++ Transaction.serializeInput first) ++ s')
    (pre ++ Transaction.serializeInput first).length = .ok r) :
    readInputs (rounds + 1) input outpoints (pre ++ (Transaction.serializeInput first ++ s'))
      pre.length = .ok r := by
  have hs : first.previousOutput.serializeInto.toArray.size = 36 := by simp
  have hb : (Vector.mk first.previousOutput.serializeInto.toArray hs).toList =
      first.previousOutput.serializeInto := Bitcoin.Reader.toList_mk_toArray _ hs
  generalize Vector.mk first.previousOutput.serializeInto.toArray hs = bytes at hb
  have hf : Transaction.serializeInput first =
      bytes.toList ++ (writeCompactSize (0 : UInt64).toNat ++ u32LeBytes first.sequence) := by
    rw [serializeInput_empty hsc, hb]
    rfl
  have hlp := hr bytes (hsn.cons hb)
  rw [hf] at hl hlp ⊢
  simp only [List.append_assoc] at hl ⊢
  rw [readInputs, Cursor.bind_eq_ok]
  refine ⟨bytes, _, (array_follows (by decide) _).of_write (Bitcoin.Reader.array_exact 36) hl
    trivial, ?_⟩
  rw [← List.append_assoc] at hl ⊢
  rw [ite_throw_eq_ok, ite_throw_eq_ok, Cursor.bind_eq_ok, isNullOutpoint_iff hb,
    hsn.contains_iff hb]
  refine ⟨hn, hnew, 0, _, (compactSize_follows _).of_write Bitcoin.Reader.compactU64_exact
    hl trivial, ?_⟩
  rw [← List.append_assoc] at hl ⊢
  rw [ite_throw_eq_ok, Cursor.bind_eq_ok]
  have hseq := (take_follows 4 "sequence").of_write (Bitcoin.Reader.take_exact _) hl
    (Bitcoin.Reader.length_u32LeBytes first.sequence)
  refine ⟨by simp, _, _, hseq, ?_⟩
  simp only [id, List.append_assoc] at hlp ⊢
  exact hlp

lemma readInputs_sound (rounds : ℕ) (hs : SameOutpoints outpoints seen)
    (hl : (pre ++ s).length ≤ usizeMax)
    (h : readInputs rounds input outpoints (pre ++ s) pre.length = .ok ((), pos)) :
    ∃ inputs s', inputs.length = rounds ∧ s = inputs.flatMap Transaction.serializeInput ++ s' ∧
      pos = (pre ++ inputs.flatMap Transaction.serializeInput).length ∧ InputsOk seen inputs := by
  induction rounds generalizing input outpoints seen pre s with
  | zero =>
    injection h with h
    injection h with _ hpos
    exact ⟨[], s, rfl, rfl, by simp [hpos], inputsOk_nil seen⟩
  | succ rounds ih =>
    rcases readInputs_succ_sound hs hl h with
      ⟨first, bytes, s₁, rfl, hsc, hn, hnew, hs', hlp⟩
    rw [← List.append_assoc] at hl
    rcases ih hs' hl hlp with ⟨inputs, s', hc, rfl, hpos, hok⟩
    refine ⟨first :: inputs, s', by rw [List.length_cons, hc], ?_, ?_,
      inputsOk_cons.mpr ⟨hsc, hn, hnew, hok⟩⟩
    · rw [List.flatMap_cons, List.append_assoc]
    · rw [hpos, List.flatMap_cons, List.append_assoc]

lemma readInputs_complete (inputs : List TxIn) (s' : Bytes) (hs : SameOutpoints outpoints seen)
    (hl : (pre ++ (inputs.flatMap Transaction.serializeInput ++ s')).length ≤ usizeMax)
    (hok : InputsOk seen inputs) :
    readInputs inputs.length input outpoints
        (pre ++ (inputs.flatMap Transaction.serializeInput ++ s')) pre.length =
      .ok ((), (pre ++ inputs.flatMap Transaction.serializeInput).length) := by
  induction inputs generalizing input outpoints seen pre with
  | nil =>
    simp only [List.flatMap_nil, List.append_nil]
    rfl
  | cons first inputs ih =>
    rcases inputsOk_cons.mp hok with ⟨hsc, hn, hnew, hr⟩
    rw [List.flatMap_cons, List.append_assoc] at hl
    rw [List.flatMap_cons, List.append_assoc, List.length_cons]
    apply readInputs_succ_complete hs hl hsc hn hnew
    intro bytes hs'
    rw [← List.append_assoc] at hl
    rw [ih hs' hl hr, List.append_assoc]

/-! ## Outputs -/

def totalValue (outputs : List TxOut) : ℕ := (outputs.map fun output => output.value.toNat).sum

omit [Target] in
lemma totalValue_cons (output : TxOut) (outputs : List TxOut) :
    totalValue (output :: outputs) = output.value.toNat + totalValue outputs := rfl

omit [Target] in
lemma toNat_maxMoney : maxMoney.toNat = 2100000000000000 := rfl

omit [Target] in
lemma toNat_add_of_le (total value : UInt64) (ht : total.toNat ≤ maxMoney.toNat)
    (hv : value.toNat ≤ maxMoney.toNat) :
    (total + value).toNat = total.toNat + value.toNat := by
  rw [toNat_maxMoney] at ht hv
  rw [UInt64.toNat_add, Nat.mod_eq_of_lt (by omega)]

lemma readOutputs_succ_sound (ht : total.toNat ≤ maxMoney.toNat) (hl : (pre ++ s).length ≤ usizeMax)
    (h : readOutputs (rounds + 1) output total (pre ++ s) pre.length = .ok r) :
    ∃ (first : TxOut) (s' : Bytes), s = first.serializeInto ++ s' ∧ first.Fits ∧
      (total + first.value).toNat = total.toNat + first.value.toNat ∧
      (total + first.value).toNat ≤ maxMoney.toNat ∧
      readOutputs rounds (output + 1) (total + first.value) ((pre ++ first.serializeInto) ++ s')
        (pre ++ first.serializeInto).length = .ok r := by
  unfold readOutputs at h
  rw [Cursor.bind_eq_ok] at h
  rcases h with ⟨bytes, pos₁, hb, h⟩
  rcases (array_follows (by decide) _).eq_write (Bitcoin.Reader.array_exact 8) hl hb with
    ⟨s₁, rfl, rfl, _⟩
  have hv : u64LeBytes (u64FromLeBytes bytes.toList) = bytes.toList :=
    u64LeBytes_u64FromLeBytes bytes.length_toList
  rw [ite_throw_eq_ok, ite_throw_eq_ok, Cursor.bind_eq_ok] at h
  rcases h with ⟨hmax, hsum, scriptLen, pos₂, hlen, h⟩
  rw [gt_iff_lt, UInt64.lt_iff_toNat_lt, not_lt] at hmax hsum
  rw [← List.append_assoc] at hlen h hl
  rcases (compactSize_follows _).eq_write Bitcoin.Reader.compactU64_exact hl hlen with
    ⟨s₂, rfl, rfl, _⟩
  rw [Cursor.bind_eq_ok] at h
  rcases h with ⟨script, pos₃, hs, h⟩
  rw [← List.append_assoc] at hs h hl
  rcases (take_follows _ _).eq_write (Bitcoin.Reader.take_exact _) hl hs with
    ⟨s₃, rfl, rfl, hsl⟩
  have hf : TxOut.serializeInto ⟨u64FromLeBytes bytes.toList, script⟩ =
      bytes.toList ++ (writeCompactSize scriptLen.toNat ++ script) := by
    rw [TxOut.serializeInto, hv, writeVarBytes, hsl]
  refine ⟨⟨u64FromLeBytes bytes.toList, script⟩, s₃, ?_, ?_, toNat_add_of_le _ _ ht hmax,
    hsum, ?_⟩
  · rw [hf]
    simp only [id, List.append_assoc]
  · -- the script is a part of the slice
    show script.length ≤ usizeMax
    simp only [id, List.length_append] at hl
    omega
  · rw [hf]
    simp only [id, List.append_assoc] at h ⊢
    exact h

lemma readOutputs_succ_complete {first : TxOut}
    (hl : (pre ++ (first.serializeInto ++ s')).length ≤ usizeMax)
    (hm : total.toNat + first.value.toNat ≤ maxMoney.toNat)
    (hr : readOutputs rounds (output + 1) (total + first.value)
    ((pre ++ first.serializeInto) ++ s') (pre ++ first.serializeInto).length = .ok r) :
    readOutputs (rounds + 1) output total (pre ++ (first.serializeInto ++ s')) pre.length =
      .ok r := by
  have hs : (u64LeBytes first.value).toArray.size = 8 := by simp
  have hb : (Vector.mk (u64LeBytes first.value).toArray hs).toList =
      u64LeBytes first.value := Bitcoin.Reader.toList_mk_toArray _ hs
  generalize Vector.mk (u64LeBytes first.value).toArray hs = bytes at hb
  have hv : u64FromLeBytes bytes.toList = first.value := by
    rw [hb, u64FromLeBytes_u64LeBytes]
  -- the script is a part of the slice, so its length is a CompactSize value
  have hsc : (UInt64.ofNat first.scriptPubkey.length).toNat = first.scriptPubkey.length := by
    simp only [TxOut.serializeInto, writeVarBytes, List.length_append] at hl
    exact toNat_ofNat_of_le_usizeMax (by omega)
  have hf : first.serializeInto = bytes.toList ++
      (writeCompactSize (UInt64.ofNat first.scriptPubkey.length).toNat ++ first.scriptPubkey) := by
    rw [TxOut.serializeInto, writeVarBytes, hb, hsc]
  rw [hf] at hl hr ⊢
  simp only [List.append_assoc] at hl ⊢
  rw [readOutputs, Cursor.bind_eq_ok]
  refine ⟨bytes, _, (array_follows (by decide) _).of_write (Bitcoin.Reader.array_exact 8) hl
    trivial, ?_⟩
  rw [← List.append_assoc] at hl ⊢
  simp only [hv]
  rw [ite_throw_eq_ok, ite_throw_eq_ok, Cursor.bind_eq_ok]
  refine ⟨?_, ?_, _, _, (compactSize_follows _).of_write Bitcoin.Reader.compactU64_exact hl
    trivial, ?_⟩
  · rw [gt_iff_lt, UInt64.lt_iff_toNat_lt]
    omega
  · rw [gt_iff_lt, UInt64.lt_iff_toNat_lt, toNat_add_of_le _ _ (by omega) (by omega)]
    omega
  rw [← List.append_assoc] at hl ⊢
  have ht := (take_follows (UInt64.ofNat first.scriptPubkey.length) "scriptPubKey").of_write
    (Bitcoin.Reader.take_exact _) hl hsc.symm
  rw [Cursor.bind_eq_ok]
  refine ⟨_, _, ht, ?_⟩
  simp only [id, List.append_assoc] at hr ⊢
  exact hr

lemma readOutputs_sound (rounds : ℕ)
    (ht : total.toNat ≤ maxMoney.toNat) (hl : (pre ++ s).length ≤ usizeMax)
    (h : readOutputs rounds output total (pre ++ s) pre.length = .ok ((), pos)) :
    ∃ outputs s', outputs.length = rounds ∧ s = outputs.flatMap TxOut.serializeInto ++ s' ∧
      pos = (pre ++ outputs.flatMap TxOut.serializeInto).length ∧
      (∀ each ∈ outputs, each.Fits) ∧ total.toNat + totalValue outputs ≤ maxMoney.toNat := by
  induction rounds generalizing output total pre s with
  | zero =>
    injection h with h
    injection h with _ hpos
    exact ⟨[], s, rfl, rfl, by simp [hpos], by simp, by simpa [totalValue] using ht⟩
  | succ rounds ih =>
    rcases readOutputs_succ_sound ht hl h with
      ⟨first, s₁, rfl, hfit, hsum, ht', hlp⟩
    rw [← List.append_assoc] at hl
    rcases ih ht' hl hlp with ⟨outputs, s', hc, rfl, hpos, hf, hm⟩
    refine ⟨first :: outputs, s', by rw [List.length_cons, hc], ?_, ?_, ?_, ?_⟩
    · rw [List.flatMap_cons, List.append_assoc]
    · rw [hpos, List.flatMap_cons, List.append_assoc]
    · exact List.forall_mem_cons.mpr ⟨hfit, hf⟩
    · rw [totalValue_cons]
      omega

lemma readOutputs_complete (outputs : List TxOut) (s' : Bytes)
    (hl : (pre ++ (outputs.flatMap TxOut.serializeInto ++ s')).length ≤ usizeMax)
    (hm : total.toNat + totalValue outputs ≤ maxMoney.toNat) :
    readOutputs outputs.length output total
        (pre ++ (outputs.flatMap TxOut.serializeInto ++ s')) pre.length =
      .ok ((), (pre ++ outputs.flatMap TxOut.serializeInto).length) := by
  induction outputs generalizing output total pre with
  | nil =>
    simp only [List.flatMap_nil, List.append_nil]
    rfl
  | cons first outputs ih =>
    rw [totalValue_cons] at hm
    rw [List.flatMap_cons, List.append_assoc] at hl
    rw [List.flatMap_cons, List.append_assoc, List.length_cons]
    apply readOutputs_succ_complete hl (by omega)
    have hsum := toNat_add_of_le total first.value (by omega) (by omega)
    rw [← List.append_assoc] at hl
    rw [ih hl (by omega), List.append_assoc]

/-! ## Whole transactions -/

omit [Target] in
lemma refuseMarker_eq_ok :
    refuseMarker (pre ++ s) pre.length = .ok r ↔ s.head? ≠ some 0x00 ∧ r = ((), pre.length) := by
  have hget : (pre ++ s)[pre.length]? = s.head? := by
    rw [List.getElem?_append_right (by omega), Nat.sub_self, List.head?_eq_getElem?]
  unfold refuseMarker
  rw [hget]
  by_cases h : s.head? = some 0x00
  · simp [h]
  · rw [if_neg h]
    simp [h, eq_comm]

omit [Target] in
lemma finish_eq_ok :
    finish bytes pos = .ok r ↔ pos = bytes.length ∧ r = ((), pos) := by
  unfold finish
  by_cases h : pos = bytes.length
  · rw [if_neg (by simpa using h)]
    simp [h, eq_comm]
  · rw [if_pos h]
    simp [h]

structure ReadAs (tx : Transaction) (bytes : Bytes) (inputCount : UInt64) : Prop where
  bytes_eq : bytes = tx.serializeLegacy
  inputCount : inputCount.toNat = tx.inputs.length
  inputs_ne : tx.inputs ≠ []
  outputs_ne : tx.outputs ≠ []
  inputs : InputsOk [] tx.inputs
  outputs : ∀ output ∈ tx.outputs, output.Fits
  money : totalValue tx.outputs ≤ maxMoney.toNat

lemma ReadAs.fits {tx : Transaction}
    (h : ReadAs tx bytes inputCount) (hl : bytes.length ≤ usizeMax) : tx.Fits := by
  have hcounts := tx.length_le_length_serializeLegacy
  rw [← h.bytes_eq] at hcounts
  refine ⟨by omega, by omega, ?_, h.outputs⟩
  intro input hip
  show input.scriptSig.length ≤ usizeMax
  rw [h.inputs.scriptSig input hip]
  simp

lemma inputs_sound {count : UInt64} (hl : (pre ++ s).length ≤ usizeMax) (hm : s.head? ≠ some 0x00)
    (h : inputs (pre ++ s) pre.length = .ok (count, pos)) :
    ∃ txIns s', count.toNat = txIns.length ∧ txIns ≠ [] ∧ InputsOk [] txIns ∧
      s = (writeCompactSize txIns.length ++ txIns.flatMap Transaction.serializeInput) ++ s' ∧
      pos = (pre ++
        (writeCompactSize txIns.length ++ txIns.flatMap Transaction.serializeInput)).length := by
  unfold inputs at h
  simp only [Cursor.bind_eq_ok] at h
  rcases h with ⟨count', pos₁, hcn, _, pos₂, hin, h⟩
  injection h with h
  injection h with hc hpos
  subst hc hpos
  rcases (compactSize_follows _).eq_write Bitcoin.Reader.compactU64_exact hl hcn with
    ⟨s₁, rfl, rfl, _⟩
  rw [← List.append_assoc] at hin hl
  rcases readInputs_sound _ (show SameOutpoints [] [] from rfl)
    hl hin with ⟨txIns, s', hln, rfl, hpos, hok⟩
  rw [← hln] at hm hpos ⊢
  refine ⟨txIns, s', rfl, ?_, hok, by rw [List.append_assoc], by rw [hpos, List.append_assoc]⟩
  intro hnil
  rw [hnil] at hm
  exact hm rfl

lemma outputs_sound (hl : (pre ++ s).length ≤ usizeMax)
    (h : outputs (pre ++ s) pre.length = .ok ((), pos)) :
    ∃ txOuts s', txOuts ≠ [] ∧ (∀ output ∈ txOuts, output.Fits) ∧
      totalValue txOuts ≤ maxMoney.toNat ∧
      s = (writeCompactSize txOuts.length ++ txOuts.flatMap TxOut.serializeInto) ++ s' ∧
      pos = (pre ++
        (writeCompactSize txOuts.length ++ txOuts.flatMap TxOut.serializeInto)).length := by
  unfold outputs at h
  rw [Cursor.bind_eq_ok] at h
  rcases h with ⟨count, pos₁, hc, h⟩
  rw [ite_throw_eq_ok] at h
  rcases h with ⟨hz, h⟩
  rcases (compactSize_follows _).eq_write Bitcoin.Reader.compactU64_exact hl hc with
    ⟨s₁, rfl, rfl, _⟩
  rw [← List.append_assoc] at h hl
  rcases readOutputs_sound _ (by decide) hl h with
    ⟨txOuts, s', hln, rfl, hpos, hf, hm⟩
  rw [← hln] at hpos ⊢
  refine ⟨txOuts, s', ?_, hf, by simpa using hm, by rw [List.append_assoc],
    by rw [hpos, List.append_assoc]⟩
  intro hnil
  apply hz
  apply UInt64.toNat_inj.mp
  rw [← hln, hnil]
  rfl

lemma readTransaction_sound
    (hl : bytes.length ≤ usizeMax) (h : readTransaction bytes 0 = .ok (inputCount, pos)) :
    ∃ tx, ReadAs tx bytes inputCount := by
  unfold readTransaction at h
  simp only [Cursor.bind_eq_ok] at h
  rcases h with ⟨version, pos₁, hv, _, pos₂, hm, count, pos₃, hin, _, pos₄,
    ho, lockTime, pos₅, hlt, _, pos₆, hf, h⟩
  injection h with h
  injection h with hc _
  subst hc
  rcases (take_follows 4 "version").eq_write (Bitcoin.Reader.take_exact _)
    (show (([] : Bytes) ++ bytes).length ≤ usizeMax from hl) hv with
    ⟨s₁, rfl, rfl, hvl⟩
  simp only [id, List.nil_append] at hm hin ho hlt hf hl
  rcases refuseMarker_eq_ok.mp hm with ⟨hmr, heq⟩
  injection heq with _ heq
  subst heq
  rcases inputs_sound hl hmr hin with
    ⟨txIns, s₂, hc, hip, hio, rfl, rfl⟩
  rw [← List.append_assoc] at ho hlt hf hl
  rcases outputs_sound hl ho with ⟨txOuts, s₃, hon, hft, hmn, rfl, rfl⟩
  rw [← List.append_assoc] at hlt hf hl
  rcases (take_follows 4 "locktime").eq_write (Bitcoin.Reader.take_exact _) hl hlt with
    ⟨s₄, rfl, rfl, hlc⟩
  -- nothing is left behind the lock time
  have hend := (finish_eq_ok.mp hf).1
  simp only [id, List.length_append] at hend
  have hnil : s₄ = [] := List.eq_nil_of_length_eq_zero (by omega)
  subst hnil
  refine ⟨⟨u32FromLeBytes version, txIns, txOuts, u32FromLeBytes lockTime⟩,
    ⟨?_, hc, hip, hon, hio, hft, hmn⟩⟩
  unfold Transaction.serializeLegacy
  rw [Bitcoin.Reader.u32LeBytes_u32FromLeBytes hvl,
    Bitcoin.Reader.u32LeBytes_u32FromLeBytes hlc]
  simp only [id, List.append_assoc, List.append_nil]

lemma inputs_complete {count : UInt64} {txIns : List TxIn}
    (hc : count.toNat = txIns.length) (hok : InputsOk [] txIns)
    (hl : (pre ++ ((writeCompactSize txIns.length ++
    txIns.flatMap Transaction.serializeInput) ++ s')).length ≤ usizeMax) :
    inputs (pre ++ ((writeCompactSize txIns.length ++
        txIns.flatMap Transaction.serializeInput) ++ s')) pre.length =
      .ok (count, (pre ++ (writeCompactSize txIns.length ++
        txIns.flatMap Transaction.serializeInput)).length) := by
  rw [List.append_assoc, ← hc] at hl ⊢
  unfold inputs
  rw [Cursor.bind_eq_ok]
  refine ⟨count, _, (compactSize_follows _).of_write Bitcoin.Reader.compactU64_exact hl
    trivial, ?_⟩
  rw [← List.append_assoc, hc] at hl ⊢
  rw [Cursor.bind_eq_ok]
  refine ⟨(), _, readInputs_complete txIns s'
    (show SameOutpoints [] [] from rfl) hl hok, ?_⟩
  simp only [Cursor.pure_apply, List.append_assoc]

lemma outputs_complete {txOuts : List TxOut} (hne : txOuts ≠ [])
    (hm : totalValue txOuts ≤ maxMoney.toNat) (hl : (pre ++ ((writeCompactSize txOuts.length ++
    txOuts.flatMap TxOut.serializeInto) ++ s')).length ≤ usizeMax) :
    outputs (pre ++ ((writeCompactSize txOuts.length ++
        txOuts.flatMap TxOut.serializeInto) ++ s')) pre.length =
      .ok ((), (pre ++ (writeCompactSize txOuts.length ++
        txOuts.flatMap TxOut.serializeInto)).length) := by
  have hmn := Parser.length_le_length_flatMap TxOut.serializeInto_ne_nil txOuts
  have hln : (UInt64.ofNat txOuts.length).toNat = txOuts.length := by
    simp only [List.length_append] at hl
    exact toNat_ofNat_of_le_usizeMax (by omega)
  have hn : UInt64.ofNat txOuts.length ≠ 0 := by
    intro hz
    rw [hz] at hln
    exact hne (List.eq_nil_of_length_eq_zero hln.symm)
  generalize UInt64.ofNat txOuts.length = count at hln hn
  rw [List.append_assoc, ← hln] at hl ⊢
  unfold outputs
  rw [Cursor.bind_eq_ok]
  refine ⟨count, _, (compactSize_follows _).of_write Bitcoin.Reader.compactU64_exact hl
    trivial, ?_⟩
  rw [ite_throw_eq_ok]
  refine ⟨hn, ?_⟩
  rw [← List.append_assoc, hln] at hl ⊢
  have hz : (0 : UInt64).toNat + totalValue txOuts ≤ maxMoney.toNat := by simpa using hm
  rw [readOutputs_complete txOuts s' hl hz, List.append_assoc]

lemma readTransaction_complete {tx : Transaction}
    (hl : bytes.length ≤ usizeMax) (h : ReadAs tx bytes inputCount) :
    readTransaction bytes 0 = .ok (inputCount, bytes.length) := by
  have hb : bytes = [] ++ (u32LeBytes tx.version ++
      ((writeCompactSize tx.inputs.length ++ tx.inputs.flatMap Transaction.serializeInput) ++
      ((writeCompactSize tx.outputs.length ++ tx.outputs.flatMap TxOut.serializeInto) ++
      (u32LeBytes tx.lockTime ++ [])))) := by
    rw [h.bytes_eq, Transaction.serializeLegacy]
    simp only [List.append_assoc, List.append_nil, List.nil_append]
  have hm : ((writeCompactSize tx.inputs.length ++
      tx.inputs.flatMap Transaction.serializeInput) ++
      ((writeCompactSize tx.outputs.length ++ tx.outputs.flatMap TxOut.serializeInto) ++
      (u32LeBytes tx.lockTime ++ []))).head? ≠ some 0x00 := by
    have hlt := inputCount.toNat_lt
    rw [h.inputCount] at hlt
    rw [List.append_assoc]
    exact head_writeCompactSize_ne hlt (List.length_pos_iff.mpr h.inputs_ne) _
  unfold readTransaction
  simp only [Cursor.bind_eq_ok]
  rw [hb] at hl ⊢
  refine ⟨_, _, (take_follows 4 "version").of_write (Bitcoin.Reader.take_exact _) hl
    (Bitcoin.Reader.length_u32LeBytes tx.version), ?_⟩
  simp only [id, List.nil_append] at hl ⊢
  refine ⟨(), _, refuseMarker_eq_ok.mpr ⟨hm, rfl⟩, inputCount, _,
    inputs_complete h.inputCount h.inputs hl, ?_⟩
  rw [← List.append_assoc] at hl ⊢
  refine ⟨(), _, outputs_complete h.outputs_ne h.money hl, ?_⟩
  rw [← List.append_assoc] at hl ⊢
  refine ⟨_, _, (take_follows 4 "locktime").of_write (Bitcoin.Reader.take_exact _) hl
    (Bitcoin.Reader.length_u32LeBytes tx.lockTime), (), _, finish_eq_ok.mpr ⟨?_, rfl⟩, ?_⟩
  · simp
  · simp

/-! ## The whole check -/

/-- On inputs within the size limit, the checked operations never overflow where
the weight is still allowed. -/
lemma unlockingBudget_eq_ok {len : ℕ} :
    unlockingBudget len inputCount = .ok () ↔
      4 * len + 2 + inputCount.toNat * 40117 ≤ 400000 := by
  have hf : (2 : ℕ) ^ 32 - 1 ≤ usizeMax := le_usizeMax (by decide)
  unfold unlockingBudget usizeTryFrom checkedMul checkedAdd
  rw [show maxUnlockingWeightPerInput = 40117 from rfl, show segwitMarkerAndFlag = 2 from rfl,
    show witnessScaleFactor = 4 from rfl, show maxStandardTxWeight = 400000 from rfl]
  by_cases hle : 4 * len + 2 + inputCount.toNat * 40117 ≤ 400000
  · rw [if_pos (by omega), Option.bind_some, if_pos (by omega), Option.bind_some,
      if_pos (by omega), Option.bind_some, if_pos (by omega)]
    simp only [hle, iff_true]
    rw [if_pos (by omega)]
  · simp only [hle, iff_false]
    split
    · rename_i weight hs
      simp only [Option.bind_eq_some_iff, Option.ite_none_right_eq_some, Option.some.injEq] at hs
      rcases hs with ⟨count, ⟨_, rfl⟩, unlocking, ⟨_, rfl⟩, total, ⟨_, rfl⟩, _, rfl⟩
      rw [if_neg (by omega)]
      simp
    · simp

lemma exists_readAs_of_validate (h : validate bytes = .ok ()) :
    bytes.length ≤ 50000 ∧ ∃ tx inputCount, ReadAs tx bytes inputCount ∧
      4 * bytes.length + 2 + tx.inputs.length * 40117 ≤ 400000 := by
  unfold validate at h
  split_ifs at h with hs
  have hsm : bytes.length ≤ 50000 := Nat.le_of_not_lt hs
  have hl : bytes.length ≤ usizeMax := le_usizeMax (by omega)
  rw [except_bind_eq_ok] at h
  obtain ⟨⟨inputCount, pos⟩, hr, hb⟩ := h
  obtain ⟨tx, htx⟩ := readTransaction_sound hl hr
  rw [unlockingBudget_eq_ok, htx.inputCount] at hb
  exact ⟨hsm, tx, inputCount, htx, hb⟩

/-- The vault's check accepts exactly the bytes that the transaction parser reads
as a transaction within the vault's rules. -/
theorem validate_iff_parseLegacy (bytes : Bytes) :
    validate bytes = .ok () ↔
      bytes.length ≤ 50000 ∧ ∃ tx, Transaction.parseLegacy bytes = .ok tx ∧
        tx.inputs ≠ [] ∧ tx.outputs ≠ [] ∧ (∀ input ∈ tx.inputs, input.scriptSig = []) ∧
        (tx.inputs.map TxIn.previousOutput).Nodup ∧
        (∀ input ∈ tx.inputs, input.previousOutput ≠ ⟨.replicate 32 0, 0xffffffff⟩) ∧
        (∀ output ∈ tx.outputs, output.value.toNat ≤ 2100000000000000) ∧
        (tx.outputs.map fun output => output.value.toNat).sum ≤ 2100000000000000 ∧
        4 * bytes.length + 2 + tx.inputs.length * 40117 ≤ 400000 := by
  constructor
  · intro h
    obtain ⟨hs, tx, inputCount, htx, hb⟩ := exists_readAs_of_validate h
    have hl : bytes.length ≤ usizeMax := le_usizeMax (by omega)
    have hp : Transaction.parseLegacy bytes = .ok tx :=
      Transaction.parseLegacy_eq_ok.mpr ⟨htx.bytes_eq, htx.fits hl⟩
    refine ⟨hs, tx, hp, htx.inputs_ne, htx.outputs_ne, htx.inputs.scriptSig,
      htx.inputs.nodup, htx.inputs.notNull, ?_, htx.money, hb⟩
    intro output ho
    exact (List.single_le_sum (by simp) _ (List.mem_map.mpr ⟨output, ho, rfl⟩)).trans
      htx.money
  · intro h
    rcases h with ⟨hs, tx, hp, hin, hout, hsc, hn, hnl, _, hm, hb⟩
    have hl : bytes.length ≤ usizeMax := le_usizeMax (by omega)
    rcases Transaction.parseLegacy_eq_ok.mp hp with ⟨hby, hf⟩
    have hc : (UInt64.ofNat tx.inputs.length).toNat = tx.inputs.length :=
      toNat_ofNat_of_le_usizeMax hf.inputs
    have htx : ReadAs tx bytes (UInt64.ofNat tx.inputs.length) :=
      ⟨hby, hc, hin, hout, ⟨hsc, hnl, by simp, hn⟩, hf.output, hm⟩
    have hsz : ¬ bytes.length > maxTransactionSize := Nat.not_lt.mpr hs
    unfold validate
    rw [if_neg hsz, except_bind_eq_ok]
    refine ⟨_, readTransaction_complete hl htx, ?_⟩
    rw [unlockingBudget_eq_ok, hc]
    exact hb

example : @validate target64 coinTx.serializeLegacy = .ok () := by decide +kernel

end KrustyKms.QsbHors

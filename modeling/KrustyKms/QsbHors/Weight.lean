import KrustyKms.QsbHors.TransactionTheorems

/-!
# The spend of an accepted transaction is standard

`validate` budgets a full scriptSig and a P2WPKH witness for each input of `T`.
-/

namespace KrustyKms.QsbHors

open Bitcoin Support

/-- The BIP-141 weight of a transaction with its witness record: three times the size without
the record, plus the size as it is sent, where a record that is all empty is left out. -/
def weight (tx : Transaction) (record : List (List Bytes)) : ℕ :=
  3 * tx.serializeLegacy.length +
    if Transaction.hasWitness record then (tx.serializeWitness record).length
    else tx.serializeLegacy.length

structure InputCompletes (input input' : TxIn) : Prop where
  previousOutput : input'.previousOutput = input.previousOutput
  sequence : input'.sequence = input.sequence
  scriptSig : input'.scriptSig.length ≤ 10000

/-- `tx'` with its witness record is a spend that `tx` stands for: each input has a scriptSig
within the consensus limit and a witness no longer than a P2WPKH one. -/
structure Completes (tx tx' : Transaction) (record : List (List Bytes)) : Prop where
  version : tx'.version = tx.version
  inputs : List.Forall₂ InputCompletes tx.inputs tx'.inputs
  outputs : tx'.outputs = tx.outputs
  lockTime : tx'.lockTime = tx.lockTime
  witnesses : record.length = tx.inputs.length
  witness : ∀ stack ∈ record, (Transaction.serializeStack stack).length ≤ 109

/-! ## Sizes -/

lemma length_writeCompactSize_le {n : ℕ} (h : n ≤ 10000) : (writeCompactSize n).length ≤ 3 := by
  rw [Bitcoin.Reader.writeCompactSize_eq (by omega)]
  split_ifs with h1 h2
  · simp
  · simp [Codec.length_leBytes]
  · omega
  · omega

lemma length_serializeInput (input : TxIn) :
    (Transaction.serializeInput input).length =
      40 + (writeCompactSize input.scriptSig.length).length + input.scriptSig.length := by
  simp only [Transaction.serializeInput, writeVarBytes, List.length_append,
    OutPoint.length_serializeInto, Bitcoin.Reader.length_u32LeBytes]
  omega

lemma InputCompletes.length_le {input input' : TxIn} (h : InputCompletes input input') :
    (Transaction.serializeInput input').length ≤
      (Transaction.serializeInput input).length + 10002 := by
  have hnew := length_writeCompactSize_le h.scriptSig
  have hold : 0 < (writeCompactSize input.scriptSig.length).length :=
    List.length_pos_iff.mpr (Bitcoin.Reader.writeCompactSize_ne_nil _)
  have hs := h.scriptSig
  rw [length_serializeInput, length_serializeInput]
  omega

lemma length_inputs_le {inputs inputs' : List TxIn}
    (h : List.Forall₂ InputCompletes inputs inputs') :
    (inputs'.flatMap Transaction.serializeInput).length ≤
      (inputs.flatMap Transaction.serializeInput).length + inputs.length * 10002 := by
  induction h with
  | nil => simp
  | cons hin _ ih =>
    have hl := hin.length_le
    simp only [List.flatMap_cons, List.length_append, List.length_cons]
    omega

lemma length_record_le {record : List (List Bytes)}
    (h : ∀ stack ∈ record, (Transaction.serializeStack stack).length ≤ 109) :
    (record.flatMap Transaction.serializeStack).length ≤ record.length * 109 := by
  induction record with
  | nil => simp
  | cons stack record ih =>
    rw [List.forall_mem_cons] at h
    have hr := ih h.2
    simp only [List.flatMap_cons, List.length_append, List.length_cons]
    omega

lemma length_serializeWitness (tx : Transaction) (record : List (List Bytes)) :
    (tx.serializeWitness record).length =
      tx.serializeLegacy.length + 2 + (record.flatMap Transaction.serializeStack).length := by
  simp only [Transaction.serializeWitness, Transaction.serializeLegacy, List.length_append,
    List.length_cons, List.length_nil]
  omega

variable {tx tx' : Transaction} {record : List (List Bytes)}

lemma Completes.length_le (h : Completes tx tx' record) :
    tx'.serializeLegacy.length ≤ tx.serializeLegacy.length + tx.inputs.length * 10002 := by
  have hin := length_inputs_le h.inputs
  simp only [Transaction.serializeLegacy, List.length_append, h.version, h.outputs, h.lockTime,
    ← h.inputs.length_eq]
  omega

lemma Completes.weight_le (h : Completes tx tx' record) :
    weight tx' record ≤ 4 * tx.serializeLegacy.length + 2 + tx.inputs.length * 40117 := by
  have hl := h.length_le
  have hr := length_record_le h.witness
  rw [h.witnesses] at hr
  unfold weight
  split_ifs
  · rw [length_serializeWitness]
    omega
  · omega

/-- **The spend of an accepted transaction is standard.** Whatever the vault accepts is the
serialization of a transaction, and every completion of that transaction, with scriptSigs of at
most 10,000 bytes and witnesses of at most 109, has a weight of at most 400,000. -/
theorem completed_weight_le [Target] {bytes : Bytes} (h : validate bytes = .ok ()) :
    ∃ tx, Transaction.parseLegacy bytes = .ok tx ∧ bytes = tx.serializeLegacy ∧
      ∀ tx' record, Completes tx tx' record → weight tx' record ≤ 400000 := by
  obtain ⟨hs, tx, inputCount, htx, hb⟩ := exists_readAs_of_validate h
  have hl : bytes.length ≤ usizeMax := le_usizeMax (by omega)
  refine ⟨tx, Transaction.parseLegacy_eq_ok.mpr ⟨htx.bytes_eq, htx.fits hl⟩, htx.bytes_eq, ?_⟩
  intro tx' record hc
  have hw := hc.weight_le
  rw [← htx.bytes_eq] at hw
  omega

def coinSpend : Transaction where
  version := 2
  inputs := [{
    previousOutput := { txid := .replicate 32 0x11, vout := 0 }
    scriptSig := List.replicate 10000 0x51
    sequence := 0xffffffff }]
  outputs := coinTx.outputs
  lockTime := 0

def coinWitness : List (List Bytes) := [[List.replicate 73 0x30, List.replicate 33 0x02]]

lemma coinSpend_completes : Completes coinTx coinSpend coinWitness where
  version := rfl
  inputs := by
    refine .cons ⟨rfl, rfl, ?_⟩ .nil
    rw [List.length_replicate]
  outputs := rfl
  lockTime := rfl
  witnesses := rfl
  witness := by
    decide +kernel

theorem coinSpend_weight_le :
    letI := target64
    validate coinTx.serializeLegacy = .ok () ∧ weight coinSpend coinWitness ≤ 400000 := by
  let _ := target64
  have hv : validate coinTx.serializeLegacy = .ok () := by
    decide +kernel
  obtain ⟨tx, hp, -, hw⟩ := completed_weight_le hv
  have hc : Transaction.parseLegacy coinTx.serializeLegacy = .ok coinTx := by
    decide +kernel
  rw [hc, Except.ok.injEq] at hp
  subst hp
  exact ⟨hv, hw _ _ coinSpend_completes⟩

end KrustyKms.QsbHors

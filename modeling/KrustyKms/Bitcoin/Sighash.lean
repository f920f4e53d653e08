import KrustyKms.Bitcoin.TxTheorems

/-!
# The P2WPKH sighash is BIP-143's and binds what it signs
-/

namespace KrustyKms.Bitcoin

open Codec Codec.Parser Reader

namespace Transaction

/-! ## BIP-143 -/

def p2wpkhScriptCode (pubkeyHash : Vector UInt8 20) : Bytes :=
  [0x76, 0xa9, 0x14] ++ pubkeyHash.toList ++ [0x88, 0xac]

/-- The BIP-143 digest of `input` under SIGHASH_ALL, in the order of the BIP:
version, hashPrevouts, hashSequence, outpoint, script code, amount, sequence,
hashOutputs, lock time and sighash type. -/
def bip143Digest [Sha256] (tx : Transaction) (input : TxIn) (scriptCode : Bytes)
    (amount : UInt64) : Vector UInt8 32 :=
  doubleSha256 <|
    u32LeBytes tx.version ++
    ((doubleSha256 ((tx.inputs.map TxIn.previousOutput).flatMap OutPoint.serializeInto)).toList ++
    ((doubleSha256 ((tx.inputs.map TxIn.sequence).flatMap u32LeBytes)).toList ++
    (input.previousOutput.serializeInto ++
    (writeVarBytes scriptCode ++
    (u64LeBytes amount ++
    (u32LeBytes input.sequence ++
    ((doubleSha256 (tx.outputs.flatMap TxOut.serializeInto)).toList ++
    (u32LeBytes tx.lockTime ++
    u32LeBytes 1))))))))

lemma writeVarBytes_p2wpkhScriptCode (pubkeyHash : Vector UInt8 20) :
    writeVarBytes (p2wpkhScriptCode pubkeyHash) =
      [0x19, 0x76, 0xa9, 0x14] ++ pubkeyHash.toList ++ [0x88, 0xac] := by
  have hlen : (p2wpkhScriptCode pubkeyHash).length = 25 := by
    simp [p2wpkhScriptCode]
  rw [writeVarBytes, hlen]
  rfl

/-- Through the shared midstate the code computes BIP-143's digest. -/
theorem p2wpkhSighashAll_midstate [Sha256] (tx : Transaction) (index : ℕ)
    (pubkeyHash : Vector UInt8 20) (amount : UInt64) {input : TxIn}
    (hin : tx.inputs[index]? = some input) :
    tx.p2wpkhSighashAll tx.sighashMidstate index pubkeyHash amount
      = .ok (tx.bip143Digest input (p2wpkhScriptCode pubkeyHash) amount) := by
  unfold p2wpkhSighashAll
  rw [hin]
  simp only [bip143Digest, sighashPreimage, sighashMidstate, writeVarBytes_p2wpkhScriptCode,
    List.flatMap_map, List.append_assoc]
  rfl

/-! ## Binding -/

def sighashStrings [Sha256] (tx : Transaction) (index : ℕ) (pubkeyHash : Vector UInt8 20)
    (amount : UInt64) : List Bytes :=
  match tx.inputs[index]? with
  | none => []
  | some input =>
    [ tx.inputs.flatMap fun each => each.previousOutput.serializeInto,
      tx.inputs.flatMap fun each => u32LeBytes each.sequence,
      tx.outputs.flatMap TxOut.serializeInto,
      tx.sighashPreimage tx.sighashMidstate input pubkeyHash amount ]

/-- `doubleSha256` is injective on the strings of `as` against those of `bs`. No
function into 32 bytes is injective on all byte strings, so injectivity is only
asked of the strings that two given computations hash. -/
def CollisionFree [Sha256] (as bs : List Bytes) : Prop :=
  ∀ a ∈ as, ∀ b ∈ bs, doubleSha256 a = doubleSha256 b → a = b

instance [Sha256] (as bs : List Bytes) : Decidable (CollisionFree as bs) :=
  inferInstanceAs (Decidable (∀ a ∈ as, ∀ b ∈ bs, doubleSha256 a = doubleSha256 b → a = b))

lemma sighashPreimage_injective {tx tx' : Transaction} {m m' : SighashMidstate}
    {input input' : TxIn} {pkh pkh' : Vector UInt8 20} {amount amount' : UInt64}
    (h : tx.sighashPreimage m input pkh amount = tx'.sighashPreimage m' input' pkh' amount') :
    tx.version = tx'.version ∧ m = m' ∧ input.previousOutput = input'.previousOutput ∧
      pkh = pkh' ∧ amount = amount' ∧ input.sequence = input'.sequence ∧
      tx.lockTime = tx'.lockTime := by
  have hvec : ∀ {n : ℕ} {v w : Vector UInt8 n} {s t : Bytes},
      v.toList ++ s = w.toList ++ t → v = w ∧ s = t :=
    fun heq => (array_exact _).prefix_free trivial trivial heq
  have hu32 : ∀ {v w : UInt32} {s t : Bytes},
      u32LeBytes v ++ s = u32LeBytes w ++ t → v = w ∧ s = t :=
    fun heq => u32Le_exact.prefix_free trivial trivial heq
  unfold sighashPreimage at h
  simp only [List.append_assoc] at h
  rcases hu32 h with ⟨hv, h⟩
  rcases hvec h with ⟨hp, h⟩
  rcases hvec h with ⟨hs, h⟩
  rcases OutPoint.parse_exact.prefix_free trivial trivial h with ⟨ho, h⟩
  have h := List.append_cancel_left h
  rcases hvec h with ⟨hpkh, h⟩
  have h := List.append_cancel_left h
  rcases u64Le_exact.prefix_free trivial trivial h with ⟨ha, h⟩
  rcases hu32 h with ⟨hseq, h⟩
  rcases hvec h with ⟨hot, h⟩
  rcases hu32 h with ⟨hl, _⟩
  have hm : m = m' := by
    cases m
    cases m'
    simp only [SighashMidstate.mk.injEq]
    exact ⟨hp, hs, hot⟩
  exact ⟨hv, hm, ho, hpkh, ha, hseq, hl⟩

/-- The fields that the inputs are written by, one after the other. -/
lemma fields_injective {α : Type} {p : Reader α} {write : α → Bytes} {field : TxIn → α}
    (hp : Exact p write fun _ => True) (hne : ∀ a, write a ≠ []) {inputs inputs' : List TxIn}
    (h : (inputs.flatMap fun each => write (field each)) =
      inputs'.flatMap fun each => write (field each)) :
    inputs.map field = inputs'.map field := by
  apply hp.flatMap_injective (fun a _ => hne a) (fun _ _ => trivial) (fun _ _ => trivial)
  rw [List.flatMap_map, List.flatMap_map]
  exact h

lemma prevouts_injective {inputs inputs' : List TxIn}
    (h : (inputs.flatMap fun each => each.previousOutput.serializeInto)
    = inputs'.flatMap fun each => each.previousOutput.serializeInto) :
    inputs.map TxIn.previousOutput = inputs'.map TxIn.previousOutput := by
  refine fields_injective OutPoint.parse_exact (fun outpoint hnil => ?_) h
  have hlen := congrArg List.length hnil
  simp at hlen

lemma sequences_injective {inputs inputs' : List TxIn}
    (h : (inputs.flatMap fun each => u32LeBytes each.sequence)
    = inputs'.flatMap fun each => u32LeBytes each.sequence) :
    inputs.map TxIn.sequence = inputs'.map TxIn.sequence := by
  refine fields_injective u32Le_exact (fun sequence hnil => ?_) h
  have hlen := congrArg List.length hnil
  simp at hlen

lemma outputs_injective [Target] {tx tx' : Transaction} (hf : tx.Fits) (hf' : tx'.Fits)
    (h : tx.outputs.flatMap TxOut.serializeInto = tx'.outputs.flatMap TxOut.serializeInto) :
    tx.outputs = tx'.outputs :=
  TxOut.parse_exact.flatMap_injective (fun output _ => output.serializeInto_ne_nil)
    hf.output hf'.output h

structure SameSighashView (tx tx' : Transaction) (index index' : ℕ) : Prop where
  version : tx.version = tx'.version
  lockTime : tx.lockTime = tx'.lockTime
  outpoints : tx.inputs.map TxIn.previousOutput = tx'.inputs.map TxIn.previousOutput
  sequences : tx.inputs.map TxIn.sequence = tx'.inputs.map TxIn.sequence
  outputs : tx.outputs = tx'.outputs
  spent : (tx.inputs[index]?).map TxIn.previousOutput =
    (tx'.inputs[index']?).map TxIn.previousOutput
  spentSequence : (tx.inputs[index]?).map TxIn.sequence = (tx'.inputs[index']?).map TxIn.sequence

/-- **The digest binds the spend.** Equal digests agree on everything SIGHASH_ALL
covers and on the coin spent, and every digest is the direct BIP-143 one. -/
theorem sighash_binding [Target] [Sha256] :
    (∀ (tx tx' : Transaction) (index index' : ℕ) (pkh pkh' : Vector UInt8 20)
      (amount amount' : UInt64) (digest : Vector UInt8 32),
      tx.Fits → tx'.Fits →
      CollisionFree (tx.sighashStrings index pkh amount)
        (tx'.sighashStrings index' pkh' amount') →
      tx.p2wpkhSighashAll tx.sighashMidstate index pkh amount = .ok digest →
      tx'.p2wpkhSighashAll tx'.sighashMidstate index' pkh' amount' = .ok digest →
      SameSighashView tx tx' index index' ∧ amount = amount' ∧ pkh = pkh') ∧
    (∀ (tx : Transaction) (index : ℕ) (pkh : Vector UInt8 20) (amount : UInt64) (input : TxIn),
      tx.inputs[index]? = some input →
      tx.p2wpkhSighashAll tx.sighashMidstate index pkh amount
        = .ok (tx.bip143Digest input (p2wpkhScriptCode pkh) amount)) := by
  refine ⟨?_, fun tx index pkh amount input => tx.p2wpkhSighashAll_midstate index pkh amount⟩
  intro tx tx' index index' pkh pkh' amount amount' digest hft hf' hf h h'
  cases hin : tx.inputs[index]? with
  | none =>
    rw [p2wpkhSighashAll, hin] at h
    cases h
  | some input =>
    cases hin' : tx'.inputs[index']? with
    | none =>
      rw [p2wpkhSighashAll, hin'] at h'
      cases h'
    | some input' =>
      rw [p2wpkhSighashAll, hin] at h
      rw [p2wpkhSighashAll, hin'] at h'
      injection h with h
      injection h' with h'
      rw [sighashStrings, sighashStrings, hin, hin'] at hf
      -- the outer hash gives the preimage, its three inner hashes the lists
      have hpre := hf _ (by simp) _ (by simp) (h.trans h'.symm)
      rcases sighashPreimage_injective hpre with
        ⟨hv, hmid, hs, hpkh, ha, hseq, hl⟩
      simp only [sighashMidstate, SighashMidstate.mk.injEq] at hmid
      have hp := hf _ (by simp) _ (by simp) hmid.1
      have hsq := hf _ (by simp) _ (by simp) hmid.2.1
      have ho := hf _ (by simp) _ (by simp) hmid.2.2
      refine ⟨⟨hv, hl, prevouts_injective hp, sequences_injective hsq,
        outputs_injective hft hf' ho, ?_, ?_⟩, ha, hpkh⟩
      · rw [hin, hin', Option.map_some, Option.map_some, hs]
      · rw [hin, hin', Option.map_some, Option.map_some, hseq]

end Transaction

def spendTx : Transaction where
  version := 2
  inputs := [0, 1].map fun vout => {
    previousOutput := {
      txid := beVector 32 0x112d52e2994ac6995ec30f1d9d7e6d35b44954b4cbb191aea95f0842e2f54a35
      vout }
    scriptSig := []
    sequence := 0xfffffffd }
  outputs := [⟨290000, [0x00, 0x14] ++ List.replicate 20 0x22⟩]
  lockTime := 46

def coinKeyHash : Vector UInt8 20 := beVector 20 0xc0cebcd6c3d3ca8c75dc5ec62ebe55330ef910e2

def scriptedSpendTx : Transaction :=
  { spendTx with inputs := spendTx.inputs.modify 1 fun input => { input with scriptSig := [0x51] } }

/-- The digests of `spendTx` and `scriptedSpendTx` are equal, and so is what they cover. -/
theorem spendTx_sighash_binding :
    letI := target64
    letI := Reference.sha256
    Transaction.CollisionFree (spendTx.sighashStrings 0 coinKeyHash 100000)
        (scriptedSpendTx.sighashStrings 0 coinKeyHash 100000) ∧
      Transaction.SameSighashView spendTx scriptedSpendTx 0 0 := by
  let _ := target64
  let _ := Reference.sha256
  have hft : spendTx.Fits := ⟨by decide, by decide, by decide, by decide⟩
  have hf' : scriptedSpendTx.Fits := ⟨by decide, by decide, by decide, by decide⟩
  have hf : Transaction.CollisionFree (spendTx.sighashStrings 0 coinKeyHash 100000)
      (scriptedSpendTx.sighashStrings 0 coinKeyHash 100000) := by
    decide +kernel
  exact ⟨hf, (Transaction.sighash_binding.1 spendTx scriptedSpendTx 0 0 coinKeyHash coinKeyHash
    100000 100000
    (beVector 32 0xe379e43b3dfb01e46769943b25ae853e3e2b2d132dc72b75cd1d1543ee66a5aa)
    hft hf' hf (by decide +kernel) (by decide +kernel)).1⟩

end KrustyKms.Bitcoin

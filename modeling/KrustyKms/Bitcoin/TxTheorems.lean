import KrustyKms.Bitcoin.Tx
import KrustyKms.Common.Reference
import Mathlib.Tactic.SplitIfs
import Mathlib.Tactic.NormNum

/-!
# The transaction format is read exactly

Every reader of `tx.rs` accepts exactly what the matching writer writes, so a byte string is the
encoding of at most one transaction.
-/

namespace KrustyKms.Bitcoin

open Codec Codec.Parser

/-! ## Running a reader on a whole byte string -/

lemma run'_eq_ok {α : Type} {p : Reader α} {s : Bytes} {a : α} :
    StateT.run' p s = .ok a ↔ ∃ s', p s = .ok (a, s') := by
  have hrun : StateT.run' p s = (p s >>= fun x => .ok x.1) := rfl
  rw [hrun]
  cases hp : p s with
  | error e =>
    simp [bind, Except.bind]
  | ok x =>
    constructor
    · intro h
      injection h with h
      exact ⟨x.2, by rw [← h]⟩
    · intro h
      rcases h with ⟨s', h⟩
      injection h with h
      show Except.ok x.1 = Except.ok a
      rw [h]

namespace Reader

lemma rejectIf_eq_ok {bad : Bool} {e : KmsError} {s : Bytes} {r : Unit × Bytes} :
    rejectIf bad e s = .ok r ↔ bad = false ∧ r = ((), s) := by
  unfold rejectIf
  cases bad with
  | true => simp
  | false => simp [eq_comm]

lemma rejectIf_false {bad : Bool} (e : KmsError) (s : Bytes) (h : bad = false) :
    rejectIf bad e s = .ok ((), s) :=
  rejectIf_eq_ok.mpr ⟨h, rfl⟩

lemma finish_eq_ok {s : Bytes} {r : Unit × Bytes} :
    finish s = .ok r ↔ s = [] ∧ r = ((), []) := by
  unfold finish
  cases s with
  | nil => simp [eq_comm]
  | cons b bs => simp

/-! ## Exactness of the primitive readers -/

lemma take_exact (n : ℕ) : Exact (take n) id (fun bs => bs.length = n) := by
  constructor
  · intro s a s' h
    unfold take at h
    split_ifs at h with hlen
    injection h with h
    injection h with ha hs
    subst ha hs
    exact ⟨(List.take_append_drop n s).symm, List.length_take_of_le hlen⟩
  · intro a s' hlen
    subst hlen
    simp [take]

lemma toList_mk_toArray {n : ℕ} (bs : Bytes) (h : bs.toArray.size = n) :
    (Vector.mk bs.toArray h).toList = bs := by
  simp

lemma array_exact (n : ℕ) : Exact (array n) Vector.toList (fun _ => True) := by
  constructor
  · intro s v s' h
    unfold array at h
    rw [bind_eq_ok] at h
    rcases h with ⟨head, s₁, ht, h⟩
    have hsp := (take_exact n).sound ht
    rw [dif_pos hsp.2] at h
    injection h with h
    injection h with hv hs
    subst hv hs
    rw [toList_mk_toArray]
    exact ⟨hsp.1, trivial⟩
  · intro v s' _
    have hlen : v.toList.length = n := v.length_toList
    have ht : take n (v.toList ++ s') = .ok (v.toList, s') :=
      (take_exact n).complete s' hlen
    unfold array
    rw [bind_of_ok ht, dif_pos hlen]
    show Except.ok _ = Except.ok _
    congr 2

lemma u32LeBytes_u32FromLeBytes {bs : Bytes} (h : bs.length = 4) :
    u32LeBytes (u32FromLeBytes bs) = bs := by
  have hlt := leValue_lt bs
  rw [h] at hlt
  have hval : (UInt32.ofNat (leValue bs)).toNat = leValue bs := UInt32.toNat_ofNat_of_lt' hlt
  rw [u32LeBytes, u32FromLeBytes, hval, ← h, leBytes_leValue]

lemma u32FromLeBytes_u32LeBytes (v : UInt32) : u32FromLeBytes (u32LeBytes v) = v := by
  have hlt := v.toNat_lt
  rw [u32FromLeBytes, u32LeBytes, leValue_leBytes_of_lt (by omega), UInt32.ofNat_toNat]

lemma u64LeBytes_u64FromLeBytes {bs : Bytes} (h : bs.length = 8) :
    u64LeBytes (u64FromLeBytes bs) = bs := by
  have hlt := leValue_lt bs
  rw [h] at hlt
  have hval : (UInt64.ofNat (leValue bs)).toNat = leValue bs := UInt64.toNat_ofNat_of_lt' hlt
  rw [u64LeBytes, u64FromLeBytes, hval, ← h, leBytes_leValue]

lemma u64FromLeBytes_u64LeBytes (v : UInt64) : u64FromLeBytes (u64LeBytes v) = v := by
  have hlt := v.toNat_lt
  rw [u64FromLeBytes, u64LeBytes, leValue_leBytes_of_lt (by omega), UInt64.ofNat_toNat]

@[simp] lemma length_u32LeBytes (v : UInt32) : (u32LeBytes v).length = 4 := length_leBytes _ _

@[simp] lemma length_u64LeBytes (v : UInt64) : (u64LeBytes v).length = 8 := length_leBytes _ _

lemma array_map_exact {α : Type} {n : ℕ} {write : α → Bytes} {read : Bytes → α}
    {Valid : α → Prop} (hlen : ∀ a, (write a).length = n) (hr : ∀ a, Valid a → read (write a) = a)
    (hw : ∀ bs : Bytes, bs.length = n → write (read bs) = bs ∧ Valid (read bs)) :
    Exact (do let bytes ← array n; pure (read bytes.toList) : Reader α) write Valid := by
  constructor
  · intro s a s' h
    rw [bind_eq_ok] at h
    rcases h with ⟨v, s₁, hv, h⟩
    injection h with h
    injection h with ha hs
    subst ha hs
    have hb := hw _ v.length_toList
    rw [hb.1]
    exact ⟨(array_exact n).eq_write hv, hb.2⟩
  · intro a s' ha
    have hsz : (write a).toArray.size = n := by simpa using hlen a
    have hv : (Vector.mk (write a).toArray hsz).toList = write a := toList_mk_toArray _ _
    have har := (array_exact n).complete (a := Vector.mk (write a).toArray hsz) s' trivial
    rw [hv] at har
    rw [bind_of_ok har, hv, hr a ha]
    rfl

lemma u32Le_exact : Exact u32Le u32LeBytes (fun _ => True) :=
  array_map_exact length_u32LeBytes (fun v _ => u32FromLeBytes_u32LeBytes v)
    fun _ h => ⟨u32LeBytes_u32FromLeBytes h, trivial⟩

lemma uintLe_exact {k : ℕ} (hk : k ≤ 8) :
    Exact (uintLe k) (fun v => leBytes k v.toNat) (fun v => v.toNat < 256 ^ k) := by
  have hpow : 256 ^ k ≤ 256 ^ 8 := Nat.pow_le_pow_right (by decide) hk
  apply array_map_exact
  · intro v
    exact length_leBytes _ _
  · intro v hv
    rw [u64FromLeBytes, leValue_leBytes_of_lt hv, UInt64.ofNat_toNat]
  · intro bs hlen
    have hlt := leValue_lt bs
    rw [hlen] at hlt
    have hval : (u64FromLeBytes bs).toNat = leValue bs :=
      UInt64.toNat_ofNat_of_lt' (lt_of_lt_of_le hlt hpow)
    rw [hval, ← hlen, leBytes_leValue, hlen]
    exact ⟨rfl, hlt⟩

lemma u64Le_exact : Exact u64Le u64LeBytes (fun _ => True) := by
  have h := uintLe_exact (le_refl 8)
  constructor
  · intro s v s' hp
    exact ⟨h.eq_write hp, trivial⟩
  · intro v s' _
    have hlt := v.toNat_lt
    exact h.complete s' (by omega)

/-! ## CompactSize -/

lemma writeCompactSize_eq {n : ℕ} (h : n < 2 ^ 64) :
    writeCompactSize n =
      if n ≤ 0xfc then [UInt8.ofNat n]
      else if n ≤ 0xffff then 0xfd :: leBytes 2 n
      else if n ≤ 0xffffffff then 0xfe :: leBytes 4 n
      else 0xff :: leBytes 8 n := by
  have hval : (UInt64.ofNat n).toNat = n := UInt64.toNat_ofNat_of_lt' h
  have hle : ∀ m : UInt64, UInt64.ofNat n ≤ m ↔ n ≤ m.toNat := by
    intro m
    rw [UInt64.le_iff_toNat_le, hval]
  unfold writeCompactSize
  simp only [hle, hval, UInt64.toNat_toUInt16, UInt64.toNat_toUInt32, UInt64.reduceToNat]
  by_cases h1 : n ≤ 0xfc
  · rw [if_pos h1, if_pos h1]
    congr 1
    apply UInt8.toNat_inj.mp
    rw [UInt64.toNat_toUInt8, hval, UInt8.toNat_ofNat']
  · rw [if_neg h1, if_neg h1]
    by_cases h2 : n ≤ 0xffff
    · rw [if_pos h2, if_pos h2, Nat.mod_eq_of_lt (by omega)]
    · rw [if_neg h2, if_neg h2]
      by_cases h3 : n ≤ 0xffffffff
      · rw [if_pos h3, if_pos h3, Nat.mod_eq_of_lt (by omega)]
      · rw [if_neg h3, if_neg h3]

lemma writeCompactSize_ne_nil (n : ℕ) : writeCompactSize n ≠ [] := by
  unfold writeCompactSize
  simp only
  split_ifs <;> simp

lemma head_writeCompactSize_ne {n : ℕ} (h : n < 2 ^ 64) (hpos : 0 < n) (s : Bytes) :
    (writeCompactSize n ++ s).head? ≠ some 0x00 := by
  rw [writeCompactSize_eq h]
  by_cases hs : n ≤ 0xfc
  · rw [if_pos hs]
    intro hz
    simp only [List.cons_append, List.head?_cons, Option.some.injEq] at hz
    have hval := congrArg UInt8.toNat hz
    rw [UInt8.toNat_ofNat', UInt8.toNat_zero] at hval
    omega
  · rw [if_neg hs]
    split_ifs
    · simp
    · simp
    · simp

lemma head_writeCompactSize {n : ℕ} (h : n < 2 ^ 64) (hpos : 0 < n) (tail : Bytes) :
    [0x00, 0x01].isPrefixOf (writeCompactSize n ++ tail) = false := by
  have hne := head_writeCompactSize_ne h hpos tail
  cases hb : writeCompactSize n ++ tail with
  | nil => rfl
  | cons first rest =>
    rw [hb, List.head?_cons] at hne
    have hf : (0 : UInt8) ≠ first := by
      intro heq
      exact hne (by rw [← heq])
    simp [List.isPrefixOf, hf]

lemma toList_vector_one (v : Vector UInt8 1) : v.toList = [v.get ⟨0, Nat.one_pos⟩] := by
  rcases v with ⟨⟨l⟩, hl⟩
  rcases l with _ | ⟨b, _ | ⟨c, tail⟩⟩
  · simp at hl
  · rfl
  · simp at hl

lemma canonical_exact {p : Reader UInt64} {write : UInt64 → Bytes} {Valid : UInt64 → Prop}
    (hp : Exact p write Valid) (m : UInt64) :
    Exact (do let v ← p; canonical v m) write (fun v => Valid v ∧ m ≤ v) := by
  constructor
  · intro s v s' h
    unfold canonical at h
    simp only [bind_eq_ok, rejectIf_eq_ok, pure_apply] at h
    rcases h with ⟨w, s₁, hw, _, s₂, hrej, h⟩
    injection hrej.2 with _ hs
    injection h with h
    injection h with hv hs'
    subst hs hv hs'
    exact ⟨hp.eq_write hw, hp.valid hw, by simpa using hrej.1⟩
  · intro v s' hv
    rw [bind_of_ok (hp.complete s' hv.1)]
    unfold canonical
    rw [bind_of_ok (rejectIf_false _ _ (by simpa using hv.2))]
    rfl

/-! The three longer forms of a CompactSize, behind their tags. -/

lemma compact16_exact : Exact (do let v ← uintLe 2; canonical v 0xfd)
    (fun v => leBytes 2 v.toNat) (fun v => v.toNat < 256 ^ 2 ∧ 0xfd ≤ v) :=
  canonical_exact (uintLe_exact (k := 2) (by decide)) 0xfd

lemma compact32_exact : Exact (do let v ← uintLe 4; canonical v 0x10000)
    (fun v => leBytes 4 v.toNat) (fun v => v.toNat < 256 ^ 4 ∧ 0x10000 ≤ v) :=
  canonical_exact (uintLe_exact (k := 4) (by decide)) 0x10000

lemma compact64_exact : Exact (do let v ← u64Le; canonical v 0x100000000)
    u64LeBytes (fun v => True ∧ 0x100000000 ≤ v) :=
  canonical_exact u64Le_exact 0x100000000

lemma toNat_le_of_ne_tags {tag : UInt8} (hfd : tag ≠ 0xfd) (hfe : tag ≠ 0xfe) (hff : tag ≠ 0xff) :
    tag.toNat ≤ 0xfc := by
  have hb := tag.toNat_lt
  have hne : ∀ t : UInt8, tag ≠ t → tag.toNat ≠ t.toNat :=
    fun t hne heq => hne (UInt8.toNat_inj.mp heq)
  have h253 := hne _ hfd
  have h254 := hne _ hfe
  have h255 := hne _ hff
  simp only [UInt8.reduceToNat] at h253 h254 h255
  omega

lemma compactU64_sound {s s' : Bytes} {v : UInt64} (h : compactU64 s = .ok (v, s')) :
    s = writeCompactSize v.toNat ++ s' := by
  rw [writeCompactSize_eq v.toNat_lt]
  unfold compactU64 at h
  rw [bind_eq_ok] at h
  rcases h with ⟨tag, s₁, htag, h⟩
  have hs : s = [tag[0]] ++ s₁ := by
    rw [(array_exact 1).eq_write htag, toList_vector_one]
    rfl
  by_cases hfd : tag[0] = 0xfd
  · rw [if_pos hfd] at h
    -- at least 0xfd by `canonical` and below 2^16 by its width, so the writer picks this form
    have hr := compact16_exact.sound h
    have hmin := UInt64.le_iff_toNat_le.mp hr.2.2
    have hmax := hr.2.1
    simp only [UInt64.reduceToNat] at hmin
    rw [if_neg (by omega), if_pos (by omega), hs, hr.1, hfd]
    rfl
  rw [if_neg hfd] at h
  by_cases hfe : tag[0] = 0xfe
  · rw [if_pos hfe] at h
    have hr := compact32_exact.sound h
    have hmin := UInt64.le_iff_toNat_le.mp hr.2.2
    have hmax := hr.2.1
    simp only [UInt64.reduceToNat] at hmin
    rw [if_neg (by omega), if_neg (by omega), if_pos (by omega), hs, hr.1, hfe]
    rfl
  rw [if_neg hfe] at h
  by_cases hff : tag[0] = 0xff
  · rw [if_pos hff] at h
    have hr := compact64_exact.sound h
    have hmin := UInt64.le_iff_toNat_le.mp hr.2.2
    simp only [UInt64.reduceToNat] at hmin
    rw [if_neg (by omega), if_neg (by omega), if_neg (by omega), hs, hr.1, hff]
    rfl
  · rw [if_neg hff] at h
    injection h with h
    injection h with hv hs'
    subst hv hs'
    rw [UInt8.toNat_toUInt64, if_pos (toNat_le_of_ne_tags hfd hfe hff), hs, UInt8.ofNat_toNat]

lemma compactU64_complete (v : UInt64) (s' : Bytes) :
    compactU64 (writeCompactSize v.toNat ++ s') = .ok (v, s') := by
  have hlt := v.toNat_lt
  have htag : ∀ (t : UInt8) (rest : Bytes), array 1 (t :: rest) = .ok (#v[t], rest) :=
    fun t rest => (array_exact 1).complete (a := #v[t]) rest trivial
  rw [writeCompactSize_eq hlt]
  unfold compactU64
  split_ifs with hs1 hs2 hs4
  · -- one byte, which is none of the three tags
    show (array 1 >>= _) (UInt8.ofNat v.toNat :: s') = _
    have hval : (UInt8.ofNat v.toNat).toNat = v.toNat := by
      rw [UInt8.toNat_ofNat']
      omega
    have hne : ∀ t : UInt8, 0xfd ≤ t.toNat → ¬ #v[UInt8.ofNat v.toNat][0] = t := by
      intro t ht heq
      have heq' : UInt8.ofNat v.toNat = t := heq
      rw [← heq', hval] at ht
      omega
    rw [bind_of_ok (htag _ _), if_neg (hne 0xfd (by decide)), if_neg (hne 0xfe (by decide)),
      if_neg (hne 0xff (by decide))]
    show Except.ok _ = Except.ok _
    congr 2
    apply UInt64.toNat_inj.mp
    rw [UInt8.toNat_toUInt64]
    exact hval
  · show (array 1 >>= _) (0xfd :: (leBytes 2 v.toNat ++ s')) = _
    rw [bind_of_ok (htag _ _)]
    exact compact16_exact.complete s' ⟨by omega, UInt64.le_iff_toNat_le.mpr (by simp; omega)⟩
  · show (array 1 >>= _) (0xfe :: (leBytes 4 v.toNat ++ s')) = _
    rw [bind_of_ok (htag _ _)]
    exact compact32_exact.complete s' ⟨by omega, UInt64.le_iff_toNat_le.mpr (by simp; omega)⟩
  · show (array 1 >>= _) (0xff :: (leBytes 8 v.toNat ++ s')) = _
    rw [bind_of_ok (htag _ _)]
    exact compact64_exact.complete s' ⟨trivial, UInt64.le_iff_toNat_le.mpr (by simp; omega)⟩

theorem compactU64_exact :
    Exact compactU64 (fun v => writeCompactSize v.toNat) (fun _ => True) := by
  constructor
  · intro s v s' h
    exact ⟨compactU64_sound h, trivial⟩
  · intro v s' _
    exact compactU64_complete v s'

lemma compactSize_exact [Target] : Exact compactSize writeCompactSize (fun n => n ≤ usizeMax) := by
  constructor
  · intro s n s' h
    unfold compactSize at h
    rw [bind_eq_ok] at h
    rcases h with ⟨v, s₁, hv, h⟩
    cases hn : usizeTryFrom v.toNat with
    | none =>
      rw [hn] at h
      cases h
    | some len =>
      rw [hn] at h
      injection h with h
      injection h with hlen hs
      rw [usizeTryFrom_eq_some] at hn
      subst hlen hs
      rw [← hn.1]
      exact ⟨compactU64_exact.eq_write hv, hn.2⟩
  · intro n s' hn
    have hval : (UInt64.ofNat n).toNat = n := toNat_ofNat_of_le_usizeMax hn
    have hr := compactU64_exact.complete (a := UInt64.ofNat n) s' trivial
    rw [hval] at hr
    have htry : usizeTryFrom (UInt64.ofNat n).toNat = some n :=
      usizeTryFrom_eq_some.mpr ⟨hval, hval.symm ▸ hn⟩
    unfold compactSize
    rw [bind_of_ok hr, htry]
    rfl

lemma varBytes_exact [Target] :
    Exact varBytes writeVarBytes (fun bs => bs.length ≤ usizeMax) := by
  constructor
  · intro s bs s' h
    unfold varBytes at h
    rw [bind_eq_ok] at h
    rcases h with ⟨len, s₁, hlen, h⟩
    have hs := compactSize_exact.sound hlen
    have ht := (take_exact len).sound h
    rw [hs.1, ht.1, writeVarBytes, ht.2, List.append_assoc]
    exact ⟨rfl, hs.2⟩
  · intro bs s' hbs
    have ht : take bs.length (bs ++ s') = .ok (bs, s') :=
      (take_exact bs.length).complete s' rfl
    unfold varBytes
    rw [writeVarBytes, List.append_assoc, bind_of_ok (compactSize_exact.complete _ hbs), ht]

end Reader

open Reader

/-! ## Exactness of the transaction readers -/

def TxOut.Fits [Target] (output : TxOut) : Prop := output.scriptPubkey.length ≤ usizeMax

def TxIn.Fits [Target] (input : TxIn) : Prop := input.scriptSig.length ≤ usizeMax

instance [Target] (output : TxOut) : Decidable output.Fits :=
  inferInstanceAs (Decidable (_ ≤ _))

instance [Target] (input : TxIn) : Decidable input.Fits :=
  inferInstanceAs (Decidable (_ ≤ _))

/-- The parser's limits: every count and every script length is a `usize`, as
they are for any transaction held in memory. -/
structure Transaction.Fits [Target] (tx : Transaction) : Prop where
  inputs : tx.inputs.length ≤ usizeMax
  outputs : tx.outputs.length ≤ usizeMax
  input : ∀ input ∈ tx.inputs, input.Fits
  output : ∀ output ∈ tx.outputs, output.Fits

lemma TxOut.parse_exact [Target] : Exact TxOut.parse TxOut.serializeInto TxOut.Fits := by
  constructor
  · intro s output s' h
    unfold TxOut.parse at h
    simp only [bind_eq_ok, pure_apply] at h
    rcases h with ⟨value, s₁, hv, script, s₂, hsc, h⟩
    injection h with h
    injection h with hout hs
    subst hout hs
    rw [u64Le_exact.eq_write hv, varBytes_exact.eq_write hsc]
    exact ⟨by simp [TxOut.serializeInto], varBytes_exact.valid hsc⟩
  · intro output s' hf
    unfold TxOut.parse TxOut.serializeInto
    rw [List.append_assoc, bind_of_ok (u64Le_exact.complete _ trivial),
      bind_of_ok (varBytes_exact.complete _ hf)]
    rfl

lemma TxOut.serializeInto_ne_nil (output : TxOut) : output.serializeInto ≠ [] := by
  intro h
  have hlen := congrArg List.length h
  simp [TxOut.serializeInto] at hlen

lemma Transaction.serializeInput_ne_nil (input : TxIn) : serializeInput input ≠ [] := by
  intro h
  have hlen := congrArg List.length h
  simp [serializeInput] at hlen

lemma Transaction.length_le_length_serializeLegacy (tx : Transaction) :
    tx.inputs.length + tx.outputs.length + 4 ≤ tx.serializeLegacy.length := by
  have hin := Parser.length_le_length_flatMap serializeInput_ne_nil tx.inputs
  have hout := Parser.length_le_length_flatMap TxOut.serializeInto_ne_nil tx.outputs
  simp only [serializeLegacy, List.length_append, length_u32LeBytes]
  omega

lemma OutPoint.parse_exact : Exact OutPoint.parse OutPoint.serializeInto (fun _ => True) := by
  constructor
  · intro s outpoint s' h
    unfold OutPoint.parse at h
    simp only [bind_eq_ok, pure_apply] at h
    rcases h with ⟨txid, s₁, ht, vout, s₂, hv, h⟩
    injection h with h
    injection h with hout hs
    subst hout hs
    rw [(array_exact 32).eq_write ht, u32Le_exact.eq_write hv]
    exact ⟨by simp [OutPoint.serializeInto], trivial⟩
  · intro outpoint s' _
    unfold OutPoint.parse OutPoint.serializeInto
    rw [List.append_assoc, bind_of_ok ((array_exact 32).complete _ trivial),
      bind_of_ok (u32Le_exact.complete _ trivial)]
    rfl

lemma OutPoint.serializeInto_injective {outpoint outpoint' : OutPoint}
    (h : outpoint.serializeInto = outpoint'.serializeInto) : outpoint = outpoint' := by
  have ha : outpoint.serializeInto ++ [] = outpoint'.serializeInto ++ [] := by rw [h]
  exact (OutPoint.parse_exact.prefix_free trivial trivial ha).1

@[simp] lemma OutPoint.length_serializeInto (outpoint : OutPoint) :
    outpoint.serializeInto.length = 36 := by
  simp [OutPoint.serializeInto]

lemma parseInput_exact [Target] :
    Exact parseInput Transaction.serializeInput TxIn.Fits := by
  constructor
  · intro s input s' h
    unfold parseInput at h
    simp only [bind_eq_ok, pure_apply] at h
    rcases h with ⟨outpoint, s₁, hout, script, s₂, hsc, seq, s₃, hseq, h⟩
    injection h with h
    injection h with hin hs
    subst hin hs
    rw [OutPoint.parse_exact.eq_write hout, varBytes_exact.eq_write hsc,
      u32Le_exact.eq_write hseq]
    exact ⟨by simp [Transaction.serializeInput], varBytes_exact.valid hsc⟩
  · intro input s' hf
    unfold parseInput Transaction.serializeInput
    rw [List.append_assoc, List.append_assoc,
      bind_of_ok (OutPoint.parse_exact.complete _ trivial),
      bind_of_ok (varBytes_exact.complete _ hf),
      bind_of_ok (u32Le_exact.complete _ trivial)]
    rfl

lemma parseInputs_exact [Target] :
    Exact parseInputs
      (fun inputs => writeCompactSize inputs.length ++ inputs.flatMap Transaction.serializeInput)
      (fun inputs => inputs.length ≤ usizeMax ∧ ∀ input ∈ inputs, input.Fits) :=
  compactSize_exact.counted parseInput_exact

lemma parseOutputs_exact [Target] :
    Exact parseOutputs
      (fun outputs => writeCompactSize outputs.length ++ outputs.flatMap TxOut.serializeInto)
      (fun outputs => outputs.length ≤ usizeMax ∧ ∀ output ∈ outputs, output.Fits) :=
  compactSize_exact.counted TxOut.parse_exact

theorem TxOut.parseExact_eq_ok [Target] {bytes : Bytes} {output : TxOut} :
    TxOut.parseExact bytes = .ok output ↔ bytes = output.serializeInto ∧ output.Fits := by
  unfold TxOut.parseExact
  rw [run'_eq_ok]
  constructor
  · intro h
    simp only [bind_eq_ok, finish_eq_ok, pure_apply] at h
    rcases h with ⟨s', out, s₁, hout, _, s₂, hfin, h⟩
    injection h with h
    injection h with ho' _
    subst ho'
    rw [TxOut.parse_exact.eq_write hout, hfin.1, List.append_nil]
    exact ⟨rfl, TxOut.parse_exact.valid hout⟩
  · intro h
    have hp := TxOut.parse_exact.complete [] h.2
    rw [List.append_nil] at hp
    refine ⟨[], ?_⟩
    rw [h.1, bind_of_ok hp]
    rfl

namespace Transaction

variable {tx : Transaction} {s : Bytes}

theorem parseLegacy_eq_ok [Target] {bytes : Bytes} :
    parseLegacy bytes = .ok tx ↔ bytes = tx.serializeLegacy ∧ tx.Fits := by
  unfold parseLegacy
  rw [run'_eq_ok]
  constructor
  · intro h
    simp only [bind_eq_ok, finish_eq_ok, pure_apply] at h
    rcases h with ⟨s', version, s₁, hvr, inputs, s₂, hin, outputs, s₃, hout, lockTime, s₄,
      hl, _, s₅, hfin, h⟩
    injection h with h
    injection h with htx _
    subst htx
    rw [u32Le_exact.eq_write hvr, parseInputs_exact.eq_write hin,
      parseOutputs_exact.eq_write hout, u32Le_exact.eq_write hl, hfin.1]
    have hvin := parseInputs_exact.valid hin
    have hv := parseOutputs_exact.valid hout
    exact ⟨by simp [serializeLegacy], hvin.1, hv.1, hvin.2, hv.2⟩
  · intro h
    refine ⟨[], ?_⟩
    rw [h.1]
    unfold serializeLegacy
    rw [List.append_assoc, List.append_assoc,
      bind_of_ok (u32Le_exact.complete _ trivial),
      bind_of_ok (parseInputs_exact.complete _ ⟨h.2.inputs, h.2.input⟩),
      bind_of_ok (parseOutputs_exact.complete _ ⟨h.2.outputs, h.2.output⟩),
      ← List.append_nil (u32LeBytes tx.lockTime),
      bind_of_ok (u32Le_exact.complete _ trivial)]
    rfl

/-! ## BIP-144 -/

def serializeStack (stack : List Bytes) : Bytes :=
  writeCompactSize stack.length ++ stack.flatMap writeVarBytes

def StackFits [Target] (stack : List Bytes) : Prop :=
  stack.length ≤ usizeMax ∧ ∀ item ∈ stack, item.length ≤ usizeMax

instance [Target] (stack : List Bytes) : Decidable (StackFits stack) :=
  inferInstanceAs (Decidable (_ ∧ _))

def serializeWitness (tx : Transaction) (record : List (List Bytes)) : Bytes :=
  u32LeBytes tx.version ++ [0x00, 0x01] ++
    (writeCompactSize tx.inputs.length ++ tx.inputs.flatMap serializeInput) ++
    (writeCompactSize tx.outputs.length ++ tx.outputs.flatMap TxOut.serializeInto) ++
    record.flatMap serializeStack ++
    u32LeBytes tx.lockTime

structure Witnesses [Target] (tx : Transaction) (record : List (List Bytes)) : Prop where
  length : record.length = tx.inputs.length
  fits : ∀ stack ∈ record, StackFits stack

def hasWitness (record : List (List Bytes)) : Bool := record.any fun stack => !stack.isEmpty

lemma skipWitnesses_sound [Target] (n : ℕ) {seen b : Bool} {s' : Bytes}
    (h : skipWitnesses n seen s = .ok (b, s')) :
    ∃ record : List (List Bytes), record.length = n ∧ (∀ stack ∈ record, StackFits stack) ∧
      s = record.flatMap serializeStack ++ s' ∧ b = (seen || hasWitness record) := by
  -- induction on the inputs left; `seen` carries the stacks of those before
  induction n generalizing seen s with
  | zero =>
    injection h with h
    injection h with hb hs
    subst hb hs
    exact ⟨[], rfl, by simp, rfl, by simp [hasWitness]⟩
  | succ n ih =>
    unfold skipWitnesses at h
    simp only [bind_eq_ok] at h
    rcases h with ⟨items, s₁, hit, stack, s₂, hst, h⟩
    rcases ih h with ⟨record, hlen, hf, hs, hb⟩
    have hc := compactSize_exact.sound hit
    have hr := (varBytes_exact.many items).sound hst
    refine ⟨stack :: record, by simp [hlen], ?_, ?_, ?_⟩
    · intro x hx
      rcases List.mem_cons.mp hx with hx | hx
      · subst hx
        exact ⟨hr.2.1.symm ▸ hc.2, hr.2.2⟩
      · exact hf x hx
    · rw [hc.1, hr.1, hs]
      simp [serializeStack, hr.2.1]
    · have hne : decide (0 < items) = !stack.isEmpty := by
        rw [← hr.2.1]
        cases stack <;> simp
      rw [hb, hne, hasWitness, hasWitness, List.any_cons, Bool.or_assoc]

lemma skipWitnesses_complete [Target] (record : List (List Bytes)) (seen : Bool) (s' : Bytes)
    (hf : ∀ stack ∈ record, StackFits stack) :
    skipWitnesses record.length seen (record.flatMap serializeStack ++ s')
      = .ok (seen || hasWitness record, s') := by
  induction record generalizing seen with
  | nil => simp [skipWitnesses, hasWitness]
  | cons stack record ih =>
    have hs := hf stack (by simp)
    have hm := (varBytes_exact.many stack.length).complete
      (record.flatMap serializeStack ++ s') ⟨rfl, hs.2⟩
    have hne : decide (0 < stack.length) = !stack.isEmpty := by
      cases stack <;> simp
    simp only [List.flatMap_cons, serializeStack, List.append_assoc, List.length_cons,
      skipWitnesses]
    rw [bind_of_ok (compactSize_exact.complete _ hs.1), bind_of_ok hm,
      ih _ fun x hx => hf x (by simp [hx]), hne, hasWitness, hasWitness, List.any_cons,
      Bool.or_assoc]

lemma parseWitnesses_true_eq_ok [Target] {inputs : List TxIn} {r : Unit × Bytes} :
    parseWitnesses true inputs s = .ok r ↔
      ∃ record : List (List Bytes), record.length = inputs.length ∧
        (∀ stack ∈ record, StackFits stack) ∧ hasWitness record = true ∧
        s = record.flatMap serializeStack ++ r.2 := by
  unfold parseWitnesses
  rw [if_pos rfl, bind_eq_ok]
  constructor
  · intro h
    rcases h with ⟨b, s₁, hsk, hrej⟩
    rcases skipWitnesses_sound _ hsk with ⟨record, hlen, hf, hs, hb⟩
    rw [rejectIf_eq_ok] at hrej
    rw [Bool.false_or] at hb
    refine ⟨record, hlen, hf, ?_, ?_⟩
    · simpa [hb] using hrej.1
    · rw [hrej.2]
      exact hs
  · intro h
    rcases h with ⟨record, hlen, hf, hany, hs⟩
    refine ⟨true, r.2, ?_, rejectIf_eq_ok.mpr ⟨rfl, rfl⟩⟩
    rw [hs, ← hlen, skipWitnesses_complete record false r.2 hf, hany, Bool.false_or]

/-- The bytes Bitcoin's network carries for `tx`: the legacy serialization, or
the BIP-144 one with a witness record that is not all empty. -/
def NetworkEncoding [Target] (tx : Transaction) (bytes : Bytes) : Prop :=
  bytes = tx.serializeLegacy ∨
    ∃ record, tx.Witnesses record ∧ hasWitness record = true ∧
      bytes = tx.serializeWitness record

def parseNetworkBody [Target] (version : UInt32) (segwit : Bool) : Reader Transaction := do
  let inputs ← parseInputs
  let outputs ← parseOutputs
  rejectIf (inputs.isEmpty || outputs.isEmpty)
    (malformed "transaction has no inputs or no outputs")
  parseWitnesses segwit inputs
  let lockTime ← u32Le
  finish
  pure { version, inputs, outputs, lockTime }

lemma parseNetworkBody_eq_ok [Target] {version : UInt32} {segwit : Bool} :
    (∃ s', parseNetworkBody version segwit s = .ok (tx, s')) ↔
      tx.version = version ∧ tx.inputs ≠ [] ∧ tx.outputs ≠ [] ∧ tx.Fits ∧
        ∃ witness, s =
            (writeCompactSize tx.inputs.length ++ tx.inputs.flatMap serializeInput) ++
            ((writeCompactSize tx.outputs.length ++ tx.outputs.flatMap TxOut.serializeInto) ++
            (witness ++ u32LeBytes tx.lockTime)) ∧
          parseWitnesses segwit tx.inputs (witness ++ u32LeBytes tx.lockTime)
            = .ok ((), u32LeBytes tx.lockTime) := by
  have hl : ∀ v : UInt32, u32Le (u32LeBytes v) = .ok (v, []) := by
    intro v
    have h := u32Le_exact.complete (a := v) [] trivial
    rwa [List.append_nil] at h
  constructor
  · intro h
    rcases h with ⟨s', h⟩
    unfold parseNetworkBody at h
    simp only [bind_eq_ok, finish_eq_ok, rejectIf_eq_ok, pure_apply] at h
    rcases h with ⟨inputs, s₁, hin, outputs, s₂, hout, _, s₃, hrej, _, s₄, hwit, lockTime, s₅,
      hlc, _, s₆, hfin, h⟩
    injection h with h
    injection h with htx _
    subst htx
    injection hrej.2 with _ hs₃
    subst hs₃
    have hs₄ := u32Le_exact.eq_write hlc
    rw [hfin.1, List.append_nil] at hs₄
    subst hs₄
    -- the lock time ends the bytes, so the witness record is what stands before it
    have hvin := parseInputs_exact.valid hin
    have hv := parseOutputs_exact.valid hout
    have hne : inputs ≠ [] ∧ outputs ≠ [] := by simpa using hrej.1
    have hsf : ∃ witness, s₃ = witness ++ u32LeBytes lockTime := by
      cases segwit with
      | true =>
        rcases parseWitnesses_true_eq_ok.mp hwit with ⟨record, _, _, _, hs⟩
        exact ⟨_, hs⟩
      | false =>
        injection hwit with hwit
        injection hwit with _ hs
        exact ⟨[], hs⟩
    rcases hsf with ⟨witness, hs⟩
    refine ⟨rfl, hne.1, hne.2, ⟨hvin.1, hv.1, hvin.2, hv.2⟩, witness, ?_, ?_⟩
    · rw [parseInputs_exact.eq_write hin, parseOutputs_exact.eq_write hout, hs]
    · rw [← hs]
      exact hwit
  · intro h
    rcases h with ⟨hvr, hin, hout, hf, witness, hs, hwit⟩
    refine ⟨[], ?_⟩
    unfold parseNetworkBody
    have hrej : (tx.inputs.isEmpty || tx.outputs.isEmpty) = false := by
      simp [hin, hout]
    rw [hs, bind_of_ok (parseInputs_exact.complete _ ⟨hf.inputs, hf.input⟩),
      bind_of_ok (parseOutputs_exact.complete _ ⟨hf.outputs, hf.output⟩),
      bind_of_ok (rejectIf_false _ _ hrej), bind_of_ok hwit, bind_of_ok (hl _),
      ← hvr]
    rfl

lemma parseNetwork_eq [Target] (bytes : Bytes) :
    parseNetwork bytes = StateT.run' (do
      let version ← u32Le
      let segwit ← startsWith [0x00, 0x01]
      let _ ← if segwit then take 2 else pure []
      parseNetworkBody version segwit) bytes := rfl

lemma parseNetwork_version [Target] {version : UInt32} :
    parseNetwork (u32LeBytes version ++ s) = .ok tx ↔
      ∃ s', parseNetworkBody version ([0x00, 0x01].isPrefixOf s)
        (if [0x00, 0x01].isPrefixOf s then s.drop 2 else s) = .ok (tx, s') := by
  rw [parseNetwork_eq, run'_eq_ok, bind_of_ok (u32Le_exact.complete _ trivial)]
  have hm : startsWith [0x00, 0x01] s = .ok ([0x00, 0x01].isPrefixOf s, s) := rfl
  rw [bind_of_ok hm]
  cases hseg : [0x00, 0x01].isPrefixOf s with
  | false =>
    rw [if_neg Bool.false_ne_true, if_neg Bool.false_ne_true]
    rfl
  | true =>
    have hlen : 2 ≤ s.length := (List.isPrefixOf_iff_prefix.mp hseg).length_le
    have ht : take 2 s = .ok (s.take 2, s.drop 2) := by
      unfold take
      rw [if_pos hlen]
    rw [if_pos rfl, if_pos rfl, bind_of_ok ht]

/-- The network parser accepts precisely the network encodings of the
transactions with inputs and outputs that are within its limits. -/
theorem parseNetwork_eq_ok [Target] {bytes : Bytes} :
    parseNetwork bytes = .ok tx ↔
      tx.inputs ≠ [] ∧ tx.outputs ≠ [] ∧ tx.Fits ∧ tx.NetworkEncoding bytes := by
  constructor
  · intro h
    -- every accepted string starts with a version; the marker is looked for behind it
    have hr : ∃ version s, bytes = u32LeBytes version ++ s := by
      have hrun := h
      rw [parseNetwork_eq, run'_eq_ok] at hrun
      rcases hrun with ⟨s', hrun⟩
      rw [bind_eq_ok] at hrun
      rcases hrun with ⟨version, s, hv, _⟩
      exact ⟨version, s, u32Le_exact.eq_write hv⟩
    rcases hr with ⟨version, s, hb⟩
    rw [hb, parseNetwork_version, parseNetworkBody_eq_ok] at h
    rcases h with ⟨hv, hin, hout, hf, witness, hs, hwit⟩
    refine ⟨hin, hout, hf, ?_⟩
    rw [hb, ← hv]
    by_cases hseg : [0x00, 0x01].isPrefixOf s = true
    · -- marker and flag: what follows the outputs is a witness record
      right
      rw [if_pos hseg] at hs
      rw [hseg, parseWitnesses_true_eq_ok] at hwit
      rcases hwit with ⟨record, hlen, hst, hany, hw⟩
      refine ⟨record, ⟨hlen, hst⟩, hany, ?_⟩
      rcases List.isPrefixOf_iff_prefix.mp hseg with ⟨t, ht⟩
      have htl : t = s.drop 2 := by rw [← ht]; rfl
      rw [← ht, htl, hs, hw, serializeWitness]
      simp
    · -- no marker: the bytes are the legacy form
      left
      rw [if_neg hseg] at hs
      rw [Bool.not_eq_true] at hseg
      rw [hseg] at hwit
      injection hwit with hwit
      injection hwit with _ hw
      rw [hs, hw, serializeLegacy]
      simp
  · intro h
    rcases h with ⟨hin, hout, hf, henc⟩
    have hpos : 0 < tx.inputs.length := List.length_pos_iff.mpr hin
    have hlt : tx.inputs.length < 2 ^ 64 := lt_of_le_of_lt hf.inputs usizeMax_lt
    rcases henc with hb | ⟨record, hrec, hany, hb⟩
    · -- the count of a non-empty input list is no marker
      rw [hb, serializeLegacy, List.append_assoc, List.append_assoc, List.append_assoc,
        parseNetwork_version, head_writeCompactSize hlt hpos, parseNetworkBody_eq_ok]
      exact ⟨rfl, hin, hout, hf, [], by simp, rfl⟩
    · rw [hb, serializeWitness, List.append_assoc, List.append_assoc, List.append_assoc,
        List.append_assoc, parseNetwork_version, parseNetworkBody_eq_ok]
      refine ⟨rfl, hin, hout, hf, record.flatMap serializeStack, by simp [List.isPrefixOf], ?_⟩
      exact parseWitnesses_true_eq_ok.mpr ⟨record, hrec.length, hrec.fits, hany, rfl⟩

lemma parseNetwork_superfluous [Target] {record : List (List Bytes)}
    (hin : tx.inputs ≠ []) (hout : tx.outputs ≠ []) (hf : tx.Fits)
    (hrec : tx.Witnesses record) (hem : hasWitness record = false) :
    parseNetwork (tx.serializeWitness record)
      = .error (malformed "superfluous witness record") := by
  have hs := skipWitnesses_complete record false (u32LeBytes tx.lockTime) hrec.fits
  rw [hem, hrec.length] at hs
  have hrej : (tx.inputs.isEmpty || tx.outputs.isEmpty) = false := by
    simp [hin, hout]
  have hm : ∀ s : Bytes, startsWith [0x00, 0x01] (0x00 :: 0x01 :: s)
      = .ok (true, 0x00 :: 0x01 :: s) := fun s => by simp [startsWith, List.isPrefixOf]
  have ht : ∀ s : Bytes, take 2 (0x00 :: 0x01 :: s) = .ok ([0x00, 0x01], s) := by
    intro s
    exact (take_exact 2).complete (a := [0x00, 0x01]) s rfl
  rw [parseNetwork_eq, serializeWitness]
  simp only [List.append_assoc, List.cons_append, List.nil_append, StateT.run']
  rw [bind_of_ok (u32Le_exact.complete _ trivial), bind_of_ok (hm _), if_pos rfl,
    bind_of_ok (ht _)]
  unfold parseNetworkBody parseWitnesses
  rw [← List.append_assoc (writeCompactSize tx.inputs.length),
    bind_of_ok (parseInputs_exact.complete _ ⟨hf.inputs, hf.input⟩),
    ← List.append_assoc (writeCompactSize tx.outputs.length),
    bind_of_ok (parseOutputs_exact.complete _ ⟨hf.outputs, hf.output⟩),
    bind_of_ok (rejectIf_false _ _ hrej), if_pos rfl]
  rw [bind_of_error (e := malformed "superfluous witness record")]
  · rfl
  · rw [bind_of_ok hs]
    rfl

/-- **The two transaction formats are read without ambiguity.** Whatever the
legacy parser accepts is the serialization of its result, and every transaction
within the limits comes back from its own serialization. The network parser
returns the same transaction, hence the same txid, from the legacy form and from
the BIP-144 form under every witness record that is not all empty, and refuses
an all-empty one. -/
theorem serialization_unambiguous [Target] [Sha256] :
    (∀ bytes tx, parseLegacy bytes = .ok tx → tx.serializeLegacy = bytes) ∧
    (∀ tx : Transaction, tx.Fits → parseLegacy tx.serializeLegacy = .ok tx) ∧
    (∀ tx : Transaction, tx.inputs ≠ [] → tx.outputs ≠ [] → tx.Fits →
      parseNetwork tx.serializeLegacy = .ok tx ∧
      (∀ record, tx.Witnesses record → hasWitness record = true →
        parseNetwork (tx.serializeWitness record) = .ok tx) ∧
      (∀ bytes, tx.NetworkEncoding bytes →
        (parseNetwork bytes).map txid = .ok (doubleSha256 tx.serializeLegacy)) ∧
      (∀ record, tx.Witnesses record → hasWitness record = false →
        ∃ e, parseNetwork (tx.serializeWitness record) = .error e)) := by
  refine ⟨?_, ?_, ?_⟩
  · intro bytes tx h
    exact (parseLegacy_eq_ok.mp h).1.symm
  · intro tx hf
    exact parseLegacy_eq_ok.mpr ⟨rfl, hf⟩
  · intro tx hin hout hf
    have hn : ∀ bytes, tx.NetworkEncoding bytes → parseNetwork bytes = .ok tx :=
      fun bytes henc => parseNetwork_eq_ok.mpr ⟨hin, hout, hf, henc⟩
    refine ⟨hn _ (Or.inl rfl), ?_, ?_, ?_⟩
    · intro record hrec hany
      exact hn _ (Or.inr ⟨record, hrec, hany, rfl⟩)
    · intro bytes henc
      rw [hn bytes henc]
      rfl
    · intro record hrec hem
      exact ⟨_, parseNetwork_superfluous hin hout hf hrec hem⟩

end Transaction

def coinTx : Transaction where
  version := 2
  inputs := [{
    previousOutput := { txid := .replicate 32 0x11, vout := 0 }
    scriptSig := []
    sequence := 0xffffffff }]
  outputs := [
    ⟨100000, [0x00, 0x14] ++ beBytes 20 0xc0cebcd6c3d3ca8c75dc5ec62ebe55330ef910e2⟩,
    ⟨200000, [0x00, 0x14] ++ beBytes 20 0xc0cebcd6c3d3ca8c75dc5ec62ebe55330ef910e2⟩]
  lockTime := 0

/-- With a witness on its input, `coinTx` is read as itself, under its txid. -/
theorem coinTx_unambiguous :
    letI := target64
    letI := Reference.sha256
    Transaction.parseLegacy coinTx.serializeLegacy = .ok coinTx ∧
      Transaction.parseNetwork (coinTx.serializeWitness [[[0xab]]]) = .ok coinTx ∧
      (Transaction.parseNetwork (coinTx.serializeWitness [[[0xab]]])).map Transaction.txid =
        .ok (doubleSha256 coinTx.serializeLegacy) ∧
      ∃ e, Transaction.parseNetwork (coinTx.serializeWitness [[]]) = .error e := by
  let _ := target64
  let _ := Reference.sha256
  have hf : coinTx.Fits := ⟨by decide, by decide, by decide, by decide⟩
  have hrec : coinTx.Witnesses [[[0xab]]] := ⟨rfl, by decide⟩
  have hem : coinTx.Witnesses [[]] := ⟨rfl, by decide⟩
  have h := Transaction.serialization_unambiguous
  have hn := h.2.2 coinTx (by decide) (by decide) hf
  exact ⟨h.2.1 coinTx hf, hn.2.1 _ hrec rfl,
    hn.2.2.1 _ (Or.inr ⟨_, hrec, rfl, rfl⟩), hn.2.2.2 _ hem rfl⟩

end KrustyKms.Bitcoin

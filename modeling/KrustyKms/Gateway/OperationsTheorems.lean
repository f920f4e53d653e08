import KrustyKms.Gateway.Operations
import KrustyKms.Support.Fallible
import Mathlib.Data.List.Induction

/-!
# What the operation store keeps

The store is compared with the list of its calls. `Tracked` says what an entry knows of the last
insert of its id: the clock value, the place among the inserts, and the status, marked if some
call since then saw a clock too far ahead.
-/

namespace KrustyKms.Gateway.OperationStore

open Support

variable {Provenance : Type}

/-! ## The history of an id -/

section History

variable (ttlMs : ℕ) (calls : List (Call Provenance × ℕ))

/-- Call `i` inserted the operation, and none after it did. -/
def LastInsert (id : OperationId) (i : ℕ) (status : OperationStatus Provenance) (at_ : ℕ) : Prop :=
  calls[i]? = some (.insert status, at_) ∧ status.id = id ∧
    ∀ j other later, i < j → calls[j]? = some (.insert other, later) → other.id ≠ id

/-- Since call `i` a call has come after the retention time. -/
def SawOverdue (i at_ : ℕ) : Prop :=
  ∃ j call now, i ≤ j ∧ calls[j]? = some (call, now) ∧ ttlMs < now - at_

def HasExpired (i : ℕ) (status : OperationStatus Provenance) (at_ : ℕ) : Prop :=
  status.state = .expired ∨ SawOverdue ttlMs calls i at_

end History

def Reported (overdue : Prop) (inserted reported : OperationStatus Provenance) : Prop :=
  (overdue → reported = { inserted with state := .expired }) ∧ (¬ overdue → reported = inserted)

def Call.isInsert : Call Provenance × ℕ → Bool
  | (.insert _, _) => true
  | (.get _, _) => false

def insertsBefore (calls : List (Call Provenance × ℕ)) (i : ℕ) : ℕ :=
  (calls.take i).countP Call.isInsert

variable {ttlMs : ℕ} {calls : List (Call Provenance × ℕ)} {id : OperationId} {i at_ now : ℕ}
  {status : OperationStatus Provenance} {call : Call Provenance}

lemma LastInsert.lt_length (h : LastInsert calls id i status at_) : i < calls.length :=
  (List.getElem?_eq_some_iff.mp h.1).1

lemma LastInsert.snoc (h : LastInsert calls id i status at_)
    (ho : ∀ other, call = .insert other → other.id ≠ id) :
    LastInsert (calls ++ [(call, now)]) id i status at_ := by
  have hlt := h.lt_length
  obtain ⟨hat, hid, hls⟩ := h
  refine ⟨by rw [List.getElem?_append_left hlt, hat], hid, ?_⟩
  intro j other later hj hc
  by_cases hl : j < calls.length
  · rw [List.getElem?_append_left hl] at hc
    exact hls j other later hj hc
  · rw [List.getElem?_append_right (not_lt.mp hl), List.getElem?_singleton] at hc
    split_ifs at hc
    exact ho other (congrArg Prod.fst (Option.some.inj hc))

lemma lastInsert_snoc_self :
    LastInsert (calls ++ [(.insert status, now)]) status.id calls.length status now := by
  refine ⟨by simp, rfl, ?_⟩
  intro j other later hj hc
  rw [List.getElem?_eq_none (by rw [List.length_append, List.length_singleton]; omega)] at hc
  cases hc

lemma sawOverdue_snoc (hi : i ≤ calls.length) :
    SawOverdue ttlMs (calls ++ [(call, now)]) i at_ ↔
      SawOverdue ttlMs calls i at_ ∨ ttlMs < now - at_ := by
  constructor
  · rintro ⟨j, other, later, hj, hc, hl⟩
    by_cases hln : j < calls.length
    · rw [List.getElem?_append_left hln] at hc
      exact .inl ⟨j, other, later, hj, hc, hl⟩
    · rw [List.getElem?_append_right (not_lt.mp hln), List.getElem?_singleton] at hc
      split_ifs at hc
      obtain ⟨-, rfl⟩ := Prod.mk.inj (Option.some.inj hc)
      exact .inr hl
  · rintro (⟨j, other, later, hj, hc, hl⟩ | hl)
    · have hlt := (List.getElem?_eq_some_iff.mp hc).1
      exact ⟨j, other, later, hj, by rw [List.getElem?_append_left hlt, hc], hl⟩
    · exact ⟨calls.length, call, now, hi, by simp, hl⟩

lemma insertsBefore_snoc (hi : i ≤ calls.length) (last : Call Provenance × ℕ) :
    insertsBefore (calls ++ [last]) i = insertsBefore calls i := by
  unfold insertsBefore
  rw [List.take_append_of_le_length hi]

lemma insertsBefore_length_snoc (last : Call Provenance × ℕ) :
    insertsBefore (calls ++ [last]) (calls ++ [last]).length =
      insertsBefore calls calls.length + if Call.isInsert last then 1 else 0 := by
  unfold insertsBefore
  rw [List.take_length, List.take_length, List.countP_append, List.countP_singleton]

lemma insertsBefore_le (calls : List (Call Provenance × ℕ)) (i : ℕ) :
    insertsBefore calls i ≤ calls.length :=
  List.countP_le_length.trans (by rw [List.length_take]; exact min_le_right _ _)

lemma insertsBefore_lt {j : ℕ} (hij : i < j) (hc : calls[i]? = some (.insert status, at_)) :
    insertsBefore calls i < insertsBefore calls j := by
  have hs : insertsBefore calls (i + 1) = insertsBefore calls i + 1 := by
    unfold insertsBefore
    rw [List.take_add_one, hc, List.countP_append]
    rfl
  have hm : insertsBefore calls (i + 1) ≤ insertsBefore calls j :=
    (List.take_sublist_take_left hij).countP_le
  omega

/-! ## Entries and their history -/

structure Tracked (ttlMs : ℕ) (calls : List (Call Provenance × ℕ))
    (entry : OperationId × OperationEntry Provenance) (i : ℕ)
    (inserted : OperationStatus Provenance) : Prop where
  last : LastInsert calls entry.1 i inserted entry.2.updatedAtMs
  revision : entry.2.revision = insertsBefore calls i + 1
  reported : Reported (SawOverdue ttlMs calls i entry.2.updatedAtMs) inserted entry.2.status

variable {entry other : OperationId × OperationEntry Provenance}

lemma isExpired_eq_true {entry : OperationEntry Provenance} :
    entry.isExpired = true ↔ entry.status.state = .expired := decide_eq_true_iff

@[simp] lemma expire_updatedAtMs (entry : OperationEntry Provenance) :
    (expire ttlMs now entry).updatedAtMs = entry.updatedAtMs := by
  unfold expire
  split_ifs <;> rfl

@[simp] lemma expire_revision (entry : OperationEntry Provenance) :
    (expire ttlMs now entry).revision = entry.revision := by
  unfold expire
  split_ifs <;> rfl

lemma reported_expire {overdue : Prop} {entry : OperationEntry Provenance}
    (h : Reported overdue status entry.status) :
    Reported (overdue ∨ ttlMs < now - entry.updatedAtMs) status
      (expire ttlMs now entry).status := by
  obtain ⟨hm, hk⟩ := h
  unfold expire
  by_cases ho : overdue
  · have hs := hm ho
    have hex : entry.isExpired = true := isExpired_eq_true.mpr (by rw [hs])
    rw [if_pos hex]
    exact ⟨fun _ => hs, fun hnot => absurd (.inl ho) hnot⟩
  · have hs := hk ho
    by_cases hex : entry.isExpired = true
    · rw [if_pos hex]
      refine ⟨fun _ => ?_, fun _ => hs⟩
      -- inserted as expired: replacing the state changes nothing
      rw [← hs, ← isExpired_eq_true.mp hex]
    · rw [if_neg hex]
      by_cases hl : ttlMs < now - entry.updatedAtMs
      · rw [if_pos hl]
        exact ⟨fun _ => by rw [hs], fun hnot => absurd (.inr hl) hnot⟩
      · rw [if_neg hl]
        exact ⟨fun hor => absurd hor (not_or.mpr ⟨ho, hl⟩), fun _ => hs⟩

lemma Tracked.snoc (h : Tracked ttlMs calls entry i status)
    (ho : ∀ s, call = .insert s → s.id ≠ entry.1) :
    Tracked ttlMs (calls ++ [(call, now)]) (entry.1, expire ttlMs now entry.2) i status := by
  have hi := h.last.lt_length.le
  refine ⟨?_, ?_, ?_⟩
  · rw [expire_updatedAtMs]
    exact h.last.snoc ho
  · rw [expire_revision, insertsBefore_snoc hi]
    exact h.revision
  · rw [expire_updatedAtMs, sawOverdue_snoc hi]
    exact reported_expire h.reported

lemma tracked_new (calls : List (Call Provenance × ℕ)) (status : OperationStatus Provenance)
    (ttlMs now : ℕ) :
    Tracked ttlMs (calls ++ [(.insert status, now)])
      (status.id, expire ttlMs now
        { status, updatedAtMs := now, revision := insertsBefore calls calls.length + 1 })
      calls.length status := by
  refine ⟨?_, ?_, ?_⟩
  · rw [expire_updatedAtMs]
    exact lastInsert_snoc_self
  · rw [expire_revision, insertsBefore_snoc le_rfl]
  · rw [expire_updatedAtMs, sawOverdue_snoc le_rfl]
    refine reported_expire ⟨fun ho => ?_, fun _ => rfl⟩
    obtain ⟨j, _, _, hj, hc, -⟩ := ho
    have hlt := (List.getElem?_eq_some_iff.mp hc).1
    omega

lemma Tracked.isExpired_iff (h : Tracked ttlMs calls entry i status) :
    entry.2.isExpired = true ↔ HasExpired ttlMs calls i status entry.2.updatedAtMs := by
  rw [isExpired_eq_true]
  by_cases ho : SawOverdue ttlMs calls i entry.2.updatedAtMs
  · simp [HasExpired, ho, h.reported.1 ho]
  · simp [HasExpired, ho, h.reported.2 ho]

lemma Tracked.lt_of_revision_le {j : ℕ} {status' : OperationStatus Provenance}
    (h : Tracked ttlMs calls entry i status) (h' : Tracked ttlMs calls other j status')
    (hne : entry.1 ≠ other.1) (hle : entry.2.revision ≤ other.2.revision) : i < j := by
  rcases lt_trichotomy i j with hlt | rfl | hgt
  · exact hlt
  · have hs := h.last.1.symm.trans h'.last.1
    simp only [Option.some.injEq, Prod.mk.injEq, Call.insert.injEq] at hs
    have hid : entry.1 = other.1 := by rw [← h.last.2.1, ← h'.last.2.1, hs.1]
    exact absurd hid hne
  · have hc := insertsBefore_lt hgt h'.last.1
    rw [h.revision, h'.revision] at hle
    omega

/-! ## Eviction -/

section Evict

variable {maxEntries : ℕ} {entries : List (OperationId × OperationEntry Provenance)}

lemma evict_sublist : (evict maxEntries entries).Sublist entries := by
  unfold evict
  split_ifs
  · exact List.Sublist.refl _
  · exact List.filter_sublist

lemma perm_byAge (entries : List (OperationId × OperationEntry Provenance)) (k : ℕ) :
    (entries.map Prod.fst).Perm
      ((((entries.map age).insertionSort Age.Le).take k).map Age.id ++
        (((entries.map age).insertionSort Age.Le).drop k).map Age.id) := by
  rw [← List.map_append, List.take_append_drop]
  have hids : entries.map Prod.fst = (entries.map age).map Age.id := by
    rw [List.map_map]
    rfl
  rw [hids]
  exact ((List.perm_insertionSort Age.Le _).map _).symm

lemma length_evict (maxEntries : ℕ) (hn : (entries.map Prod.fst).Nodup) :
    (evict maxEntries entries).length = min entries.length maxEntries := by
  unfold evict
  split_ifs with hle
  · rw [min_eq_left hle]
  · set sorted := (entries.map age).insertionSort Age.Le with hs
    set removed := (sorted.take (entries.length - maxEntries)).map Age.id with hr
    have hp := perm_byAge entries (entries.length - maxEntries)
    rw [← hs, ← hr] at hp
    have hd := (List.nodup_append.mp (hp.nodup_iff.mp hn)).2.2
    have hk : ((entries.filter fun entry => entry.1 ∉ removed).map Prod.fst).length =
        ((entries.map Prod.fst).filter fun id => id ∉ removed).length := by
      rw [List.filter_map]
      rfl
    rw [← List.length_map Prod.fst, hk, (hp.filter _).length_eq, List.filter_append]
    have hnn : removed.filter (fun id => id ∉ removed) = [] := by
      rw [List.filter_eq_nil_iff]
      simp
    have hall : ∀ id ∈ (sorted.drop (entries.length - maxEntries)).map Age.id,
        decide (id ∉ removed) = true := by
      intro id hid
      rw [decide_eq_true_iff]
      intro hmem
      exact hd id hmem id hid rfl
    rw [hnn, List.nil_append, List.filter_eq_self.mpr hall, List.length_map, List.length_drop,
      hs, List.length_insertionSort, List.length_map]
    omega

lemma age_le_of_evicted (hn : (entries.map Prod.fst).Nodup)
    {dropped kept : OperationId × OperationEntry Provenance} (hd : dropped ∈ entries)
    (hg : dropped.1 ∉ (evict maxEntries entries).map Prod.fst)
    (hk : kept ∈ evict maxEntries entries) : Age.Le (age dropped) (age kept) := by
  unfold evict at hg hk
  split_ifs at hg hk with hle
  · exact absurd (List.mem_map_of_mem hd) hg
  · set sorted := (entries.map age).insertionSort Age.Le with hsr
    set k := entries.length - maxEntries
    have hp : sorted.Pairwise Age.Le := List.pairwise_insertionSort Age.Le _
    rw [← List.take_append_drop k sorted, List.pairwise_append] at hp
    -- an age in the sorted list is that of the entry with the same id
    have hage : ∀ entry ∈ entries, ∀ a ∈ sorted, a.id = entry.1 → a = age entry := by
      intro entry hen a ha hid
      rw [hsr, List.mem_insertionSort, List.mem_map] at ha
      obtain ⟨same, hsm, rfl⟩ := ha
      rw [List.inj_on_of_nodup_map hn hsm hen hid]
    have hr : dropped.1 ∈ (sorted.take k).map Age.id := by
      by_contra hnot
      apply hg
      exact List.mem_map_of_mem (List.mem_filter.mpr ⟨hd, decide_eq_true hnot⟩)
    obtain ⟨hmem, hs⟩ := List.mem_filter.mp hk
    have hs := of_decide_eq_true hs
    have hin : age kept ∈ sorted := by
      rw [hsr, List.mem_insertionSort]
      exact List.mem_map_of_mem hmem
    rw [← List.take_append_drop k sorted, List.mem_append] at hin
    have hdr : age kept ∈ sorted.drop k :=
      hin.resolve_left fun ht => hs (List.mem_map_of_mem ht)
    obtain ⟨a, ht, hid⟩ := List.mem_map.mp hr
    rw [← hage dropped hd a (List.mem_of_mem_take ht) hid]
    exact hp.2.2 a ht (age kept) hdr

end Evict

/-! ## Calls -/

structure Invariant (retention : OperationRetentionPolicy) (calls : List (Call Provenance × ℕ))
    (store : OperationStore Provenance) : Prop where
  retention_eq : store.retention = retention
  nodup : (store.entries.map Prod.fst).Nodup
  bound : store.entries.length ≤ retention.maxEntries
  revision : store.nextRevision = insertsBefore calls calls.length + 1
  tracked : ∀ entry ∈ store.entries, ∃ i status,
    Tracked retention.ttlMs calls entry i status

def marked (store : OperationStore Provenance) : Call Provenance × ℕ →
    List (OperationId × OperationEntry Provenance)
  | (.get _, now) => store.entries.map fun entry =>
    (entry.1, expire store.retention.ttlMs now entry.2)
  | (.insert status, now) =>
    ((status.id, { status, updatedAtMs := now, revision := store.nextRevision }) ::
      store.entries.filter fun entry => entry.1 ≠ status.id).map fun entry =>
        (entry.1, expire store.retention.ttlMs now entry.2)

lemma apply_entries (store : OperationStore Provenance) (last : Call Provenance × ℕ) :
    (store.apply last).entries = evict store.retention.maxEntries (store.marked last) := by
  obtain ⟨call, now⟩ := last
  cases call <;> rfl

lemma apply_retention (store : OperationStore Provenance) (last : Call Provenance × ℕ) :
    (store.apply last).retention = store.retention := by
  obtain ⟨call, now⟩ := last
  cases call <;> rfl

variable {retention : OperationRetentionPolicy} {store : OperationStore Provenance}
  {last : Call Provenance × ℕ}

lemma Invariant.marked_nodup (h : Invariant retention calls store)
    (last : Call Provenance × ℕ) :
    ((store.marked last).map Prod.fst).Nodup := by
  obtain ⟨call, now⟩ := last
  cases call with
  | get id =>
    simp only [marked, List.map_map, Function.comp_def]
    exact h.nodup
  | insert status =>
    simp only [marked, List.map_map, Function.comp_def, List.map_cons, List.nodup_cons]
    refine ⟨?_, (List.filter_sublist.map Prod.fst).nodup h.nodup⟩
    simp

lemma Invariant.marked_tracked (h : Invariant retention calls store)
    (last : Call Provenance × ℕ) :
    ∀ entry ∈ store.marked last, ∃ i status,
      Tracked retention.ttlMs (calls ++ [last]) entry i status := by
  obtain ⟨call, now⟩ := last
  intro entry hen
  cases call with
  | get id =>
    obtain ⟨old, hold, rfl⟩ := List.mem_map.mp hen
    obtain ⟨i, status, ht⟩ := h.tracked old hold
    rw [h.retention_eq]
    exact ⟨i, status, ht.snoc (by rintro s ⟨⟩)⟩
  | insert inserted =>
    obtain ⟨old, hold, rfl⟩ := List.mem_map.mp hen
    rw [h.retention_eq]
    rcases List.mem_cons.mp hold with rfl | hold
    · rw [h.revision]
      exact ⟨_, _, tracked_new calls inserted _ _⟩
    · obtain ⟨hold, hne⟩ := List.mem_filter.mp hold
      obtain ⟨i, status, ht⟩ := h.tracked old hold
      refine ⟨i, status, ht.snoc ?_⟩
      rintro s ⟨⟩
      exact (of_decide_eq_true hne).symm

lemma Invariant.step (h : Invariant retention calls store)
    (hs : calls.length + 1 < 2 ^ 64 - 1) :
    Invariant retention (calls ++ [last]) (store.apply last) where
  retention_eq := by rw [apply_retention, h.retention_eq]
  nodup := by
    rw [apply_entries]
    exact (evict_sublist.map Prod.fst).nodup (h.marked_nodup last)
  bound := by
    rw [apply_entries, length_evict _ (h.marked_nodup last), h.retention_eq]
    exact min_le_right _ _
  revision := by
    rw [insertsBefore_length_snoc]
    have hle := insertsBefore_le calls calls.length
    obtain ⟨call, now⟩ := last
    cases call with
    | get id => exact h.revision
    | insert status =>
      change min (store.nextRevision + 1) (2 ^ 64 - 1) = _
      rw [h.revision, min_eq_left (by omega)]
      rfl
  tracked := by
    intro entry hen
    rw [apply_entries] at hen
    exact h.marked_tracked last entry (evict_sublist.subset hen)

lemma run_snoc (retention : OperationRetentionPolicy) (calls : List (Call Provenance × ℕ))
    (last : Call Provenance × ℕ) :
    run retention (calls ++ [last]) = (run retention calls).apply last := by
  unfold run
  rw [List.foldl_append, List.foldl_cons, List.foldl_nil]

lemma invariant_run (retention : OperationRetentionPolicy) (calls : List (Call Provenance × ℕ))
    (hs : calls.length < 2 ^ 64 - 1) : Invariant retention calls (run retention calls) := by
  induction calls using List.reverseRecOn with
  | nil =>
    refine ⟨rfl, List.nodup_nil, Nat.zero_le _, rfl, ?_⟩
    intro entry hen
    cases hen
  | append_singleton calls last ih =>
    rw [List.length_append, List.length_singleton] at hs
    rw [run_snoc]
    exact (ih (by omega)).step hs

/-! ## What a call leaves and returns -/

lemma Invariant.mem_of_insert (h : Invariant retention calls store)
    (hmax : 1 ≤ retention.maxEntries) (ha : status.state ≠ .expired) (now : ℕ) :
    ∃ entry ∈ (store.apply (.insert status, now)).entries,
      entry.1 = status.id ∧ entry.2.status = status := by
  have ht := h.marked_tracked (.insert status, now)
  have hn := h.marked_nodup (.insert status, now)
  set fresh : OperationId × OperationEntry Provenance :=
    (status.id, expire store.retention.ttlMs now
      { status, updatedAtMs := now, revision := store.nextRevision }) with hf
  have hmem : fresh ∈ store.marked (.insert status, now) := List.mem_cons_self
  have hnew := tracked_new calls status store.retention.ttlMs now
  rw [← h.revision] at hnew
  have hu : fresh.2.status = status := by
    rw [hf]
    unfold expire
    rw [if_neg (by rwa [isExpired_eq_true]), if_neg (by simp)]
  refine ⟨fresh, ?_, rfl, hu⟩
  rw [apply_entries, h.retention_eq]
  by_contra hgn
  have hg : fresh.1 ∉ (evict retention.maxEntries (store.marked (.insert status, now))).map
      Prod.fst := by
    intro hid
    obtain ⟨same, hs, hids⟩ := List.mem_map.mp hid
    have heq := List.inj_on_of_nodup_map hn (evict_sublist.subset hs) hmem hids
    exact hgn (heq ▸ hs)
  -- something is kept, and it would have been inserted after the last call
  have hl := length_evict retention.maxEntries hn
  have hpos : 0 < (evict retention.maxEntries (store.marked (.insert status, now))).length := by
    have := List.length_pos_of_mem hmem
    omega
  obtain ⟨kept, hk⟩ := List.exists_mem_of_length_pos hpos
  obtain ⟨j, other, ho⟩ := ht kept (evict_sublist.subset hk)
  have hage := age_le_of_evicted hn hmem hg hk
  have hnt : fresh.2.isExpired = false := by
    rw [← Bool.not_eq_true, isExpired_eq_true, hu]
    exact ha
  have hne : fresh.1 ≠ kept.1 := fun heq => hg (heq ▸ List.mem_map_of_mem hk)
  rw [h.retention_eq] at hnew hf
  rcases hage with ⟨hin, -⟩ | ⟨-, hr⟩
  · simp [age, hnt] at hin
  · have hft : Tracked retention.ttlMs (calls ++ [(.insert status, now)]) fresh
        calls.length status := by rw [hf]; exact hnew
    have hlt := hft.lt_of_revision_le ho hne hr
    have hb := ho.last.lt_length
    rw [List.length_append, List.length_singleton] at hb
    omega

def ids (store : OperationStore Provenance) : List OperationId := store.entries.map Prod.fst

lemma mem_marked_ids {gone : OperationId} (now : ℕ)
    (hg : gone ∈ store.ids ∨ ∃ status, call = .insert status ∧ status.id = gone) :
    gone ∈ (store.marked (call, now)).map Prod.fst := by
  cases call with
  | get id =>
    simp only [marked, List.map_map, Function.comp_def]
    rcases hg with hg | ⟨_, hc, -⟩
    · exact hg
    · cases hc
  | insert inserted =>
    simp only [marked, List.map_map, Function.comp_def, List.map_cons, List.mem_cons]
    by_cases hs : gone = inserted.id
    · exact .inl hs
    · refine .inr ?_
      rcases hg with hg | ⟨_, hc, hid⟩
      · obtain ⟨entry, hen, rfl⟩ := List.mem_map.mp hg
        exact List.mem_map_of_mem (List.mem_filter.mpr ⟨hen, decide_eq_true hs⟩)
      · cases hc
        exact absurd hid.symm hs

lemma Invariant.evicted_before (h : Invariant retention calls store) {gone kept : OperationId}
    (hg : gone ∈ store.ids ∨ ∃ status, call = .insert status ∧ status.id = gone)
    (hev : gone ∉ (store.apply (call, now)).ids)
    (hk : kept ∈ (store.apply (call, now)).ids) :
    ∃ i status at_ j status' at',
      LastInsert (calls ++ [(call, now)]) gone i status at_ ∧
      LastInsert (calls ++ [(call, now)]) kept j status' at' ∧
      (HasExpired retention.ttlMs (calls ++ [(call, now)]) i status at_ ∧
          ¬ HasExpired retention.ttlMs (calls ++ [(call, now)]) j status' at' ∨
        (HasExpired retention.ttlMs (calls ++ [(call, now)]) i status at_ ↔
          HasExpired retention.ttlMs (calls ++ [(call, now)]) j status' at') ∧ i < j) := by
  have hn := h.marked_nodup (call, now)
  have ht := h.marked_tracked (call, now)
  unfold ids at hev hk
  rw [apply_entries] at hev hk
  obtain ⟨keptEntry, hs, rfl⟩ := List.mem_map.mp hk
  obtain ⟨goneEntry, hm, rfl⟩ := List.mem_map.mp (mem_marked_ids now hg)
  obtain ⟨i, status, hi⟩ := ht goneEntry hm
  obtain ⟨j, status', hj⟩ := ht keptEntry (evict_sublist.subset hs)
  refine ⟨i, status, _, j, status', _, hi.last, hj.last, ?_⟩
  rw [← hi.isExpired_iff, ← hj.isExpired_iff]
  rcases age_le_of_evicted hn hm hev hs with ⟨hf, hsc⟩ | ⟨hsm, hle⟩
  · left
    simpa [age] using And.intro hf hsc
  · right
    have hne : goneEntry.1 ≠ keptEntry.1 := fun heq => hev (heq ▸ hk)
    refine ⟨?_, hi.lt_of_revision_le hj hne hle⟩
    rw [show goneEntry.2.isExpired = keptEntry.2.isExpired by simpa [age] using hsm]

lemma Invariant.status_of_lookup (h : Invariant retention calls store)
    {entry : OperationEntry Provenance} (hen : store.entries.lookup id = some entry) :
    ∃ i status at_, LastInsert calls id i status at_ ∧
      Reported (SawOverdue retention.ttlMs calls i at_) status entry.status := by
  obtain ⟨i, status, ht⟩ := h.tracked _ (mem_of_lookup hen)
  exact ⟨i, status, _, ht.last, ht.reported⟩

/-- After each call of a history: the bound holds, a fresh operation is present, evictions are
in order, and `get` returns the last inserted status, expired exactly when it was overdue. -/
theorem operations_after_each_call (retention : OperationRetentionPolicy)
    (hmax : 1 ≤ retention.maxEntries) (calls : List (Call Provenance × ℕ))
    (call : Call Provenance) (now : ℕ) (hshort : (calls ++ [(call, now)]).length < 2 ^ 64 - 1) :
    (run retention (calls ++ [(call, now)])).entries.length ≤ retention.maxEntries ∧
      (∀ status, call = .insert status → status.state ≠ .expired →
        ((run retention (calls ++ [(call, now)])).entries.lookup status.id).map
          OperationEntry.status = some status) ∧
      (∀ gone kept,
        gone ∈ (run retention calls).ids ∨ (∃ status, call = .insert status ∧ status.id = gone) →
        gone ∉ (run retention (calls ++ [(call, now)])).ids →
        kept ∈ (run retention (calls ++ [(call, now)])).ids →
        ∃ i status at_ j status' at',
          LastInsert (calls ++ [(call, now)]) gone i status at_ ∧
          LastInsert (calls ++ [(call, now)]) kept j status' at' ∧
          (HasExpired retention.ttlMs (calls ++ [(call, now)]) i status at_ ∧
              ¬ HasExpired retention.ttlMs (calls ++ [(call, now)]) j status' at' ∨
            (HasExpired retention.ttlMs (calls ++ [(call, now)]) i status at_ ↔
              HasExpired retention.ttlMs (calls ++ [(call, now)]) j status' at') ∧ i < j)) ∧
      ∀ id, call = .get id →
        ((run retention calls).get id now).1 = none ∨
          ∃ i status at_ reported, LastInsert (calls ++ [(call, now)]) id i status at_ ∧
            ((run retention calls).get id now).1 = some reported ∧
            Reported (SawOverdue retention.ttlMs (calls ++ [(call, now)]) i at_) status
              reported := by
  have hb : calls.length + 1 < 2 ^ 64 - 1 := by
    rwa [List.length_append, List.length_singleton] at hshort
  have hinv := invariant_run retention calls (by omega)
  have ha := invariant_run retention (calls ++ [(call, now)]) hshort
  refine ⟨ha.bound, ?_, ?_, ?_⟩
  · rintro status rfl hac
    obtain ⟨entry, hen, hid, hs⟩ := hinv.mem_of_insert hmax hac now
    rw [← run_snoc] at hen
    rw [← hid, lookup_of_mem ha.nodup hen, Option.map_some, hs]
  · intro gone kept hg hev hk
    rw [run_snoc] at hev hk
    exact hinv.evicted_before hg hev hk
  · rintro id rfl
    rw [run_snoc] at ha
    have hget : ((run retention calls).get id now).1 =
        (((run retention calls).apply (.get id, now)).entries.lookup id).map
          OperationEntry.status := rfl
    rw [hget]
    cases hf : ((run retention calls).apply (.get id, now)).entries.lookup id with
    | none => exact .inl rfl
    | some entry =>
      obtain ⟨i, status, at_, hl, hr⟩ := ha.status_of_lookup hf
      exact .inr ⟨i, status, at_, entry.status, hl, rfl, hr⟩

/-- A second operation takes the only place. -/
theorem operations_after_second_insert :
    (((run ⟨1000, 1⟩ ([(.insert ⟨⟨"a"⟩, .sign, .queued, none⟩, 10)] ++
      [(.insert ⟨⟨"b"⟩, .sign, .running, none⟩, 20)]) : OperationStore Unit).entries.lookup
        ⟨"b"⟩).map OperationEntry.status) = some ⟨⟨"b"⟩, .sign, .running, none⟩ :=
  (operations_after_each_call ⟨1000, 1⟩ le_rfl [(.insert ⟨⟨"a"⟩, .sign, .queued, none⟩, 10)]
    (.insert ⟨⟨"b"⟩, .sign, .running, none⟩) 20 (by decide)).2.1 _ rfl (by decide)

end KrustyKms.Gateway.OperationStore

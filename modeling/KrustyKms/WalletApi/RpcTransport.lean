import KrustyKms.Support.Fallible
import Mathlib.Data.List.Defs

/-!
# JSON-RPC batches

The replies to a batch of requests are put into the order of the requests, by their ids. The
`i`-th request of a batch has the id `i`.
-/

namespace KrustyKms.WalletApi

open Support

structure JsonRpcError (Value : Type) where
  code : Int
  message : String
  data : Option Value
deriving DecidableEq, Repr

inductive JsonRpcResponse (Value : Type) where
  | success (id : Option UInt64) (result : Value)
  | error (id : Option UInt64) (error : JsonRpcError Value)
deriving DecidableEq, Repr

/-- The errors that ordering a batch gives. -/
inductive BoundedHttpTransportError where
  | unexpectedResponseId (id : UInt64)
  | invalidNumericResponseId
deriving DecidableEq, Repr

variable {Value : Type}

def JsonRpcResponse.id : JsonRpcResponse Value → Option UInt64
  | .success id _ | .error id _ => id

def placeResponse (responses : List (Option (JsonRpcResponse Value)))
    (item : JsonRpcResponse Value) :
    Except BoundedHttpTransportError (List (Option (JsonRpcResponse Value))) :=
  match item.id with
  | none => .error .invalidNumericResponseId
  | some id =>
    if id.toNat < responses.length then .ok (responses.set id.toNat (some item))
    else .error (.unexpectedResponseId id)

def orderBatch (parsed : List (JsonRpcResponse Value)) (requestCount : ℕ) :
    Except BoundedHttpTransportError (List (JsonRpcResponse Value)) := do
  let responses ← parsed.foldlM placeResponse (List.replicate requestCount none)
  pure responses.reduceOption

/-! ## Slots -/

def JsonRpcResponse.HasId (i : ℕ) (item : JsonRpcResponse Value) : Bool :=
  item.id.map UInt64.toNat == some i

def JsonRpcResponse.Expected (requestCount : ℕ) (item : JsonRpcResponse Value) : Prop :=
  ∃ i < requestCount, item.HasId i = true

def lastReply (parsed : List (JsonRpcResponse Value)) (i : ℕ) : Option (JsonRpcResponse Value) :=
  (parsed.filter (·.HasId i)).getLast?

variable {item : JsonRpcResponse Value} {parsed : List (JsonRpcResponse Value)} {requestCount : ℕ}

lemma JsonRpcResponse.hasId_iff {i : ℕ} :
    item.HasId i = true ↔ ∃ id, item.id = some id ∧ id.toNat = i := by
  simp [HasId]

lemma placeResponse_of_hasId {responses : List (Option (JsonRpcResponse Value))}
    {i : ℕ} (hit : item.HasId i = true) (hi : i < responses.length) :
    placeResponse responses item = .ok (responses.set i (some item)) := by
  obtain ⟨id, hid, rfl⟩ := JsonRpcResponse.hasId_iff.mp hit
  simp only [placeResponse, hid, if_pos hi]

lemma placeResponse_of_unexpected {responses : List (Option (JsonRpcResponse Value))}
    (hit : ¬ item.Expected responses.length) :
    ∃ e, placeResponse responses item = .error e := by
  unfold placeResponse
  cases hid : item.id with
  | none => exact ⟨_, rfl⟩
  | some id =>
    have hl : ¬ id.toNat < responses.length := by
      intro hlt
      exact hit ⟨id.toNat, hlt, JsonRpcResponse.hasId_iff.mpr ⟨id, hid, rfl⟩⟩
    exact ⟨_, if_neg hl⟩

lemma lastReply_cons (item : JsonRpcResponse Value) (rest : List (JsonRpcResponse Value)) (i : ℕ) :
    lastReply (item :: rest) i =
      (lastReply rest i).or (if item.HasId i then some item else none) := by
  unfold lastReply
  by_cases hit : item.HasId i = true
  · rw [List.filter_cons_of_pos hit, if_pos hit, List.getLast?_cons]
    cases (rest.filter (·.HasId i)).getLast? <;> rfl
  · rw [List.filter_cons_of_neg hit, if_neg hit, Option.or_none]

lemma foldlM_placeResponse (parsed : List (JsonRpcResponse Value)) :
    ∀ responses : List (Option (JsonRpcResponse Value)),
      (∀ item ∈ parsed, item.Expected responses.length) →
      parsed.foldlM placeResponse responses =
        .ok (responses.mapIdx fun i old => (lastReply parsed i).or old) := by
  induction parsed with
  | nil =>
    intro responses _
    show Except.ok responses = _
    simp [lastReply, List.mapIdx_eq_zipIdx_map]
  | cons item rest ih =>
    intro responses him
    rw [List.forall_mem_cons] at him
    obtain ⟨⟨i, hi, hit⟩, hr⟩ := him
    rw [List.foldlM_cons, placeResponse_of_hasId hit hi]
    show rest.foldlM placeResponse (responses.set i (some item)) = _
    rw [ih _ (by simpa using hr)]
    apply congrArg Except.ok
    apply List.ext_getElem?
    intro j
    rw [List.getElem?_mapIdx, List.getElem?_mapIdx, lastReply_cons]
    by_cases hj : i = j
    · subst hj
      rw [List.getElem?_set_self hi, List.getElem?_eq_getElem hi, if_pos hit]
      simp
    · have ho : item.HasId j = false := by
        obtain ⟨id, hid, rfl⟩ := JsonRpcResponse.hasId_iff.mp hit
        simpa [JsonRpcResponse.HasId, hid] using hj
      rw [List.getElem?_set_ne hj, ho]
      simp

lemma foldlM_placeResponse_error (hmem : item ∈ parsed) :
    ∀ responses : List (Option (JsonRpcResponse Value)), ¬ item.Expected responses.length →
      ∃ e, parsed.foldlM placeResponse responses = .error e := by
  induction parsed with
  | nil => exact absurd hmem List.not_mem_nil
  | cons first rest ih =>
    intro responses hit
    rw [List.foldlM_cons]
    by_cases hf : first.Expected responses.length
    · obtain ⟨i, hi, hid⟩ := hf
      have hr : item ∈ rest := by
        obtain rfl | hr := List.mem_cons.mp hmem
        · exact absurd ⟨i, hi, hid⟩ hit
        · exact hr
      rw [placeResponse_of_hasId hid hi]
      exact ih hr _ (by simpa using hit)
    · obtain ⟨e, he⟩ := placeResponse_of_unexpected hf
      rw [he]
      exact ⟨e, rfl⟩

/-! ## Batches -/

lemma orderBatch_eq (h : ∀ item ∈ parsed, item.Expected requestCount) :
    orderBatch parsed requestCount =
      .ok ((List.range requestCount).map (lastReply parsed)).reduceOption := by
  have hl := foldlM_placeResponse parsed (List.replicate requestCount none) (by simpa using h)
  have hs : ((List.replicate requestCount none).mapIdx
      fun i old => (lastReply parsed i).or old) =
        (List.range requestCount).map (lastReply parsed) := by
    apply List.ext_getElem?
    intro i
    rw [List.getElem?_mapIdx, List.getElem?_map]
    by_cases hi : i < requestCount
    · simp [hi]
    · simp [hi]
  unfold orderBatch
  rw [hl, hs]
  rfl

lemma orderBatch_error (hmem : item ∈ parsed) (hit : ¬ item.Expected requestCount) :
    ∃ e, orderBatch parsed requestCount = .error e := by
  obtain ⟨e, he⟩ := foldlM_placeResponse_error hmem (List.replicate requestCount none)
    (by simpa using hit)
  unfold orderBatch
  rw [he]
  exact ⟨e, rfl⟩

/-- The reply at each place is the only one with its id. -/
def InOrder (parsed responses : List (JsonRpcResponse Value)) (requestCount : ℕ) : Prop :=
  responses.length = requestCount ∧ ∀ i < requestCount,
    ∃ item, responses[i]? = some item ∧ parsed.filter (·.HasId i) = [item]

def Malformed (parsed : List (JsonRpcResponse Value)) (requestCount : ℕ) : Prop :=
  (∃ i < requestCount, parsed.filter (·.HasId i) = []) ∨
    (∃ i < requestCount, 1 < (parsed.filter (·.HasId i)).length) ∨
    (∃ item ∈ parsed, item.id = none) ∨
    ∃ item ∈ parsed, ∃ id, item.id = some id ∧ requestCount ≤ id.toNat

lemma not_expected_iff :
    ¬ item.Expected requestCount ↔
      item.id = none ∨ ∃ id, item.id = some id ∧ requestCount ≤ id.toNat := by
  simp only [JsonRpcResponse.Expected, JsonRpcResponse.hasId_iff]
  cases item.id with
  | none => simp
  | some id => simp

lemma map_some_reduceOption {α : Type} {slots : List (Option α)} (h : ∀ slot ∈ slots, slot.isSome) :
    slots.reduceOption.map some = slots := by
  induction slots with
  | nil => rfl
  | cons slot slots ih =>
    rw [List.forall_mem_cons] at h
    obtain ⟨value, rfl⟩ := Option.isSome_iff_exists.mp h.1
    exact congrArg (some value :: ·) (ih h.2)

lemma inOrder_of_single (h : ∀ i < requestCount, (parsed.filter (·.HasId i)).length = 1) :
    InOrder parsed ((List.range requestCount).map (lastReply parsed)).reduceOption
      requestCount := by
  have hl : ∀ i < requestCount,
      ∃ item, lastReply parsed i = some item ∧ parsed.filter (·.HasId i) = [item] := by
    intro i hi
    obtain ⟨item, hit⟩ := List.length_eq_one_iff.mp (h i hi)
    exact ⟨item, by rw [lastReply, hit, List.getLast?_singleton], hit⟩
  have hf : ∀ slot ∈ (List.range requestCount).map (lastReply parsed), slot.isSome := by
    intro slot hs
    obtain ⟨i, hi, rfl⟩ := List.mem_map.mp hs
    obtain ⟨item, hit, -⟩ := hl i (List.mem_range.mp hi)
    rw [hit]
    rfl
  have hsl := map_some_reduceOption hf
  refine ⟨?_, ?_⟩
  · have hln := congrArg List.length hsl
    simpa using hln
  · intro i hi
    obtain ⟨item, hit, hfl⟩ := hl i hi
    have hs := congrArg (·[i]?) hsl
    simp only [List.getElem?_map, List.getElem?_range hi, Option.map_some, hit] at hs
    obtain ⟨response, hr, hsm⟩ := Option.map_eq_some_iff.mp hs
    exact ⟨item, hr.trans hsm, hfl⟩

/-- A caller finds the only reply to each request at its position, and malformed replies are
refused, exactly where a reply has a null or unknown id or each request has one reply. -/
theorem orderBatch_faithful_iff (parsed : List (JsonRpcResponse Value)) (requestCount : ℕ) :
    ((∀ responses, orderBatch parsed requestCount = .ok responses →
        InOrder parsed responses requestCount) ∧
      (Malformed parsed requestCount → ∃ e, orderBatch parsed requestCount = .error e)) ↔
      (∃ item ∈ parsed, item.id = none ∨ ∃ id, item.id = some id ∧ requestCount ≤ id.toNat) ∨
        ∀ i < requestCount, (parsed.filter (·.HasId i)).length = 1 := by
  by_cases hk : ∀ item ∈ parsed, item.Expected requestCount
  · have hn : ¬ ∃ item ∈ parsed,
        item.id = none ∨ ∃ id, item.id = some id ∧ requestCount ≤ id.toNat := by
      intro h
      obtain ⟨item, hmem, hit⟩ := h
      exact not_expected_iff.mpr hit (hk item hmem)
    have hok := orderBatch_eq hk
    rw [or_iff_right hn]
    constructor
    · intro h i hi
      obtain ⟨-, hrf⟩ := h
      by_contra hl
      -- Without an error, no id can be missing or repeated.
      have hm : Malformed parsed requestCount := by
        by_cases hem : parsed.filter (·.HasId i) = []
        · exact .inl ⟨i, hi, hem⟩
        · have hpos := List.length_pos_iff.mpr hem
          exact .inr (.inl ⟨i, hi, by omega⟩)
      obtain ⟨e, he⟩ := hrf hm
      rw [hok] at he
      exact absurd he (by simp)
    · intro hs
      refine ⟨?_, ?_⟩
      · intro responses hr
        rw [hok] at hr
        rw [← Except.ok.inj hr]
        exact inOrder_of_single hs
      · intro hm
        obtain ⟨i, hi, hem⟩ | ⟨i, hi, hmn⟩ | ⟨item, hmem, hid⟩ | ⟨item, hmem, hid⟩ :=
          hm
        · have hone := hs i hi
          rw [hem] at hone
          exact absurd hone (by simp)
        · have hone := hs i hi
          omega
        · exact absurd ⟨item, hmem, .inl hid⟩ hn
        · exact absurd ⟨item, hmem, .inr hid⟩ hn
  · push Not at hk
    obtain ⟨item, hmem, hit⟩ := hk
    obtain ⟨e, he⟩ := orderBatch_error hmem hit
    refine iff_of_true ⟨?_, fun _ => ⟨e, he⟩⟩ (.inl ⟨item, hmem, not_expected_iff.mp hit⟩)
    intro responses hr
    rw [he] at hr
    exact absurd hr (by simp)

/-- Two requests and one reply, to the second: it is returned at the position of the first. -/
theorem missing_reply_shifts :
    orderBatch [.success (some 1) "second"] 2 = .ok [.success (some 1) "second"] ∧
      Malformed [.success (some 1) "second"] 2 :=
  ⟨by decide, .inl ⟨0, by decide, by decide⟩⟩

end KrustyKms.WalletApi

import KrustyKms.Client.EventReader
import KrustyKms.Client.PaginationTheorems
import KrustyKms.Sdk.SharedTheorems
import Mathlib.Data.List.Perm.Basic

/-!
# What the event reader lists

Against a provider that serves the log of a chain, the ten queries of `getAllEvents` select every
event that involves the key.
-/

namespace KrustyKms.Client

open Crypto Support

/-! ## Overlapping selections -/

section Selections

variable {α β : Type}

/-- Selections one after another: an element is there once for each one that takes it. -/
lemma flatMap_filter_perm (selections : List (α → Bool)) (l : List α) :
    (selections.flatMap fun p => l.filter p).Perm
      (l.flatMap fun a => List.replicate (selections.countP fun p => p a) a) := by
  induction selections with
  | nil => simp
  | cons p selections ih =>
    have hf : l.filter p = l.flatMap fun a => if p a then [a] else [] := by
      rw [← List.filterMap_eq_filter, List.filterMap_eq_flatMap_toList]
      congr 1
      funext a
      cases hp : p a <;> simp [Option.guard, hp]
    rw [List.flatMap_cons, hf]
    refine (ih.append_left _).trans ((List.flatMap_append_perm l _ _).trans (.of_eq ?_))
    congr 1
    funext a
    cases hp : p a with
    | true => simp [hp, List.replicate_succ]
    | false => simp [hp]

lemma length_filter_le_sum (n : α → ℕ) (l : List α) :
    (l.filter fun a => 0 < n a).length ≤ (l.map n).sum := by
  induction l with
  | nil => simp
  | cons a l ih =>
    rw [List.filter_cons, List.map_cons, List.sum_cons]
    split_ifs with h
    · rw [decide_eq_true_eq] at h
      rw [List.length_cons]
      omega
    · omega

/-- No element is lost; none is there twice when the number of elements is right. -/
lemma sum_eq_length_filter_iff (n : α → ℕ) (l : List α) :
    (l.map n).sum = (l.filter fun a => 0 < n a).length ↔ ∀ a ∈ l, n a ≤ 1 := by
  induction l with
  | nil => simp
  | cons a l ih =>
    have hle := length_filter_le_sum n l
    rw [List.forall_mem_cons, ← ih, List.filter_cons, List.map_cons, List.sum_cons]
    split_ifs with h
    · rw [decide_eq_true_eq] at h
      rw [List.length_cons]
      omega
    · rw [decide_eq_true_eq] at h
      omega

lemma flatMap_replicate_eq_filter {n : α → ℕ} {l : List α} (h : ∀ a ∈ l, n a ≤ 1) :
    (l.flatMap fun a => List.replicate (n a) a) = l.filter fun a => 0 < n a := by
  induction l with
  | nil => rfl
  | cons a l ih =>
    rw [List.forall_mem_cons] at h
    rw [List.flatMap_cons, ih h.2, List.filter_cons]
    rcases Nat.le_one_iff_eq_zero_or_eq_one.mp h.1 with hz | hone
    · simp [hz]
    · simp [hone]

lemma map_flatMap_filter_perm_iff (selections : List (α → Bool)) (l : List α) (f : α → β) :
    ((selections.flatMap fun p => l.filter p).map f).Perm
        ((l.filter fun a => 0 < selections.countP fun p => p a).map f) ↔
      ∀ a ∈ l, (selections.countP fun p => p a) ≤ 1 := by
  have hp := flatMap_filter_perm selections l
  refine ⟨fun h => ?_, fun h => ?_⟩
  · -- `f` may identify elements, so only the lengths say how often each is there
    have hl := h.length_eq
    rw [List.length_map, List.length_map, hp.length_eq, List.length_flatMap] at hl
    simp only [List.length_replicate] at hl
    exact (sum_eq_length_filter_iff _ l).mp hl
  · rw [flatMap_replicate_eq_filter h] at hp
    exact hp.map f

lemma countP_pair_le_one_iff (p : ℕ → Bool) (i j : ℕ) :
    [i, j].countP p ≤ 1 ↔ ¬ (p i = true ∧ p j = true) := by
  cases hi : p i <;> cases hj : p j <;> simp [hi, hj]

end Selections

/-! ## The log of a chain -/

/-- The latest block, and the events of all blocks. -/
structure Chain where
  latest : UInt64
  log : List EmittedEvent

def BlockId.resolve (chain : Chain) : BlockId → UInt64
  | .number block => block
  | .latest => chain.latest

/-- A pattern of keys, place by place; an empty place allows every key. -/
def keysMatch : List (List Felt) → List Felt → Bool
  | [], _ => true
  | _ :: _, [] => false
  | allowed :: pattern, key :: keys =>
    (allowed.isEmpty || allowed.contains key) && keysMatch pattern keys

lemma keysMatch_cons (allowed : List Felt) (pattern : List (List Felt)) (keys : List Felt) :
    keysMatch (allowed :: pattern) keys = true ↔
      ∃ key, keys.head? = some key ∧ (allowed = [] ∨ key ∈ allowed) ∧
        keysMatch pattern keys.tail = true := by
  cases keys with
  | nil => simp [keysMatch]
  | cons key keys => simp [keysMatch]

def EventFilter.selects (chain : Chain) (filter : EventFilter) (e : EmittedEvent) : Bool :=
  filter.address.all (e.fromAddress = ·) &&
    e.blockNumber.any (fun block =>
      filter.fromBlock.all (fun first => first.resolve chain ≤ block) &&
        filter.toBlock.all (fun last => block ≤ last.resolve chain)) &&
    filter.keys.all (keysMatch · e.keys)

/-- After its last page, a filter has been given what it selects from the log. -/
def ServesLog (provider : Provider) (chain : Chain) : Prop :=
  ∀ filter pages, pages ≠ [] → Served provider filter pages none →
    pages.flatMap EventsPage.events = chain.log.filter (filter.selects chain)

/-! ## The events that involve a key -/

/-- An event of the contract, in the range of blocks. -/
def inScope (chain : Chain) (contractAddress : Felt) (fromBlock toBlock : Option UInt64)
    (e : EmittedEvent) : Bool :=
  e.fromAddress = contractAddress &&
    e.blockNumber.any fun block =>
      fromBlock.all (· ≤ block) && block ≤ toBlock.getD chain.latest

def hasKey (x y : Felt) (e : EmittedEvent) (place : ℕ) : Bool :=
  e.keys[place]? = some x && e.keys[place + 1]? = some y

lemma selects_eventFilter (chain : Chain) (contractAddress : Felt)
    (fromBlock toBlock : Option UInt64) (keys : List (List Felt)) (e : EmittedEvent) :
    (eventFilter contractAddress keys fromBlock toBlock).selects chain e
      = (inScope chain contractAddress fromBlock toBlock e && keysMatch keys e.keys) := by
  cases fromBlock <;> cases toBlock <;> rfl

section Kinds

variable [StarknetKeccak]

def EventKind.selector : EventKind → Felt
  | .fund => TongoEvents.fundEvent
  | .outsideFund => TongoEvents.outsideFundEvent
  | .withdraw => TongoEvents.withdrawEvent
  | .ragequit => TongoEvents.ragequitEvent
  | .rollover => TongoEvents.rolloverEvent
  | .transfer => TongoEvents.transferEvent
  | .balanceDeclared => TongoEvents.balanceDeclaredEvent
  | .transferDeclared => TongoEvents.transferDeclaredEvent

def EventKind.all : List EventKind :=
  [.fund, .outsideFund, .withdraw, .ragequit, .rollover, .transfer, .balanceDeclared,
    .transferDeclared]

/-- The places of the keys at which an account begins. -/
def EventKind.accounts : EventKind → List ℕ
  | .transfer | .transferDeclared => [1, 3]
  | _ => [1]

def kindOf (e : EmittedEvent) : Option EventKind :=
  EventKind.all.find? fun kind => e.keys.head? = some kind.selector

def involves (x y : Felt) (e : EmittedEvent) : Bool :=
  (kindOf e).any fun kind => kind.accounts.any (hasKey x y e)

/-- Both accounts of the event are the key. -/
def SelfTransfer (x y : Felt) (e : EmittedEvent) : Prop :=
  (kindOf e = some .transfer ∨ kindOf e = some .transferDeclared) ∧
    hasKey x y e 1 = true ∧ hasKey x y e 3 = true

instance decidableSelfTransfer (x y : Felt) (e : EmittedEvent) : Decidable (SelfTransfer x y e) :=
  inferInstanceAs (Decidable ((kindOf e = some .transfer ∨ kindOf e = some .transferDeclared) ∧
    hasKey x y e 1 = true ∧ hasKey x y e 3 = true))

def decodeEvent (Point : Type) [CurvePoint Point] (e : EmittedEvent) :
    Option (Result (TongoEvent Point)) :=
  (kindOf e).map fun kind => parseEvent kind e

lemma kindOf_eq_some (hinj : Function.Injective EventKind.selector) {e : EmittedEvent}
    {kind : EventKind} : kindOf e = some kind ↔ e.keys.head? = some kind.selector := by
  refine ⟨fun h => by simpa using List.find?_some h, fun h => ?_⟩
  cases hf : kindOf e with
  | none =>
    have hmem : kind ∈ EventKind.all := by cases kind <;> decide
    exact absurd h (by simpa using List.find?_eq_none.mp hf kind hmem)
  | some other =>
    have ho : e.keys.head? = some other.selector := by simpa using List.find?_some hf
    rw [h, Option.some.injEq] at ho
    rw [hinj ho]

/-! ## The queries -/

/-- The ten queries of `get_all_events`: a kind, and the place of the account. -/
def queries : List (EventKind × ℕ) :=
  [(.fund, 1), (.outsideFund, 1), (.withdraw, 1), (.ragequit, 1), (.rollover, 1), (.transfer, 1),
    (.transfer, 3), (.balanceDeclared, 1), (.transferDeclared, 1), (.transferDeclared, 3)]

variable (chain : Chain) (contractAddress : Felt) (fromBlock toBlock : Option UInt64) (x y : Felt)

def asked (query : EventKind × ℕ) (e : EmittedEvent) : Bool :=
  inScope chain contractAddress fromBlock toBlock e &&
    (decide (e.keys.head? = some query.1.selector) && hasKey x y e query.2)

/-- An event is asked for once for each place at which its kind has the key. -/
lemma countP_asked (hinj : Function.Injective EventKind.selector) (e : EmittedEvent) :
    ((queries.map (asked chain contractAddress fromBlock toBlock x y)).countP fun p => p e) =
      if inScope chain contractAddress fromBlock toBlock e then
        ((kindOf e).map fun kind => kind.accounts.countP (hasKey x y e)).getD 0
      else 0 := by
  rw [List.countP_map]
  split_ifs with hs
  · cases hk : kindOf e with
    | none =>
      rw [Option.map_none, Option.getD_none, List.countP_eq_zero]
      intro query _ ha
      have hh : e.keys.head? = some query.1.selector := by
        simp only [Function.comp_apply, asked, Bool.and_eq_true, decide_eq_true_eq] at ha
        exact ha.2.1
      rw [← kindOf_eq_some hinj, hk] at hh
      exact absurd hh (by simp)
    | some kind =>
      -- the selector fixes the kind, so only the queries for that kind can select the event
      have ha : ∀ query : EventKind × ℕ,
          asked chain contractAddress fromBlock toBlock x y query e
            = (decide (query.1 = kind) && hasKey x y e query.2) := by
        intro query
        rw [asked, hs, Bool.true_and]
        congr 1
        rw [decide_eq_decide, ← kindOf_eq_some hinj, hk, Option.some.injEq, eq_comm]
      simp only [Function.comp_def, ha, Option.map_some, Option.getD_some]
      cases kind <;> simp [queries, EventKind.accounts, List.countP_cons]
  · rw [List.countP_eq_zero]
    intro query _ ha
    simp only [Function.comp_apply, asked, Bool.and_eq_true] at ha
    exact hs ha.1

lemma countP_asked_pos_iff (hinj : Function.Injective EventKind.selector) (e : EmittedEvent) :
    0 < ((queries.map (asked chain contractAddress fromBlock toBlock x y)).countP fun p => p e) ↔
      (inScope chain contractAddress fromBlock toBlock e && involves x y e) = true := by
  rw [countP_asked _ _ _ _ _ _ hinj, Bool.and_eq_true, involves]
  split_ifs with hs
  · cases kindOf e with
    | none => simp [hs]
    | some kind => simp [hs, List.countP_pos_iff]
  · simp [hs]

lemma countP_asked_le_one_iff (hinj : Function.Injective EventKind.selector) (e : EmittedEvent) :
    ((queries.map (asked chain contractAddress fromBlock toBlock x y)).countP fun p => p e) ≤ 1 ↔
      (inScope chain contractAddress fromBlock toBlock e = true → ¬ SelfTransfer x y e) := by
  rw [countP_asked _ _ _ _ _ _ hinj, SelfTransfer]
  split_ifs with hs
  · cases kindOf e with
    | none => simp
    | some kind =>
      rw [Option.map_some, Option.getD_some]
      cases kind with
      | transfer | transferDeclared =>
        rw [EventKind.accounts, countP_pair_le_one_iff]
        simp [hs]
      | fund | outsideFund | withdraw | ragequit | rollover | balanceDeclared =>
        exact iff_of_true List.countP_le_length (by simp)
  · simp [hs]

lemma selects_firstAccount (kind : EventKind) (e : EmittedEvent) :
    (eventFilter contractAddress (TongoEventReader.firstAccount kind.selector x y) fromBlock
      toBlock).selects chain e = asked chain contractAddress fromBlock toBlock x y (kind, 1) e := by
  rw [selects_eventFilter, asked]
  congr 1
  rw [Bool.eq_iff_iff, TongoEventReader.firstAccount]
  simp [keysMatch_cons, keysMatch, hasKey, List.head?_eq_getElem?]

lemma selects_secondAccount (kind : EventKind) (e : EmittedEvent) :
    (eventFilter contractAddress (TongoEventReader.secondAccount kind.selector x y) fromBlock
      toBlock).selects chain e = asked chain contractAddress fromBlock toBlock x y (kind, 3) e := by
  rw [selects_eventFilter, asked]
  congr 1
  rw [Bool.eq_iff_iff, TongoEventReader.secondAccount]
  simp only [keysMatch_cons, keysMatch, hasKey, List.head?_eq_getElem?]
  simp
  intro _
  refine ⟨fun h => h.2.2, fun h => ?_⟩
  -- the places before the key are there
  have hl := (List.getElem?_eq_some_iff.mp h.2).1
  exact ⟨⟨_, List.getElem?_eq_getElem (by omega)⟩, ⟨_, List.getElem?_eq_getElem (by omega)⟩, h⟩

end Kinds

/-! ## The order -/

lemma blockLe_trans {a b c : Option UInt64} (hab : blockLe a b = true) (hbc : blockLe b c = true) :
    blockLe a c = true := by
  cases a with
  | none => rfl
  | some a =>
    cases b with
    | none => exact absurd hab (by simp [blockLe])
    | some b =>
      cases c with
      | none => exact absurd hbc (by simp [blockLe])
      | some c =>
        simp only [blockLe, decide_eq_true_eq] at hab hbc ⊢
        exact UInt64.le_trans hab hbc

lemma blockLe_total (a b : Option UInt64) : blockLe a b = true ∨ blockLe b a = true := by
  cases a with
  | none => exact .inl rfl
  | some a =>
    cases b with
    | none => exact .inr rfl
    | some b =>
      simp only [blockLe, decide_eq_true_eq]
      exact UInt64.le_total a b

lemma pairwise_newestFirst {Point : Type} (events : List (TongoEvent Point)) :
    (events.insertionSort NewestFirst).Pairwise NewestFirst := by
  have : Std.Total (NewestFirst : TongoEvent Point → TongoEvent Point → Prop) :=
    ⟨fun a b => blockLe_total b.blockNumber a.blockNumber⟩
  have : IsTrans (TongoEvent Point) NewestFirst := ⟨fun _ _ _ hab hbc => blockLe_trans hbc hab⟩
  exact List.pairwise_insertionSort NewestFirst events

/-! ## One query -/

section Queries

variable {Point : Type} [CurvePoint Point]
variable {reader : TongoEventReader} {toWriter : JsonWriter} {start fuel : ℕ} {pubKey : Point}
  {fromBlock toBlock : Option UInt64} {chain : Chain} {x y : Felt}

lemma served_of_fetchEvents {provider : Provider} {contractAddress : Felt}
    {keys : List (List Felt)} {final : FetchState} {events : List EmittedEvent}
    (h : fetchEvents toWriter provider contractAddress keys fromBlock toBlock start fuel
    = some (final, .ok events)) :
    final.accepted ≠ [] ∧ events = final.accepted.flatMap EventsPage.events ∧
      Served provider (eventFilter contractAddress keys fromBlock toBlock) final.accepted none := by
  have hf : maxEventPages - 0 < fuel + 1001 := by
    have : maxEventPages = 1000 := rfl
    omega
  obtain ⟨last, result, hrun, hw, hok⟩ :=
    fetchLoop_returns (fetchInvariant_start toWriter provider _ start) hf
  have hs := fetchLoop_fuel_le (Nat.le_add_right fuel 1001) h
  rw [hs, Option.some.injEq, Prod.mk.injEq] at hrun
  obtain ⟨rfl, rfl⟩ := hrun
  obtain ⟨rfl, hp, -, hsr⟩ := hok events rfl
  exact ⟨hp, hw.collected, hsr⟩

lemma getEvents_eq_ok {α : Type} {parse : EmittedEvent → Result α}
    {pattern : Felt → Felt → List (List Felt)} {events : List α}
    (hs : ServesLog reader.provider chain) (hkey : pointToRsFelts pubKey = .ok (x, y))
    (h : reader.getEvents toWriter start fuel pubKey fromBlock toBlock parse pattern
    = some (.ok events)) :
    (chain.log.filter ((eventFilter reader.contractAddress (pattern x y) fromBlock
      toBlock).selects chain)).map parse = events.map .ok := by
  rw [TongoEventReader.getEvents, hkey, Option.map_eq_some_iff] at h
  obtain ⟨⟨final, result⟩, hrun, h⟩ := h
  obtain ⟨raw, rfl, h⟩ := except_bind_eq_ok.mp h
  obtain ⟨hp, rfl, hsr⟩ := served_of_fetchEvents hrun
  rw [← hs _ _ hp hsr]
  exact except_mapM_eq_ok_iff.mp h

variable [StarknetKeccak]

lemma map_decodeEvent_eq {α : Type} {parse : EmittedEvent → Result α}
    {build : α → TongoEvent Point} {pattern : Felt → Felt → List (List Felt)} {events : List α}
    {kind : EventKind} {place : ℕ} (hinj : Function.Injective EventKind.selector)
    (hs : ServesLog reader.provider chain) (hkey : pointToRsFelts pubKey = .ok (x, y))
    (hp : ∀ e, (eventFilter reader.contractAddress (pattern x y) fromBlock toBlock).selects
    chain e = asked chain reader.contractAddress fromBlock toBlock x y (kind, place) e)
    (hpr : ∀ e, parseEvent kind e = (parse e).map build)
    (h : reader.getEvents toWriter start fuel pubKey fromBlock toBlock parse pattern
    = some (.ok events)) :
    (events.map build).map (fun event => some (.ok event))
      = (chain.log.filter
          (asked chain reader.contractAddress fromBlock toBlock x y (kind, place))).map
        (decodeEvent Point) := by
  have hev := getEvents_eq_ok hs hkey h
  rw [funext hp] at hev
  have hd : ∀ e ∈ chain.log.filter
      (asked chain reader.contractAddress fromBlock toBlock x y (kind, place)),
      decodeEvent Point e = some ((parse e).map build) := by
    intro e he
    have ha := (List.mem_filter.mp he).2
    simp only [asked, Bool.and_eq_true, decide_eq_true_eq] at ha
    rw [decodeEvent, (kindOf_eq_some hinj).mpr ha.2.1, Option.map_some, hpr]
  rw [List.map_congr_left hd]
  calc (events.map build).map (fun event => some (.ok event))
      = (events.map .ok).map (fun event : Result α => some (event.map build)) := by
        simp [Function.comp_def, Except.map]
    _ = _ := by
        rw [← hev, List.map_map]
        rfl

lemma getAllEvents_eq_ok {result : List (TongoEvent Point)}
    (hinj : Function.Injective EventKind.selector) (hs : ServesLog reader.provider chain)
    (hkey : pointToRsFelts pubKey = .ok (x, y))
    (h : reader.getAllEvents toWriter start fuel pubKey fromBlock toBlock = some (.ok result)) :
    ∃ all : List (TongoEvent Point), result = all.insertionSort NewestFirst ∧
      all.map (fun event => some (.ok event))
        = ((queries.map (asked chain reader.contractAddress fromBlock toBlock x y)).flatMap
            fun p => chain.log.filter p).map (decodeEvent Point) := by
  rw [TongoEventReader.getAllEvents] at h
  obtain ⟨_, hf, h⟩ := Option.bind_eq_some_iff.mp h
  obtain ⟨_, ho, h⟩ := Option.bind_eq_some_iff.mp h
  obtain ⟨_, hw, h⟩ := Option.bind_eq_some_iff.mp h
  obtain ⟨_, hr, h⟩ := Option.bind_eq_some_iff.mp h
  obtain ⟨_, hrl, h⟩ := Option.bind_eq_some_iff.mp h
  obtain ⟨_, ht, h⟩ := Option.bind_eq_some_iff.mp h
  obtain ⟨_, hto, h⟩ := Option.bind_eq_some_iff.mp h
  obtain ⟨_, hb, h⟩ := Option.bind_eq_some_iff.mp h
  obtain ⟨_, htd, h⟩ := Option.bind_eq_some_iff.mp h
  obtain ⟨_, htr, h⟩ := Option.bind_eq_some_iff.mp h
  -- all ten have ended; now each of them has to be a success
  obtain ⟨all, hall, rfl⟩ := except_map_eq_ok.mp (Option.some.inj h)
  obtain ⟨fund, h1, hall⟩ := except_bind_eq_ok.mp hall
  obtain ⟨outsideFund, h2, hall⟩ := except_bind_eq_ok.mp hall
  obtain ⟨withdraw, h3, hall⟩ := except_bind_eq_ok.mp hall
  obtain ⟨ragequit, h4, hall⟩ := except_bind_eq_ok.mp hall
  obtain ⟨rollover, h5, hall⟩ := except_bind_eq_ok.mp hall
  obtain ⟨transferIn, h6, hall⟩ := except_bind_eq_ok.mp hall
  obtain ⟨transferOut, h7, hall⟩ := except_bind_eq_ok.mp hall
  obtain ⟨balanceDeclared, h8, hall⟩ := except_bind_eq_ok.mp hall
  obtain ⟨transferDeclaredFrom, h9, hall⟩ := except_bind_eq_ok.mp hall
  obtain ⟨transferDeclaredTo, h10, hall⟩ := except_bind_eq_ok.mp hall
  obtain rfl := Except.ok.inj hall
  subst h1 h2 h3 h4 h5 h6 h7 h8 h9 h10
  refine ⟨_, rfl, ?_⟩
  have first := fun kind => selects_firstAccount chain reader.contractAddress fromBlock toBlock x y
    kind
  have second := fun kind => selects_secondAccount chain reader.contractAddress fromBlock toBlock
    x y kind
  simp only [queries, List.map_cons, List.map_nil, List.flatMap_cons, List.flatMap_nil,
    List.map_append, List.append_assoc, List.append_nil]
  rw [map_decodeEvent_eq hinj hs hkey (first .fund) (fun _ => rfl) hf,
    map_decodeEvent_eq hinj hs hkey (first .outsideFund) (fun _ => rfl) ho,
    map_decodeEvent_eq hinj hs hkey (first .withdraw) (fun _ => rfl) hw,
    map_decodeEvent_eq hinj hs hkey (first .ragequit) (fun _ => rfl) hr,
    map_decodeEvent_eq hinj hs hkey (first .rollover) (fun _ => rfl) hrl,
    map_decodeEvent_eq hinj hs hkey (first .transfer) (fun _ => rfl) ht,
    map_decodeEvent_eq hinj hs hkey (second .transfer) (fun _ => rfl) hto,
    map_decodeEvent_eq hinj hs hkey (first .balanceDeclared) (fun _ => rfl)
      hb,
    map_decodeEvent_eq hinj hs hkey (first .transferDeclared) (fun _ => rfl)
      htd,
    map_decodeEvent_eq hinj hs hkey (second .transferDeclared) (fun _ => rfl)
      htr]

/-- The list holds every event of the contract that involves the key, and nothing else, each once
and the newest first, exactly when no event of the range has the key on both sides. -/
theorem getAllEvents_exact_iff {result : List (TongoEvent Point)}
    (hinj : Function.Injective EventKind.selector) (hserves : ServesLog reader.provider chain)
    (hkey : pointToRsFelts pubKey = .ok (x, y))
    (h : reader.getAllEvents toWriter start fuel pubKey fromBlock toBlock = some (.ok result)) :
    ((result.map fun event => some (.ok event)).Perm
          ((chain.log.filter fun e =>
            inScope chain reader.contractAddress fromBlock toBlock e && involves x y e).map
            (decodeEvent Point)) ∧
        result.Pairwise NewestFirst) ↔
      ∀ e ∈ chain.log, inScope chain reader.contractAddress fromBlock toBlock e = true →
        ¬ SelfTransfer x y e := by
  obtain ⟨all, rfl, hall⟩ := getAllEvents_eq_ok hinj hserves hkey h
  have hs := (List.perm_insertionSort NewestFirst all).map
    fun event => (some (.ok event) : Option (Result (TongoEvent Point)))
  have hf : (chain.log.filter fun e =>
      inScope chain reader.contractAddress fromBlock toBlock e && involves x y e)
      = chain.log.filter fun e => 0 <
        (queries.map (asked chain reader.contractAddress fromBlock toBlock x y)).countP
          fun p => p e := by
    congr 1
    funext e
    rw [Bool.eq_iff_iff, decide_eq_true_eq, countP_asked_pos_iff _ _ _ _ _ _ hinj]
  rw [and_iff_left (pairwise_newestFirst all), hf, hs.congr_left, hall,
    map_flatMap_filter_perm_iff]
  exact forall₂_congr fun e _ => countP_asked_le_one_iff _ _ _ _ _ _ hinj e

end Queries

/-! ## A log on chain -/

section Samples

open Sdk (sampleCurve sampleTable)

/-- A provider that serves the log on one page. -/
def logProvider (chain : Chain) : Provider := fun _ filter _ _ =>
  ⟨some 20, .ok ⟨chain.log.filter (filter.selects chain), none⟩⟩

lemma token_of_served_logProvider {chain : Chain} {filter : EventFilter} {pages : List EventsPage}
    {token : Option String} (h : Served (logProvider chain) filter pages token) :
    token = none := by
  cases h with
  | start => rfl
  | page before more reply =>
    rw [← Except.ok.inj reply]

lemma events_of_served_logProvider {chain : Chain} {filter : EventFilter}
    {pages : List EventsPage} {token : Option String}
    (h : Served (logProvider chain) filter pages token) (hp : pages ≠ []) :
    pages.flatMap EventsPage.events = chain.log.filter (filter.selects chain) := by
  cases h with
  | start => exact absurd rfl hp
  | page before more reply =>
    rcases more with rfl | hs
    · rw [← Except.ok.inj reply]
      simp
    · -- no page is followed by another
      rw [token_of_served_logProvider before] at hs
      exact absurd hs (by simp)

lemma servesLog_logProvider (chain : Chain) : ServesLog (logProvider chain) chain :=
  fun _ _ hp hs => events_of_served_logProvider hs hp

@[reducible] def eventKeccak : StarknetKeccak := tableStarknetKeccak [
  (utf8 "FundEvent", 0x1c628353457402fbedaedd9636474539d4fe189e59bfe986c07c6428deba140),
  (utf8 "OutsideFundEvent", 0x3f8763a2b16aea8f009ae2e22f716a0da3d7abc6e9e447afe30e5c19381bba8),
  (utf8 "RolloverEvent", 0xe7c176b8b8f374409f0183e9f9908db6f44c5ba4d90b99a549ffb4018c7f37),
  (utf8 "TransferEvent", 0x15884c9d44b49803fec52bec32166b4a87f9683725e9c83e8b0bc12306fc10),
  (utf8 "WithdrawEvent", 0x263bb99782710eacf6e143ab001ce64dadd4fb8e0d913bac9c7997f01cb9402),
  (utf8 "RagequitEvent", 0x3d440b4a25238126d9bae5c207272c530a45a7f26e365f4416474fb2d6d94be),
  (utf8 "BalanceDeclaredEvent",
    0xc141fd9f05d2c6afd7def86d3c15d6e26af90f36a9199fcc31ca4adf3aeea1),
  (utf8 "TransferDeclaredEvent",
    0x124872d93a354295a1d9b4bac67146eff4ae0287157e54b37e6afcc269edf63)]

attribute [local instance] sampleCurve eventKeccak

lemma selector_injective : Function.Injective EventKind.selector := by
  have hn : (EventKind.all.map EventKind.selector).Nodup := by decide +kernel
  have hmem : ∀ kind, kind ∈ EventKind.all := by
    intro kind
    cases kind <;> decide
  intro a b hab
  exact List.inj_on_of_nodup_map hn (hmem a) (hmem b) hab

def digitBytes (base n : ℕ) : Bytes :=
  (Nat.toDigits base n).map fun digit => UInt8.ofNat digit.toNat

def jsonFelt (felt : Felt) : Bytes := utf8 "\"0x" ++ digitBytes 16 felt.val ++ utf8 "\""

def jsonFelts (felts : List Felt) : Bytes :=
  utf8 "[" ++ ((felts.map jsonFelt).intersperse (utf8 ",")).flatten ++ utf8 "]"

def jsonEvent (e : EmittedEvent) : Bytes :=
  utf8 "\x7b\"from_address\":" ++ jsonFelt e.fromAddress ++
    utf8 ",\"keys\":" ++ jsonFelts e.keys ++ utf8 ",\"data\":" ++ jsonFelts e.data ++
    (e.blockHash.elim [] fun hash => utf8 ",\"block_hash\":" ++ jsonFelt hash) ++
    (e.blockNumber.elim [] fun block =>
      utf8 ",\"block_number\":" ++ digitBytes 10 block.toNat) ++
    utf8 ",\"transaction_hash\":" ++ jsonFelt e.transactionHash ++
    utf8 ",\"transaction_index\":" ++ digitBytes 10 e.transactionIndex.toNat ++
    utf8 ",\"event_index\":" ++ digitBytes 10 e.eventIndex.toNat ++ utf8 "\x7d"

def jsonWriter : JsonWriter := fun events =>
  .ok (utf8 "[" :: (events.map jsonEvent).intersperse (utf8 ",") ++ [utf8 "]"])

def sampleReader (log : List EmittedEvent) : TongoEventReader := ⟨0x707, logProvider ⟨20, log⟩⟩

def contractEvent (keys data : List Felt) (block : UInt64) : EmittedEvent :=
  ⟨0x707, keys, data, some 0xb10c, some block, 0x7a5, 3, 0⟩

def coordinatesAt (label : OrderResidue) : List Felt :=
  [(sampleTable.point label).x, (sampleTable.point label).y]

def transferAt (recipient sender : OrderResidue) (block : UInt64) : EmittedEvent :=
  contractEvent (TongoEvents.transferEvent :: coordinatesAt recipient ++ coordinatesAt sender)
    ([1] ++ coordinatesAt 8 ++ coordinatesAt 4 ++ coordinatesAt 9 ++ coordinatesAt 4 ++
      [1, 2, 3, 4, 5, 6] ++ [7, 8, 9, 10, 11, 12]) block

def fundAt (recipient : OrderResidue) (block : UInt64) : EmittedEvent :=
  contractEvent (TongoEvents.fundEvent :: coordinatesAt recipient) [0, 0xacc, 1000] block

def withdrawAt (sender : OrderResidue) (block : UInt64) : EmittedEvent :=
  contractEvent (TongoEvents.withdrawEvent :: coordinatesAt sender) [1, 400, 0xacc] block

def transferEventAt (recipient sender : OrderResidue) (block : UInt64) : TongoEvent CyclicPoint :=
  .transfer {
    metadata := ⟨some block, 0x7a5⟩
    recipient := CyclicPoint.mk recipient
    sender := CyclicPoint.mk sender
    nonce := 1
    transferBalance := ⟨CyclicPoint.mk 8, CyclicPoint.mk 4⟩
    transferBalanceSelf := ⟨CyclicPoint.mk 9, CyclicPoint.mk 4⟩
    hintTransfer :=
      ⟨lowHalf 1 ++ lowHalf 2 ++ lowHalf 3 ++ lowHalf 4, lowHalf 6 ++ (lowHalf 5).take 8⟩
    hintLeftover :=
      ⟨lowHalf 7 ++ lowHalf 8 ++ lowHalf 9 ++ lowHalf 10, lowHalf 12 ++ (lowHalf 11).take 8⟩ }

def sampleKey : CyclicPoint := CyclicPoint.mk 7

def sampleLog : List EmittedEvent := [fundAt 7 11, fundAt 8 11, withdrawAt 7 12]

def sampleEvents : List (TongoEvent CyclicPoint) :=
  [.withdraw ⟨⟨some 12, 0x7a5⟩, sampleKey, 1, 400, 0xacc⟩,
    .fund ⟨⟨some 11, 0x7a5⟩, sampleKey, 0, 0xacc, 1000⟩]

theorem getAllEvents_exact_iff_sample :
    (sampleEvents.map fun event => some (.ok event)).Perm
        ((sampleLog.filter fun e => inScope ⟨20, sampleLog⟩ 0x707 (some 10) none e &&
          involves (sampleTable.point 7).x (sampleTable.point 7).y e).map
            (decodeEvent CyclicPoint)) ∧
      sampleEvents.Pairwise NewestFirst := by
  have hev : (sampleReader sampleLog).getAllEvents jsonWriter 0 1001 sampleKey (some 10) none
      = some (.ok sampleEvents) := by
    decide +kernel
  refine (getAllEvents_exact_iff selector_injective (servesLog_logProvider _) ?_ hev).mpr ?_
  · decide +kernel
  · decide +kernel

/-- An account that sends to itself: the transfer is once in the log and twice in the list. -/
theorem self_transfer_listed_twice :
    ServesLog (sampleReader [transferAt 7 7 12]).provider ⟨20, [transferAt 7 7 12]⟩ ∧
      decodeEvent CyclicPoint (transferAt 7 7 12) = some (.ok (transferEventAt 7 7 12)) ∧
      (sampleReader [transferAt 7 7 12]).getAllEvents jsonWriter 0 1001 sampleKey none none
        = some (.ok [transferEventAt 7 7 12, transferEventAt 7 7 12]) := by
  refine ⟨servesLog_logProvider _, ?_, ?_⟩
  · decide +kernel
  · decide +kernel

end Samples

end KrustyKms.Client

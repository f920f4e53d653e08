import KrustyKms.Client.InMemory
import Mathlib.Data.List.Induction

/-!
# What a subscriber of the in-memory coordinator gets

Whatever is sent on the channel of a topic was appended to its history before (`Core.stored`), and
a receiver sees what is sent after its subscription.
-/

namespace KrustyKms.Multisig

open Crypto Codec

/-! ## Keys of topics -/

lemma length_toFixedHex (felt : Felt) : felt.toFixedHex.toList.length = 66 := by
  rw [Felt.toFixedHex, toList_numeral, List.length_cons, List.length_cons,
    FeltParser.length_fixedDigits]

lemma chainId_eq_of_length {a b : ChainId} (h : a.name.toList.length = b.name.toList.length) :
    a = b := by
  cases a <;> cases b
  · rfl
  · exact absurd h (by decide)
  · exact absurd h (by decide)
  · rfl

lemma toFixedHex_injective : Function.Injective Felt.toFixedHex := by
  intro a b h
  have hd : a.fixedDigits = b.fixedDigits := by
    have hl := congrArg String.toList h
    rw [Felt.toFixedHex, Felt.toFixedHex, toList_numeral, toList_numeral] at hl
    exact List.tail_eq_of_cons_eq (List.tail_eq_of_cons_eq hl)
  have ha := readHex_replicate (64 - (Nat.toDigits 16 a.val).length) a.val
  have hb := readHex_replicate (64 - (Nat.toDigits 16 b.val).length) b.val
  have hr : some a.val = some b.val := by
    rw [← ha, ← hb]
    exact congrArg readHex hd
  exact ZMod.val_injective _ (Option.some.inj hr)

lemma topic_key_toList (topic : MultisigTopic) :
    topic.key.toList = topic.chainId.name.toList ++
      (':' :: topic.multisig.asFelt.toFixedHex.toList ++
        (':' :: topic.transactionId.toFixedHex.toList)) := by
  unfold MultisigTopic.key
  rw [String.toList_append, String.toList_append, String.toList_append, String.toList_append]
  simp only [List.append_assoc]
  rfl

lemma topic_key_injective : Function.Injective MultisigTopic.key := by
  intro a b h
  have hl := congrArg String.toList h
  rw [topic_key_toList, topic_key_toList] at hl
  have hln := congrArg List.length hl
  simp only [List.length_append, List.length_cons, length_toFixedHex] at hln
  have hc : a.chainId = b.chainId := chainId_eq_of_length (by omega)
  rw [hc] at hl
  obtain ⟨ha, hid⟩ := List.append_inj (List.append_cancel_left hl) (by
    simp only [List.length_cons, length_toFixedHex])
  have hs := toFixedHex_injective
    (String.toList_inj.mp (List.tail_eq_of_cons_eq ha))
  have hsi := toFixedHex_injective (String.toList_inj.mp (List.tail_eq_of_cons_eq hid))
  obtain ⟨⟨aFelt⟩, aChain, aId⟩ := a
  obtain ⟨⟨bFelt⟩, bChain, bId⟩ := b
  obtain rfl : aChain = bChain := hc
  obtain rfl : aFelt = bFelt := hs
  obtain rfl : aId = bId := hsi
  rfl

namespace InMemory

/-! ## Growing states -/

namespace State

structure Core (state : State) : Prop where
  order : ∀ key, state.messages key = state.acquired.filter fun m => m.key = key
  calls : (state.acquired.map Message.call).Nodup
  fresh : ∀ key c, state.subscriptions key = some c → c < state.nextChannel
  unshared : ∀ key key' c, state.subscriptions key = some c →
    state.subscriptions key' = some c → key = key'
  /-- What was sent on the channel of a key is in the history of the key. -/
  stored : ∀ key c, state.subscriptions key = some c → ∀ m ∈ state.sent c, m ∈ state.messages key

/-- Histories and channels grow, and a channel that exists stays. -/
structure Extends (state later : State) : Prop where
  acquired : ∀ m ∈ state.acquired, m ∈ later.acquired
  subscriptions : ∀ key c, state.subscriptions key = some c → later.subscriptions key = some c
  sent : ∀ c, state.sent c <+: later.sent c

variable {state later : State} {i : ℕ}

lemma Extends.refl (state : State) : Extends state state :=
  ⟨fun _ h => h, fun _ _ h => h, fun _ => List.prefix_refl _⟩

variable {m : Message} {c : ℕ} {topic : MultisigTopic} {receiver : Receiver}
  {items : List (Result Message)} {task : Task} {before : Option Task}
  {envelope : MultisigCoordinationEnvelope}

lemma Core.mem_messages (h : Core state) :
    m ∈ state.messages m.key ↔ m ∈ state.acquired := by
  rw [h.order, List.mem_filter]
  simp

lemma Core.key_of_mem (h : Core state) {key : String}
    (hm : m ∈ state.messages key) : m.key = key := by
  rw [h.order, List.mem_filter, decide_eq_true_iff] at hm
  exact hm.2

/-! ### The history -/

lemma extends_push (state : State) (message : Message) : Extends state (state.push message) :=
  ⟨fun _ h => List.mem_append_left _ h, fun _ _ h => h, fun _ => List.prefix_refl _⟩

lemma Core.push (h : Core state) {message : Message}
    (hnew : message.call ∉ state.acquired.map Message.call) : Core (state.push message) where
  order key := by
    change (if key = message.key then _ else _) = (state.acquired ++ [message]).filter _
    rw [List.filter_append, ← h.order]
    by_cases hkey : key = message.key
    · rw [if_pos hkey, List.filter_cons_of_pos (by simp [hkey]), List.filter_nil]
    · rw [if_neg hkey, List.filter_cons_of_neg (by simpa using Ne.symm hkey), List.filter_nil,
        List.append_nil]
  calls := by
    change ((state.acquired ++ [message]).map Message.call).Nodup
    rw [List.map_append, List.map_singleton]
    exact List.nodup_append.mpr ⟨h.calls, List.nodup_singleton _, by
      intro a ha b hb hab
      rw [List.mem_singleton.mp hb] at hab
      exact hnew (hab ▸ ha)⟩
  fresh := h.fresh
  unshared := h.unshared
  stored key c hc m hm := by
    have hold := h.stored key c hc m hm
    change m ∈ if key = message.key then _ else _
    split_ifs
    · exact List.mem_append_left _ hold
    · exact hold

/-! ### Channels -/

lemma createSender_spec (h : Core state) (hu : ∀ c, state.nextChannel ≤ c → state.sent c = [])
    (key : String) :
    Core (state.createSender key).2 ∧ Extends state (state.createSender key).2 ∧
      (state.createSender key).2.subscriptions key = some (state.createSender key).1 := by
  unfold createSender
  cases hsub : state.subscriptions key with
  | some channel => exact ⟨h, .refl state, hsub⟩
  | none =>
    have hold : ∀ other c, (if other = key then some state.nextChannel
        else state.subscriptions other) = some c →
        other = key ∧ c = state.nextChannel ∨
          other ≠ key ∧ state.subscriptions other = some c ∧ c < state.nextChannel := by
      intro other c hc
      split_ifs at hc with ho
      · exact .inl ⟨ho, (Option.some.inj hc).symm⟩
      · exact .inr ⟨ho, hc, h.fresh other c hc⟩
    refine ⟨⟨h.order, h.calls, ?_, ?_, ?_⟩, ⟨fun _ hm => hm, ?_, fun _ => List.prefix_refl _⟩,
      if_pos rfl⟩
    · intro other c hc
      rcases hold other c hc with ⟨-, rfl⟩ | ⟨-, -, hlt⟩
      · exact Nat.lt_succ_self _
      · exact Nat.lt_succ_of_lt hlt
    · intro a b c ha hb
      rcases hold a c ha with ⟨rfl, rfl⟩ | ⟨-, hs, hltA⟩
      · rcases hold b _ hb with ⟨rfl, -⟩ | ⟨-, -, hlt⟩
        · rfl
        · exact absurd hlt (Nat.lt_irrefl _)
      · rcases hold b c hb with ⟨-, rfl⟩ | ⟨-, hsb, -⟩
        · exact absurd hltA (Nat.lt_irrefl _)
        · exact h.unshared a b c hs hsb
    · intro other c hc m hm
      rcases hold other c hc with ⟨rfl, rfl⟩ | ⟨-, hso, -⟩
      · -- a channel that is new has nothing on it
        change m ∈ state.sent state.nextChannel at hm
        rw [hu _ le_rfl] at hm
        cases hm
      · exact h.stored other c hso m hm
    · intro other c hc
      change (if other = key then some state.nextChannel else state.subscriptions other) = some c
      rw [if_neg, hc]
      rintro rfl
      rw [hsub] at hc
      cases hc

lemma extends_send (state : State) (c : ℕ) (message : Message) :
    Extends state (state.send c message) := by
  refine ⟨fun _ h => h, fun _ _ h => h, fun other => ?_⟩
  change state.sent other <+: if other = c then _ else _
  split_ifs
  · exact List.prefix_append _ _
  · exact List.prefix_refl _

lemma Core.send (h : Core state) {message : Message}
    (hsub : state.subscriptions message.key = some c) (hmem : message ∈ state.acquired) :
    Core (state.send c message) where
  order := h.order
  calls := h.calls
  fresh := h.fresh
  unshared := h.unshared
  stored key c' hc' m hm := by
    change m ∈ if c' = c then state.sent c' ++ [message] else state.sent c' at hm
    change m ∈ state.messages key
    split_ifs at hm with hs
    · rcases List.mem_append.mp hm with hold | hnew
      · exact h.stored key c' hc' m hold
      · obtain rfl := List.mem_singleton.mp hnew
        subst hs
        rw [h.unshared key m.key c' hc' hsub]
        exact h.mem_messages.mpr hmem
    · exact h.stored key c' hc' m hm

/-! ## What a task knows -/

/-- A subscription: its channel, how far it has read, and what it received, which is all that was
sent since its start unless it was told that it lagged. -/
structure Streams (state : State) (topic : MultisigTopic) (receiver : Receiver)
    (items : List (Result Message)) : Prop where
  channel : state.subscriptions topic.key = some receiver.channel
  started : receiver.start ≤ receiver.next
  bound : receiver.next ≤ (state.sent receiver.channel).length
  sent : ∀ m, .ok m ∈ items → m ∈ state.sent receiver.channel
  complete : (∀ error, .error error ∉ items) →
    items = (((state.sent receiver.channel).take receiver.next).drop receiver.start).map .ok

def TaskInvariant (state : State) (i : ℕ) : Task → Prop
  | .publishing _ | .refused _ | .subscribing _ | .creating _ => True
  | .appended envelope | .creatingSender envelope => ⟨i, envelope⟩ ∈ state.acquired
  | .sending envelope channel =>
    ⟨i, envelope⟩ ∈ state.acquired ∧ state.subscriptions envelope.topic.key = some channel
  | .published envelope => ⟨i, envelope⟩ ∈ state.acquired ∧ ∃ channel,
    state.subscriptions envelope.topic.key = some channel ∧ ⟨i, envelope⟩ ∈ state.sent channel
  | .connecting topic channel => state.subscriptions topic.key = some channel
  | .subscribed topic receiver items => Streams state topic receiver items
  | .caughtUp topic receiver items history => Streams state topic receiver items ∧
    (∀ m ∈ history, m.key = topic.key) ∧
    ∀ m ∈ state.sent receiver.channel, m ∈ history ∨
      m ∈ (state.sent receiver.channel).drop receiver.start

lemma Streams.extend (h : Extends state later) (hs : Streams state topic receiver items) :
    Streams later topic receiver items := by
  obtain ⟨more, hmr⟩ := h.sent receiver.channel
  refine ⟨h.subscriptions _ _ hs.channel, hs.started, ?_, ?_, ?_⟩
  · rw [← hmr, List.length_append]
    exact Nat.le_add_right_of_le hs.bound
  · intro m hm
    rw [← hmr]
    exact List.mem_append_left _ (hs.sent m hm)
  · intro hn
    rw [← hmr, List.take_append_of_le_length hs.bound]
    exact hs.complete hn

lemma TaskInvariant.extend (h : Extends state later)
    (ht : TaskInvariant state i task) : TaskInvariant later i task := by
  cases task with
  | publishing | refused | subscribing | creating => trivial
  | appended envelope => exact h.acquired _ ht
  | creatingSender envelope => exact h.acquired _ ht
  | sending envelope channel => exact ⟨h.acquired _ ht.1, h.subscriptions _ _ ht.2⟩
  | published envelope =>
    obtain ⟨hmem, channel, hsub, hsn⟩ := ht
    exact ⟨h.acquired _ hmem, channel, h.subscriptions _ _ hsub, (h.sent channel).subset hsn⟩
  | connecting topic channel => exact h.subscriptions _ _ ht
  | subscribed topic receiver items => exact Streams.extend h ht
  | caughtUp topic receiver items history =>
    obtain ⟨hs, hk, hse⟩ := ht
    refine ⟨hs.extend h, hk, ?_⟩
    intro m hm
    obtain ⟨more, hmr⟩ := h.sent receiver.channel
    have hst := hs.started.trans hs.bound
    rw [← hmr] at hm ⊢
    rw [List.drop_append_of_le_length hst]
    rcases List.mem_append.mp hm with hold | hnew
    · exact (hse m hold).imp_right (List.mem_append_left _)
    · exact .inr (List.mem_append_right _ hnew)

lemma recv_cases {next : Receiver} {sent : List Message} {item : Result Message}
    (h : receiver.recv sent = some (item, next)) :
    (∃ m, sent[receiver.next]? = some m ∧ item = .ok m ∧
      next = { receiver with next := receiver.next + 1 }) ∨
    ∃ count later, item = .error (laggedError count) ∧ receiver.next ≤ later ∧
      later ≤ sent.length ∧ next = { receiver with next := later } := by
  unfold Receiver.recv at h
  split_ifs at h with hlag
  · obtain ⟨rfl, rfl⟩ := Prod.mk.inj (Option.some.inj h)
    exact .inr ⟨_, _, rfl, by omega, Nat.sub_le _ _, rfl⟩
  · cases hget : sent[receiver.next]? with
    | none =>
      rw [hget] at h
      cases h
    | some m =>
      rw [hget] at h
      obtain ⟨rfl, rfl⟩ := Prod.mk.inj (Option.some.inj h)
      exact .inl ⟨m, rfl, rfl, rfl⟩

lemma Streams.receive {next : Receiver} {item : Result Message}
    (h : Streams state topic receiver items)
    (hr : receiver.recv (state.sent receiver.channel) = some (item, next)) :
    next.channel = receiver.channel ∧ next.start = receiver.start ∧
      Streams state topic next (items ++ [item]) := by
  have hs := h.started
  rcases recv_cases hr with ⟨m, hget, rfl, rfl⟩ | ⟨count, position, rfl, hle, hb, rfl⟩
  · have hlt := (List.getElem?_eq_some_iff.mp hget).1
    refine ⟨rfl, rfl, h.channel, Nat.le_succ_of_le hs, hlt, ?_, ?_⟩
    · intro other ho
      rcases List.mem_append.mp ho with hold | hnew
      · exact h.sent other hold
      · obtain rfl := Except.ok.inj (List.mem_singleton.mp hnew)
        exact List.mem_of_getElem? hget
    · intro hn
      have hit := h.complete fun error her => hn error (List.mem_append_left _ her)
      rw [hit]
      change _ = (((state.sent receiver.channel).take (receiver.next + 1)).drop
        receiver.start).map _
      rw [List.take_add_one, hget, List.drop_append_of_le_length, List.map_append]
      · rfl
      · rw [List.length_take]
        omega
  · refine ⟨rfl, rfl, h.channel, hs.trans hle, hb, ?_, ?_⟩
    · intro other ho
      rcases List.mem_append.mp ho with hold | hnew
      · exact h.sent other hold
      · cases List.mem_singleton.mp hnew
    · intro hn
      exact absurd (List.mem_append_right _ (List.mem_singleton.mpr rfl)) (hn _)

/-! ## Steps -/

def carried : Task → Option MultisigCoordinationEnvelope
  | .appended envelope | .creatingSender envelope | .sending envelope _ | .published envelope =>
    some envelope
  | _ => none

structure Invariant (state : State) : Prop where
  core : Core state
  unsent : ∀ c, state.nextChannel ≤ c → state.sent c = []
  carries : ∀ m ∈ state.acquired, (state.tasks m.call).bind carried = some m.envelope
  tasks : ∀ i task, state.tasks i = some task → TaskInvariant state i task

lemma Invariant.of_setTask (h : Invariant state) (hc : Core later)
    (het : Extends state later) (ht : later.tasks = state.tasks)
    (hu : ∀ c, later.nextChannel ≤ c → later.sent c = [])
    (hca : ∀ m ∈ later.acquired, m ∈ state.acquired ∧
      (m.call = i → carried task = (state.tasks i).bind carried) ∨
        m.call = i ∧ carried task = some m.envelope)
    (hts : TaskInvariant later i task) : Invariant (later.setTask i task) where
  core := ⟨hc.order, hc.calls, hc.fresh, hc.unshared, hc.stored⟩
  unsent := hu
  carries m hm := by
    change ((if m.call = i then some task else later.tasks m.call)).bind carried = _
    rcases hca m hm with ⟨hold, hs⟩ | ⟨hcl, hnew⟩
    · have hcr := h.carries m hold
      split_ifs with hcl
      · rw [Option.bind_some, hs hcl, ← hcl, hcr]
      · rw [ht, hcr]
    · rw [if_pos hcl, Option.bind_some, hnew]
  tasks j other ho := by
    have hex : Extends later (later.setTask i task) :=
      ⟨fun _ h => h, fun _ _ h => h, fun _ => List.prefix_refl _⟩
    change (if j = i then some task else later.tasks j) = some other at ho
    split_ifs at ho with hj
    · obtain rfl := Option.some.inj ho
      rw [hj]
      exact hts.extend hex
    · rw [ht] at ho
      exact ((h.tasks j other ho).extend het).extend hex

/-- The task moves on with the message that it carries, and nothing else changes. -/
lemma Invariant.of_quiet (h : Invariant state) (h_task : state.tasks i = before)
    (h_carried : carried task = before.bind carried) (h_next : TaskInvariant state i task) :
    Invariant (state.setTask i task) := by
  subst h_task
  exact h.of_setTask h.core (.refl state) rfl h.unsent
    (fun _ h_mem => .inl ⟨h_mem, fun _ => h_carried⟩) h_next

lemma Invariant.append (h : Invariant state)
    (ht : state.tasks i = some (.publishing envelope)) :
    Invariant ((state.push ⟨i, envelope⟩).setTask i (.appended envelope)) := by
  have hnew : i ∉ state.acquired.map Message.call := by
    intro hmem
    obtain ⟨m, hm, rfl⟩ := List.mem_map.mp hmem
    have hc := h.carries m hm
    rw [ht] at hc
    cases hc
  refine h.of_setTask (h.core.push hnew) (extends_push _ _) rfl h.unsent ?_ ?_
  · intro m hm
    rcases List.mem_append.mp hm with hold | hl
    · refine .inl ⟨hold, ?_⟩
      rintro rfl
      exact absurd (List.mem_map_of_mem hold) hnew
    · obtain rfl := List.mem_singleton.mp hl
      exact .inr ⟨rfl, rfl⟩
  · exact List.mem_append_right _ (List.mem_singleton.mpr rfl)

lemma createSender_rest (state : State) (key : String) :
    (state.createSender key).2.tasks = state.tasks ∧
      (state.createSender key).2.acquired = state.acquired ∧
      (state.createSender key).2.sent = state.sent ∧
      state.nextChannel ≤ (state.createSender key).2.nextChannel := by
  unfold createSender
  cases state.subscriptions key with
  | some channel => exact ⟨rfl, rfl, rfl, le_rfl⟩
  | none => exact ⟨rfl, rfl, rfl, Nat.le_succ _⟩

lemma Invariant.created (h : Invariant state) (key : String) (h_task : state.tasks i = before)
    (h_carried : carried task = before.bind carried)
    (h_next : TaskInvariant (state.createSender key).2 i task) :
    Invariant ((state.createSender key).2.setTask i task) := by
  subst h_task
  obtain ⟨hco, hex, -⟩ := createSender_spec h.core h.unsent key
  obtain ⟨hts, ha, hs, hle⟩ := createSender_rest state key
  refine h.of_setTask hco hex hts ?_ ?_ h_next
  · intro c hc
    rw [hs]
    exact h.unsent c (hle.trans hc)
  · intro m hm
    rw [ha] at hm
    exact .inl ⟨hm, fun _ => h_carried⟩

lemma Invariant.sent (h : Invariant state)
    (ht : state.tasks i = some (.sending envelope c)) :
    Invariant ((state.send c ⟨i, envelope⟩).setTask i (.published envelope)) := by
  obtain ⟨hmem, hsub⟩ := h.tasks i _ ht
  refine h.of_setTask (h.core.send hsub hmem) (extends_send _ _ _) rfl ?_ ?_ ?_
  · intro other ho
    have hlt : c < state.nextChannel := h.core.fresh _ c hsub
    have hne : other ≠ c := by
      have : state.nextChannel ≤ other := ho
      omega
    change (if other = c then _ else _) = []
    rw [if_neg hne]
    exact h.unsent other ho
  · intro m hm
    refine .inl ⟨hm, fun _ => ?_⟩
    rw [ht]
    rfl
  · refine ⟨hmem, c, hsub, ?_⟩
    change _ ∈ if c = c then _ else _
    rw [if_pos rfl]
    exact List.mem_append_right _ (List.mem_singleton.mpr rfl)

lemma invariant_initial : Invariant initial := by
  refine ⟨⟨fun _ => rfl, List.nodup_nil, ?_, ?_, ?_⟩, fun _ _ => rfl, ?_, ?_⟩
  · intro key c h
    cases h
  · intro key key' c h
    cases h
  · intro key c h
    cases h
  · intro m hm
    cases hm
  · intro i task h
    cases h

section Runs

variable [Pedersen]

lemma Invariant.step_publish (h : Invariant state)
    (h_step : state.step (.publish i envelope) = some later) : Invariant later := by
  simp only [State.step] at h_step
  split at h_step
  · rename_i h_task
    split at h_step
    · obtain rfl := Option.some.inj h_step
      exact h.of_quiet h_task rfl trivial
    · obtain rfl := Option.some.inj h_step
      exact h.of_quiet h_task rfl trivial
  · cases h_step

lemma Invariant.step_append (h : Invariant state)
    (h_step : state.step (.append i) = some later) : Invariant later := by
  simp only [State.step] at h_step
  split at h_step
  · rename_i envelope h_task
    obtain rfl := Option.some.inj h_step
    exact h.append h_task
  · cases h_step

lemma Invariant.step_findSender (h : Invariant state)
    (h_step : state.step (.findSender i) = some later) : Invariant later := by
  simp only [State.step] at h_step
  split at h_step
  · rename_i envelope h_task
    have h_stored := h.tasks i _ h_task
    split at h_step
    · rename_i channel h_channel
      obtain rfl := Option.some.inj h_step
      exact h.of_quiet h_task rfl ⟨h_stored, h_channel⟩
    · obtain rfl := Option.some.inj h_step
      exact h.of_quiet h_task rfl h_stored
  · rename_i topic h_task
    split at h_step
    · rename_i channel h_channel
      obtain rfl := Option.some.inj h_step
      exact h.of_quiet h_task rfl h_channel
    · obtain rfl := Option.some.inj h_step
      exact h.of_quiet h_task rfl trivial
  · cases h_step

lemma Invariant.step_createSender (h : Invariant state)
    (h_step : state.step (.createSender i) = some later) : Invariant later := by
  simp only [State.step] at h_step
  split at h_step
  · rename_i envelope h_task
    obtain rfl := Option.some.inj h_step
    obtain ⟨-, h_extends, h_channel⟩ := createSender_spec h.core h.unsent envelope.topic.key
    exact h.created _ h_task rfl ⟨h_extends.acquired _ (h.tasks i _ h_task), h_channel⟩
  · rename_i topic h_task
    obtain rfl := Option.some.inj h_step
    obtain ⟨-, -, h_channel⟩ := createSender_spec h.core h.unsent topic.key
    exact h.created _ h_task rfl h_channel
  · cases h_step

lemma Invariant.step_send (h : Invariant state)
    (h_step : state.step (.send i) = some later) : Invariant later := by
  simp only [State.step] at h_step
  split at h_step
  · rename_i envelope channel h_task
    obtain rfl := Option.some.inj h_step
    exact h.sent h_task
  · cases h_step

lemma Invariant.step_subscribe (h : Invariant state)
    (h_step : state.step (.subscribe i topic) = some later) : Invariant later := by
  simp only [State.step] at h_step
  split at h_step
  · rename_i h_task
    obtain rfl := Option.some.inj h_step
    exact h.of_quiet h_task rfl trivial
  · cases h_step

lemma Invariant.step_connect (h : Invariant state)
    (h_step : state.step (.connect i) = some later) : Invariant later := by
  simp only [State.step] at h_step
  split at h_step
  · rename_i topic channel h_task
    obtain rfl := Option.some.inj h_step
    refine h.of_quiet h_task rfl ⟨h.tasks i _ h_task, le_rfl, le_rfl, ?_, ?_⟩
    · intro m h_item
      cases h_item
    · intro _
      rw [List.take_length, List.drop_length]
      rfl
  · cases h_step

lemma Invariant.step_messages (h : Invariant state)
    (h_step : state.step (.messages i) = some later) : Invariant later := by
  simp only [State.step] at h_step
  split at h_step
  · rename_i topic receiver items h_task
    obtain rfl := Option.some.inj h_step
    have h_stream : Streams state topic receiver items := h.tasks i _ h_task
    refine h.of_quiet h_task rfl
      ⟨h_stream, fun m h_listed => h.core.key_of_mem h_listed, ?_⟩
    -- what was sent before the history is read is in it
    intro m h_sent
    exact .inl (h.core.stored _ _ h_stream.channel m h_sent)
  · cases h_step

lemma Invariant.step_receive (h : Invariant state)
    (h_step : state.step (.receive i) = some later) : Invariant later := by
  simp only [State.step] at h_step
  split at h_step
  · rename_i topic receiver items h_task
    obtain ⟨⟨item, next⟩, h_recv, rfl⟩ := Option.map_eq_some_iff.mp h_step
    have h_stream : Streams state topic receiver items := h.tasks i _ h_task
    exact h.of_quiet h_task rfl (h_stream.receive h_recv).2.2
  · rename_i topic receiver items history h_task
    obtain ⟨⟨item, next⟩, h_recv, rfl⟩ := Option.map_eq_some_iff.mp h_step
    obtain ⟨h_stream, h_keys, h_seen⟩ := h.tasks i _ h_task
    obtain ⟨h_channel, h_start, h_next⟩ := h_stream.receive h_recv
    refine h.of_quiet h_task rfl ⟨h_next, h_keys, ?_⟩
    rw [h_channel, h_start]
    exact h_seen
  · cases h_step

theorem Invariant.step (h : Invariant state) {action : Action}
    (h_step : state.step action = some later) : Invariant later := by
  cases action with
  | publish i envelope => exact h.step_publish h_step
  | append i => exact h.step_append h_step
  | findSender i => exact h.step_findSender h_step
  | createSender i => exact h.step_createSender h_step
  | send i => exact h.step_send h_step
  | subscribe i topic => exact h.step_subscribe h_step
  | connect i => exact h.step_connect h_step
  | messages i => exact h.step_messages h_step
  | receive i => exact h.step_receive h_step

theorem invariant_run {actions : List Action} (hrun : run actions = some state) :
    Invariant state := by
  unfold run at hrun
  induction actions using List.reverseRecOn generalizing state with
  | nil =>
    obtain rfl := Option.some.inj hrun
    exact invariant_initial
  | append_singleton actions action ih =>
    rw [List.foldlM_append] at hrun
    simp only [List.foldlM_cons, List.foldlM_nil, bind_pure] at hrun
    obtain ⟨before, hb, hs⟩ := Option.bind_eq_some_iff.mp hrun
    exact (ih hb).step hs

end Runs

/-! ## The callers' view -/

/-- What a client has and will get that subscribed and then read the history: nothing of another
topic, and every message that was published, in the history, in what it received, or among what
the stream still brings, message by message unless it reports a lag. -/
structure SeesAll (state : State) (topic : MultisigTopic) (receiver : Receiver)
    (items : List (Result Message)) (history : List Message) : Prop where
  history_topic : ∀ m ∈ history, m.envelope.topic = topic
  items_topic : ∀ m, .ok m ∈ items → m.envelope.topic = topic
  complete : (∀ error, .error error ∉ items) →
    ∀ j envelope, state.tasks j = some (.published envelope) → envelope.topic = topic →
      ⟨j, envelope⟩ ∈ history ∨ .ok ⟨j, envelope⟩ ∈ items ∨
        ⟨j, envelope⟩ ∈ (state.sent receiver.channel).drop receiver.next
  stream : ∀ m rest, (state.sent receiver.channel).drop receiver.next = m :: rest →
    (∃ next, receiver.recv (state.sent receiver.channel) = some (.ok m, next) ∧
      (state.sent next.channel).drop next.next = rest) ∨
    ∃ count next, receiver.recv (state.sent receiver.channel) =
      some (.error (laggedError count), next)

def held : Task → Option (String × ℕ)
  | .sending envelope channel => some (envelope.topic.key, channel)
  | .connecting topic channel => some (topic.key, channel)
  | .subscribed topic receiver _ => some (topic.key, receiver.channel)
  | .caughtUp topic receiver _ _ => some (topic.key, receiver.channel)
  | _ => none

lemma Invariant.subscriptions_of_held (h : Invariant state) {key : String}
    (ht : state.tasks i = some task) (hh : held task = some (key, c)) :
    state.subscriptions key = some c := by
  have hk := h.tasks i task ht
  cases task with
  | sending envelope channel =>
    obtain ⟨rfl, rfl⟩ := Prod.mk.inj (Option.some.inj hh)
    exact hk.2
  | connecting topic channel =>
    obtain ⟨rfl, rfl⟩ := Prod.mk.inj (Option.some.inj hh)
    exact hk
  | subscribed topic receiver items =>
    obtain ⟨rfl, rfl⟩ := Prod.mk.inj (Option.some.inj hh)
    exact Streams.channel hk
  | caughtUp topic receiver items history =>
    obtain ⟨rfl, rfl⟩ := Prod.mk.inj (Option.some.inj hh)
    exact hk.1.channel
  | _ => cases hh

lemma Streams.mem_of_mem_drop (h : Streams state topic receiver items)
    (hn : ∀ error, .error error ∉ items)
    (hm : m ∈ (state.sent receiver.channel).drop receiver.start) :
    .ok m ∈ items ∨ m ∈ (state.sent receiver.channel).drop receiver.next := by
  have hl : receiver.start ≤ ((state.sent receiver.channel).take receiver.next).length := by
    rw [List.length_take, min_eq_left h.bound]
    exact h.started
  rw [← List.take_append_drop receiver.next (state.sent receiver.channel),
    List.drop_append_of_le_length hl] at hm
  rcases List.mem_append.mp hm with hr | hp
  · rw [h.complete hn]
    exact .inl (List.mem_map_of_mem hr)
  · exact .inr hp

lemma recv_of_drop {sent rest : List Message} (h : sent.drop receiver.next = m :: rest) :
    receiver.recv sent = some (.ok m, { receiver with next := receiver.next + 1 }) ∨
      ∃ count next, receiver.recv sent = some (.error (laggedError count), next) := by
  unfold Receiver.recv
  split_ifs with hlag
  · exact .inr ⟨_, _, rfl⟩
  · have hget : sent[receiver.next]? = some m := by
      rw [← List.head?_drop, h, List.head?_cons]
    rw [hget]
    exact .inl rfl

lemma Invariant.seesAll (h : Invariant state) {history : List Message}
    (ht : state.tasks i = some (.caughtUp topic receiver items history)) :
    SeesAll state topic receiver items history := by
  obtain ⟨hs, hk, hsn⟩ := h.tasks i _ ht
  refine ⟨fun m hm => topic_key_injective (hk m hm), ?_, ?_, ?_⟩
  · intro m hm
    have hst := h.core.stored _ _ hs.channel m (hs.sent m hm)
    exact topic_key_injective (h.core.key_of_mem hst)
  · rintro hn j envelope hpb rfl
    obtain ⟨-, channel, hsub, hse⟩ := h.tasks j _ hpb
    obtain rfl := Option.some.inj (hsub.symm.trans hs.channel)
    rcases hsn _ hse with hr | hl
    · exact .inl hr
    · exact .inr (hs.mem_of_mem_drop hn hl)
  · intro m rest hp
    rcases recv_of_drop hp with hok | hlag
    · refine .inl ⟨_, hok, ?_⟩
      rw [← List.drop_drop, hp]
      rfl
    · exact .inr hlag

/-- In every state of every interleaving: clients that subscribed and then read the history see
everything of their topic; calls hold one channel for each key; and a history is the messages of
its key in the order of the lock, each once. -/
theorem inMemory_delivers [Pedersen] (actions : List Action) (state : State)
    (hrun : run actions = some state) :
    (∀ i topic receiver items history,
        state.tasks i = some (.caughtUp topic receiver items history) →
          SeesAll state topic receiver items history) ∧
      (∀ i j task task' key key' c c', state.tasks i = some task → state.tasks j = some task' →
        held task = some (key, c) → held task' = some (key', c') → (key = key' ↔ c = c')) ∧
      (∀ key, state.messages key = (state.acquired.filter fun m => m.key = key) ∧
        ((state.messages key).map Message.call).Nodup) ∧
      ∀ j envelope, state.tasks j = some (.published envelope) →
        ⟨j, envelope⟩ ∈ state.messages envelope.topic.key := by
  have h := invariant_run hrun
  refine ⟨fun i topic receiver items history => h.seesAll, ?_, ?_, ?_⟩
  · intro i j task task' key key' c c' ht ht' hh hh'
    have hsub := h.subscriptions_of_held ht hh
    have hs' := h.subscriptions_of_held ht' hh'
    constructor
    · rintro rfl
      exact Option.some.inj (hsub.symm.trans hs')
    · rintro rfl
      exact h.core.unshared _ _ _ hsub hs'
  · intro key
    refine ⟨h.core.order key, ?_⟩
    rw [h.core.order key]
    exact (List.filter_sublist.map Message.call).nodup h.core.calls
  · intro j envelope hp
    exact (h.core.mem_messages (m := ⟨j, envelope⟩)).mpr (h.tasks j _ hp).1

/-! ## A late publisher -/

section Sample

@[reducible] def emptyPedersen : Pedersen := tablePedersen []

attribute [local instance] emptyPedersen

def sampleTopic : MultisigTopic := ⟨⟨1⟩, .sepolia, 7⟩

def confirmationBy (signer : Felt) : MultisigCoordinationEnvelope :=
  .unsigned (.confirmation ⟨⟨1⟩, .sepolia, 7, ⟨signer⟩⟩)

/-- The first publisher and the client make the channel at the same time; the second publisher
comes after the client has read the history. -/
def sampleActions : List Action := [
  .publish 0 (confirmationBy 2), .append 0, .findSender 0,
  .subscribe 1 sampleTopic, .findSender 1, .createSender 1, .createSender 0,
  .connect 1, .messages 1,
  .publish 2 (confirmationBy 3), .append 2, .findSender 2, .send 2,
  .receive 1]

/-- The client has one message in the history and one from its stream. -/
theorem inMemory_delivers_sample : ∃ state, run sampleActions = some state ∧
    state.tasks 1 = some (.caughtUp sampleTopic ⟨0, 0, 1⟩ [.ok ⟨2, confirmationBy 3⟩]
      [⟨0, confirmationBy 2⟩]) ∧
    SeesAll state sampleTopic ⟨0, 0, 1⟩ [.ok ⟨2, confirmationBy 3⟩] [⟨0, confirmationBy 2⟩] := by
  have hts : ((run sampleActions).bind fun state => state.tasks 1) =
      some (.caughtUp sampleTopic ⟨0, 0, 1⟩ [.ok ⟨2, confirmationBy 3⟩]
        [⟨0, confirmationBy 2⟩]) := by decide +kernel
  obtain ⟨state, hrun, ht⟩ := Option.bind_eq_some_iff.mp hts
  exact ⟨state, hrun, ht, (inMemory_delivers sampleActions state hrun).1 1 _ _ _ _ ht⟩

end Sample

end State

end InMemory

end KrustyKms.Multisig

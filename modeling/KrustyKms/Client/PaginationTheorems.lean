import KrustyKms.Client.Pagination
import KrustyKms.Support.Fallible

/-!
# The event query is bounded and loses nothing

* `acceptPage_eq_ok`: what an accepted page does to the budget;
* `FetchInvariant`: what holds before every round, whatever the provider answers;
* `fetchStep_spec`: one round keeps it, and fails or finishes within the budgets;
* `fetchEvents_bounded`: every run.
-/

namespace KrustyKms.Client

open Crypto Support

variable {toWriter : JsonWriter} {provider : Provider} {filter : EventFilter}

/-! ## The budget -/

lemma checkedAddUsize_eq_some {a b c : ℕ} :
    checkedAddUsize a b = some c ↔ a + b < 2 ^ 64 ∧ a + b = c := by
  unfold checkedAddUsize
  split_ifs with h
  · rw [Option.some.injEq, and_iff_right h]
  · exact iff_of_false (by simp) fun hsum => h hsum.1

def pageBytes (toWriter : JsonWriter) (events : List EmittedEvent) : ℕ :=
  match toWriter events with
  | .ok chunks => (chunks.map List.length).sum
  | .error _ => 0

lemma foldlM_countingWrite {chunks : List Bytes} {count size : ℕ}
    (h : chunks.foldlM countingWrite count = .ok size) :
    size = count + (chunks.map List.length).sum := by
  induction chunks generalizing count with
  | nil => exact (Except.ok.inj h).symm
  | cons chunk chunks ih =>
    rw [List.foldlM_cons, except_bind_eq_ok] at h
    obtain ⟨next, hn, h⟩ := h
    unfold countingWrite at hn
    cases hadd : checkedAddUsize count chunk.length with
    | none =>
      rw [hadd] at hn
      exact absurd hn (by simp)
    | some total =>
      rw [hadd, Except.ok.injEq] at hn
      obtain ⟨-, ht⟩ := checkedAddUsize_eq_some.mp hadd
      rw [ih h, List.map_cons, List.sum_cons]
      omega

lemma serializedSize_eq_ok {events : List EmittedEvent} {size : ℕ}
    (h : serializedSize toWriter events = .ok size) : size = pageBytes toWriter events := by
  obtain ⟨chunks, hc, hf⟩ := except_bind_eq_ok.mp (except_mapError_eq_ok.mp h)
  rw [pageBytes, hc, foldlM_countingWrite hf, Nat.zero_add]

variable {budget : EventPaginationBudget} {st : FetchState} {deadline : ℕ}

lemma startPage_eq_ok {next : EventPaginationBudget} :
    budget.startPage = .ok next ↔
      budget.pages < maxEventPages ∧ next = { budget with pages := budget.pages + 1 } := by
  unfold EventPaginationBudget.startPage
  split_ifs with h
  · simp [Nat.not_lt.mpr h]
  · simp [Nat.not_le.mp h, eq_comm]

lemma elim_throw_eq_ok {α : Type} {x : Option α} {error : KmsError} {a : α} :
    x.elim (throw error : Result α) pure = .ok a ↔ x = some a := by
  cases x with
  | none => exact iff_of_false (by simp [throw, throwThe, MonadExceptOf.throw]) (by simp)
  | some b => simp [pure, Except.pure]

lemma acceptPage_eq_ok {next : EventPaginationBudget} {events : List EmittedEvent}
    {token nextToken : Option String}
    (h : budget.acceptPage toWriter events token = .ok (nextToken, next)) :
    nextToken = token ∧ next.pages = budget.pages ∧
      next.events = budget.events + events.length ∧ next.events ≤ maxEventsPerQuery ∧
      next.eventBytes = budget.eventBytes + pageBytes toWriter events ∧
      next.eventBytes ≤ maxEventBytesPerQuery ∧
      (∀ t ∈ token, t ∉ budget.seenTokens) ∧
      next.seenTokens = token.toList ++ budget.seenTokens := by
  unfold EventPaginationBudget.acceptPage at h
  obtain ⟨total, ht, h⟩ := except_bind_eq_ok.mp h
  obtain ⟨hev, h⟩ := except_ite_throw_eq_ok.mp h
  obtain ⟨size, hs, h⟩ := except_bind_eq_ok.mp h
  obtain ⟨totalBytes, htb, h⟩ := except_bind_eq_ok.mp h
  obtain ⟨hb, h⟩ := except_ite_throw_eq_ok.mp h
  obtain ⟨-, rfl⟩ := checkedAddUsize_eq_some.mp (elim_throw_eq_ok.mp ht)
  obtain ⟨-, rfl⟩ := checkedAddUsize_eq_some.mp (elim_throw_eq_ok.mp htb)
  obtain rfl := serializedSize_eq_ok hs
  cases token with
  | none =>
    obtain ⟨rfl, rfl⟩ := Prod.mk.inj (Except.ok.inj h)
    exact ⟨rfl, rfl, rfl, Nat.not_lt.mp hev, rfl, Nat.not_lt.mp hb, by simp, rfl⟩
  | some t =>
    obtain ⟨-, h⟩ := except_ite_throw_eq_ok.mp h
    obtain ⟨hnew, h⟩ := except_ite_throw_eq_ok.mp h
    obtain ⟨rfl, rfl⟩ := Prod.mk.inj (Except.ok.inj h)
    exact ⟨rfl, rfl, rfl, Nat.not_lt.mp hev, rfl, Nat.not_lt.mp hb, by simpa using hnew,
      rfl⟩

/-! ## Rounds -/

variable (toWriter provider filter) in
/-- Pages that the provider served one after the other from the start of the query, and the token
that the last of them carried. -/
inductive Served : List EventsPage → Option String → Prop
  | start : Served [] none
  | page {pages : List EventsPage} {token : Option String} {page : EventsPage}
      (before : Served pages token) (more : pages = [] ∨ token.isSome = true)
      (reply : (provider pages.length filter token eventPageSize).page = .ok page) :
      Served (pages ++ [page]) page.continuationToken

structure WithinBudget (toWriter : JsonWriter) (st : FetchState) (deadline : ℕ) : Prop where
  requests : st.requests.length ≤ maxEventPages
  nodup : st.requests.Nodup
  events : st.allEvents.length ≤ maxEventsPerQuery
  bytes : (st.accepted.map fun page => pageBytes toWriter page.events).sum ≤ maxEventBytesPerQuery
  collected : st.allEvents = st.accepted.flatMap EventsPage.events
  time : st.now ≤ deadline

structure FetchInvariant (toWriter : JsonWriter) (provider : Provider) (filter : EventFilter)
    (st : FetchState) (deadline : ℕ) : Prop where
  pages : st.budget.pages = st.requests.length
  pages_le : st.budget.pages ≤ maxEventPages
  requests : st.requests.length = st.accepted.length
  events : st.budget.events = st.allEvents.length
  events_le : st.budget.events ≤ maxEventsPerQuery
  bytes : st.budget.eventBytes = (st.accepted.map fun page => pageBytes toWriter page.events).sum
  bytes_le : st.budget.eventBytes ≤ maxEventBytesPerQuery
  collected : st.allEvents = st.accepted.flatMap EventsPage.events
  nodup : (st.requests ++ [st.continuationToken]).Nodup
  seen : ∀ token, some token ∈ st.requests ++ [st.continuationToken] →
    token ∈ st.budget.seenTokens
  served : Served provider filter st.accepted st.continuationToken
  more : st.accepted = [] ∨ st.continuationToken.isSome = true
  time : st.now ≤ deadline

lemma fetchInvariant_start (toWriter : JsonWriter) (provider : Provider) (filter : EventFilter)
    (start : ℕ) : FetchInvariant toWriter provider filter ⟨[], none, default, start, [], []⟩
      (start + eventQueryTimeout) where
  pages := rfl
  pages_le := Nat.zero_le _
  requests := rfl
  events := rfl
  events_le := Nat.zero_le _
  bytes := rfl
  bytes_le := Nat.zero_le _
  collected := rfl
  nodup := by simp
  seen := by simp
  served := .start
  more := .inl rfl
  time := Nat.le_add_right _ _

lemma FetchInvariant.withinBudget_sent {now : ℕ}
    (h : FetchInvariant toWriter provider filter st deadline)
    (hp : st.budget.pages < maxEventPages) (hnow : now ≤ deadline) :
    WithinBudget toWriter
      { st with requests := st.requests ++ [st.continuationToken], now } deadline where
  requests := by
    have := h.pages
    simp only [List.length_append, List.length_singleton]
    omega
  nodup := h.nodup
  events := h.events ▸ h.events_le
  bytes := h.bytes ▸ h.bytes_le
  collected := h.collected
  time := hnow

lemma FetchInvariant.withinBudget (h : FetchInvariant toWriter provider filter st deadline) :
    WithinBudget toWriter st deadline where
  requests := h.pages ▸ h.pages_le
  nodup := (List.nodup_append.mp h.nodup).1
  events := h.events ▸ h.events_le
  bytes := h.bytes ▸ h.bytes_le
  collected := h.collected
  time := h.time

lemma FetchInvariant.accept {elapsed : ℕ} {page : EventsPage}
    {started : EventPaginationBudget} {nextToken : Option String}
    (h : FetchInvariant toWriter provider filter st deadline)
    (hst : st.budget.startPage = .ok started) (htm : st.now + elapsed ≤ deadline)
    (hpg : (provider st.requests.length filter st.continuationToken eventPageSize).page = .ok page)
    (ha : started.acceptPage toWriter page.events page.continuationToken = .ok (nextToken, budget))
    (next : FetchState)
    (hn : next = ⟨st.allEvents ++ page.events, nextToken, budget, st.now + elapsed,
    st.requests ++ [st.continuationToken], st.accepted ++ [page]⟩) :
    WithinBudget toWriter next deadline ∧ next.requests.length = next.accepted.length ∧
      next.budget.pages = st.budget.pages + 1 ∧
      Served provider filter next.accepted nextToken ∧
      (nextToken.isSome → FetchInvariant toWriter provider filter next deadline) := by
  obtain ⟨hpa, rfl⟩ := startPage_eq_ok.mp hst
  obtain ⟨rfl, hp, hen, hel, hby, hb, hf, hsn⟩ :=
    acceptPage_eq_ok ha
  subst hn
  have hc : budget.pages = (st.requests ++ [st.continuationToken]).length := by
    rw [hp, List.length_append, List.length_singleton, h.pages]
  have hev : budget.events = (st.allEvents ++ page.events).length := by
    rw [hen, List.length_append, h.events]
  have hbs : budget.eventBytes
      = ((st.accepted ++ [page]).map fun page => pageBytes toWriter page.events).sum := by
    rw [hby, List.map_append, List.sum_append, h.bytes]
    simp
  have hcl : st.allEvents ++ page.events
      = (st.accepted ++ [page]).flatMap EventsPage.events := by
    rw [List.flatMap_append, ← h.collected]
    simp
  have hl : (st.requests ++ [st.continuationToken]).length
      = (st.accepted ++ [page]).length := by
    simp [h.requests]
  have hpl : budget.pages ≤ maxEventPages := by
    rw [hp]
    exact hpa
  have hsr := Served.page h.served h.more (h.requests ▸ hpg)
  refine ⟨⟨hc ▸ hpl, h.nodup, hev ▸ hel, hbs ▸ hb, hcl,
    htm⟩, hl, hp, hsr, fun hsm => ?_⟩
  obtain ⟨token, ht⟩ := Option.isSome_iff_exists.mp hsm
  rw [ht] at hf hsn
  refine ⟨hc, hpl, hl, hev, hel, hbs, hb, hcl, ?_, ?_,
    hsr, .inr hsm, htm⟩
  · -- a token that was sent before is a seen one
    rw [ht, List.nodup_append]
    refine ⟨h.nodup, List.nodup_singleton _, fun sent hs other ho heq => ?_⟩
    rw [List.mem_singleton] at ho
    subst ho heq
    exact hf token rfl (h.seen token hs)
  · intro sent hs
    rw [hsn]
    rcases List.mem_append.mp hs with hold | hnew
    · exact List.mem_append_right _ (h.seen sent hold)
    · rw [ht, List.mem_singleton] at hnew
      exact List.mem_append_left _ (by simp [Option.some.inj hnew])

def StepOutcome (toWriter : JsonWriter) (provider : Provider) (filter : EventFilter)
    (deadline : ℕ) (st next : FetchState) : Progress → Prop
  | .more => FetchInvariant toWriter provider filter next deadline ∧
      next.budget.pages = st.budget.pages + 1 ∧ st.budget.pages < maxEventPages
  | .done => WithinBudget toWriter next deadline ∧ next.accepted ≠ [] ∧
      next.requests.length = next.accepted.length ∧ Served provider filter next.accepted none
  | .failed _ => WithinBudget toWriter next deadline

lemma fetchStep_spec (h : FetchInvariant toWriter provider filter st deadline) :
    StepOutcome toWriter provider filter deadline st
      (fetchStep toWriter provider filter deadline st).1
      (fetchStep toWriter provider filter deadline st).2 := by
  unfold fetchStep
  cases hs : st.budget.startPage with
  | error error => exact h.withinBudget
  | ok started =>
    obtain ⟨hp, -⟩ := startPage_eq_ok.mp hs
    dsimp only
    split_ifs with hr
    · exact h.withinBudget
    cases hel : (provider st.requests.length filter st.continuationToken
        eventPageSize).elapsed.filter (· ≤ deadline - st.now) with
    | none =>
      -- the deadline comes before the answer
      exact h.withinBudget_sent hp le_rfl
    | some elapsed =>
      have ht : st.now + elapsed ≤ deadline := by
        have hle := of_decide_eq_true (Option.filter_eq_some_iff.mp hel).2
        have := h.time
        omega
      dsimp only
      cases hpg : (provider st.requests.length filter st.continuationToken
          eventPageSize).page with
      | error message => exact h.withinBudget_sent hp ht
      | ok page =>
        dsimp only
        cases ha : started.acceptPage toWriter page.events page.continuationToken with
        | error error => exact h.withinBudget_sent hp ht
        | ok accepted =>
          obtain ⟨nextToken, budget⟩ := accepted
          obtain ⟨hw, hl, hc, hsr, hin⟩ :=
            h.accept hs ht hpg ha _ rfl
          cases nextToken with
          | none => exact ⟨hw, by simp, hl, hsr⟩
          | some token => exact ⟨hin rfl, hc, hp⟩

/-! ## Whole queries -/

def FetchOutcome (toWriter : JsonWriter) (provider : Provider) (filter : EventFilter)
    (deadline : ℕ) (final : FetchState) (result : Result (List EmittedEvent)) : Prop :=
  WithinBudget toWriter final deadline ∧
    ∀ events, result = .ok events →
      events = final.allEvents ∧ final.accepted ≠ [] ∧
        final.requests.length = final.accepted.length ∧
        Served provider filter final.accepted none

lemma fetchLoop_returns {fuel : ℕ} (h : FetchInvariant toWriter provider filter st deadline)
    (hf : maxEventPages - st.budget.pages < fuel) :
    ∃ final result, fetchLoop toWriter provider filter deadline fuel st = some (final, result) ∧
      FetchOutcome toWriter provider filter deadline final result := by
  -- a round that goes on uses up a page, so the fuel and the pages that are left shrink together
  induction fuel generalizing st with
  | zero => exact absurd hf (Nat.not_lt_zero _)
  | succ fuel ih =>
    have hs := fetchStep_spec h
    rw [fetchLoop]
    rcases hst : fetchStep toWriter provider filter deadline st with ⟨next, progress⟩
    rw [hst] at hs
    cases progress with
    | more =>
      obtain ⟨hn, hc, hp⟩ := hs
      dsimp only at hn hc
      exact ih hn (by omega)
    | done =>
      obtain ⟨hw, hr⟩ := hs
      refine ⟨next, .ok next.allEvents, rfl, hw, fun events hev => ?_⟩
      exact ⟨(Except.ok.inj hev).symm, hr⟩
    | failed error => exact ⟨next, .error error, rfl, hs, fun events hev => nomatch hev⟩

lemma fetchLoop_fuel_le {fuel more : ℕ}
    {run : FetchState × Result (List EmittedEvent)} (hle : fuel ≤ more)
    (h : fetchLoop toWriter provider filter deadline fuel st = some run) :
    fetchLoop toWriter provider filter deadline more st = some run := by
  induction fuel generalizing st more with
  | zero => exact absurd h (by simp [fetchLoop])
  | succ fuel ih =>
    obtain ⟨more, rfl⟩ := Nat.exists_eq_add_of_lt hle
    rw [fetchLoop] at h ⊢
    rcases hs : fetchStep toWriter provider filter deadline st with ⟨next, progress⟩
    rw [hs] at h
    cases progress with
    | more => exact ih (by omega) h
    | done => exact h
    | failed error => exact h

/-- An event query sends at most 1000 requests, no two with one token, and returns within its
deadline with at most 100000 events of at most 32 MiB. What it returns are the events of all the
pages it received, up to the one without a token. -/
theorem fetchEvents_bounded (toWriter : JsonWriter) (provider : Provider) (contractAddress : Felt)
    (keys : List (List Felt)) (fromBlock toBlock : Option UInt64) (start : ℕ) :
    ∃ final result,
      (∀ fuel > 1000, fetchEvents toWriter provider contractAddress keys fromBlock toBlock start
        fuel = some (final, result)) ∧
      final.requests.length ≤ 1000 ∧ final.requests.Nodup ∧
      (final.accepted.flatMap EventsPage.events).length ≤ 100000 ∧
      (final.accepted.map fun page => pageBytes toWriter page.events).sum ≤ 32 * 1024 * 1024 ∧
      final.now ≤ start + 60000 ∧
      ∀ events, result = .ok events →
        events = final.accepted.flatMap EventsPage.events ∧ final.accepted ≠ [] ∧
          final.requests.length = final.accepted.length ∧
          Served provider (eventFilter contractAddress keys fromBlock toBlock) final.accepted
            none := by
  have hs := fetchInvariant_start toWriter provider
    (eventFilter contractAddress keys fromBlock toBlock) start
  -- one round more than there are pages: it is the page limit that ends it
  have hf : maxEventPages - 0 < 1001 := by decide
  obtain ⟨final, result, hrun, hw, hok⟩ := fetchLoop_returns hs hf
  refine ⟨final, result, fun fuel hf => fetchLoop_fuel_le hf hrun, hw.requests,
    hw.nodup, hw.collected ▸ hw.events, hw.bytes, hw.time,
    fun events hev => ?_⟩
  obtain ⟨rfl, hr⟩ := hok events hev
  exact ⟨hw.collected, hr⟩

end KrustyKms.Client

import KrustyKms.Gateway.Snapshot
import KrustyKms.Support.Fallible
import Mathlib.Data.List.Induction
import Mathlib.Data.List.Perm.Lattice

/-!
# What snapshot queries are answered with

The queue and the map of the cache have the same keys, so the eviction loop finds an entry for
every key it takes from the queue and ends (`exists_evict`).
-/

namespace KrustyKms.Gateway

open Support

/-! ## The cache -/

namespace SnapshotCache

def keys (cache : SnapshotCache) : List SnapshotCacheKey := cache.entries.map Prod.fst

/-- The queue has exactly the keys of the map, and the map is small enough. -/
structure WellFormed (maxEntries : ℕ) (cache : SnapshotCache) : Prop where
  nodup : cache.order.Nodup
  perm : cache.order.Perm cache.keys
  bound : cache.entries.length ≤ maxEntries

variable {maxEntries : ℕ} {entries : List (SnapshotCacheKey × SnapshotCacheEntry)}
  {order : List SnapshotCacheKey} {cache : SnapshotCache} {key : SnapshotCacheKey}

lemma filter_keys (entries : List (SnapshotCacheKey × SnapshotCacheEntry))
    (key : SnapshotCacheKey) :
    (entries.filter fun entry => entry.1 ≠ key).map Prod.fst =
      (entries.map Prod.fst).filter fun other => other ≠ key := by
  rw [List.filter_map]
  rfl

lemma nodup_filter_eq_erase {keys : List SnapshotCacheKey} (hn : keys.Nodup) :
    (keys.filter fun other => other ≠ key) = keys.erase key := by
  rw [hn.erase_eq_filter]
  congr 1
  funext other
  simp [bne, beq_eq_decide]

lemma exists_evict (maxEntries : ℕ) (hn : order.Nodup) (hp : order.Perm (entries.map Prod.fst)) :
    ∃ cache, evict maxEntries entries order = some cache ∧ WellFormed maxEntries cache ∧
      cache.entries.Sublist entries := by
  induction order generalizing entries with
  | nil =>
    have hnil : entries = [] := List.map_eq_nil_iff.mp hp.symm.eq_nil
    subst hnil
    refine ⟨⟨[], []⟩, if_pos (Nat.zero_le _), ⟨hn, hp, Nat.zero_le _⟩, ?_⟩
    exact List.Sublist.refl _
  | cons key order ih =>
    unfold evict
    by_cases hle : entries.length ≤ maxEntries
    · rw [if_pos hle]
      exact ⟨_, rfl, ⟨hn, hp, hle⟩, List.Sublist.refl _⟩
    · rw [if_neg hle]
      -- the key that is taken off the queue is taken out of the map
      have hk : (entries.map Prod.fst).Nodup := hp.nodup_iff.mp hn
      have hr : order.Perm ((entries.filter fun entry => entry.1 ≠ key).map Prod.fst) := by
        rw [filter_keys, nodup_filter_eq_erase hk]
        have her := hp.erase key
        rwa [List.erase_cons_head] at her
      obtain ⟨cache, hrun, hw, hsub⟩ := ih (List.nodup_cons.mp hn).2 hr
      exact ⟨cache, hrun, hw, hsub.trans List.filter_sublist⟩

lemma get_isSome : (cache.get key).isSome = true ↔ key ∈ cache.keys := by
  unfold get keys
  rw [Option.isSome_iff_exists]
  constructor
  · rintro ⟨entry, hen⟩
    exact List.mem_map_of_mem (mem_of_lookup hen)
  · intro hmem
    by_contra hn
    rw [← Option.isSome_iff_exists, Option.not_isSome_iff_eq_none,
      List.lookup_eq_none_iff] at hn
    obtain ⟨entry, hen, rfl⟩ := List.mem_map.mp hmem
    simpa using hn entry hen

lemma WellFormed.order_perm (h : WellFormed maxEntries cache) (key : SnapshotCacheKey)
    (entry : SnapshotCacheEntry) :
    let order := if (cache.get key).isSome then cache.order else cache.order ++ [key]
    order.Nodup ∧ order.Perm
      (((key, entry) :: cache.entries.filter fun other => other.1 ≠ key).map Prod.fst) := by
  have hk : cache.keys.Nodup := h.perm.nodup_iff.mp h.nodup
  have hf : (cache.entries.filter fun other => other.1 ≠ key).map Prod.fst =
      cache.keys.erase key := by rw [filter_keys, ← nodup_filter_eq_erase hk]; rfl
  intro order
  rw [List.map_cons, hf]
  by_cases hmem : key ∈ cache.keys
  · have ho : order = cache.order := if_pos (get_isSome.mpr hmem)
    rw [ho]
    exact ⟨h.nodup, h.perm.trans (List.perm_cons_erase hmem)⟩
  · have ho : order = cache.order ++ [key] := if_neg fun hs => hmem (get_isSome.mp hs)
    rw [ho, List.erase_of_not_mem hmem]
    have hnew : key ∉ cache.order := fun hin => hmem (h.perm.mem_iff.mp hin)
    refine ⟨?_, List.perm_append_comm.trans (h.perm.cons key)⟩
    rw [List.nodup_append]
    refine ⟨h.nodup, List.nodup_singleton key, ?_⟩
    intro a ha b hb hab
    obtain rfl := List.mem_singleton.mp hb
    exact hnew (hab ▸ ha)

lemma WellFormed.exists_storeSnapshot (h : WellFormed maxEntries cache) (key : SnapshotCacheKey)
    (snapshot : AccountSnapshot) (generatedAtMs : ℕ) :
    ∃ cache', cache.storeSnapshot key snapshot maxEntries generatedAtMs = some cache' ∧
      WellFormed maxEntries cache' ∧
      ∀ entry ∈ cache'.entries, entry = (key, ⟨generatedAtMs, snapshot⟩) ∨
        entry ∈ cache.entries := by
  obtain ⟨hn, hp⟩ := h.order_perm key ⟨generatedAtMs, snapshot⟩
  obtain ⟨cache', hrun, hw, hsub⟩ := exists_evict maxEntries hn hp
  refine ⟨cache', hrun, hw, ?_⟩
  intro entry hen
  rcases List.mem_cons.mp (hsub.subset hen) with rfl | hold
  · exact .inl rfl
  · exact .inr (List.mem_filter.mp hold).1

end SnapshotCache

/-! ## Where an answer comes from -/

namespace GatewayState

def Fetched (config : GatewayConfig) (actions : List Action) (request : AccountSnapshotRequest)
    (g : ℕ) (snapshot : AccountSnapshot) : Prop :=
  ∃ earlier i backend state cached, earlier ++ [Action.fetch i backend] <+: actions ∧
    run config earlier = some state ∧ state.queries i = some (.refreshing request g cached) ∧
    fetchSnapshot backend request g = .ok snapshot

structure SameTarget (request other : AccountSnapshotRequest) : Prop where
  chainId : request.chainId = other.chainId
  address : request.address = other.address
  block : request.block = other.block
  tokens : request.tokens = other.tokens

def Served (config : GatewayConfig) (actions : List Action) (request : AccountSnapshotRequest)
    (now : ℕ) (value : AccountSnapshot) (bound : ℕ) : Prop :=
  ∃ fetching g snapshot, Fetched config actions fetching g snapshot ∧
    SameTarget fetching request ∧ value = { snapshot with cache := value.cache } ∧
    now - g ≤ bound ∧ now - g ≤ value.cache.ageMs

/-- What holds of an answer: hits and stale answers are served within their bounds. -/
structure Sound (config : GatewayConfig) (actions : List Action)
    (request : AccountSnapshotRequest) (now : ℕ) (value : AccountSnapshot) : Prop where
  hit : value.cache.status = .hit →
    Served config actions request now value (min request.cachePolicy.ttlMs 3600000)
  stale : value.cache.status = .stale →
    Served config actions request now value (min request.cachePolicy.ttlMs 3600000 +
      min request.cachePolicy.staleWhileRevalidateMs 86400000)

def Known (config : GatewayConfig) (actions : List Action) (key : SnapshotCacheKey)
    (entry : SnapshotCacheEntry) : Prop :=
  ∃ fetching, SnapshotCacheKey.fromRequest fetching = key ∧
    Fetched config actions fetching entry.generatedAtMs entry.snapshot

def PhaseInvariant (config : GatewayConfig) (actions : List Action) : QueryPhase → Prop
  | .started _ => True
  | .clocked _ now => now < 2 ^ 64
  | .refreshing request now cached =>
    now < 2 ^ 64 ∧ ∀ entry, cached = some entry → Known config actions (.fromRequest request) entry
  | .fetched request now snapshot =>
    snapshot.cache.status = .miss ∧ Fetched config actions request now snapshot
  | .answered request now value => Sound config actions request now value
  | .failed _ => True

structure Invariant (config : GatewayConfig) (actions : List Action) (state : GatewayState) :
    Prop where
  cache : state.cache.WellFormed config.snapshotCacheMaxEntries
  known : ∀ entry ∈ state.cache.entries, Known config actions entry.1 entry.2
  phases : ∀ i phase, state.queries i = some phase → PhaseInvariant config actions phase

variable {config : GatewayConfig} {actions more : List Action} {state state' : GatewayState}
  {request : AccountSnapshotRequest} {now : ℕ}

/-! ### More actions -/

lemma Fetched.append {g : ℕ} {snapshot : AccountSnapshot}
    (h : Fetched config actions request g snapshot) (more : List Action) :
    Fetched config (actions ++ more) request g snapshot := by
  obtain ⟨earlier, i, backend, state, cached, hp, hr⟩ := h
  exact ⟨earlier, i, backend, state, cached, hp.trans (List.prefix_append _ _), hr⟩

variable {entry : SnapshotCacheEntry} {value : AccountSnapshot} {phase : QueryPhase}
  {action : Action}

lemma Known.append {key : SnapshotCacheKey}
    (h : Known config actions key entry) (more : List Action) :
    Known config (actions ++ more) key entry := by
  obtain ⟨fetching, hkey, hf⟩ := h
  exact ⟨fetching, hkey, hf.append more⟩

lemma Served.append {bound : ℕ}
    (h : Served config actions request now value bound) (more : List Action) :
    Served config (actions ++ more) request now value bound := by
  obtain ⟨fetching, g, snapshot, hf, hr⟩ := h
  exact ⟨fetching, g, snapshot, hf.append more, hr⟩

lemma PhaseInvariant.append (h : PhaseInvariant config actions phase)
    (more : List Action) : PhaseInvariant config (actions ++ more) phase := by
  cases phase with
  | started request => trivial
  | clocked request now => exact h
  | refreshing request now cached =>
    exact ⟨h.1, fun entry hen => (h.2 entry hen).append more⟩
  | fetched request now snapshot => exact ⟨h.1, h.2.append more⟩
  | answered request now value =>
    exact ⟨fun hhit => (h.hit hhit).append more, fun hs => (h.stale hs).append more⟩
  | failed error => trivial

/-! ### Answers -/

lemma Known.sameTarget (h : Known config actions (.fromRequest request) entry) :
    ∃ fetching, SameTarget fetching request ∧
      Fetched config actions fetching entry.generatedAtMs entry.snapshot := by
  obtain ⟨fetching, hkey, hf⟩ := h
  simp only [SnapshotCacheKey.fromRequest, SnapshotCacheKey.mk.injEq] at hkey
  obtain ⟨hc, ha, hb, ht⟩ := hkey
  exact ⟨fetching, ⟨hc, ha, hb, ht⟩, hf⟩

lemma Known.served {bound : ℕ}
    (h : Known config actions (.fromRequest request) entry) (hu64 : now < 2 ^ 64)
    (status : CacheStatus) (hb : now - entry.generatedAtMs ≤ bound) :
    Served config actions request now
      (applyCacheMetadata entry.snapshot status entry.generatedAtMs now) bound := by
  obtain ⟨fetching, hs, hf⟩ := h.sameTarget
  exact ⟨fetching, _, _, hf, hs, rfl, hb, le_ageMs hu64 _ _ _⟩

lemma maxCacheAge_le (policy : CachePolicy) :
    maxCacheAge policy ≤
      min policy.ttlMs 3600000 + min policy.staleWhileRevalidateMs 86400000 :=
  min_le_left _ _

lemma Known.sound_stale
    (h : Known config actions (.fromRequest request) entry) (hu64 : now < 2 ^ 64)
    (hage : now - entry.generatedAtMs ≤ maxCacheAge request.cachePolicy) :
    Sound config actions request now
      (applyCacheMetadata entry.snapshot .stale entry.generatedAtMs now) := by
  refine ⟨fun hs => ?_, fun _ => ?_⟩
  · cases hs
  · exact h.served hu64 .stale (hage.trans (maxCacheAge_le _))

lemma sound_of_cachedSnapshotResponse {cached : Option SnapshotCacheEntry}
    (hk : ∀ entry, cached = some entry → Known config actions (.fromRequest request) entry)
    (hu64 : now < 2 ^ 64) (hv : cachedSnapshotResponse request cached now = some value) :
    Sound config actions request now value := by
  cases cached with
  | none => cases hv
  | some entry =>
    have hen := hk entry rfl
    rw [cachedSnapshotResponse_some] at hv
    split_ifs at hv with hf hs
    · obtain rfl := Option.some.inj hv
      refine ⟨fun _ => hen.served hu64 .hit hf, fun hst => ?_⟩
      cases hst
    · obtain rfl := Option.some.inj hv
      exact hen.sound_stale hu64 hs.1

lemma sound_of_staleSnapshotFallback {cached : Option SnapshotCacheEntry}
    (hk : ∀ entry, cached = some entry → Known config actions (.fromRequest request) entry)
    (hu64 : now < 2 ^ 64) (hv : staleSnapshotFallback request cached now = some value) :
    Sound config actions request now value := by
  cases cached with
  | none => cases hv
  | some entry =>
    rw [staleSnapshotFallback_some] at hv
    split_ifs at hv with hage
    obtain rfl := Option.some.inj hv
    exact (hk entry rfl).sound_stale hu64 hage

lemma status_of_fetchSnapshot {backend : Backend} {g : ℕ} {snapshot : AccountSnapshot}
    (h : fetchSnapshot backend request g = .ok snapshot) : snapshot.cache.status = .miss := by
  unfold fetchSnapshot at h
  obtain ⟨deployed, -, h⟩ := except_bind_eq_ok.mp h
  obtain ⟨nonce, -, h⟩ := except_bind_eq_ok.mp h
  obtain ⟨balances, -, h⟩ := except_bind_eq_ok.mp h
  obtain rfl := Except.ok.inj h
  rfl

/-! ### Steps -/

/-- A step moves one query to a phase, and a store replaces the cache. -/
inductive Moves (config : GatewayConfig) (state : GatewayState) :
    Action → ℕ → QueryPhase → SnapshotCache → Prop
  | started {i request} : Moves config state (.start i request) i (.started request) state.cache
  | refused {i request error} :
      Moves config state (.start i request) i (.failed error) state.cache
  | clocked {i request} {now : UInt64} (h : state.queries i = some (.started request)) :
      Moves config state (.readClock i now) i (.clocked request now.toNat) state.cache
  | answered {i request now value} (h : state.queries i = some (.clocked request now))
      (hvalue : cachedSnapshotResponse request (state.cache.get (.fromRequest request)) now =
        some value) :
      Moves config state (.lookUp i) i (.answered request now value) state.cache
  | refreshing {i request now} (h : state.queries i = some (.clocked request now)) :
      Moves config state (.lookUp i) i
        (.refreshing request now (state.cache.get (.fromRequest request))) state.cache
  | fetched {i backend request now cached snapshot}
      (h : state.queries i = some (.refreshing request now cached))
      (hsnapshot : fetchSnapshot backend request now = .ok snapshot) :
      Moves config state (.fetch i backend) i (.fetched request now snapshot) state.cache
  | fellBack {i backend request now cached value}
      (h : state.queries i = some (.refreshing request now cached))
      (hvalue : staleSnapshotFallback request cached now = some value) :
      Moves config state (.fetch i backend) i (.answered request now value) state.cache
  | failed {i backend error} : Moves config state (.fetch i backend) i (.failed error) state.cache
  | stored {i request now snapshot cache}
      (h : state.queries i = some (.fetched request now snapshot))
      (hstore : state.cache.storeSnapshot (.fromRequest request) snapshot
        config.snapshotCacheMaxEntries now = some cache) :
      Moves config state (.store i) i (.answered request now snapshot) cache

lemma moves_of_step (h : step config state action = some state') :
    ∃ i phase cache, Moves config state action i phase cache ∧
      state' = { state with cache }.setQuery i phase := by
  cases action with
  | start i request =>
    simp only [step] at h
    split at h
    · split at h
      · exact ⟨i, _, _, .started, (Option.some.inj h).symm⟩
      · exact ⟨i, _, _, .refused, (Option.some.inj h).symm⟩
    · cases h
  | readClock i now =>
    simp only [step] at h
    split at h
    · exact ⟨i, _, _, .clocked ‹_›, (Option.some.inj h).symm⟩
    · cases h
  | lookUp i =>
    simp only [step] at h
    split at h
    · split at h
      · exact ⟨i, _, _, .answered ‹_› ‹_›, (Option.some.inj h).symm⟩
      · exact ⟨i, _, _, .refreshing ‹_›, (Option.some.inj h).symm⟩
    · cases h
  | fetch i backend =>
    simp only [step] at h
    split at h
    · split at h
      · exact ⟨i, _, _, .fetched ‹_› ‹_›, (Option.some.inj h).symm⟩
      · split at h
        · exact ⟨i, _, _, .fellBack ‹_› ‹_›, (Option.some.inj h).symm⟩
        · exact ⟨i, _, _, .failed, (Option.some.inj h).symm⟩
    · cases h
  | store i =>
    simp only [step] at h
    split at h
    · split at h
      · exact ⟨i, _, _, .stored ‹_› ‹_›, (Option.some.inj h).symm⟩
      · cases h
    · cases h

lemma Invariant.cache_of_moves {i : ℕ} {cache : SnapshotCache} (h : Invariant config actions state)
    (h_moves : Moves config state action i phase cache) :
    cache.WellFormed config.snapshotCacheMaxEntries ∧
      ∀ entry ∈ cache.entries, Known config actions entry.1 entry.2 := by
  cases h_moves with
  | stored h_phase h_store =>
    obtain ⟨cache', h_store', h_wellFormed, h_entries⟩ := h.cache.exists_storeSnapshot _ _ _
    obtain rfl := Option.some.inj (h_store.symm.trans h_store')
    refine ⟨h_wellFormed, ?_⟩
    intro entry h_entry
    rcases h_entries entry h_entry with rfl | h_old
    · exact ⟨_, rfl, (h.phases _ _ h_phase).2⟩
    · exact h.known entry h_old
  | _ => exact ⟨h.cache, h.known⟩

lemma Invariant.phase_of_moves {i : ℕ}
    {cache : SnapshotCache} (h_run : run config actions = some state)
    (h : Invariant config actions state) (h_moves : Moves config state action i phase cache) :
    PhaseInvariant config (actions ++ [action]) phase := by
  have h_known : ∀ key entry, state.cache.get key = some entry → Known config actions key entry :=
    fun key entry h_get => h.known (key, entry) (mem_of_lookup h_get)
  cases h_moves with
  | started => trivial
  | refused => trivial
  | @clocked i request now => exact now.toNat_lt
  | answered h_phase h_cached =>
    have h_sound : PhaseInvariant config actions (.answered _ _ _) :=
      sound_of_cachedSnapshotResponse (fun entry h_get => h_known _ entry h_get)
        (h.phases _ _ h_phase) h_cached
    exact h_sound.append _
  | refreshing h_phase =>
    exact ⟨h.phases _ _ h_phase, fun entry h_get => (h_known _ entry h_get).append _⟩
  | fetched h_phase h_fetch =>
    exact ⟨status_of_fetchSnapshot h_fetch,
      actions, _, _, state, _, List.prefix_refl _, h_run, h_phase, h_fetch⟩
  | fellBack h_phase h_stale =>
    obtain ⟨h_clock, h_entry⟩ := h.phases _ _ h_phase
    have h_sound : PhaseInvariant config actions (.answered _ _ _) :=
      sound_of_staleSnapshotFallback h_entry h_clock h_stale
    exact h_sound.append _
  | failed => trivial
  | stored h_phase =>
    -- the answer of a refresh is a miss
    have h_miss := (h.phases _ _ h_phase).1
    refine ⟨fun h_hit => ?_, fun h_stale => ?_⟩
    · rw [h_miss] at h_hit
      cases h_hit
    · rw [h_miss] at h_stale
      cases h_stale

lemma run_snoc (action : Action) :
    run config (actions ++ [action]) = (run config actions).bind fun state =>
      step config state action := by
  unfold run
  rw [List.foldlM_append]
  simp only [List.foldlM_cons, List.foldlM_nil, bind_pure]
  rfl

theorem invariant_run (hrun : run config actions = some state) :
    Invariant config actions state := by
  induction actions using List.reverseRecOn generalizing state with
  | nil =>
    obtain rfl := Option.some.inj hrun
    refine ⟨⟨List.nodup_nil, List.Perm.refl _, Nat.zero_le _⟩, ?_, ?_⟩
    · intro entry hen
      cases hen
    · intro i phase hp
      cases hp
  | append_singleton actions action ih =>
    rw [run_snoc] at hrun
    obtain ⟨before, hb, hs⟩ := Option.bind_eq_some_iff.mp hrun
    have h := ih hb
    obtain ⟨i, phase, cache, hm, rfl⟩ := moves_of_step hs
    obtain ⟨hc, hk⟩ := h.cache_of_moves hm
    refine ⟨hc, fun entry hen => (hk entry hen).append _, ?_⟩
    intro j other ho
    change (if j = i then some phase else before.queries j) = some other at ho
    split_ifs at ho
    · obtain rfl := Option.some.inj ho
      exact h.phase_of_moves hb hm
    · exact (h.phases j other ho).append _

/-- In every state of every interleaving: the queue is the keys of the map, which is within its
limit; a store that is due ends; and hits and stale answers are sound. -/
theorem snapshot_queries_sound (config : GatewayConfig) (actions : List Action)
    (state : GatewayState) (hrun : run config actions = some state) :
    (state.cache.order.Nodup ∧ state.cache.order.Perm state.cache.keys ∧
        state.cache.entries.length ≤ config.snapshotCacheMaxEntries) ∧
      (∀ i request now snapshot, state.queries i = some (.fetched request now snapshot) →
        ∃ after, step config state (.store i) = some after) ∧
      ∀ i request now value, state.queries i = some (.answered request now value) →
        Sound config actions request now value := by
  have h := invariant_run hrun
  refine ⟨⟨h.cache.nodup, h.cache.perm, h.cache.bound⟩, ?_, ?_⟩
  · intro i request now snapshot hp
    obtain ⟨cache, hs, -⟩ := h.cache.exists_storeSnapshot (.fromRequest request) snapshot now
    refine ⟨{ state with cache }.setQuery i (.answered request now snapshot), ?_⟩
    simp only [step, hp, hs]
  · intro i request now value hp
    exact h.phases i _ hp

def sampleBackend : Backend where
  checkDeployed := fun _ _ => .ok true
  nonce := fun _ _ => .ok ⟨"0x0"⟩
  tokenBalance := fun _ _ _ => .ok "0"
  blockMetadata := fun block => .ok { selector := block, blockHash := none, blockNumber := none }

def sampleActions : List Action := [
  .start 0 sampleRequest,
  .readClock 0 10000,
  .lookUp 0,
  .fetch 0 sampleBackend,
  .store 0,
  .start 1 sampleRequest,
  .readClock 1 10500,
  .lookUp 1]

/-- The second query is served the entry of the first. -/
theorem snapshot_query_hit : ∃ state,
    run ⟨.mainnet, 1⟩ sampleActions = some state ∧ ∃ value,
      state.queries 1 = some (.answered sampleRequest 10500 value) ∧
      value.cache = ⟨.hit, 10000, 5000⟩ ∧
      Sound ⟨.mainnet, 1⟩ sampleActions sampleRequest 10500 value :=
  ⟨_, rfl, _, rfl, rfl, (snapshot_queries_sound ⟨.mainnet, 1⟩ sampleActions _ rfl).2.2 1 _ _ _ rfl⟩

end GatewayState

end KrustyKms.Gateway

import KrustyKms.Client.Multisig
import KrustyKms.Gateway.Operations

/-!
# The shared snapshot cache

An entry keeps the exact time of its fetch. Whether it is served is decided with that time;
the times that leave the gateway are rounded to a quantum, down for the fetch and up for the
observation.
-/

namespace KrustyKms.Gateway

/-! ## Domain types -/

inductive QueryMode where
  | activeView
  | backgroundView
deriving DecidableEq

inductive BlockSelector where
  | latest
  | pending
  | number (value : ℕ)
  | hash (value : FeltHex)
deriving DecidableEq

structure TrackedToken where
  symbol : String
  address : FeltHex
  decimals : UInt8
deriving DecidableEq

structure CachePolicy where
  ttlMs : ℕ
  staleWhileRevalidateMs : ℕ
deriving DecidableEq

inductive CacheStatus where
  | miss
  | hit
  | stale
deriving DecidableEq

structure CacheMetadata where
  status : CacheStatus
  generatedAtMs : ℕ
  ageMs : ℕ
deriving DecidableEq

structure AccountSnapshotRequest where
  chainId : ChainId
  address : FeltHex
  tokens : List TrackedToken
  block : BlockSelector
  mode : QueryMode
  cachePolicy : CachePolicy
deriving DecidableEq

inductive DeploymentState where
  | undeployed
  | deploying (txHash : FeltHex)
  | deployed
  | rejected (error : GatewayError)
deriving DecidableEq

structure TokenBalanceSnapshot where
  token : TrackedToken
  amountRaw : String
deriving DecidableEq

structure SnapshotBlockMetadata where
  selector : BlockSelector
  blockHash : Option FeltHex
  blockNumber : Option ℕ
deriving DecidableEq

structure AccountSnapshot where
  address : FeltHex
  deployment : DeploymentState
  nonce : Option FeltHex
  balances : List TokenBalanceSnapshot
  block : SnapshotBlockMetadata
  cache : CacheMetadata
deriving DecidableEq

/-! ## Times -/

def maxSnapshotTtlMs : ℕ := 60 * 60 * 1000
def maxSnapshotStaleMs : ℕ := 24 * 60 * 60 * 1000
def snapshotTimeQuantumMs : ℕ := 5000

def quantizeDown (valueMs : ℕ) : ℕ := valueMs - valueMs % snapshotTimeQuantumMs

def quantizeUp (valueMs : ℕ) : ℕ :=
  if valueMs % snapshotTimeQuantumMs = 0 then valueMs
  else min (valueMs + (snapshotTimeQuantumMs - valueMs % snapshotTimeQuantumMs)) (2 ^ 64 - 1)

def clampedTtl (policy : CachePolicy) : ℕ := min policy.ttlMs maxSnapshotTtlMs

def maxCacheAge (policy : CachePolicy) : ℕ :=
  min (clampedTtl policy + min policy.staleWhileRevalidateMs maxSnapshotStaleMs) (2 ^ 64 - 1)

/-! ## Responses from the cache -/

structure SnapshotCacheEntry where
  generatedAtMs : ℕ
  snapshot : AccountSnapshot
deriving DecidableEq

def applyCacheMetadata (snapshot : AccountSnapshot) (status : CacheStatus)
    (generatedAtMs nowMs : ℕ) : AccountSnapshot :=
  let generatedBucket := quantizeDown generatedAtMs
  { snapshot with
    cache := {
      status
      generatedAtMs := generatedBucket
      ageMs := quantizeUp nowMs - generatedBucket } }

def cachedSnapshotResponse (request : AccountSnapshotRequest) (cached : Option SnapshotCacheEntry)
    (nowMs : ℕ) : Option AccountSnapshot := do
  let entry ← cached
  let ageMs := nowMs - entry.generatedAtMs
  if ageMs ≤ clampedTtl request.cachePolicy then
    return applyCacheMetadata entry.snapshot .hit entry.generatedAtMs nowMs
  if ageMs ≤ maxCacheAge request.cachePolicy ∧ request.mode = .backgroundView then
    return applyCacheMetadata entry.snapshot .stale entry.generatedAtMs nowMs
  none

def staleSnapshotFallback (request : AccountSnapshotRequest) (cached : Option SnapshotCacheEntry)
    (nowMs : ℕ) : Option AccountSnapshot := do
  let entry ← cached
  let ageMs := nowMs - entry.generatedAtMs
  if ageMs ≤ maxCacheAge request.cachePolicy then
    return applyCacheMetadata entry.snapshot .stale entry.generatedAtMs nowMs
  none

/-! ## What the responses tell -/

lemma quantizeDown_eq (valueMs : ℕ) :
    quantizeDown valueMs = valueMs / snapshotTimeQuantumMs * snapshotTimeQuantumMs := by
  unfold quantizeDown
  have := Nat.div_add_mod valueMs snapshotTimeQuantumMs
  rw [Nat.mul_comm] at this
  omega

lemma quantizeDown_le (valueMs : ℕ) : quantizeDown valueMs ≤ valueMs := Nat.sub_le _ _

lemma le_quantizeUp {valueMs : ℕ} (hu64 : valueMs < 2 ^ 64) : valueMs ≤ quantizeUp valueMs := by
  unfold quantizeUp
  split_ifs <;> omega

lemma le_ageMs {nowMs : ℕ} (hu64 : nowMs < 2 ^ 64) (snapshot : AccountSnapshot)
    (status : CacheStatus) (generatedAtMs : ℕ) :
    nowMs - generatedAtMs ≤
      (applyCacheMetadata snapshot status generatedAtMs nowMs).cache.ageMs := by
  have hup := le_quantizeUp hu64
  have hd := quantizeDown_le generatedAtMs
  change nowMs - generatedAtMs ≤ quantizeUp nowMs - quantizeDown generatedAtMs
  omega

lemma applyCacheMetadata_congr {g g' : ℕ}
    (hq : g / snapshotTimeQuantumMs = g' / snapshotTimeQuantumMs)
    (snapshot : AccountSnapshot) (status : CacheStatus) (nowMs : ℕ) :
    applyCacheMetadata snapshot status g nowMs = applyCacheMetadata snapshot status g' nowMs := by
  unfold applyCacheMetadata
  rw [quantizeDown_eq, quantizeDown_eq, hq]

lemma cachedSnapshotResponse_some (request : AccountSnapshotRequest) (entry : SnapshotCacheEntry)
    (nowMs : ℕ) :
    cachedSnapshotResponse request (some entry) nowMs =
      if nowMs - entry.generatedAtMs ≤ clampedTtl request.cachePolicy then
        some (applyCacheMetadata entry.snapshot .hit entry.generatedAtMs nowMs)
      else if nowMs - entry.generatedAtMs ≤ maxCacheAge request.cachePolicy ∧
          request.mode = .backgroundView then
        some (applyCacheMetadata entry.snapshot .stale entry.generatedAtMs nowMs)
      else none := rfl

lemma staleSnapshotFallback_some (request : AccountSnapshotRequest) (entry : SnapshotCacheEntry)
    (nowMs : ℕ) :
    staleSnapshotFallback request (some entry) nowMs =
      if nowMs - entry.generatedAtMs ≤ maxCacheAge request.cachePolicy then
        some (applyCacheMetadata entry.snapshot .stale entry.generatedAtMs nowMs)
      else none := rfl

lemma hit_ne_stale (snapshot snapshot' : AccountSnapshot) (g g' nowMs : ℕ) :
    applyCacheMetadata snapshot .hit g nowMs ≠ applyCacheMetadata snapshot' .stale g' nowMs := by
  intro h
  have hs : CacheStatus.hit = CacheStatus.stale :=
    congrArg (fun value => value.cache.status) h
  cases hs

section Blindness

variable {request : AccountSnapshotRequest} {snapshot : AccountSnapshot} {g g' nowMs : ℕ}

/-- At both ages an entry is as fresh, and as usable when stale. -/
def SameDecisions (request : AccountSnapshotRequest) (g g' nowMs : ℕ) : Prop :=
  (nowMs - g ≤ clampedTtl request.cachePolicy ↔ nowMs - g' ≤ clampedTtl request.cachePolicy) ∧
    (nowMs - g ≤ maxCacheAge request.cachePolicy ↔
      nowMs - g' ≤ maxCacheAge request.cachePolicy)

instance decidableSameDecisions : Decidable (SameDecisions request g g' nowMs) :=
  inferInstanceAs (Decidable (_ ∧ _))

lemma fallback_eq_iff (hq : g / snapshotTimeQuantumMs = g' / snapshotTimeQuantumMs) :
    staleSnapshotFallback request (some ⟨g, snapshot⟩) nowMs =
        staleSnapshotFallback request (some ⟨g', snapshot⟩) nowMs ↔
      (nowMs - g ≤ maxCacheAge request.cachePolicy ↔
        nowMs - g' ≤ maxCacheAge request.cachePolicy) := by
  simp only [staleSnapshotFallback_some, applyCacheMetadata_congr hq]
  by_cases h : nowMs - g ≤ maxCacheAge request.cachePolicy <;>
    by_cases h' : nowMs - g' ≤ maxCacheAge request.cachePolicy <;> simp [h, h']

lemma fresh_iff_of_response_eq (heq : cachedSnapshotResponse request (some ⟨g, snapshot⟩) nowMs =
    cachedSnapshotResponse request (some ⟨g', snapshot⟩) nowMs) :
    nowMs - g ≤ clampedTtl request.cachePolicy ↔ nowMs - g' ≤ clampedTtl request.cachePolicy := by
  simp only [cachedSnapshotResponse_some] at heq
  by_cases h : nowMs - g ≤ clampedTtl request.cachePolicy
  · rw [if_pos h] at heq
    refine iff_of_true h ?_
    by_contra h'
    rw [if_neg h'] at heq
    split_ifs at heq
    exact hit_ne_stale _ _ _ _ _ (Option.some.inj heq)
  · rw [if_neg h] at heq
    refine iff_of_false h ?_
    intro h'
    rw [if_pos h'] at heq
    split_ifs at heq
    exact hit_ne_stale _ _ _ _ _ (Option.some.inj heq).symm

/-- Two entries with the same snapshot and fetches in the same quantum are answered alike
exactly when the request's bounds do not separate their exact ages. -/
theorem responses_blind_iff (request : AccountSnapshotRequest) (snapshot : AccountSnapshot)
    (g g' nowMs : ℕ) (hquantum : g / snapshotTimeQuantumMs = g' / snapshotTimeQuantumMs) :
    (cachedSnapshotResponse request (some ⟨g, snapshot⟩) nowMs =
        cachedSnapshotResponse request (some ⟨g', snapshot⟩) nowMs ∧
      staleSnapshotFallback request (some ⟨g, snapshot⟩) nowMs =
        staleSnapshotFallback request (some ⟨g', snapshot⟩) nowMs) ↔
      SameDecisions request g g' nowMs := by
  rw [fallback_eq_iff hquantum]
  constructor
  · rintro ⟨hr, hf⟩
    exact ⟨fresh_iff_of_response_eq hr, hf⟩
  · rintro ⟨hfr, hs⟩
    refine ⟨?_, hs⟩
    simp only [cachedSnapshotResponse_some, applyCacheMetadata_congr hquantum, hfr, hs]

end Blindness

def sampleRequest : AccountSnapshotRequest where
  chainId := .mainnet
  address := ⟨"0x1"⟩
  tokens := []
  block := .latest
  mode := .activeView
  cachePolicy := { ttlMs := 1000, staleWhileRevalidateMs := 0 }

def sampleSnapshot : AccountSnapshot where
  address := ⟨"0x1"⟩
  deployment := .deployed
  nonce := some ⟨"0x0"⟩
  balances := []
  block := { selector := .latest, blockHash := none, blockNumber := none }
  cache := { status := .miss, generatedAtMs := 5000, ageMs := 0 }

/-- Both entries are fresh half a second after the later one. -/
theorem responses_blind_while_fresh :
    cachedSnapshotResponse sampleRequest (some ⟨5100, sampleSnapshot⟩) 5900 =
        cachedSnapshotResponse sampleRequest (some ⟨5400, sampleSnapshot⟩) 5900 ∧
      staleSnapshotFallback sampleRequest (some ⟨5100, sampleSnapshot⟩) 5900 =
        staleSnapshotFallback sampleRequest (some ⟨5400, sampleSnapshot⟩) 5900 :=
  (responses_blind_iff sampleRequest sampleSnapshot 5100 5400 5900 (by decide)).mpr (by decide)

/-- Fetches in one quantum, told apart by a hit and a miss. -/
theorem response_tells_within_quantum :
    5000 / snapshotTimeQuantumMs = 9999 / snapshotTimeQuantumMs ∧
      cachedSnapshotResponse sampleRequest (some ⟨5000, sampleSnapshot⟩) 10000 = none ∧
      cachedSnapshotResponse sampleRequest (some ⟨9999, sampleSnapshot⟩) 10000 =
        some (applyCacheMetadata sampleSnapshot .hit 9999 10000) := by
  decide

end KrustyKms.Gateway

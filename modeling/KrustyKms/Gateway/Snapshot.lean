import KrustyKms.Gateway.SnapshotCache

/-!
# Snapshot queries

A query reads the clock, looks its key up under the read lock, and answers from the cache or
refreshes: it asks the backend and stores what it got under the write lock.
-/

namespace KrustyKms.Gateway

def maxSnapshotTokens : ℕ := 16

/-! ## The cache -/

/-- What an entry is filed under: everything of a request that decides the answer. -/
structure SnapshotCacheKey where
  chainId : ChainId
  address : FeltHex
  block : BlockSelector
  tokens : List TrackedToken
deriving DecidableEq

def SnapshotCacheKey.fromRequest (request : AccountSnapshotRequest) : SnapshotCacheKey where
  chainId := request.chainId
  address := request.address
  block := request.block
  tokens := request.tokens

structure SnapshotCache where
  entries : List (SnapshotCacheKey × SnapshotCacheEntry)
  order : List SnapshotCacheKey

namespace SnapshotCache

def empty : SnapshotCache where
  entries := []
  order := []

def get (cache : SnapshotCache) (key : SnapshotCacheKey) : Option SnapshotCacheEntry :=
  cache.entries.lookup key

/-- The eviction loop. It leaves only when the map is small enough, so that `none`, an empty
queue with too many entries, is a loop that never ends. -/
def evict (maxEntries : ℕ) (entries : List (SnapshotCacheKey × SnapshotCacheEntry)) :
    List SnapshotCacheKey → Option SnapshotCache
  | [] => if entries.length ≤ maxEntries then some { entries, order := [] } else none
  | key :: order =>
    if entries.length ≤ maxEntries then some { entries, order := key :: order }
    else evict maxEntries (entries.filter fun entry => entry.1 ≠ key) order

def storeSnapshot (cache : SnapshotCache) (key : SnapshotCacheKey) (snapshot : AccountSnapshot)
    (maxEntries generatedAtMs : ℕ) : Option SnapshotCache :=
  let order := if (cache.get key).isSome then cache.order else cache.order ++ [key]
  let entries := (key, { generatedAtMs, snapshot }) ::
    cache.entries.filter fun entry => entry.1 ≠ key
  evict maxEntries entries order

end SnapshotCache

/-! ## The backend -/

structure Backend where
  checkDeployed : FeltHex → BlockSelector → Except GatewayError Bool
  nonce : FeltHex → BlockSelector → Except GatewayError FeltHex
  tokenBalance : FeltHex → TrackedToken → BlockSelector → Except GatewayError String
  blockMetadata : BlockSelector → Except GatewayError SnapshotBlockMetadata

def fetchNonce (backend : Backend) (request : AccountSnapshotRequest) (deployed : Bool) :
    Except GatewayError (Option FeltHex) :=
  if deployed then some <$> backend.nonce request.address request.block else pure none

def fetchSnapshot (backend : Backend) (request : AccountSnapshotRequest) (generatedAtMs : ℕ) :
    Except GatewayError AccountSnapshot := do
  let deployed ← backend.checkDeployed request.address request.block
  let nonce ← fetchNonce backend request deployed
  let balances ← request.tokens.mapM fun token => do
    let amountRaw ← backend.tokenBalance request.address token request.block
    pure { token, amountRaw : TokenBalanceSnapshot }
  let block := match backend.blockMetadata request.block with
    | .ok block => block
    | .error _ => { selector := request.block, blockHash := none, blockNumber := none }
  pure {
    address := request.address
    deployment := if deployed then .deployed else .undeployed
    nonce
    balances
    block
    cache := { status := .miss, generatedAtMs := quantizeDown generatedAtMs, ageMs := 0 } }

/-! ## Queries -/

structure GatewayConfig where
  chainId : ChainId
  snapshotCacheMaxEntries : ℕ

def ensureChainMatches (config : GatewayConfig) (chainId : ChainId) : Except GatewayError Unit :=
  if chainId ≠ config.chainId then
    .error { code := .chainMismatch, retryable := false, message := some (
      "request targets " ++ chainId.name ++ ", gateway backend is configured for " ++
        config.chainId.name) }
  else .ok ()

def validateCachePolicy (policy : CachePolicy) : Except GatewayError Unit :=
  if policy.ttlMs = 0 then
    .error { code := .invalidCachePolicy, retryable := false, message := some (
      "cache ttl_ms must be greater than zero") }
  else .ok ()

def validateTokens (tokens : List TrackedToken) : Except GatewayError Unit :=
  if maxSnapshotTokens < tokens.length then
    .error { code := .invalidRequest, retryable := false, message := some (
      "snapshot request tracks " ++ toString tokens.length ++ " tokens (maximum " ++
        toString maxSnapshotTokens ++ ")") }
  else .ok ()

def validateRequest (config : GatewayConfig) (request : AccountSnapshotRequest) :
    Except GatewayError Unit := do
  ensureChainMatches config request.chainId
  validateCachePolicy request.cachePolicy
  validateTokens request.tokens

/-- Where a query stands. From the second on, `now` is its reading of the clock. -/
inductive QueryPhase where
  | started (request : AccountSnapshotRequest)
  | clocked (request : AccountSnapshotRequest) (now : ℕ)
  | refreshing (request : AccountSnapshotRequest) (now : ℕ) (cached : Option SnapshotCacheEntry)
  | fetched (request : AccountSnapshotRequest) (now : ℕ) (snapshot : AccountSnapshot)
  | answered (request : AccountSnapshotRequest) (now : ℕ) (value : AccountSnapshot)
  | failed (error : GatewayError)

structure GatewayState where
  cache : SnapshotCache
  queries : ℕ → Option QueryPhase

namespace GatewayState

def initial : GatewayState where
  cache := .empty
  queries := fun _ => none

def setQuery (state : GatewayState) (i : ℕ) (phase : QueryPhase) : GatewayState :=
  { state with queries := fun j => if j = i then some phase else state.queries j }

/-- A step of one query; the caller, the clock and the backend choose the rest. -/
inductive Action where
  | start (i : ℕ) (request : AccountSnapshotRequest)
  | readClock (i : ℕ) (now : UInt64)
  | lookUp (i : ℕ)
  | fetch (i : ℕ) (backend : Backend)
  | store (i : ℕ)

def step (config : GatewayConfig) (state : GatewayState) : Action → Option GatewayState
  | .start i request =>
    match state.queries i with
    | none =>
      match validateRequest config request with
      | .ok () => some (state.setQuery i (.started request))
      | .error error => some (state.setQuery i (.failed error))
    | _ => none
  | .readClock i now =>
    match state.queries i with
    | some (.started request) => some (state.setQuery i (.clocked request now.toNat))
    | _ => none
  | .lookUp i =>
    match state.queries i with
    | some (.clocked request now) =>
      let cached := state.cache.get (.fromRequest request)
      match cachedSnapshotResponse request cached now with
      | some value => some (state.setQuery i (.answered request now value))
      | none => some (state.setQuery i (.refreshing request now cached))
    | _ => none
  | .fetch i backend =>
    match state.queries i with
    | some (.refreshing request now cached) =>
      match fetchSnapshot backend request now with
      | .ok snapshot => some (state.setQuery i (.fetched request now snapshot))
      | .error error =>
        match staleSnapshotFallback request cached now with
        | some value => some (state.setQuery i (.answered request now value))
        | none => some (state.setQuery i (.failed error))
    | _ => none
  | .store i =>
    match state.queries i with
    | some (.fetched request now snapshot) =>
      match state.cache.storeSnapshot (.fromRequest request) snapshot
          config.snapshotCacheMaxEntries now with
      | some cache => some ({ state with cache }.setQuery i (.answered request now snapshot))
      | none => none
    | _ => none

def run (config : GatewayConfig) (actions : List Action) : Option GatewayState :=
  actions.foldlM (step config) initial

end GatewayState

end KrustyKms.Gateway

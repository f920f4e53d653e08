import KrustyKms.Client.Events

/-!
# Resource budgets for untrusted event pagination

The provider is not trusted: it answers each request with any page, or an error, after any time,
or never.
-/

namespace KrustyKms.Client

open Crypto

def eventPageSize : ℕ := 100
def maxEventPages : ℕ := 1000
def maxEventsPerQuery : ℕ := 100000
def maxEventBytesPerQuery : ℕ := 32 * 1024 * 1024
def maxContinuationTokenBytes : ℕ := 4 * 1024
def eventQueryTimeout : ℕ := 60000

def checkedAddUsize (a b : ℕ) : Option ℕ := if a + b < 2 ^ 64 then some (a + b) else none

structure EventPaginationBudget where
  pages : ℕ
  events : ℕ
  eventBytes : ℕ
  seenTokens : List String

instance inhabitedBudget : Inhabited EventPaginationBudget := ⟨⟨0, 0, 0, []⟩⟩

structure EventsPage where
  events : List EmittedEvent
  continuationToken : Option String
deriving DecidableEq

namespace EventPaginationBudget

def startPage (budget : EventPaginationBudget) : Result EventPaginationBudget :=
  if maxEventPages ≤ budget.pages then
    .error (.rpcError s!"event pagination exceeded the {maxEventPages} page limit")
  else .ok { budget with pages := budget.pages + 1 }

end EventPaginationBudget

/-- The chunks that `serde_json::to_writer` writes for a page, or its error. -/
abbrev JsonWriter := List EmittedEvent → Except String (List Bytes)

variable (toWriter : JsonWriter)

def countingWrite (count : ℕ) (bytes : Bytes) : Except String ℕ :=
  match checkedAddUsize count bytes.length with
  | some count => .ok count
  | none => .error "serialized event size overflowed"

def serializedSize (events : List EmittedEvent) : Result ℕ :=
  (do
    let chunks ← toWriter events
    chunks.foldlM countingWrite 0).mapError fun error =>
      .rpcError s!"failed to size event page: {error}"

def EventPaginationBudget.acceptPage (budget : EventPaginationBudget) (events : List EmittedEvent)
    (nextToken : Option String) : Result (Option String × EventPaginationBudget) := do
  let total ← (checkedAddUsize budget.events events.length).elim
    (throw (.rpcError "event pagination count overflowed")) pure
  if total > maxEventsPerQuery then
    throw (.rpcError s!"event query exceeded the {maxEventsPerQuery} event limit")
  let pageBytes ← serializedSize toWriter events
  let totalBytes ← (checkedAddUsize budget.eventBytes pageBytes).elim
    (throw (.rpcError "event pagination byte count overflowed")) pure
  if totalBytes > maxEventBytesPerQuery then
    throw (.rpcError s!"event query exceeded the {maxEventBytesPerQuery} serialized-byte limit")
  let budget := { budget with events := total, eventBytes := totalBytes }
  match nextToken with
  | none => pure (none, budget)
  | some token => do
    if token.utf8ByteSize > maxContinuationTokenBytes then
      throw (.rpcError
        s!"event continuation token exceeds the {maxContinuationTokenBytes} byte limit")
    if token ∈ budget.seenTokens then
      throw (.rpcError "RPC repeated an event continuation token")
    pure (some token, { budget with seenTokens := token :: budget.seenTokens })

/-! ## Fetching -/

/-- An answer of the provider and the time it takes; without a time it never comes. An error is
its redacted text. -/
structure Reply where
  elapsed : Option ℕ
  page : Except String EventsPage

inductive BlockId where
  | number (block : UInt64)
  | latest
deriving DecidableEq, Repr

structure EventFilter where
  fromBlock : Option BlockId
  toBlock : Option BlockId
  address : Option Felt
  keys : Option (List (List Felt))
deriving DecidableEq

/-- What the provider answers to the `n`-th request of a query for a filter, with the continuation
token and the page size of the request. -/
abbrev Provider := ℕ → EventFilter → Option String → ℕ → Reply

variable (provider : Provider) (filter : EventFilter)

structure FetchState where
  allEvents : List EmittedEvent
  continuationToken : Option String
  budget : EventPaginationBudget
  now : ℕ
  requests : List (Option String)
  accepted : List EventsPage

inductive Progress where
  | more
  | done
  | failed (error : KmsError)
deriving DecidableEq

def deadlineError : KmsError :=
  .timeout s!"event query exceeded its {eventQueryTimeout}ms deadline"

def fetchStep (deadline : ℕ) (st : FetchState) : FetchState × Progress :=
  match st.budget.startPage with
  | .error error => (st, .failed error)
  | .ok budget =>
    let remaining := deadline - st.now
    if remaining = 0 then (st, .failed deadlineError)
    else
      let reply := provider st.requests.length filter st.continuationToken eventPageSize
      let sent := { st with requests := st.requests ++ [st.continuationToken] }
      match reply.elapsed.filter (· ≤ remaining) with
      | none => ({ sent with now := deadline }, .failed deadlineError)
      | some elapsed =>
        let answered := { sent with now := st.now + elapsed }
        match reply.page with
        | .error message => (answered, .failed (.rpcError message))
        | .ok page =>
          match budget.acceptPage toWriter page.events page.continuationToken with
          | .error error => (answered, .failed error)
          | .ok (nextToken, budget) =>
            ({ answered with
              allEvents := st.allEvents ++ page.events
              continuationToken := nextToken
              budget
              accepted := st.accepted ++ [page] },
              if nextToken.isSome then .more else .done)

def fetchLoop (deadline : ℕ) : ℕ → FetchState → Option (FetchState × Result (List EmittedEvent))
  | 0, _ => none
  | fuel + 1, st =>
    match fetchStep toWriter provider filter deadline st with
    | (st, .more) => fetchLoop deadline fuel st
    | (st, .done) => some (st, .ok st.allEvents)
    | (st, .failed error) => some (st, .error error)

def eventFilter (contractAddress : Felt) (keys : List (List Felt))
    (fromBlock toBlock : Option UInt64) : EventFilter where
  fromBlock := fromBlock.map .number
  toBlock := (toBlock.map .number).or (some .latest)
  address := some contractAddress
  keys := some keys

/-- Fetch raw events matching the given keys within fixed resource budgets, from a time on. -/
def fetchEvents (contractAddress : Felt) (keys : List (List Felt))
    (fromBlock toBlock : Option UInt64) (start fuel : ℕ) :
    Option (FetchState × Result (List EmittedEvent)) :=
  fetchLoop toWriter provider (eventFilter contractAddress keys fromBlock toBlock)
    (start + eventQueryTimeout) fuel ⟨[], none, default, start, [], []⟩

end KrustyKms.Client

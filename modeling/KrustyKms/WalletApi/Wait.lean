import KrustyKms.Common.FeltText

/-!
# Waiting for a transaction

`Tx::wait` polls the provider until the transaction is accepted, reverted, or the deadline has
passed.
-/

namespace KrustyKms.WalletApi

open Crypto

/-! ## Provider errors -/

structure HttpError where
  isTimeout : Bool
  isConnect : Bool
  status : Option UInt16
  isDecode : Bool
deriving DecidableEq, Repr

/-- The errors of the JSON-RPC client over the bounded transport. -/
inductive ClientError where
  | jsonError
  | transportJson
  | jsonRpcError (code : Int)
  | transportBatchError (code : Int)
  | transportReqwest (http : HttpError)
  | transportResponseTooLarge (limit : UInt64)
  | transportUnexpectedResponseId
  | transportInvalidNumericResponseId
deriving DecidableEq, Repr

/-- Typed errors come with their texts; another error may not be one of the client. -/
inductive ProviderError where
  | transactionHashNotFound (text : String)
  | typed (text : String)
  | other (inner : Option ClientError)
deriving DecidableEq, Repr

def transportErrorKind : Option ClientError → String
  | none => "other"
  | some .jsonError | some .transportJson => "decode"
  | some (.jsonRpcError code) | some (.transportBatchError code) => s!"json-rpc code {code}"
  | some (.transportReqwest http) =>
    if http.isTimeout then "timeout"
    else if http.isConnect then "connect"
    else match http.status with
      | some status => s!"status {status}"
      | none => if http.isDecode then "decode" else "other"
  | some (.transportResponseTooLarge limit) => s!"response exceeds {limit} bytes"
  | some .transportUnexpectedResponseId | some .transportInvalidNumericResponseId => "other"

def providerErrorMessage : ProviderError → String
  | .other inner => "provider transport error: " ++ transportErrorKind inner
  | .transactionHashNotFound text | .typed text => text

def isTransactionHashNotFound : ProviderError → Bool
  | .transactionHashNotFound _ => true
  | _ => false

/-! ## Receipts -/

inductive ExecutionResult where
  | succeeded
  | reverted (reason : String)
deriving DecidableEq, Repr

inductive TransactionFinalityStatus where
  | preConfirmed
  | acceptedOnL2
  | acceptedOnL1
deriving DecidableEq, Repr

structure TransactionReceipt where
  transactionHash : Felt
  finalityStatus : TransactionFinalityStatus
  executionResult : ExecutionResult
deriving DecidableEq

inductive TransactionStatus where
  | received
  | candidate
  | preConfirmed (execution : ExecutionResult)
  | acceptedOnL2 (execution : ExecutionResult)
  | acceptedOnL1 (execution : ExecutionResult)
deriving DecidableEq, Repr

inductive ReceiptObservation where
  | pending
  | acceptedWithoutReceipt
  | accepted (receipt : TransactionReceipt)
  | reverted (reason : String)
deriving DecidableEq

def classifyExecution (finalityStatus : TransactionFinalityStatus)
    (executionResult : ExecutionResult) (receipt : Option TransactionReceipt) :
    ReceiptObservation :=
  match executionResult with
  | .reverted reason => .reverted reason
  | .succeeded =>
    match finalityStatus with
    | .preConfirmed => .pending
    | .acceptedOnL2 | .acceptedOnL1 =>
      match receipt with
      | some receipt => .accepted receipt
      | none => .acceptedWithoutReceipt

def classifyReceipt (receipt : TransactionReceipt) : ReceiptObservation :=
  classifyExecution receipt.finalityStatus receipt.executionResult (some receipt)

def classifyTransactionStatus : TransactionStatus → ReceiptObservation
  | .received | .candidate => .pending
  | .preConfirmed execution => classifyExecution .preConfirmed execution none
  | .acceptedOnL2 execution => classifyExecution .acceptedOnL2 execution none
  | .acceptedOnL1 execution => classifyExecution .acceptedOnL1 execution none

/-! ## Polling -/

/-- A call and the time it takes; a call without an answer never returns. -/
abbrev Timed (α : Type) := Option (ℕ × α)

/-- The provider answers the calls of the `n`-th poll. -/
structure TxProvider where
  getTransactionReceipt : ℕ → Felt → Timed (Except ProviderError TransactionReceipt)
  getTransactionStatus : ℕ → Felt → Timed (Except ProviderError TransactionStatus)

def observeTransaction (provider : TxProvider) (n : ℕ) (txHash : Felt) :
    Timed (Result ReceiptObservation) :=
  match provider.getTransactionReceipt n txHash with
  | none => none
  | some (elapsed, .ok receipt) => some (elapsed, .ok (classifyReceipt receipt))
  | some (elapsed, .error receiptError) =>
    match provider.getTransactionStatus n txHash with
    | none => none
    | some (more, .ok status) => some (elapsed + more, .ok (classifyTransactionStatus status))
    | some (more, .error statusError) =>
      if isTransactionHashNotFound receiptError ∧ isTransactionHashNotFound statusError then
        some (elapsed + more, .ok .pending)
      else
        some (elapsed + more, .error (.rpcError
          (s!"failed to query transaction {txHash.toHex}: receipt error: " ++
            s!"{providerErrorMessage receiptError}; " ++
            s!"status error: {providerErrorMessage statusError}")))

def minWaitIntervalSecs : ℕ := 1
def minWaitTimeoutSecs : ℕ := 1
def maxWaitTimeoutSecs : ℕ := 24 * 60 * 60

structure WaitOptions where
  intervalSecs : UInt64
  timeoutSecs : UInt64
deriving DecidableEq, Repr

/-- `WaitOptions::default` -/
instance inhabitedWaitOptions : Inhabited WaitOptions := ⟨⟨5, 120⟩⟩

/-- `(interval_secs, timeout_secs)` actually used by `wait`. -/
def effectiveWaitBounds (options : WaitOptions) : ℕ × ℕ :=
  let timeoutSecs :=
    min (max options.timeoutSecs.toNat minWaitTimeoutSecs) maxWaitTimeoutSecs
  let intervalSecs :=
    min (max options.intervalSecs.toNat minWaitIntervalSecs) (max timeoutSecs minWaitIntervalSecs)
  (intervalSecs, timeoutSecs)

def fromSecs (secs : ℕ) : ℕ := secs * 1000000000

def checkedAddInstant (instant duration : ℕ) : Option ℕ :=
  if instant + duration < fromSecs (2 ^ 63) then some (instant + duration) else none

/-- A submitted transaction that can be polled for acceptance. -/
structure Tx where
  hash : Felt

def Tx.hashHex (tx : Tx) : String := tx.hash.toFixedHex

def Tx.observeReceipt (tx : Tx) (provider : TxProvider) (n : ℕ) :
    Timed (Result ReceiptObservation) :=
  observeTransaction provider n tx.hash

inductive WaitPhase where
  | polling
  /-- A call of the provider never returns. -/
  | stalled
  | returned (result : Result TransactionReceipt)
deriving DecidableEq

/-- The loop, with the number of polls that were started and what they observed. -/
structure WaitState where
  now : ℕ
  polls : ℕ
  observed : List (Result ReceiptObservation)
  phase : WaitPhase
deriving DecidableEq

def Tx.afterPoll (tx : Tx) (interval deadline : ℕ) (observation : Result ReceiptObservation)
    (st : WaitState) : WaitState :=
  match observation with
  | .error error => { st with phase := .returned (.error error) }
  | .ok .pending | .ok .acceptedWithoutReceipt =>
    -- Never sleep past the deadline, whatever the interval.
    { st with now := st.now + min interval (deadline - st.now) }
  | .ok (.accepted receipt) => { st with phase := .returned (.ok receipt) }
  | .ok (.reverted reason) =>
    { st with phase := .returned (.error (.transactionReverted
      s!"transaction {tx.hashHex} reverted: {reason}")) }

def Tx.waitStep (tx : Tx) (provider : TxProvider) (timeoutSecs interval deadline : ℕ)
    (st : WaitState) : WaitState :=
  match st.phase with
  | .stalled | .returned _ => st
  | .polling =>
    if deadline ≤ st.now then
      { st with phase := .returned (.error (.timeout
        s!"Transaction {tx.hashHex} not accepted within {timeoutSecs}s")) }
    else
      match tx.observeReceipt provider st.polls with
      | none => { st with polls := st.polls + 1, phase := .stalled }
      | some (elapsed, observation) =>
        tx.afterPoll interval deadline observation
          { st with
            now := st.now + elapsed
            polls := st.polls + 1
            observed := st.observed ++ [observation] }

def Tx.waitUntil (tx : Tx) (provider : TxProvider) (intervalSecs timeoutSecs start rounds : ℕ) :
    Option ℕ → WaitState
  | none => ⟨start, 0, [], .returned (.error (.timeout
      s!"wait deadline of {timeoutSecs}s overflows the clock"))⟩
  | some deadline =>
    (tx.waitStep provider timeoutSecs (fromSecs intervalSecs) deadline)^[rounds]
      ⟨start, 0, [], .polling⟩

/-- Wait for the transaction to be accepted successfully and return its receipt: the state after
so many rounds. -/
def Tx.wait (tx : Tx) (provider : TxProvider) (options : Option WaitOptions) (start rounds : ℕ) :
    WaitState :=
  let bounds := effectiveWaitBounds (options.getD default)
  tx.waitUntil provider bounds.1 bounds.2 start rounds
    (checkedAddInstant start (fromSecs bounds.2))

end KrustyKms.WalletApi

import Mathlib.Algebra.Ring.Nat
import Mathlib.Data.List.Sort

/-!
# Tracked operations of the gateway

A bounded store of the last status of each operation. Every call first marks the operations
that were not updated for longer than the retention time, then drops entries down to the
limit: the marked ones first, and the oldest first among equals.
-/

namespace KrustyKms.Gateway

/-! ## Domain types -/

/-- A felt as `0x` and 64 lowercase digits. -/
structure FeltHex where
  text : String
deriving DecidableEq

inductive GatewayErrorCode where
  | undeployed
  | notFound
  | providerTransport
  | insufficientBalance
  | insufficientFee
  | nonceMismatch
  | invalidRequest
  | invalidClassHash
  | constructorCalldataMismatch
  | invalidDerivationPath
  | invalidCachePolicy
  | invalidWaitPolicy
  | unsupportedKeyDomain
  | unsupportedAccountClass
  | chainMismatch
  | unsupportedProtocolVersion
  | unsupportedSigningDomain
  | cacheUnavailable
  | cacheStale
  | rpcDegraded
  | timeout
  | secretUnavailable
  | internal
deriving DecidableEq

structure GatewayError where
  code : GatewayErrorCode
  retryable : Bool
  message : Option String
deriving DecidableEq

structure OperationId where
  value : String
deriving DecidableEq

inductive OperationKind where
  | deriveAccount
  | checkDeployment
  | deployAccount
  | sign
  | queryAccountSnapshot
deriving DecidableEq

inductive OperationState where
  | queued
  | running
  | completed
  | submitted (txHash : FeltHex)
  | accepted (txHash : FeltHex)
  | rejected (error : GatewayError)
  | expired
deriving DecidableEq

/-- Status of one tracked operation. The provenance is carried along and never read. -/
structure OperationStatus (Provenance : Type) where
  id : OperationId
  kind : OperationKind
  state : OperationState
  provenance : Option Provenance

inductive OperationRetentionError where
  | zeroTtl
  | zeroMaxEntries
deriving DecidableEq

structure OperationRetentionPolicy where
  ttlMs : ℕ
  maxEntries : ℕ
deriving DecidableEq

def OperationRetentionPolicy.new (ttlMs maxEntries : ℕ) :
    Except OperationRetentionError OperationRetentionPolicy :=
  if ttlMs = 0 then .error .zeroTtl
  else if maxEntries = 0 then .error .zeroMaxEntries
  else .ok { ttlMs, maxEntries }

/-! ## The store -/

variable {Provenance : Type}

structure OperationEntry (Provenance : Type) where
  status : OperationStatus Provenance
  updatedAtMs : ℕ
  revision : ℕ

def OperationEntry.isExpired (entry : OperationEntry Provenance) : Bool :=
  entry.status.state = .expired

structure OperationStore (Provenance : Type) where
  retention : OperationRetentionPolicy
  entries : List (OperationId × OperationEntry Provenance)
  nextRevision : ℕ

namespace OperationStore

def new (retention : OperationRetentionPolicy) : OperationStore Provenance where
  retention := retention
  entries := []
  nextRevision := 1

def expire (ttlMs nowMs : ℕ) (entry : OperationEntry Provenance) : OperationEntry Provenance :=
  if entry.isExpired then entry
  else if ttlMs < nowMs - entry.updatedAtMs then
    { entry with status := { entry.status with state := .expired } }
  else entry

structure Age where
  id : OperationId
  active : Bool
  revision : ℕ
deriving DecidableEq

def Age.Le (a b : Age) : Prop :=
  a.active = false ∧ b.active = true ∨ a.active = b.active ∧ a.revision ≤ b.revision

instance Age.decidableLe : DecidableRel Age.Le := fun a b =>
  inferInstanceAs (Decidable
    (a.active = false ∧ b.active = true ∨ a.active = b.active ∧ a.revision ≤ b.revision))

instance Age.isTrans : IsTrans Age Age.Le where
  trans a b c hab hbc := by
    unfold Age.Le at *
    grind

instance Age.total : Std.Total Age.Le where
  total a b := by
    unfold Age.Le
    cases a.active <;> cases b.active <;> simp <;> omega

def age (entry : OperationId × OperationEntry Provenance) : Age where
  id := entry.1
  active := !entry.2.isExpired
  revision := entry.2.revision

def evict (maxEntries : ℕ) (entries : List (OperationId × OperationEntry Provenance)) :
    List (OperationId × OperationEntry Provenance) :=
  if entries.length ≤ maxEntries then entries
  else
    let byAge := (entries.map age).insertionSort Age.Le
    let removed := (byAge.take (entries.length - maxEntries)).map Age.id
    entries.filter fun entry => entry.1 ∉ removed

def prune (store : OperationStore Provenance) (nowMs : ℕ) : OperationStore Provenance :=
  let marked := store.entries.map fun entry =>
    (entry.1, expire store.retention.ttlMs nowMs entry.2)
  { store with entries := evict store.retention.maxEntries marked }

def get (store : OperationStore Provenance) (id : OperationId) (nowMs : ℕ) :
    Option (OperationStatus Provenance) × OperationStore Provenance :=
  let pruned := store.prune nowMs
  ((pruned.entries.lookup id).map OperationEntry.status, pruned)

def insert (store : OperationStore Provenance) (status : OperationStatus Provenance)
    (nowMs : ℕ) : OperationStore Provenance :=
  let entry : OperationEntry Provenance :=
    { status, updatedAtMs := nowMs, revision := store.nextRevision }
  prune
    { store with
      nextRevision := min (store.nextRevision + 1) (2 ^ 64 - 1)
      entries := (status.id, entry) :: store.entries.filter fun other => other.1 ≠ status.id }
    nowMs

/-! ## Histories of calls -/

inductive Call (Provenance : Type) where
  | get (id : OperationId)
  | insert (status : OperationStatus Provenance)

def apply (store : OperationStore Provenance) (call : Call Provenance × ℕ) :
    OperationStore Provenance :=
  match call.1 with
  | .get id => (store.get id call.2).2
  | .insert status => store.insert status call.2

def run (retention : OperationRetentionPolicy) (calls : List (Call Provenance × ℕ)) :
    OperationStore Provenance :=
  calls.foldl apply (new retention)

end OperationStore

end KrustyKms.Gateway

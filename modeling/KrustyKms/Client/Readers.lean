import KrustyKms.Client.Events
import KrustyKms.Client.Multisig
import KrustyKms.Common.Amount
import KrustyKms.Sdk.Serialization
import KrustyKms.Support.MayPanic

/-!
# Reading the replies of RPC calls

The multisig readers, the kinds of Tongo events, and the staking position, each over the felts
that the provider returned.
-/

namespace KrustyKms.Client

open Codec Crypto Support

/-! ## Multisig -/

def readFelt (result : List Felt) (name : String) : Result Felt :=
  match result.head? with
  | some felt => .ok felt
  | none => .error (.deserializationError s!"empty response from {name}")

def readBool (result : List Felt) (name : String) : Result Bool := do
  let felt ← readFelt result name
  pure (felt ≠ 0)

def readU32 (result : List Felt) (name : String) : Result UInt32 := do
  let felt ← readFelt result name
  pure (UInt32.ofNat (lowBytes felt 28))

def readU64 (result : List Felt) (name : String) : Result UInt64 := do
  let felt ← readFelt result name
  pure (UInt64.ofNat (lowBytes felt 24))

def readUsize (felt : Felt) : ℕ := lowBytes felt 24

def readAddressSpan (result : List Felt) (name : String) : MayPanic KmsError (List Address) :=
  match result with
  | [] => throw (.deserializationError s!"empty response from {name}")
  | first :: rest => do
    let count := readUsize first
    let expected ← MayPanic.orPanic (if count + 1 < 2 ^ 64 then some (count + 1) else none)
    if result.length ≠ expected then
      throw (.deserializationError
        s!"unexpected {name} response length: expected {expected}, got {result.length}")
    pure (rest.map Address.mk)

inductive MultisigTransactionState where
  | notFound
  | pending
  | confirmed
  | executed
deriving DecidableEq, Repr

def readTransactionState (result : List Felt) : Result MultisigTransactionState := do
  let value ← readU32 result "get_transaction_state"
  match value.toNat with
  | 0 => pure .notFound
  | 1 => pure .pending
  | 2 => pure .confirmed
  | 3 => pure .executed
  | value => throw (.deserializationError s!"unknown multisig transaction state {value}")

/-! ## Events -/

variable {Point : Type} [CurvePoint Point]

inductive EventKind where
  | fund
  | outsideFund
  | withdraw
  | ragequit
  | rollover
  | transfer
  | balanceDeclared
  | transferDeclared
deriving DecidableEq, Repr

def parseEvent (kind : EventKind) (e : EmittedEvent) : Result (TongoEvent Point) :=
  match kind with
  | .fund => (parseFundEvent e).map .fund
  | .outsideFund => (parseOutsideFundEvent e).map .outsideFund
  | .withdraw => (parseWithdrawEvent e).map .withdraw
  | .ragequit => (parseRagequitEvent e).map .ragequit
  | .rollover => (parseRolloverEvent e).map .rollover
  | .transfer => (parseTransferEvent e).map .transfer
  | .balanceDeclared => (parseBalanceDeclaredEvent e).map .balanceDeclared
  | .transferDeclared => (parseTransferDeclaredEvent e).map .transferDeclared

/-! ## Staking -/

structure PoolPosition where
  rewardAddress : Address
  amount : Amount
  unclaimedRewards : Amount
  commission : UInt16
deriving DecidableEq

def feltToU16 (felt : Felt) : UInt16 := UInt16.ofNat (lowBytes felt 30)

def parsePositionAmount (low high : Felt) (field : String) (decimals : UInt8) : Result Amount :=
  match Sdk.u256ToU128 low high with
  | .ok raw => .ok ⟨Fin.ofNat (2 ^ 128) raw, decimals⟩
  | .error _ => .error (.stakingError s!"pool_member_info {field} exceeds supported u128 range")

def readPosition (result : List Felt) (decimals : UInt8) : Result PoolPosition :=
  match result with
  | reward :: amountLow :: amountHigh :: rewardsLow :: rewardsHigh :: commission :: _ => do
    let amount ← parsePositionAmount amountLow amountHigh "amount" decimals
    let unclaimedRewards ←
      parsePositionAmount rewardsLow rewardsHigh "unclaimed_rewards" decimals
    pure ⟨⟨reward⟩, amount, unclaimedRewards, feltToU16 commission⟩
  | _ => .error (.stakingError "Unexpected pool_member_info response length")

end KrustyKms.Client

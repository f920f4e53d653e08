import KrustyKms.Client.Pagination
import KrustyKms.Client.Readers
import Mathlib.Data.List.Sort

/-!
# Tongo event reader

Each getter asks the provider for the events of one kind that have the key at one place, and
parses them. `getAllEvents` runs all of them and sorts what they return.
-/

namespace KrustyKms.Client

open Crypto

namespace TongoEvents

variable [StarknetKeccak]

def eventSelector (name : String) : Felt := StarknetKeccak.hash (utf8 name)

def fundEvent : Felt := eventSelector "FundEvent"
def outsideFundEvent : Felt := eventSelector "OutsideFundEvent"
def rolloverEvent : Felt := eventSelector "RolloverEvent"
def transferEvent : Felt := eventSelector "TransferEvent"
def withdrawEvent : Felt := eventSelector "WithdrawEvent"
def ragequitEvent : Felt := eventSelector "RagequitEvent"
def balanceDeclaredEvent : Felt := eventSelector "BalanceDeclaredEvent"
def transferDeclaredEvent : Felt := eventSelector "TransferDeclaredEvent"

end TongoEvents

variable {Point : Type} [CurvePoint Point]

def pointToRsFelts (point : Point) : Result (Felt × Felt) :=
  match toAffine point with
  | some affine => .ok (affine.x, affine.y)
  | none => .error (.cryptoError "Invalid public key")

structure TongoEventReader where
  contractAddress : Felt
  provider : Provider

namespace TongoEventReader

-- A query starts at a time; it is still running when the rounds do not suffice.
variable (reader : TongoEventReader) (toWriter : JsonWriter) (start fuel : ℕ)
variable (pubKey : Point) (fromBlock toBlock : Option UInt64)

def getEvents {α : Type} (parse : EmittedEvent → Result α)
    (pattern : Felt → Felt → List (List Felt)) : Option (Result (List α)) :=
  match pointToRsFelts pubKey with
  | .error error => some (.error error)
  | .ok (kx, ky) =>
    (fetchEvents toWriter reader.provider reader.contractAddress (pattern kx ky) fromBlock toBlock
      start fuel).map fun run => do
        let raw ← run.2
        raw.mapM parse

def firstAccount (selector kx ky : Felt) : List (List Felt) := [[selector], [kx], [ky]]

def secondAccount (selector kx ky : Felt) : List (List Felt) := [[selector], [], [], [kx], [ky]]

variable [StarknetKeccak]

def getFundEvents : Option (Result (List (FundEvent Point))) :=
  reader.getEvents toWriter start fuel pubKey fromBlock toBlock parseFundEvent
    (firstAccount TongoEvents.fundEvent)

def getOutsideFundEvents : Option (Result (List (OutsideFundEvent Point))) :=
  reader.getEvents toWriter start fuel pubKey fromBlock toBlock parseOutsideFundEvent
    (firstAccount TongoEvents.outsideFundEvent)

def getWithdrawEvents : Option (Result (List (ExitEvent Point))) :=
  reader.getEvents toWriter start fuel pubKey fromBlock toBlock parseWithdrawEvent
    (firstAccount TongoEvents.withdrawEvent)

def getRagequitEvents : Option (Result (List (ExitEvent Point))) :=
  reader.getEvents toWriter start fuel pubKey fromBlock toBlock parseRagequitEvent
    (firstAccount TongoEvents.ragequitEvent)

def getRolloverEvents : Option (Result (List (RolloverEvent Point))) :=
  reader.getEvents toWriter start fuel pubKey fromBlock toBlock parseRolloverEvent
    (firstAccount TongoEvents.rolloverEvent)

def getTransferInEvents : Option (Result (List (TransferEvent Point))) :=
  reader.getEvents toWriter start fuel pubKey fromBlock toBlock parseTransferEvent
    (firstAccount TongoEvents.transferEvent)

def getTransferOutEvents : Option (Result (List (TransferEvent Point))) :=
  -- Sender keys are at positions 3,4 (skip to.x, to.y)
  reader.getEvents toWriter start fuel pubKey fromBlock toBlock parseTransferEvent
    (secondAccount TongoEvents.transferEvent)

def getBalanceDeclaredEvents : Option (Result (List (BalanceDeclaredEvent Point))) :=
  reader.getEvents toWriter start fuel pubKey fromBlock toBlock parseBalanceDeclaredEvent
    (firstAccount TongoEvents.balanceDeclaredEvent)

def getTransferDeclaredFromEvents : Option (Result (List (TransferDeclaredEvent Point))) :=
  reader.getEvents toWriter start fuel pubKey fromBlock toBlock parseTransferDeclaredEvent
    (firstAccount TongoEvents.transferDeclaredEvent)

def getTransferDeclaredToEvents : Option (Result (List (TransferDeclaredEvent Point))) :=
  reader.getEvents toWriter start fuel pubKey fromBlock toBlock parseTransferDeclaredEvent
    (secondAccount TongoEvents.transferDeclaredEvent)

end TongoEventReader

def blockLe : Option UInt64 → Option UInt64 → Bool
  | none, _ => true
  | some _, none => false
  | some a, some b => a ≤ b

def NewestFirst (a b : TongoEvent Point) : Prop := blockLe b.blockNumber a.blockNumber = true

instance decidableNewestFirst (a b : TongoEvent Point) : Decidable (NewestFirst a b) :=
  inferInstanceAs (Decidable (blockLe b.blockNumber a.blockNumber = true))

def TongoEventReader.getAllEvents [StarknetKeccak] (reader : TongoEventReader)
    (toWriter : JsonWriter) (start fuel : ℕ) (pubKey : Point) (fromBlock toBlock : Option UInt64) :
    Option (Result (List (TongoEvent Point))) := do
  -- `tokio::join!` waits for all the queries.
  let fund ← reader.getFundEvents toWriter start fuel pubKey fromBlock toBlock
  let outsideFund ← reader.getOutsideFundEvents toWriter start fuel pubKey fromBlock toBlock
  let withdraw ← reader.getWithdrawEvents toWriter start fuel pubKey fromBlock toBlock
  let ragequit ← reader.getRagequitEvents toWriter start fuel pubKey fromBlock toBlock
  let rollover ← reader.getRolloverEvents toWriter start fuel pubKey fromBlock toBlock
  let transferIn ← reader.getTransferInEvents toWriter start fuel pubKey fromBlock toBlock
  let transferOut ← reader.getTransferOutEvents toWriter start fuel pubKey fromBlock toBlock
  let balanceDeclared ←
    reader.getBalanceDeclaredEvents toWriter start fuel pubKey fromBlock toBlock
  let transferDeclaredFrom ←
    reader.getTransferDeclaredFromEvents toWriter start fuel pubKey fromBlock toBlock
  let transferDeclaredTo ←
    reader.getTransferDeclaredToEvents toWriter start fuel pubKey fromBlock toBlock
  let all : Result (List (TongoEvent Point)) := do
    pure ((← fund).map .fund ++ (← outsideFund).map .outsideFund ++ (← withdraw).map .withdraw ++
      (← ragequit).map .ragequit ++ (← rollover).map .rollover ++ (← transferIn).map .transfer ++
      (← transferOut).map .transfer ++ (← balanceDeclared).map .balanceDeclared ++
      (← transferDeclaredFrom).map .transferDeclared ++
      (← transferDeclaredTo).map .transferDeclared)
  -- The sort is stable.
  some (all.map (List.insertionSort NewestFirst))

end KrustyKms.Client

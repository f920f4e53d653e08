import KrustyKms.Crypto.Curve

/-!
# Tongo events and their parsers

The typed events of the Tongo contract, and the parsers that read them from the keys and the data
of an emitted event.
-/

namespace KrustyKms.Client

open Codec Crypto

variable {Point : Type} [CurvePoint Point]

structure EmittedEvent where
  fromAddress : Felt
  keys : List Felt
  data : List Felt
  blockHash : Option Felt
  blockNumber : Option UInt64
  transactionHash : Felt
  transactionIndex : UInt64
  eventIndex : UInt64
deriving DecidableEq

structure EventMetadata where
  blockNumber : Option UInt64
  txHash : Felt
deriving DecidableEq

def metadataOf (e : EmittedEvent) : EventMetadata := ⟨e.blockNumber, e.transactionHash⟩

structure CipherBalance (Point : Type) where
  l : Point
  r : Point
deriving DecidableEq

structure AEBalance where
  ciphertext : Vector UInt8 64
  nonce : Vector UInt8 24
deriving DecidableEq

/-! ## Typed events -/

structure FundEvent (Point : Type) where
  metadata : EventMetadata
  recipient : Point
  nonce : UInt64
  sender : Felt
  amount : Fin (2 ^ 128)
deriving DecidableEq

structure OutsideFundEvent (Point : Type) where
  metadata : EventMetadata
  recipient : Point
  sender : Felt
  amount : Fin (2 ^ 128)
deriving DecidableEq

structure ExitEvent (Point : Type) where
  metadata : EventMetadata
  sender : Point
  nonce : UInt64
  amount : Fin (2 ^ 128)
  recipient : Felt
deriving DecidableEq

structure RolloverEvent (Point : Type) where
  metadata : EventMetadata
  recipient : Point
  nonce : UInt64
  rollovered : CipherBalance Point
deriving DecidableEq

structure TransferEvent (Point : Type) where
  metadata : EventMetadata
  recipient : Point
  sender : Point
  nonce : UInt64
  transferBalance : CipherBalance Point
  transferBalanceSelf : CipherBalance Point
  hintTransfer : AEBalance
  hintLeftover : AEBalance
deriving DecidableEq

structure BalanceDeclaredEvent (Point : Type) where
  metadata : EventMetadata
  sender : Point
  nonce : UInt64
  auditorPubKey : Point
  declaredCipherBalance : CipherBalance Point
  hint : AEBalance
deriving DecidableEq

structure TransferDeclaredEvent (Point : Type) where
  metadata : EventMetadata
  sender : Point
  recipient : Point
  nonce : UInt64
  auditorPubKey : Point
  declaredCipherBalance : CipherBalance Point
  hint : AEBalance
deriving DecidableEq

inductive TongoEvent (Point : Type) where
  | fund (event : FundEvent Point)
  | outsideFund (event : OutsideFundEvent Point)
  | withdraw (event : ExitEvent Point)
  | ragequit (event : ExitEvent Point)
  | rollover (event : RolloverEvent Point)
  | transfer (event : TransferEvent Point)
  | balanceDeclared (event : BalanceDeclaredEvent Point)
  | transferDeclared (event : TransferDeclaredEvent Point)
deriving DecidableEq

def TongoEvent.blockNumber : TongoEvent Point → Option UInt64
  | .fund e => e.metadata.blockNumber
  | .outsideFund e => e.metadata.blockNumber
  | .withdraw e => e.metadata.blockNumber
  | .ragequit e => e.metadata.blockNumber
  | .rollover e => e.metadata.blockNumber
  | .transfer e => e.metadata.blockNumber
  | .balanceDeclared e => e.metadata.blockNumber
  | .transferDeclared e => e.metadata.blockNumber

/-! ## Fields -/

def parsePoint (felts : List Felt) (offset : ℕ) : Result Point :=
  match felts[offset]?, felts[offset + 1]? with
  | some x, some y =>
    match CurvePoint.fromAffine x y with
    | some point => .ok point
    | none => .error (.deserializationError "Invalid point in event data")
  | _, _ => .error (.deserializationError "Not enough felts for point")

def parseCipherBalance (felts : List Felt) (offset : ℕ) : Result (CipherBalance Point) := do
  let l ← parsePoint felts offset
  let r ← parsePoint felts (offset + 2)
  pure ⟨l, r⟩

def lowBytes (felt : Felt) (start : ℕ) : ℕ := beValue ((Felt.toBytesBe felt).toList.drop start)

def feltToU128 (felt : Felt) : Fin (2 ^ 128) := Fin.ofNat (2 ^ 128) (lowBytes felt 16)

def feltToU64 (felt : Felt) : UInt64 := UInt64.ofNat (lowBytes felt 24)

def getFelt (felts : List Felt) (index : ℕ) : Result Felt :=
  match felts[index]? with
  | some felt => .ok felt
  | none => .error (.deserializationError
      s!"Event data too short: need index {index}, got {felts.length} elements")

def lowHalf (felt : Felt) : Vector UInt8 16 :=
  Vector.ofFn fun i => (Felt.toBytesBe felt).get ⟨16 + i.val, Nat.add_lt_add_left i.isLt 16⟩

def parseAeBalance (felts : List Felt) (offset : ℕ) : Result AEBalance :=
  match felts.drop offset with
  | c0 :: c1 :: c2 :: c3 :: low :: high :: _ =>
    .ok {
      ciphertext := lowHalf c0 ++ lowHalf c1 ++ lowHalf c2 ++ lowHalf c3
      -- The nonce is 24 bytes followed by 8 zero bytes.
      nonce := lowHalf high ++ (lowHalf low).take 8 }
  | _ => .error (.deserializationError "Not enough felts for AEBalance")

/-! ## Parsers -/

def parseFundEvent (e : EmittedEvent) : Result (FundEvent Point) := do
  let recipient ← parsePoint e.keys 1
  let nonce ← getFelt e.data 0
  let sender ← getFelt e.data 1
  let amount ← getFelt e.data 2
  pure ⟨metadataOf e, recipient, feltToU64 nonce, sender, feltToU128 amount⟩

def parseOutsideFundEvent (e : EmittedEvent) : Result (OutsideFundEvent Point) := do
  let recipient ← parsePoint e.keys 1
  let sender ← getFelt e.data 0
  let amount ← getFelt e.data 1
  pure ⟨metadataOf e, recipient, sender, feltToU128 amount⟩

def parseExitEvent (e : EmittedEvent) : Result (ExitEvent Point) := do
  let sender ← parsePoint e.keys 1
  let nonce ← getFelt e.data 0
  let amount ← getFelt e.data 1
  let recipient ← getFelt e.data 2
  pure ⟨metadataOf e, sender, feltToU64 nonce, feltToU128 amount, recipient⟩

def parseWithdrawEvent (e : EmittedEvent) : Result (ExitEvent Point) := parseExitEvent e

def parseRagequitEvent (e : EmittedEvent) : Result (ExitEvent Point) := parseExitEvent e

def parseRolloverEvent (e : EmittedEvent) : Result (RolloverEvent Point) := do
  let recipient ← parsePoint e.keys 1
  let nonce ← getFelt e.data 0
  let rollovered ← parseCipherBalance e.data 1
  pure ⟨metadataOf e, recipient, feltToU64 nonce, rollovered⟩

/-- keys: `[selector, to.x, to.y, from.x, from.y]`, data: `[nonce, transfer_balance (4),
transfer_balance_self (4), hint_transfer (6), hint_leftover (6)]` -/
def parseTransferEvent (e : EmittedEvent) : Result (TransferEvent Point) := do
  let recipient ← parsePoint e.keys 1
  let sender ← parsePoint e.keys 3
  let nonce ← getFelt e.data 0
  let transferBalance ← parseCipherBalance e.data 1
  let transferBalanceSelf ← parseCipherBalance e.data 5
  let hintTransfer ← parseAeBalance e.data 9
  let hintLeftover ← parseAeBalance e.data 15
  pure {
    metadata := metadataOf e
    recipient
    sender
    nonce := feltToU64 nonce
    transferBalance
    transferBalanceSelf
    hintTransfer
    hintLeftover }

/-- keys: `[selector, from.x, from.y]`, data: `[nonce, auditor.x, auditor.y, declared (4),
hint (6)]` -/
def parseBalanceDeclaredEvent (e : EmittedEvent) : Result (BalanceDeclaredEvent Point) := do
  let sender ← parsePoint e.keys 1
  let nonce ← getFelt e.data 0
  let auditorPubKey ← parsePoint e.data 1
  let declaredCipherBalance ← parseCipherBalance e.data 3
  let hint ← parseAeBalance e.data 7
  pure ⟨metadataOf e, sender, feltToU64 nonce, auditorPubKey, declaredCipherBalance, hint⟩

/-- keys: `[selector, from.x, from.y, to.x, to.y]`, data: `[nonce, auditor.x, auditor.y,
declared (4), hint (6)]` -/
def parseTransferDeclaredEvent (e : EmittedEvent) : Result (TransferDeclaredEvent Point) := do
  let sender ← parsePoint e.keys 1
  let recipient ← parsePoint e.keys 3
  let nonce ← getFelt e.data 0
  let auditorPubKey ← parsePoint e.data 1
  let declaredCipherBalance ← parseCipherBalance e.data 3
  let hint ← parseAeBalance e.data 7
  pure {
    metadata := metadataOf e
    sender
    recipient
    nonce := feltToU64 nonce
    auditorPubKey
    declaredCipherBalance
    hint }

end KrustyKms.Client

import KrustyKms.Codec.Endian
import KrustyKms.Codec.Parser
import KrustyKms.Common.Crates

/-!
# Bitcoin transaction encoding, txids and the BIP-143 P2WPKH sighash

The strict reader of `tx.rs` and the transaction format over it.
-/

namespace KrustyKms.Bitcoin

open Codec

def sighashAll : UInt8 := 0x01

def malformed (what : String) : KmsError :=
  .deserializationError s!"malformed bitcoin data: {what}"

def doubleSha256 [Sha256] (data : Bytes) : Vector UInt8 32 :=
  Sha256.digest (Sha256.digest data).toList

/-! ## Little-endian integers -/

def u32LeBytes (v : UInt32) : Bytes := leBytes 4 v.toNat

def u64LeBytes (v : UInt64) : Bytes := leBytes 8 v.toNat

def u32FromLeBytes (bs : Bytes) : UInt32 := UInt32.ofNat (leValue bs)

def u64FromLeBytes (bs : Bytes) : UInt64 := UInt64.ofNat (leValue bs)

/-! ## The reader -/

/-- A bounds-checked cursor over untrusted bytes. -/
abbrev Reader := Parser UInt8 KmsError

namespace Reader

def rejectIf (bad : Bool) (error : KmsError) : Reader Unit :=
  if bad then throw error else pure ()

def take (len : ℕ) : Reader Bytes := fun bytes =>
  if len ≤ bytes.length then .ok (bytes.take len, bytes.drop len)
  else .error (malformed s!"needs {len} bytes, {bytes.length} left")

def array (n : ℕ) : Reader (Vector UInt8 n) := do
  let head ← take n
  if h : head.length = n then pure ⟨head.toArray, size_toArray_of_length h⟩
  else throw (malformed s!"needs {n} bytes")

def u32Le : Reader UInt32 := do
  let bytes ← array 4
  pure (u32FromLeBytes bytes.toList)

def uintLe (k : ℕ) : Reader UInt64 := do
  let bytes ← array k
  pure (u64FromLeBytes bytes.toList)

def u64Le : Reader UInt64 := uintLe 8

def startsWith (head : Bytes) : Reader Bool := fun bytes =>
  .ok (head.isPrefixOf bytes, bytes)

def canonical (value minimum : UInt64) : Reader UInt64 := do
  rejectIf (value < minimum) (malformed "non-canonical CompactSize")
  pure value

def compactU64 : Reader UInt64 := do
  let tag ← array 1
  if tag[0] = 0xfd then
    let value ← uintLe 2
    canonical value 0xfd
  else if tag[0] = 0xfe then
    let value ← uintLe 4
    canonical value 0x10000
  else if tag[0] = 0xff then
    let value ← u64Le
    canonical value 0x100000000
  else
    pure tag[0].toUInt64

def compactSize [Target] : Reader ℕ := do
  let value ← compactU64
  match usizeTryFrom value.toNat with
  | some len => pure len
  | none => throw (malformed "CompactSize does not fit in memory")

def varBytes [Target] : Reader Bytes := do
  let len ← compactSize
  take len

def finish : Reader Unit := fun bytes =>
  if bytes.isEmpty then .ok ((), bytes)
  else .error (malformed s!"{bytes.length} trailing bytes")

end Reader

open Reader

/-! ## Writing -/

def writeCompactSize (len : ℕ) : Bytes :=
  let value := UInt64.ofNat len
  if value ≤ 0xfc then [value.toUInt8]
  else if value ≤ 0xffff then 0xfd :: leBytes 2 value.toUInt16.toNat
  else if value ≤ 0xffffffff then 0xfe :: leBytes 4 value.toUInt32.toNat
  else 0xff :: leBytes 8 value.toNat

def writeVarBytes (bytes : Bytes) : Bytes :=
  writeCompactSize bytes.length ++ bytes

/-! ## Transactions -/

/-- A previous output reference; `txid` is in internal (wire) byte order. -/
structure OutPoint where
  txid : Vector UInt8 32
  vout : UInt32
deriving DecidableEq, Repr

def OutPoint.parse : Reader OutPoint := do
  let txid ← array 32
  let vout ← u32Le
  pure { txid, vout }

def OutPoint.serializeInto (outpoint : OutPoint) : Bytes :=
  outpoint.txid.toList ++ u32LeBytes outpoint.vout

structure TxIn where
  previousOutput : OutPoint
  scriptSig : Bytes
  sequence : UInt32
deriving DecidableEq, Repr

structure TxOut where
  value : UInt64
  scriptPubkey : Bytes
deriving DecidableEq, Repr

namespace TxOut

def parse [Target] : Reader TxOut := do
  let value ← u64Le
  let scriptPubkey ← varBytes
  pure { value, scriptPubkey }

def parseExact [Target] (bytes : Bytes) : Result TxOut :=
  StateT.run' (do
    let output ← parse
    finish
    pure output) bytes

def serializeInto (output : TxOut) : Bytes :=
  u64LeBytes output.value ++ writeVarBytes output.scriptPubkey

end TxOut

/-- The transaction-wide part of a BIP-143 SIGHASH_ALL preimage. -/
structure SighashMidstate where
  hashPrevouts : Vector UInt8 32
  hashSequence : Vector UInt8 32
  hashOutputs : Vector UInt8 32
deriving DecidableEq, Repr

structure Transaction where
  version : UInt32
  inputs : List TxIn
  outputs : List TxOut
  lockTime : UInt32
deriving DecidableEq, Repr

def parseInput [Target] : Reader TxIn := do
  let previousOutput ← OutPoint.parse
  let scriptSig ← varBytes
  let sequence ← u32Le
  pure { previousOutput, scriptSig, sequence }

def parseInputs [Target] : Reader (List TxIn) := do
  let count ← compactSize
  Parser.many parseInput count

def parseOutputs [Target] : Reader (List TxOut) := do
  let count ← compactSize
  Parser.many TxOut.parse count

def skipWitnesses [Target] : ℕ → Bool → Reader Bool
  | 0, hasWitness => pure hasWitness
  | inputs + 1, hasWitness => do
    let items ← compactSize
    let _ ← Parser.many varBytes items
    skipWitnesses inputs (hasWitness || decide (0 < items))

namespace Transaction

def parseLegacy [Target] (bytes : Bytes) : Result Transaction :=
  StateT.run' (do
    let version ← u32Le
    let inputs ← parseInputs
    let outputs ← parseOutputs
    let lockTime ← u32Le
    finish
    pure { version, inputs, outputs, lockTime }) bytes

def parseWitnesses [Target] (segwit : Bool) (inputs : List TxIn) : Reader Unit :=
  if segwit then do
    let hasWitness ← skipWitnesses inputs.length false
    rejectIf (!hasWitness) (malformed "superfluous witness record")
  else pure ()

def parseNetwork [Target] (bytes : Bytes) : Result Transaction :=
  StateT.run' (do
    let version ← u32Le
    let segwit ← startsWith [0x00, 0x01]
    let _ ← if segwit then take 2 else pure []
    let inputs ← parseInputs
    let outputs ← parseOutputs
    rejectIf (inputs.isEmpty || outputs.isEmpty)
      (malformed "transaction has no inputs or no outputs")
    parseWitnesses segwit inputs
    let lockTime ← u32Le
    finish
    pure { version, inputs, outputs, lockTime }) bytes

def serializeInput (input : TxIn) : Bytes :=
  input.previousOutput.serializeInto ++ writeVarBytes input.scriptSig ++
    u32LeBytes input.sequence

def serializeLegacy (tx : Transaction) : Bytes :=
  u32LeBytes tx.version ++
    (writeCompactSize tx.inputs.length ++ tx.inputs.flatMap serializeInput) ++
    (writeCompactSize tx.outputs.length ++ tx.outputs.flatMap TxOut.serializeInto) ++
    u32LeBytes tx.lockTime

def txid [Sha256] (tx : Transaction) : Vector UInt8 32 :=
  doubleSha256 tx.serializeLegacy

/-- BIP-143's `hashPrevouts`, `hashSequence` and `hashOutputs` for SIGHASH_ALL,
computed once and shared by every input signed. -/
def sighashMidstate [Sha256] (tx : Transaction) : SighashMidstate where
  hashPrevouts := doubleSha256 (tx.inputs.flatMap fun each => each.previousOutput.serializeInto)
  hashSequence := doubleSha256 (tx.inputs.flatMap fun each => u32LeBytes each.sequence)
  hashOutputs := doubleSha256 (tx.outputs.flatMap TxOut.serializeInto)

def sighashPreimage (tx : Transaction) (midstate : SighashMidstate) (input : TxIn)
    (pubkeyHash : Vector UInt8 20) (amount : UInt64) : Bytes :=
  u32LeBytes tx.version ++
    midstate.hashPrevouts.toList ++
    midstate.hashSequence.toList ++
    input.previousOutput.serializeInto ++
    -- scriptCode for P2WPKH: OP_DUP OP_HASH160 PUSH20 <hash> OP_EQUALVERIFY OP_CHECKSIG
    [0x19, 0x76, 0xa9, 0x14] ++ pubkeyHash.toList ++ [0x88, 0xac] ++
    u64LeBytes amount ++
    u32LeBytes input.sequence ++
    midstate.hashOutputs.toList ++
    u32LeBytes tx.lockTime ++
    u32LeBytes sighashAll.toUInt32

/-- BIP-143 SIGHASH_ALL digest for input `index` spending a P2WPKH output of
`amount` satoshis locked to `pubkeyHash`, given this transaction's midstate. -/
def p2wpkhSighashAll [Sha256] (tx : Transaction) (midstate : SighashMidstate) (index : ℕ)
    (pubkeyHash : Vector UInt8 20) (amount : UInt64) : Result (Vector UInt8 32) :=
  match tx.inputs[index]? with
  | none => .error (malformed s!"no input {index} to sign")
  | some input => .ok (doubleSha256 (tx.sighashPreimage midstate input pubkeyHash amount))

end Transaction

end KrustyKms.Bitcoin

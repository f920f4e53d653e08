import KrustyKms.Bitcoin.Tx
import KrustyKms.Codec.Cursor

/-!
# The QSB vault's strict parser for `T`

`T` is the legacy serialization of the spending transaction with every scriptSig emptied and the
witness omitted.
-/

namespace KrustyKms.QsbHors

open Codec

def maxTransactionSize : ℕ := 50000

def maxMoney : UInt64 := 21000000 * 100000000

def maxStandardTxWeight : ℕ := 400000
def witnessScaleFactor : ℕ := 4
def maxScriptSize : ℕ := 10000
def scriptSigLengthGrowth : ℕ := 3 - 1
def maxP2wpkhWitness : ℕ := 1 + (1 + 73) + (1 + 33)
def segwitMarkerAndFlag : ℕ := 2

def maxUnlockingWeightPerInput : ℕ :=
  witnessScaleFactor * (maxScriptSize + scriptSigLengthGrowth) + maxP2wpkhWitness

def malformed (reason : String) : KmsError :=
  .deserializationError s!"QSB transaction: {reason}"

/-! ## The reader -/

abbrev Reader := Cursor UInt8 KmsError

namespace Reader

def take [Target] (len : UInt64) (field : String) : Reader Bytes := fun bytes pos =>
  match ((usizeTryFrom len.toNat).bind (checkedAdd pos ·)).filter (· ≤ bytes.length) with
  | none => .error (malformed s!"truncated {field} at byte {pos}")
  | some stop => .ok ((bytes.take stop).drop pos, stop)

def array [Target] (n : ℕ) (field : String) : Reader (Vector UInt8 n) := do
  let taken ← take (UInt64.ofNat n) field
  if h : taken.length = n then pure ⟨taken.toArray, size_toArray_of_length h⟩
  -- the `expect` of the source
  else throw (malformed "take returns exactly N bytes")

def canonical (value minimum : UInt64) (field : String) (start : ℕ) : Reader UInt64 :=
  if value < minimum then throw (malformed s!"non-canonical {field} encoding at byte {start}")
  else pure value

def compactSize [Target] (field : String) : Reader UInt64 := do
  let start ← get
  let tag ← array 1 field
  if tag.get ⟨0, Nat.one_pos⟩ = 0xfd then
    let value ← array 2 field
    canonical (Bitcoin.u64FromLeBytes value.toList) 0xfd field start
  else if tag.get ⟨0, Nat.one_pos⟩ = 0xfe then
    let value ← array 4 field
    canonical (Bitcoin.u64FromLeBytes value.toList) 0x10000 field start
  else if tag.get ⟨0, Nat.one_pos⟩ = 0xff then
    let value ← array 8 field
    canonical (Bitcoin.u64FromLeBytes value.toList) 0x100000000 field start
  else
    pure (tag.get ⟨0, Nat.one_pos⟩).toUInt64

end Reader

open Reader

/-! ## The transaction -/

def isNullOutpoint (outpoint : Vector UInt8 36) : Bool :=
  outpoint.toList.take 32 == List.replicate 32 0 && outpoint.toList.drop 32 == List.replicate 4 0xff

def readInputs [Target] : ℕ → ℕ → List (Vector UInt8 36) → Reader Unit
  | 0, _, _ => pure ()
  | rounds + 1, input, outpoints => do
    let outpoint ← array 36 "outpoint"
    if isNullOutpoint outpoint then
      throw (malformed s!"input {input} spends the null outpoint")
    else if outpoints.contains outpoint then
      throw (malformed s!"input {input} repeats an outpoint")
    else do
      let scriptLen ← compactSize "scriptSig length"
      if scriptLen ≠ 0 then
        throw (malformed
          s!"input {input} has a non-empty scriptSig; T requires every scriptSig empty")
      else do
        let _ ← take 4 "sequence"
        readInputs rounds (input + 1) (outpoint :: outpoints)

def inputs [Target] : Reader UInt64 := do
  let count ← compactSize "input count"
  readInputs count.toNat 0 []
  pure count

def readOutputs [Target] : ℕ → ℕ → UInt64 → Reader Unit
  | 0, _, _ => pure ()
  | rounds + 1, output, total => do
    let bytes ← array 8 "output value"
    let value := Bitcoin.u64FromLeBytes bytes.toList
    if value > maxMoney then
      throw (malformed s!"output {output} value exceeds MAX_MONEY")
    else if total + value > maxMoney then
      throw (malformed "output values total more than MAX_MONEY")
    else do
      let scriptLen ← compactSize "scriptPubKey length"
      let _ ← take scriptLen "scriptPubKey"
      readOutputs rounds (output + 1) (total + value)

def outputs [Target] : Reader Unit := do
  let count ← compactSize "output count"
  if count = 0 then throw (malformed "no outputs")
  else readOutputs count.toNat 0 0

def unlockingBudget [Target] (len : ℕ) (inputCount : UInt64) : Result Unit :=
  let worst := (usizeTryFrom inputCount.toNat).bind fun count =>
    (checkedMul count maxUnlockingWeightPerInput).bind fun unlocking =>
    (checkedAdd unlocking segwitMarkerAndFlag).bind fun unlocking =>
    checkedAdd unlocking (witnessScaleFactor * len)
  let refused := malformed
    (s!"T leaves no room for its inputs' unlocking data: {inputCount} inputs " ++
      s!"signed could weigh more than the {maxStandardTxWeight} WU standard limit")
  match worst with
  | some weight => if weight ≤ maxStandardTxWeight then .ok () else .error refused
  | none => .error refused

def refuseMarker : Reader Unit := fun bytes pos =>
  if bytes[pos]? = some 0x00 then .error (malformed
    "segwit marker or empty input list; T must be legacy-serialized with at least one input")
  else .ok ((), pos)

def finish : Reader Unit := fun bytes pos =>
  if pos ≠ bytes.length then
    .error (malformed s!"{bytes.length - pos} trailing bytes after locktime")
  else .ok ((), pos)

def readTransaction [Target] : Reader UInt64 := do
  let _ ← take 4 "version"
  refuseMarker
  let inputCount ← inputs
  outputs
  let _ ← take 4 "locktime"
  finish
  pure inputCount

def validate [Target] (bytes : Bytes) : Result Unit :=
  if bytes.length > maxTransactionSize then
    .error (malformed
      s!"{bytes.length} bytes exceeds the {maxTransactionSize}-byte limit")
  else do
    let (inputCount, _) ← readTransaction bytes 0
    unlockingBudget bytes.length inputCount

end KrustyKms.QsbHors

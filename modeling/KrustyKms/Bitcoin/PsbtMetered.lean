import KrustyKms.Bitcoin.Psbt
import KrustyKms.Codec.Metered

/-!
# The PSBT parser with its loops and its memory

The functions below are those of `tx.rs`, `fields.rs`, `input_rules.rs` and `psbt.rs` on the way
of `Psbt::parse`, with each round of their loops noted as it starts and each vector, buffer and
set entry as it is made; the index and the addition of the source that the language checks may
panic.
-/

namespace KrustyKms.Bitcoin.Counted

open Codec Metered Support
open Reader hiding compactU64 compactSize varBytes

abbrev CountedReader := MeteredParser UInt8 KmsError

/-- Bytes for one more element of a vector or a set, with the room that doubling leaves
unused and the vector it is copied from. -/
def slot : ℕ := 512

def grown (len : ℕ) : ℕ := 3 * len + 8

/-! ## The reader -/

def compactU64 : CountedReader UInt64 := do
  let bytes ← plain (array 1)
  -- `self.array::<1>()?[0]`
  let tag ← (Logged.quiet (MayPanic.orPanic bytes.toList[0]?) : Metered KmsError UInt8)
  if tag = 0xfd then
    let value ← plain (uintLe 2)
    plain (canonical value 0xfd)
  else if tag = 0xfe then
    let value ← plain (uintLe 4)
    plain (canonical value 0x10000)
  else if tag = 0xff then
    let value ← plain u64Le
    plain (canonical value 0x100000000)
  else
    pure tag.toUInt64

def compactSize [Target] : CountedReader ℕ := do
  let value ← compactU64
  match usizeTryFrom value.toNat with
  | some len => pure len
  | none => throw (malformed "CompactSize does not fit in memory")

def varBytes [Target] : CountedReader Bytes := do
  let len ← compactSize
  plain (take len)

def pushed {α : Type} (element : CountedReader α) : CountedReader α := do
  let a ← element
  note (.hold slot)
  pure a

/-! ## Transactions -/

section Transactions
variable [Target]

def parseOutput : CountedReader TxOut := do
  let value ← plain u64Le
  let scriptPubkey ← varBytes
  note (.hold scriptPubkey.length)
  pure { value, scriptPubkey }

def parseExact (bytes : Bytes) : Metered KmsError TxOut :=
  StateT.run' (do
    let output ← parseOutput
    plain finish
    pure output) bytes

def parseInput : CountedReader TxIn := do
  let previousOutput ← plain OutPoint.parse
  let scriptSig ← varBytes
  note (.hold scriptSig.length)
  let sequence ← plain u32Le
  pure { previousOutput, scriptSig, sequence }

def parseInputs : CountedReader (List TxIn) := do
  let count ← compactSize
  many (pushed parseInput) count

def parseOutputs : CountedReader (List TxOut) := do
  let count ← compactSize
  many (pushed parseOutput) count

def skipWitnesses : ℕ → Bool → CountedReader Bool
  | 0, hasWitness => pure hasWitness
  | inputs + 1, hasWitness => do
    note .round
    let items ← compactSize
    let _ ← many varBytes items
    skipWitnesses inputs (hasWitness || decide (0 < items))

def parseLegacy (bytes : Bytes) : Metered KmsError Transaction :=
  StateT.run' (do
    let version ← plain u32Le
    let inputs ← parseInputs
    let outputs ← parseOutputs
    let lockTime ← plain u32Le
    plain finish
    pure { version, inputs, outputs, lockTime }) bytes

def parseWitnesses (segwit : Bool) (inputs : List TxIn) : CountedReader Unit :=
  if segwit then do
    let hasWitness ← skipWitnesses inputs.length false
    plain (rejectIf (!hasWitness) (malformed "superfluous witness record"))
  else pure ()

def parseNetworkBody (version : UInt32) (segwit : Bool) : CountedReader Transaction := do
  let inputs ← parseInputs
  let outputs ← parseOutputs
  plain (rejectIf (inputs.isEmpty || outputs.isEmpty)
    (malformed "transaction has no inputs or no outputs"))
  parseWitnesses segwit inputs
  let lockTime ← plain u32Le
  plain finish
  pure { version, inputs, outputs, lockTime }

def parseNetwork (bytes : Bytes) : Metered KmsError Transaction :=
  StateT.run' (do
    let version ← plain u32Le
    let segwit ← plain (startsWith [0x00, 0x01])
    let _ ← if segwit then plain (take 2) else pure []
    parseNetworkBody version segwit) bytes

end Transactions

def serializeLegacy (tx : Transaction) : Metered KmsError Bytes := do
  let inputs ← writeEach Transaction.serializeInput tx.inputs
  let outputs ← writeEach TxOut.serializeInto tx.outputs
  let out := u32LeBytes tx.version ++ (writeCompactSize tx.inputs.length ++ inputs) ++
    (writeCompactSize tx.outputs.length ++ outputs) ++ u32LeBytes tx.lockTime
  hold (grown out.length)
  pure out

def txid [Sha256] (tx : Transaction) : Metered KmsError (Vector UInt8 32) := do
  let serialized ← serializeLegacy tx
  pure (doubleSha256 serialized)

/-! ## Field checks -/

section Fields
variable [Sha256] [BitcoinHashes] [K256] [Target]

def lookup (scope : Scope) (keyType : UInt64) : Metered KmsError (Option Field) :=
  Metered.find (fun field => field.scope = scope && field.keyType = keyType) fields

def isMasterConsistent (xpub : Bytes) : Metered KmsError Bool :=
  if xpub[4]? != some 0 then pure true
  else if 13 ≤ xpub.length then all (· == 0) ((xpub.drop 5).take 8)
  else pure false

def readProprietaryKey : CountedReader UInt64 := do
  let identifierLen ← compactSize
  let _ ← plain (take identifierLen)
  compactU64

def isProprietaryKey (keyData : Bytes) : Metered KmsError Bool :=
  through (fun parsed => .ok parsed.isOk) (StateT.run' readProprietaryKey keyData)

def keyIsValid (key : KeyData) (keyData : Bytes) : Metered KmsError Bool :=
  match key with
  | .none => pure keyData.isEmpty
  | .hash len => pure (keyData.length = len)
  | .publicKey => pure (isPublicKey keyData)
  | .extendedPublicKey =>
    if keyData.length = 78 && (keyData.take 4 == [0x04, 0x88, 0xb2, 0x1e] ||
        keyData.take 4 == [0x04, 0x35, 0x87, 0xcf]) then do
      let consistent ← isMasterConsistent keyData
      pure (consistent && ((keyData[45]? == some 0x02 || keyData[45]? == some 0x03)
        && isPublicKey (keyData.drop 45)))
    else pure false
  | .proprietary => isProprietaryKey keyData

def readWitnessStack : CountedReader Unit := do
  let items ← compactSize
  let _ ← many varBytes items
  plain finish

def isWitnessStack (value : Bytes) : Metered KmsError Bool :=
  through (fun parsed => .ok parsed.isOk) (StateT.run' readWitnessStack value)

def valueIsValid (field : Field) (keyData value : Bytes) : Metered KmsError Bool :=
  match field.value with
  | .any => pure true
  | .unsignedTransaction => do
    let tx ← through (within field) (parseLegacy value)
    let hasScriptSig ← any (fun input => !input.scriptSig.isEmpty) tx.inputs
    if hasScriptSig then throw (malformed "unsigned transaction has a scriptSig")
    else pure true
  | .transaction =>
    through (fun parsed => (within field parsed).map fun _ => true) (parseNetwork value)
  | .output =>
    through (fun parsed => (within field parsed).map fun _ => true) (parseExact value)
  | .signature => pure (isSignature value)
  | .u32 => pure (value.length = 4)
  | .version =>
    if value.length = 4 && value != [0, 0, 0, 0] then
      throw (malformed "only PSBT version 0 is supported")
    else pure (value.length = 4)
  | .keyOrigin => pure (isKeyOrigin value)
  | .xpubKeyOrigin => pure (isKeyOrigin value &&
      match keyData[4]? with
      | some depth => 1 ≤ value.length / 4 && value.length / 4 - 1 = depth.toNat
      | none => false)
  | .witnessStack => isWitnessStack value
  | .preimage hash => do
    hold (hash value).length
    if hash value ≠ keyData then
      throw (malformed s!"{field.name} preimage does not hash to its key")
    else pure true

def checkValue (field : Field) (keyData value : Bytes) : Metered KmsError Unit := do
  let valid ← valueIsValid field keyData value
  if valid then pure () else throw (malformed s!"{field.name} has a malformed value")

def checkPair (scope : Scope) (keyType : UInt64) (keyData value : Bytes) :
    Metered KmsError Unit :=
  if isVersion2Only scope keyType then
    throw (malformed
      s!"PSBT key type {hex04 keyType} is a PSBT version 2 field, not allowed in version 0")
  else if (scope = .input || scope = .global) && keyType = 0x09 then
    throw (malformed "BIP-127/BIP-322 0x09 fields are unsupported")
  else do
    let found ← lookup scope keyType
    match found with
    | none => pure ()
    | some field =>
      let valid ← keyIsValid field.key keyData
      if !valid then throw (malformed s!"{field.name} has an invalid key")
      else checkValue field keyData value

end Fields

/-! ## Maps -/

def find (map : Map) (keyType : UInt8) : Metered KmsError (Option Bytes) := do
  let pair ← Metered.find (fun pair => pair.key = [keyType]) map
  pure (pair.map Pair.value)

section Parsing
variable [Sha256] [BitcoinHashes] [K256] [Target]

def readPairs (scope : Scope) : ℕ → List (UInt64 × Bytes) → CountedReader Map
  | 0, _ => throw (malformed "PSBT map does not end")
  | rounds + 1, keys => do
    note .round
    let key ← varBytes
    if key.isEmpty then pure []
    else
      let (keyType, keyData) ← (compactU64 key : Metered KmsError (UInt64 × Bytes))
      note (.hold slot)
      plain (rejectIf (keys.contains (keyType, keyData)) (malformed "PSBT map repeats a key"))
      let value ← varBytes
      checkPair scope keyType keyData value
      note (.hold (key.length + value.length + slot))
      let map ← readPairs scope rounds ((keyType, keyData) :: keys)
      pure ({ key, value } :: map)

def readMap (scope : Scope) : CountedReader Map := fun bytes =>
  readPairs scope (bytes.length + 1) [] bytes

def requireSpentTransaction (index : ℕ) (outpoint : OutPoint) (map : Map) :
    Metered KmsError Unit := do
  let found ← find map inNonWitnessUtxo
  match found with
  | none => pure ()
  | some bytes =>
    let previousTx ← parseNetwork bytes
    let previousTxid ← txid previousTx
    if previousTxid ≠ outpoint.txid then
      throw (malformed
        s!"PSBT input {index}: non_witness_utxo is not the transaction this input spends")
    else if (usizeTryFrom outpoint.vout.toNat).all (previousTx.outputs.length ≤ ·) then
      throw (malformed
        s!"PSBT input {index}: non_witness_utxo has no output at the spent index")
    else pure ()

def requireDeclaredSighash (index : ℕ) (map : Map) : Metered KmsError Unit := do
  let found ← find map inSighashType
  match found with
  | none => pure ()
  | some declared =>
    let mismatch ← any (fun pair =>
      pair.key.head? = some inPartialSig &&
        (pair.value.getLast?.map fun byte => [byte, 0, 0, 0])
          ≠ (if declared.length = 4 then some declared else none)) map
    if mismatch then
      throw (malformed
        s!"input {index} has a partial signature that does not use its declared sighash type")
    else pure ()

def checkInputs : ℕ → List (TxIn × Map) → Metered KmsError Unit
  | _, [] => pure ()
  | index, (input, map) :: rest => do
    round
    let next ← Logged.quiet
      (MayPanic.orPanic (if index + 1 ≤ usizeMax then some (index + 1) else none))
    requireSpentTransaction index input.previousOutput map
    requireDeclaredSighash index map
    checkInputs next rest

def unsignedTransaction (global : Map) : Metered KmsError Transaction := do
  let found ← find global globalUnsignedTx
  match found with
  | some raw => parseLegacy raw
  | none => throw (malformed "PSBT has no unsigned transaction")

def parse (bytes : Bytes) : Metered KmsError Psbt :=
  StateT.run' (do
    let head ← plain (take magic.length)
    plain (rejectIf (head != magic) (malformed "missing PSBT magic bytes"))
    let global ← readMap .global
    let unsignedTx ← unsignedTransaction global
    let inputs ← many (pushed (readMap .input)) unsignedTx.inputs.length
    checkInputs 0 (unsignedTx.inputs.zip inputs)
    let outputs ← many (pushed (readMap .output)) unsignedTx.outputs.length
    plain finish
    pure { global, unsignedTx, inputs, outputs }) bytes

end Parsing

end KrustyKms.Bitcoin.Counted

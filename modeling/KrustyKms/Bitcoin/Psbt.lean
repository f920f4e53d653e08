import KrustyKms.Bitcoin.Fields
import KrustyKms.Bitcoin.Keys

/-!
# BIP-174 (version 0) PSBT parsing and P2WPKH input signing

Every map is kept as its ordered key-value pairs, so serializing a parsed PSBT reproduces it byte
for byte.
-/

namespace KrustyKms.Bitcoin

open Codec Reader

def magic : Bytes := [0x70, 0x73, 0x62, 0x74, 0xff]

def maxPsbtBytes : ℕ := 4 * 1024 * 1024

def globalUnsignedTx : UInt8 := 0x00
def inNonWitnessUtxo : UInt8 := 0x00
def inWitnessUtxo : UInt8 := 0x01
def inPartialSig : UInt8 := 0x02
def inSighashType : UInt8 := 0x03

structure Pair where
  key : Bytes
  value : Bytes
deriving DecidableEq, Repr

abbrev Map := List Pair

structure Psbt where
  global : Map
  unsignedTx : Transaction
  inputs : List Map
  outputs : List Map
deriving DecidableEq, Repr

/-! ## Maps -/

def find (map : Map) (keyType : UInt8) : Option Bytes :=
  (List.find? (fun pair => pair.key = [keyType]) map).map Pair.value

def ofResult {α : Type} (result : Result α) : Reader α := fun bytes =>
  result.map fun a => (a, bytes)

/-- Split a pair's key into its minimally encoded type and its key data. -/
def keyParts (key : Bytes) : Result (UInt64 × Bytes) := compactU64 key

section Parsing
variable [Sha256] [BitcoinHashes] [K256] [Target]

def readPairs (scope : Scope) : ℕ → List (UInt64 × Bytes) → Reader Map
  | 0, _ => throw (malformed "PSBT map does not end")
  | rounds + 1, keys => do
    let key ← varBytes
    if key.isEmpty then pure []
    else
      -- reading the type minimally keeps `fd 03 00` from hiding a `03`
      let (keyType, keyData) ← ofResult (keyParts key)
      rejectIf (keys.contains (keyType, keyData)) (malformed "PSBT map repeats a key")
      let value ← varBytes
      ofResult (checkPair scope keyType keyData value)
      let map ← readPairs scope rounds ((keyType, keyData) :: keys)
      pure ({ key, value } :: map)

def readMap (scope : Scope) : Reader Map := fun bytes =>
  readPairs scope (bytes.length + 1) [] bytes

/-- As Bitcoin Core does when it decodes a PSBT, refuse a `non_witness_utxo`
that is not the transaction its input spends, on any input. -/
def requireSpentTransaction (index : ℕ) (outpoint : OutPoint) (map : Map) : Result Unit :=
  match find map inNonWitnessUtxo with
  | none => .ok ()
  | some bytes => do
    let previousTx ← Transaction.parseNetwork bytes
    if previousTx.txid ≠ outpoint.txid then
      .error (malformed
        s!"PSBT input {index}: non_witness_utxo is not the transaction this input spends")
    else if (usizeTryFrom outpoint.vout.toNat).all (previousTx.outputs.length ≤ ·) then
      .error (malformed
        s!"PSBT input {index}: non_witness_utxo has no output at the spent index")
    else .ok ()

def requireDeclaredSighash (index : ℕ) (map : Map) : Result Unit :=
  match find map inSighashType with
  | none => .ok ()
  | some declared =>
    let mismatch := map.any fun pair =>
      pair.key.head? = some inPartialSig &&
        (pair.value.getLast?.map fun byte => [byte, 0, 0, 0])
          ≠ (if declared.length = 4 then some declared else none)
    if mismatch then
      .error (malformed
        s!"input {index} has a partial signature that does not use its declared sighash type")
    else .ok ()

def checkInputs : ℕ → List (TxIn × Map) → Result Unit
  | _, [] => .ok ()
  | index, (input, map) :: rest => do
    requireSpentTransaction index input.previousOutput map
    requireDeclaredSighash index map
    checkInputs (index + 1) rest

def unsignedTransaction (global : Map) : Result Transaction :=
  match find global globalUnsignedTx with
  | some raw => Transaction.parseLegacy raw
  | none => .error (malformed "PSBT has no unsigned transaction")

namespace Psbt

def parse (bytes : Bytes) : Result Psbt :=
  StateT.run' (do
    let head ← take magic.length
    rejectIf (head != magic) (malformed "missing PSBT magic bytes")
    let global ← readMap .global
    let unsignedTx ← ofResult (unsignedTransaction global)
    let inputs ← Parser.many (readMap .input) unsignedTx.inputs.length
    ofResult (checkInputs 0 (unsignedTx.inputs.zip inputs))
    let outputs ← Parser.many (readMap .output) unsignedTx.outputs.length
    finish
    pure { global, unsignedTx, inputs, outputs }) bytes

end Psbt

end Parsing

def serializeMap (map : Map) : Bytes :=
  (map.flatMap fun pair => writeVarBytes pair.key ++ writeVarBytes pair.value) ++
    writeCompactSize 0

def Psbt.serialize (psbt : Psbt) : Bytes :=
  magic ++ (psbt.global :: psbt.inputs ++ psbt.outputs).flatMap serializeMap

/-! ## Signing -/

def decodeBounded [Base64] (psbtBase64 : String) : Result Bytes :=
  let tooLarge := malformed s!"PSBT is larger than {maxPsbtBytes} bytes"
  if psbtBase64.utf8ByteSize > (maxPsbtBytes + 2) / 3 * 4 then .error tooLarge
  else match Base64.decode psbtBase64 with
    | .error e => .error (malformed s!"PSBT is not base64: {e}")
    | .ok bytes => if bytes.length > maxPsbtBytes then .error tooLarge else .ok bytes

def checkIndices [Target] (inputCount : ℕ) : List ℕ → List UInt32 → Result (List ℕ)
  | _, [] => .ok []
  | seen, index :: rest =>
    let position := (usizeTryFrom index.toNat).getD usizeMax
    if position ≥ inputCount then
      .error (.transactionError
        s!"PSBT input {index} is out of range: the PSBT has {inputCount} inputs")
    else if seen.contains position then
      .error (.transactionError s!"PSBT input {index} is listed more than once")
    else do
      let checked ← checkIndices inputCount (position :: seen) rest
      pure (position :: checked)

def checkedIndices [Target] (indices : List UInt32) (inputCount : ℕ) : Result (List ℕ) :=
  if indices.isEmpty then
    .error (.transactionError "no PSBT inputs were listed to sign")
  -- a longer list must repeat or overrun an index
  else if indices.length > inputCount then
    .error (.transactionError
      s!"{indices.length} PSBT inputs were listed but the PSBT has {inputCount}")
  else checkIndices inputCount [] indices

/-- `checked_indices` already bounds every index; this keeps lookups checked. -/
def outOfRange (index : ℕ) : KmsError :=
  .transactionError s!"PSBT input {index} is out of range"

def hasPartialSignatureOtherThanAll (map : Map) : Bool :=
  map.any fun pair =>
    pair.key.head? = some inPartialSig && pair.value.getLast? ≠ some sighashAll

section Signing
variable [Sha256] [BitcoinHashes] [K256] [Target]

/-- Refuse a listed input's first pair of a type the table marks as wrong for a
plain P2WPKH spend. -/
def refuseListedFields (refuse : String → KmsError) : Map → Result Unit
  | [] => .ok ()
  | pair :: rest => do
    let (keyType, _) ← compactU64 pair.key
    match refusedOnListedInput keyType with
    | some reason => .error (refuse reason)
    | none => refuseListedFields refuse rest

def listedWitnessUtxo (refuse : String → KmsError) (map : Map) (signer : P2wpkhSigner) :
    Result TxOut := do
  refuseListedFields refuse map
  if (find map inSighashType).any (· ≠ u32LeBytes sighashAll.toUInt32) then
    throw (refuse "requests a sighash type other than SIGHASH_ALL")
  else if hasPartialSignatureOtherThanAll map then
    throw (refuse "carries a partial signature other than SIGHASH_ALL")
  else match find map inWitnessUtxo with
    | none => throw (refuse "has no witness_utxo")
    | some raw =>
      let witnessUtxo ← TxOut.parseExact raw
      if witnessUtxo.scriptPubkey ≠ signer.scriptPubkey then
        throw (refuse "witness_utxo is not this key's P2WPKH script")
      else pure witnessUtxo

def spentOutput (refuse : String → KmsError) (map : Map) (input : Option TxIn)
    (outOfRange : KmsError) : Result TxOut :=
  match find map inNonWitnessUtxo with
  | none => .error (refuse "has no non_witness_utxo")
  | some raw => do
    let previousTx ← Transaction.parseNetwork raw
    match input with
    | none => .error outOfRange
    | some input =>
      match (usizeTryFrom input.previousOutput.vout.toNat).bind (previousTx.outputs[·]?) with
      | none => .error (refuse "non_witness_utxo has no output at the spent index")
      | some spent => .ok spent

/-- Check that input `index` is this key's P2WPKH spend and return its amount,
proven against the full previous transaction. -/
def signableAmount (psbt : Psbt) (index : ℕ) (signer : P2wpkhSigner) : Result UInt64 :=
  match psbt.inputs[index]? with
  | none => .error (outOfRange index)
  | some map => do
    let refuse := fun reason => KmsError.transactionError s!"PSBT input {index}: {reason}"
    let witnessUtxo ← listedWitnessUtxo refuse map signer
    let spent ← spentOutput refuse map psbt.unsignedTx.inputs[index]? (outOfRange index)
    if spent ≠ witnessUtxo then
      .error (refuse "witness_utxo does not match the output it spends")
    else .ok witnessUtxo.value

def putPartialSignature (map : Map) (publicKey : Vector UInt8 33) (signature : Bytes) : Map :=
  let key := inPartialSig :: publicKey.toList
  match map.findIdx? fun pair => pair.key = key with
  | some i => map.modify i fun pair => { pair with value := signature }
  | none => map ++ [{ key, value := signature }]

def signInput (signer : P2wpkhSigner) (midstate : SighashMidstate) (psbt : Psbt) (index : ℕ) :
    Result Psbt := do
  let amount ← signableAmount psbt index signer
  let sighash ← psbt.unsignedTx.p2wpkhSighashAll midstate index signer.pubkeyHash amount
  let signature ← signer.signSighashAll sighash
  match psbt.inputs[index]? with
  | none => .error (outOfRange index)
  | some map =>
    .ok { psbt with
      inputs := psbt.inputs.set index (putPartialSignature map signer.publicKey signature) }

def signWith [Base64] (signer : P2wpkhSigner) (psbtBase64 : String) (inputIndices : List UInt32) :
    Result String := do
  let bytes ← decodeBounded psbtBase64
  let psbt ← Psbt.parse bytes
  let indices ← checkedIndices inputIndices psbt.inputs.length
  let signed ← indices.foldlM (signInput signer psbt.unsignedTx.sighashMidstate) psbt
  .ok (Base64.encode signed.serialize)

/-- Add this key's SIGHASH_ALL partial signature to each listed P2WPKH input of
a base64 version-0 PSBT, and return the PSBT as base64. -/
def signBitcoinPsbtInputs [Base64] (privateKey : Vector UInt8 32) (psbtBase64 : String)
    (inputIndices : List UInt32) : Result String := do
  let signer ← P2wpkhSigner.new privateKey
  signWith signer psbtBase64 inputIndices

end Signing

end KrustyKms.Bitcoin

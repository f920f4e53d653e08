import KrustyKms.Bitcoin.Tx

/-!
# The BIP-174 version-0 field table

For every field BIP-174 defines, the key data and value it requires, and whether a listed native
P2WPKH input may carry it.
-/

namespace KrustyKms.Bitcoin

open Codec Reader

/-- The map a pair belongs to. -/
inductive Scope where
  | global
  | input
  | output
deriving DecidableEq, Repr

/-- The key data a field requires after its type. -/
inductive KeyData where
  | none
  | hash (len : ℕ)
  | publicKey
  | extendedPublicKey
  | proprietary

/-- The value a field requires. -/
inductive Value where
  | any
  | unsignedTransaction
  | transaction
  | output
  | signature
  | u32
  | version
  | keyOrigin
  | xpubKeyOrigin
  | witnessStack
  | preimage (hash : Bytes → Bytes)

/-- What a listed native P2WPKH input may carry. -/
inductive OnListedInput where
  | allowed
  | refused (reason : String)

structure Field where
  scope : Scope
  keyType : UInt64
  name : String
  key : KeyData
  value : Value
  onListedInput : OnListedInput

def f (scope : Scope) (keyType : UInt64) (name : String) (key : KeyData) (value : Value) : Field :=
  { scope, keyType, name, key, value, onListedInput := .allowed }

def refused (field : Field) (reason : String) : Field :=
  { field with onListedInput := .refused reason }

def redeemScript : String := "carries a redeem script, which a native P2WPKH input cannot use"
def witnessScript : String := "carries a witness script, which a native P2WPKH input cannot use"
def finalized : String := "is already finalized"

variable [Sha256] [BitcoinHashes] [K256]

def ripemd160Of (value : Bytes) : Bytes := (BitcoinHashes.ripemd160 value).toList

def sha256Of (value : Bytes) : Bytes := (Sha256.digest value).toList

def hash160Of (value : Bytes) : Bytes := (BitcoinHashes.hash160 value).toList

def hash256Of (value : Bytes) : Bytes := (doubleSha256 value).toList

def fields : List Field := [
  f .global 0x00 "PSBT_GLOBAL_UNSIGNED_TX" .none .unsignedTransaction,
  f .global 0x01 "PSBT_GLOBAL_XPUB" .extendedPublicKey .xpubKeyOrigin,
  f .global 0xfb "PSBT_GLOBAL_VERSION" .none .version,
  f .global 0xfc "PSBT_GLOBAL_PROPRIETARY" .proprietary .any,
  f .input 0x00 "PSBT_IN_NON_WITNESS_UTXO" .none .transaction,
  f .input 0x01 "PSBT_IN_WITNESS_UTXO" .none .output,
  f .input 0x02 "PSBT_IN_PARTIAL_SIG" .publicKey .signature,
  f .input 0x03 "PSBT_IN_SIGHASH_TYPE" .none .u32,
  refused (f .input 0x04 "PSBT_IN_REDEEM_SCRIPT" .none .any) redeemScript,
  refused (f .input 0x05 "PSBT_IN_WITNESS_SCRIPT" .none .any) witnessScript,
  f .input 0x06 "PSBT_IN_BIP32_DERIVATION" .publicKey .keyOrigin,
  refused (f .input 0x07 "PSBT_IN_FINAL_SCRIPTSIG" .none .any) finalized,
  refused (f .input 0x08 "PSBT_IN_FINAL_SCRIPTWITNESS" .none .witnessStack) finalized,
  f .input 0x0a "PSBT_IN_RIPEMD160" (.hash 20) (.preimage ripemd160Of),
  f .input 0x0b "PSBT_IN_SHA256" (.hash 32) (.preimage sha256Of),
  f .input 0x0c "PSBT_IN_HASH160" (.hash 20) (.preimage hash160Of),
  f .input 0x0d "PSBT_IN_HASH256" (.hash 32) (.preimage hash256Of),
  f .input 0xfc "PSBT_IN_PROPRIETARY" .proprietary .any,
  f .output 0x00 "PSBT_OUT_REDEEM_SCRIPT" .none .any,
  f .output 0x01 "PSBT_OUT_WITNESS_SCRIPT" .none .any,
  f .output 0x02 "PSBT_OUT_BIP32_DERIVATION" .publicKey .keyOrigin,
  f .output 0xfc "PSBT_OUT_PROPRIETARY" .proprietary .any ]

def isVersion2Only (scope : Scope) (keyType : UInt64) : Bool :=
  match scope with
  | .global => 0x02 ≤ keyType && keyType ≤ 0x06
  | .input => 0x0e ≤ keyType && keyType ≤ 0x12
  | .output => 0x03 ≤ keyType && keyType ≤ 0x04

def lookup (scope : Scope) (keyType : UInt64) : Option Field :=
  fields.find? fun field => field.scope = scope && field.keyType = keyType

def refusedOnListedInput (keyType : UInt64) : Option String :=
  match lookup .input keyType with
  | none => none
  | some field =>
    match field.onListedInput with
    | .refused reason => some reason
    | .allowed => none

/-! ## Keys -/

def isPublicKey (bytes : Bytes) : Bool :=
  let shaped := match bytes with
    | first :: rest =>
      if first = 0x02 || first = 0x03 then rest.length = 32
      else if first = 0x04 then rest.length = 64
      else false
    | [] => false
  shaped && K256.isSec1PublicKey bytes

/-- A depth-0 (master) extended key has a zero parent fingerprint and child number. -/
def isMasterConsistent (xpub : Bytes) : Bool :=
  xpub[4]? != some 0 || (13 ≤ xpub.length && ((xpub.drop 5).take 8).all (· == 0))

def readProprietaryKey [Target] : Reader UInt64 := do
  let identifierLen ← compactSize
  let _ ← take identifierLen
  compactU64

def isProprietaryKey [Target] (keyData : Bytes) : Bool :=
  (StateT.run' readProprietaryKey keyData).isOk

def keyIsValid [Target] (key : KeyData) (keyData : Bytes) : Bool :=
  match key with
  | .none => keyData.isEmpty
  | .hash len => keyData.length = len
  | .publicKey => isPublicKey keyData
  -- version(4) depth(1) parent fingerprint(4) child(4) chain code(32) key(33)
  | .extendedPublicKey =>
    keyData.length = 78
      && (keyData.take 4 == [0x04, 0x88, 0xb2, 0x1e] || keyData.take 4 == [0x04, 0x35, 0x87, 0xcf])
      && isMasterConsistent keyData
      && ((keyData[45]? == some 0x02 || keyData[45]? == some 0x03)
        && isPublicKey (keyData.drop 45))
  | .proprietary => isProprietaryKey keyData

/-! ## Values -/

def isKeyOrigin (value : Bytes) : Bool :=
  !value.isEmpty && value.length % 4 = 0

def readWitnessStack [Target] : Reader Unit := do
  let items ← compactSize
  let _ ← Parser.many varBytes items
  finish

def isWitnessStack [Target] (value : Bytes) : Bool :=
  (StateT.run' readWitnessStack value).isOk

def derInteger (bytes : Bytes) : Option (Bytes × Bytes) :=
  match bytes with
  | tag :: len :: rest =>
    if tag = 0x02 && len.toNat ≤ rest.length then
      some (rest.take len.toNat, rest.drop len.toNat)
    else none
  | _ => none

def isMinimalPositive (integer : Bytes) : Bool :=
  match integer with
  | [] => false
  | first :: rest =>
    if first &&& 0x80 ≠ 0 then false
    else match rest with
      | second :: _ => if first = 0x00 then second &&& 0x80 ≠ 0 else true
      | [] => true

/-- BIP-66 on the DER part: `30 <len> 02 <len R> <R> 02 <len S> <S>`, 8 to 72
bytes, each integer non-empty, non-negative and without a needless leading zero. -/
def isStrictDer (der : Bytes) : Bool :=
  match der with
  | tag :: len :: body =>
    if tag ≠ 0x30 then false
    else if !(8 ≤ der.length && der.length ≤ 72) || len.toNat ≠ body.length then false
    else match derInteger body with
      | none => false
      | some (r, rest) =>
        match derInteger rest with
        | none => false
        | some (s, rest) => rest.isEmpty && isMinimalPositive r && isMinimalPositive s
  | _ => false

def isSignature (sig : Bytes) : Bool :=
  match sig.getLast? with
  | none => false
  | some sighashType =>
    let type := sighashType &&& ~~~0x80
    (0x01 ≤ type && type ≤ 0x03) && isStrictDer sig.dropLast

def within {α : Type} (field : Field) (parsed : Result α) : Result α :=
  match parsed with
  | .error (.deserializationError reason) =>
    .error (.deserializationError s!"{reason} in {field.name}")
  | other => other

def checkValue [Target] (field : Field) (keyData value : Bytes) : Result Unit := do
  let valid ← match field.value with
    | .any => pure true
    | .unsignedTransaction => do
      let tx ← within field (Transaction.parseLegacy value)
      if tx.inputs.any fun input => !input.scriptSig.isEmpty then
        .error (malformed "unsigned transaction has a scriptSig")
      else pure true
    | .transaction => (within field (Transaction.parseNetwork value)).map fun _ => true
    | .output => (within field (TxOut.parseExact value)).map fun _ => true
    | .signature => pure (isSignature value)
    | .u32 => pure (value.length = 4)
    | .version =>
      if value.length = 4 && value != [0, 0, 0, 0] then
        .error (malformed "only PSBT version 0 is supported")
      else pure (value.length = 4)
    | .keyOrigin => pure (isKeyOrigin value)
    -- the number of path elements must match the depth byte of the extended key
    | .xpubKeyOrigin => pure (isKeyOrigin value &&
        match keyData[4]? with
        | some depth => 1 ≤ value.length / 4 && value.length / 4 - 1 = depth.toNat
        | none => false)
    | .witnessStack => pure (isWitnessStack value)
    | .preimage hash =>
      if hash value ≠ keyData then
        .error (malformed s!"{field.name} preimage does not hash to its key")
      else pure true
  if valid then .ok () else .error (malformed s!"{field.name} has a malformed value")

def hex04 (keyType : UInt64) : String :=
  let digits := Nat.toDigits 16 keyType.toNat
  "0x" ++ String.ofList (List.replicate (2 - digits.length) '0' ++ digits)

/-- Check one pair against the table: version-2 fields are refused, a known
field's key data and value must have the shape BIP-174 defines, and an unknown
field passes through. -/
def checkPair [Target] (scope : Scope) (keyType : UInt64) (keyData value : Bytes) :
    Result Unit :=
  if isVersion2Only scope keyType then
    .error (malformed
      s!"PSBT key type {hex04 keyType} is a PSBT version 2 field, not allowed in version 0")
  else if (scope = .input || scope = .global) && keyType = 0x09 then
    .error (malformed "BIP-127/BIP-322 0x09 fields are unsupported")
  else match lookup scope keyType with
    | none => .ok ()
    | some field =>
      if !keyIsValid field.key keyData then
        .error (malformed s!"{field.name} has an invalid key")
      else checkValue field keyData value

end KrustyKms.Bitcoin

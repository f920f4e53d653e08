import KrustyKms.Codec.Hex
import KrustyKms.Common.JsonText
import KrustyKms.Kms.Encryption

/-!
# Keystores

The native format (version 1, XChaCha20-Poly1305) and the ethers.js format (version 3,
AES-128-CTR), both with scrypt. A file's parameters are checked before a key is derived.
-/

namespace KrustyKms.Kms

open Codec Support

/-- The texts of the errors of `hex::decode` and `String::from_utf8`, by what is refused. -/
class DecodingErrors where
  hex : String → String
  utf8 : Bytes → String

/-- The `ctr` crate's `Ctr128BE<Aes128>`, applied to a buffer from its start. -/
class Aes128Ctr where
  applyKeystream : Vector UInt8 16 → Vector UInt8 16 → Bytes → Bytes

/-! ## Parameters of the key derivation -/

def v3DkLen : ℕ := 32
def v3IvLen : ℕ := 16
def scryptRMax : UInt32 := 32
def scryptPMax : UInt32 := 16
def scryptDkLenMin : ℕ := 32
def scryptDkLenMax : ℕ := 64
def scryptMemoryCeilingBytes : ℕ := 256 * 1024 * 1024
def maxKeystoreSaltBytes : ℕ := 128

def missingParam (field : String) : KmsError :=
  .deserializationError s!"Missing kdfparams.{field}"

def parseU32KdfParam (value : Option UInt64) (field : String) : Result UInt32 := do
  match value with
  | none => throw (missingParam field)
  | some n =>
    if n.toNat < 2 ^ 32 then pure n.toUInt32
    else throw (.deserializationError s!"kdfparams.{field} exceeds u32 range (got {n})")

def parseUsizeKdfParam [Target] (value : Option UInt64) (field : String) : Result ℕ := do
  match value with
  | none => throw (missingParam field)
  | some n =>
    match usizeTryFrom n.toNat with
    | some n => pure n
    | none => throw (.deserializationError s!"kdfparams.{field} exceeds usize range (got {n})")

def saturatingMul (a b : ℕ) : ℕ := min (a * b) (2 ^ 64 - 1)

def validateScryptResourceParams (n r p : UInt32) (dklen : ℕ) : Result Unit := do
  let _ ← scryptLogN n
  if ¬ (1 ≤ r ∧ r ≤ scryptRMax) then
    throw (.deserializationError s!"kdfparams.r={r} outside allowed range 1..={scryptRMax}")
  if ¬ (1 ≤ p ∧ p ≤ scryptPMax) then
    throw (.deserializationError s!"kdfparams.p={p} outside allowed range 1..={scryptPMax}")
  if ¬ (scryptDkLenMin ≤ dklen ∧ dklen ≤ scryptDkLenMax) then
    throw (.deserializationError
      s!"kdfparams.dklen={dklen} outside allowed range {scryptDkLenMin}..={scryptDkLenMax}")
  let memory := saturatingMul (saturatingMul n.toNat r.toNat) 128
  if memory > scryptMemoryCeilingBytes then
    throw (.deserializationError
      s!"scrypt params request ~{memory} bytes of memory (ceiling {scryptMemoryCeilingBytes})")

/-! ## Fields of a file -/

section Fields

variable [DecodingErrors]

def decodeHexField (value : Json) (missing label : String) : Result Bytes :=
  match value.asStr with
  | none => .error (.deserializationError s!"Missing {missing}")
  | some text =>
    match decodeBytes text with
    | some bytes => .ok bytes
    | none => .error (.deserializationError s!"Invalid {label} hex: {DecodingErrors.hex text}")

def decodeSalt (value : Json) : Result Bytes := do
  let salt ← decodeHexField value "salt" "salt"
  if salt.length > maxKeystoreSaltBytes then
    throw (.deserializationError
      s!"kdfparams.salt is {salt.length} bytes (limit {maxKeystoreSaltBytes})")
  pure salt

variable [SerdeJson] [SerdeJsonErrors]

def parseKeystore (keystoreJson : String) : Result Json :=
  match SerdeJson.parse keystoreJson with
  | some json => .ok json
  | none => .error (.deserializationError
      s!"Invalid keystore JSON: {SerdeJsonErrors.text keystoreJson}")

def checkVersion (v : Json) (expected : UInt64) (error : UInt64 → String) : Result Unit :=
  match (v.index "version").asU64 with
  | none => .error (.deserializationError "Missing version field")
  | some version =>
    if version ≠ expected then .error (.deserializationError (error version)) else .ok ()

end Fields

/-! ## The native format -/

section Native

variable [Scrypt] [XChaCha20Poly1305]

def keystoreToJson (scryptN : UInt32) (salt : Bytes) (payload : EncryptedPayload) : Json :=
  .object [
    ("crypto", .object [
      ("cipher", .string "xchacha20-poly1305"),
      ("ciphertext", .string (encodeBytes payload.ciphertext)),
      ("kdf", .string "scrypt"),
      ("kdfparams", .object [
        ("dklen", .posInt 32), ("n", .posInt scryptN.toUInt64), ("p", .posInt 1), ("r", .posInt 8),
        ("salt", .string (encodeBytes salt))]),
      ("nonce", .string (encodeBytes payload.nonce))]),
    ("version", .posInt 1)]

def encryptKeystore (salt : Vector UInt8 16) (nonce : Vector UInt8 24) (mnemonic password : String)
    (scryptN : UInt32) : Deriving String := do
  validateScryptResourceParams scryptN 8 1 32
  let key ← deriveScryptKey (utf8 password) salt.toList scryptN
  let payload ← encryptWithKey nonce (utf8 mnemonic) key
  pure (keystoreToJson scryptN salt.toList payload).write

variable [DecodingErrors]

def mnemonicFromUtf8 (plaintext : Bytes) : Result String :=
  match fromUtf8 plaintext with
  | some mnemonic => .ok mnemonic
  | none => .error (.cryptoError
      s!"Decrypted keystore is not valid UTF-8: {DecodingErrors.utf8 plaintext}")

variable [SerdeJson] [SerdeJsonErrors]

def decryptKeystore (keystoreJson password : String) : Deriving String := do
  let v ← parseKeystore keystoreJson
  checkVersion v 1 fun version => s!"Unsupported keystore version: {version}"
  let crypto := v.index "crypto"
  let salt ← decodeSalt ((crypto.index "kdfparams").index "salt")
  let n ← parseU32KdfParam ((crypto.index "kdfparams").index "n").asU64 "n"
  validateScryptResourceParams n 8 1 32
  let nonce ← decodeHexField (crypto.index "nonce") "nonce" "nonce"
  let ciphertext ← decodeHexField (crypto.index "ciphertext") "ciphertext" "ciphertext"
  -- a malformed nonce costs no derivation
  let _ ← xnonce nonce
  let key ← deriveScryptKey (utf8 password) salt n
  let plaintext ← decryptWithKey { nonce, ciphertext } key
  mnemonicFromUtf8 plaintext

end Native

/-! ## The ethers.js format -/

section Ethers

variable [Scrypt] [Keccak256] [Aes128Ctr]

def aes128Ctr (key iv plaintext : Bytes) : MayPanic KmsError Bytes := do
  let key ← MayPanic.orPanic (arrayFromSlice 16 key)
  let iv ← MayPanic.orPanic (arrayFromSlice 16 iv)
  pure (Aes128Ctr.applyKeystream key iv plaintext)

variable [DecodingErrors] [SerdeJson] [SerdeJsonErrors]

def checkKdf (crypto : Json) : Result Unit :=
  match (crypto.index "kdf").asStr with
  | none => .error (.deserializationError "Missing kdf field")
  | some kdf =>
    if kdf ≠ "scrypt" then
      .error (.deserializationError s!"Unsupported KDF: {kdf} (only scrypt is supported)")
    else .ok ()

def decryptEthersKeystore [Target] (keystoreJson password : String) : Deriving String := do
  let v ← parseKeystore keystoreJson
  checkVersion v 3 fun version => s!"Expected ethers keystore version 3, got {version}"
  let crypto := v.index "crypto"
  checkKdf crypto
  let kdfparams := crypto.index "kdfparams"
  let salt ← decodeSalt (kdfparams.index "salt")
  let n ← parseU32KdfParam (kdfparams.index "n").asU64 "n"
  let r ← parseU32KdfParam (kdfparams.index "r").asU64 "r"
  let p ← parseU32KdfParam (kdfparams.index "p").asU64 "p"
  let dklen ← parseUsizeKdfParam (kdfparams.index "dklen").asU64 "dklen"
  validateScryptResourceParams n r p dklen
  let iv ← decodeHexField ((crypto.index "cipherparams").index "iv") "cipherparams.iv" "IV"
  let ciphertext ← decodeHexField (crypto.index "ciphertext") "ciphertext" "ciphertext"
  let expectedMac ← decodeHexField (crypto.index "mac") "mac" "mac"
  if iv.length ≠ v3IvLen then
    throw (.deserializationError
      s!"Invalid cipherparams.iv length: expected {v3IvLen} bytes, got {iv.length}")
  let logN ← scryptLogN n
  let params ← newScryptParams logN r p
  let derivedKey ← scrypt (utf8 password) salt params dklen
  let aesKey ← Logged.quiet (MayPanic.slice derivedKey.toList 0 (v3DkLen / 2))
  let macKey ← Logged.quiet (MayPanic.slice derivedKey.toList (v3DkLen / 2) v3DkLen)
  let computedMac := Keccak256.digest (macKey ++ ciphertext)
  if computedMac.toList ≠ expectedMac then
    throw (.cryptoError "MAC verification failed: wrong password or corrupted keystore")
  let plaintext ← Logged.quiet (aes128Ctr aesKey iv ciphertext)
  pure (encodeBytes plaintext)

end Ethers

end KrustyKms.Kms

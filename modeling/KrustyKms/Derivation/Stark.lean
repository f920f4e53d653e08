import KrustyKms.Common.Crates
import KrustyKms.Crypto.Scalar
import KrustyKms.Derivation.Path

/-!
# Stark private keys of a mnemonic

A key is derived along a BIP-44 path and ground below the order of the Stark curve.
-/

namespace KrustyKms.Derivation

open Codec Crypto Secp256k1

/-- The `bip39` crate; an error is its text. -/
class Bip39 where
  Mnemonic : Type
  parse : String → Except String Mnemonic
  toSeed : Mnemonic → String → Vector UInt8 64

section Mnemonic

variable [Bip39]

def parseMnemonic (phrase : String) : Result Bip39.Mnemonic :=
  (Bip39.parse phrase).mapError .invalidMnemonic

/-- Validate a BIP-39 mnemonic phrase. -/
def validateMnemonic (phrase : String) : Result Unit :=
  (parseMnemonic phrase).map fun _ => ()

def mnemonicToSeed (mnemonic passphrase : String) : Result (Vector UInt8 64) :=
  (parseMnemonic mnemonic).map (Bip39.toSeed · passphrase)

end Mnemonic

def starknetCoinType : UInt32 := 9004

def requireUnhardenedComponent (value : UInt32) (field : String) : Result Unit :=
  if value &&& 0x80000000 ≠ 0 then
    .error (.invalidDerivationPath
      s!"{field} {value} has the BIP-32 hardened bit set (must be < 2^31)")
  else .ok ()

/-! ## Grinding -/

def grindLimit : ℕ := (2 ^ 256 - 1) - (2 ^ 256 - 1) % curveOrder

def grindRounds [Sha256] (keySeed : Vector UInt8 32) : List UInt8 → Result Felt
  | [] => .error (.cryptoError "Failed to grind key after 256 iterations")
  | i :: counters =>
    let candidate := beValue (Sha256.digest (keySeed.toList ++ [i])).toList
    -- a candidate beyond the limit would bias the key
    if candidate ≥ grindLimit then grindRounds keySeed counters
    else
      let k := candidate % curveOrder
      if k = 0 then grindRounds keySeed counters
      else .ok (Felt.fromBytesBe (beVector 32 k))

/-- Grind a secp256k1 private key to make it valid for the Stark curve. -/
def grindKey [Sha256] (keySeed : Vector UInt8 32) : Result Felt :=
  grindRounds keySeed ((List.range 256).map UInt8.ofNat)

/-! ## Keys -/

variable [Points] [Sha256]

def derivePrivateKeyWithCoinType [Bip39] (hmac : Hmac) (mnemonic : String)
    (index accountIndex coinType : UInt32) (passphrase : Option String) : Result Felt := do
  requireUnhardenedComponent index "index"
  requireUnhardenedComponent accountIndex "account_index"
  requireUnhardenedComponent coinType "coin_type"
  let seed ← mnemonicToSeed mnemonic (passphrase.getD "")
  let master ← deriveMasterKey hmac seed.toList
  let path := [44 ||| 0x80000000, coinType ||| 0x80000000, accountIndex ||| 0x80000000, 0, index]
  let derived ← derivePath hmac master.1 master.2 path
  grindKey derived.1

def deriveStarkFromEthKey (hmac : Hmac) (ethPrivateKey : Vector UInt8 32)
    (index accountIndex : UInt32) : Result Felt := do
  requireUnhardenedComponent index "index"
  requireUnhardenedComponent accountIndex "account_index"
  let master ← deriveMasterKey hmac ethPrivateKey.toList
  let path :=
    [44 ||| 0x80000000, starknetCoinType ||| 0x80000000, accountIndex ||| 0x80000000, 0, index]
  let derived ← derivePath hmac master.1 master.2 path
  grindKey derived.1

def deriveArgentLegacyPrivateKey [Bip39] (hmac : Hmac) (mnemonic : String)
    (index accountIndex : UInt32) : Result Felt := do
  let seed ← mnemonicToSeed mnemonic ""
  let master ← deriveMasterKey hmac seed.toList
  let ethPath := [44 ||| 0x80000000, 60 ||| 0x80000000, 0x80000000, 0, 0]
  -- the Ethereum key is not ground
  let ethDerived ← derivePath hmac master.1 master.2 ethPath
  deriveStarkFromEthKey hmac ethDerived.1 index accountIndex

end KrustyKms.Derivation

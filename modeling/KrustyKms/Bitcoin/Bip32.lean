import KrustyKms.Derivation.Path

/-!
# BIP-32 private-key derivation for the Bitcoin path

The key is a scalar throughout, and every HMAC output has to start with one.
-/

namespace KrustyKms.Bitcoin.Bip32

open Codec Secp256k1 KrustyKms.Derivation

inductive Half where
  | left
  | right

def copyHalf (output : Vector UInt8 64) (half : Half) : Vector UInt8 32 :=
  match half with
  | .left => ⟨(output.toList.take 32).toArray, Derivation.size_take_half output⟩
  | .right => ⟨(output.toList.drop 32).toArray, Derivation.size_drop_half output⟩

def parseScalar (output : Vector UInt8 64) (what : String) : Result Scalar :=
  let invalid := KmsError.cryptoError
    s!"BIP-32 derivation failed: {what} is not below the curve order or is zero"
  match fromRepr (copyHalf output .left) with
  | some scalar => if scalar = 0 then .error invalid else .ok scalar
  | none => .error invalid

variable [Points]

def compressedPublicKey (scalar : Scalar) : Result Bytes :=
  if scalar = 0 then .error (.cryptoError "BIP-32 key is zero")
  else
    let point := Points.compressedPublicKey scalar
    if point.length = 33 then .ok point
    else .error (.cryptoError "compressed public key is not 33 bytes")

def deriveStep (hmac : Hmac) (node : Scalar × Vector UInt8 32) (index : UInt32) :
    Result (Scalar × Vector UInt8 32) := do
  let output ←
    if index &&& 0x80000000 ≠ 0 then
      hmac node.2.toList [[0x00], (toRepr node.1).toList, indexBytes index]
    else do
      let publicKey ← compressedPublicKey node.1
      hmac node.2.toList [publicKey, indexBytes index]
  let tweak ← parseScalar output "child key"
  let key := node.1 + tweak
  if key = 0 then
    .error (.cryptoError "BIP-32 child derivation failed: derived key is zero")
  else .ok (key, copyHalf output .right)

def derivePrivateKey (hmac : Hmac) (seed : Bytes) (path : List UInt32) :
    Result (Vector UInt8 32) := do
  let output ← hmac bitcoinSeed [seed]
  let key ← parseScalar output "master key"
  let node ← path.foldlM (deriveStep hmac) (key, copyHalf output .right)
  pure (toRepr node.1)

end KrustyKms.Bitcoin.Bip32

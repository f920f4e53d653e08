import KrustyKms.Common.Secp256k1

/-!
# The shared BIP-32 derivation on secp256k1

HMAC-SHA512 is a parameter: a function of the key and the parts of the message,
which may fail.
-/

namespace KrustyKms.Derivation

open Codec Secp256k1

/-- HMAC-SHA512 of a message given in parts. -/
abbrev Hmac := Bytes → List Bytes → Result (Vector UInt8 64)

/-- A private key and its chain code. -/
abbrev DerivedKeyPair := Vector UInt8 32 × Vector UInt8 32

def bitcoinSeed : Bytes := [66, 105, 116, 99, 111, 105, 110, 32, 115, 101, 101, 100]

def indexBytes (index : UInt32) : Bytes := beBytes 4 index.toNat

lemma size_take_half (output : Vector UInt8 64) :
    (output.toList.take 32).toArray.size = 32 := by
  simp

lemma size_drop_half (output : Vector UInt8 64) :
    (output.toList.drop 32).toArray.size = 32 := by
  simp

def splitKeyAndChain (output : Vector UInt8 64) : DerivedKeyPair :=
  (⟨(output.toList.take 32).toArray, size_take_half output⟩,
    ⟨(output.toList.drop 32).toArray, size_drop_half output⟩)

def deriveMasterKey (hmac : Hmac) (seed : Bytes) : Result DerivedKeyPair := do
  let output ← hmac bitcoinSeed [seed]
  pure (splitKeyAndChain output)

/-- BIP-32's `parse256(IL) + k_par (mod n)`, rejecting `IL >= n` and a zero child. -/
def childScalar (il parent : Vector UInt8 32) : Result Scalar :=
  if ¬ beValue il.toList < order then
    .error (.cryptoError "BIP-32 child derivation failed: IL >= curve order n")
  else
    let child := reduce (beValue il.toList) + reduce (beValue parent.toList)
    if child = 0 then
      .error (.cryptoError "BIP-32 child derivation failed: derived key is zero")
    else .ok child

variable [Points]

def deriveChild (hmac : Hmac) (key chainCode : Vector UInt8 32) (index : UInt32) :
    Result DerivedKeyPair := do
  let output ←
    if index &&& 0x80000000 ≠ 0 then
      hmac chainCode.toList [[0x00], key.toList, indexBytes index]
    else
      match signingKeyFromBytes key with
      | .error e => .error (.cryptoError s!"Invalid secp256k1 key: {e}")
      | .ok signingKey =>
        hmac chainCode.toList [Points.compressedPublicKey signingKey, indexBytes index]
  let (derivedKey, derivedChain) := splitKeyAndChain output
  let child ← childScalar derivedKey key
  pure (toRepr child, derivedChain)

def derivePath (hmac : Hmac) (masterKey masterChain : Vector UInt8 32) (path : List UInt32) :
    Result DerivedKeyPair :=
  path.foldlM (fun pair index => deriveChild hmac pair.1 pair.2 index) (masterKey, masterChain)

end KrustyKms.Derivation

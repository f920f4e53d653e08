import KrustyKms.Common.Crates
import KrustyKms.Common.FeltText
import KrustyKms.Crypto.Hash
import KrustyKms.Starknet.StarkSigning

/-!
# STRK20 privacy-pool viewing-key derivation

The original derivation hashes the private key with a domain.
-/

namespace KrustyKms.Strk20

open Crypto StarkSigning

def strk20ViewingKeyDomain : String := "pharaoh.strk20.viewing_key.v1"

def starknetKeccak [Keccak256] (data : Bytes) : Felt :=
  Felt.fromBytesBeSlice ((Keccak256.digest data).toList.modifyHead (· &&& 0x03))

def deriveStrk20ViewingKey [Keccak256] [Pedersen] (privateKey : Felt) : Felt :=
  let domain := starknetKeccak (utf8 strk20ViewingKeyDomain)
  let material := Pedersen.hash domain privateKey
  let maxViewingKey := curveOrder >>> 1
  ((material.val % maxViewingKey + 1 : ℕ) : Felt)

def canonicalScope [FeltParser] (value label : String) : Result String := do
  let felt ← (FeltParser.fromHex value).mapError fun _ =>
    .cryptoError s!"STRK20 {label} must be canonical hex"
  let canonical := felt.toHex
  if felt = 0 ∨ value ≠ canonical then
    throw (.cryptoError s!"STRK20 {label} must be canonical non-zero hex")
  pure canonical

def scopeMessage (chainId poolAddress : String) : Bytes := utf8 (chainId ++ ":" ++ poolAddress)

def strk20ViewingKeyMessageHash [FeltParser] [Keccak256] (chainId poolAddress : String) :
    Result Felt := do
  let chainId ← canonicalScope chainId "chain id"
  let poolAddress ← canonicalScope poolAddress "pool address"
  pure (starknetKeccak (scopeMessage chainId poolAddress))

def foldLowerHalf (reduced order : ℕ) : ℕ :=
  let halfOrder := order >>> 1
  let folded := if reduced < halfOrder then reduced else order - reduced
  -- For odd `n`, `floor(n/2)` and `ceil(n/2)` negate to each other.
  if folded = 0 ∨ folded ≥ halfOrder then 1 else folded

def foldStrk20ViewingKey [StarkEcdsa] [Poseidon] (publicKey messageHash r s : Felt) :
    Result Felt := do
  let valid ← (StarkEcdsa.verify publicKey messageHash r s).mapError fun error =>
    .cryptoError s!"invalid STRK20 signature: {error}"
  if ¬ valid then
    throw (.cryptoError "STRK20 signature does not match the public key and message")
  let material := poseidonHashMany [r, s]
  let reduced := material.val % curveOrder
  pure ((foldLowerHalf reduced curveOrder : ℕ) : Felt)

def deriveScopedStrk20ViewingKey [FeltParser] [Keccak256] [StarknetCrypto] [StarkEcdsa] [Poseidon]
    (fuel : ℕ) (privateKey : Felt) (chainId poolAddress : String) : Option (Result Felt) :=
  match strk20ViewingKeyMessageHash chainId poolAddress with
  | .error e => some (.error e)
  | .ok messageHash =>
    match signStarkHash fuel privateKey messageHash with
    | none => none
    | some (.error e) => some (.error e)
    | some (.ok signature) =>
      some (foldStrk20ViewingKey signature.publicKey messageHash signature.r signature.s)

end KrustyKms.Strk20

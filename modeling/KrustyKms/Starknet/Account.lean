import KrustyKms.Crypto.Hash
import KrustyKms.Support.HashChain

/-!
# Starknet account contract addresses

An address is the Pedersen hash of what the deployment fixes, brought below the bound of addresses
by `normalize_address`.
-/

namespace KrustyKms.Account

open Crypto Support

/-- `normalize_address` of `starknet-rust-core`, which brings a hash below the bound of
addresses. -/
class NormalizeAddress where
  normalizeAddress : Felt → Felt

/-- The reduction modulo `2^251 - 256`. -/
@[reducible] def moduloNormalizeAddress : NormalizeAddress where
  normalizeAddress hash := (hash.val % (2 ^ 251 - 256) : ℕ)

def contractAddressPrefix : String := "STARKNET_CONTRACT_ADDRESS"

def encodeShortString (s : String) : Result Felt :=
  let bytes := utf8 s
  if bytes.length > 31 then
    .error (.cryptoError "Short string must be <= 31 characters")
  else .ok (Felt.fromBytesBeSlice bytes)

def hashElements [Pedersen] (elements : List Felt) : Felt :=
  let current := elements.foldl Pedersen.hash 0
  let length : Felt := ((UInt64.ofNat elements.length).toNat : ℕ)
  Pedersen.hash current length

def calculateContractAddress [Pedersen] [NormalizeAddress] (salt classHash : Felt)
    (constructorCalldata : List Felt) (deployerAddress : Felt) : Result Felt := do
  let calldataHash := hashElements constructorCalldata
  let prefixFelt ← encodeShortString contractAddressPrefix
  let elements := [prefixFelt, deployerAddress, salt, classHash, calldataHash]
  .ok (NormalizeAddress.normalizeAddress (hashElements elements))

def prefixFelt : Felt := 0x535441524b4e45545f434f4e54524143545f41444452455353

lemma encodeShortString_addressPrefix :
    encodeShortString contractAddressPrefix = .ok prefixFelt := by
  decide +kernel

lemma calculateContractAddress_eq [Pedersen] [NormalizeAddress] (salt classHash : Felt)
    (constructorCalldata : List Felt) :
    calculateContractAddress salt classHash constructorCalldata 0 =
      .ok (NormalizeAddress.normalizeAddress
        (hashElements [prefixFelt, 0, salt, classHash, hashElements constructorCalldata])) := by
  unfold calculateContractAddress
  rw [encodeShortString_addressPrefix]
  rfl

/-! ## Hashes tell their elements -/

def lengthFelt (elements : List Felt) : Felt := ((UInt64.ofNat elements.length).toNat : ℕ)

variable [Pedersen]

def elementPairs (elements : List Felt) : List (Felt × Felt) :=
  chainPairs Pedersen.hash 0 elements ++ [(elements.foldl Pedersen.hash 0, lengthFelt elements)]

theorem hashElements_injective {S : Set (Felt × Felt)}
    (hinj : Set.InjOn (fun p => Pedersen.hash p.1 p.2) S) {xs ys : List Felt}
    (hxs : xs.length < 2 ^ 64) (hys : ys.length < 2 ^ 64)
    (hp : ∀ p ∈ elementPairs xs, p ∈ S) (hp' : ∀ p ∈ elementPairs ys, p ∈ S)
    (h : hashElements xs = hashElements ys) : xs = ys := by
  rw [elementPairs, List.forall_mem_append, List.forall_mem_singleton] at hp hp'
  -- the last pairs agree, and with them the lengths and the chains
  have hl := hinj hp.2 hp'.2 h
  rw [Prod.mk.injEq] at hl
  exact foldl_hash_injective_of_length hinj (natCast_length_injective hxs hys hl.2)
    hp.1 hp'.1 hl.1

end KrustyKms.Account

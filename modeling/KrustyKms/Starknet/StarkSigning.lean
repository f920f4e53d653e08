import KrustyKms.Crypto.Scalar

/-!
# Stark keys

A private key is a number in `[1, n)` for the order `n` of the curve, and a public key the
x-coordinate of a point.
-/

namespace KrustyKms.StarkSigning

open Crypto Arithmetic

/-- Square roots in the field, as `starknet-types-core` takes them. -/
class FeltSqrt where
  sqrt : Felt → Option Felt

/-- `starknet-crypto`: the public key of a private key in `[1, n)`. -/
class StarknetCrypto where
  getPublicKey : Felt → Felt

/-- Stark curve β parameter. -/
def starkBeta : Felt := 0x6f21413efbe40de150e596d72f7a8c5609ad26c15c915c1f4cdfcb99cee9e89

def isStarkPublicKey [FeltSqrt] (x : Felt) : Bool :=
  let ySquared := x * x * x + x + starkBeta
  (FeltSqrt.sqrt ySquared).isSome

def validateStarkPrivateKey (privateKey : Felt) : Result Unit :=
  if privateKey = 0 ∨ privateKey.val ≥ curveOrder then
    .error (.cryptoError "stark private key must be in [1, curve_order)")
  else .ok ()

def starkPublicKey [StarknetCrypto] (privateKey : Felt) : Result Felt := do
  validateStarkPrivateKey privateKey
  .ok (StarknetCrypto.getPublicKey privateKey)

/-! ## Signatures -/

inductive SignError where
  | invalidMessageHash
  | invalidK
deriving DecidableEq, Repr

/-- `starknet-crypto`'s ECDSA. A signature is its `r` and `s`; an error of `verify` is its text. -/
class StarkEcdsa where
  rfc6979GenerateK : Felt → Felt → Option Felt → Felt
  sign : Felt → Felt → Felt → Except SignError (Felt × Felt)
  verify : Felt → Felt → Felt → Felt → Except String Bool

/-- Deterministic Stark-curve signature output. -/
structure StarkSignature where
  publicKey : Felt
  r : Felt
  s : Felt
deriving DecidableEq

/-- The loop of `sign_stark_hash`: a `k` that does not serve is drawn again with the next seed.
After as many rounds as the fuel there is no outcome yet. -/
def signFrom [StarknetCrypto] [StarkEcdsa] (privateKey hash : Felt) :
    ℕ → Option Felt → Option (Result StarkSignature)
  | 0, _ => none
  | fuel + 1, seed =>
    let k := StarkEcdsa.rfc6979GenerateK hash privateKey seed
    match StarkEcdsa.sign privateKey hash k with
    | .ok (r, s) => some (.ok ⟨StarknetCrypto.getPublicKey privateKey, r, s⟩)
    | .error .invalidMessageHash =>
      some (.error (.cryptoError "stark signing message hash is out of range"))
    | .error .invalidK => signFrom privateKey hash fuel (some (seed.getD 0 + 1))

def signStarkHash [StarknetCrypto] [StarkEcdsa] (fuel : ℕ) (privateKey hash : Felt) :
    Option (Result StarkSignature) :=
  match validateStarkPrivateKey privateKey with
  | .error e => some (.error e)
  | .ok () => signFrom privateKey hash fuel none

/-! ## Points and their x-coordinates -/

def IsAbscissa (x : Felt) : Prop := IsSquare (x * x * x + x + starkBeta)

theorem starkBeta_not_isSquare : ¬ IsSquare starkBeta := by
  have hc : starkBeta = (starkBeta.val : ℕ) := (ZMod.natCast_zmod_val starkBeta).symm
  have hz : ((starkBeta.val : ℕ) : Felt) ≠ 0 := by decide +kernel
  rw [hc, isSquare_iff_powMod fieldPrime_prime (by decide) hz]
  decide +kernel

lemma IsAbscissa.ne_zero {x : Felt} (h : IsAbscissa x) : x ≠ 0 := by
  intro hx
  rw [IsAbscissa, hx, mul_zero, zero_add, zero_add] at h
  exact starkBeta_not_isSquare h

/-- What the code relies on in the two crates: a root is found exactly of a square, and a
public key is the x-coordinate of a point. -/
structure SoundCurve [FeltSqrt] [StarknetCrypto] : Prop where
  sqrt_isSome : ∀ y, (FeltSqrt.sqrt y).isSome = true ↔ IsSquare y
  getPublicKey_isAbscissa : ∀ privateKey : Felt, privateKey ≠ 0 → privateKey.val < curveOrder →
    IsAbscissa (StarknetCrypto.getPublicKey privateKey)

variable [FeltSqrt] [StarknetCrypto]

lemma isStarkPublicKey_iff (hc : SoundCurve) (x : Felt) :
    isStarkPublicKey x = true ↔ IsAbscissa x :=
  hc.sqrt_isSome _

omit [FeltSqrt] in
lemma starkPublicKey_eq_ok {privateKey publicKey : Felt} :
    starkPublicKey privateKey = .ok publicKey ↔
      (privateKey ≠ 0 ∧ privateKey.val < curveOrder) ∧
        StarknetCrypto.getPublicKey privateKey = publicKey := by
  unfold starkPublicKey validateStarkPrivateKey
  split_ifs with h
  · refine iff_of_false (by intro h; cases h) ?_
    intro hkey
    rcases h with h | h
    · exact hkey.1.1 h
    · exact absurd hkey.1.2 (by omega)
  · rw [not_or, Nat.not_le] at h
    constructor
    · intro hok
      exact ⟨h, Except.ok.inj hok⟩
    · intro hkey
      rw [← hkey.2]
      rfl

lemma isAbscissa_of_starkPublicKey (hc : SoundCurve) {privateKey publicKey : Felt}
    (h : starkPublicKey privateKey = .ok publicKey) : IsAbscissa publicKey := by
  obtain ⟨⟨hne, hlt⟩, rfl⟩ := starkPublicKey_eq_ok.mp h
  exact hc.getPublicKey_isAbscissa privateKey hne hlt

end KrustyKms.StarkSigning

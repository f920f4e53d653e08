import KrustyKms.AccountClass.ArgentDecode
import KrustyKms.AccountClass.Registry
import KrustyKms.Starknet.StarkSigning

/-!
# Derivability of a concrete account deployment

`inspectDeployment` takes the fields of a deploy transaction that fix an address, and states
whether the address is a function of a seed-derived key.
-/

namespace KrustyKms.AccountClass

open Crypto Account StarkSigning

/-- Why an account's address is not a function of a seed-derived key alone. -/
inductive NotDerivableReason where
  | guardian
  | nonStarknetOwner
  | saltNotPublicKey
  | implementationClass
  | proxyTargetClass
  | unknownProxyImplementation
  | unexpectedConstructorCalldata
deriving DecidableEq

/-- Whether a deployment can be found by deriving addresses from a seed. -/
inductive Derivability where
  | fromSeed
  | notFromSeed (reason : NotDerivableReason)
  | unknownClass
deriving DecidableEq

structure DeploymentInspection where
  address : Felt
  known : Option KnownAccountClass
  ownerPublicKey : Option Felt
  guardianPublicKey : Option Felt
  derivability : Derivability
deriving DecidableEq

namespace DeploymentInspection

def unknownClass (known : Option KnownAccountClass) : DeploymentInspection :=
  ⟨0, known, none, none, .unknownClass⟩

def notFromSeed (known : KnownAccountClass) (owner : Option Felt) (reason : NotDerivableReason) :
    DeploymentInspection :=
  ⟨0, some known, owner, none, .notFromSeed reason⟩

def guarded (known : KnownAccountClass) (owner : Felt) (guardian : Option Felt) :
    DeploymentInspection :=
  ⟨0, some known, some owner, guardian, .notFromSeed .guardian⟩

def fromSeed (known : KnownAccountClass) (owner : Felt) : DeploymentInspection :=
  ⟨0, some known, some owner, none, .fromSeed⟩

end DeploymentInspection

open DeploymentInspection

def ownerSaltVerdict (known : KnownAccountClass) (owner salt : Felt) : DeploymentInspection :=
  if salt = owner then fromSeed known owner
  else notFromSeed known (some owner) .saltNotPublicKey

variable [FeltSqrt]

def malformedOwner (known : KnownAccountClass) (owner : Felt) : Option DeploymentInspection :=
  if !isStarkPublicKey owner then
    some (notFromSeed known none .unexpectedConstructorCalldata)
  else none

def inspectPublicKeyConstructor (known : KnownAccountClass) (salt : Felt) (calldata : List Felt) :
    DeploymentInspection :=
  match calldata with
  | [owner] =>
    if !isStarkPublicKey owner then notFromSeed known none .unexpectedConstructorCalldata
    else
      let zeroSaltAllowed := known.family = .openZeppelin ∧ salt = 0
      if salt = owner ∨ zeroSaltAllowed then fromSeed known owner
      else notFromSeed known (some owner) .saltNotPublicKey
  | _ => notFromSeed known none .unexpectedConstructorCalldata

def argentVerdict (known : KnownAccountClass) (salt : Felt) :
    Result DecodedArgentConstructor → DeploymentInspection
  | .error _ => notFromSeed known none .unexpectedConstructorCalldata
  | .ok (.nonStarknetOwner _) => notFromSeed known none .nonStarknetOwner
  | .ok (.starknetOwnerWithGuardian owner guardian) =>
    (malformedOwner known owner).getD (guarded known owner guardian)
  | .ok (.starknetOwnerNoGuardian owner) =>
    (malformedOwner known owner).getD (ownerSaltVerdict known owner salt)

def inspectArgentConstructor [Target] (known : KnownAccountClass) (shape : ConstructorShape)
    (salt : Felt) (calldata : List Felt) : Option DeploymentInspection := do
  let layout ← shape.argentLayout
  let decoded ← (layout.decode calldata).run
  pure (argentVerdict known salt decoded)

def inspectArgentCairo0Proxy (known : KnownAccountClass) (salt : Felt) (calldata : List Felt) :
    DeploymentInspection :=
  match calldata with
  | [implementation, selector, arity, owner, guardian] =>
    if selector ≠ ArgentCairo0.initializeSelector ∨ arity ≠ 2 then
      notFromSeed known none .unexpectedConstructorCalldata
    else (malformedOwner known owner).getD
      (if !ArgentCairo0.isKnownImplementation implementation then
        notFromSeed known (some owner) .unknownProxyImplementation
      else if guardian ≠ 0 then guarded known owner (some guardian)
      else ownerSaltVerdict known owner salt)
  | _ => notFromSeed known none .unexpectedConstructorCalldata

def classify [Target] (classHash salt : Felt) (constructorCalldata : List Felt) :
    Option DeploymentInspection :=
  match lookupAccountClass classHash with
  | none => some (unknownClass none)
  | some known =>
    match known.constructor with
    | none =>
      let reason := if known.isProxyTarget then .proxyTargetClass else .implementationClass
      some (notFromSeed known none reason)
    | some .publicKey => some (inspectPublicKeyConstructor known salt constructorCalldata)
    | some .argentOwnerGuardianFelts =>
      inspectArgentConstructor known .argentOwnerGuardianFelts salt constructorCalldata
    | some .argentSignerWithOptionalGuardian =>
      inspectArgentConstructor known .argentSignerWithOptionalGuardian salt constructorCalldata
    | some .argentCairo0Proxy => some (inspectArgentCairo0Proxy known salt constructorCalldata)

def inspectDeployment [Target] [Pedersen] [NormalizeAddress] (classHash salt : Felt)
    (constructorCalldata : List Felt) : Option DeploymentInspection := do
  let inspection ← classify classHash salt constructorCalldata
  let address ← (calculateContractAddress salt classHash constructorCalldata 0).toOption
  pure { inspection with address }

end KrustyKms.AccountClass

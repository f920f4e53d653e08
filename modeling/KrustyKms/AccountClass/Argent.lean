import KrustyKms.Crypto.Scalar

/-!
# Argent accounts and their constructor layouts

Argent changed its constructor between releases: classes up to v0.3.1 take the owner and
the guardian as field elements, the later ones an owner `Signer` and an optional guardian
`Signer`.
-/

namespace KrustyKms.AccountClass

open Crypto

/-- Constructor calldata layout of an Argent account class. -/
inductive ArgentConstructorLayout where
  | ownerGuardianFelts
  | signerWithOptionalGuardian
deriving DecidableEq

namespace ArgentConstructorLayout

def constructorCalldata (layout : ArgentConstructorLayout) (publicKey : Felt) : List Felt :=
  match layout with
  | ownerGuardianFelts => [publicKey, 0]
  | signerWithOptionalGuardian => [0, publicKey] ++ serializeCairoNone

def constructorCalldataWithGuardian (layout : ArgentConstructorLayout)
    (publicKey guardian : Felt) : List Felt :=
  if guardian = 0 then layout.constructorCalldata publicKey
  else match layout with
    | ownerGuardianFelts => [publicKey, guardian]
    | signerWithOptionalGuardian => [0, publicKey, 0, 0, guardian]

end ArgentConstructorLayout

end KrustyKms.AccountClass

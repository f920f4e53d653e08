import KrustyKms.AccountClass.Argent
import KrustyKms.Support.MayPanic

/-!
# Reading Argent constructor calldata back

`decode` recovers what derivability and verification depend on: the owner kind, the owner key and
the guardian.
-/

namespace KrustyKms.AccountClass

open Crypto Codec Support Support.MayPanic

/-- Constructor arguments recovered from on-chain calldata. -/
inductive DecodedArgentConstructor where
  | starknetOwnerNoGuardian (owner : Felt)
  | starknetOwnerWithGuardian (owner : Felt) (guardian : Option Felt)
  | nonStarknetOwner (variant : UInt8)
deriving DecidableEq

def malformed (detail : String) : KmsError :=
  .deserializationError s!"Argent constructor calldata: {detail}"

def decodeOwnerGuardianFelts (calldata : List Felt) : Result DecodedArgentConstructor :=
  match calldata with
  | [owner, guardian] =>
    if owner = 0 then .error (malformed "owner is zero")
    else if guardian = 0 then .ok (.starknetOwnerNoGuardian owner)
    else .ok (.starknetOwnerWithGuardian owner (some guardian))
  | _ => .error (malformed s!"expected [owner, guardian], got {calldata.length} felts")

/-! ## Values in range -/

def ethAddressBytes : ℕ := 20

def u128Bytes : ℕ := 16

def fits (felt : Felt) (bytes : ℕ) : Bool :=
  ((Felt.toBytesBe felt).toList.take (32 - bytes)).all fun byte => byte = 0

/-- A `u256` is `[low, high]`, each a `u128`; Argent's uses are `NonZero`. -/
def isNonzeroU256 (limbs : List Felt) : Bool :=
  limbs.length = 2 && limbs.all (fun limb => fits limb u128Bytes) && limbs.any fun limb => limb ≠ 0

variable [Target]

def smallUsize (felt : Felt) : Option ℕ :=
  let bytes := (Felt.toBytesBe felt).toList
  if (bytes.take 24).any fun byte => byte ≠ 0 then none
  else usizeTryFrom (beValue (bytes.drop 24))

/-- `WebauthnSigner`: a length-prefixed `origin` of `u8`s, then `rp_id_hash` and `pubkey`,
both non-zero `u256`s. -/
def isValidWebauthn (payload : List Felt) : MayPanic KmsError Bool :=
  match payload with
  | [] => pure false
  | originLen :: rest =>
    match smallUsize originLen with
    | none => pure false
    | some originLen => do
      -- an addition that overflows panics
      let expected ← orPanic (checkedAdd originLen 4)
      if rest.length ≠ expected then pure false
      else do
        let (origin, keys) ← splitAt rest originLen
        -- `&keys[..2]` and `&keys[2..]`
        let (rpIdHash, pubkey) ← splitAt keys 2
        pure (origin.all (fun byte => fits byte 1) && isNonzeroU256 rpIdHash &&
          isNonzeroU256 pubkey)

/-! ## Signers -/

/-- A `Signer` as far as the decoder reads it: the Starknet variant carries its key, the
others only their variant index. -/
inductive Signer where
  | starknet (key : Felt)
  | other (variant : UInt8)
deriving DecidableEq

def Signer.variant : Signer → UInt8
  | starknet _ => 0
  | other variant => variant

def signerWidth (variant : ℕ) (payload : List Felt) (what : String) : Result ℕ :=
  match variant with
  | 0 | 1 | 3 => .ok 1
  | 2 => .ok 2
  | 4 =>
    match payload.head?.bind smallUsize with
    | none => .error (malformed s!"{what} webauthn origin length")
    | some originLen =>
      match checkedAdd originLen 5 with
      | none => .error (malformed s!"{what} webauthn origin length")
      | some width => .ok width
  | _ => .error (malformed s!"{what} tag is not a Signer variant")

def isValidPayload (variant : ℕ) (payload : List Felt) : MayPanic KmsError Bool :=
  match variant with
  | 0 => do
    let key ← index payload 0
    pure (decide (key ≠ 0))
  | 1 | 3 => do
    let address ← index payload 0
    pure (decide (address ≠ 0) && fits address ethAddressBytes)
  | 2 => pure (isNonzeroU256 payload)
  | 4 => isValidWebauthn payload
  -- `unreachable!`
  | _ => orPanic none

def signerVariant (tag : Felt) : Option UInt8 :=
  (smallUsize tag).bind fun variant => if variant < 256 then some (UInt8.ofNat variant) else none

/-- Split one serialised `Signer` (variant tag already taken) off the front of `payload`,
returning it and the felts that follow. -/
def splitSigner (tag : Felt) (payload : List Felt) (what : String) :
    MayPanic KmsError (Signer × List Felt) :=
  match signerVariant tag with
  | none => throw (malformed s!"{what} tag is not a Signer variant")
  | some variant => do
    let width ← signerWidth variant.toNat payload what
    if payload.length < width then throw (malformed s!"{what} payload is truncated")
    else do
      let (payload, rest) ← splitAt payload width
      let valid ← isValidPayload variant.toNat payload
      if !valid then throw (malformed s!"{what} payload is out of range")
      else if variant = 0 then do
        let key ← index payload 0
        pure (.starknet key, rest)
      else pure (.other variant, rest)

def splitOptionalSigner (calldata : List Felt) : MayPanic KmsError (Option Signer) :=
  match calldata with
  | [] => throw (malformed "guardian option is missing")
  | tag :: rest =>
    if tag = 1 then
      if rest ≠ [] then throw (malformed "trailing felts after the guardian")
      else pure none
    else if tag = 0 then
      match rest with
      | [] => throw (malformed "guardian signer is missing")
      | tag :: payload => do
        let (signer, rest) ← splitSigner tag payload "guardian"
        if rest ≠ [] then throw (malformed "trailing felts after the guardian")
        else pure (some signer)
    else throw (malformed "guardian option tag is not 0 or 1")

def summarize (owner : Signer) (guardian : Option Signer) : DecodedArgentConstructor :=
  match owner with
  | .other _ => .nonStarknetOwner owner.variant
  | .starknet ownerKey =>
    match guardian with
    | none => .starknetOwnerNoGuardian ownerKey
    | some (.starknet key) => .starknetOwnerWithGuardian ownerKey (some key)
    | some (.other _) => .starknetOwnerWithGuardian ownerKey none

def decodeSignerWithOptionalGuardian (calldata : List Felt) :
    MayPanic KmsError DecodedArgentConstructor :=
  match calldata with
  | [] => throw (malformed "empty")
  | ownerTag :: rest => do
    let (owner, afterOwner) ← splitSigner ownerTag rest "owner"
    let guardian ← splitOptionalSigner afterOwner
    pure (summarize owner guardian)

def ArgentConstructorLayout.decode (layout : ArgentConstructorLayout) (calldata : List Felt) :
    MayPanic KmsError DecodedArgentConstructor :=
  match layout with
  | ownerGuardianFelts => liftM (decodeOwnerGuardianFelts calldata)
  | signerWithOptionalGuardian => decodeSignerWithOptionalGuardian calldata

end KrustyKms.AccountClass

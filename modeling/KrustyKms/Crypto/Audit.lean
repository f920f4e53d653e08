import KrustyKms.Crypto.Elgamal
import KrustyKms.Crypto.Hash

/-!
# Audit proofs

The prover re-encrypts its balance for an auditor and proves that both ciphertexts hold the same
balance: `(L0, R0)` under its own key `y = x G`, and `(L1, R1)` under the auditor's key.
-/

namespace KrustyKms.Crypto

open StarkCurve

variable {Point : Type} [CurvePoint Point]

structure AuditProof where
  ax : SerializablePoint
  al0 : SerializablePoint
  al1 : SerializablePoint
  ar1 : SerializablePoint
  sx : Felt
  sb : Felt
  sr : Felt
  c : Felt
deriving DecidableEq

/-- What the prefix of an audit proof binds besides the keys and the ciphertexts. -/
structure AuditPrefixData (Point : Type) where
  chainId : Felt
  tongoAddress : Felt
  senderAddress : Felt
  userPubKey : Point

namespace AuditProver

def auditCairoString : Felt := 418581342580

/-- What `random_felt` returns during one proof, in the order of the calls. -/
structure Draws where
  r1 : Felt
  kx : Felt
  kb : Felt
  kr : Felt

def refuseInfinity (point : Point) (name : String) : Result Unit :=
  if isInfinity point then .error (.cryptoError s!"{name} is point at infinity") else .ok ()

def cipherAffine (point : Point) (name : String) : Result (AffinePoint Point) :=
  match toAffine point with
  | some affine => .ok affine
  | none => .error (.cryptoError s!"{name} affine conversion failed")

def checkEncryption (validate : Bool) (privateKey : Felt) (balance : ℕ)
    (cipher0 : ElGamalCiphertext Point) : Result Unit :=
  if validate then
    let r0X := mul privateKey (some cipher0.r)
    let gBComputed := cipher0.l - r0X
    let gBExpected := mul (balance : Felt) (some generator)
    if gBComputed ≠ gBExpected then
      .error (.cryptoError "cipher0 is not a valid encryption of the balance")
    else .ok ()
  else .ok ()

/-- The first component of `cipher1`; a zero balance takes its own branch. -/
def auditL (balance : ℕ) (auditorR1 : Point) : Point :=
  if balance = 0 then auditorR1
  else
    let gB := mul (balance : Felt) (some generator)
    add gB auditorR1

variable [Poseidon]

def prefixInputs (pd : AuditPrefixData Point) (cipher0 cipher1 : ElGamalCiphertext Point)
    (auditorPubKey : Point) : Result (List Felt) := do
  let userAffine ← projectiveToAffine pd.userPubKey
  let auditorAffine ← projectiveToAffine auditorPubKey
  let c0L ← cipherAffine cipher0.l "cipher0.l"
  let c0R ← cipherAffine cipher0.r "cipher0.r"
  let c1L ← cipherAffine cipher1.l "cipher1.l"
  let c1R ← cipherAffine cipher1.r "cipher1.r"
  pure [pd.chainId, pd.tongoAddress, pd.senderAddress, auditCairoString,
    userAffine.x, userAffine.y, auditorAffine.x, auditorAffine.y,
    c0L.x, c0L.y, c0R.x, c0R.y, c1L.x, c1L.y, c1R.x, c1R.y]

def computedPrefix (prefixData : Option (AuditPrefixData Point))
    (cipher0 cipher1 : ElGamalCiphertext Point) (auditorPubKey : Point) : Result Felt :=
  match prefixData with
  | some pd => do
    let felts ← prefixInputs pd cipher0 cipher1 auditorPubKey
    pure (poseidonHashMany felts)
  | none => pure auditCairoString

def proveWithValidation (draws : Draws) (privateKey : Felt) (balance : ℕ)
    (cipher0 : ElGamalCiphertext Point) (auditorPubKey : Point) (validate : Bool)
    (prefixData : Option (AuditPrefixData Point)) :
    Result (AuditProof × ElGamalCiphertext Point) := do
  let g : Point := generator
  refuseInfinity cipher0.l "cipher0.l"
  refuseInfinity cipher0.r "cipher0.r"
  refuseInfinity auditorPubKey "auditor_pub_key"
  checkEncryption validate privateKey balance cipher0
  let auditorR1 := mul draws.r1 (some auditorPubKey)
  let l1 := auditL balance auditorR1
  let r1Point := mul draws.r1 (some g)
  refuseInfinity l1 "cipher1.l"
  refuseInfinity r1Point "cipher1.r"
  let cipher1 : ElGamalCiphertext Point := { l := l1, r := r1Point }
  let ax := mul draws.kx (some g)
  refuseInfinity ax "Ax"
  let gKb := mul draws.kb (some g)
  let r0Kx := mul draws.kx (some cipher0.r)
  let al0 := add gKb r0Kx
  refuseInfinity al0 "AL0"
  let ar1 := mul draws.kr (some g)
  refuseInfinity ar1 "AR1"
  let auditorKr := mul draws.kr (some auditorPubKey)
  let al1 := add gKb auditorKr
  refuseInfinity al1 "AL1"
  let prefixFelt ← computedPrefix prefixData cipher0 cipher1 auditorPubKey
  let c ← computePoseidonChallenge prefixFelt [ax, al0, al1, ar1]
  let cX ← scalarMul c privateKey
  let sx ← scalarAdd draws.kx cX
  let cB ← scalarMul c (balance : Felt)
  let sb ← scalarAdd draws.kb cB
  let cR1 ← scalarMul c draws.r1
  let sr ← scalarAdd draws.kr cR1
  let proof := {
    ax := ← SerializablePoint.tryFromProjective ax
    al0 := ← SerializablePoint.tryFromProjective al0
    al1 := ← SerializablePoint.tryFromProjective al1
    ar1 := ← SerializablePoint.tryFromProjective ar1
    sx, sb, sr, c }
  pure (proof, cipher1)

def prove (draws : Draws) (privateKey : Felt) (balance : ℕ) (cipher0 : ElGamalCiphertext Point)
    (auditorPubKey : Point) (prefixData : Option (AuditPrefixData Point)) :
    Result (AuditProof × ElGamalCiphertext Point) :=
  proveWithValidation draws privateKey balance cipher0 auditorPubKey true prefixData

def verify (proof : AuditProof) (userPubKey : Point) (cipher0 cipher1 : ElGamalCiphertext Point)
    (auditorPubKey : Point) (prefixData : Option (AuditPrefixData Point)) : Result Bool := do
  let g : Point := generator
  let ax := affineToProjective (← (proof.ax.toAffine : Result (AffinePoint Point)))
  let al0 := affineToProjective (← (proof.al0.toAffine : Result (AffinePoint Point)))
  let al1 := affineToProjective (← (proof.al1.toAffine : Result (AffinePoint Point)))
  let ar1 := affineToProjective (← (proof.ar1.toAffine : Result (AffinePoint Point)))
  let prefixFelt ← computedPrefix prefixData cipher0 cipher1 auditorPubKey
  let cComputed ← computePoseidonChallenge prefixFelt [ax, al0, al1, ar1]
  if proof.c ≠ cComputed then
    return false
  let lhs1 := mul proof.sx (some g)
  let yC := mul proof.c (some userPubKey)
  let rhs1 := add ax yC
  if lhs1 ≠ rhs1 then
    return false
  let gSb := mul proof.sb (some g)
  let r0Sx := mul proof.sx (some cipher0.r)
  let lhs2 := add gSb r0Sx
  let cL0 := mul proof.c (some cipher0.l)
  let rhs2 := add al0 cL0
  if lhs2 ≠ rhs2 then
    return false
  let lhs3 := mul proof.sr (some g)
  let r1C := mul proof.c (some cipher1.r)
  let rhs3 := add ar1 r1C
  if lhs3 ≠ rhs3 then
    return false
  let auditorSr := mul proof.sr (some auditorPubKey)
  let lhs4 := add gSb auditorSr
  let cL1 := mul proof.c (some cipher1.l)
  let rhs4 := add al1 cL1
  if lhs4 ≠ rhs4 then
    return false
  return true

end AuditProver

end KrustyKms.Crypto

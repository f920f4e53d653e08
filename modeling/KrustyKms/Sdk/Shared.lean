import KrustyKms.Common.Crates
import KrustyKms.Crypto.Audit
import KrustyKms.Crypto.Range

/-!
# Tongo accounts and what their operations share

Amounts are `u128` values, here natural numbers, and the balances of an account state carry their
bound; what `random_felt` and `random_bytes` return is an argument.
-/

namespace KrustyKms.Sdk

open Codec Crypto StarkCurve

variable {Point : Type} [CurvePoint Point]

structure AccountState where
  balance : ℕ
  pendingBalance : ℕ
  nonce : UInt64
  balance_lt : balance < 2 ^ 128
  pendingBalance_lt : pendingBalance < 2 ^ 128

instance : Inhabited AccountState := ⟨⟨0, 0, 0, by decide, by decide⟩⟩

structure TongoAccount (Point : Type) [CurvePoint Point] where
  ownerPrivateKey : Felt
  ownerPublicKey : Point
  state : AccountState
  contractAddress : Felt
  publicKey_eq : ownerPublicKey = mulGenerator ownerPrivateKey

namespace TongoAccount

def fromPrivateKey (privateKey contractAddress : Felt) : TongoAccount Point where
  ownerPrivateKey := privateKey
  ownerPublicKey := mulGenerator privateKey
  state := default
  contractAddress := contractAddress
  publicKey_eq := rfl

def balance (account : TongoAccount Point) : ℕ := account.state.balance

def setBalance (account : TongoAccount Point) (balance : ℕ) (h : balance < 2 ^ 128) :
    TongoAccount Point :=
  { account with state := { account.state with balance := balance, balance_lt := h } }

def hasSufficientBalance (account : TongoAccount Point) (amount : ℕ) : Bool :=
  decide (amount ≤ account.state.balance)

end TongoAccount

/-! ## Hints for the auditor -/

section Hints

variable [Sha256] [XChaCha20Poly1305]

def deriveSharedSecret (myPrivateKey : Felt) (otherPublicKey : Point) :
    Result (Vector UInt8 32) := do
  let sharedPoint := mul myPrivateKey (some otherPublicKey)
  let affine ← projectiveToAffine sharedPoint
  pure (Sha256.digest (utf8 "TONGO_AUDIT_KEY_V1" ++ (Felt.toBytesBe affine.x).toList))

def encryptAuditHint (nonce : Vector UInt8 24) (plaintextBalance : ℕ)
    (sharedSecret : Vector UInt8 32) : Result (Vector UInt8 64 × Vector UInt8 24) :=
  match XChaCha20Poly1305.encrypt sharedSecret nonce (beBytes 16 plaintextBalance) with
  | .ok ciphertext => .ok (Vector.ofFn fun i => ciphertext.getD i 0, nonce)
  | .error e => .error (.cryptoError s!"Encryption failed: {e}")

def encryptForAuditor (nonce : Vector UInt8 24) (balance : ℕ) (userPrivateKey : Felt)
    (auditorPublicKey : Point) : Result (Vector UInt8 64 × Vector UInt8 24) := do
  let sharedSecret ← deriveSharedSecret userPrivateKey auditorPublicKey
  encryptAuditHint nonce balance sharedSecret

def decryptAuditHint (ciphertext : Vector UInt8 64) (nonce : Vector UInt8 24)
    (sharedSecret : Vector UInt8 32) : Result ℕ :=
  match XChaCha20Poly1305.decrypt sharedSecret nonce (ciphertext.toList.take 32) with
  | .ok plaintext =>
    if plaintext.length ≠ 16 then
      .error (.cryptoError s!"Invalid plaintext length: expected 16, got {plaintext.length}")
    else .ok (beValue plaintext)
  | .error e => .error (.cryptoError s!"Decryption failed: {e}")

def decryptAsAuditor (ciphertext : Vector UInt8 64) (nonce : Vector UInt8 24)
    (auditorPrivateKey : Felt) (userPublicKey : Point) : Result ℕ := do
  let sharedSecret ← deriveSharedSecret auditorPrivateKey userPublicKey
  decryptAuditHint ciphertext nonce sharedSecret

end Hints

/-! ## Parts of the operations -/

structure Audit (Point : Type) where
  auditedBalance : ElGamalCiphertext Point
  hintCiphertext : Vector UInt8 64
  hintNonce : Vector UInt8 24
  proof : AuditProof
deriving DecidableEq

structure AuditDraws where
  proof : AuditProver.Draws
  hintNonce : Vector UInt8 24

def randomFelts (draw : ℕ → Felt) (count : ℕ) : List Felt := (List.range count).map draw

def verifyCipherEncryptsBalance (cipher : ElGamalCiphertext Point) (x : Felt) (balance : ℕ)
    (g : Point) : Result Unit := do
  let r0X := mul x (some cipher.r)
  let negR0X ← negatePoint r0X
  let gB := add cipher.l negR0X
  let expectedGB := mul (balance : Felt) (some g)
  let gBAffine ← projectiveToAffine gB
  let expectedGBAffine ← projectiveToAffine expectedGB
  if gBAffine ≠ expectedGBAffine then
    throw (.cryptoError "storedBalance is not an encryption of balance")

def subtractPoint (minuend subtrahend : Point) : Result Point := do
  let negated ← negatePoint subtrahend
  pure (add minuend negated)

def buildAudit [Poseidon] [Sha256] [XChaCha20Poly1305] (draws : AuditDraws) (privateKey : Felt)
    (balance : ℕ) (cipher : ElGamalCiphertext Point) (auditor : Point) (validate : Bool)
    (prefixData : AuditPrefixData Point) : Result (Audit Point) := do
  let (proof, auditedBalance) ← AuditProver.proveWithValidation draws.proof privateKey balance
    cipher auditor validate (some prefixData)
  let (hintCiphertext, hintNonce) ← encryptForAuditor draws.hintNonce balance privateKey auditor
  pure { auditedBalance, hintCiphertext, hintNonce, proof }

end KrustyKms.Sdk

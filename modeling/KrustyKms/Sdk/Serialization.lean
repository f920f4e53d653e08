import KrustyKms.Sdk.Fund
import KrustyKms.Sdk.Transfer

/-!
# Cairo serialization of proofs and hints

The felts that stand for a value in the calldata of the contract.
-/

namespace KrustyKms.Sdk

open Codec Crypto

variable {Point : Type} [CurvePoint Point]

def serializeProjectivePoint (point : Point) : Result (Felt × Felt) :=
  match toAffine point with
  | some affine => .ok (affine.x, affine.y)
  | none => .error (.cryptoError "Invalid point")

def serializePoeProof (proof : PoeProof) : Result (List Felt) := .ok [proof.a.x, proof.a.y, proof.s]

def checkedMulU128 (a b : ℕ) : Option ℕ := if a * b < 2 ^ 128 then some (a * b) else none

def u128ToU256 (value : ℕ) : Felt × Felt := ((value : Felt), 0)

def u256ToU128 (low high : Felt) : Result ℕ := do
  if high ≠ 0 then throw (.cryptoError "Value too large for u128")
  let bytes := (Felt.toBytesBe low).toList
  if (bytes.take 16).any (· ≠ 0) then throw (.cryptoError "Value too large for u128")
  pure (beValue (bytes.drop 16))

def limbAt (bytes : Bytes) (start : ℕ) : Felt := (beValue ((bytes.drop start).take 16) : ℕ)

def bytesToU512 (bytes : Bytes) : Felt × Felt × Felt × Felt :=
  (limbAt bytes 0, limbAt bytes 16, limbAt bytes 32, limbAt bytes 48)

def bytesToU256 (bytes : Bytes) : Felt × Felt := (limbAt bytes 16, limbAt bytes 0)

def serializeAeBalance (ciphertextBytes nonceBytes : Bytes) : Result (List Felt) := do
  if ciphertextBytes.length ≠ 64 then
    throw (.cryptoError s!"Ciphertext must be 64 bytes, got {ciphertextBytes.length}")
  if nonceBytes.length ≠ 24 then
    throw (.cryptoError s!"Nonce must be 24 bytes, got {nonceBytes.length}")
  let (ct0, ct1, ct2, ct3) := bytesToU512 ciphertextBytes
  let (nonceLow, nonceHigh) := bytesToU256 (nonceBytes ++ List.replicate 8 0)
  pure [ct0, ct1, ct2, ct3, nonceLow, nonceHigh]

def serializeAuditProof (proof : AuditProof) : Result (List Felt) := .ok [
  proof.ax.x, proof.ax.y, proof.al0.x, proof.al0.y, proof.al1.x, proof.al1.y, proof.ar1.x,
  proof.ar1.y, proof.sx, proof.sb, proof.sr]

def serializeCipherBalance (cipher : ElGamalCiphertext Point) : Result (List Felt) := do
  let (lX, lY) ← serializeProjectivePoint cipher.l
  let (rX, rY) ← serializeProjectivePoint cipher.r
  pure [lX, lY, rX, rY]

structure AuditCalldata (Point : Type) where
  auditedBalance : ElGamalCiphertext Point
  hintCiphertext : Vector UInt8 64
  hintNonce : Vector UInt8 24
  proof : AuditProof

def serializeAuditOption : Option (AuditCalldata Point) → Result (List Felt)
  | none => .ok serializeCairoNone
  | some audit => do
    let balance ← serializeCipherBalance audit.auditedBalance
    let hint ← serializeAeBalance audit.hintCiphertext.toList audit.hintNonce.toList
    let proof ← serializeAuditProof audit.proof
    pure (serializeCairoSome [] ++ balance ++ hint ++ proof)

def serializeBitProof (proof : ProofOfBit) : Result (List Felt) :=
  .ok [proof.a0.x, proof.a0.y, proof.a1.x, proof.a1.y, proof.c0, proof.s0, proof.s1]

def serializePoints (points : List SerializablePoint) : List Felt :=
  points.flatMap fun point => [point.x, point.y]

def serializeRange (range : Range) : Result (List Felt) := do
  let proofs ← range.proofs.mapM serializeBitProof
  pure ((range.commitments.length : Felt) :: serializePoints range.commitments ++
    (range.proofs.length : Felt) :: proofs.flatten)

def serializeProofOfTransfer (proof : ProofOfTransfer) : Result (List Felt) := do
  let range ← serializeRange proof.range
  let range2 ← serializeRange proof.range2
  pure (serializePoints [proof.aX, proof.aR, proof.aR2, proof.aB, proof.aB2, proof.aV, proof.aV2,
    proof.aBar] ++ [proof.sX, proof.sR, proof.sB, proof.sB2, proof.sR2] ++ range ++ range2)

/-! ## What is never refused -/

lemma serializeProjectivePoint_affine (a : AffinePoint Point) :
    serializeProjectivePoint (StarkCurve.affineToProjective a) = .ok (a.x, a.y) := by
  unfold serializeProjectivePoint
  rw [toAffine_eq_some.mpr rfl]

lemma exists_serializeAeBalance (ciphertext : Vector UInt8 64) (nonce : Vector UInt8 24) :
    ∃ felts, serializeAeBalance ciphertext.toList nonce.toList = .ok felts := by
  unfold serializeAeBalance
  rw [if_neg (by simp), if_neg (by simp)]
  exact ⟨_, rfl⟩

lemma serializeCipherBalance_affine (l r : AffinePoint Point) :
    serializeCipherBalance ⟨StarkCurve.affineToProjective l, StarkCurve.affineToProjective r⟩ =
      .ok [l.x, l.y, r.x, r.y] := by
  unfold serializeCipherBalance
  simp only [serializeProjectivePoint_affine]
  rfl

lemma exists_serializeAuditOption (l r : AffinePoint Point) (ciphertext : Vector UInt8 64)
    (nonce : Vector UInt8 24) (proof : AuditProof) :
    ∃ felts, serializeAuditOption (some ⟨⟨StarkCurve.affineToProjective l,
      StarkCurve.affineToProjective r⟩, ciphertext, nonce, proof⟩) = .ok felts := by
  obtain ⟨hint, hh⟩ := exists_serializeAeBalance ciphertext nonce
  unfold serializeAuditOption
  simp only [serializeCipherBalance_affine, hh]
  exact ⟨_, rfl⟩

lemma exists_serializeRange (range : Range) : ∃ felts, serializeRange range = .ok felts := by
  have hp : ∀ proofs : List ProofOfBit,
      ∃ felts, proofs.mapM serializeBitProof = .ok felts := by
    intro proofs
    induction proofs with
    | nil => exact ⟨[], rfl⟩
    | cons proof proofs ih =>
      obtain ⟨felts, hf⟩ := ih
      rw [List.mapM_cons, hf]
      exact ⟨_, rfl⟩
  obtain ⟨felts, hf⟩ := hp range.proofs
  unfold serializeRange
  rw [hf]
  exact ⟨_, rfl⟩

lemma exists_serializeProofOfTransfer (proof : ProofOfTransfer) :
    ∃ felts, serializeProofOfTransfer proof = .ok felts := by
  obtain ⟨range, hr⟩ := exists_serializeRange proof.range
  obtain ⟨range2, hrange2⟩ := exists_serializeRange proof.range2
  unfold serializeProofOfTransfer
  rw [hr, hrange2]
  exact ⟨_, rfl⟩

end KrustyKms.Sdk

import KrustyKms.Sdk.Ragequit
import KrustyKms.Sdk.SharedTheorems

/-!
# The check of the stored balance, and ragequit

* `cipherCheck_exact_iff`: the check of a ciphertext against a balance is exact where
  neither the subtracted point nor the balance is zero; a ragequit that returns satisfies
  the equations of the contract's verifier, and its audit is accepted for the balance zero.
-/

namespace KrustyKms.Sdk

open Codec Crypto StarkCurve Support

section Correct

-- two products of a point are compared by their factors, not by their computation
attribute [local irreducible] StarkCurve.mul

variable {Point : Type} [CurvePoint Point] [Poseidon] [Sha256] [XChaCha20Poly1305]
  {draws : RagequitDraws} {account : TongoAccount Point} {params : RagequitParams Point}
  {out : RagequitProof Point}

lemma ragequitAudit_eq_ok {draws : AuditDraws} {audit : Option (Audit Point)} :
    ragequitAudit draws account params = .ok audit ↔
      (params.auditorKey = none ∧ audit = none) ∨
      ∃ auditorKey emitted, params.auditorKey = some auditorKey ∧
        buildAudit draws account.ownerPrivateKey 0 ⟨account.ownerPublicKey, generator⟩ auditorKey
          true (params.auditPrefix account.ownerPublicKey) = .ok emitted ∧
        audit = some emitted := by
  unfold ragequitAudit
  cases params.auditorKey with
  | none => simp [pure, Except.pure, eq_comm]
  | some auditorKey =>
    simp only [except_bind_eq_ok, reduceCtorEq, false_and, false_or, Option.some.injEq]
    constructor
    · intro h
      obtain ⟨emitted, hem, h⟩ := h
      exact ⟨auditorKey, emitted, rfl, hem, (Except.ok.inj h).symm⟩
    · intro h
      obtain ⟨_, emitted, rfl, hem, rfl⟩ := h
      exact ⟨emitted, hem, rfl⟩

lemma auditVerifies_of_ragequitAudit {draws : AuditDraws} {audit : Option (Audit Point)}
    (h : ragequitAudit draws account params = .ok audit) :
    AuditVerifies audit params.auditorKey account.ownerPrivateKey 0
      ⟨account.ownerPublicKey, generator⟩ (params.auditPrefix account.ownerPublicKey) := by
  rcases ragequitAudit_eq_ok.mp h with ⟨hn, rfl⟩ | ⟨auditorKey, emitted, hs, hem, rfl⟩
  · rw [hn]
    exact auditVerifies_none
  · rw [hs]
    exact auditVerifies_of_buildAudit hem ((buildAudit_eq_ok.mp hem).1.encrypts rfl)

def quitted (draws : RagequitDraws) (account : TongoAccount Point)
    (params : RagequitParams Point) (c : Felt) (audit : Option (Audit Point)) :
    RagequitProof Point where
  y := account.ownerPublicKey
  aX := mul draws.kx (some generator)
  aR := mul draws.kx (some params.currentBalance.r)
  sx := answer draws.kx c account.ownerPrivateKey
  amount := account.balance
  recipient := params.recipientAddress
  audit

lemma ragequit_eq_ok :
    ragequit draws account params = .ok out ↔
      verifyCipherEncryptsBalance params.currentBalance account.ownerPrivateKey account.balance
        generator = .ok () ∧
      ∃ yAffine prefixFelt c audit,
        affineToProjective yAffine = account.ownerPublicKey ∧
        params.prefixOf yAffine account.balance = .ok prefixFelt ∧
        out = quitted draws account params c audit ∧
        computePoseidonChallenge prefixFelt [out.aX, out.aR] = .ok c ∧
        ragequitAudit draws.audit account params = .ok audit := by
  unfold ragequit
  simp only [except_bind_eq_ok, projectiveToAffine_eq_ok, except_mapError_eq_ok,
    exists_scalarAdd_scalarMul]
  constructor
  · intro h
    obtain ⟨yAffine, hy, _, hch, prefixFelt, hpre, c, hc, audit, ha, h⟩ := h
    obtain rfl := Except.ok.inj h
    exact ⟨hch, yAffine, prefixFelt, c, audit, hy, hpre, rfl, hc, ha⟩
  · intro h
    obtain ⟨hch, yAffine, prefixFelt, c, audit, hy, hpre, rfl, hc, ha⟩ := h
    exact ⟨yAffine, hy, (), hch, prefixFelt, hpre, c, hc, audit, ha, rfl⟩

structure RagequitProof.Correct (out : RagequitProof Point) (account : TongoAccount Point)
    (params : RagequitParams Point) (yAffine : AffinePoint Point) (prefixFelt c : Felt) :
    Prop where
  y : affineToProjective yAffine = out.y ∧ out.y = account.ownerPublicKey
  sent : out.amount = account.balance ∧ out.recipient = params.recipientAddress
  recomputed : params.prefixOf yAffine out.amount = .ok prefixFelt
  challenge : computePoseidonChallenge prefixFelt [out.aX, out.aR] = .ok c
  aX : mul out.sx (some generator) = add out.aX (mul c (some out.y))
  aR : mul out.sx (some params.currentBalance.r) = add out.aR
    (mul c (some (params.currentBalance.l - mul (account.balance : Felt) (some generator))))
  audit : AuditVerifies out.audit params.auditorKey account.ownerPrivateKey 0
    ⟨account.ownerPublicKey, generator⟩ (params.auditPrefix account.ownerPublicKey)

lemma correct_of_ragequit (h : ragequit draws account params = .ok out) :
    ∃ yAffine prefixFelt c, out.Correct account params yAffine prefixFelt c := by
  obtain ⟨hch, yAffine, prefixFelt, c, audit, hy, hpre, rfl, hc, ha⟩ :=
    ragequit_eq_ok.mp h
  obtain ⟨-, -, hen⟩ := verifyCipherEncryptsBalance_eq_ok.mp hch
  have ho : account.ownerPublicKey = mul account.ownerPrivateKey (some generator) := by
    rw [account.publicKey_eq, mulGenerator_eq_mul]
  -- what is left of the ciphertext without the balance is the shared point
  have hs : params.currentBalance.l - mul (account.balance : Felt) (some generator) =
      mul account.ownerPrivateKey (some params.currentBalance.r) := by
    rw [ElGamal.encrypts_iff.mp hen, mul_eq_smul, mul_eq_smul, add_sub_cancel_left]
  refine ⟨yAffine, prefixFelt, c, ⟨hy, rfl⟩, ⟨rfl, rfl⟩, hpre, hc, ?_, ?_,
    auditVerifies_of_ragequitAudit ha⟩
  · show mul (answer _ c _) (some generator) = _
    rw [mul_answer, ← ho]
    rfl
  · show mul (answer _ c _) (some params.currentBalance.r) = _
    rw [mul_answer, hs]
    rfl

omit [Poseidon] [Sha256] [XChaCha20Poly1305] in
lemma mul_balance_ne_zero {balance : ℕ} (h : balance < 2 ^ 128) :
    mul (balance : Felt) (some (generator : Point)) ≠ 0 ↔ balance ≠ 0 := by
  have hf : 2 ^ 128 < fieldPrime := by decide
  have ho : 2 ^ 128 < curveOrder := by decide
  rw [mul_eq_smul, residueFromFelt_natCast (by omega), ne_eq, ne_eq, smul_eq_zero,
    or_iff_left generator_ne_zero, ZMod.natCast_eq_zero_iff, not_iff_not]
  constructor
  · intro hdvd
    exact Nat.eq_zero_of_dvd_of_lt hdvd (by omega)
  · intro hz
    rw [hz]
    exact dvd_zero _

/-- The check of a ciphertext succeeds exactly for encryptions of the balance, precisely
when the ciphertext is not one or neither the balance nor the subtracted point is zero; and
a ragequit that returns satisfies its equations and is audited for the balance zero. -/
theorem cipherCheck_exact_iff (cipher : ElGamalCiphertext Point) (x : Felt) (balance : ℕ)
    (hbalance : balance < 2 ^ 128) :
    ((verifyCipherEncryptsBalance cipher x balance generator = .ok () ↔
        cipher.l - mul x (some cipher.r) = mul (balance : Felt) (some generator)) ↔
      (cipher.l - mul x (some cipher.r) ≠ mul (balance : Felt) (some generator) ∨
        mul x (some cipher.r) ≠ 0 ∧ balance ≠ 0)) ∧
    ∀ (draws : RagequitDraws) (account : TongoAccount Point) (params : RagequitParams Point)
      (out : RagequitProof Point), ragequit draws account params = .ok out →
        ∃ yAffine prefixFelt c, out.Correct account params yAffine prefixFelt c := by
  refine ⟨?_, fun draws account params out h => correct_of_ragequit h⟩
  have hen : ElGamal.Encrypts cipher x balance ↔
      cipher.l - mul x (some cipher.r) = mul (balance : Felt) (some generator) := by
    rw [ElGamal.Encrypts, add_eq, sub_eq_iff_eq_add]
  rw [verifyCipherEncryptsBalance_eq_ok, mul_balance_ne_zero hbalance, hen]
  tauto

end Correct

namespace Ragequit

section Sample

def sampleInputs : List Felt :=
  [0x534e5f5345504f4c4941, 123456, 789, ragequitCairoString] ++ sampleTable.felts [7] ++
    [1, 2, 555] ++ sampleTable.felts [23, 3]

def samplePrefixFelt : Felt := 0x5fe69d27cf1e00e3568a6c30b98ae1cf3b11655814dde0d4e46e3e70de779c2

def sigmaChallenge : Felt := 0x7e399fb0be07cc3330bc922da8e626cde50a9147c5f1f75fa664a653fd8dfae
def auditChallenge : Felt := 0x2b3111ed821b52a974a0729480770cf09258f4328309c92dc2c636958cf0beb

def auditInputs : List Felt :=
  [0x534e5f5345504f4c4941, 123456, 789, AuditProver.auditCairoString] ++
    sampleTable.felts [7, 11, 7, 1, 77, 7]

def auditPrefixFelt : Felt := 0x6740a0ca9a71111f726f73b6d527bada125cbf6140aa17339d9d3a3d74555ee

@[reducible] def samplePoseidon : Poseidon := tablePoseidon [
  (sampleInputs, samplePrefixFelt),
  (samplePrefixFelt :: sampleTable.felts [5, 15], sigmaChallenge),
  (auditInputs, auditPrefixFelt),
  (auditPrefixFelt :: sampleTable.felts [3, 7, 15, 1], auditChallenge)]

def zeroHint : Bytes :=
  beBytes 32 0xd4f72db55f673491dc78211dc852cb6d98a5cf835d3aeaa7c41d0bbf285bb682

@[reducible] def zeroAead : XChaCha20Poly1305 := tableXChaCha20Poly1305 [
  ⟨beVector 32 sharedKey, balanceNonce, beBytes 16 0, zeroHint⟩]

attribute [local instance] sampleCurve samplePoseidon Reference.sha256 zeroAead

def sampleDraws : RagequitDraws := ⟨5, ⟨⟨7, 3, 4, 1⟩, balanceNonce⟩⟩

def sampleParams : RagequitParams CyclicPoint where
  recipientAddress := 555
  nonce := 1
  chainId := 0x534e5f5345504f4c4941
  tongoAddress := 123456
  senderAddress := 789
  currentBalance := sampleBalance
  auditorKey := some (CyclicPoint.mk 11)

def sampleAudit : Audit CyclicPoint where
  auditedBalance := ⟨CyclicPoint.mk 77, CyclicPoint.mk 7⟩
  hintCiphertext := Vector.ofFn fun i => zeroHint.getD i 0
  hintNonce := balanceNonce
  proof := {
    ax := sampleTable.point 3
    al0 := sampleTable.point 7
    al1 := sampleTable.point 15
    ar1 := sampleTable.point 1
    sx := 0x2e577d7e8ebf40823063220f83415a9d104c5fa8384e39fc869735e121cb912
    sb := 4
    sr := 0x2e577d7e8ebf40823063220f83415a9d104c5fa8384e39fc869735e121cb910
    c := auditChallenge }

def sampleOut : RagequitProof CyclicPoint where
  y := CyclicPoint.mk 7
  aX := CyclicPoint.mk 5
  aR := CyclicPoint.mk 15
  sx := 0x73935dd532368f065527ff3f9e4b0fbc72e30fca52baf0d22643b3aac484ead
  amount := 2
  recipient := 555
  audit := some sampleAudit

lemma sample_audit : ragequitAudit sampleDraws.audit sampleAccount sampleParams =
    .ok (some sampleAudit) := by
  refine ragequitAudit_eq_ok.mpr (.inr ⟨CyclicPoint.mk 11, sampleAudit, rfl, ?_, rfl⟩)
  rw [buildAudit_eq_ok, sampleAccount_owner]
  refine ⟨?_, ?_⟩
  · constructor
    case challenge =>
      simp only [sampleTable.curve_smul]
      exact ⟨auditPrefixFelt, by decide +kernel, by decide +kernel⟩
    case cipher1_eq | ax_eq | al0_eq | al1_eq | ar1_eq =>
      simp only [sampleTable.curve_smul]
      decide +kernel
    case encrypts =>
      rw [ElGamal.encrypts_iff]
      simp only [sampleTable.curve_smul]
      decide +kernel
    all_goals decide +kernel
  · unfold encryptForAuditor deriveSharedSecret
    simp only [mul_eq_smul, sampleTable.curve_smul]
    decide +kernel

def sampleY : AffinePoint CyclicPoint :=
  ⟨(sampleTable.point 7).x, (sampleTable.point 7).y, sampleOwner_onCurve⟩

lemma sample_checked : mul 7 (some sampleBalance.r) ≠ 0 ∧
    mul ((2 : ℕ) : Felt) (some (generator : CyclicPoint)) ≠ 0 ∧
      ElGamal.Encrypts sampleBalance 7 (2 : ℕ) := by
  rw [ElGamal.encrypts_iff]
  simp only [mul_eq_smul, sampleTable.curve_smul]
  decide +kernel

lemma sample_ragequit : ragequit sampleDraws sampleAccount sampleParams = .ok sampleOut := by
  refine ragequit_eq_ok.mpr ⟨verifyCipherEncryptsBalance_eq_ok.mpr sample_checked, sampleY,
    samplePrefixFelt, sigmaChallenge, some sampleAudit, ?_, by decide +kernel, ?_,
    by decide +kernel, sample_audit⟩
  · rw [sampleAccount_owner]
    decide +kernel
  · unfold quitted
    rw [sampleAccount_owner]
    simp only [mul_eq_smul, sampleTable.curve_smul]
    decide +kernel

/-- The check is exact for an encryption of two coins, with which the account quits under
the eyes of an auditor. -/
theorem sampleRagequit_correct :
    (verifyCipherEncryptsBalance sampleBalance 7 2 generator = .ok () ∧
      sampleBalance.l - mul 7 (some sampleBalance.r) = mul ((2 : ℕ) : Felt) (some generator)) ∧
    ragequit sampleDraws sampleAccount sampleParams = .ok sampleOut ∧
    ∃ yAffine prefixFelt c, sampleOut.Correct sampleAccount sampleParams yAffine prefixFelt c := by
  have h := cipherCheck_exact_iff sampleBalance 7 2 (by decide)
  have hc : verifyCipherEncryptsBalance sampleBalance 7 2 generator = .ok () :=
    verifyCipherEncryptsBalance_eq_ok.mpr sample_checked
  have hex := h.1.mpr (.inr ⟨sample_checked.1, by decide⟩)
  exact ⟨⟨hc, hex.mp hc⟩, sample_ragequit, h.2 _ _ _ _ sample_ragequit⟩

/-- The ciphertext `(y, g)` that a ragequit leaves holds the balance zero, and the check
refuses it. -/
theorem zero_balance_refused :
    (CyclicPoint.mk 7 - mul 7 (some (CyclicPoint.mk 1)) =
      mul ((0 : ℕ) : Felt) (some generator)) ∧
    verifyCipherEncryptsBalance ⟨CyclicPoint.mk 7, CyclicPoint.mk 1⟩ 7 0
      (generator : CyclicPoint) ≠ .ok () := by
  refine ⟨?_, ?_⟩
  · simp only [mul_eq_smul, sampleTable.curve_smul]
    decide +kernel
  · rw [ne_eq, verifyCipherEncryptsBalance_eq_ok, mul_balance_ne_zero (by decide)]
    intro h
    exact h.2.1 rfl

end Sample

end Ragequit

end KrustyKms.Sdk

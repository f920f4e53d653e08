import KrustyKms.Sdk.SharedTheorems
import KrustyKms.Sdk.Withdraw

/-!
# Withdrawals are correct

* `withdraw_correct`: whatever the randomness, a withdrawal that returns satisfies the four
  equations of the contract's verifier, its range proof is verified and its audit accepted.
-/

namespace KrustyKms.Sdk

open Codec Crypto StarkCurve Support MayPanic

section Correct

-- two products of a point are compared by their factors, not by their computation
attribute [local irreducible] StarkCurve.mul

variable {Point : Type} [CurvePoint Point]

/-! ## What a withdrawal computes -/

lemma getElem?_randomFelts {draw : ℕ → Felt} {count i : ℕ} {k : Felt} (hi : i < count) :
    (randomFelts draw count)[i]? = some k ↔ k = draw i := by
  rw [randomFelts, List.getElem?_map, List.getElem?_range hi]
  simp [eq_comm]

lemma leftoverCipher_eq_ok {params : WithdrawParams Point} {y : Point}
    {cipher : ElGamalCiphertext Point} :
    params.leftoverCipher y = .ok cipher ↔
      (addScaled (params.amount : Felt) generator withdrawCairoString y ≠ 0 ∧
        mul withdrawCairoString (some (generator : Point)) ≠ 0) ∧
      cipher = ⟨params.currentBalance.l -
          addScaled (params.amount : Felt) generator withdrawCairoString y,
        params.currentBalance.r - mul withdrawCairoString (some generator)⟩ := by
  unfold WithdrawParams.leftoverCipher
  simp only [except_bind_eq_ok, subtractPoint_eq_ok]
  constructor
  · intro h
    obtain ⟨l, ⟨hl, rfl⟩, r, ⟨hr, rfl⟩, h⟩ := h
    exact ⟨⟨hl, hr⟩, (Except.ok.inj h).symm⟩
  · intro h
    obtain ⟨⟨hl, hr⟩, rfl⟩ := h
    exact ⟨_, ⟨hl, rfl⟩, _, ⟨hr, rfl⟩, rfl⟩

variable [Poseidon] [Sha256] [XChaCha20Poly1305] {draws : WithdrawDraws}
  {account : TongoAccount Point} {params : WithdrawParams Point} {out : WithdrawProof Point}

lemma withdrawAudit_eq_ok {draws : AuditDraws} {left : ℕ} {audit : Option (Audit Point)} :
    withdrawAudit draws account params left = .ok audit ↔
      (params.auditorKey = none ∧ audit = none) ∨
      ∃ auditorKey cipher emitted, params.auditorKey = some auditorKey ∧
        params.leftoverCipher account.ownerPublicKey = .ok cipher ∧
        buildAudit draws account.ownerPrivateKey left cipher auditorKey false
          (params.auditPrefix account.ownerPublicKey) = .ok emitted ∧
        audit = some emitted := by
  unfold withdrawAudit
  cases params.auditorKey with
  | none => simp [pure, Except.pure, eq_comm]
  | some auditorKey =>
    simp only [except_bind_eq_ok, reduceCtorEq, false_and, false_or, Option.some.injEq]
    constructor
    · intro h
      obtain ⟨cipher, hc, emitted, hem, h⟩ := h
      exact ⟨auditorKey, cipher, emitted, rfl, hc, hem, (Except.ok.inj h).symm⟩
    · intro h
      obtain ⟨_, cipher, emitted, rfl, hc, hem, rfl⟩ := h
      exact ⟨cipher, hc, emitted, hem, rfl⟩

def withdrawn (draws : WithdrawDraws) (account : TongoAccount Point)
    (params : WithdrawParams Point) (left : ℕ) (r c : Felt) (range : Range)
    (audit : Option (Audit Point)) : WithdrawProof Point where
  y := account.ownerPublicKey
  aX := mul (draws.commitmentRandoms 1) (some generator)
  aR := mul (draws.commitmentRandoms 2) (some generator)
  a := addScaled (draws.commitmentRandoms 0) generator (draws.commitmentRandoms 1)
    params.currentBalance.r
  aV := addScaled (draws.commitmentRandoms 0) generator (draws.commitmentRandoms 2) generatorH
  sx := answer (draws.commitmentRandoms 1) c account.ownerPrivateKey
  sb := answer (draws.commitmentRandoms 0) c (left : Felt)
  sr := answer (draws.commitmentRandoms 2) c r
  auxiliarCipher := ⟨addScaled (left : Felt) generator r generatorH, mul r (some generator)⟩
  range
  amount := params.amount
  recipient := params.recipientAddress
  audit

lemma returns_withdraw :
    Returns (withdraw draws account params) out ↔
      params.amount ≠ 0 ∧ params.amount ≤ account.balance ∧
      (mul account.ownerPrivateKey (some params.currentBalance.r) ≠ 0 ∧
        mul (account.balance : Felt) (some (generator : Point)) ≠ 0 ∧
        ElGamal.Encrypts params.currentBalance account.ownerPrivateKey account.balance) ∧
      ∃ yAffine left r prefixFelt range total c audit,
        affineToProjective yAffine = account.ownerPublicKey ∧
        Returns (unsignedSub account.balance params.amount : MayPanic KmsError ℕ) left ∧
        Returns (Range.computeTotalRandomness
          (randomFelts draws.randomValues params.bitSize)) r ∧
        params.prefixOf yAffine (addScaled (left : Felt) generator r generatorH)
          (mul r (some generator)) = .ok prefixFelt ∧
        Returns (Range.proveWithRandomness draws.range left params.bitSize (generator : Point)
          generatorH prefixFelt (randomFelts draws.randomValues params.bitSize))
            (range, total) ∧
        out = withdrawn draws account params left r c range audit ∧
        computePoseidonChallenge prefixFelt [out.aX, out.aR, out.a, out.aV] = .ok c ∧
        withdrawAudit draws.audit account params left = .ok audit := by
  unfold withdraw
  simp only [returns_bind, returns_ite_throw, returns_lift, returns_pure, not_not,
    verifyCipherEncryptsBalance_eq_ok, hasSufficientBalance_eq_true, projectiveToAffine_eq_ok,
    returns_index, getElem?_randomFelts (show 0 < 3 by decide),
    getElem?_randomFelts (show 1 < 3 by decide), getElem?_randomFelts (show 2 < 3 by decide),
    exists_const, exists_scalarAdd_scalarMul]
  constructor
  · intro h
    obtain ⟨ha, hle, yAffine, hy, hcp, left, hl, r, hr, prefixFelt, hpre, h⟩ := h
    obtain ⟨⟨range, total⟩, hrn, kb, rfl, kx, rfl, kr, rfl, c, hc, audit, had, rfl⟩ := h
    exact ⟨ha, hle, hcp, yAffine, left, r, prefixFelt, range, total, c, audit, hy, hl,
      hr, hpre, hrn, rfl, hc, had⟩
  · intro h
    obtain ⟨ha, hle, hcp, yAffine, left, r, prefixFelt, range, total, c, audit, hy, hl,
      hr, hpre, hrn, rfl, hc, had⟩ := h
    exact ⟨ha, hle, yAffine, hy, hcp, left, hl, r, hr, prefixFelt, hpre, _, hrn,
      _, rfl, _, rfl, _, rfl, c, hc, _, had, rfl⟩

/-! ## What a withdrawal proves -/

structure WithdrawProof.Equations (out : WithdrawProof Point) (params : WithdrawParams Point)
    (c : Felt) : Prop where
  aX : mul out.sx (some generator) = add out.aX (mul c (some out.y))
  aR : mul out.sr (some generator) = add out.aR (mul c (some out.auxiliarCipher.r))
  a : addScaled out.sb generator out.sx params.currentBalance.r =
    add out.a (mul c (some (params.currentBalance.l - mul (params.amount : Felt) (some generator))))
  aV : addScaled out.sb generator out.sr generatorH =
    add out.aV (mul c (some out.auxiliarCipher.l))

structure WithdrawProof.Verifies (out : WithdrawProof Point) (params : WithdrawParams Point)
    (yAffine : AffinePoint Point) (prefixFelt c : Felt) : Prop where
  y : affineToProjective yAffine = out.y
  recomputed :
    params.prefixOf yAffine out.auxiliarCipher.l out.auxiliarCipher.r = .ok prefixFelt
  challenge : computePoseidonChallenge prefixFelt [out.aX, out.aR, out.a, out.aV] = .ok c
  equations : out.Equations params c
  range : RangeVerifies out.range params.bitSize prefixFelt out.auxiliarCipher.l

structure WithdrawProof.Correct (out : WithdrawProof Point) (account : TongoAccount Point)
    (params : WithdrawParams Point) (left : ℕ) : Prop where
  subtracted : Returns (unsignedSub account.balance params.amount : MayPanic KmsError ℕ) left
  amounts : params.amount + left = account.balance
  y : out.y = account.ownerPublicKey
  sent : out.amount = params.amount ∧ out.recipient = params.recipientAddress
  verifies : ∃ yAffine prefixFelt c, out.Verifies params yAffine prefixFelt c
  audit : AuditVerifies out.audit params.auditorKey account.ownerPrivateKey left
    ⟨params.currentBalance.l -
        addScaled (params.amount : Felt) generator withdrawCairoString account.ownerPublicKey,
      params.currentBalance.r - mul withdrawCairoString (some generator)⟩
    (params.auditPrefix account.ownerPublicKey)

omit [Sha256] [XChaCha20Poly1305] in
lemma bitSize_pos_of_prefixOf {yAffine : AffinePoint Point} {v : Point} {r prefixFelt : Felt}
    {draw : ℕ → Felt}
    (hr : Returns (Range.computeTotalRandomness (randomFelts draw params.bitSize)) r)
    (h : params.prefixOf yAffine v (mul r (some generator)) = .ok prefixFelt) :
    1 ≤ params.bitSize := by
  unfold WithdrawParams.prefixOf at h
  simp only [except_bind_eq_ok, projectiveToAffine_eq_ok] at h
  obtain ⟨-, -, -, -, -, -, rAuxAffine, hra, -⟩ := h
  by_contra hz
  rw [show params.bitSize = 0 by omega] at hr
  have hr0 : (0 : Felt) = r := returns_pure.mp hr
  have hne := affineToProjective_ne_zero rAuxAffine
  rw [hra, ← hr0, mul_eq_smul, residueFromFelt_zero, zero_smul] at hne
  exact hne rfl

lemma auditVerifies_of_withdrawAudit {draws : AuditDraws} {left : ℕ}
    {audit : Option (Audit Point)} (h : withdrawAudit draws account params left = .ok audit)
    (hen : ElGamal.Encrypts ⟨params.currentBalance.l -
    addScaled (params.amount : Felt) generator withdrawCairoString account.ownerPublicKey,
    params.currentBalance.r - mul withdrawCairoString (some generator)⟩
    account.ownerPrivateKey left) :
    AuditVerifies audit params.auditorKey account.ownerPrivateKey left
      ⟨params.currentBalance.l -
          addScaled (params.amount : Felt) generator withdrawCairoString account.ownerPublicKey,
        params.currentBalance.r - mul withdrawCairoString (some generator)⟩
      (params.auditPrefix account.ownerPublicKey) := by
  rcases withdrawAudit_eq_ok.mp h with
    ⟨hn, rfl⟩ | ⟨auditorKey, cipher, emitted, hs, hc, hem, rfl⟩
  · rw [hn]
    exact auditVerifies_none
  · obtain ⟨-, rfl⟩ := leftoverCipher_eq_ok.mp hc
    rw [hs]
    exact auditVerifies_of_buildAudit hem hen

/-- **Correctness of withdrawals.** Whenever a withdrawal returns, whatever the randomness:
the subtraction of the amount did not underflow, the four equations hold for the
recomputed challenge, the range proof is verified to the auxiliary ciphertext, and the
audit that is emitted when there is an auditor is accepted for the leftover. -/
theorem withdraw_correct (h : Returns (withdraw draws account params) out) :
    ∃ left, out.Correct account params left := by
  obtain ⟨-, hle, ⟨-, -, hen⟩, yAffine, left, r, prefixFelt, range, total, c, audit, hy,
    hl, hr, hpre, hrn, rfl, hc, ha⟩ := returns_withdraw.mp h
  obtain ⟨-, rfl⟩ := returns_unsignedSub.mp hl
  have ho : account.ownerPublicKey = mul account.ownerPrivateKey (some generator) := by
    rw [account.publicKey_eq, mulGenerator_eq_mul]
  have hb := account.state.balance_lt
  refine ⟨account.balance - params.amount, hl, Nat.add_sub_of_le hle, rfl, ⟨rfl, rfl⟩,
    ⟨yAffine, prefixFelt, c, hy, hpre, hc, ?_, ?_⟩, ?_⟩
  · constructor
    case aX =>
      show mul (answer _ c _) (some generator) = _
      rw [mul_answer, ← ho]
      rfl
    case aR =>
      show mul (answer _ c r) (some generator) = _
      rw [mul_answer]
      rfl
    case a =>
      -- the current ciphertext less the amount holds the leftover under the same randomness
      have hsub : params.currentBalance.l - mul (params.amount : Felt) (some generator) =
          addScaled ((account.balance - params.amount : ℕ) : Felt) generator
            account.ownerPrivateKey params.currentBalance.r := by
        rw [ElGamal.encrypts_iff.mp hen, addScaled_eq, mul_eq_smul,
          ElGamal.residueFromFelt_sub hle hb, sub_smul, add_sub_right_comm]
      rw [hsub]
      exact addScaled_answer _ _ _ _ _ _ _
    case aV => exact addScaled_answer _ _ _ _ _ _ _
  · exact rangeVerifies_of_prove (bitSize_pos_of_prefixOf hr hpre) hrn hr
  · -- the audited ciphertext subtracts an encryption of the amount
    have ham : ElGamal.Encrypts ⟨addScaled (params.amount : Felt) generator withdrawCairoString
        account.ownerPublicKey, mul withdrawCairoString (some generator)⟩
          account.ownerPrivateKey params.amount := by
      rw [account.publicKey_eq]
      exact ElGamal.encrypts_mk _ _ _
    exact auditVerifies_of_withdrawAudit ha (hen.sub ham hle hb)

end Correct

namespace Withdraw

section Sample

def sampleInputs : List Felt :=
  [0x534e5f5345504f4c4941, 123456, 789, withdrawCairoString] ++ sampleTable.felts [7] ++
    [1, 1, 555] ++ sampleTable.felts [23, 3, 1 + 2 * 2 ^ 200, 2]

def samplePrefixFelt : Felt := 0x1c5bc05d923a9a8c54e1f4615eefb3f5b058261bac18b73b00679d7aa811d9e

def bitChallenge : Felt := 0x1799f40c77c33c18b660b4f645d8a836bd657b4ee1e6f5af303fad42f7d5072
def sigmaChallenge : Felt := 0x59d38af8733a4359eb824486cfd4f5ca2ceb5351c0f6eab3ed687edd5b3410d
def auditChallenge : Felt := 0x6d534fb6a7ad7a7192e0fba30598da95d2c60009bf212f061f1811680a2f274

def auditInputs : List Felt :=
  [0x534e5f5345504f4c4941, 123456, 789, AuditProver.auditCairoString] ++
    sampleTable.felts [7, 11, 22 - 7 * 0x7769746864726177, 3 - 0x7769746864726177, 23, 2]

def auditPrefixFelt : Felt := 0x605e9c5566615ced2c1ff37ee5da9c4166fe7263ab6432ba1200d3fb121c54f

@[reducible] def samplePoseidon : Poseidon := tablePoseidon [
  (sampleInputs, samplePrefixFelt),
  (samplePrefixFelt :: sampleTable.felts [1 + 2 * 2 ^ 200, -2 + 5 * 2 ^ 200, 4 * 2 ^ 200],
    bitChallenge),
  (samplePrefixFelt :: sampleTable.felts [4, 2, 17, 5 + 2 * 2 ^ 200], sigmaChallenge),
  (auditInputs, auditPrefixFelt),
  (auditPrefixFelt :: sampleTable.felts [4, 17 - 4 * 0x7769746864726177, 38, 3],
    auditChallenge)]

def sampleDraws : WithdrawDraws where
  randomValues _ := 2
  range _ := ⟨9, 2, 4⟩
  commitmentRandoms i := [5, 4, 2].getD i 0
  audit := ⟨⟨2, 4, 5, 3⟩, balanceNonce⟩

attribute [local instance] sampleCurve samplePoseidon Reference.sha256 sampleAead

def sampleParams : WithdrawParams CyclicPoint where
  recipientAddress := 555
  amount := 1
  nonce := 1
  chainId := 0x534e5f5345504f4c4941
  tongoAddress := 123456
  senderAddress := 789
  currentBalance := sampleBalance
  bitSize := 1
  auditorKey := some (CyclicPoint.mk 11)

def sampleBit : ProofOfBit where
  a0 := sampleTable.point (-2 + 5 * 2 ^ 200)
  a1 := sampleTable.point (4 * 2 ^ 200)
  c0 := 2
  s0 := 9
  s1 := 0x2f33e818ef8678316cc169ec8bb1506d7acaf69dc3cdeb5e607f5a85efaa0e4

def sampleRange : Range := ⟨[sampleTable.point (1 + 2 * 2 ^ 200)], [sampleBit]⟩

def sampleAudit : Audit CyclicPoint where
  auditedBalance := ⟨CyclicPoint.mk 23, CyclicPoint.mk 2⟩
  hintCiphertext := Vector.ofFn fun i => balanceHint.getD i 0
  hintNonce := balanceNonce
  proof := {
    ax := sampleTable.point 4
    al0 := sampleTable.point (17 - 4 * 0x7769746864726177)
    al1 := sampleTable.point 38
    ar1 := sampleTable.point 3
    sx := 0x7d472dfe95be53cb0426e175272dfa2f6b143df4d18099815995c551f951f45
    sb := 0x6d534fb6a7ad7a7192e0fba30598da95d2c60009bf212f061f1811680a2f279
    sr := 0x5aa69f6d4f5af3d325c1f7460b31b5302d7ad936cfc73aea57c5feb537f97bc
    c := auditChallenge }

def sampleOut : WithdrawProof CyclicPoint where
  y := CyclicPoint.mk 7
  aX := CyclicPoint.mk 4
  aR := CyclicPoint.mk 2
  a := CyclicPoint.mk 17
  aV := CyclicPoint.mk (5 + 2 * 2 ^ 200)
  sx := 0x74c8cccb2697d335708fdfafaed2b8995a2aabc98cd3de63e432e7a20cd92a3
  sb := 0x59d38af8733a4359eb824486cfd4f5ca2ceb5351c0f6eab3ed687edd5b34112
  sr := 0x33a715f0e67485a3d704890d9fa9eb98e1c57fc6d372b245f466d99fda034ed
  auxiliarCipher := ⟨CyclicPoint.mk (1 + 2 * 2 ^ 200), CyclicPoint.mk 2⟩
  range := sampleRange
  amount := 1
  recipient := 555
  audit := some sampleAudit

lemma sample_bit : Returns (Range.proveBit sampleDraws.range 1 (generator : CyclicPoint) generatorH
    samplePrefixFelt [2] 0) (CyclicPoint.mk (1 + 2 * 2 ^ 200), sampleBit, 2) := by
  rw [Range.returns_proveBit]
  refine ⟨rfl, ?_⟩
  rw [Bit.prove, if_neg (by decide), if_pos (by decide), Bit.proveBit1_eq_ok]
  simp only [sampleTable.curve_smul]
  refine ⟨?_, ?_, bitChallenge, ⟨?_, ?_, ?_⟩, ⟨_, _, rfl, rfl, ?_⟩, ?_, ?_⟩
  all_goals decide +kernel

lemma sample_range : Returns (Range.proveWithRandomness sampleDraws.range 1 1
    (generator : CyclicPoint) generatorH samplePrefixFelt [2]) (sampleRange, 2) :=
  Range.returns_proveWithRandomness.mpr
    ⟨by decide, rfl, by decide, _, .cons sample_bit .nil, by decide +kernel⟩

lemma sample_audit : withdrawAudit sampleDraws.audit sampleAccount sampleParams 1 =
    .ok (some sampleAudit) := by
  refine withdrawAudit_eq_ok.mpr (Or.inr ⟨CyclicPoint.mk 11,
    ⟨CyclicPoint.mk (22 - 7 * 0x7769746864726177), CyclicPoint.mk (3 - 0x7769746864726177)⟩,
    sampleAudit, rfl, ?_, ?_, rfl⟩)
  · rw [leftoverCipher_eq_ok, sampleAccount_owner]
    simp only [addScaled_eq, mul_eq_smul, sampleTable.curve_smul]
    decide +kernel
  · rw [buildAudit_eq_ok, sampleAccount_owner]
    refine ⟨?_, ?_⟩
    · constructor
      case challenge =>
        simp only [sampleTable.curve_smul]
        exact ⟨auditPrefixFelt, by decide +kernel, by decide +kernel⟩
      case cipher1_eq | ax_eq | al0_eq | al1_eq | ar1_eq =>
        simp only [sampleTable.curve_smul]
        decide +kernel
      case encrypts => simp
      all_goals decide +kernel
    · unfold encryptForAuditor deriveSharedSecret
      simp only [mul_eq_smul, sampleTable.curve_smul]
      decide +kernel

lemma sample_withdrawn :
    withdrawn sampleDraws sampleAccount sampleParams 1 2 sigmaChallenge sampleRange
      (some sampleAudit) = sampleOut := by
  unfold withdrawn
  rw [sampleAccount_owner]
  simp only [addScaled_eq, mul_eq_smul, sampleTable.curve_smul]
  decide +kernel

def sampleY : AffinePoint CyclicPoint :=
  ⟨(sampleTable.point 7).x, (sampleTable.point 7).y, sampleOwner_onCurve⟩

lemma sample_withdraw : Returns (withdraw sampleDraws sampleAccount sampleParams) sampleOut := by
  rw [returns_withdraw, ElGamal.encrypts_iff, sampleAccount_owner]
  simp only [addScaled_eq, mul_eq_smul, sampleTable.curve_smul]
  exact ⟨by decide, by decide, by decide +kernel, sampleY, 1, 2, samplePrefixFelt, sampleRange, 2,
    sigmaChallenge, some sampleAudit, by decide +kernel, by decide, by decide +kernel,
    by decide +kernel, sample_range, sample_withdrawn.symm, by decide +kernel, sample_audit⟩

lemma sample_responses : ∀ proof ∈ sampleRange.proofs,
    mul proof.s0 (some (generatorH : CyclicPoint)) ≠ 0 ∧
      mul proof.s1 (some (generatorH : CyclicPoint)) ≠ 0 := by
  simp only [mul_eq_smul, sampleTable.curve_smul]
  decide +kernel

/-- One of two coins is withdrawn, under the eyes of an auditor. -/
theorem sampleWithdraw_correct :
    Returns (withdraw sampleDraws sampleAccount sampleParams) sampleOut ∧
      sampleOut.Correct sampleAccount sampleParams 1 ∧
      ∀ proof ∈ sampleRange.proofs, mul proof.s0 (some (generatorH : CyclicPoint)) ≠ 0 ∧
        mul proof.s1 (some (generatorH : CyclicPoint)) ≠ 0 := by
  obtain ⟨left, hc⟩ := withdraw_correct sample_withdraw
  have hl : left = 1 := hc.subtracted.unique (by decide)
  rw [hl] at hc
  exact ⟨sample_withdraw, hc, sample_responses⟩

end Sample

end Withdraw

end KrustyKms.Sdk

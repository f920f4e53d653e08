import KrustyKms.Sdk.Fund
import KrustyKms.Sdk.SharedTheorems

/-!
# What a funding checks

* `fund_overflow_iff`: a balance that does not fit `u128` is refused with an auditor only;
  a balance that fits is audited as it will be.
-/

namespace KrustyKms.Sdk

open Codec Crypto StarkCurve Support

section Correct

-- two products of a point are compared by their factors, not by their computation
attribute [local irreducible] StarkCurve.mul

variable {Point : Type} [CurvePoint Point]

lemma fundedBalance_eq_ok {balance amount newBalance : ℕ} :
    fundedBalance balance amount = .ok newBalance ↔
      balance + amount < 2 ^ 128 ∧ newBalance = balance + amount := by
  unfold fundedBalance
  by_cases h : balance + amount < 2 ^ 128
  · rw [if_pos h, Except.ok.injEq]
    exact ⟨fun heq => ⟨h, heq.symm⟩, fun heq => heq.2.symm⟩
  · rw [if_neg h]
    simp only [reduceCtorEq, false_iff]
    exact fun heq => h heq.1

variable [Poseidon] [Sha256] [XChaCha20Poly1305] {draws : FundDraws}
  {account : TongoAccount Point} {params : FundParams Point} {out : FundProof Point}

lemma fundAudit_eq_ok {draws : AuditDraws} {audit : Option (Audit Point)} :
    fundAudit draws account params = .ok audit ↔
      (params.auditorPubKey = none ∧ audit = none) ∨
      ∃ auditorKey emitted, params.auditorPubKey = some auditorKey ∧
        account.balance + params.amount < 2 ^ 128 ∧
        buildAudit draws account.ownerPrivateKey (account.balance + params.amount)
          (params.newCipherBalance account.ownerPublicKey) auditorKey true
          (params.auditPrefix account.ownerPublicKey) = .ok emitted ∧
        audit = some emitted := by
  unfold fundAudit
  cases params.auditorPubKey with
  | none => simp [pure, Except.pure, eq_comm]
  | some auditorKey =>
    simp only [except_bind_eq_ok, fundedBalance_eq_ok, reduceCtorEq, false_and, false_or,
      Option.some.injEq]
    constructor
    · intro h
      obtain ⟨_, ⟨hf, rfl⟩, emitted, hem, h⟩ := h
      exact ⟨auditorKey, emitted, rfl, hf, hem, (Except.ok.inj h).symm⟩
    · intro h
      obtain ⟨_, emitted, rfl, hf, hem, rfl⟩ := h
      exact ⟨_, ⟨hf, rfl⟩, emitted, hem, rfl⟩

lemma fundAudit_eq_error {draws : AuditDraws} {auditorKey : Point}
    (ha : params.auditorPubKey = some auditorKey) (ho : 2 ^ 128 ≤ account.balance + params.amount) :
    fundAudit draws account params = .error (.invalidAmount "funded balance overflow") := by
  unfold fundAudit fundedBalance
  rw [ha]
  dsimp only
  rw [if_neg (by omega)]
  rfl

/-! ## Outcomes -/

lemma fund_eq_ok :
    fund draws account params = .ok out ↔
      params.amount ≠ 0 ∧ ∃ (yAffine : AffinePoint Point) (proof : PoeProof)
        (audit : Option (Audit Point)),
        affineToProjective yAffine = account.ownerPublicKey ∧
        ProofOfExponentiation.prove draws.poe account.ownerPrivateKey (params.prefixOf yAffine) =
          .ok ((mul account.ownerPrivateKey (some generator) : Point), proof) ∧
        fundAudit draws.audit account params = .ok audit ∧
        out = ⟨account.ownerPublicKey, proof, params.amount, audit⟩ := by
  unfold fund
  by_cases ha : params.amount = 0
  · simp [ha, throw, throwThe, MonadExceptOf.throw, bind, Except.bind]
  · rw [if_neg ha]
    simp only [except_bind_eq_ok, projectiveToAffine_eq_ok]
    constructor
    · intro h
      obtain ⟨yAffine, hy, ⟨y, proof⟩, hp, audit, had, h⟩ := h
      obtain ⟨rfl, -⟩ := ProofOfExponentiation.prove_eq_ok.mp hp
      exact ⟨ha, yAffine, proof, audit, hy, hp, had, (Except.ok.inj h).symm⟩
    · intro h
      obtain ⟨-, yAffine, proof, audit, hy, hp, had, rfl⟩ := h
      exact ⟨yAffine, hy, _, hp, audit, had, rfl⟩

lemma fund_eq_error_of_infinity (ha : params.amount ≠ 0)
    (h : account.ownerPublicKey = 0 ∨ mul draws.poe (some (generator : Point)) = 0) :
    fund draws account params = .error .pointAtInfinity := by
  unfold fund
  rw [if_neg ha]
  dsimp only
  cases hy : toAffine account.ownerPublicKey with
  | none =>
    unfold projectiveToAffine
    rw [hy]
    rfl
  | some yAffine =>
    have hp := toAffine_eq_some.mp hy
    have hne : account.ownerPublicKey ≠ 0 := by
      rw [← hp]
      exact affineToProjective_ne_zero yAffine
    rw [projectiveToAffine_eq_ok.mpr hp]
    show (ProofOfExponentiation.prove _ _ _ >>= _) = _
    rw [ProofOfExponentiation.prove_eq_error (h.resolve_left hne)]
    rfl

lemma fund_eq_of_fundAudit (ha : params.amount ≠ 0) (hy : account.ownerPublicKey ≠ 0)
    (hpoe : mul draws.poe (some (generator : Point)) ≠ 0) :
    ∃ proof, fund draws account params = (fundAudit draws.audit account params).map
      fun audit => ⟨account.ownerPublicKey, proof, params.amount, audit⟩ := by
  obtain ⟨yAffine, hya⟩ := exists_affine hy
  obtain ⟨proof, hp⟩ := ProofOfExponentiation.exists_prove account.ownerPrivateKey
    (params.prefixOf yAffine) hpoe
  refine ⟨proof, ?_⟩
  unfold fund
  rw [if_neg ha]
  dsimp only
  rw [projectiveToAffine_eq_ok.mpr hya]
  show (ProofOfExponentiation.prove _ _ _ >>= _) = _
  rw [hp]
  rfl

/-! ## What a funding proves -/

structure FundProof.Audited (out : FundProof Point) (account : TongoAccount Point)
    (params : FundParams Point) (auditor : Point) : Prop where
  encrypts : ElGamal.Encrypts (params.newCipherBalance account.ownerPublicKey)
    account.ownerPrivateKey (account.balance + params.amount : ℕ)
  audit : AuditVerifies out.audit (some auditor) account.ownerPrivateKey
    (account.balance + params.amount) (params.newCipherBalance account.ownerPublicKey)
    (params.auditPrefix account.ownerPublicKey)

lemma audited_of_fund {auditor : Point} (h : fund draws account params = .ok out)
    (ha : params.auditorPubKey = some auditor) : out.Audited account params auditor := by
  obtain ⟨-, yAffine, proof, audit, -, -, had, rfl⟩ := fund_eq_ok.mp h
  rcases fundAudit_eq_ok.mp had with ⟨hn, -⟩ | ⟨auditorKey, emitted, hs, -, hem, rfl⟩
  · exact absurd (ha.symm.trans hn) (by simp)
  · obtain rfl : auditor = auditorKey := Option.some.inj (ha.symm.trans hs)
    -- the audit prover checked the ciphertext
    have hen := (buildAudit_eq_ok.mp hem).1.encrypts rfl
    exact ⟨hen, auditVerifies_of_buildAudit hem hen⟩

lemma fund_overflow_refused_iff (ho : 2 ^ 128 ≤ account.balance + params.amount) :
    (∃ message, fund draws account params = .error (.invalidAmount message)) ↔
      params.auditorPubKey.isSome ∧ account.ownerPublicKey ≠ 0 ∧
        mul draws.poe (some (generator : Point)) ≠ 0 := by
  have hb := account.state.balance_lt
  have ha : params.amount ≠ 0 := by
    intro hz
    rw [hz, Nat.add_zero] at ho
    exact absurd hb (Nat.not_lt.mpr ho)
  by_cases hin : account.ownerPublicKey = 0 ∨ mul draws.poe (some (generator : Point)) = 0
  · rw [fund_eq_error_of_infinity ha hin]
    simp only [Except.error.injEq, reduceCtorEq, exists_const, false_iff]
    tauto
  · obtain ⟨hy, hpoe⟩ := not_or.mp hin
    obtain ⟨proof, hf⟩ := fund_eq_of_fundAudit ha hy hpoe
    rw [hf]
    cases had : params.auditorPubKey with
    | none =>
      rw [fundAudit_eq_ok.mpr (.inl ⟨had, rfl⟩)]
      simp [Except.map]
    | some auditorKey =>
      rw [fundAudit_eq_error had ho]
      simp [Except.map, hy, hpoe]

/-- A funding refuses a balance that does not fit `u128` and audits one that does, exactly
when the balance fits, or there is an auditor and neither the user's key nor the
commitment is at infinity. -/
theorem fund_overflow_iff (draws : FundDraws) (account : TongoAccount Point)
    (params : FundParams Point) :
    ((2 ^ 128 ≤ account.balance + params.amount →
        ∃ message, fund draws account params = .error (.invalidAmount message)) ∧
      (account.balance + params.amount < 2 ^ 128 → ∀ auditor out,
        params.auditorPubKey = some auditor → fund draws account params = .ok out →
          out.Audited account params auditor)) ↔
    account.balance + params.amount < 2 ^ 128 ∨
      (params.auditorPubKey.isSome ∧ account.ownerPublicKey ≠ 0 ∧
        mul draws.poe (some (generator : Point)) ≠ 0) := by
  constructor
  · intro h
    by_cases hf : account.balance + params.amount < 2 ^ 128
    · exact .inl hf
    · have ho : 2 ^ 128 ≤ account.balance + params.amount := by omega
      exact .inr ((fund_overflow_refused_iff ho).mp (h.1 ho))
  · intro h
    refine ⟨?_, ?_⟩
    · intro ho
      exact (fund_overflow_refused_iff ho).mpr (h.resolve_left (by omega))
    · intro _ auditor out ha hout
      exact audited_of_fund hout ha

end Correct

namespace Fund

section Sample

def sampleInputs : List Felt :=
  [0x534e5f5345504f4c4941, 123456, 789, fundCairoString] ++ sampleTable.felts [7] ++ [1, 1]

def samplePrefixFelt : Felt := 0x64612601e0e6c36db01a37d4b92ab2c21c43d3ce615bc2875d34ac5cba23643

def sampleChallenge : Felt := 0x23478b34c3256d4bbfb7627c430ad0b272a1d2dd81076d5be87157b5ceb87f9

@[reducible] def samplePoseidon : Poseidon := tablePoseidon [
  (sampleInputs, samplePrefixFelt),
  (samplePrefixFelt :: sampleTable.felts [4], sampleChallenge)]

attribute [local instance] sampleCurve samplePoseidon Reference.sha256 sampleAead

def fullAccount : TongoAccount CyclicPoint :=
  (TongoAccount.fromPrivateKey 7 123456).setBalance (2 ^ 128 - 1) (by decide)

lemma fullAccount_owner : fullAccount.ownerPublicKey = CyclicPoint.mk 7 := by
  rw [fullAccount.publicKey_eq, mulGenerator_eq_smul, sampleTable.curve_smul]
  decide +kernel

def sampleParams : FundParams CyclicPoint where
  amount := 1
  nonce := 1
  chainId := 0x534e5f5345504f4c4941
  tongoAddress := 123456
  senderAddress := 789
  auditorPubKey := none
  currentBalance := sampleBalance

def sampleDraws : FundDraws := ⟨4, ⟨⟨2, 4, 5, 3⟩, balanceNonce⟩⟩

def sampleOut : FundProof CyclicPoint where
  y := CyclicPoint.mk 7
  proof := {
    a := sampleTable.point 4
    s := 0x76f4ce715605fc023e03b165d54bb4e5aa5b9d31d8b8da6174af41ddcaa6aa4
    c := sampleChallenge }
  amount := 1
  audit := none

def sampleY : AffinePoint CyclicPoint :=
  ⟨(sampleTable.point 7).x, (sampleTable.point 7).y, sampleOwner_onCurve⟩

/-- A coin is funded on top of the largest balance: no auditor, no check. -/
theorem full_account_funded :
    2 ^ 128 ≤ fullAccount.balance + sampleParams.amount ∧
      fund sampleDraws fullAccount sampleParams = .ok sampleOut := by
  refine ⟨by decide, fund_eq_ok.mpr ⟨by decide, sampleY, sampleOut.proof, none, ?_, ?_,
    fundAudit_eq_ok.mpr (.inl ⟨rfl, rfl⟩), ?_⟩⟩
  · rw [fullAccount_owner]
    decide +kernel
  · rw [ProofOfExponentiation.prove_eq_ok]
    simp only [mul_eq_smul, sampleTable.curve_smul]
    decide +kernel
  · rw [fullAccount_owner]
    rfl

end Sample

end Fund

end KrustyKms.Sdk

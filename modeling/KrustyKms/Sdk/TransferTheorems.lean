import KrustyKms.Sdk.SharedTheorems

/-!
# Transfers are correct

Each phase has a lemma that says what it computed when it returned; the sigma equations
of the contract's verifier, the range proofs and the audits are read off them.
-/

namespace KrustyKms.Sdk

open Codec Crypto StarkCurve Support MayPanic

section Correct

-- two products of a point are compared by their factors, not by their computation
attribute [local irreducible] StarkCurve.mul

variable {Point : Type} [CurvePoint Point]

/-! ## The phases -/

section Phases

variable {account : TongoAccount Point} {params : TransferParams Point}
  {state : TransferBuildState Point} {draws : TransferDraws}
  {prepared : PreparedCiphertexts Point}

namespace TransferBuildState

lemma returns_new :
    Returns (new account params) state ↔
      params.amount ≠ 0 ∧ params.amount ≤ account.balance ∧
      (mul account.ownerPrivateKey (some params.currentBalance.r) ≠ 0 ∧
        mul (account.balance : Felt) (some (StarkCurve.generator : Point)) ≠ 0 ∧
        ElGamal.Encrypts params.currentBalance account.ownerPrivateKey account.balance) ∧
      state = {
        params
        secret := account.ownerPrivateKey
        owner := account.ownerPublicKey
        amount := params.amount
        leftover := account.balance - params.amount
        generator := StarkCurve.generator
        generatorH := StarkCurve.generatorH } := by
  unfold new
  simp only [returns_bind, returns_ite_throw, returns_lift, returns_pure, not_not,
    verifyCipherEncryptsBalance_eq_ok, hasSufficientBalance_eq_true, returns_unsignedSub]
  constructor
  · intro h
    obtain ⟨ha, hb, -, hc, leftover, ⟨-, rfl⟩, rfl⟩ := h
    exact ⟨ha, hb, hc, rfl⟩
  · intro h
    obtain ⟨ha, hb, hc, rfl⟩ := h
    exact ⟨ha, hb, (), hc, _, ⟨hb, rfl⟩, rfl⟩

def ciphertexts (state : TransferBuildState Point) (draws : TransferDraws) (r r2 : Felt) :
    PreparedCiphertexts Point where
  randomness := r
  leftoverRandomness := r2
  amountRandomness := randomFelts draws.amountRandomness state.params.bitSize
  leftoverRandomnessValues := randomFelts draws.leftoverRandomness state.params.bitSize
  transferBalanceSelfL := addScaled (state.amount : Felt) state.generator r state.owner
  transferBalanceSelfR := mul r (some state.generator)
  transferBalanceL :=
    addScaled (state.amount : Felt) state.generator r state.params.recipientPublicKey
  transferBalanceR := mul r (some state.generator)
  auxiliarCipher := {
    l := addScaled (state.amount : Felt) state.generator r state.generatorH
    r := mul r (some state.generator) }
  auxiliarCipher2 := {
    l := addScaled (state.leftover : Felt) state.generator r2 state.generatorH
    r := mul r2 (some state.generator) }

lemma returns_prepareCiphertexts :
    Returns (state.prepareCiphertexts draws) prepared ↔
      ∃ r r2,
        Returns (Range.computeTotalRandomness
          (randomFelts draws.amountRandomness state.params.bitSize)) r ∧
        Returns (Range.computeTotalRandomness
          (randomFelts draws.leftoverRandomness state.params.bitSize)) r2 ∧
        prepared = ciphertexts state draws r r2 := by
  unfold prepareCiphertexts
  simp only [returns_bind, returns_pure]
  constructor
  · intro h
    obtain ⟨r, hr, r2, hr2, rfl⟩ := h
    exact ⟨r, r2, hr, hr2, rfl⟩
  · intro h
    obtain ⟨r, r2, hr, hr2, rfl⟩ := h
    exact ⟨r, hr, r2, hr2, rfl⟩

variable [Poseidon] {prefixFelt : Felt} {range range2 : Range}

lemma returns_proveRanges :
    Returns (state.proveRanges draws prepared prefixFelt) (range, range2) ↔
      (∃ r, Returns (state.proveRange draws.range state.amount prepared.amountRandomness
        prefixFelt) (range, r)) ∧
      ∃ r2, Returns (state.proveRange draws.range2 state.leftover
        prepared.leftoverRandomnessValues prefixFelt) (range2, r2) := by
  unfold proveRanges
  simp only [returns_bind, returns_pure, returns_lift]
  constructor
  · intro h
    obtain ⟨amount, ha, leftover, hl, first, rfl, second, rfl, h⟩ := h
    obtain ⟨rfl, rfl⟩ := Prod.mk.inj h
    exact ⟨⟨_, returns_attempt.mp ha⟩, ⟨_, returns_attempt.mp hl⟩⟩
  · intro h
    obtain ⟨⟨r, ha⟩, ⟨r2, hl⟩⟩ := h
    exact ⟨_, returns_attempt.mpr ha, _, returns_attempt.mpr hl, _, rfl, _, rfl, rfl⟩

/-- The first messages of the sigma proof, by the names the proof gives them. -/
structure Commitments (Point : Type) where
  aX : Point
  aR : Point
  aR2 : Point
  aB : Point
  aB2 : Point
  aV : Point
  aV2 : Point
  aBar : Point

def Commitments.hashed (commitments : Commitments Point) : List Point :=
  [commitments.aX, commitments.aR, commitments.aR2, commitments.aB, commitments.aB2,
    commitments.aV, commitments.aV2, commitments.aBar]

@[mk_iff] structure Commitments.Sent (commitments : Commitments Point)
    (proof : ProofOfTransfer) : Prop where
  aX : SerializablePoint.tryFromProjective commitments.aX = .ok proof.aX
  aR : SerializablePoint.tryFromProjective commitments.aR = .ok proof.aR
  aR2 : SerializablePoint.tryFromProjective commitments.aR2 = .ok proof.aR2
  aB : SerializablePoint.tryFromProjective commitments.aB = .ok proof.aB
  aB2 : SerializablePoint.tryFromProjective commitments.aB2 = .ok proof.aB2
  aV : SerializablePoint.tryFromProjective commitments.aV = .ok proof.aV
  aV2 : SerializablePoint.tryFromProjective commitments.aV2 = .ok proof.aV2
  aBar : SerializablePoint.tryFromProjective commitments.aBar = .ok proof.aBar

def commitments (state : TransferBuildState Point) (draws : TransferDraws)
    (prepared : PreparedCiphertexts Point) : Commitments Point where
  aX := mul draws.kx (some state.generator)
  aR := mul draws.kr (some state.generator)
  aR2 := mul draws.kr2 (some state.generator)
  aB := addScaled draws.kb state.generator draws.kr state.owner
  aB2 := addScaled draws.kb2 state.generator draws.kx
    (state.params.currentBalance.r - prepared.transferBalanceSelfR)
  aV := addScaled draws.kb state.generator draws.kr state.generatorH
  aV2 := addScaled draws.kb2 state.generator draws.kr2 state.generatorH
  aBar := addScaled draws.kb state.generator draws.kr state.params.recipientPublicKey

lemma buildProtocolProof_eq_ok {proof : ProofOfTransfer} :
    state.buildProtocolProof draws prepared prefixFelt range range2 = .ok proof ↔
      prepared.transferBalanceSelfR ≠ 0 ∧
      (commitments state draws prepared).Sent proof ∧
      ∃ c, computePoseidonChallenge prefixFelt (commitments state draws prepared).hashed = .ok c ∧
        proof.sX = answer draws.kx c state.secret ∧
        proof.sR = answer draws.kr c prepared.randomness ∧
        proof.sB = answer draws.kb c (state.amount : Felt) ∧
        proof.sB2 = answer draws.kb2 c (state.leftover : Felt) ∧
        proof.sR2 = answer draws.kr2 c prepared.leftoverRandomness ∧
        proof.range = range ∧ proof.range2 = range2 := by
  unfold buildProtocolProof commitments Commitments.hashed
  simp only [except_bind_eq_ok, negatePoint_eq_ok, response_eq_ok, Commitments.sent_iff]
  constructor
  · intro h
    obtain ⟨negated, ⟨hne, rfl⟩, c, hc, aX, haX, aR, haR, aR2, haR2, aB, haB, aB2, haB2, aV, haV,
      aV2, haV2, aBar, ha, sX, hsX, sR, hsR, sB, hsB, sB2, hsB2, sR2, hsR2, h⟩ := h
    rw [add_eq, ← sub_eq_add_neg] at hc haB2
    rw [← Except.ok.inj h]
    exact ⟨hne, ⟨haX, haR, haR2, haB, haB2, haV, haV2, ha⟩, c, hc, hsX, hsR, hsB, hsB2, hsR2,
      rfl, rfl⟩
  · intro h
    obtain ⟨hne, ⟨haX, haR, haR2, haB, haB2, haV, haV2, ha⟩, c, hc, hsX, hsR, hsB, hsB2, hsR2,
      rfl, rfl⟩ := h
    rw [sub_eq_add_neg, ← add_eq] at hc haB2
    exact ⟨_, ⟨hne, rfl⟩, c, hc, _, haX, _, haR, _, haR2, _, haB, _, haB2, _, haV, _, haV2, _,
      ha, _, hsX, _, hsR, _, hsB, _, hsB2, _, hsR2, rfl⟩

omit [Poseidon] in
lemma newBalanceCipher_eq_ok {cipher : ElGamalCiphertext Point} :
    state.newBalanceCipher prepared = .ok cipher ↔
      (prepared.transferBalanceSelfL ≠ 0 ∧ prepared.transferBalanceSelfR ≠ 0) ∧
      cipher = ⟨state.params.currentBalance.l - prepared.transferBalanceSelfL,
        state.params.currentBalance.r - prepared.transferBalanceSelfR⟩ := by
  unfold newBalanceCipher
  simp only [except_bind_eq_ok, subtractPoint_eq_ok]
  constructor
  · intro h
    obtain ⟨l, ⟨hl, rfl⟩, r, ⟨hr, rfl⟩, h⟩ := h
    exact ⟨⟨hl, hr⟩, (Except.ok.inj h).symm⟩
  · intro h
    obtain ⟨⟨hl, hr⟩, rfl⟩ := h
    exact ⟨_, ⟨hl, rfl⟩, _, ⟨hr, rfl⟩, rfl⟩

variable [Sha256] [XChaCha20Poly1305]

lemma buildAudits_eq_ok {newBalance : ElGamalCiphertext Point}
    {audits : Option (Audit Point) × Option (Audit Point)} :
    state.buildAudits draws prepared newBalance = .ok audits ↔
      (state.params.auditorPubKey = none ∧ audits = (none, none)) ∨
      ∃ auditor balance transfer, state.params.auditorPubKey = some auditor ∧
        buildAudit draws.auditBalance state.secret state.leftover newBalance auditor false
          (state.params.auditPrefix state.owner) = .ok balance ∧
        buildAudit draws.auditTransfer state.secret state.amount
          ⟨prepared.transferBalanceSelfL, prepared.transferBalanceSelfR⟩ auditor true
          (state.params.auditPrefix state.owner) = .ok transfer ∧
        audits = (some balance, some transfer) := by
  unfold buildAudits
  cases state.params.auditorPubKey with
  | none => simp [pure, Except.pure, eq_comm]
  | some auditor =>
    simp only [except_bind_eq_ok, reduceCtorEq, false_and, false_or, Option.some.injEq]
    constructor
    · intro h
      obtain ⟨balance, hb, transfer, ht, h⟩ := h
      exact ⟨auditor, balance, transfer, rfl, hb, ht, (Except.ok.inj h).symm⟩
    · intro h
      obtain ⟨_, balance, transfer, rfl, hb, ht, rfl⟩ := h
      exact ⟨balance, hb, transfer, ht, rfl⟩

lemma returns_execute {out : TransferProof Point} :
    Returns (state.execute draws) out ↔
      ∃ prepared prefixFelt range range2 proof cipher auditBalance auditTransfer,
        Returns (state.prepareCiphertexts draws) prepared ∧
        state.protocolPrefix prepared = .ok prefixFelt ∧
        Returns (state.proveRanges draws prepared prefixFelt) (range, range2) ∧
        state.buildProtocolProof draws prepared prefixFelt range range2 = .ok proof ∧
        state.newBalanceCipher prepared = .ok cipher ∧
        state.buildAudits draws prepared cipher = .ok (auditBalance, auditTransfer) ∧
        out = {
          transferBalanceL := prepared.transferBalanceL
          transferBalanceR := prepared.transferBalanceR
          transferBalanceSelfL := prepared.transferBalanceSelfL
          transferBalanceSelfR := prepared.transferBalanceSelfR
          proof
          auxiliarCipher := prepared.auxiliarCipher
          auxiliarCipher2 := prepared.auxiliarCipher2
          newBalanceCipher := cipher
          auditBalance, auditTransfer } := by
  unfold execute
  simp only [returns_bind, returns_lift, returns_pure]
  constructor
  · intro h
    obtain ⟨prepared, hp, prefixFelt, hpre, ⟨range, range2⟩, hr, proof, hpr, cipher,
      hc, ⟨auditBalance, auditTransfer⟩, ha, rfl⟩ := h
    exact ⟨prepared, prefixFelt, range, range2, proof, cipher, auditBalance, auditTransfer,
      hp, hpre, hr, hpr, hc, ha, rfl⟩
  · intro h
    obtain ⟨prepared, prefixFelt, range, range2, proof, cipher, auditBalance, auditTransfer,
      hp, hpre, hr, hpr, hc, ha, rfl⟩ := h
    exact ⟨prepared, hp, prefixFelt, hpre, (range, range2), hr, proof, hpr, cipher,
      hc, (auditBalance, auditTransfer), ha, rfl⟩

end TransferBuildState

end Phases

/-! ## What a transfer proves -/

open TransferBuildState (Commitments)

structure SigmaEquations (params : TransferParams Point) (owner : Point)
    (out : TransferProof Point) (commitments : Commitments Point) (c : Felt) : Prop where
  aX : mul out.proof.sX (some generator) = add commitments.aX (mul c (some owner))
  aR : mul out.proof.sR (some generator) = add commitments.aR (mul c (some out.auxiliarCipher.r))
  aR2 : mul out.proof.sR2 (some generator) =
    add commitments.aR2 (mul c (some out.auxiliarCipher2.r))
  aB : addScaled out.proof.sB generator out.proof.sR owner =
    add commitments.aB (mul c (some out.transferBalanceSelfL))
  aB2 : addScaled out.proof.sB2 generator out.proof.sX
      (params.currentBalance.r - out.transferBalanceSelfR) =
    add commitments.aB2 (mul c (some (params.currentBalance.l - out.transferBalanceSelfL)))
  aV : addScaled out.proof.sB generator out.proof.sR generatorH =
    add commitments.aV (mul c (some out.auxiliarCipher.l))
  aV2 : addScaled out.proof.sB2 generator out.proof.sR2 generatorH =
    add commitments.aV2 (mul c (some out.auxiliarCipher2.l))
  aBar : addScaled out.proof.sB generator out.proof.sR params.recipientPublicKey =
    add commitments.aBar (mul c (some out.transferBalanceL))

variable [Poseidon]

def TransferProof.recomputedPrefix (out : TransferProof Point) (params : TransferParams Point)
    (owner : Point) : Result Felt :=
  TransferBuildState.prefixOf params owner out.transferBalanceSelfL out.transferBalanceSelfR
    out.transferBalanceL out.transferBalanceR out.auxiliarCipher out.auxiliarCipher2

structure TransferProof.Verifies (out : TransferProof Point) (params : TransferParams Point)
    (owner : Point) (prefixFelt c : Felt) (commitments : Commitments Point) : Prop where
  recomputed : out.recomputedPrefix params owner = .ok prefixFelt
  sent : commitments.Sent out.proof
  challenge : computePoseidonChallenge prefixFelt commitments.hashed = .ok c
  sigma : SigmaEquations params owner out commitments c
  range : RangeVerifies out.proof.range params.bitSize prefixFelt out.auxiliarCipher.l
  range2 : RangeVerifies out.proof.range2 params.bitSize prefixFelt out.auxiliarCipher2.l

structure TransferProof.Correct (out : TransferProof Point) (account : TongoAccount Point)
    (params : TransferParams Point) (leftover : ℕ) : Prop where
  amounts : params.amount + leftover = account.balance
  recipientReads : ∀ recipientKey, params.recipientPublicKey = mulGenerator recipientKey →
    ElGamal.decrypt ⟨out.transferBalanceL, out.transferBalanceR⟩ recipientKey =
      .ok (mul (params.amount : Felt) (some generator))
  newBalance : out.newBalanceCipher = ⟨params.currentBalance.l - out.transferBalanceSelfL,
    params.currentBalance.r - out.transferBalanceSelfR⟩
  senderReads : ElGamal.decrypt out.newBalanceCipher account.ownerPrivateKey =
    .ok (mul (leftover : Felt) (some generator))
  verifies : ∃ prefixFelt c commitments,
    out.Verifies params account.ownerPublicKey prefixFelt c commitments
  auditBalance : AuditVerifies out.auditBalance params.auditorPubKey account.ownerPrivateKey
    leftover out.newBalanceCipher (params.auditPrefix account.ownerPublicKey)
  auditTransfer : AuditVerifies out.auditTransfer params.auditorPubKey account.ownerPrivateKey
    params.amount ⟨out.transferBalanceSelfL, out.transferBalanceSelfR⟩
    (params.auditPrefix account.ownerPublicKey)

variable [Sha256] [XChaCha20Poly1305] {account : TongoAccount Point}
  {params : TransferParams Point} {draws : TransferDraws} {out : TransferProof Point}

lemma auditVerifies_of_buildAudits {state : TransferBuildState Point}
    {prepared : PreparedCiphertexts Point} {newBalance : ElGamalCiphertext Point}
    {auditBalance auditTransfer : Option (Audit Point)}
    (h : state.buildAudits draws prepared newBalance = .ok (auditBalance, auditTransfer))
    (hb : ElGamal.Encrypts newBalance state.secret state.leftover) (ht : ElGamal.Encrypts
    ⟨prepared.transferBalanceSelfL, prepared.transferBalanceSelfR⟩ state.secret state.amount) :
    AuditVerifies auditBalance state.params.auditorPubKey state.secret state.leftover newBalance
        (state.params.auditPrefix state.owner) ∧
      AuditVerifies auditTransfer state.params.auditorPubKey state.secret state.amount
        ⟨prepared.transferBalanceSelfL, prepared.transferBalanceSelfR⟩
        (state.params.auditPrefix state.owner) := by
  rcases TransferBuildState.buildAudits_eq_ok.mp h with
    ⟨hn, heq⟩ | ⟨auditor, balance, transfer, hs, hf, hsc, heq⟩
  · obtain ⟨rfl, rfl⟩ := Prod.mk.inj heq
    rw [hn]
    exact ⟨auditVerifies_none, auditVerifies_none⟩
  · obtain ⟨rfl, rfl⟩ := Prod.mk.inj heq
    rw [hs]
    exact ⟨auditVerifies_of_buildAudit hf hb,
      auditVerifies_of_buildAudit hsc ht⟩

/-- **Correctness of transfers.** Whenever a transfer returns, whatever the randomness:
the amount and the leftover make up the balance, recipient and sender decrypt to them,
both range proofs and all eight equations are verified under the recomputed challenge,
and the audits that are emitted, which they are when there is an auditor, are accepted
for the leftover and for the amount. -/
theorem transfer_correct (h : Returns (transfer draws account params) out) :
    ∃ state, Returns (TransferBuildState.new account params) state ∧
      out.Correct account params state.leftover := by
  obtain ⟨state, hnew, hex⟩ := returns_bind.mp h
  refine ⟨state, hnew, ?_⟩
  obtain ⟨ham, hle, ⟨-, -, hen⟩, rfl⟩ := TransferBuildState.returns_new.mp hnew
  obtain ⟨prepared, prefixFelt, range, range2, proof, cipher, auditBalance, auditTransfer,
    hp, hpre, hra, hpr, hcp, ha, rfl⟩ :=
    TransferBuildState.returns_execute.mp hex
  obtain ⟨r, r2, hr, hr2, rfl⟩ := TransferBuildState.returns_prepareCiphertexts.mp hp
  obtain ⟨⟨total, hrn⟩, total2, hrange2⟩ := TransferBuildState.returns_proveRanges.mp hra
  obtain ⟨-, hsn, c, hc, hsX, hsR, hsB, hsB2, hsR2, rfl, rfl⟩ :=
    TransferBuildState.buildProtocolProof_eq_ok.mp hpr
  obtain ⟨-, rfl⟩ := TransferBuildState.newBalanceCipher_eq_ok.mp hcp
  have hpos := bitSize_pos_of_prove ham hrn
  dsimp only [TransferBuildState.ciphertexts] at hsX hsR hsB hsB2 hsR2 ha hrn hrange2 ⊢
  have ho : account.ownerPublicKey = mul account.ownerPrivateKey (some generator) := by
    rw [account.publicKey_eq, mulGenerator_eq_mul]
  -- the sender's ciphertext holds the amount, so the difference holds the leftover
  have hs : ElGamal.Encrypts ⟨addScaled (params.amount : Felt) generator r
      account.ownerPublicKey, mul r (some generator)⟩ account.ownerPrivateKey params.amount := by
    rw [account.publicKey_eq]
    exact ElGamal.encrypts_mk _ _ _
  have hl := hen.sub hs hle account.state.balance_lt
  constructor
  case amounts => exact Nat.add_sub_of_le hle
  case recipientReads =>
    intro recipientKey hrc
    rw [ElGamal.decrypt_eq_iff, hrc]
    exact ElGamal.encrypts_mk _ _ _
  case newBalance => rfl
  case senderReads => exact ElGamal.decrypt_eq_iff.mpr hl
  case verifies =>
    refine ⟨prefixFelt, c, _, hpre, hsn, hc, ?_, ?_, ?_⟩
    · constructor
      case aX => rw [hsX, mul_answer, ← ho]; rfl
      case aR => rw [hsR, mul_answer]; rfl
      case aR2 => rw [hsR2, mul_answer]; rfl
      case aB => rw [hsB, hsR, addScaled_answer]; rfl
      case aB2 =>
        rw [hsB2, hsX, addScaled_answer, show params.currentBalance.l - _ = _ from hl]
        rfl
      case aV => rw [hsB, hsR, addScaled_answer]; rfl
      case aV2 => rw [hsB2, hsR2, addScaled_answer]; rfl
      case aBar => rw [hsB, hsR, addScaled_answer]; rfl
    · exact rangeVerifies_of_prove hpos hrn hr
    · exact rangeVerifies_of_prove hpos hrange2 hr2
  case auditBalance => exact (auditVerifies_of_buildAudits ha hl hs).1
  case auditTransfer => exact (auditVerifies_of_buildAudits ha hl hs).2

end Correct

namespace Transfer

section Sample

def sampleInputs : List Felt :=
  [0x534e5f5345504f4c4941, 123456, 789, transferCairoString] ++
    sampleTable.felts [7, 5] ++ [1] ++
    sampleTable.felts [23, 3, 15, 2, 11, 2, 1 + 2 * 2 ^ 200, 2, 1 + 3 * 2 ^ 200, 3]

def samplePrefixFelt : Felt := 0x72af8d9a4879af0b44b5dbfd429ab26b522223ad1fb773eaf631f9d62eaf04a

/-- The challenges: of the bits of the amount and of the leftover, of the sigma proof, and of
the audits of the leftover and of the amount. -/
def bitChallenge : Felt := 0x43acaaa73d68047781971f710e01d38d12c821c6733a81532441960b4b2e78e
def bitChallenge2 : Felt := 0x4890358454bb845fff456944368d1b371500a1d5a0b86b66fff80abea53ca54
def sigmaChallenge : Felt := 0x68e7b85419f551a0518bd8bc61f4730eb87146ae73ef074795dc065767a1c72
def balanceChallenge : Felt := 0x243622454dda1c08c7ab53ff215e21d9dafe653f4306e392b0969842b97482d
def amountChallenge : Felt := 0x3597d7b1a76d230156b32da9e3d9f7ba88f2f466eed91f85545e7099b000185

def balanceInputs : List Felt :=
  [0x534e5f5345504f4c4941, 123456, 789, AuditProver.auditCairoString] ++
    sampleTable.felts [7, 11, 8, 1, 23, 2]
def amountInputs : List Felt :=
  [0x534e5f5345504f4c4941, 123456, 789, AuditProver.auditCairoString] ++
    sampleTable.felts [7, 11, 15, 2, 34, 3]

def balancePrefixFelt : Felt := 0x2a3f73e0cfba9f236c24e133798c2ff4ff4bbc03c8e7641650cc0128ef4e44b
def amountPrefixFelt : Felt := 0x62488cb45b9c18264b6f1ce6890fd12fac3752662e05068a5cd4142764c7efd

@[reducible] def samplePoseidon : Poseidon := tablePoseidon [
  (sampleInputs, samplePrefixFelt),
  (samplePrefixFelt :: sampleTable.felts [1 + 2 * 2 ^ 200, -2 + 5 * 2 ^ 200, 4 * 2 ^ 200],
    bitChallenge),
  (samplePrefixFelt :: sampleTable.felts [1 + 3 * 2 ^ 200, -2 + 3 * 2 ^ 200, 4 * 2 ^ 200],
    bitChallenge2),
  (samplePrefixFelt :: sampleTable.felts [4, 2, 3, 19, 10, 5 + 2 * 2 ^ 200, 6 + 3 * 2 ^ 200, 15],
    sigmaChallenge),
  (balanceInputs, balancePrefixFelt),
  (balancePrefixFelt :: sampleTable.felts [4, 9, 38, 3], balanceChallenge),
  (amountInputs, amountPrefixFelt),
  (amountPrefixFelt :: sampleTable.felts [4, 14, 28, 2], amountChallenge)]

def sampleDraws : TransferDraws where
  amountRandomness _ := 2
  leftoverRandomness _ := 3
  range _ := ⟨9, 2, 4⟩
  range2 _ := ⟨9, 2, 4⟩
  kx := 4
  kb := 5
  kr := 2
  kb2 := 6
  kr2 := 3
  auditBalance := ⟨⟨2, 4, 5, 3⟩, balanceNonce⟩
  auditTransfer := ⟨⟨3, 4, 6, 2⟩, amountNonce⟩

attribute [local instance] sampleCurve samplePoseidon Reference.sha256 sampleAead

def sampleParams : TransferParams CyclicPoint where
  recipientPublicKey := CyclicPoint.mk 5
  amount := 1
  nonce := 1
  chainId := 0x534e5f5345504f4c4941
  tongoAddress := 123456
  senderAddress := 789
  currentBalance := sampleBalance
  bitSize := 1
  auditorPubKey := some (CyclicPoint.mk 11)

def sampleBit : ProofOfBit where
  a0 := sampleTable.point (-2 + 5 * 2 ^ 200)
  a1 := sampleTable.point (4 * 2 ^ 200)
  c0 := 2
  s0 := 9
  s1 := 0x759554e7ad007df032e3ee21c03a71ead7f1cb037f9df84621907fbb9f81ed
def sampleBit2 : ProofOfBit where
  a0 := sampleTable.point (-2 + 3 * 2 ^ 200)
  a1 := sampleTable.point (4 * 2 ^ 200)
  c0 := 2
  s0 := 9
  s1 := 0x59b0a08cfe328c0ffdd03bcca3a751a9c6f0bea433ae1f13197dfc2113511cb

def sampleProof : ProofOfTransfer where
  aX := sampleTable.point 4
  aR := sampleTable.point 2
  aR2 := sampleTable.point 3
  aB := sampleTable.point 19
  aB2 := sampleTable.point 10
  aV := sampleTable.point (5 + 2 * 2 ^ 200)
  aV2 := sampleTable.point (6 + 3 * 2 ^ 200)
  aBar := sampleTable.point 15
  sX := 0x5e560a4cb5b536123ad2ed26adaf257db2c32c75c321834b98f177dd8774537
  sR := 0x51cf70a833eaa230a317b178c3e8e621f8d166803962eb6d454de893f2debb7
  sB := 0x68e7b85419f551a0518bd8bc61f4730eb87146ae73ef074795dc065767a1c77
  sB2 := 0x68e7b85419f551a0518bd8bc61f4730eb87146ae73ef074795dc065767a1c78
  sR2 := 0x3ab728fc4ddff2c0f4a38a3525dd593539318651fed6cf92f4bfcad07e1bafb
  range := ⟨[sampleTable.point (1 + 2 * 2 ^ 200)], [sampleBit]⟩
  range2 := ⟨[sampleTable.point (1 + 3 * 2 ^ 200)], [sampleBit2]⟩

def balanceAudit : Audit CyclicPoint where
  auditedBalance := ⟨CyclicPoint.mk 23, CyclicPoint.mk 2⟩
  hintCiphertext := Vector.ofFn fun i => balanceHint.getD i 0
  hintNonce := balanceNonce
  proof := {
    ax := sampleTable.point 4
    al0 := sampleTable.point 9
    al1 := sampleTable.point 38
    ar1 := sampleTable.point 3
    sx := 0x7d7aefe520f6c32d75af4bf9e992ecf984e39dde26b515e0edb405b835cac10
    sb := 0x243622454dda1c08c7ab53ff215e21d9dafe653f4306e392b0969842b974832
    sr := 0x486c448a9bb438118f56a7fe42bc43b3b5fcca7e860dc725612d308572e905d
    c := balanceChallenge }

def amountAudit : Audit CyclicPoint where
  auditedBalance := ⟨CyclicPoint.mk 34, CyclicPoint.mk 3⟩
  hintCiphertext := Vector.ofFn fun i => amountHint.getD i 0
  hintNonce := amountNonce
  proof := {
    ax := sampleTable.point 4
    al0 := sampleTable.point 14
    al1 := sampleTable.point 28
    ar1 := sampleTable.point 2
    sx := 0x7726e5db93fbf2e95ee63fa53af5c622ce8261172af9966181c0cbfe1737049
    sb := 0x3597d7b1a76d230156b32da9e3d9f7ba88f2f466eed91f85545e7099b00018b
    sr := 0x20c78714f64767f4041988fdab8de73422c7b6581e103b6e16b12db2339b762
    c := amountChallenge }

def samplePrepared : PreparedCiphertexts CyclicPoint where
  randomness := 2
  leftoverRandomness := 3
  amountRandomness := [2]
  leftoverRandomnessValues := [3]
  transferBalanceL := CyclicPoint.mk 11
  transferBalanceR := CyclicPoint.mk 2
  transferBalanceSelfL := CyclicPoint.mk 15
  transferBalanceSelfR := CyclicPoint.mk 2
  auxiliarCipher := ⟨CyclicPoint.mk (1 + 2 * 2 ^ 200), CyclicPoint.mk 2⟩
  auxiliarCipher2 := ⟨CyclicPoint.mk (1 + 3 * 2 ^ 200), CyclicPoint.mk 3⟩

def sampleOut : TransferProof CyclicPoint where
  transferBalanceL := samplePrepared.transferBalanceL
  transferBalanceR := samplePrepared.transferBalanceR
  transferBalanceSelfL := samplePrepared.transferBalanceSelfL
  transferBalanceSelfR := samplePrepared.transferBalanceSelfR
  proof := sampleProof
  auxiliarCipher := samplePrepared.auxiliarCipher
  auxiliarCipher2 := samplePrepared.auxiliarCipher2
  newBalanceCipher := ⟨CyclicPoint.mk 8, CyclicPoint.mk 1⟩
  auditBalance := some balanceAudit
  auditTransfer := some amountAudit

def sampleState : TransferBuildState CyclicPoint where
  params := sampleParams
  secret := 7
  owner := CyclicPoint.mk 7
  amount := 1
  leftover := 1
  generator := generator
  generatorH := generatorH

lemma sample_new : Returns (TransferBuildState.new sampleAccount sampleParams) sampleState := by
  rw [TransferBuildState.returns_new, ElGamal.encrypts_iff]
  simp only [mul_eq_smul, sampleTable.curve_smul]
  refine ⟨by decide, by decide, by decide +kernel, ?_⟩
  rw [sampleAccount_owner]
  rfl

lemma sample_prepared : Returns (sampleState.prepareCiphertexts sampleDraws) samplePrepared ∧
    sampleState.protocolPrefix samplePrepared = .ok samplePrefixFelt := by
  refine ⟨TransferBuildState.returns_prepareCiphertexts.mpr ⟨2, 3, by decide +kernel,
    by decide +kernel, ?_⟩, by decide +kernel⟩
  simp only [TransferBuildState.ciphertexts, addScaled_eq, mul_eq_smul, sampleTable.curve_smul]
  decide +kernel

lemma sample_bits :
    Returns (Range.proveBit sampleDraws.range 1 (generator : CyclicPoint) generatorH
      samplePrefixFelt [2] 0) (CyclicPoint.mk (1 + 2 * 2 ^ 200), sampleBit, 2) ∧
    Returns (Range.proveBit sampleDraws.range2 1 (generator : CyclicPoint) generatorH
      samplePrefixFelt [3] 0) (CyclicPoint.mk (1 + 3 * 2 ^ 200), sampleBit2, 3) := by
  rw [Range.returns_proveBit, Range.returns_proveBit]
  refine ⟨⟨rfl, ?_⟩, rfl, ?_⟩
  all_goals
    rw [Bit.prove, if_neg (by decide), if_pos (by decide), Bit.proveBit1_eq_ok]
    simp only [sampleTable.curve_smul]
  · refine ⟨?_, ?_, bitChallenge, ⟨?_, ?_, ?_⟩, ⟨_, _, rfl, rfl, ?_⟩, ?_, ?_⟩
    all_goals decide +kernel
  · refine ⟨?_, ?_, bitChallenge2, ⟨?_, ?_, ?_⟩, ⟨_, _, rfl, rfl, ?_⟩, ?_, ?_⟩
    all_goals decide +kernel

lemma sample_ranges : Returns (sampleState.proveRanges sampleDraws samplePrepared samplePrefixFelt)
    (sampleProof.range, sampleProof.range2) := by
  rw [TransferBuildState.returns_proveRanges]
  unfold TransferBuildState.proveRange
  dsimp only [sampleState, samplePrepared, sampleParams]
  exact ⟨⟨2, Range.returns_proveWithRandomness.mpr
      ⟨by decide, rfl, by decide, _, .cons sample_bits.1 .nil, by decide +kernel⟩⟩,
    ⟨3, Range.returns_proveWithRandomness.mpr
      ⟨by decide, rfl, by decide, _, .cons sample_bits.2 .nil, by decide +kernel⟩⟩⟩

lemma sample_proof : sampleState.buildProtocolProof sampleDraws samplePrepared samplePrefixFelt
    sampleProof.range sampleProof.range2 = .ok sampleProof := by
  rw [TransferBuildState.buildProtocolProof_eq_ok, TransferBuildState.Commitments.sent_iff]
  simp only [TransferBuildState.commitments, TransferBuildState.Commitments.hashed, addScaled_eq,
    mul_eq_smul, sampleTable.curve_smul]
  refine ⟨by decide +kernel, by decide +kernel, sigmaChallenge, ?_⟩
  decide +kernel

lemma sample_balanceAudit : buildAudit sampleDraws.auditBalance 7 1 sampleOut.newBalanceCipher
    (CyclicPoint.mk 11) false (sampleParams.auditPrefix (CyclicPoint.mk 7)) = .ok balanceAudit := by
  refine buildAudit_eq_ok.mpr ⟨?_, ?_⟩
  · constructor
    case challenge =>
      simp only [sampleTable.curve_smul]
      exact ⟨balancePrefixFelt, by decide +kernel, by decide +kernel⟩
    case cipher1_eq | ax_eq | al0_eq | al1_eq | ar1_eq =>
      simp only [sampleTable.curve_smul]
      decide +kernel
    case encrypts => simp
    all_goals decide +kernel
  · unfold encryptForAuditor deriveSharedSecret
    simp only [mul_eq_smul, sampleTable.curve_smul]
    decide +kernel

lemma sample_amountAudit : buildAudit sampleDraws.auditTransfer 7 1
    ⟨samplePrepared.transferBalanceSelfL, samplePrepared.transferBalanceSelfR⟩
    (CyclicPoint.mk 11) true (sampleParams.auditPrefix (CyclicPoint.mk 7)) = .ok amountAudit := by
  refine buildAudit_eq_ok.mpr ⟨?_, ?_⟩
  · constructor
    case challenge =>
      simp only [sampleTable.curve_smul]
      exact ⟨amountPrefixFelt, by decide +kernel, by decide +kernel⟩
    case cipher1_eq | ax_eq | al0_eq | al1_eq | ar1_eq =>
      simp only [sampleTable.curve_smul]
      decide +kernel
    case encrypts =>
      intro _
      simp only [ElGamal.encrypts_iff, sampleTable.curve_smul]
      decide +kernel
    all_goals decide +kernel
  · unfold encryptForAuditor deriveSharedSecret
    simp only [mul_eq_smul, sampleTable.curve_smul]
    decide +kernel

lemma sample_transfer : Returns (transfer sampleDraws sampleAccount sampleParams) sampleOut := by
  refine returns_bind.mpr ⟨sampleState, sample_new, TransferBuildState.returns_execute.mpr
    ⟨samplePrepared, samplePrefixFelt, sampleProof.range, sampleProof.range2, sampleProof,
      sampleOut.newBalanceCipher, some balanceAudit, some amountAudit, sample_prepared.1,
      sample_prepared.2, sample_ranges, sample_proof, ?_, ?_, rfl⟩⟩
  · exact TransferBuildState.newBalanceCipher_eq_ok.mpr (by decide)
  · exact TransferBuildState.buildAudits_eq_ok.mpr (Or.inr ⟨_, _, _, rfl, sample_balanceAudit,
      sample_amountAudit, rfl⟩)

lemma sample_responses : ∀ proof ∈ sampleProof.range.proofs ++ sampleProof.range2.proofs,
    mul proof.s0 (some (generatorH : CyclicPoint)) ≠ 0 ∧
      mul proof.s1 (some (generatorH : CyclicPoint)) ≠ 0 := by
  simp only [mul_eq_smul, sampleTable.curve_smul]
  decide +kernel

/-- One of two coins is sent, under the eyes of an auditor. -/
theorem sampleTransfer_correct :
    Returns (transfer sampleDraws sampleAccount sampleParams) sampleOut ∧
      sampleOut.Correct sampleAccount sampleParams 1 ∧
      ∀ proof ∈ sampleProof.range.proofs ++ sampleProof.range2.proofs,
        mul proof.s0 (some (generatorH : CyclicPoint)) ≠ 0 ∧
          mul proof.s1 (some (generatorH : CyclicPoint)) ≠ 0 := by
  obtain ⟨state, hnew, hc⟩ := transfer_correct sample_transfer
  rw [hnew.unique sample_new] at hc
  exact ⟨sample_transfer, hc, sample_responses⟩

end Sample

end Transfer

end KrustyKms.Sdk

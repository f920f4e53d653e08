import KrustyKms.Arithmetic.Preimage
import KrustyKms.Crypto.Audit
import KrustyKms.Crypto.CyclicCurve
import Mathlib.LinearAlgebra.Prod

/-!
# Audit proofs are proofs of a preimage

The four equations of the verifier are one equation for the linear map that sends `(x, b, r1)` to
`(x G, b G + x R0, r1 G, b G + r1 A)` (`satisfies_iff`).
-/

namespace KrustyKms.Crypto.AuditProver

open Arithmetic Support StarkCurve

section Statement

variable {Point : Type} [CurvePoint Point]

/-- The scalars of a proof: the secret key, the balance and the auditor's randomness,
or the responses for them. -/
abbrev Scalars := OrderResidue × OrderResidue × OrderResidue

/-- The part of the statement that the two ciphertexts make up: `L0`, `R1` and `L1`. -/
def ciphers (r0 auditorPubKey : Point) : Scalars →ₗ[OrderResidue] Point × Point × Point where
  toFun w := (w.2.1 • generator + w.1 • r0, w.2.2 • generator,
    w.2.1 • generator + w.2.2 • auditorPubKey)
  map_add' v w := by
    simp only [Prod.fst_add, Prod.snd_add, add_smul, Prod.mk_add_mk, Prod.mk.injEq, true_and]
    exact ⟨add_add_add_comm _ _ _ _, add_add_add_comm _ _ _ _⟩
  map_smul' c w := by
    simp only [Prod.smul_fst, Prod.smul_snd, smul_eq_mul, mul_smul, Prod.smul_mk, smul_add,
      RingHom.id_apply]

def statement (r0 auditorPubKey : Point) :
    Scalars →ₗ[OrderResidue] Point × Point × Point × Point :=
  ((LinearMap.fst OrderResidue _ _).smulRight generator).prod (ciphers r0 auditorPubKey)

lemma statement_apply (r0 auditorPubKey : Point) (w : Scalars) :
    statement r0 auditorPubKey w = (w.1 • generator, w.2.1 • generator + w.1 • r0,
      w.2.2 • generator, w.2.1 • generator + w.2.2 • auditorPubKey) := rfl

/-! ## The verifier -/

structure Transcript where
  c : Felt
  sx : Felt
  sb : Felt
  sr : Felt

def Transcript.scalars (t : Transcript) : Scalars :=
  (residueFromFelt t.sx, residueFromFelt t.sb, residueFromFelt t.sr)

structure Transcript.Satisfies (t : Transcript) (userPubKey : Point)
    (cipher0 cipher1 : ElGamalCiphertext Point) (auditorPubKey ax al0 al1 ar1 : Point) : Prop where
  key : mul t.sx (some generator) = add ax (mul t.c (some userPubKey))
  l0 : add (mul t.sb (some generator)) (mul t.sx (some cipher0.r)) =
    add al0 (mul t.c (some cipher0.l))
  r1 : mul t.sr (some generator) = add ar1 (mul t.c (some cipher1.r))
  l1 : add (mul t.sb (some generator)) (mul t.sr (some auditorPubKey)) =
    add al1 (mul t.c (some cipher1.l))

variable {userPubKey auditorPubKey ax al0 al1 ar1 : Point}
  {cipher0 cipher1 : ElGamalCiphertext Point}

lemma Transcript.satisfies_iff {t : Transcript} :
    t.Satisfies userPubKey cipher0 cipher1 auditorPubKey ax al0 al1 ar1 ↔
      Preimage.Accepts (statement cipher0.r auditorPubKey)
        (userPubKey, cipher0.l, cipher1.r, cipher1.l) (ax, al0, ar1, al1)
        (residueFromFelt t.c) t.scalars := by
  unfold Preimage.Accepts
  rw [statement_apply]
  simp only [Transcript.scalars, Prod.smul_mk, Prod.mk_add_mk, Prod.mk.injEq]
  constructor
  · intro h
    obtain ⟨hkey, hl0, hr1, hl1⟩ := h
    simp only [mul_eq_smul, add_eq] at hkey hl0 hr1 hl1
    exact ⟨hkey, hl0, hr1, hl1⟩
  · intro h
    obtain ⟨hkey, hl0, hr1, hl1⟩ := h
    simp only [← mul_eq_smul, ← add_eq] at hkey hl0 hr1 hl1
    exact ⟨hkey, hl0, hr1, hl1⟩

variable [Poseidon] {proof : AuditProof} {prefixData : Option (AuditPrefixData Point)}

/-- The verifier's run on a proof it accepts: the first messages it read and the
challenge it recomputed, with which the equations hold. -/
structure Accepted (proof : AuditProof) (userPubKey : Point)
    (cipher0 cipher1 : ElGamalCiphertext Point) (auditorPubKey : Point)
    (prefixData : Option (AuditPrefixData Point)) (ax al0 al1 ar1 : AffinePoint Point) : Prop where
  ax_eq : proof.ax.toAffine = .ok ax
  al0_eq : proof.al0.toAffine = .ok al0
  al1_eq : proof.al1.toAffine = .ok al1
  ar1_eq : proof.ar1.toAffine = .ok ar1
  challenge : ∃ prefixFelt,
    computedPrefix prefixData cipher0 cipher1 auditorPubKey = .ok prefixFelt ∧
    computePoseidonChallenge prefixFelt [affineToProjective ax, affineToProjective al0,
      affineToProjective al1, affineToProjective ar1] = .ok proof.c
  satisfies : Transcript.Satisfies ⟨proof.c, proof.sx, proof.sb, proof.sr⟩ userPubKey cipher0
    cipher1 auditorPubKey (affineToProjective ax) (affineToProjective al0)
    (affineToProjective al1) (affineToProjective ar1)

theorem verify_eq_true :
    verify proof userPubKey cipher0 cipher1 auditorPubKey prefixData = .ok true ↔
      ∃ ax al0 al1 ar1 : AffinePoint Point,
        Accepted proof userPubKey cipher0 cipher1 auditorPubKey prefixData ax al0 al1 ar1 := by
  unfold verify
  simp only [except_bind_eq_ok, ite_pure_false_eq_ok, not_not]
  constructor
  · intro h
    obtain ⟨ax, hax, al0, hal0, al1, hal1, ar1, har1, prefixFelt, hpre, c, hc, rfl, hkey, hl0,
      hr1, hl1, -⟩ := h
    exact ⟨ax, al0, al1, ar1, hax, hal0, hal1, har1, ⟨prefixFelt, hpre, hc⟩,
      ⟨hkey, hl0, hr1, hl1⟩⟩
  · intro h
    obtain ⟨ax, al0, al1, ar1, hax, hal0, hal1, har1, ⟨prefixFelt, hpre, hc⟩, hs⟩ := h
    exact ⟨ax, hax, al0, hal0, al1, hal1, ar1, har1, prefixFelt, hpre, _, hc, rfl,
      hs.key, hs.l0, hs.r1, hs.l1, rfl⟩

/-! ## The prover -/

section Prover

variable {draws : Draws} {privateKey : Felt} {balance : ℕ} {validate : Bool}

omit [Poseidon] in
lemma refuseInfinity_eq_ok {P : Point} {name : String} {u : Unit} :
    refuseInfinity P name = .ok u ↔ P ≠ 0 := by
  unfold refuseInfinity
  simp only [isInfinity_eq_true]
  split_ifs with h
  · simp [h]
  · simp [h]

omit [Poseidon] in
lemma checkEncryption_eq_ok {u : Unit} :
    checkEncryption validate privateKey balance cipher0 = .ok u ↔
      (validate = true → ElGamal.Encrypts cipher0 privateKey balance) := by
  unfold checkEncryption
  rw [ElGamal.encrypts_iff, ← sub_eq_iff_eq_add]
  simp only [mul_eq_smul]
  split_ifs with hv h
  · simp [hv, h]
  · simpa [hv] using h
  · simp [hv]

omit [Poseidon] in
lemma auditL_eq (balance : ℕ) (auditorR1 : Point) :
    auditL balance auditorR1 = residueFromFelt (balance : Felt) • generator + auditorR1 := by
  unfold auditL
  split_ifs with h
  · rw [h, Nat.cast_zero, residueFromFelt_zero, zero_smul, zero_add]
  · rw [mul_eq_smul, add_eq]

def secrets (privateKey : Felt) (balance : ℕ) (draws : Draws) : Scalars :=
  (residueFromFelt privateKey, residueFromFelt (balance : Felt), residueFromFelt draws.r1)

def Draws.nonces (draws : Draws) : Scalars :=
  (residueFromFelt draws.kx, residueFromFelt draws.kb, residueFromFelt draws.kr)

structure Proved (draws : Draws) (privateKey : Felt) (balance : ℕ)
    (cipher0 : ElGamalCiphertext Point) (auditorPubKey : Point) (validate : Bool)
    (prefixData : Option (AuditPrefixData Point)) (proof : AuditProof)
    (cipher1 : ElGamalCiphertext Point) : Prop where
  l0_ne : cipher0.l ≠ 0
  r0_ne : cipher0.r ≠ 0
  auditor_ne : auditorPubKey ≠ 0
  encrypts : validate = true → ElGamal.Encrypts cipher0 privateKey balance
  cipher1_eq : cipher1 = ⟨residueFromFelt (balance : Felt) • generator +
    residueFromFelt draws.r1 • auditorPubKey, residueFromFelt draws.r1 • generator⟩
  cipher1_ne : cipher1.l ≠ 0 ∧ cipher1.r ≠ 0
  ax_eq : SerializablePoint.tryFromProjective
    (residueFromFelt draws.kx • generator : Point) = .ok proof.ax
  al0_eq : SerializablePoint.tryFromProjective (residueFromFelt draws.kb • generator +
    residueFromFelt draws.kx • cipher0.r) = .ok proof.al0
  al1_eq : SerializablePoint.tryFromProjective (residueFromFelt draws.kb • generator +
    residueFromFelt draws.kr • auditorPubKey) = .ok proof.al1
  ar1_eq : SerializablePoint.tryFromProjective
    (residueFromFelt draws.kr • generator : Point) = .ok proof.ar1
  challenge : ∃ prefixFelt,
    computedPrefix prefixData cipher0 cipher1 auditorPubKey = .ok prefixFelt ∧
    computePoseidonChallenge prefixFelt [residueFromFelt draws.kx • generator,
      residueFromFelt draws.kb • generator + residueFromFelt draws.kx • cipher0.r,
      residueFromFelt draws.kb • generator + residueFromFelt draws.kr • auditorPubKey,
      residueFromFelt draws.kr • generator] = .ok proof.c
  sx_eq : proof.sx = answer draws.kx proof.c privateKey
  sb_eq : proof.sb = answer draws.kb proof.c balance
  sr_eq : proof.sr = answer draws.kr proof.c draws.r1

omit [Poseidon] in
lemma ne_zero_of_tryFromProjective {P : Point} {s : SerializablePoint}
    (h : SerializablePoint.tryFromProjective P = .ok s) : P ≠ 0 := by
  obtain ⟨a, rfl, -⟩ := tryFromProjective_eq_ok.mp h
  exact affineToProjective_ne_zero a

theorem proveWithValidation_eq_ok :
    proveWithValidation draws privateKey balance cipher0 auditorPubKey validate prefixData =
        .ok (proof, cipher1) ↔
      Proved draws privateKey balance cipher0 auditorPubKey validate prefixData proof cipher1 := by
  unfold proveWithValidation
  simp only [except_bind_eq_ok, refuseInfinity_eq_ok, checkEncryption_eq_ok, auditL_eq,
    mul_eq_smul, add_eq, exists_const, exists_scalarAdd_scalarMul]
  constructor
  · intro h
    obtain ⟨hl0, hr0, ha, hen, hl1, hr1, -, -, -, -, prefixFelt, hpre, c, hc, h⟩ := h
    obtain ⟨ax, hax, al0, hal0, al1, hal1, ar1, har1, h⟩ := h
    obtain ⟨rfl, rfl⟩ := Prod.mk.inj (Except.ok.inj h)
    exact ⟨hl0, hr0, ha, hen, rfl, ⟨hl1, hr1⟩, hax, hal0, hal1, har1,
      ⟨prefixFelt, hpre, hc⟩, rfl, rfl, rfl⟩
  · intro h
    obtain ⟨prefixFelt, hpre, hc⟩ := h.challenge
    have hcp := h.cipher1_eq
    have hne := h.cipher1_ne
    subst hcp
    refine ⟨h.l0_ne, h.r0_ne, h.auditor_ne, h.encrypts, hne.1, hne.2,
      ne_zero_of_tryFromProjective h.ax_eq, ne_zero_of_tryFromProjective h.al0_eq,
      ne_zero_of_tryFromProjective h.ar1_eq, ne_zero_of_tryFromProjective h.al1_eq,
      prefixFelt, hpre, proof.c, hc, _, h.ax_eq, _, h.al0_eq, _, h.al1_eq, _, h.ar1_eq, ?_⟩
    rw [← h.sx_eq, ← h.sb_eq, ← h.sr_eq]
    rfl

lemma Proved.satisfies
    (h : Proved draws privateKey balance cipher0 auditorPubKey validate prefixData proof cipher1)
    (hen : ElGamal.Encrypts cipher0 privateKey balance) :
    Transcript.Satisfies ⟨proof.c, proof.sx, proof.sb, proof.sr⟩ (mulGenerator privateKey) cipher0
      cipher1 auditorPubKey (residueFromFelt draws.kx • generator)
      (residueFromFelt draws.kb • generator + residueFromFelt draws.kx • cipher0.r)
      (residueFromFelt draws.kb • generator + residueFromFelt draws.kr • auditorPubKey)
      (residueFromFelt draws.kr • generator) := by
  rw [Transcript.satisfies_iff]
  -- the statement is the image of the secrets, the first messages that of the nonces
  have hs : (mulGenerator privateKey, cipher0.l, cipher1.r, cipher1.l) =
      statement cipher0.r auditorPubKey (secrets privateKey balance draws) := by
    rw [statement_apply, h.cipher1_eq, ElGamal.encrypts_iff.mp hen, mulGenerator_eq_smul]
    rfl
  have hr : Transcript.scalars ⟨proof.c, proof.sx, proof.sb, proof.sr⟩ =
      draws.nonces + residueFromFelt proof.c • secrets privateKey balance draws := by
    simp only [Transcript.scalars, h.sx_eq, h.sb_eq, h.sr_eq, residueFromFelt_answer]
    rfl
  rw [hs, hr]
  exact Preimage.accepts_respond (statement cipher0.r auditorPubKey) _ draws.nonces _

structure Audits (proof : AuditProof) (privateKey : Felt) (balance : ℕ)
    (cipher0 cipher1 : ElGamalCiphertext Point) (auditorPubKey : Point)
    (prefixData : Option (AuditPrefixData Point)) : Prop where
  verified : verify proof (mulGenerator privateKey) cipher0 cipher1 auditorPubKey prefixData =
    .ok true
  decrypted : ∀ auditorKey, auditorPubKey = mulGenerator auditorKey →
    ElGamal.decrypt cipher1 auditorKey = .ok (mul (balance : Felt) (some generator))

lemma Proved.audits
    (h : Proved draws privateKey balance cipher0 auditorPubKey validate prefixData proof cipher1)
    (hen : ElGamal.Encrypts cipher0 privateKey balance) :
    Audits proof privateKey balance cipher0 cipher1 auditorPubKey prefixData := by
  refine ⟨?_, ?_⟩
  · have hs := h.satisfies hen
    have hc := h.challenge
    -- the verifier reads the first messages the prover sent
    obtain ⟨ax, hax, hp⟩ := toAffine_of_tryFromProjective h.ax_eq
    obtain ⟨al0, hal0, hpoint0⟩ := toAffine_of_tryFromProjective h.al0_eq
    obtain ⟨al1, hal1, hpoint1⟩ := toAffine_of_tryFromProjective h.al1_eq
    obtain ⟨ar1, har1, hpoint2⟩ := toAffine_of_tryFromProjective h.ar1_eq
    rw [← hp, ← hpoint0, ← hpoint1, ← hpoint2] at hs hc
    exact verify_eq_true.mpr ⟨ax, al0, al1, ar1, hax, hal0, hal1, har1, hc, hs⟩
  · intro auditorKey ha
    rw [ElGamal.decrypt_eq_iff, ElGamal.encrypts_iff, h.cipher1_eq, ha,
      mulGenerator_eq_smul, smul_smul, smul_smul, mul_comm]

end Prover

/-! ## Extraction -/

/-- The secrets two transcripts with the same first messages give away: the private key,
the balance and the randomness of the auditor's ciphertext. -/
def extractSecrets (t t' : Transcript) : Felt × Felt × Felt :=
  let (x, b, r1) := Preimage.extract (residueFromFelt t.c) (residueFromFelt t'.c) t.scalars
    t'.scalars
  (feltFromResidue x, feltFromResidue b, feltFromResidue r1)

/-- The secrets are those of the statement, and both ciphertexts hold the balance `b`. -/
structure Opens (userPubKey : Point) (cipher0 cipher1 : ElGamalCiphertext Point)
    (auditorPubKey : Point) (x b r1 : Felt) : Prop where
  key : userPubKey = mulGenerator x
  l0 : cipher0.l = add (mul b (some generator)) (mul x (some cipher0.r))
  l1 : cipher1.l = add (mul b (some generator)) (mul r1 (some auditorPubKey))
  r1 : cipher1.r = mulGenerator r1
  userReads : ElGamal.decrypt cipher0 x = .ok (mul b (some generator))
  auditorReads : ∀ auditorKey, auditorPubKey = mulGenerator auditorKey →
    ElGamal.decrypt cipher1 auditorKey = .ok (mul b (some generator))

omit [Poseidon] in
lemma opens_extractSecrets {t t' : Transcript}
    (h : t.Satisfies userPubKey cipher0 cipher1 auditorPubKey ax al0 al1 ar1)
    (h' : t'.Satisfies userPubKey cipher0 cipher1 auditorPubKey ax al0 al1 ar1)
    (hne : t.c.val % curveOrder ≠ t'.c.val % curveOrder) :
    Opens userPubKey cipher0 cipher1 auditorPubKey (extractSecrets t t').1
      (extractSecrets t t').2.1 (extractSecrets t t').2.2 := by
  have hc : residueFromFelt t.c ≠ residueFromFelt t'.c := by
    rw [Ne, residueFromFelt_eq_iff]
    exact hne
  have hex := (Transcript.satisfies_iff.mp h).extract (Transcript.satisfies_iff.mp h')
    hc
  unfold extractSecrets
  generalize Preimage.extract (residueFromFelt t.c) (residueFromFelt t'.c) t.scalars
    t'.scalars = found at hex
  obtain ⟨x, b, r1⟩ := found
  simp only [statement_apply, Prod.mk.injEq] at hex
  obtain ⟨hkey, hl0, hr1, hl1⟩ := hex
  refine ⟨?_, ?_, ?_, ?_, ?_, ?_⟩
  · rw [mulGenerator_eq_smul, residueFromFelt_feltFromResidue, hkey]
  · rw [mul_eq_smul, mul_eq_smul, add_eq, residueFromFelt_feltFromResidue,
      residueFromFelt_feltFromResidue, hl0]
  · rw [mul_eq_smul, mul_eq_smul, add_eq, residueFromFelt_feltFromResidue,
      residueFromFelt_feltFromResidue, hl1]
  · rw [mulGenerator_eq_smul, residueFromFelt_feltFromResidue, hr1]
  · rw [ElGamal.decrypt_eq_iff, ElGamal.encrypts_iff, residueFromFelt_feltFromResidue,
      residueFromFelt_feltFromResidue, hl0]
  · intro auditorKey ha
    rw [ElGamal.decrypt_eq_iff, ElGamal.encrypts_iff, residueFromFelt_feltFromResidue, hl1, hr1,
      ha, mulGenerator_eq_smul, smul_smul, smul_smul, mul_comm]

end Statement

section Main

variable {Point : Type} [CurvePoint Point] [Poseidon]

/-- **Completeness and special soundness of audit proofs.** Whenever the prover returns,
the verifier accepts under the user's key and the auditor decrypts the returned
ciphertext to the balance, zero or not; the prover that checks its ciphertext returns
only for ciphertexts of the balance, and the one that does not is complete for them.
What the verifier accepts satisfies its four equations, and two transcripts that satisfy
them with the same first messages and challenges that differ modulo the order give away
secrets of which both ciphertexts are encryptions of one balance. -/
theorem prove_verify_extract :
    (∀ (draws : Draws) (privateKey : Felt) (balance : ℕ) (cipher0 cipher1 : ElGamalCiphertext Point)
      (auditorPubKey : Point) (prefixData : Option (AuditPrefixData Point)) (proof : AuditProof),
      prove draws privateKey balance cipher0 auditorPubKey prefixData = .ok (proof, cipher1) →
        ElGamal.Encrypts cipher0 privateKey balance ∧
          Audits proof privateKey balance cipher0 cipher1 auditorPubKey prefixData) ∧
    (∀ (draws : Draws) (privateKey : Felt) (balance : ℕ) (cipher0 cipher1 : ElGamalCiphertext Point)
      (auditorPubKey : Point) (validate : Bool) (prefixData : Option (AuditPrefixData Point))
      (proof : AuditProof),
      ElGamal.Encrypts cipher0 privateKey balance →
        proveWithValidation draws privateKey balance cipher0 auditorPubKey validate prefixData =
          .ok (proof, cipher1) →
        Audits proof privateKey balance cipher0 cipher1 auditorPubKey prefixData) ∧
    (∀ (proof : AuditProof) (userPubKey : Point) (cipher0 cipher1 : ElGamalCiphertext Point)
      (auditorPubKey : Point) (prefixData : Option (AuditPrefixData Point)),
      verify proof userPubKey cipher0 cipher1 auditorPubKey prefixData = .ok true →
        ∃ ax al0 al1 ar1 : AffinePoint Point,
          Accepted proof userPubKey cipher0 cipher1 auditorPubKey prefixData ax al0 al1 ar1) ∧
    (∀ (userPubKey : Point) (cipher0 cipher1 : ElGamalCiphertext Point)
      (auditorPubKey ax al0 al1 ar1 : Point) (t t' : Transcript),
      t.Satisfies userPubKey cipher0 cipher1 auditorPubKey ax al0 al1 ar1 →
        t'.Satisfies userPubKey cipher0 cipher1 auditorPubKey ax al0 al1 ar1 →
          t.c.val % curveOrder ≠ t'.c.val % curveOrder →
            Opens userPubKey cipher0 cipher1 auditorPubKey (extractSecrets t t').1
              (extractSecrets t t').2.1 (extractSecrets t t').2.2) := by
  refine ⟨?_, ?_, ?_, ?_⟩
  · intro draws privateKey balance cipher0 cipher1 auditorPubKey prefixData proof h
    have hp := proveWithValidation_eq_ok.mp h
    have hen := hp.encrypts rfl
    exact ⟨hen, hp.audits hen⟩
  · intro draws privateKey balance cipher0 cipher1 auditorPubKey validate prefixData proof
      hen h
    exact (proveWithValidation_eq_ok.mp h).audits hen
  · intro proof userPubKey cipher0 cipher1 auditorPubKey prefixData h
    exact verify_eq_true.mp h
  · intro userPubKey cipher0 cipher1 auditorPubKey ax al0 al1 ar1 t t' h h' hne
    exact opens_extractSecrets h h' hne

end Main

section Sample

/-- The multiples of the generator in an audit of a zero balance, and the second
generator, whose logarithm is not known, at a place of its own. -/
def sampleTable : CurveTable where
  points := samplePoints ++ [
    ⟨13,
      0x55b1d8ab7fa62903691a92eecbead7205f512fc27ce1ec2db7120643585b23d,
      0x4a5edff810fb09724e54abbcf3ad2b7a361c14440a43294021a03138701e89f⟩,
    ⟨143,
      0x30bdf54525081a4697a6623e373efcb15eafb79885fee64638011f33c160f50,
      0xdba8517ff4dd63658d3d0bf5ddbe8174baea4601e810ec6e227f9d69a226e6⟩,
    ⟨56,
      0x270c934d0a2f7c2d68d743c3d6d59b304f94fe26fd9a9fa50d7241ebe5acd6,
      0x13a77373b8274855e440b5ff68f3571c37dedab2e390415070f89c95f74ee4e⟩,
    ⟨252,
      0x50648b8aea50a4022fa70f69ac3ac1ca2134fa044eaf6fcdd2b51827ce9e3be,
      0x4be576d99e736c29651e4edcd07b6b4f4f8129ae1e428aef1fc906c093e3aa4⟩]
  labels_nodup := by decide +kernel
  coordinates_nodup := by decide +kernel
  ne_zero := by decide +kernel

@[reducible] def sampleCurve : CurvePoint CyclicPoint :=
  sampleTable.curve (by decide +kernel) (by decide +kernel)

/-- An encryption of zero under the key `7 G`, and the one for the auditor's key `13 G`. -/
def sampleCipher0 : ElGamalCiphertext CyclicPoint := ⟨CyclicPoint.mk 21, CyclicPoint.mk 3⟩
def sampleCipher1 : ElGamalCiphertext CyclicPoint := ⟨CyclicPoint.mk 143, CyclicPoint.mk 11⟩

def samplePrefix : AuditPrefixData CyclicPoint where
  chainId := 0x534e5f5345504f4c4941
  tongoAddress := 123456
  senderAddress := 789
  userPubKey := CyclicPoint.mk 7

def sampleInputs : List Felt :=
  [samplePrefix.chainId, samplePrefix.tongoAddress, samplePrefix.senderAddress,
    auditCairoString] ++ sampleTable.felts [7, 13, 21, 3, 143, 11]

def samplePrefixFelt : Felt := 0x121d859001d95ba8f908d3d2abc8fa6238bda4c2c28cedc734a4413bb7797b6

def sampleFelts : List Felt := samplePrefixFelt :: sampleTable.felts [17, 56, 252, 19]

@[reducible] def samplePoseidon : Poseidon := tablePoseidon [
  (sampleInputs, samplePrefixFelt),
  (sampleFelts, 0x5cb1962018ed834f0e5b98bea0ab589d473aebeb525f36b2b1e5a3078d652ce)]

def sampleDraws : Draws := { r1 := 11, kx := 17, kb := 5, kr := 19 }

def sampleProof : AuditProof where
  ax := sampleTable.point 17
  al0 := sampleTable.point 56
  al1 := sampleTable.point 252
  ar1 := sampleTable.point 19
  sx := 0x8db1ae0ae7e91d964812d3664af6c639a46b11fd832cf395d34c0ae8fcc1c8
  sb := 5
  sr := 0x7ba1736112349cf59def9030e75ccee1c7101313c4b963c057f704970c972a4
  c := 0x5cb1962018ed834f0e5b98bea0ab589d473aebeb525f36b2b1e5a3078d652ce

attribute [local instance] sampleCurve samplePoseidon

lemma sample_proved : Proved sampleDraws 7 0 sampleCipher0 (CyclicPoint.mk 13) true
    (some samplePrefix) sampleProof sampleCipher1 := by
  constructor
  case challenge =>
    simp only [sampleTable.curve_smul]
    exact ⟨samplePrefixFelt, by decide +kernel, by decide +kernel⟩
  case encrypts =>
    intro _
    simp only [ElGamal.encrypts_iff, sampleTable.curve_smul]
    decide +kernel
  case cipher1_eq | ax_eq | al0_eq | al1_eq | ar1_eq =>
    simp only [sampleTable.curve_smul]
    decide +kernel
  all_goals decide +kernel

def sampleTranscript : Transcript :=
  ⟨sampleProof.c, sampleProof.sx, sampleProof.sb, sampleProof.sr⟩
def forkedTranscript : Transcript :=
  ⟨sampleProof.c + 1, sampleProof.sx + 7, sampleProof.sb, sampleProof.sr + 11⟩

lemma sample_satisfies (t : Transcript) (h : t = sampleTranscript ∨ t = forkedTranscript) :
    t.Satisfies (CyclicPoint.mk 7) sampleCipher0 sampleCipher1 (CyclicPoint.mk 13)
      (CyclicPoint.mk 17) (CyclicPoint.mk 56) (CyclicPoint.mk 252) (CyclicPoint.mk 19) := by
  constructor
  all_goals
    simp only [mul_eq_smul, sampleTable.curve_smul]
    rcases h with rfl | rfl
    · decide +kernel
    · decide +kernel

/-- The audit of a zero balance is accepted and read by the auditor, and two answers give
away the key, the balance and the auditor's randomness. -/
theorem sampleAudit_extracted :
    prove sampleDraws 7 0 sampleCipher0 (CyclicPoint.mk 13) (some samplePrefix) =
        .ok (sampleProof, sampleCipher1) ∧
      Audits sampleProof 7 0 sampleCipher0 sampleCipher1 (CyclicPoint.mk 13)
        (some samplePrefix) ∧
      (∃ ax al0 al1 ar1 : AffinePoint CyclicPoint,
        Accepted sampleProof (mulGenerator 7) sampleCipher0 sampleCipher1 (CyclicPoint.mk 13)
          (some samplePrefix) ax al0 al1 ar1) ∧
      Opens (CyclicPoint.mk 7) sampleCipher0 sampleCipher1 (CyclicPoint.mk 13) 7 0 11 := by
  obtain ⟨hpr, hc, hv, hex⟩ := @prove_verify_extract CyclicPoint _ _
  have hp := proveWithValidation_eq_ok.mpr sample_proved
  obtain ⟨hen, -⟩ := hpr _ _ _ _ _ _ _ _ hp
  have ha := hc _ _ _ _ _ _ _ _ _ hen hp
  have ho := hex _ _ _ _ _ _ _ _ _ _ (sample_satisfies _ (Or.inl rfl))
    (sample_satisfies _ (Or.inr rfl)) (by decide +kernel)
  rw [show extractSecrets sampleTranscript forkedTranscript = (7, 0, 11) by decide +kernel]
    at ho
  exact ⟨hp, ha, hv _ _ _ _ _ _ ha.verified, ho⟩

end Sample

end KrustyKms.Crypto.AuditProver

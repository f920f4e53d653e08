import KrustyKms.Common.Reference
import KrustyKms.Crypto.AuditTheorems
import KrustyKms.Crypto.RangeTheorems
import KrustyKms.Sdk.Transfer

/-!
# What the parts of an operation compute

Responses answer for linear combinations of points (`addScaled_answer`), and an audit of
a ciphertext that holds the balance is accepted (`auditVerifies_of_buildAudit`).
-/

namespace KrustyKms.Sdk

open Codec Crypto StarkCurve Support MayPanic

section Parts

variable {Point : Type} [CurvePoint Point]

lemma hasSufficientBalance_eq_true {account : TongoAccount Point} {amount : ℕ} :
    account.hasSufficientBalance amount = true ↔ amount ≤ account.balance := by
  unfold TongoAccount.hasSufficientBalance TongoAccount.balance
  exact decide_eq_true_iff

lemma verifyCipherEncryptsBalance_eq_ok {cipher : ElGamalCiphertext Point} {x : Felt} {balance : ℕ}
    {u : Unit} :
    verifyCipherEncryptsBalance cipher x balance generator = .ok u ↔
      mul x (some cipher.r) ≠ 0 ∧ mul (balance : Felt) (some (generator : Point)) ≠ 0 ∧
        ElGamal.Encrypts cipher x balance := by
  have hen : ElGamal.Encrypts cipher x balance ↔
      add cipher.l (-mul x (some cipher.r)) = mul (balance : Felt) (some generator) := by
    rw [ElGamal.Encrypts, add_eq, add_eq, ← sub_eq_add_neg, sub_eq_iff_eq_add]
  rw [hen]
  unfold verifyCipherEncryptsBalance
  simp only [except_bind_eq_ok, negatePoint_eq_ok, projectiveToAffine_eq_ok]
  constructor
  · intro h
    obtain ⟨negated, ⟨hr, rfl⟩, computed, hc, expected, hex, h⟩ := h
    have heq : computed = expected := by
      by_contra hne
      rw [if_pos hne] at h
      exact absurd h (by simp [throw, throwThe, MonadExceptOf.throw])
    rw [← hc, ← hex, heq]
    exact ⟨hr, affineToProjective_ne_zero expected, rfl⟩
  · intro h
    obtain ⟨hr, hb, heq⟩ := h
    obtain ⟨expected, hex⟩ := exists_affine hb
    refine ⟨_, ⟨hr, rfl⟩, expected, by rw [heq, hex], expected, hex, ?_⟩
    rw [if_neg (by simp)]
    rfl

lemma subtractPoint_eq_ok {P Q R : Point} :
    subtractPoint P Q = .ok R ↔ Q ≠ 0 ∧ R = P - Q := by
  unfold subtractPoint
  simp only [except_bind_eq_ok, negatePoint_eq_ok]
  constructor
  · intro h
    obtain ⟨negated, ⟨hne, rfl⟩, h⟩ := h
    exact ⟨hne, by rw [← Except.ok.inj h, add_eq, sub_eq_add_neg]⟩
  · intro h
    obtain ⟨hne, rfl⟩ := h
    exact ⟨-Q, ⟨hne, rfl⟩, by rw [add_eq, sub_eq_add_neg]; rfl⟩

/-! ## Responses -/

lemma response_eq_ok {randomness challenge value s : Felt} :
    response randomness challenge value = .ok s ↔ s = answer randomness challenge value := by
  unfold response
  rw [except_bind_eq_ok]
  constructor
  · intro h
    obtain ⟨product, hp, hsum⟩ := h
    exact (scalarAdd_eq_answer hp).mp hsum
  · intro h
    exact ⟨_, rfl, (scalarAdd_eq_answer rfl).mpr h⟩

lemma addScaled_eq (a b : Felt) (P Q : Point) :
    addScaled a P b Q = residueFromFelt a • P + residueFromFelt b • Q := by
  rw [addScaled, mul_eq_smul, mul_eq_smul, add_eq]

lemma mul_answer (k c w : Felt) (P : Point) :
    mul (answer k c w) (some P) = add (mul k (some P)) (mul c (some (mul w (some P)))) := by
  simp only [mul_eq_smul, add_eq, residueFromFelt_answer]
  rw [add_smul, mul_smul]

lemma addScaled_answer (k k' c w w' : Felt) (P Q : Point) :
    addScaled (answer k c w) P (answer k' c w') Q =
      add (addScaled k P k' Q) (mul c (some (addScaled w P w' Q))) := by
  simp only [addScaled_eq, mul_eq_smul, add_eq, residueFromFelt_answer]
  rw [add_smul, add_smul, mul_smul, mul_smul, smul_add, add_add_add_comm]

/-! ## Range proofs -/

section Ranges

variable [Poseidon]

def RangeVerifies (range : Range) (bitSize : ℕ) (prefixFelt : Felt) (V : Point) : Prop :=
  (∀ proof ∈ range.proofs, mul proof.s0 (some (generatorH : Point)) ≠ 0 ∧
      mul proof.s1 (some (generatorH : Point)) ≠ 0) →
    Returns (Range.verify range bitSize generator generatorH prefixFelt) V

lemma rangeVerifies_of_prove {draws : ℕ → Bit.Draws} {value bitSize : ℕ} {prefixFelt r r' : Felt}
    {randomValues : List Felt} {range : Range} (hpos : 1 ≤ bitSize)
    (h : Returns (Range.proveWithRandomness draws value bitSize (generator : Point) generatorH
    prefixFelt randomValues) (range, r'))
    (hr : Returns (Range.computeTotalRandomness randomValues) r) :
    RangeVerifies range bitSize prefixFelt
      (addScaled (value : Felt) generator r generatorH : Point) := by
  intro hrs
  have hv := Range.returns_verify_of_prove generator_ne_zero hpos h hrs
  rw [(Range.returns_computeTotalRandomness h).unique hr] at hv
  exact hv

lemma bitSize_pos_of_prove {draws : ℕ → Bit.Draws} {value bitSize : ℕ} {prefixFelt r : Felt}
    {randomValues : List Felt} {range : Range} (hv : value ≠ 0)
    (h : Returns (Range.proveWithRandomness draws value bitSize (generator : Point) generatorH
    prefixFelt randomValues) (range, r)) : 1 ≤ bitSize := by
  obtain ⟨-, -, hlt, -⟩ := Range.returns_proveWithRandomness.mp h
  by_contra hz
  rw [show bitSize = 0 by omega, pow_zero] at hlt
  omega

end Ranges

/-! ## Audits -/

section Audits

variable [Poseidon] [Sha256] [XChaCha20Poly1305] {draws : AuditDraws} {privateKey : Felt}
  {balance : ℕ} {cipher : ElGamalCiphertext Point} {auditor : Point} {validate : Bool}
  {prefixData : AuditPrefixData Point} {audit : Audit Point}

lemma buildAudit_eq_ok :
    buildAudit draws privateKey balance cipher auditor validate prefixData = .ok audit ↔
      AuditProver.Proved draws.proof privateKey balance cipher auditor validate (some prefixData)
        audit.proof audit.auditedBalance ∧
      encryptForAuditor draws.hintNonce balance privateKey auditor =
        .ok (audit.hintCiphertext, audit.hintNonce) := by
  unfold buildAudit
  rw [← AuditProver.proveWithValidation_eq_ok]
  simp only [except_bind_eq_ok]
  constructor
  · intro h
    obtain ⟨out, hp, hint, hh, h⟩ := h
    rw [← Except.ok.inj h]
    exact ⟨hp, hh⟩
  · intro h
    exact ⟨_, h.1, _, h.2, rfl⟩

def AuditVerifies (audit : Option (Audit Point)) (auditorPubKey : Option Point) (privateKey : Felt)
    (balance : ℕ) (cipher : ElGamalCiphertext Point) (prefixData : AuditPrefixData Point) : Prop :=
  audit.isSome = auditorPubKey.isSome ∧
    ∀ emitted auditor, audit = some emitted → auditorPubKey = some auditor →
      AuditProver.Audits emitted.proof privateKey balance cipher emitted.auditedBalance auditor
        (some prefixData)

omit [Sha256] [XChaCha20Poly1305] in
lemma auditVerifies_none : AuditVerifies none none privateKey balance cipher prefixData := by
  refine ⟨rfl, ?_⟩
  intro emitted auditor hem
  exact absurd hem (by simp)

lemma auditVerifies_of_buildAudit
    (h : buildAudit draws privateKey balance cipher auditor validate prefixData = .ok audit)
    (hen : ElGamal.Encrypts cipher privateKey balance) :
    AuditVerifies (some audit) (some auditor) privateKey balance cipher prefixData := by
  refine ⟨rfl, ?_⟩
  intro emitted auditor' hem ha
  obtain rfl := Option.some.inj hem
  obtain rfl := Option.some.inj ha
  exact (buildAudit_eq_ok.mp h).1.audits hen

end Audits

end Parts

section Sample

/-- The points of a transfer and of a withdrawal of one of two coins, with the second
generator, whose logarithm is not known, at a place of its own. -/
def sampleTable : CurveTable where
  points := samplePoints ++ [
    ⟨23,
      0x2a862a05b8b7f23d870e4a52234a11ab9a5558c2e7ba991acb6549ec23e4e69,
      0xa4afa230894ccd0fd93afa25e950ef6e613413a536e002a3dd2456811868e0⟩,
    ⟨1 + 2 * hLabel,
      0x1e175390b58c835714146ad1f80b93d47222e91e64612266b68ba5b7d90612d,
      0x7d7cb97781bc072e77a384e391d71efbd66117bcdf6d0ee08f67caac3459dd9⟩,
    ⟨1 + 3 * hLabel,
      0x3ce05e395d3cf9598d17e8b65de0efe7a0356405ae98028d81ecf008af9c7f6,
      0x700363df4bec073980bc3a3038759ea774acee46daea14e0244621882f54dc7⟩,
    ⟨8,
      0x6eeee2b0c71d681692559735e08a2c3ba04e7347c0c18d4d49b83bb89771591,
      0x72498c69f16e02231e26a6a6acaabb8714e0af1306066231dd38c233ee15216⟩,
    ⟨5 + 2 * hLabel,
      0x33d83304053c1234b368671a3e271c962472d28e802f7ed8fa7217407aedcdb,
      0x174b68dd67c91c423bfa6bbba924a97ece2358bd5e52cb5b37948b5d150c34⟩,
    ⟨6 + 3 * hLabel,
      0x2c21141ba6d0d67aa8b2eefee32030cedf6bbb829c59d97caf575987932fb42,
      0x4ce6440888e17bb98cf673d384cf67972bc1cc7f6c75d35464590b3d3504143⟩,
    ⟨-2 + 5 * hLabel,
      0x19c3c3f4c9be4fb9b3ca59e0483137eca0ff08b7afa4218426f41988344ef25,
      0x219506eb75a13aef146bf4e40829724f558f365b7551dc764106d56e9e3f75b⟩,
    ⟨4 * hLabel,
      0xe8255e32cfa17c61510f5b9c0bfd94a70703cf1501afb4c81df6177dcf0f0b,
      0x6264768b2866b1f4a94f7dc784a02ad6a76aa75e437d86ec7271169e1c44b7d⟩,
    ⟨-2 + 3 * hLabel,
      0x342439c7113757781151961f2b4be561779d7178b0e46ee8c23fd2981d4dad3,
      0x791755930919d356455472c182750811c2eb07c3c8e9b0269d555929ddb52b3⟩,
    ⟨9,
      0x216b4f076ff47e03a05032d1c6ee17933d8de8b2b4c43eb5ad5a7e1b25d3849,
      0x54b14e088019c05fd3c7ea1dadef2999de50590264fbf9ffe77692ceb241a8c⟩,
    ⟨38,
      0x314ced2bd5d8569e6ae2a30dc45e8344012072235e15e4009d37544216fc74d,
      0x74c6943d10da0a2f50b13e4e561b0dc95a00f67e412e9111365797f82fc3467⟩,
    ⟨34,
      0x5b8db46eda6b4140b7d8565a2d00a51b0eccdd519dcc56b46e81e9ad9a4fd99,
      0x7cbe739e73663bcca2289c8f74b28fcd78df4d3bfa7de479b7b131d2f3cb743⟩,
    ⟨14,
      0x3ed4a45432b30fb5f765be330e5d5766d54e78c24f50a804f998cb6b043bb4c,
      0x5c05669920dd017729df6116c0d616b5884dff28f158e365465016466630dc9⟩,
    ⟨28,
      0x58909bf7edafb2f83186304d4d55c94a50a012ba500ebb339d3dd81f01c61fc,
      0x19985cb857001749ae1e1930852720d2130e25db7c447419fea7b2823b87f28⟩,
    ⟨77,
      0x3df94c805edd64cd42c6404d5ecca70b2db9b4b89432a2f01c0c4f54eeecaaa,
      0x4a41cb65857e2fb541be031e6057fa895259e7981d4240b822e970862148719⟩,
    ⟨22 - 7 * 0x7769746864726177,
      0x4043cf9c803c089c4db8677ec54cffe041d693498bb815ddce542c5088c4f5f,
      0x6a81feac5e547545adbe34a5d73345a429d2d367e82a754128852e4e0a87ad⟩,
    ⟨3 - 0x7769746864726177,
      0x72575c8fabefa7e4095a018728017cc58d90231cced5ad931f6e71c187ffc32,
      0x52832650c26ddd935ad6569c43a078d316e17687ff2e097abb17fe9b9b36509⟩,
    ⟨17 - 4 * 0x7769746864726177,
      0x1047e4365d3d953c382719ba6d6f376cd2dae818c573b61124206855318bdf,
      0x16a920fb5a6fa2cfcd23cbab13e7a3e9aee116eef3de6ff665d05ff2bceb821⟩]
  labels_nodup := by decide +kernel
  coordinates_nodup := by decide +kernel
  ne_zero := by decide +kernel

@[reducible] def sampleCurve : CurvePoint CyclicPoint :=
  sampleTable.curve (by decide +kernel) (by decide +kernel)

def sharedKey : ℕ := 0x83d2d96ff379c606fffde7b81a60a9a8da6ca1f98eba2d238685908cd25adf5f

def balanceNonce : Vector UInt8 24 :=
  beVector 24 0x102030405060708090a0b0c0d0e0f101112131415161718
def amountNonce : Vector UInt8 24 :=
  beVector 24 0x191a1b1c1d1e1f202122232425262728292a2b2c2d2e2f30

def balanceHint : Bytes :=
  beBytes 32 0xd4f72db55f673491dc78211dc852cb6c98c5af212f4c119b24da453d35f4c6a4
def amountHint : Bytes :=
  beBytes 32 0x6ab365517a9341177432742fb22a75af1bff1e6e5e8bcc6661f3e11f1ab7db2d

@[reducible] def sampleAead : XChaCha20Poly1305 := tableXChaCha20Poly1305 [
  ⟨beVector 32 sharedKey, balanceNonce, beBytes 16 1, balanceHint⟩,
  ⟨beVector 32 sharedKey, amountNonce, beBytes 16 1, amountHint⟩]

attribute [local instance] sampleCurve

def sampleAccount : TongoAccount CyclicPoint :=
  (TongoAccount.fromPrivateKey 7 123456).setBalance 2 (by decide)

def sampleBalance : ElGamalCiphertext CyclicPoint := ⟨CyclicPoint.mk 23, CyclicPoint.mk 3⟩

lemma sampleAccount_owner : sampleAccount.ownerPublicKey = CyclicPoint.mk 7 := by
  rw [sampleAccount.publicKey_eq, mulGenerator_eq_smul, sampleTable.curve_smul]
  decide +kernel

lemma sampleOwner_onCurve : (CurvePoint.fromAffine (sampleTable.point 7).x
    (sampleTable.point 7).y : Option CyclicPoint).isSome := by
  decide +kernel

end Sample

end KrustyKms.Sdk

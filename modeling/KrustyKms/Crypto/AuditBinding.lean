import KrustyKms.Crypto.AuditTheorems

/-!
# What an accepted audit proof binds

The challenge is a hash of the first messages and of a prefix, which is itself a hash of the
chain, the contract, the sender, a user key, the auditor and both ciphertexts.
-/

namespace KrustyKms.Crypto.AuditProver

open Arithmetic Support StarkCurve

section Binding

variable {Point : Type} [CurvePoint Point]

/-! ## The hashed lists -/

lemma affine_ext {a b : AffinePoint Point} (hx : a.x = b.x) (hy : a.y = b.y) : a = b := by
  cases a
  cases b
  simp_all

lemma point_ext {s s' : SerializablePoint} (hx : s.x = s'.x) (hy : s.y = s'.y) : s = s' := by
  cases s
  cases s'
  simp_all

lemma cipherAffine_eq_ok {P : Point} {name : String} {a : AffinePoint Point} :
    cipherAffine P name = .ok a ↔ affineToProjective a = P := by
  rw [← toAffine_eq_some]
  unfold cipherAffine
  cases toAffine P with
  | none => simp
  | some b => simp

lemma extendTranscript_map (felts : List Felt) (points : List (AffinePoint Point)) :
    extendTranscript felts (points.map affineToProjective) =
      .ok (felts ++ points.flatMap fun a => [a.x, a.y]) := by
  induction points generalizing felts with
  | nil => simp [extendTranscript, pure, Except.pure]
  | cons a points ih =>
    have hs : extendTranscript felts ((a :: points).map affineToProjective) =
        extendTranscript (felts ++ [a.x, a.y]) (points.map affineToProjective) := by
      unfold extendTranscript
      rw [List.map_cons, List.foldlM_cons, toAffine_eq_some.mpr rfl]
      rfl
    rw [hs, ih, List.flatMap_cons, List.append_assoc]

variable {pd pd' : AuditPrefixData Point} {auditorPubKey auditorPubKey' : Point}
  {cipher0 cipher1 cipher0' cipher1' : ElGamalCiphertext Point}

lemma prefixInputs_eq_ok {felts : List Felt} :
    prefixInputs pd cipher0 cipher1 auditorPubKey = .ok felts ↔
      ∃ y a l0 r0 l1 r1 : AffinePoint Point,
        affineToProjective y = pd.userPubKey ∧ affineToProjective a = auditorPubKey ∧
        affineToProjective l0 = cipher0.l ∧ affineToProjective r0 = cipher0.r ∧
        affineToProjective l1 = cipher1.l ∧ affineToProjective r1 = cipher1.r ∧
        [pd.chainId, pd.tongoAddress, pd.senderAddress, auditCairoString, y.x, y.y, a.x, a.y,
          l0.x, l0.y, r0.x, r0.y, l1.x, l1.y, r1.x, r1.y] = felts := by
  unfold prefixInputs
  simp only [except_bind_eq_ok, projectiveToAffine_eq_ok, cipherAffine_eq_ok]
  constructor
  · intro h
    obtain ⟨y, hy, a, ha, l0, hl0, r0, hr0, l1, hl1, r1, hr1, h⟩ := h
    exact ⟨y, a, l0, r0, l1, r1, hy, ha, hl0, hr0, hl1, hr1, Except.ok.inj h⟩
  · intro h
    obtain ⟨y, a, l0, r0, l1, r1, hy, ha, hl0, hr0, hl1, hr1, rfl⟩ := h
    exact ⟨y, hy, a, ha, l0, hl0, r0, hr0, l1, hl1, r1, hr1, rfl⟩

lemma prefixInputs_injective {felts : List Felt}
    (h : prefixInputs pd cipher0 cipher1 auditorPubKey = .ok felts)
    (h' : prefixInputs pd' cipher0' cipher1' auditorPubKey' = .ok felts) :
    pd = pd' ∧ cipher0 = cipher0' ∧ cipher1 = cipher1' ∧ auditorPubKey = auditorPubKey' := by
  obtain ⟨y, a, l0, r0, l1, r1, hy, ha, hl0, hr0, hl1, hr1, hf⟩ := prefixInputs_eq_ok.mp h
  obtain ⟨y', a', l0', r0', l1', r1', hy', ha', hl0', hr0', hl1', hr1', hf'⟩ :=
    prefixInputs_eq_ok.mp h'
  have heq := hf.trans hf'.symm
  simp only [List.cons.injEq, and_true, true_and] at heq
  obtain ⟨hc, ht, hs, hyx, hyy, hax, hay, hl0x, hl0y, hr0x, hr0y, hl1x, hl1y, hr1x,
    hr1y⟩ := heq
  rw [affine_ext hyx hyy, hy'] at hy
  rw [affine_ext hax hay, ha'] at ha
  rw [affine_ext hl0x hl0y, hl0'] at hl0
  rw [affine_ext hr0x hr0y, hr0'] at hr0
  rw [affine_ext hl1x hl1y, hl1'] at hl1
  rw [affine_ext hr1x hr1y, hr1'] at hr1
  refine ⟨?_, ?_, ?_, ha.symm⟩
  · cases pd
    cases pd'
    simp_all
  · cases cipher0
    cases cipher0'
    simp_all
  · cases cipher1
    cases cipher1'
    simp_all

/-! ## The equations without the user's key -/

lemma ciphers_injective {r0 auditorPubKey : Point} (hr0 : r0 ≠ 0) :
    Function.Injective (ciphers r0 auditorPubKey) := by
  rw [injective_iff_map_eq_zero]
  intro w hw
  obtain ⟨x, b, r⟩ := w
  have hg : (generator : Point) ≠ 0 := generator_ne_zero
  have hp : b • generator + x • r0 = 0 ∧ r • (generator : Point) = 0 ∧
      b • generator + r • auditorPubKey = 0 := by
    simpa [ciphers] using hw
  obtain ⟨hl0, hr1, hl1⟩ := hp
  -- the randomness first, then the balance, then the key
  have hr : r = 0 := (smul_eq_zero_iff_left hg).mp hr1
  rw [hr, zero_smul, add_zero] at hl1
  have hb : b = 0 := (smul_eq_zero_iff_left hg).mp hl1
  rw [hb, zero_smul, zero_add] at hl0
  have hx : x = 0 := (smul_eq_zero_iff_left hr0).mp hl0
  rw [hr, hb, hx]
  rfl

lemma Transcript.Satisfies.unique {t t' : Transcript}
    {userPubKey userPubKey' ax al0 al1 ar1 : Point}
    (h : t.Satisfies userPubKey cipher0 cipher1 auditorPubKey ax al0 al1 ar1)
    (h' : t'.Satisfies userPubKey' cipher0 cipher1 auditorPubKey ax al0 al1 ar1)
    (hc : t.c = t'.c) (hne : residueFromFelt t.c ≠ 0) (hr0 : cipher0.r ≠ 0) :
    t.scalars = t'.scalars ∧ userPubKey = userPubKey' := by
  obtain ⟨hkey, hcp⟩ := Preimage.accepts_prod.mp (Transcript.satisfies_iff.mp h)
  obtain ⟨hk', hc'⟩ := Preimage.accepts_prod.mp (Transcript.satisfies_iff.mp h')
  rw [← hc] at hk' hc'
  have hs := hcp.response_unique hc' (ciphers_injective hr0)
  rw [← hs] at hk'
  exact ⟨hs, hkey.statement_unique hk' hne⟩

/-! ## Calls -/

structure Call (Point : Type) where
  proof : AuditProof
  userPubKey : Point
  cipher0 : ElGamalCiphertext Point
  cipher1 : ElGamalCiphertext Point
  auditorPubKey : Point
  prefixData : AuditPrefixData Point

namespace Call

variable [Poseidon]

def verify (call : Call Point) : Result Bool :=
  AuditProver.verify call.proof call.userPubKey call.cipher0 call.cipher1 call.auditorPubKey
    (some call.prefixData)

def prefixInputs (call : Call Point) : Result (List Felt) :=
  AuditProver.prefixInputs call.prefixData call.cipher0 call.cipher1 call.auditorPubKey

def transcript (call : Call Point) : Result (List Felt) := do
  let ax := affineToProjective (← (call.proof.ax.toAffine : Result (AffinePoint Point)))
  let al0 := affineToProjective (← (call.proof.al0.toAffine : Result (AffinePoint Point)))
  let al1 := affineToProjective (← (call.proof.al1.toAffine : Result (AffinePoint Point)))
  let ar1 := affineToProjective (← (call.proof.ar1.toAffine : Result (AffinePoint Point)))
  let prefixFelt ← computedPrefix (some call.prefixData) call.cipher0 call.cipher1
    call.auditorPubKey
  extendTranscript [prefixFelt] [ax, al0, al1, ar1]

def finalHash (call : Call Point) : Result Felt := do
  let felts ← call.transcript
  pure (Poseidon.hashArray felts)

def hashed (call : Call Point) : Set (List Felt) :=
  {felts | call.prefixInputs = .ok felts ∨ call.transcript = .ok felts}

variable {call call' : Call Point}

lemma transcript_eq_ok {felts : List Felt} (h : call.transcript = .ok felts) :
    ∃ inputs, call.prefixInputs = .ok inputs ∧
      felts = [Poseidon.hashArray inputs, call.proof.ax.x, call.proof.ax.y, call.proof.al0.x,
        call.proof.al0.y, call.proof.al1.x, call.proof.al1.y, call.proof.ar1.x,
        call.proof.ar1.y] := by
  unfold transcript computedPrefix at h
  simp only [except_bind_eq_ok, SerializablePoint.toAffine_eq_ok] at h
  obtain ⟨ax, hax, al0, hal0, al1, hal1, ar1, har1, prefixFelt, ⟨inputs, hin, hpre⟩, h⟩ := h
  have hp := extendTranscript_map [prefixFelt] [ax, al0, al1, ar1]
  simp only [List.map_cons, List.map_nil] at hp
  rw [hp, Except.ok.injEq] at h
  refine ⟨inputs, hin, ?_⟩
  rw [← h, ← Except.ok.inj hpre, hax, hal0, hal1, har1]
  rfl

lemma challenge_eq {hash : Felt} (hv : call.verify = .ok true)
    (h : call.finalHash = .ok hash) : reduceScalar hash = .ok call.proof.c := by
  obtain ⟨ax, al0, al1, ar1, ha⟩ := verify_eq_true.mp hv
  obtain ⟨prefixFelt, hpre, hc⟩ := ha.challenge
  unfold finalHash transcript at h
  simp only [ha.ax_eq, ha.al0_eq, ha.al1_eq, ha.ar1_eq, hpre] at h
  obtain ⟨felts, hf, hh⟩ := except_bind_eq_ok.mp h
  obtain ⟨felts', hf', hc⟩ := except_bind_eq_ok.mp hc
  have heq := hf.symm.trans hf'
  rw [← Except.ok.inj heq] at hc
  rw [← Except.ok.inj hh]
  exact hc

structure Agrees (call call' : Call Point) : Prop where
  userPubKey : call.userPubKey = call'.userPubKey
  auditorPubKey : call.auditorPubKey = call'.auditorPubKey
  cipher0 : call.cipher0 = call'.cipher0
  cipher1 : call.cipher1 = call'.cipher1
  ax : call.proof.ax = call'.proof.ax
  al0 : call.proof.al0 = call'.proof.al0
  al1 : call.proof.al1 = call'.proof.al1
  ar1 : call.proof.ar1 = call'.proof.ar1
  c : call.proof.c = call'.proof.c
  sx : call.proof.sx.val % curveOrder = call'.proof.sx.val % curveOrder
  sb : call.proof.sb.val % curveOrder = call'.proof.sb.val % curveOrder
  sr : call.proof.sr.val % curveOrder = call'.proof.sr.val % curveOrder
  /-- The chain, the contract, the sender and the hashed user key. -/
  prefixData : call.prefixData = call'.prefixData

omit [CurvePoint Point] [Poseidon] in
/-- A response may be exchanged for another representation. -/
lemma agrees_of_sb (call : Call Point) {sb : Felt}
    (h : call.proof.sb.val % curveOrder = sb.val % curveOrder) :
    call.Agrees { call with proof := { call.proof with sb := sb } } :=
  ⟨rfl, rfl, rfl, rfl, rfl, rfl, rfl, rfl, rfl, rfl, h, rfl, rfl⟩

lemma Agrees.transcript_eq (ha : call.Agrees call') : call'.transcript = call.transcript := by
  unfold transcript
  rw [ha.ax, ha.al0, ha.al1, ha.ar1, ha.prefixData, ha.cipher0,
    ha.cipher1, ha.auditorPubKey]

lemma Agrees.hashed_eq (ha : call.Agrees call') : call'.hashed = call.hashed := by
  unfold hashed prefixInputs
  rw [ha.transcript_eq, ha.prefixData, ha.cipher0, ha.cipher1,
    ha.auditorPubKey]

lemma Agrees.verify (ha : call.Agrees call') (h : call.verify = .ok true) :
    call'.verify = .ok true := by
  obtain ⟨ax, al0, al1, ar1, hac⟩ := verify_eq_true.mp h
  have hsx := (residueFromFelt_eq_iff _ _).mpr ha.sx
  have hsb := (residueFromFelt_eq_iff _ _).mpr ha.sb
  have hsr := (residueFromFelt_eq_iff _ _).mpr ha.sr
  refine verify_eq_true.mpr ⟨ax, al0, al1, ar1, ?_, ?_, ?_, ?_, ?_, ?_⟩
  · rw [← ha.ax, hac.ax_eq]
  · rw [← ha.al0, hac.al0_eq]
  · rw [← ha.al1, hac.al1_eq]
  · rw [← ha.ar1, hac.ar1_eq]
  · rw [← ha.prefixData, ← ha.cipher0, ← ha.cipher1, ← ha.auditorPubKey,
      ← ha.c]
    exact hac.challenge
  · have hs := Transcript.satisfies_iff.mp hac.satisfies
    rw [Transcript.satisfies_iff, ← ha.userPubKey, ← ha.cipher0, ← ha.cipher1,
      ← ha.auditorPubKey, ← ha.c]
    have hsc : Transcript.scalars ⟨call.proof.c, call.proof.sx, call.proof.sb,
        call.proof.sr⟩ = Transcript.scalars ⟨call.proof.c, call'.proof.sx, call'.proof.sb,
          call'.proof.sr⟩ := by
      simp only [Transcript.scalars, hsx, hsb, hsr]
    rw [← hsc]
    exact hs

end Call

variable [Poseidon]

/-- **What an audit proof binds.** Two accepted calls with prefix data and the same last
hash, not zero modulo the order, were made for the same user key, auditor, ciphertexts,
chain, contract and sender, with the same first messages and with responses that agree
modulo the order. Collisions are excluded among the lists the two calls hash. -/
theorem verify_binding {call call' : Call Point} {hash : Felt}
    (hinj : Set.InjOn Poseidon.hashArray (call.hashed ∪ call'.hashed))
    (hhash : call.finalHash = .ok hash) (hhash' : call'.finalHash = .ok hash)
    (hne : hash.val % curveOrder ≠ 0) (hverify : call.verify = .ok true)
    (hverify' : call'.verify = .ok true) : call.Agrees call' := by
  -- the lists of the last hashes are equal, and then those of the prefix hashes
  obtain ⟨felts, hf, hfn⟩ := except_bind_eq_ok.mp hhash
  obtain ⟨felts', hf', hfn'⟩ := except_bind_eq_ok.mp hhash'
  obtain ⟨inputs, hin, hl⟩ := Call.transcript_eq_ok hf
  obtain ⟨inputs', hi', hl'⟩ := Call.transcript_eq_ok hf'
  have heq : felts = felts' := hinj (Or.inl (Or.inr hf)) (Or.inr (Or.inr hf'))
    (Except.ok.inj (hfn.trans hfn'.symm))
  rw [hl, hl'] at heq
  simp only [List.cons.injEq, and_true] at heq
  obtain ⟨hpre, haxx, haxy, hal0x, hal0y, hal1x, hal1y, har1x, har1y⟩ := heq
  have hie : inputs = inputs' :=
    hinj (Or.inl (Or.inl hin)) (Or.inr (Or.inl hi')) hpre
  rw [← hie] at hi'
  obtain ⟨hd, hcipher0, hcipher1, had⟩ := prefixInputs_injective hin hi'
  have hax := point_ext haxx haxy
  have hal0 := point_ext hal0x hal0y
  have hal1 := point_ext hal1x hal1y
  have har1 := point_ext har1x har1y
  -- the challenge is the reduced hash
  have hc := Call.challenge_eq hverify hhash
  have hch : call.proof.c = call'.proof.c :=
    Except.ok.inj (hc.symm.trans (Call.challenge_eq hverify' hhash'))
  have hcne : residueFromFelt call.proof.c ≠ 0 := by
    rw [← Except.ok.inj hc, residueFromFelt_feltFromResidue]
    intro hz
    rw [← residueFromFelt_zero, residueFromFelt_eq_iff, ZMod.val_zero, Nat.zero_mod] at hz
    exact hne hz
  obtain ⟨-, -, -, r0, -, -, -, -, -, hr0, -⟩ := prefixInputs_eq_ok.mp hin
  have hr0ne : call.cipher0.r ≠ 0 := hr0 ▸ affineToProjective_ne_zero r0
  -- both runs read the same first messages, so their responses and keys are the same
  obtain ⟨ax, al0, al1, ar1, ha⟩ := verify_eq_true.mp hverify
  obtain ⟨ax', al0', al1', ar1', ha'⟩ := verify_eq_true.mp hverify'
  have hs := ha.satisfies
  have hs' := ha'.satisfies
  rw [Except.ok.inj (ha.ax_eq.symm.trans (hax ▸ ha'.ax_eq)),
    Except.ok.inj (ha.al0_eq.symm.trans (hal0 ▸ ha'.al0_eq)),
    Except.ok.inj (ha.al1_eq.symm.trans (hal1 ▸ ha'.al1_eq)),
    Except.ok.inj (ha.ar1_eq.symm.trans (har1 ▸ ha'.ar1_eq))] at hs
  rw [← hcipher0, ← hcipher1, ← had] at hs'
  obtain ⟨hsc, hkey⟩ := hs.unique hs' hch hcne hr0ne
  simp only [Transcript.scalars, Prod.mk.injEq, residueFromFelt_eq_iff] at hsc
  obtain ⟨hsx, hsb, hsr⟩ := hsc
  exact ⟨hkey, had, hcipher0, hcipher1, hax, hal0, hal1, har1, hch, hsx, hsb, hsr,
    hd⟩

end Binding

section Sample

attribute [local instance] sampleCurve samplePoseidon

def sampleCall : Call CyclicPoint where
  proof := sampleProof
  userPubKey := CyclicPoint.mk 7
  cipher0 := sampleCipher0
  cipher1 := sampleCipher1
  auditorPubKey := CyclicPoint.mk 13
  prefixData := samplePrefix
def otherCall : Call CyclicPoint :=
  { sampleCall with proof := { sampleProof with sb := 5 + curveOrder } }

lemma sampleCall_agrees : sampleCall.Agrees otherCall :=
  sampleCall.agrees_of_sb (by decide)

lemma sampleCall_verified : sampleCall.verify = .ok true := by
  have ha := sample_proved.audits (sample_proved.encrypts rfl)
  have hkey : (mulGenerator 7 : CyclicPoint) = CyclicPoint.mk 7 := by
    rw [mulGenerator_eq_smul, sampleTable.curve_smul]
    decide +kernel
  have hv := ha.verified
  rw [hkey] at hv
  exact hv

lemma otherCall_verified : otherCall.verify = .ok true :=
  sampleCall_agrees.verify sampleCall_verified

lemma sampleCall_hashes :
    sampleCall.prefixInputs = .ok sampleInputs ∧ sampleCall.transcript = .ok sampleFelts ∧
      Poseidon.hashArray sampleInputs ≠ Poseidon.hashArray sampleFelts := by
  refine ⟨?_, ?_, ?_⟩ <;> decide +kernel

lemma sampleCall_finalHash :
    sampleCall.finalHash = .ok sampleProof.c ∧ sampleProof.c.val % curveOrder ≠ 0 := by
  rw [Call.finalHash, sampleCall_hashes.2.1]
  refine ⟨?_, ?_⟩ <;> decide +kernel

lemma otherCall_finalHash : otherCall.finalHash = .ok sampleProof.c := by
  rw [← sampleCall_finalHash.1, Call.finalHash, sampleCall_agrees.transcript_eq]
  rfl

lemma sampleCall_injOn :
    Set.InjOn Poseidon.hashArray (sampleCall.hashed ∪ otherCall.hashed) := by
  obtain ⟨hin, ht, hne⟩ := sampleCall_hashes
  have hp : Set.InjOn Poseidon.hashArray {sampleInputs, sampleFelts} := by
    rw [Set.injOn_pair]
    intro h
    exact absurd h hne
  apply hp.mono
  intro felts h
  rw [sampleCall_agrees.hashed_eq, Set.union_self, Call.hashed, Set.mem_ofPred_eq, hin,
    ht, Except.ok.injEq, Except.ok.injEq] at h
  rcases h with h | h
  · exact Or.inl h.symm
  · exact Or.inr h.symm

/-- Two representations of one response are both accepted. -/
theorem sampleCall_response_not_unique :
    Set.InjOn Poseidon.hashArray (sampleCall.hashed ∪ otherCall.hashed) ∧
      sampleCall.finalHash = .ok sampleProof.c ∧ otherCall.finalHash = .ok sampleProof.c ∧
      sampleProof.c.val % curveOrder ≠ 0 ∧
      sampleCall.verify = .ok true ∧ otherCall.verify = .ok true ∧
      sampleCall.proof.sb ≠ otherCall.proof.sb :=
  ⟨sampleCall_injOn, sampleCall_finalHash.1, otherCall_finalHash, sampleCall_finalHash.2,
    sampleCall_verified, otherCall_verified, by decide⟩

theorem sampleCall_binding :
    sampleCall.verify = .ok true ∧ otherCall.verify = .ok true ∧ sampleCall.Agrees otherCall :=
  ⟨sampleCall_verified, otherCall_verified,
    verify_binding sampleCall_injOn sampleCall_finalHash.1 otherCall_finalHash
      sampleCall_finalHash.2 sampleCall_verified otherCall_verified⟩

end Sample

end KrustyKms.Crypto.AuditProver

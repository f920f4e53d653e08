import KrustyKms.Arithmetic.Preimage
import KrustyKms.Crypto.AuditTheorems
import KrustyKms.Crypto.ElgamalEncryption
import KrustyKms.Support.HashChain

/-!
# ElGamal proofs are proofs of a preimage, and small plaintexts are found

The two equations of the verifier are one equation for the linear map that sends `(m, r)` to
`(m G + r Y, r G)` (`satisfies_iff`).
-/

namespace KrustyKms.Crypto.ElGamal

open Arithmetic Support StarkCurve

variable {Point : Type} [CurvePoint Point]

/-! ## Proofs of encryption -/

section Proofs

/-- The scalars of a proof: the message and the randomness, or the responses for them. -/
abbrev Scalars := OrderResidue × OrderResidue

def statement (publicKey : Point) : Scalars →ₗ[OrderResidue] Point × Point where
  toFun w := (w.1 • generator + w.2 • publicKey, w.2 • generator)
  map_add' v w := by
    simp only [Prod.fst_add, Prod.snd_add, add_smul, Prod.mk_add_mk, Prod.mk.injEq, and_true]
    exact add_add_add_comm _ _ _ _
  map_smul' c w := by
    simp only [Prod.smul_fst, Prod.smul_snd, smul_eq_mul, mul_smul, Prod.smul_mk, smul_add,
      RingHom.id_apply]

lemma statement_apply (publicKey : Point) (w : Scalars) :
    statement publicKey w = (w.1 • generator + w.2 • publicKey, w.2 • generator) := rfl

structure Responses where
  c : Felt
  sb : Felt
  sr : Felt

def Responses.scalars (t : Responses) : Scalars := (residueFromFelt t.sb, residueFromFelt t.sr)

structure Responses.Satisfies (t : Responses) (l r publicKey aL aR : Point) : Prop where
  randomness : mul t.sr (some generator) = add aR (mul t.c (some r))
  message : add (mul t.sb (some generator)) (mul t.sr (some publicKey)) =
    add aL (mul t.c (some l))

variable {l r publicKey aL aR : Point} {proof : ElGamalProof} {prefixFelt : Felt}
  {transcript : Transcript}

lemma Responses.satisfies_iff {t : Responses} :
    t.Satisfies l r publicKey aL aR ↔
      Preimage.Accepts (statement publicKey) (l, r) (aL, aR) (residueFromFelt t.c) t.scalars := by
  unfold Preimage.Accepts
  rw [statement_apply]
  simp only [Responses.scalars, Prod.smul_mk, Prod.mk_add_mk, Prod.mk.injEq]
  constructor
  · intro h
    obtain ⟨hr, hm⟩ := h
    simp only [mul_eq_smul, add_eq] at hr hm
    exact ⟨hm, hr⟩
  · intro h
    obtain ⟨hm, hr⟩ := h
    simp only [← mul_eq_smul, ← add_eq] at hr hm
    exact ⟨hr, hm⟩

/-- The message and the randomness two transcripts with the same first messages give away. -/
def extractMessage (t t' : Responses) : Felt × Felt :=
  let (m, r) := Preimage.extract (residueFromFelt t.c) (residueFromFelt t'.c) t.scalars t'.scalars
  (feltFromResidue m, feltFromResidue r)

lemma encrypts_extractMessage {t t' : Responses} (h : t.Satisfies l r publicKey aL aR)
    (h' : t'.Satisfies l r publicKey aL aR) (hne : t.c.val % curveOrder ≠ t'.c.val % curveOrder) :
    l = add (mul (extractMessage t t').1 (some generator))
        (mul (extractMessage t t').2 (some publicKey)) ∧
      r = mul (extractMessage t t').2 (some generator) := by
  have hc : residueFromFelt t.c ≠ residueFromFelt t'.c := by
    rw [Ne, residueFromFelt_eq_iff]
    exact hne
  have hex := (Responses.satisfies_iff.mp h).extract (Responses.satisfies_iff.mp h') hc
  unfold extractMessage
  generalize Preimage.extract (residueFromFelt t.c) (residueFromFelt t'.c) t.scalars
    t'.scalars = found at hex
  obtain ⟨m, random⟩ := found
  simp only [statement_apply, Prod.mk.injEq] at hex
  simp only [mul_eq_smul, add_eq, residueFromFelt_feltFromResidue]
  exact hex

variable [Pedersen]

/-- The verifier's run on a proof it accepts: the first messages it read and the challenge it
recomputed, with which the equations hold between points other than the identity. -/
structure Accepted (l r publicKey : Point) (proof : ElGamalProof) (prefixFelt : Felt)
    (transcript : Transcript) (aL aR : AffinePoint Point) : Prop where
  al_eq : proof.al.toAffine = .ok aL
  ar_eq : proof.ar.toAffine = .ok aR
  challenge : transcript.challenge prefixFelt publicKey l r (affineToProjective aL)
    (affineToProjective aR) = .ok proof.c
  satisfies : Responses.Satisfies ⟨proof.c, proof.sb, proof.sr⟩ l r publicKey
    (affineToProjective aL) (affineToProjective aR)
  randomness_ne_zero : mul proof.sr (some (generator : Point)) ≠ 0
  message_ne_zero : add (mul proof.sb (some generator)) (mul proof.sr (some publicKey)) ≠ 0

omit [Pedersen] in
lemma exists_affine_pair {P Q : Point} {p : AffinePoint Point → AffinePoint Point → Prop} :
    (∃ a, projectiveToAffine P = .ok a ∧ ∃ b, projectiveToAffine Q = .ok b ∧ a = b ∧ p a b) ↔
      P = Q ∧ ∃ a, affineToProjective a = P ∧ p a a := by
  simp only [projectiveToAffine_eq_ok]
  constructor
  · intro h
    obtain ⟨a, rfl, b, hb, rfl, hp⟩ := h
    exact ⟨hb, a, rfl, hp⟩
  · intro h
    obtain ⟨rfl, a, ha, hp⟩ := h
    exact ⟨a, ha, a, ha, rfl, hp⟩

theorem verifyInner_eq_true :
    verifyInner l r publicKey proof prefixFelt transcript = .ok true ↔
      ∃ aL aR : AffinePoint Point, Accepted l r publicKey proof prefixFelt transcript aL aR := by
  unfold verifyInner
  simp only [except_bind_eq_ok, ite_pure_false_eq_ok, not_not]
  constructor
  · intro h
    obtain ⟨aL, hal, aR, har, c, hc, rfl, h⟩ := h
    obtain ⟨hr, a, ha, b, hb, c, hc', h⟩ := exists_affine_pair.mp h
    rw [projectiveToAffine_eq_ok] at hb hc'
    have heq : b = c := by simpa [pure, Except.pure] using h
    subst heq
    refine ⟨aL, aR, hal, har, hc, ⟨hr, hb.symm.trans hc'⟩, ?_, ?_⟩
    · rw [← ha]
      exact affineToProjective_ne_zero a
    · rw [← hb]
      exact affineToProjective_ne_zero b
  · intro h
    obtain ⟨aL, aR, h⟩ := h
    obtain ⟨a, ha⟩ := exists_affine h.randomness_ne_zero
    obtain ⟨b, hb⟩ := exists_affine h.message_ne_zero
    refine ⟨aL, h.al_eq, aR, h.ar_eq, _, h.challenge, rfl, ?_⟩
    refine exists_affine_pair.mpr ⟨h.satisfies.randomness, a, ha, b, ?_, b, ?_, ?_⟩
    · exact projectiveToAffine_eq_ok.mpr hb
    · exact projectiveToAffine_eq_ok.mpr (hb.trans h.satisfies.message)
    · simp [pure, Except.pure]

def Draws.commitments (draws : Draws) (publicKey : Point) : Point × Point :=
  statement publicKey (residueFromFelt draws.rB, residueFromFelt draws.rR)

structure Encrypted (draws : Draws) (message : Felt) (publicKey : Point) (random prefixFelt : Felt)
    (transcript : Transcript) (out : ElGamalEncryption Point) : Prop where
  cipher_eq : (out.l, out.r) =
    statement publicKey (residueFromFelt message, residueFromFelt random)
  challenge : transcript.challenge prefixFelt publicKey out.l out.r
    (draws.commitments publicKey).1 (draws.commitments publicKey).2 = .ok out.proof.c
  al_eq : SerializablePoint.tryFromProjective (draws.commitments publicKey).1 = .ok out.proof.al
  ar_eq : SerializablePoint.tryFromProjective (draws.commitments publicKey).2 = .ok out.proof.ar
  sb_eq : out.proof.sb = answer draws.rB out.proof.c message
  sr_eq : out.proof.sr = answer draws.rR out.proof.c random

variable {draws : Draws} {message random : Felt} {out : ElGamalEncryption Point}

lemma encryptWithTranscript_eq_ok :
    encryptWithTranscript draws message publicKey random prefixFelt transcript = .ok out ↔
      Encrypted draws message publicKey random prefixFelt transcript out := by
  unfold encryptWithTranscript proveEncryption
  simp only [except_bind_eq_ok, exists_scalarAdd_scalarMul, mul_eq_smul, add_eq]
  constructor
  · intro h
    obtain ⟨proof, ⟨c, hc, al, hal, ar, har, hp⟩, hout⟩ := h
    obtain rfl := Except.ok.inj hp
    obtain rfl := Except.ok.inj hout
    exact ⟨rfl, hc, hal, har, rfl, rfl⟩
  · intro h
    obtain ⟨l, r, ⟨al, ar, sb, sr, c⟩⟩ := out
    obtain ⟨hcp, hc, hal, har, hsb, hsr⟩ := h
    dsimp only at hcp hc hal har hsb hsr
    rw [statement_apply, Prod.mk.injEq] at hcp
    obtain ⟨rfl, rfl⟩ := hcp
    subst hsb hsr
    exact ⟨_, ⟨c, hc, al, hal, ar, har, rfl⟩, rfl⟩

lemma Encrypted.satisfies (h : Encrypted draws message publicKey random prefixFelt transcript out) :
    Responses.Satisfies ⟨out.proof.c, out.proof.sb, out.proof.sr⟩ out.l out.r publicKey
      (draws.commitments publicKey).1 (draws.commitments publicKey).2 := by
  have ha := Preimage.accepts_respond (statement publicKey)
    (residueFromFelt message, residueFromFelt random)
    (residueFromFelt draws.rB, residueFromFelt draws.rR) (residueFromFelt out.proof.c)
  rw [Responses.satisfies_iff, h.cipher_eq]
  simp only [Responses.scalars, h.sb_eq, h.sr_eq, residueFromFelt_answer]
  exact ha

lemma Encrypted.accepted (h : Encrypted draws message publicKey random prefixFelt transcript out)
    (hr : mul out.proof.sr (some (generator : Point)) ≠ 0)
    (hm : add (mul out.proof.sb (some generator)) (mul out.proof.sr (some publicKey)) ≠ 0) :
    verifyInner out.l out.r publicKey out.proof prefixFelt transcript = .ok true := by
  obtain ⟨aL, hal, haL⟩ := toAffine_of_tryFromProjective h.al_eq
  obtain ⟨aR, har, haR⟩ := toAffine_of_tryFromProjective h.ar_eq
  have hc := h.challenge
  have hs := h.satisfies
  rw [← haL, ← haR] at hc hs
  exact verifyInner_eq_true.mpr
    ⟨aL, aR, hal, har, hc, hs, hr, hm⟩

/-! ### What the strong challenge binds -/

omit [Pedersen] in
def coordinateFelts (points : List Point) : List Felt :=
  points.flatMap fun point =>
    match toAffine point with
    | some affine => [affine.x, affine.y]
    | none => []

def hashedPairs (prefixFelt : Felt) (points : List Point) : List (Felt × Felt) :=
  chainPairs Pedersen.hash prefixFelt (coordinateFelts points)

lemma computeChallenge_eq_ok {points : List Point} {hash : Felt} :
    computeChallenge prefixFelt points = .ok hash ↔
      ∃ affines : List (AffinePoint Point), points = affines.map affineToProjective ∧
        hash = (coordinateFelts points).foldl Pedersen.hash prefixFelt := by
  induction points generalizing prefixFelt with
  | nil =>
    constructor
    · intro h
      exact ⟨[], rfl, (Except.ok.inj h).symm⟩
    · intro h
      obtain ⟨-, -, rfl⟩ := h
      rfl
  | cons point points ih =>
    cases hp : toAffine point with
    | none =>
      have her : computeChallenge prefixFelt (point :: points) = .error .pointAtInfinity := by
        simp [computeChallenge, hp, bind, Except.bind]
      simp only [her, reduceCtorEq, false_iff, not_exists, not_and]
      intro affines heq
      obtain ⟨a, -, ha⟩ := List.mem_map.mp (heq ▸ List.mem_cons_self)
      rw [toAffine_eq_some.mpr ha] at hp
      cases hp
    | some affine =>
      have hs : computeChallenge prefixFelt (point :: points) =
          computeChallenge (Pedersen.hash (Pedersen.hash prefixFelt affine.x) affine.y) points := by
        simp [computeChallenge, hp, bind, Except.bind]
      have hf : coordinateFelts (point :: points) =
          [affine.x, affine.y] ++ coordinateFelts points := by
        simp [coordinateFelts, hp]
      rw [hs, ih, hf]
      constructor
      · intro h
        obtain ⟨affines, rfl, rfl⟩ := h
        exact ⟨affine :: affines, by rw [List.map_cons, toAffine_eq_some.mp hp], rfl⟩
      · intro h
        obtain ⟨affines, heq, rfl⟩ := h
        cases affines with
        | nil => simp at heq
        | cons a affines =>
          rw [List.map_cons, List.cons.injEq] at heq
          exact ⟨affines, heq.2, rfl⟩

omit [Pedersen] in
lemma coordinateFelts_map (affines : List (AffinePoint Point)) :
    coordinateFelts (affines.map affineToProjective) = affines.flatMap fun a => [a.x, a.y] := by
  rw [coordinateFelts, List.flatMap_map]
  refine List.flatMap_congr fun a _ => ?_
  rw [toAffine_eq_some.mpr rfl]

omit [Pedersen] in
lemma affines_injective {affines affines' : List (AffinePoint Point)}
    (h : (affines.flatMap fun a => [a.x, a.y]) = affines'.flatMap fun a => [a.x, a.y]) :
    affines = affines' := by
  induction affines generalizing affines' with
  | nil =>
    cases affines' with
    | nil => rfl
    | cons a affines' => simp at h
  | cons a affines ih =>
    cases affines' with
    | nil => simp at h
    | cons a' affines' =>
      simp only [List.flatMap_cons, List.cons_append, List.nil_append, List.cons.injEq] at h
      obtain ⟨hx, hy, hr⟩ := h
      have ha : a = a' := by
        cases a
        cases a'
        simp_all
      rw [ha, ih hr]

lemma computeChallenge_injective {prefixFelt' hash : Felt} {points points' : List Point}
    (h : computeChallenge prefixFelt points = .ok hash)
    (h' : computeChallenge prefixFelt' points' = .ok hash) (hl : points.length = points'.length)
    (hinj : Set.InjOn (fun p : Felt × Felt => Pedersen.hash p.1 p.2)
    {p | p ∈ hashedPairs prefixFelt points ∨ p ∈ hashedPairs prefixFelt' points'}) :
    prefixFelt = prefixFelt' ∧ points = points' := by
  obtain ⟨affines, rfl, hh⟩ := computeChallenge_eq_ok.mp h
  obtain ⟨affines', rfl, hh'⟩ := computeChallenge_eq_ok.mp h'
  simp only [List.length_map] at hl
  have hls : (coordinateFelts (affines.map affineToProjective)).length =
      (coordinateFelts (affines'.map affineToProjective)).length := by
    simp [coordinateFelts_map, hl]
  obtain ⟨hs, hf⟩ := foldl_hash_start_injective hinj hls
    (fun p hp => Or.inl hp) (fun p hp => Or.inr hp) (hh.symm.trans hh')
  rw [coordinateFelts_map, coordinateFelts_map] at hf
  rw [affines_injective hf]
  exact ⟨hs, rfl⟩

/-- **Strong encryption proofs.** What `encryptStrong` returns is accepted, unless a response
point is the identity; what is accepted satisfies the two equations; two answers to the same
first messages, to challenges that differ modulo the order, give away a message and a
randomness of the ciphertext; and without collisions of the Pedersen hash the challenge tells
the prefix, the public key, the ciphertext and the first messages. -/
theorem strong_proof_exact :
    (∀ (draws : Draws) (message : Felt) (publicKey : Point) (random prefixFelt : Felt)
      (out : ElGamalEncryption Point),
      encryptStrong draws message publicKey random prefixFelt = .ok out →
        mul out.proof.sr (some (generator : Point)) ≠ 0 →
        add (mul out.proof.sb (some generator)) (mul out.proof.sr (some publicKey)) ≠ 0 →
        verifyStrong out.l out.r publicKey out.proof prefixFelt = .ok true) ∧
    (∀ (l r publicKey : Point) (proof : ElGamalProof) (prefixFelt : Felt),
      verifyStrong l r publicKey proof prefixFelt = .ok true →
        ∃ aL aR : AffinePoint Point, Accepted l r publicKey proof prefixFelt .strong aL aR) ∧
    (∀ (l r publicKey aL aR : Point) (t t' : Responses),
      t.Satisfies l r publicKey aL aR → t'.Satisfies l r publicKey aL aR →
        t.c.val % curveOrder ≠ t'.c.val % curveOrder →
        l = add (mul (extractMessage t t').1 (some generator))
            (mul (extractMessage t t').2 (some publicKey)) ∧
          r = mul (extractMessage t t').2 (some generator)) ∧
    (∀ (prefixFelt prefixFelt' hash : Felt)
      (publicKey l r aL aR publicKey' l' r' aL' aR' : Point),
      Transcript.strong.challenge prefixFelt publicKey l r aL aR = .ok hash →
        Transcript.strong.challenge prefixFelt' publicKey' l' r' aL' aR' = .ok hash →
        Set.InjOn (fun p : Felt × Felt => Pedersen.hash p.1 p.2)
          {p | p ∈ hashedPairs prefixFelt [publicKey, l, r, aL, aR] ∨
            p ∈ hashedPairs prefixFelt' [publicKey', l', r', aL', aR']} →
        prefixFelt = prefixFelt' ∧ publicKey = publicKey' ∧ l = l' ∧ r = r' ∧ aL = aL' ∧
          aR = aR') := by
  refine ⟨?_, ?_, ?_, ?_⟩
  · intro draws message publicKey random prefixFelt out h hr hm
    exact (encryptWithTranscript_eq_ok.mp h).accepted hr hm
  · intro l r publicKey proof prefixFelt h
    exact verifyInner_eq_true.mp h
  · intro l r publicKey aL aR t t' h h' hne
    exact encrypts_extractMessage h h' hne
  · intro prefixFelt prefixFelt' hash publicKey l r aL aR publicKey' l' r' aL' aR' h h' hinj
    obtain ⟨hs, hp⟩ := computeChallenge_injective h h' rfl hinj
    simp only [List.cons.injEq, and_true] at hp
    exact ⟨hs, hp⟩

end Proofs

section Sample

open AuditProver (sampleTable sampleCurve)

def sampleFelts : List Felt := sampleTable.felts [7, 56, 3, 143, 17]

def sampleHashes : List Felt := [
  0x5c3a0a2c6515ca9bb76da9b3e7b4319122f9e4b20a2a4769b8b130f8d2217bf,
  0x7618445b490885e8c8b7af7459ff50780887cb529a361a3bd3667693c2c7652,
  0x532fa05dc950364644f0df7865e148bcff248af82e0700fbca6f4576cb14ea6,
  0x4c02ea741f9fcf62909f87e10920f50816fdab7c6ce4d17168302d0210a8e2f,
  0x60339f8971706c142b7e2466c08a85fcd34a3c838fc69b9d04b4c5e6d501272,
  0x5b97dea28c4c3b320800fa7531351088965cc8cfe135acea779890eca923776,
  0x2a3f73a3360011e52d813a5a19dabc0f2807fa813c3c005d2b0e863e89f8d3e,
  0x142fc0181cac532260888bbbc25ad465e1367c20fbbb1d4224f0909f490ea04,
  0x513859fa993b695a3dbef067fc6807821d3357d263b1dee5876f96dfd740f73,
  0x11d3fcb72ee63815851408deea4c898a3bb6115bc241db6e9603751f355ef03]

@[reducible] def samplePedersen : Pedersen :=
  tablePedersen (((99 :: sampleHashes).zip sampleFelts).zip sampleHashes)

def sampleDraws : Draws := { rB := 24, rR := 17 }

def sampleEncryption : ElGamalEncryption CyclicPoint where
  l := CyclicPoint.mk 56
  r := CyclicPoint.mk 3
  proof := {
    al := sampleTable.point 143
    ar := sampleTable.point 17
    sb := 0x6ffb8d0b6979a6b131bd367a0876cdf8499fc418d5147396e8d072d8da678c5
    sr := 0x357bf6258cb2a8408f3c1a9cbee59c9eb322341346c5924bc20a5f5da01cd1a
    c := 0x11d3fcb72ee63815851408deea4c898a3bb6115bc241db6e9603751f355ef03 }

attribute [local instance] sampleCurve samplePedersen

lemma sample_encrypted : Encrypted sampleDraws 35 (CyclicPoint.mk 7) 3 99 .strong
    sampleEncryption := by
  constructor
  case cipher_eq =>
    simp only [statement_apply, sampleTable.curve_smul]
    decide +kernel
  case challenge | al_eq | ar_eq =>
    simp only [Draws.commitments, statement_apply, sampleTable.curve_smul]
    decide +kernel
  all_goals decide +kernel

def sampleResponses : Responses :=
  ⟨sampleEncryption.proof.c, sampleEncryption.proof.sb, sampleEncryption.proof.sr⟩
def forkedResponses : Responses :=
  ⟨sampleResponses.c + 1, sampleResponses.sb + 35, sampleResponses.sr + 3⟩

lemma sample_satisfies (t : Responses) (h : t = sampleResponses ∨ t = forkedResponses) :
    t.Satisfies (CyclicPoint.mk 56) (CyclicPoint.mk 3) (CyclicPoint.mk 7) (CyclicPoint.mk 143)
      (CyclicPoint.mk 17) := by
  constructor
  all_goals
    simp only [mul_eq_smul, sampleTable.curve_smul]
    rcases h with rfl | rfl
    · decide +kernel
    · decide +kernel

lemma sample_injOn : Set.InjOn (fun p : Felt × Felt => Pedersen.hash p.1 p.2)
    {p | p ∈ hashedPairs 99 [CyclicPoint.mk 7, .mk 56, .mk 3, .mk 143, .mk 17] ∨
      p ∈ hashedPairs 99 [CyclicPoint.mk 7, .mk 56, .mk 3, .mk 143, .mk 17]} := by
  refine (tablePedersen_injOn (by decide +kernel)).mono ?_
  have hk : ((hashedPairs 99 [CyclicPoint.mk 7, .mk 56, .mk 3, .mk 143, .mk 17]).all fun p =>
      ((((99 :: sampleHashes).zip sampleFelts).zip sampleHashes).map Prod.fst).contains p) =
        true := by
    decide +kernel
  simp only [List.all_eq_true, List.contains_iff_mem] at hk
  intro p hp
  exact hk p (or_self_iff.mp hp)

/-- The encryption is accepted, two answers give away the message and the randomness, and the
challenge is taken of one statement. -/
theorem sampleEncryption_exact :
    verifyStrong (CyclicPoint.mk 56) (CyclicPoint.mk 3) (CyclicPoint.mk 7) sampleEncryption.proof
        99 = .ok true ∧
      (∃ aL aR : AffinePoint CyclicPoint, Accepted (CyclicPoint.mk 56) (CyclicPoint.mk 3)
        (CyclicPoint.mk 7) sampleEncryption.proof 99 .strong aL aR) ∧
      (CyclicPoint.mk 56 = add (mul 35 (some generator)) (mul 3 (some (CyclicPoint.mk 7))) ∧
        CyclicPoint.mk 3 = mul 3 (some generator)) ∧
      CyclicPoint.mk 143 = (sampleDraws.commitments (CyclicPoint.mk 7)).1 ∧
        CyclicPoint.mk 17 = (sampleDraws.commitments (CyclicPoint.mk 7)).2 := by
  obtain ⟨hc, hv, hex, hb⟩ := @strong_proof_exact CyclicPoint _ _
  have ha := hc sampleDraws 35 (CyclicPoint.mk 7) 3 99 sampleEncryption
    (encryptWithTranscript_eq_ok.mpr sample_encrypted)
    (by simp only [mul_eq_smul, sampleTable.curve_smul]; decide +kernel)
    (by simp only [mul_eq_smul, sampleTable.curve_smul]; decide +kernel)
  have ho := hex _ _ _ _ _ _ _ (sample_satisfies _ (Or.inl rfl))
    (sample_satisfies _ (Or.inr rfl)) (by decide +kernel)
  rw [show extractMessage sampleResponses forkedResponses = (35, 3) by decide +kernel] at ho
  -- the challenge of the verifier is that of the prover
  have hcm : sampleDraws.commitments (CyclicPoint.mk 7) = (.mk 143, .mk 17) := by
    simp only [Draws.commitments, statement_apply, sampleTable.curve_smul]
    decide +kernel
  obtain ⟨-, -, -, -, hal, har⟩ := hb 99 99 _ (CyclicPoint.mk 7) (.mk 56) (.mk 3) (.mk 143)
    (.mk 17) _ _ _ _ _ (by decide +kernel) sample_encrypted.challenge
    (by rw [hcm]; exact sample_injOn)
  exact ⟨ha, hv _ _ _ _ _ ha, ho, hal, har⟩

end Sample

/-! ## Small plaintexts -/

section Search

lemma natCast_smul_generator_inj {m k : ℕ} (hm : m < curveOrder) (hk : k < curveOrder) :
    (m : OrderResidue) • (generator : Point) = (k : OrderResidue) • generator ↔ m = k := by
  constructor
  · intro h
    have hc := smul_left_injective OrderResidue (@generator_ne_zero Point _) h
    rw [ZMod.natCast_eq_natCast_iff', Nat.mod_eq_of_lt hm, Nat.mod_eq_of_lt hk] at hc
    exact hc
  · intro h
    rw [h]

/-- The search from the multiple of `value` on finds the logarithm `m` of its target within
the values that are left, if it is not below them. -/
lemma searchFrom_eq {maxSearch m : ℕ} {target : AffinePoint Point}
    (ht : affineToProjective target = (m : OrderResidue) • generator) (hm : m < curveOrder)
    (left : ℕ) {value : ℕ} (hpos : 1 ≤ value) (hb : value + left ≤ curveOrder) (hv : value ≤ m) :
    searchFrom maxSearch target left value ((value : OrderResidue) • generator) =
      if m < value + left then .ok m
      else .error (.cryptoError
        s!"Failed to recover balance within search limit of {maxSearch}") := by
  induction left generalizing value with
  | zero =>
    rw [if_neg (by omega)]
    rfl
  | succ left ih =>
    have hne : (value : OrderResidue) • (generator : Point) ≠ 0 := by
      rw [← zero_smul OrderResidue (generator : Point), ← Nat.cast_zero, Ne,
        natCast_smul_generator_inj (by omega) (by omega)]
      omega
    obtain ⟨a, ha⟩ := exists_affine hne
    have hf : a = target ↔ value = m := by
      rw [← @natCast_smul_generator_inj Point _ _ _ (by omega) hm, ← ha, ← ht]
      constructor
      · intro h
        rw [h]
      · intro h
        have hs := toAffine_eq_some.mpr h
        rw [toAffine_eq_some.mpr rfl, Option.some.injEq] at hs
        exact hs.symm
    rw [searchFrom, projectiveToAffine_eq_ok.mpr ha]
    show (if a = target then pure value else _) = _
    by_cases hvm : value = m
    · rw [if_pos (hf.mpr hvm), if_pos (by omega), hvm]
      rfl
    · have hn : add ((value : OrderResidue) • (generator : Point)) generator =
          ((value + 1 : ℕ) : OrderResidue) • generator := by
        rw [add_eq, Nat.cast_add, Nat.cast_one, add_smul, one_smul]
      rw [if_neg (hf.not.mpr hvm), hn, ih (by omega) (by omega) (by omega)]
      congr 1
      exact propext (by omega)

lemma recoverSmallDiscreteLog_eq {m limit : ℕ} (hm : m < 2 ^ 128) (hl : limit < 2 ^ 128) :
    recoverSmallDiscreteLog ((m : OrderResidue) • (generator : Point)) limit =
      if m ≤ limit then .ok m
      else .error (.cryptoError
        s!"Failed to recover balance within search limit of {limit}") := by
  have ho : 2 ^ 128 < curveOrder := by decide
  by_cases hz : m = 0
  · subst hz
    have hn : toAffine (0 : Point) = none := toAffine_eq_none.mpr rfl
    rw [if_pos (Nat.zero_le _), Nat.cast_zero, zero_smul]
    simp [recoverSmallDiscreteLog, hn, pure, Except.pure]
  · have hne : (m : OrderResidue) • (generator : Point) ≠ 0 := by
      rw [← zero_smul OrderResidue (generator : Point), ← Nat.cast_zero, Ne,
        natCast_smul_generator_inj (by omega) (by omega)]
      exact hz
    obtain ⟨target, ht⟩ := exists_affine hne
    have hs := @searchFrom_eq _ _ limit _ _ ht (by omega) limit 1 le_rfl (by omega)
      (by omega)
    rw [Nat.cast_one, one_smul] at hs
    unfold recoverSmallDiscreteLog
    rw [projectiveToAffine_eq_ok.mpr ht, toAffine_eq_some.mpr ht]
    show searchFrom limit target limit 1 generator = _
    rw [hs]
    congr 1
    exact propext (by omega)

lemma Encrypts.decryptBalance {cipher : ElGamalCiphertext Point} {x : Felt} {m limit : ℕ}
    (h : Encrypts cipher x (m : Felt)) (hm : m < 2 ^ 128) (hl : limit < 2 ^ 128) :
    decryptBalanceWithLimit cipher x limit =
      if m ≤ limit then .ok m
      else .error (.cryptoError
        s!"Failed to recover balance within search limit of {limit}") := by
  have hs : 2 ^ 128 < fieldPrime := by decide
  unfold decryptBalanceWithLimit
  rw [decrypt_eq_iff.mpr h, mul_eq_smul, residueFromFelt_natCast (by omega)]
  exact recoverSmallDiscreteLog_eq hm hl

lemma Encrypts.add {cipher cipher' : ElGamalCiphertext Point} {x : Felt} {m m' : ℕ}
    (h : Encrypts cipher x (m : Felt)) (h' : Encrypts cipher' x (m' : Felt))
    (hsum : m + m' < 2 ^ 128) :
    Encrypts ⟨StarkCurve.add cipher.l cipher'.l, StarkCurve.add cipher.r cipher'.r⟩ x
      ((m + m' : ℕ) : Felt) := by
  have hs : 2 ^ 128 < fieldPrime := by decide
  rw [encrypts_iff] at h h' ⊢
  rw [residueFromFelt_natCast (by omega)] at h h' ⊢
  rw [add_eq, add_eq, h, h', Nat.cast_add, add_smul, smul_add, add_add_add_comm]

def encryptionOf (message : ℕ) (random privateKey : Felt) : ElGamalCiphertext Point where
  l := StarkCurve.add (mul (message : Felt) (some generator))
    (mul random (some (mulGenerator privateKey)))
  r := mul random (some generator)

/-- **Decryption of small plaintexts.** The message of an encryption is returned exactly when
it is within the limit, and there is an error otherwise, whatever the key and the randomness
are; the sum of two encryptions is decrypted to the sum of their messages. -/
theorem decryptBalance_exact :
    (∀ (m limit : ℕ) (random privateKey : Felt), m < 2 ^ 128 → limit < 2 ^ 128 →
      decryptBalanceWithLimit (encryptionOf m random privateKey : ElGamalCiphertext Point)
          privateKey limit =
        if m ≤ limit then .ok m
        else .error (.cryptoError
          s!"Failed to recover balance within search limit of {limit}")) ∧
    (∀ (m m' limit : ℕ) (random random' privateKey : Felt), m + m' ≤ limit → limit < 2 ^ 128 →
      ∀ cipher cipher' : ElGamalCiphertext Point, cipher = encryptionOf m random privateKey →
        cipher' = encryptionOf m' random' privateKey →
        decryptBalanceWithLimit ⟨StarkCurve.add cipher.l cipher'.l,
          StarkCurve.add cipher.r cipher'.r⟩ privateKey limit = .ok (m + m')) := by
  refine ⟨?_, ?_⟩
  · intro m limit random privateKey hm hl
    exact (encrypts_mk privateKey (m : Felt) random).decryptBalance hm hl
  · intro m m' limit random random' privateKey hsum hl cipher cipher' hc hc'
    subst hc hc'
    have hen := (@encrypts_mk Point _ privateKey (m : Felt) random).add
      (encrypts_mk privateKey (m' : Felt) random') (by omega)
    exact (hen.decryptBalance (by omega) hl).trans (if_pos hsum)

end Search

section SearchSample

open AuditProver (sampleTable sampleCurve)

attribute [local instance] sampleCurve

/-- A message at the limit is found and one above it is not, also where the randomness hides
nothing. -/
theorem sampleBalance_decrypted :
    decryptBalanceWithLimit (encryptionOf 35 3 7 : ElGamalCiphertext CyclicPoint) 7 35 = .ok 35 ∧
      (∃ e, decryptBalanceWithLimit (encryptionOf 35 0 7 : ElGamalCiphertext CyclicPoint) 7 34 =
        .error e) ∧
      ∀ cipher cipher' : ElGamalCiphertext CyclicPoint, cipher = encryptionOf 35 3 7 →
        cipher' = encryptionOf 2 5 7 →
        decryptBalanceWithLimit ⟨StarkCurve.add cipher.l cipher'.l,
          StarkCurve.add cipher.r cipher'.r⟩ 7 37 = .ok 37 := by
  obtain ⟨hone, hsum⟩ := @decryptBalance_exact CyclicPoint _
  refine ⟨?_, ?_, ?_⟩
  · exact (hone 35 35 3 7 (by decide) (by decide)).trans (if_pos le_rfl)
  · exact ⟨_, (hone 35 34 0 7 (by decide) (by decide)).trans (if_neg (by decide))⟩
  · exact hsum 35 2 37 3 5 7 le_rfl (by decide)

end SearchSample

end KrustyKms.Crypto.ElGamal

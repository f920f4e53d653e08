import KrustyKms.Crypto.CurveTheorems
import KrustyKms.Sdk.Serialization
import KrustyKms.Sdk.SharedTheorems
import KrustyKms.Support.Fallible

/-!
# Calldata is uniquely decodable

An encoding in front of more calldata determines the value and where it ends: lists carry their
lengths, and everything else has a fixed number of felts.
-/

namespace KrustyKms.Sdk

open Codec Crypto Support

variable {Point : Type} [CurvePoint Point]

/-! ## Balance hints -/

variable {bytes : Bytes} {start : ℕ} {felts felts' rest rest' : List Felt}
  {cipher : ElGamalCiphertext Point}

lemma beBytes_val_limbAt (h : start + 16 ≤ bytes.length) :
    beBytes 16 (limbAt bytes start).val = (bytes.drop start).take 16 := by
  have hl : ((bytes.drop start).take 16).length = 16 := by
    rw [List.length_take, List.length_drop]
    omega
  have hlt : beValue ((bytes.drop start).take 16) < 256 ^ 16 := by
    have hv := leValue_lt ((bytes.drop start).take 16).reverse
    rwa [List.length_reverse, hl] at hv
  have hp : 256 ^ 16 < fieldPrime := by decide
  have hb := beBytes_beValue ((bytes.drop start).take 16)
  rw [hl] at hb
  rw [limbAt, ZMod.val_natCast_of_lt (Nat.lt_trans hlt hp), hb]

lemma take_of_limbAt {others : Bytes} (hb : start + 16 ≤ bytes.length)
    (ho : start + 16 ≤ others.length) (h : limbAt bytes start = limbAt others start) :
    (bytes.drop start).take 16 = (others.drop start).take 16 := by
  rw [← beBytes_val_limbAt hb, ← beBytes_val_limbAt ho, h]

lemma drop_eq_limb_append (bytes : Bytes) (start : ℕ) :
    bytes.drop start = (bytes.drop start).take 16 ++ bytes.drop (start + 16) := by
  have h := List.take_append_drop 16 (bytes.drop start)
  rw [List.drop_drop] at h
  exact h.symm

lemma drop_congr_limb {others : Bytes} (hb : start + 16 ≤ bytes.length)
    (ho : start + 16 ≤ others.length) (h : limbAt bytes start = limbAt others start)
    (hr : bytes.drop (start + 16) = others.drop (start + 16)) :
    bytes.drop start = others.drop start := by
  rw [drop_eq_limb_append bytes, drop_eq_limb_append others, take_of_limbAt hb ho h, hr]

lemma serializeAeBalance_eq (ciphertext : Vector UInt8 64) (nonce : Vector UInt8 24) :
    serializeAeBalance ciphertext.toList nonce.toList = .ok [
      limbAt ciphertext.toList 0, limbAt ciphertext.toList 16, limbAt ciphertext.toList 32,
      limbAt ciphertext.toList 48, limbAt (nonce.toList ++ List.replicate 8 0) 16,
      limbAt (nonce.toList ++ List.replicate 8 0) 0] := by
  unfold serializeAeBalance
  rw [if_neg (by simp), if_neg (by simp)]
  rfl

lemma serializeAeBalance_inj {ciphertext ciphertext' : Vector UInt8 64}
    {nonce nonce' : Vector UInt8 24}
    (h : serializeAeBalance ciphertext.toList nonce.toList = .ok felts)
    (h' : serializeAeBalance ciphertext'.toList nonce'.toList = .ok felts) :
    ciphertext = ciphertext' ∧ nonce = nonce' := by
  rw [serializeAeBalance_eq] at h h'
  have heq := (Except.ok.inj h).trans (Except.ok.inj h').symm
  simp only [List.cons.injEq, and_true] at heq
  obtain ⟨h0, h16, h32, h48, hlow, hh⟩ := heq
  have hl (v : Vector UInt8 64) : v.toList.length = 64 := by simp
  have hpd (v : Vector UInt8 24) : (v.toList ++ List.replicate 8 0).length = 32 := by simp
  have hend (v : Vector UInt8 64) : v.toList.drop 64 = [] :=
    List.drop_of_length_le (Nat.le_of_eq (hl v))
  have hp (v : Vector UInt8 24) : (v.toList ++ List.replicate 8 0).drop 32 = [] :=
    List.drop_of_length_le (Nat.le_of_eq (hpd v))
  have hc : ciphertext.toList.drop 0 = ciphertext'.toList.drop 0 := by
    apply drop_congr_limb (by simp) (by simp) h0
    apply drop_congr_limb (by simp) (by simp) h16
    apply drop_congr_limb (by simp) (by simp) h32
    apply drop_congr_limb (by simp) (by simp) h48
    rw [hend, hend]
  have hn : (nonce.toList ++ List.replicate 8 0).drop 0 =
      (nonce'.toList ++ List.replicate 8 0).drop 0 := by
    apply drop_congr_limb (by simp) (by simp) hh
    apply drop_congr_limb (by simp) (by simp) hlow
    rw [hp, hp]
  exact ⟨Vector.toList_inj.mp hc, Vector.toList_inj.mp (List.append_cancel_right hn)⟩

/-! ## Range proofs -/

lemma length_serializePoints (points : List SerializablePoint) :
    (serializePoints points).length = 2 * points.length := by
  induction points with
  | nil => rfl
  | cons point points ih =>
    show (serializePoints points).length + 2 = _
    rw [ih, List.length_cons]
    omega

lemma serializePoints_injective : Function.Injective serializePoints := by
  intro points
  induction points with
  | nil =>
    intro others h
    cases others with
    | nil => rfl
    | cons other others => exact absurd h (by simp [serializePoints])
  | cons point points ih =>
    intro others h
    cases others with
    | nil => exact absurd h (by simp [serializePoints])
    | cons other others =>
      obtain ⟨x, y⟩ := point
      obtain ⟨x', y'⟩ := other
      simp only [serializePoints, List.flatMap_cons, List.cons_append, List.nil_append,
        List.cons.injEq] at h
      obtain ⟨rfl, rfl, h⟩ := h
      have hr : serializePoints points = serializePoints others := h
      rw [ih hr]

def bitProofFelts (proof : ProofOfBit) : List Felt :=
  [proof.a0.x, proof.a0.y, proof.a1.x, proof.a1.y, proof.c0, proof.s0, proof.s1]

lemma serializeRange_eq (range : Range) :
    serializeRange range = .ok ((range.commitments.length : Felt) ::
      serializePoints range.commitments ++
        (range.proofs.length : Felt) :: range.proofs.flatMap bitProofFelts) := by
  have hp : range.proofs.mapM serializeBitProof = .ok (range.proofs.map bitProofFelts) :=
    except_mapM_eq_map fun _ _ => rfl
  unfold serializeRange
  rw [hp]
  rfl

lemma length_flatMap_bitProofFelts (proofs : List ProofOfBit) :
    (proofs.flatMap bitProofFelts).length = 7 * proofs.length := by
  induction proofs with
  | nil => rfl
  | cons proof proofs ih =>
    rw [List.flatMap_cons, List.length_append, ih, List.length_cons]
    show 7 + 7 * proofs.length = _
    omega

lemma flatMap_bitProofFelts_injective :
    Function.Injective fun proofs : List ProofOfBit => proofs.flatMap bitProofFelts := by
  intro proofs
  induction proofs with
  | nil =>
    intro others h
    cases others with
    | nil => rfl
    | cons other others => exact absurd h (by simp [bitProofFelts])
  | cons proof proofs ih =>
    intro others h
    cases others with
    | nil => exact absurd h (by simp [bitProofFelts])
    | cons other others =>
      obtain ⟨⟨ax, ay⟩, ⟨bx, by_⟩, c, s, t⟩ := proof
      obtain ⟨⟨ax', ay'⟩, ⟨bx', by_'⟩, c', s', t'⟩ := other
      simp only [List.flatMap_cons, bitProofFelts, List.cons_append, List.nil_append,
        List.cons.injEq] at h
      obtain ⟨rfl, rfl, rfl, rfl, rfl, rfl, rfl, h⟩ := h
      rw [ih h]

/-- The length of a `Vec` is a `usize`. -/
def RangeSized (range : Range) : Prop :=
  range.commitments.length < 2 ^ 64 ∧ range.proofs.length < 2 ^ 64

lemma length_inj {n m : ℕ} (hn : n < 2 ^ 64) (hm : m < 2 ^ 64) (h : (n : Felt) = m) : n = m := by
  have hs : 2 ^ 64 < fieldPrime := by decide
  exact natCast_injective (by omega) (by omega) h

lemma serializeRange_append_inj {range range' : Range} (hs : RangeSized range)
    (hs' : RangeSized range')
    (h : serializeRange range = .ok felts) (h' : serializeRange range' = .ok felts')
    (heq : felts ++ rest = felts' ++ rest') : range = range' ∧ rest = rest' := by
  rw [serializeRange_eq, Except.ok.injEq] at h h'
  subst h h'
  simp only [List.cons_append, List.append_assoc] at heq
  obtain ⟨hc, heq⟩ := List.cons.inj heq
  have hc := length_inj hs.1 hs'.1 hc
  obtain ⟨hpn, heq⟩ := List.append_inj heq
    (by rw [length_serializePoints, length_serializePoints, hc])
  obtain ⟨hp, heq⟩ := List.cons.inj heq
  have hp := length_inj hs.2 hs'.2 hp
  obtain ⟨hb, hr⟩ := List.append_inj heq
    (by rw [length_flatMap_bitProofFelts, length_flatMap_bitProofFelts, hp])
  obtain ⟨commitments, proofs⟩ := range
  obtain ⟨commitments', proofs'⟩ := range'
  obtain rfl := serializePoints_injective hpn
  obtain rfl := flatMap_bitProofFelts_injective hb
  exact ⟨rfl, hr⟩

/-! ## Proofs of transfer -/

lemma serializeProofOfTransfer_eq_ok {proof : ProofOfTransfer} :
    serializeProofOfTransfer proof = .ok felts ↔
      ∃ range range2, serializeRange proof.range = .ok range ∧
        serializeRange proof.range2 = .ok range2 ∧
        felts = serializePoints [proof.aX, proof.aR, proof.aR2, proof.aB, proof.aB2, proof.aV,
          proof.aV2, proof.aBar] ++
            ([proof.sX, proof.sR, proof.sB, proof.sB2, proof.sR2] ++ (range ++ range2)) := by
  unfold serializeProofOfTransfer
  simp only [except_bind_eq_ok, List.append_assoc]
  constructor
  · intro h
    obtain ⟨range, hr, range2, hrange2, hf⟩ := h
    exact ⟨range, range2, hr, hrange2, (Except.ok.inj hf).symm⟩
  · intro h
    obtain ⟨range, range2, hr, hrange2, rfl⟩ := h
    exact ⟨range, hr, range2, hrange2, rfl⟩

lemma serializeProofOfTransfer_append_inj {proof proof' : ProofOfTransfer}
    (hs : RangeSized proof.range ∧ RangeSized proof.range2)
    (hs' : RangeSized proof'.range ∧ RangeSized proof'.range2)
    (h : serializeProofOfTransfer proof = .ok felts)
    (h' : serializeProofOfTransfer proof' = .ok felts')
    (heq : felts ++ rest = felts' ++ rest') : proof = proof' ∧ rest = rest' := by
  obtain ⟨range, range2, hr, hrange2, rfl⟩ := serializeProofOfTransfer_eq_ok.mp h
  obtain ⟨other, other2, ho, hother2, rfl⟩ := serializeProofOfTransfer_eq_ok.mp h'
  simp only [List.append_assoc] at heq
  obtain ⟨hp, heq⟩ := List.append_inj heq
    (by rw [length_serializePoints, length_serializePoints]; rfl)
  obtain ⟨hsc, heq⟩ := List.append_inj heq rfl
  obtain ⟨hf, heq⟩ := serializeRange_append_inj hs.1 hs'.1 hr ho heq
  obtain ⟨hse, hrs⟩ := serializeRange_append_inj hs.2 hs'.2 hrange2 hother2 heq
  have hp := serializePoints_injective hp
  simp only [List.cons.injEq, and_true] at hp hsc
  refine ⟨?_, hrs⟩
  cases proof
  cases proof'
  simp_all

/-! ## Audits -/

def AuditCalldata.withoutChallenge (audit : AuditCalldata Point) : AuditCalldata Point :=
  { audit with proof := { audit.proof with c := 0 } }

lemma serializeProjectivePoint_inj {P Q : Point} {x y : Felt}
    (hP : serializeProjectivePoint P = .ok (x, y)) (hQ : serializeProjectivePoint Q = .ok (x, y)) :
    P = Q := by
  have hp {P : Point} (h : serializeProjectivePoint P = .ok (x, y)) :
      CurvePoint.fromAffine x y = some P := by
    unfold serializeProjectivePoint at h
    cases ha : toAffine P with
    | none =>
      rw [ha] at h
      exact absurd h (by simp)
    | some affine =>
      rw [ha, Except.ok.injEq, Prod.mk.injEq] at h
      obtain ⟨rfl, rfl⟩ := h
      rw [← toAffine_eq_some.mp ha]
      exact (Option.some_get _).symm
  exact Option.some.inj ((hp hP).symm.trans (hp hQ))

lemma serializeCipherBalance_eq_ok :
    serializeCipherBalance cipher = .ok felts ↔
      ∃ lX lY rX rY, serializeProjectivePoint cipher.l = .ok (lX, lY) ∧
        serializeProjectivePoint cipher.r = .ok (rX, rY) ∧ felts = [lX, lY, rX, rY] := by
  unfold serializeCipherBalance
  simp only [except_bind_eq_ok, Prod.exists]
  constructor
  · intro h
    obtain ⟨lX, lY, hl, rX, rY, hr, hf⟩ := h
    exact ⟨lX, lY, rX, rY, hl, hr, (Except.ok.inj hf).symm⟩
  · intro h
    obtain ⟨lX, lY, rX, rY, hl, hr, rfl⟩ := h
    exact ⟨lX, lY, hl, rX, rY, hr, rfl⟩

lemma serializeCipherBalance_inj {cipher' : ElGamalCiphertext Point}
    (h : serializeCipherBalance cipher = .ok felts)
    (h' : serializeCipherBalance cipher' = .ok felts) : cipher = cipher' := by
  obtain ⟨lX, lY, rX, rY, hl, hr, rfl⟩ := serializeCipherBalance_eq_ok.mp h
  obtain ⟨_, _, _, _, hl', hr', heq⟩ := serializeCipherBalance_eq_ok.mp h'
  simp only [List.cons.injEq, and_true] at heq
  obtain ⟨rfl, rfl, rfl, rfl⟩ := heq
  obtain ⟨l, r⟩ := cipher
  obtain ⟨l', r'⟩ := cipher'
  obtain rfl : l = l' := serializeProjectivePoint_inj hl hl'
  obtain rfl : r = r' := serializeProjectivePoint_inj hr hr'
  rfl

lemma length_serializeCipherBalance
    (h : serializeCipherBalance cipher = .ok felts) : felts.length = 4 := by
  obtain ⟨_, _, _, _, -, -, rfl⟩ := serializeCipherBalance_eq_ok.mp h
  rfl

lemma serializeAuditOption_some_eq_ok {audit : AuditCalldata Point} :
    serializeAuditOption (some audit) = .ok felts ↔
      ∃ balance hint, serializeCipherBalance audit.auditedBalance = .ok balance ∧
        serializeAeBalance audit.hintCiphertext.toList audit.hintNonce.toList = .ok hint ∧
        felts = 0 :: (balance ++ (hint ++ [audit.proof.ax.x, audit.proof.ax.y, audit.proof.al0.x,
          audit.proof.al0.y, audit.proof.al1.x, audit.proof.al1.y, audit.proof.ar1.x,
          audit.proof.ar1.y, audit.proof.sx, audit.proof.sb, audit.proof.sr])) := by
  unfold serializeAuditOption
  simp only [except_bind_eq_ok]
  constructor
  · intro h
    obtain ⟨balance, hb, hint, hh, proof, hp, hf⟩ := h
    obtain rfl := Except.ok.inj hp
    refine ⟨balance, hint, hb, hh, ?_⟩
    rw [← Except.ok.inj hf]
    simp [serializeCairoSome]
  · intro h
    obtain ⟨balance, hint, hb, hh, rfl⟩ := h
    refine ⟨balance, hb, hint, hh, _, rfl, ?_⟩
    apply congrArg Except.ok
    simp [serializeCairoSome]

lemma serializeAuditOption_append_inj {audit audit' : Option (AuditCalldata Point)}
    (h : serializeAuditOption audit = .ok felts)
    (h' : serializeAuditOption audit' = .ok felts') (heq : felts ++ rest = felts' ++ rest') :
    audit.map AuditCalldata.withoutChallenge = audit'.map AuditCalldata.withoutChallenge ∧
      rest = rest' := by
  have htag : (1 : Felt) ≠ 0 := by decide
  cases audit with
  | none =>
    obtain rfl : [1] = felts := Except.ok.inj h
    cases audit' with
    | none =>
      obtain rfl : [1] = felts' := Except.ok.inj h'
      exact ⟨rfl, (List.cons.inj heq).2⟩
    | some audit' =>
      obtain ⟨_, _, -, -, rfl⟩ := serializeAuditOption_some_eq_ok.mp h'
      exact absurd (List.cons.inj heq).1 htag
  | some audit =>
    obtain ⟨balance, hint, hb, hh, rfl⟩ := serializeAuditOption_some_eq_ok.mp h
    cases audit' with
    | none =>
      obtain rfl : [1] = felts' := Except.ok.inj h'
      exact absurd (List.cons.inj heq).1.symm htag
    | some audit' =>
      obtain ⟨balance', hint', hb', hh', rfl⟩ := serializeAuditOption_some_eq_ok.mp h'
      simp only [List.cons_append, List.append_assoc, List.cons.injEq, true_and] at heq
      obtain ⟨hbl, hbh⟩ := List.append_inj heq
        (by rw [length_serializeCipherBalance hb, length_serializeCipherBalance hb'])
      subst hbl
      have hl : hint.length = hint'.length := by
        rw [serializeAeBalance_eq, Except.ok.injEq] at hh hh'
        rw [← hh, ← hh']
        rfl
      obtain ⟨hhn, hp⟩ := List.append_inj hbh hl
      subst hhn
      have hc := serializeCipherBalance_inj hb hb'
      obtain ⟨hcp, hn⟩ := serializeAeBalance_inj hh hh'
      obtain ⟨cipher, ciphertext, nonce, proof⟩ := audit
      obtain ⟨cipher', ciphertext', nonce', proof'⟩ := audit'
      dsimp only at hc hcp hn hp
      subst hc hcp hn
      obtain ⟨⟨_, _⟩, ⟨_, _⟩, ⟨_, _⟩, ⟨_, _⟩, _, _, _, c⟩ := proof
      obtain ⟨⟨_, _⟩, ⟨_, _⟩, ⟨_, _⟩, ⟨_, _⟩, _, _, _, c'⟩ := proof'
      simp only [List.nil_append, List.cons.injEq] at hp
      obtain ⟨rfl, rfl, rfl, rfl, rfl, rfl, rfl, rfl, rfl, rfl, rfl, hr⟩ := hp
      exact ⟨rfl, hr⟩

/-- An encoding that begins another of its type is that encoding, and of the same value but for
the challenge of an audit proof. Every range proof and every transfer proof has one. -/
theorem calldata_uniquely_decodable (felts felts' : List Felt) (hfront : felts <+: felts') :
    (∀ range range', RangeSized range → RangeSized range' → serializeRange range = .ok felts →
        serializeRange range' = .ok felts' → range = range' ∧ felts = felts') ∧
      (∀ proof proof' : ProofOfTransfer, RangeSized proof.range ∧ RangeSized proof.range2 →
        RangeSized proof'.range ∧ RangeSized proof'.range2 →
        serializeProofOfTransfer proof = .ok felts →
        serializeProofOfTransfer proof' = .ok felts' → proof = proof' ∧ felts = felts') ∧
      (∀ audit audit' : Option (AuditCalldata Point), serializeAuditOption audit = .ok felts →
        serializeAuditOption audit' = .ok felts' →
        audit.map AuditCalldata.withoutChallenge = audit'.map AuditCalldata.withoutChallenge ∧
          felts = felts') ∧
      (∀ range, ∃ encoded, serializeRange range = .ok encoded) ∧
      ∀ proof : ProofOfTransfer, ∃ encoded, serializeProofOfTransfer proof = .ok encoded := by
  obtain ⟨rest, rfl⟩ := hfront
  have hw {value : Prop} (h : value ∧ rest = []) : value ∧ felts = felts ++ rest := by
    obtain ⟨hv, rfl⟩ := h
    exact ⟨hv, (List.append_nil felts).symm⟩
  refine ⟨?_, ?_, ?_, exists_serializeRange, exists_serializeProofOfTransfer⟩
  · intro range range' hs hs' h h'
    exact hw (serializeRange_append_inj hs hs' h h' (List.append_nil _).symm)
  · intro proof proof' hs hs' h h'
    exact hw (serializeProofOfTransfer_append_inj hs hs' h h' (List.append_nil _).symm)
  · intro audit audit' h h'
    exact hw (serializeAuditOption_append_inj h h' (List.append_nil _).symm)

def oneBit : Range := ⟨[⟨3, 4⟩], [⟨⟨1, 2⟩, ⟨3, 4⟩, 5, 6, 7⟩]⟩

/-- A range proof of one bit, and no audit. -/
theorem calldata_uniquely_decodable_samples :
    serializeRange oneBit = .ok [1, 3, 4, 1, 1, 2, 3, 4, 5, 6, 7] ∧
    (∀ range, RangeSized range → serializeRange range = .ok [1, 3, 4, 1, 1, 2, 3, 4, 5, 6, 7] →
      oneBit = range) ∧
    @serializeAuditOption CyclicPoint sampleCurve none = .ok [1] ∧
    ∀ audit, @serializeAuditOption CyclicPoint sampleCurve audit = .ok [1] →
      none = audit.map AuditCalldata.withoutChallenge := by
  refine ⟨rfl, ?_, rfl, ?_⟩
  · intro range hs hr
    exact ((@calldata_uniquely_decodable CyclicPoint sampleCurve _ _ (List.prefix_refl _)).1 _ range
      ⟨by decide, by decide⟩ hs rfl hr).1
  · intro audit ha
    exact ((@calldata_uniquely_decodable CyclicPoint sampleCurve _ _ (List.prefix_refl _)).2.2.1
      none audit rfl ha).1

end KrustyKms.Sdk

import KrustyKms.Bitcoin.Fields
import Mathlib.Data.List.GetD

/-!
# Signatures are encoded as BIP-66 requires

`isSignature` splits a signature with a cursor; BIP-66 states its rule by positions
(`isValidSignatureEncoding`).
-/

namespace KrustyKms.Bitcoin

/-! ## The rule of BIP-66 -/

def isValidSignatureEncoding (sig : Bytes) : Bool :=
  -- minimum and maximum size
  if sig.length < 9 then false
  else if sig.length > 73 then false
  -- a compound type, whose length covers the entire signature
  else if sig.getD 0 0 ≠ 0x30 then false
  else if (sig.getD 1 0).toNat ≠ sig.length - 3 then false
  else
    let lenR := (sig.getD 3 0).toNat
    -- the length of S is still inside the signature
    if 5 + lenR ≥ sig.length then false
    else
      let lenS := (sig.getD (5 + lenR) 0).toNat
      -- the lengths of the integers add up to that of the signature
      if lenR + lenS + 7 ≠ sig.length then false
      -- R is an integer, not empty, not negative and without a needless zero
      else if sig.getD 2 0 ≠ 0x02 then false
      else if lenR = 0 then false
      else if sig.getD 4 0 &&& 0x80 ≠ 0 then false
      else if lenR > 1 ∧ sig.getD 4 0 = 0x00 ∧ sig.getD 5 0 &&& 0x80 = 0 then false
      -- and so is S
      else if sig.getD (lenR + 4) 0 ≠ 0x02 then false
      else if lenS = 0 then false
      else if sig.getD (lenR + 6) 0 &&& 0x80 ≠ 0 then false
      else if lenS > 1 ∧ sig.getD (lenR + 6) 0 = 0x00 ∧ sig.getD (lenR + 7) 0 &&& 0x80 = 0 then
        false
      else true

def isDefinedSighashType (byte : UInt8) : Bool :=
  [0x01, 0x02, 0x03, 0x81, 0x82, 0x83].contains byte

/-! ## What is written -/

def writeDerInteger (integer : Bytes) : Bytes := 0x02 :: UInt8.ofNat integer.length :: integer

def writeDer (r s : Bytes) : Bytes :=
  0x30 :: UInt8.ofNat (writeDerInteger r ++ writeDerInteger s).length ::
    (writeDerInteger r ++ writeDerInteger s)

@[simp] lemma length_writeDerInteger (integer : Bytes) :
    (writeDerInteger integer).length = integer.length + 2 := rfl

@[simp] lemma length_writeDer (r s : Bytes) :
    (writeDer r s).length = r.length + s.length + 6 := by
  simp only [writeDer, List.length_cons, List.length_append, length_writeDerInteger]
  omega

lemma writeDer_append (r s : Bytes) (sighashType : UInt8) :
    writeDer r s ++ [sighashType] =
      0x30 :: UInt8.ofNat (r.length + s.length + 4) :: 0x02 :: UInt8.ofNat r.length ::
        (r ++ 0x02 :: UInt8.ofNat s.length :: (s ++ [sighashType])) := by
  have hb : (writeDerInteger r ++ writeDerInteger s).length = r.length + s.length + 4 := by
    rw [List.length_append, length_writeDerInteger, length_writeDerInteger]
    omega
  rw [writeDer, hb]
  simp [writeDerInteger]

lemma ofNat_eq_iff {n : ℕ} (h : n < 256) {byte : UInt8} :
    byte = UInt8.ofNat n ↔ byte.toNat = n := by
  constructor
  · intro heq
    rw [heq, UInt8.toNat_ofNat_of_lt' h]
  · intro heq
    rw [← heq, UInt8.ofNat_toNat]

/-! ## Minimal positive integers -/

lemma isMinimalPositive_iff {integer : Bytes} :
    isMinimalPositive integer = true ↔
      integer ≠ [] ∧ integer.getD 0 0 &&& 0x80 = 0 ∧
        ¬ (integer.length > 1 ∧ integer.getD 0 0 = 0x00 ∧ integer.getD 1 0 &&& 0x80 = 0) := by
  rcases integer with _ | ⟨first, _ | ⟨second, rest⟩⟩
  · simp [isMinimalPositive]
  · simp [isMinimalPositive]
  · simp [isMinimalPositive]
    tauto

/-! ## The cursor -/

lemma derInteger_eq_some {bytes integer rest : Bytes} :
    derInteger bytes = some (integer, rest) ↔
      ∃ len : UInt8, len.toNat = integer.length ∧ bytes = 0x02 :: len :: (integer ++ rest) := by
  unfold derInteger
  constructor
  · intro h
    split at h
    case h_2 => cases h
    case h_1 tag len tail =>
      split_ifs at h with hc
      simp only [Bool.and_eq_true, decide_eq_true_eq] at hc
      obtain ⟨rfl, hlen⟩ := hc
      simp only [Option.some.injEq, Prod.mk.injEq] at h
      obtain ⟨rfl, rfl⟩ := h
      exact ⟨len, by simp [hlen], by rw [List.take_append_drop]⟩
  · intro h
    obtain ⟨len, hlen, rfl⟩ := h
    simp [hlen]

lemma derInteger_eq_some_iff {bytes integer rest : Bytes} (h : bytes.length < 256) :
    derInteger bytes = some (integer, rest) ↔ bytes = writeDerInteger integer ++ rest := by
  rw [derInteger_eq_some]
  constructor
  · intro hs
    obtain ⟨len, hlen, rfl⟩ := hs
    simp only [List.length_cons, List.length_append] at h
    rw [(ofNat_eq_iff (by omega)).mpr hlen]
    rfl
  · intro hb
    subst hb
    simp only [writeDerInteger, List.cons_append, List.length_cons, List.length_append] at h
    exact ⟨_, (ofNat_eq_iff (by omega)).mp rfl, rfl⟩

lemma isStrictDer_iff {der : Bytes} :
    isStrictDer der = true ↔ ∃ r s, der = writeDer r s ∧ 8 ≤ der.length ∧ der.length ≤ 72 ∧
      isMinimalPositive r = true ∧ isMinimalPositive s = true := by
  unfold isStrictDer
  constructor
  · intro h
    split at h
    case h_2 => cases h
    case h_1 tag len body =>
      split_ifs at h with htag hsz
      simp only [ne_eq, not_not, Bool.or_eq_true, Bool.not_eq_true', Bool.and_eq_false_iff,
        decide_eq_false_iff_not, decide_eq_true_eq, not_or] at htag hsz
      obtain ⟨⟨hmin, hmax⟩, hlen⟩ := hsz
      have hb : body.length < 256 := by
        simp only [List.length_cons] at hmax
        omega
      cases hr : derInteger body with
      | none => simp [hr] at h
      | some parts =>
        obtain ⟨r, rest⟩ := parts
        cases hs : derInteger rest with
        | none => simp [hr, hs] at h
        | some parts =>
          obtain ⟨s, rest'⟩ := parts
          simp only [hr, hs, Bool.and_eq_true, List.isEmpty_iff] at h
          obtain ⟨⟨rfl, hm⟩, hms⟩ := h
          have hbe := (derInteger_eq_some_iff hb).mp hr
          have hrs : rest.length < 256 := by
            rw [hbe, List.length_append] at hb
            omega
          have hre := (derInteger_eq_some_iff hrs).mp hs
          rw [List.append_nil] at hre
          subst hre hbe
          refine ⟨r, s, ?_, by omega, by omega, hm, hms⟩
          rw [htag, (ofNat_eq_iff hb).mpr hlen]
          rfl
  · intro h
    obtain ⟨r, s, rfl, hmin, hmax, hm, hms⟩ := h
    rw [length_writeDer] at hmin hmax
    have hb : (writeDerInteger r ++ writeDerInteger s).length < 256 := by
      simp only [List.length_append, length_writeDerInteger]
      omega
    have hrs : (writeDerInteger s).length < 256 := by
      rw [length_writeDerInteger]
      omega
    have hr := (derInteger_eq_some_iff hb).mpr rfl
    have hs : derInteger (writeDerInteger s) = some (s, []) :=
      (derInteger_eq_some_iff hrs).mpr (List.append_nil _).symm
    have hlen := (ofNat_eq_iff hb).mp rfl
    show (if (0x30 : UInt8) ≠ 0x30 then false else if _ then false else _) = true
    rw [if_neg (by simp), if_neg (by simp only [hlen]; simp; omega)]
    simp [hr, hs, hm, hms]

/-! ## The positions -/

lemma exists_parts {sig : Bytes} (hl : 4 ≤ sig.length)
    (hlen : (sig.getD 3 0).toNat + 7 ≤ sig.length) :
    ∃ (tag total tagR lenR tagS lenS : UInt8) (r s : Bytes) (sighashType : UInt8),
      sig = tag :: total :: tagR :: lenR :: (r ++ tagS :: lenS :: (s ++ [sighashType])) ∧
        lenR.toNat = r.length := by
  match sig, hl with
  | tag :: total :: tagR :: lenR :: rest, _ =>
    have hr : lenR.toNat + 3 ≤ rest.length := by
      simpa using hlen
    have hs := List.take_append_drop lenR.toNat rest
    have hd : 3 ≤ (rest.drop lenR.toNat).length := by
      rw [List.length_drop]
      omega
    match hb : rest.drop lenR.toNat, hd with
    | tagS :: lenS :: tail, hd =>
      have ht : tail ≠ [] := by
        rintro rfl
        simp at hd
      refine ⟨tag, total, tagR, lenR, tagS, lenS, rest.take lenR.toNat, tail.dropLast,
        tail.getLast ht, ?_, ?_⟩
      · rw [List.dropLast_append_getLast, ← hb, hs]
      · rw [List.length_take]
        omega

lemma ite_false_eq_true {c : Prop} [Decidable c] {x : Bool} :
    (if c then false else x) = true ↔ ¬ c ∧ x = true := by
  by_cases h : c
  · simp [h]
  · simp [h]

lemma getD_integer {front integer back : Bytes} {k : ℕ} (hk : k < integer.length) :
    (front ++ (integer ++ back)).getD (front.length + k) 0 = integer.getD k 0 := by
  rw [List.getD_append_right _ _ _ _ (by omega), Nat.add_sub_cancel_left,
    List.getD_append _ _ _ _ hk]

lemma getD_behind {front integer back : Bytes} (k : ℕ) :
    (front ++ (integer ++ back)).getD (front.length + integer.length + k) 0 = back.getD k 0 := by
  rw [List.getD_append_right _ _ _ _ (by omega), List.getD_append_right _ _ _ _ (by omega)]
  congr 1
  omega

lemma minimal_iff {front integer back : Bytes} {pos : ℕ} (hpos : front.length = pos) :
    (¬ integer.length = 0 ∧ ¬ (front ++ (integer ++ back)).getD pos 0 &&& 0x80 ≠ 0 ∧
      ¬ (integer.length > 1 ∧ (front ++ (integer ++ back)).getD pos 0 = 0x00 ∧
        (front ++ (integer ++ back)).getD (pos + 1) 0 &&& 0x80 = 0)) ↔
      isMinimalPositive integer = true := by
  subst hpos
  rw [isMinimalPositive_iff, List.length_eq_zero_iff, not_not]
  refine and_congr_right fun hne => ?_
  have hf := @getD_integer front integer back 0 (List.length_pos_iff.mpr hne)
  rw [Nat.add_zero] at hf
  rw [hf]
  refine and_congr_right fun _ => not_congr (and_congr_right fun hl => ?_)
  rw [getD_integer hl]

lemma isValidSignatureEncoding_parts {tag total tagR lenR tagS lenS : UInt8} {r s : Bytes}
    {sighashType : UInt8} (hl : lenR.toNat = r.length) :
    isValidSignatureEncoding
        (tag :: total :: tagR :: lenR :: (r ++ tagS :: lenS :: (s ++ [sighashType]))) = true ↔
      9 ≤ r.length + s.length + 7 ∧ r.length + s.length + 7 ≤ 73 ∧ tag = 0x30 ∧
        total.toNat = r.length + s.length + 4 ∧ lenS.toNat = s.length ∧ tagR = 0x02 ∧
        tagS = 0x02 ∧ isMinimalPositive r = true ∧ isMinimalPositive s = true := by
  generalize hsig : tag :: total :: tagR :: lenR :: (r ++ tagS :: lenS :: (s ++ [sighashType])) =
    sig
  have hln : sig.length = r.length + s.length + 7 := by
    rw [← hsig]
    simp only [List.length_cons, List.length_append, List.length_nil]
    omega
  -- the two ways to cut the signature around an integer
  have ha : sig = [tag, total, tagR, lenR] ++
      (r ++ tagS :: lenS :: (s ++ [sighashType])) := by
    rw [← hsig]
    rfl
  have has : sig = (tag :: total :: tagR :: lenR :: (r ++ [tagS, lenS])) ++
      (s ++ [sighashType]) := by
    rw [← hsig]
    simp
  have ht : sig.getD (r.length + 4) 0 = tagS := by
    have h := @getD_behind [tag, total, tagR, lenR] r (tagS :: lenS :: (s ++ [sighashType])) 0
    rw [← ha] at h
    rw [Nat.add_comm]
    exact h
  have hls : sig.getD (5 + r.length) 0 = lenS := by
    have h := @getD_behind [tag, total, tagR, lenR] r (tagS :: lenS :: (s ++ [sighashType])) 1
    rw [← ha] at h
    rw [show 5 + r.length = 4 + r.length + 1 by omega]
    exact h
  have hm := @minimal_iff [tag, total, tagR, lenR] r (tagS :: lenS :: (s ++ [sighashType])) 4 rfl
  have hms := @minimal_iff (tag :: total :: tagR :: lenR :: (r ++ [tagS, lenS])) s [sighashType]
    (r.length + 6) (by simp)
  rw [← ha] at hm
  rw [← has] at hms
  have hh : sig.getD 0 0 = tag ∧ sig.getD 1 0 = total ∧ sig.getD 2 0 = tagR ∧
      sig.getD 3 0 = lenR := by
    rw [← hsig]
    exact ⟨rfl, rfl, rfl, rfl⟩
  obtain ⟨h0, h1, h2, h3⟩ := hh
  unfold isValidSignatureEncoding
  simp only [ite_false_eq_true, h0, h1, h2, h3, hl, hls, ht, hln]
  constructor
  · intro h
    obtain ⟨hmin, hmax, htag, htt, -, hsum, htr, hr0, hr1, hr2, ht, hs0, hs1, hs2, -⟩ := h
    have hlen : lenS.toNat = s.length := by omega
    rw [hlen] at hs0 hs2
    exact ⟨by omega, by omega, not_not.mp htag, by omega, hlen, not_not.mp htr,
      not_not.mp ht, hm.mp ⟨hr0, hr1, hr2⟩, hms.mp ⟨hs0, hs1, hs2⟩⟩
  · intro h
    obtain ⟨hmin, hmax, htag, htt, hlen, htr, ht, hr, hs⟩ := h
    obtain ⟨hr0, hr1, hr2⟩ := hm.mpr hr
    obtain ⟨hs0, hs1, hs2⟩ := hms.mpr hs
    rw [← hlen] at hs0 hs2
    exact ⟨by omega, by omega, not_not.mpr htag, by omega, by omega, by omega,
      not_not.mpr htr, hr0, hr1, hr2, not_not.mpr ht, hs0, hs1, hs2, trivial⟩

lemma isValidSignatureEncoding_iff {sig : Bytes} :
    isValidSignatureEncoding sig = true ↔
      ∃ r s sighashType, sig = writeDer r s ++ [sighashType] ∧ 9 ≤ sig.length ∧
        sig.length ≤ 73 ∧ isMinimalPositive r = true ∧ isMinimalPositive s = true := by
  constructor
  · intro h
    have hp : 4 ≤ sig.length ∧ (sig.getD 3 0).toNat + 7 ≤ sig.length := by
      unfold isValidSignatureEncoding at h
      simp only [ite_false_eq_true] at h
      omega
    obtain ⟨tag, total, tagR, lenR, tagS, lenS, r, s, sighashType, rfl, hl⟩ :=
      exists_parts hp.1 hp.2
    obtain ⟨hmin, hmax, rfl, ht, hls, rfl, rfl, hr, hs⟩ :=
      (isValidSignatureEncoding_parts hl).mp h
    rw [← ofNat_eq_iff (by omega)] at hl hls ht
    subst hl hls ht
    refine ⟨r, s, sighashType, ?_, ?_, ?_, hr, hs⟩
    · rw [writeDer_append]
    · simp only [List.length_cons, List.length_append, List.length_nil]
      omega
    · simp only [List.length_cons, List.length_append, List.length_nil]
      omega
  · intro h
    obtain ⟨r, s, sighashType, rfl, hmin, hmax, hr, hs⟩ := h
    simp only [List.length_append, length_writeDer, List.length_singleton] at hmin hmax
    rw [writeDer_append, isValidSignatureEncoding_parts ((ofNat_eq_iff (by omega)).mp rfl)]
    exact ⟨by omega, by omega, rfl, (ofNat_eq_iff (by omega)).mp rfl,
      (ofNat_eq_iff (by omega)).mp rfl, rfl, rfl, hr, hs⟩

/-! ## The same signatures -/

lemma isDefinedSighashType_eq (byte : UInt8) :
    (decide (0x01 ≤ byte &&& ~~~0x80) && decide (byte &&& ~~~0x80 ≤ 0x03)) =
      isDefinedSighashType byte := by
  have hall : ∀ byte : Fin 256, (decide (0x01 ≤ UInt8.ofFin byte &&& ~~~0x80) &&
      decide (UInt8.ofFin byte &&& ~~~0x80 ≤ 0x03)) = isDefinedSighashType (UInt8.ofFin byte) := by
    decide +kernel
  exact hall byte.toFin

lemma isSignature_concat (der : Bytes) (sighashType : UInt8) :
    isSignature (der ++ [sighashType]) = (isDefinedSighashType sighashType && isStrictDer der) := by
  rw [← isDefinedSighashType_eq]
  simp [isSignature]

/-- **Signatures are accepted by the consensus rule.** The cursor accepts exactly what BIP-66
accepts by positions and what ends in a defined sighash type: the encodings of two minimal
positive integers in 9 to 73 bytes, with nothing between them and the sighash type. -/
theorem isSignature_iff_bip66 (sig : Bytes) :
    (isSignature sig = true ↔ isValidSignatureEncoding sig = true ∧
      ∃ sighashType, sig.getLast? = some sighashType ∧ isDefinedSighashType sighashType = true) ∧
    (isSignature sig = true ↔ ∃ r s sighashType, sig = writeDer r s ++ [sighashType] ∧
      9 ≤ sig.length ∧ sig.length ≤ 73 ∧ isMinimalPositive r = true ∧
      isMinimalPositive s = true ∧ isDefinedSighashType sighashType = true) := by
  have hw : isSignature sig = true ↔ ∃ r s sighashType, sig = writeDer r s ++ [sighashType] ∧
      9 ≤ sig.length ∧ sig.length ≤ 73 ∧ isMinimalPositive r = true ∧
      isMinimalPositive s = true ∧ isDefinedSighashType sighashType = true := by
    rcases List.eq_nil_or_concat' sig with rfl | ⟨der, byte, rfl⟩
    · constructor
      · intro h
        cases h
      · intro h
        obtain ⟨r, s, sighashType, h, -⟩ := h
        simp at h
    · rw [isSignature_concat, Bool.and_eq_true, isStrictDer_iff]
      simp only [List.length_append, List.length_singleton]
      constructor
      · intro h
        obtain ⟨hd, r, s, rfl, hmin, hmax, hr, hs⟩ := h
        exact ⟨r, s, byte, rfl, by omega, by omega, hr, hs, hd⟩
      · intro h
        obtain ⟨r, s, sighashType, hsig, hmin, hmax, hr, hs, hd⟩ := h
        obtain ⟨rfl, hb⟩ := List.append_inj' hsig rfl
        rw [List.singleton_inj] at hb
        subst hb
        exact ⟨hd, r, s, rfl, by omega, by omega, hr, hs⟩
  refine ⟨?_, hw⟩
  rw [hw, isValidSignatureEncoding_iff]
  constructor
  · intro h
    obtain ⟨r, s, sighashType, hsig, hmin, hmax, hr, hs, hd⟩ := h
    refine ⟨⟨r, s, sighashType, hsig, hmin, hmax, hr, hs⟩, sighashType, ?_, hd⟩
    rw [hsig, List.getLast?_concat]
  · intro h
    obtain ⟨⟨r, s, sighashType, hsig, hmin, hmax, hr, hs⟩, byte, hl, hd⟩ := h
    rw [hsig, List.getLast?_concat, Option.some.injEq] at hl
    subst hl
    exact ⟨r, s, sighashType, hsig, hmin, hmax, hr, hs, hd⟩

end KrustyKms.Bitcoin

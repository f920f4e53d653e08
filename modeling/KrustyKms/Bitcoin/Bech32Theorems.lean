import KrustyKms.Bitcoin.Bech32
import KrustyKms.Codec.Bits
import KrustyKms.Support.Fallible

/-!
# Correctness of the bech32 encoder

The checksum register is linear over exclusive or: what it holds after `values` from the state `a
^^^ b` is what `b` becomes over `values`, exclusive or with what `a` becomes over as many zeros
(`foldl_polymodStep_xor`).
-/

namespace KrustyKms.Bitcoin.Bech32

open Codec (bits byteBits regroup)

/-! ## The register -/

def feedback (chk : BitVec 32) : BitVec 32 :=
  (if chk.getLsbD 25 then 0x3b6a57b2 else 0) ^^^ (if chk.getLsbD 26 then 0x26508e6d else 0) ^^^
    (if chk.getLsbD 27 then 0x1ea119fa else 0) ^^^ (if chk.getLsbD 28 then 0x3d4233dd else 0) ^^^
    (if chk.getLsbD 29 then 0x2a1462b3 else 0)

lemma top_bit (chk : BitVec 32) (i : ℕ) : (chk >>> 25 >>> i) &&& 1 = 1 ↔ chk.getLsbD (25 + i) := by
  constructor
  · intro h
    have hbit := congrArg (fun word => word.getLsbD 0) h
    simpa using hbit
  · intro h
    ext j hj
    cases j with
    | zero => simpa using h
    | succ j => simp

lemma polymodStep_eq (chk : BitVec 32) (value : UInt8) :
    polymodStep chk value =
      ((chk &&& 0x01ffffff) <<< 5) ^^^ value.toBitVec.setWidth 32 ^^^ feedback chk := by
  have hp (c g : BitVec 32) (b : Bool) :
      (if b then c ^^^ g else c) = c ^^^ (if b then g else 0) := by
    cases b <;> simp
  simp only [polymodStep, generators, List.zipIdx_cons, List.zipIdx_nil, List.foldl_cons,
    List.foldl_nil, top_bit, hp, feedback, BitVec.xor_assoc]

lemma feedback_xor (a b : BitVec 32) : feedback (a ^^^ b) = feedback a ^^^ feedback b := by
  have hl (p q : Bool) (g : BitVec 32) :
      (if (p ^^ q) = true then g else 0) = (if p then g else 0) ^^^ (if q then g else 0) := by
    cases p <;> cases q <;> simp
  simp only [feedback, BitVec.getLsbD_xor, hl]
  ac_rfl

lemma polymodStep_xor (a b : BitVec 32) (value : UInt8) :
    polymodStep (a ^^^ b) value = polymodStep a 0 ^^^ polymodStep b value := by
  have hm : ((a ^^^ b) &&& 0x01ffffff) <<< 5 =
      ((a &&& 0x01ffffff) <<< 5) ^^^ ((b &&& 0x01ffffff) <<< 5) := by
    ext i hi
    simp only [BitVec.getElem_shiftLeft, BitVec.getElem_xor]
    grind
  have hz : polymodStep a 0 = ((a &&& 0x01ffffff) <<< 5) ^^^ feedback a := by
    rw [polymodStep_eq]
    exact congrArg (· ^^^ feedback a) BitVec.xor_zero
  rw [hz, polymodStep_eq, polymodStep_eq, hm, feedback_xor]
  ac_rfl

lemma foldl_polymodStep_xor (values : List UInt8) (a b : BitVec 32) :
    values.foldl polymodStep (a ^^^ b) =
      (List.replicate values.length 0).foldl polymodStep a ^^^ values.foldl polymodStep b := by
  induction values generalizing a b with
  | nil => rfl
  | cons value values ih =>
    rw [List.foldl_cons, polymodStep_xor, ih, List.length_cons, List.replicate_succ,
      List.foldl_cons, List.foldl_cons]

/-! ## Thirty bits -/

variable {k count : ℕ} {word : BitVec 32} {value : UInt8}

lemma getLsbD_mask (hk : k ≤ 32) (i : ℕ) :
    (BitVec.ofNat 32 (2 ^ k - 1)).getLsbD i = decide (i < k) := by
  rw [BitVec.getLsbD_ofNat, Nat.testBit_two_pow_sub_one]
  by_cases h : i < k
  · rw [decide_eq_true h, decide_eq_true (Nat.lt_of_lt_of_le h hk)]
    rfl
  · rw [decide_eq_false h, Bool.and_false]

def Within (k : ℕ) (word : BitVec 32) : Prop := ∀ i, k ≤ i → word.getLsbD i = false

lemma within_of_lt (h : word.toNat < 2 ^ k) : Within k word := by
  intro i hi
  rw [← BitVec.testBit_toNat]
  exact Nat.testBit_lt_two_pow (Nat.lt_of_lt_of_le h (Nat.pow_le_pow_right Nat.two_pos hi))

lemma Within.xor {a b : BitVec 32} (ha : Within k a) (hb : Within k b) :
    Within k (a ^^^ b) := by
  intro i hi
  rw [BitVec.getLsbD_xor, ha i hi, hb i hi, Bool.xor_self]

lemma Within.and_mask (hw : Within k word) (hk : k ≤ 32) :
    word &&& BitVec.ofNat 32 (2 ^ k - 1) = word := by
  apply BitVec.eq_of_getLsbD_eq
  intro i _
  rw [BitVec.getLsbD_and, getLsbD_mask hk]
  by_cases h : i < k
  · rw [decide_eq_true h, Bool.and_true]
  · rw [hw i (by omega), Bool.false_and]

lemma Within.ushiftRight (hw : Within k word) (shift : ℕ) :
    Within (k - shift) (word >>> shift) := by
  intro i hi
  rw [BitVec.getLsbD_ushiftRight]
  exact hw _ (by omega)

lemma Within.eq_zero (hw : Within 0 word) : word = 0 := by
  apply BitVec.eq_of_getLsbD_eq
  intro i _
  rw [hw i (Nat.zero_le i)]
  exact BitVec.getLsbD_zero.symm

lemma within_feedback (chk : BitVec 32) : Within 30 (feedback chk) := by
  have hgn (p : Bool) {g : BitVec 32} (hg : g.toNat < 2 ^ 30) :
      Within 30 (if p then g else 0) := by
    cases p
    · exact within_of_lt (Nat.two_pow_pos 30)
    · exact within_of_lt hg
  exact ((((hgn _ (by decide)).xor (hgn _ (by decide))).xor
    (hgn _ (by decide))).xor (hgn _ (by decide))).xor (hgn _ (by decide))

lemma within_polymodStep (chk : BitVec 32) (hv : value < 32) :
    Within 30 (polymodStep chk value) := by
  rw [polymodStep_eq]
  have hm : Within 30 ((chk &&& 0x01ffffff) <<< 5) := by
    intro i hi
    have hbit : (0x01ffffff : BitVec 32).getLsbD (i - 5) = false :=
      within_of_lt (k := 25) (by decide) (i - 5) (by omega)
    rw [BitVec.getLsbD_shiftLeft, BitVec.getLsbD_and, hbit, Bool.and_false, Bool.and_false]
  have hlow : Within 30 (value.toBitVec.setWidth 32) := by
    refine within_of_lt ?_
    have hnat : value.toNat < 32 := hv
    have hw : (value.toBitVec.setWidth 32).toNat = value.toNat := by
      rw [BitVec.toNat_setWidth, UInt8.toNat_toBitVec]
      omega
    omega
  exact (hm.xor hlow).xor (within_feedback chk)

lemma within_foldl_polymodStep {values : List UInt8} (hvl : ∀ value ∈ values, value < 32)
    {chk : BitVec 32} (hchk : Within 30 chk) : Within 30 (values.foldl polymodStep chk) := by
  induction values generalizing chk with
  | nil => exact hchk
  | cons value values ih =>
    exact ih (fun v hv => hvl v (List.mem_cons_of_mem _ hv))
      (within_polymodStep chk (hvl value List.mem_cons_self))

/-! ## Symbols -/

lemma getLsbD_ofBitVec_low (word : BitVec 32) (i : ℕ) :
    (UInt8.ofBitVec ((word &&& 0x1f).setWidth 8)).toBitVec.getLsbD i =
      (decide (i < 5) && word.getLsbD i) := by
  have hb : ((word &&& 0x1f).setWidth 8).getLsbD i =
      (decide (i < 8) && (word.getLsbD i && decide (i < 5))) := by
    rw [BitVec.getLsbD_setWidth, BitVec.getLsbD_and]
    exact congrArg (fun b => decide (i < 8) && (word.getLsbD i && b))
      (getLsbD_mask (k := 5) (by omega) i)
  refine hb.trans ?_
  by_cases h : i < 5
  · rw [decide_eq_true h, decide_eq_true (show i < 8 by omega), Bool.and_true]
  · rw [decide_eq_false h, Bool.and_false, Bool.and_false, Bool.false_and]

lemma ofBitVec_low_lt (word : BitVec 32) : UInt8.ofBitVec ((word &&& 0x1f).setWidth 8) < 32 := by
  have hnat : (UInt8.ofBitVec ((word &&& 0x1f).setWidth 8)).toNat =
      (word.toNat &&& 0x1f) % 256 := by
    rw [UInt8.toNat_ofBitVec, BitVec.toNat_setWidth, BitVec.toNat_and]
    rfl
  have hle : word.toNat &&& 0x1f ≤ 0x1f := Nat.and_le_right
  have hlt : (UInt8.ofBitVec ((word &&& 0x1f).setWidth 8)).toNat < 32 := by omega
  exact hlt

lemma symbolAt_lt (word : BitVec 32) (shift : ℕ) : symbolAt word shift < 32 :=
  ofBitVec_low_lt (word >>> shift)

lemma getLsbD_symbolAt (word : BitVec 32) (shift i : ℕ) :
    (symbolAt word shift).toBitVec.getLsbD i = (decide (i < 5) && word.getLsbD (shift + i)) := by
  rw [symbolAt, getLsbD_ofBitVec_low, BitVec.getLsbD_ushiftRight]

lemma polymodStep_symbolAt (hw : Within 30 word) (shift : ℕ) :
    polymodStep (word >>> (shift + 5)) (symbolAt word shift) = word >>> shift := by
  have hh : Within 25 (word >>> (shift + 5)) := by
    intro i hi
    exact hw.ushiftRight (shift + 5) i (by omega)
  have hf : feedback (word >>> (shift + 5)) = 0 := by
    simp only [feedback, hh 25 (by omega), hh 26 (by omega), hh 27 (by omega),
      hh 28 (by omega), hh 29 (by omega)]
    rfl
  have hm : (word >>> (shift + 5)) &&& 0x01ffffff = word >>> (shift + 5) :=
    hh.and_mask (by omega)
  rw [polymodStep_eq, hf, hm]
  apply BitVec.eq_of_getLsbD_eq
  intro i hi
  -- The low five bits come from the symbol, the others from the register.
  have hz : (0 : BitVec 32).getLsbD i = false := BitVec.getLsbD_zero
  rw [BitVec.getLsbD_xor, BitVec.getLsbD_xor, hz, Bool.xor_false, BitVec.getLsbD_shiftLeft,
    BitVec.getLsbD_setWidth, getLsbD_symbolAt, BitVec.getLsbD_ushiftRight,
    BitVec.getLsbD_ushiftRight]
  by_cases h : i < 5
  · simp [h, hi]
  · rw [show shift + 5 + (i - 5) = shift + i by omega]
    simp [h, hi]

lemma foldl_checksum_symbols (hw : Within 30 word) :
    ((List.range 6).map fun i => symbolAt word (5 * (5 - i))).foldl polymodStep 0 = word := by
  have hem : word >>> 30 = 0 := (hw.ushiftRight 30).eq_zero
  have hs : ((List.range 6).map fun i => symbolAt word (5 * (5 - i))) =
      [symbolAt word 25, symbolAt word 20, symbolAt word 15, symbolAt word 10, symbolAt word 5,
        symbolAt word 0] := rfl
  rw [hs, ← hem]
  simp only [List.foldl_cons, List.foldl_nil, polymodStep_symbolAt hw 25,
    polymodStep_symbolAt hw 20, polymodStep_symbolAt hw 15, polymodStep_symbolAt hw 10,
    polymodStep_symbolAt hw 5, polymodStep_symbolAt hw 0, BitVec.ushiftRight_zero]

lemma hrpExpand_lt {hrp : Bytes} (hv : value ∈ hrpExpand hrp) : value < 32 := by
  have hh : ∀ c : Fin 256, UInt8.ofFin c >>> 5 < 32 := by decide +kernel
  have hlow : ∀ c : Fin 256, UInt8.ofFin c &&& 0x1f < 32 := by decide +kernel
  simp only [hrpExpand, List.mem_append, List.mem_map, List.mem_singleton] at hv
  obtain (⟨c, _, rfl⟩ | rfl) | ⟨c, _, rfl⟩ := hv
  · exact hh c.toFin
  · decide
  · exact hlow c.toFin

lemma polymod_checksum (hrp : Bytes) {data : Bytes} (hd : ∀ value ∈ data, value < 32) :
    polymod (hrpExpand hrp ++ data ++ checksum hrp data) = bech32Const := by
  have hall : ∀ value ∈ hrpExpand hrp ++ data ++ List.replicate 6 0, value < 32 := by
    intro value hv
    rw [List.mem_append, List.mem_append] at hv
    obtain (hmem | hmem) | hmem := hv
    · exact hrpExpand_lt hmem
    · exact hd value hmem
    · rw [List.eq_of_mem_replicate hmem]
      decide
  have hw : Within 30 (polymod (hrpExpand hrp ++ data ++ List.replicate 6 0) ^^^ bech32Const) :=
    (within_foldl_polymodStep hall (within_of_lt (by decide))).xor (within_of_lt (by decide))
  have hf := foldl_checksum_symbols hw
  have hln : (checksum hrp data).length = 6 := by simp [checksum]
  have hl := foldl_polymodStep_xor (checksum hrp data)
    ((hrpExpand hrp ++ data).foldl polymodStep 1) 0#32
  rw [hln, BitVec.xor_zero] at hl
  calc polymod (hrpExpand hrp ++ data ++ checksum hrp data)
      = (checksum hrp data).foldl polymodStep ((hrpExpand hrp ++ data).foldl polymodStep 1) :=
        List.foldl_append ..
    _ = polymod (hrpExpand hrp ++ data ++ List.replicate 6 0) ^^^
          (polymod (hrpExpand hrp ++ data ++ List.replicate 6 0) ^^^ bech32Const) := by
        rw [hl]
        exact congrArg₂ (· ^^^ ·) (List.foldl_append ..).symm hf
    _ = bech32Const := by rw [← BitVec.xor_assoc, BitVec.xor_self, BitVec.zero_xor]

/-! ## Regrouping -/

def symbolBits (value : UInt8) : List Bool := bits value.toBitVec.getLsbD 5

lemma symbolBits_symbolAt (word : BitVec 32) (shift : ℕ) :
    symbolBits (symbolAt word shift) = bits (fun i => word.getLsbD (i + shift)) 5 := by
  apply Codec.bits_congr
  intro i hi
  rw [getLsbD_symbolAt, decide_eq_true hi, Bool.true_and, Nat.add_comm]

lemma pushSymbols_bits (accumulator : BitVec 32) (count : ℕ) :
    (pushSymbols accumulator count).2 < 5 ∧
      (pushSymbols accumulator count).1.flatMap symbolBits ++
        bits accumulator.getLsbD (pushSymbols accumulator count).2 =
          bits accumulator.getLsbD count := by
  fun_induction pushSymbols accumulator count with
  | case1 count out left hp ih =>
    rw [hp] at ih
    obtain ⟨hl, hb⟩ := ih
    refine ⟨hl, ?_⟩
    have hs := Codec.bits_add accumulator.getLsbD 5 count
    rw [Nat.add_comm] at hs
    rw [List.flatMap_cons, List.append_assoc, hb, symbolBits_symbolAt]
    exact hs.symm
  | case2 count hc =>
    refine ⟨?_, rfl⟩
    by_contra h
    exact hc (count - 5) (by omega)

lemma pushSymbols_lt (accumulator : BitVec 32) (count : ℕ) :
    ∀ value ∈ (pushSymbols accumulator count).1, value < 32 := by
  fun_induction pushSymbols accumulator count with
  | case1 count out left hp ih =>
    rw [hp] at ih
    intro value hv
    obtain rfl | hmem := List.mem_cons.mp hv
    · exact symbolAt_lt accumulator count
    · exact ih value hmem
  | case2 count hc => simp

lemma bits_accumulate (accumulator : BitVec 32) (hc : count < 5) (byte : UInt8) :
    bits (((accumulator <<< 8) ||| byte.toBitVec.setWidth 32) &&& 0xfff).getLsbD (count + 8) =
      bits accumulator.getLsbD count ++ byteBits byte := by
  have hm (i : ℕ) (hi : i < 12) : (0xfff : BitVec 32).getLsbD i = true :=
    (getLsbD_mask (k := 12) (by omega) i).trans (decide_eq_true hi)
  rw [Codec.bits_add]
  congr 1
  · apply Codec.bits_congr
    intro i hi
    rw [BitVec.getLsbD_and, hm _ (by omega), BitVec.getLsbD_or, BitVec.getLsbD_shiftLeft,
      BitVec.getLsbD_setWidth, BitVec.getLsbD_of_ge byte.toBitVec (i + 8) (by omega)]
    simp [show i + 8 < 32 by omega]
  · apply Codec.bits_congr
    intro i hi
    rw [BitVec.getLsbD_and, hm _ (by omega), BitVec.getLsbD_or, BitVec.getLsbD_shiftLeft,
      BitVec.getLsbD_setWidth]
    simp [hi, show i < 32 by omega]

lemma symbolBits_last (accumulator : BitVec 32) (hc : count < 5) :
    symbolBits (.ofBitVec (((accumulator <<< (5 - count)) &&& 0x1f).setWidth 8)) =
      bits accumulator.getLsbD count ++ List.replicate (5 - count) false := by
  have hs : symbolBits (.ofBitVec (((accumulator <<< (5 - count)) &&& 0x1f).setWidth 8)) =
      bits (accumulator <<< (5 - count)).getLsbD (count + (5 - count)) := by
    rw [show count + (5 - count) = 5 by omega]
    apply Codec.bits_congr
    intro i hi
    rw [getLsbD_ofBitVec_low, decide_eq_true hi, Bool.true_and]
  rw [hs, Codec.bits_add, ← Codec.bits_false]
  congr 1
  · apply Codec.bits_congr
    intro i hi
    rw [BitVec.getLsbD_shiftLeft]
    simp [show i + (5 - count) < 32 by omega]
  · apply Codec.bits_congr
    intro i hi
    rw [BitVec.getLsbD_shiftLeft]
    simp [hi]

/-- The bits that wait in the accumulator stand before those of the bytes, and the last group
is filled up with zeros. -/
lemma regroupFrom_bits (accumulator : BitVec 32) (hc : count < 5) (bytes : Bytes) :
    ∃ padding < 5, (regroupFrom accumulator count bytes).flatMap symbolBits =
      bits accumulator.getLsbD count ++ bytes.flatMap byteBits ++ List.replicate padding false := by
  induction bytes generalizing accumulator count with
  | nil =>
    rw [regroupFrom, List.flatMap_nil, List.append_nil]
    by_cases h : count > 0
    · refine ⟨5 - count, by omega, ?_⟩
      rw [if_pos h, List.flatMap_singleton, symbolBits_last accumulator hc]
    · obtain rfl : count = 0 := by omega
      exact ⟨0, by omega, rfl⟩
  | cons byte bytes ih =>
    obtain ⟨hl, hp⟩ := pushSymbols_bits
      (((accumulator <<< 8) ||| byte.toBitVec.setWidth 32) &&& 0xfff) (count + 8)
    obtain ⟨padding, hpd, hr⟩ :=
      ih (((accumulator <<< 8) ||| byte.toBitVec.setWidth 32) &&& 0xfff) hl
    refine ⟨padding, hpd, ?_⟩
    rw [regroupFrom, List.flatMap_append, hr, ← List.append_assoc, ← List.append_assoc, hp,
      bits_accumulate accumulator hc, List.flatMap_cons, List.append_assoc (bits _ _)]

lemma regroupFrom_lt (accumulator : BitVec 32) (count : ℕ) (bytes : Bytes) :
    ∀ value ∈ regroupFrom accumulator count bytes, value < 32 := by
  induction bytes generalizing accumulator count with
  | nil =>
    intro value hv
    rw [regroupFrom] at hv
    split at hv
    · rw [List.mem_singleton.mp hv]
      exact ofBitVec_low_lt _
    · exact absurd hv List.not_mem_nil
  | cons byte bytes ih =>
    intro value hv
    rw [regroupFrom] at hv
    obtain hmem | hmem := List.mem_append.mp hv
    · exact pushSymbols_lt _ (count + 8) value hmem
    · exact ih _ _ value hmem

lemma regroup_toBase32 (program : Bytes) :
    ∃ padding < 5, regroup ((toBase32 program).flatMap symbolBits) =
      (program, List.replicate padding false) := by
  obtain ⟨padding, hp, hb⟩ := regroupFrom_bits 0 (Nat.zero_lt_succ 4) program
  refine ⟨padding, hp, ?_⟩
  rw [toBase32, hb]
  exact Codec.regroup_flatMap_append program (by rw [List.length_replicate]; omega)

/-! ## The encoder -/

lemma character_of_lt (hv : value < 32) :
    character value = .ok (charset.getD value.toNat 'q') := by
  have hlt : value.toNat < charset.length := hv
  rw [character, List.getD_eq_getElem?_getD, List.getElem?_eq_getElem hlt]
  rfl

/-- For every human-readable part and program the encoder returns an address. It consists of
the part, the separator and the characters of five-bit symbols: version 0, the program's
symbols and the checksum. The symbols have the checksum constant, and the program's symbols
regroup into the program with fewer than five bits of zero padding. -/
theorem encodeSegwitV0_wellFormed (hrp : String) (program : Bytes) :
    let data := 0 :: toBase32 program
    let symbols := data ++ checksum (utf8 hrp) data
    encodeSegwitV0 hrp program =
        .ok (hrp ++ "1" ++ String.ofList (symbols.map fun v => charset.getD v.toNat 'q')) ∧
      (∀ value ∈ symbols, value < 32) ∧
      polymod (hrpExpand (utf8 hrp) ++ data ++ checksum (utf8 hrp) data) = 1 ∧
      ∃ padding < 5, regroup ((toBase32 program).flatMap symbolBits) =
        (program, List.replicate padding false) := by
  intro data symbols
  have hd : ∀ value ∈ data, value < 32 := by
    intro value hv
    obtain rfl | hmem := List.mem_cons.mp hv
    · decide
    · exact regroupFrom_lt 0 0 program value hmem
  have hs : ∀ value ∈ symbols, value < 32 := by
    intro value hv
    obtain hmem | hmem := List.mem_append.mp hv
    · exact hd value hmem
    · obtain ⟨i, _, rfl⟩ := List.mem_map.mp hmem
      exact symbolAt_lt _ _
  have hr : encodeSegwitV0 hrp program =
      .ok (hrp ++ "1" ++ String.ofList (symbols.map fun v => charset.getD v.toNat 'q')) := by
    have hc := Support.except_mapM_eq_map fun value hv =>
      character_of_lt (hs value hv)
    rw [encodeSegwitV0, hc]
    rfl
  exact ⟨hr, hs, polymod_checksum (utf8 hrp) hd, regroup_toBase32 program⟩

/-- The pay-to-witness-public-key-hash address of BIP-173. -/
example : encodeSegwitV0 "bc" [0x75, 0x1e, 0x76, 0xe8, 0x19, 0x91, 0x96, 0xd4, 0x54, 0x94, 0x1c,
    0x45, 0xd1, 0xb3, 0xa3, 0x23, 0xf1, 0x43, 0x3b, 0xd6] =
      .ok "bc1qw508d6qejxtdg4y5r3zarvary0c5xw7kv8f3t4" := by
  decide +kernel

end KrustyKms.Bitcoin.Bech32

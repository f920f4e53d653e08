import KrustyKms.Kms.Strk20
import KrustyKms.Support.Fallible
import Mathlib.Tactic.Ring

/-!
# The range of STRK20 viewing keys

The pool takes keys in `[1, floor(n/2))` for the order `n` of the curve.
-/

namespace KrustyKms.Strk20

open Crypto StarkSigning Support

/-! ## The fold -/

lemma foldLowerHalf_eq (reduced order : ℕ) :
    foldLowerHalf reduced order =
      if reduced < order / 2 then (if reduced = 0 then 1 else reduced)
      else if order - reduced = 0 ∨ order / 2 ≤ order - reduced then 1 else order - reduced := by
  have hh : order >>> 1 = order / 2 := Nat.shiftRight_one order
  simp only [foldLowerHalf, hh]
  by_cases h : reduced < order / 2
  · have hnot : ¬ reduced ≥ order / 2 := by omega
    simp [h, hnot]
  · simp [h]

lemma foldLowerHalf_range (reduced : ℕ) {order : ℕ} (ho : 4 ≤ order) :
    1 ≤ foldLowerHalf reduced order ∧ foldLowerHalf reduced order < order / 2 := by
  rw [foldLowerHalf_eq]
  split_ifs <;> omega

/-- A scalar that is neither zero nor next to half the order is folded to itself or to its
negative. -/
lemma foldLowerHalf_eq_or {reduced order : ℕ} (hlt : reduced < order) (hz : reduced ≠ 0)
    (hf : reduced ≠ order / 2) (hc : reduced ≠ (order + 1) / 2) :
    foldLowerHalf reduced order = reduced ∨ foldLowerHalf reduced order = order - reduced := by
  rw [foldLowerHalf_eq]
  split_ifs <;> omega

/-! ## Scopes -/

lemma canonicalScope_eq_ok [FeltParser] {value label canonical : String}
    (h : canonicalScope value label = .ok canonical) :
    canonical = value ∧ ∃ felt : Felt, felt.toHex = value := by
  rw [canonicalScope, except_bind_eq_ok] at h
  obtain ⟨felt, -, h⟩ := h
  rw [except_ite_throw_eq_ok, not_or, not_not] at h
  obtain ⟨⟨-, hv⟩, hc⟩ := h
  have hc : felt.toHex = canonical := Except.ok.inj hc
  exact ⟨hc.symm.trans hv.symm, felt, hv.symm⟩

lemma strk20ViewingKeyMessageHash_eq_ok [FeltParser] [Keccak256] {chainId poolAddress : String}
    {hash : Felt} (h : strk20ViewingKeyMessageHash chainId poolAddress = .ok hash) :
    (∃ chain : Felt, chain.toHex = chainId) ∧
      starknetKeccak (scopeMessage chainId poolAddress) = hash := by
  rw [strk20ViewingKeyMessageHash, except_bind_eq_ok] at h
  obtain ⟨chain, hc, h⟩ := h
  rw [except_bind_eq_ok] at h
  obtain ⟨pool, hp, h⟩ := h
  obtain ⟨rfl, hf⟩ := canonicalScope_eq_ok hc
  obtain ⟨rfl, -⟩ := canonicalScope_eq_ok hp
  exact ⟨hf, Except.ok.inj h⟩

lemma colon_not_mem_toHex (felt : Felt) : ':' ∉ felt.toHex.toList := by
  intro hmem
  have ht : felt.toHex.toList = '0' :: 'x' :: Nat.toDigits 16 felt.val :=
    toList_numeral (Nat.toDigits 16 felt.val)
  rw [ht, List.mem_cons, List.mem_cons] at hmem
  obtain hc | hc | hc := hmem
  · exact absurd hc (by decide)
  · exact absurd hc (by decide)
  · exact absurd (Codec.isHexDigit_of_mem_toDigits hc) (by decide)

lemma takeWhile_message {chain pool : String} (hch : ':' ∉ chain.toList) :
    (chain ++ ":" ++ pool).toList.takeWhile (· != ':') = chain.toList := by
  have hall : ∀ c ∈ chain.toList, (c != ':') = true := by
    intro c hc
    rw [bne_iff_ne]
    exact fun hcl => hch (hcl ▸ hc)
  rw [String.toList_append, String.toList_append, List.append_assoc]
  exact (List.takeWhile_append_of_pos hall).trans (List.append_nil _)

lemma scopeMessage_injective {chain chain' pool pool' : String} (hc : ':' ∉ chain.toList)
    (hc' : ':' ∉ chain'.toList)
    (h : scopeMessage chain pool = scopeMessage chain' pool') : chain = chain' ∧ pool = pool' := by
  have ht := utf8_injective h
  have hl : chain.toList = chain'.toList := by
    rw [← takeWhile_message hc, ht, takeWhile_message hc']
  obtain rfl := String.toList_inj.mp hl
  refine ⟨rfl, String.toList_inj.mp ?_⟩
  have hr : (chain ++ ":").toList ++ pool.toList = (chain ++ ":").toList ++ pool'.toList := by
    rw [← String.toList_append, ← String.toList_append, ht]
  exact List.append_cancel_left hr

/-! ## The derivations -/

lemma val_natCast_of_le_half {n : ℕ} (h : n ≤ curveOrder / 2) : ((n : ℕ) : Felt).val = n := by
  have ho := curveOrder_lt_fieldPrime
  exact ZMod.val_natCast_of_lt (by omega)

lemma deriveStrk20ViewingKey_range [Keccak256] [Pedersen] (privateKey : Felt) :
    1 ≤ (deriveStrk20ViewingKey privateKey).val ∧
      (deriveStrk20ViewingKey privateKey).val ≤ curveOrder / 2 ∧
      ((deriveStrk20ViewingKey privateKey).val = curveOrder / 2 ↔
        (Pedersen.hash (starknetKeccak (utf8 strk20ViewingKeyDomain)) privateKey).val %
          (curveOrder / 2) = curveOrder / 2 - 1) := by
  have hpos : 0 < curveOrder / 2 := by decide
  have hmod := Nat.mod_lt
    (Pedersen.hash (starknetKeccak (utf8 strk20ViewingKeyDomain)) privateKey).val hpos
  have hval : (deriveStrk20ViewingKey privateKey).val =
      (Pedersen.hash (starknetKeccak (utf8 strk20ViewingKeyDomain)) privateKey).val %
        (curveOrder / 2) + 1 :=
    val_natCast_of_le_half hmod
  rw [hval]
  omega

lemma foldStrk20ViewingKey_range [StarkEcdsa] [Poseidon] {publicKey messageHash r s key : Felt}
    (h : foldStrk20ViewingKey publicKey messageHash r s = .ok key) :
    1 ≤ key.val ∧ key.val < curveOrder / 2 := by
  rw [foldStrk20ViewingKey, except_bind_eq_ok] at h
  obtain ⟨valid, -, h⟩ := h
  rw [except_ite_throw_eq_ok] at h
  obtain ⟨-, hkey⟩ := h
  obtain rfl := Except.ok.inj hkey
  have hr := foldLowerHalf_range ((poseidonHashMany [r, s]).val % curveOrder)
    (by decide : 4 ≤ curveOrder)
  rw [val_natCast_of_le_half hr.2.le]
  exact hr

lemma deriveScopedStrk20ViewingKey_range [FeltParser] [Keccak256] [StarknetCrypto] [StarkEcdsa]
    [Poseidon] {fuel : ℕ} {privateKey key : Felt} {chainId poolAddress : String}
    (h : deriveScopedStrk20ViewingKey fuel privateKey chainId poolAddress = some (.ok key)) :
    1 ≤ key.val ∧ key.val < curveOrder / 2 := by
  unfold deriveScopedStrk20ViewingKey at h
  split at h
  · cases h
  · split at h
    · cases h
    · cases h
    · exact foldStrk20ViewingKey_range (Option.some.inj h)

/-- Scoped viewing keys are in the pool's range and unscoped ones at most half the order, which
they reach at one residue of the hash. The fold takes every scalar that is not zero or next to
half the order into the range, to itself or its negative modulo the order. A message hash
determines its chain and pool, where no two of the hashed messages collide. -/
theorem viewingKeys_range [FeltParser] [Keccak256] [Pedersen] [StarknetCrypto] [StarkEcdsa]
    [Poseidon] {T : Set Bytes} (hinj : Set.InjOn starknetKeccak T) :
    (∀ privateKey : Felt, 1 ≤ (deriveStrk20ViewingKey privateKey).val ∧
      (deriveStrk20ViewingKey privateKey).val ≤ curveOrder / 2 ∧
      ((deriveStrk20ViewingKey privateKey).val = curveOrder / 2 ↔
        (Pedersen.hash (starknetKeccak (utf8 strk20ViewingKeyDomain)) privateKey).val %
          (curveOrder / 2) = curveOrder / 2 - 1)) ∧
    (∀ fuel privateKey chainId poolAddress key,
      deriveScopedStrk20ViewingKey fuel privateKey chainId poolAddress = some (.ok key) →
        1 ≤ key.val ∧ key.val < curveOrder / 2) ∧
    (∀ x : ℕ, x % curveOrder ≠ 0 → x % curveOrder ≠ curveOrder / 2 →
      x % curveOrder ≠ (curveOrder + 1) / 2 →
        1 ≤ foldLowerHalf (x % curveOrder) curveOrder ∧
        foldLowerHalf (x % curveOrder) curveOrder < curveOrder / 2 ∧
        ((foldLowerHalf (x % curveOrder) curveOrder : ZMod curveOrder) = x ∨
          (foldLowerHalf (x % curveOrder) curveOrder : ZMod curveOrder) = -x)) ∧
    ∀ chainId poolAddress chainId' poolAddress' hash,
      scopeMessage chainId poolAddress ∈ T → scopeMessage chainId' poolAddress' ∈ T →
      strk20ViewingKeyMessageHash chainId poolAddress = .ok hash →
      strk20ViewingKeyMessageHash chainId' poolAddress' = .ok hash →
        chainId = chainId' ∧ poolAddress = poolAddress' := by
  refine ⟨deriveStrk20ViewingKey_range, fun _ _ _ _ _ => deriveScopedStrk20ViewingKey_range,
    ?_, ?_⟩
  · intro x hz hfl hc
    have hlt : x % curveOrder < curveOrder := Nat.mod_lt x (by decide)
    obtain ⟨hlow, hh⟩ := foldLowerHalf_range (x % curveOrder) (by decide : 4 ≤ curveOrder)
    refine ⟨hlow, hh, ?_⟩
    obtain hf | hf := foldLowerHalf_eq_or hlt hz hfl hc
    · left
      rw [hf, ZMod.natCast_mod]
    · right
      rw [hf, Nat.cast_sub hlt.le, ZMod.natCast_mod, ZMod.natCast_self, zero_sub]
  · intro chainId poolAddress chainId' poolAddress' hash hmem hm' h h'
    obtain ⟨⟨chain, rfl⟩, hhs⟩ := strk20ViewingKeyMessageHash_eq_ok h
    obtain ⟨⟨chain', rfl⟩, hh'⟩ := strk20ViewingKeyMessageHash_eq_ok h'
    exact scopeMessage_injective (colon_not_mem_toHex chain) (colon_not_mem_toHex chain')
      (hinj hmem hm' (hhs.trans hh'.symm))

/-! ## A private key on Sepolia -/

section Sample

@[reducible] def sampleKeccak : Keccak256 := tableKeccak256 [
  (utf8 strk20ViewingKeyDomain,
    0xeeda93d6437c3a6366d206b66d62846f06a35c1751250d74d4fd1b2c68838d41),
  (scopeMessage "0x534e5f5345504f4c4941" "0x123",
    0x1e5f6d9a2f694e347c03f089187e46427c4d777687922b37fdc7b4830b981db5),
  (scopeMessage "0x534e5f4d41494e" "0x123",
    0x4f747d69f307a682031437f65b1566fff50fde0af4ac58e6a52722b4a0e65460)]

def sampleHash : Felt := 0x25f6d9a2f694e347c03f089187e46427c4d777687922b37fdc7b4830b981db5

def sampleR : Felt := 0x59c4643a9c3d78ba59ec220d745de6ad9217d8f0868503f30d0c45b4a1e76bf

def sampleS : Felt := 0x563420cd633fbc641c69a77545ad5d4a37cadd1681076e97563a77a1abdaa3c

@[reducible] def sampleCrypto : StarknetCrypto := ⟨fun _ => gX⟩

@[reducible] def sampleEcdsa : StarkEcdsa where
  rfc6979GenerateK _ _ _ := 0x662acc52697328d90013be8c7004f468f736f9ef30c665614082b9cbf6b3822
  sign _ _ _ := .ok (sampleR, sampleS)
  verify publicKey hash r s :=
    .ok (publicKey = gX ∧ hash = sampleHash ∧ r = sampleR ∧ s = sampleS)

@[reducible] def samplePoseidon : Poseidon := tablePoseidon [
  ([sampleR, sampleS], 0x58351c0087fef4513f0d63f36bbdf336a3f483b5d8163e1119c54754d438e7c)]

@[reducible] def samplePedersen : Pedersen := tablePedersen [
  ((0x2da93d6437c3a6366d206b66d62846f06a35c1751250d74d4fd1b2c68838d41, 1),
    0x58c6e892dbe125f16102d8c69a3adc9a5ccfd10113f0f13259f7dd9fff7e09b)]

attribute [local instance] numeralParser sampleKeccak sampleCrypto sampleEcdsa samplePoseidon
  samplePedersen

lemma sampleKeccak_injOn :
    Set.InjOn starknetKeccak {scopeMessage "0x534e5f5345504f4c4941" "0x123",
      scopeMessage "0x534e5f4d41494e" "0x123"} := by
  rw [Set.injOn_pair]
  intro h
  exact absurd h (by decide +kernel)

/-- The known answers for the private key 1 are in the range, the scoped one on Sepolia, and its
message hash is that of this chain only. -/
theorem sepoliaKey_range :
    deriveStrk20ViewingKey 1 =
        0x18c6e892dbe125696102d8c69a3adc9ca0c73d92bcb35fa166c2cb92914ba05 ∧
      (deriveStrk20ViewingKey 1).val ≤ curveOrder / 2 ∧
      deriveScopedStrk20ViewingKey 1 1 "0x534e5f5345504f4c4941" "0x123" =
        some (.ok 0x27cae3ff78010cbec0f29c0c94420cc4d41ca326d664e510cca4dcc6082beb3) ∧
      (0x27cae3ff78010cbec0f29c0c94420cc4d41ca326d664e510cca4dcc6082beb3 : Felt).val <
        curveOrder / 2 ∧
      strk20ViewingKeyMessageHash "0x534e5f5345504f4c4941" "0x123" = .ok sampleHash ∧
      strk20ViewingKeyMessageHash "0x534e5f4d41494e" "0x123" ≠ .ok sampleHash := by
  obtain ⟨hu, hs, -, hm⟩ := viewingKeys_range sampleKeccak_injOn
  have hkey : deriveScopedStrk20ViewingKey 1 1 "0x534e5f5345504f4c4941" "0x123" =
      some (.ok 0x27cae3ff78010cbec0f29c0c94420cc4d41ca326d664e510cca4dcc6082beb3) := by
    decide +kernel
  have hh : strk20ViewingKeyMessageHash "0x534e5f5345504f4c4941" "0x123" = .ok sampleHash := by
    decide +kernel
  refine ⟨by decide +kernel, (hu 1).2.1, hkey, (hs _ _ _ _ _ hkey).2, hh, ?_⟩
  intro ho
  obtain ⟨hc, -⟩ := hm _ _ _ _ _ (.inl rfl) (.inr rfl) hh ho
  exact absurd hc (by decide)

end Sample

end KrustyKms.Strk20

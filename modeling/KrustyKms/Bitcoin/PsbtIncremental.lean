import KrustyKms.Bitcoin.PsbtSigned

/-!
# Signing a PSBT in parts

Every later call parses and checks what an earlier one wrote, so the emitted
signature has to pass the rules that the signer itself enforces
(`Signable.put`, `Psbt.WellFormed.signed`).
-/

namespace KrustyKms.Bitcoin

open Codec Codec.Parser Reader Support

section Parts
variable [Sha256] [BitcoinHashes] [K256] [Target]

variable {signer : P2wpkhSigner} {out psbtBase64 : String} {I : List UInt32}

lemma Signable.put {tx : Transaction} {index : ℕ} {map : Map}
    {utxo : TxOut} {sighash : Vector UInt8 32} {signature : Bytes}
    (hs : Signable signer tx index map utxo) (h : signer.signSighashAll sighash = .ok signature) :
    Signable signer tx index (putPartialSignature map signer.publicKey signature) utxo := by
  rcases signSighashAll_eq_ok h with ⟨ecdsa, rfl⟩
  refine ⟨?_, ?_, ?_, ?_, hs.script, ?_⟩
  · intro pair hp
    rcases mem_putPartialSignature hp with hp | hp
    · exact hs.fields pair hp
    · rw [hp]
      exact ⟨(2, signer.publicKey.toList), (keyBytes_small 2 (by decide) _).symm, rfl⟩
  · rw [find_putPartialSignature]
    exact hs.sighashType
  · -- the added signature ends in SIGHASH_ALL as the others do
    have ho := hs.partialSigs
    unfold hasPartialSignatureOtherThanAll at ho ⊢
    rw [List.any_eq_false] at ho ⊢
    intro pair hp
    rcases mem_putPartialSignature hp with hp | hp
    · exact ho pair hp
    · rw [hp]
      simp
  · rw [find_putPartialSignature]
    exact hs.witnessUtxo
  · rw [find_putPartialSignature]
    exact hs.spent

lemma signMap_fixed {tx : Transaction} (index : ℕ) (map map' : Map)
    (h : signMap signer tx index map = .ok map') : signMap signer tx index map' = .ok map' := by
  rcases signMap_eq_ok.mp h with ⟨utxo, input, signature, hsg, hin, hs, hput⟩
  rw [hput]
  exact signMap_eq_ok.mpr ⟨utxo, input, signature, hsg.put hs, hin, hs,
    (putPartialSignature_idem map signer.publicKey signature).symm⟩

/-- The text decodes to at most the 4 MiB that the signer reads. -/
def WithinLimit [Base64] (psbtBase64 : String) : Prop :=
  ∃ bytes, Base64.decode psbtBase64 = .ok bytes ∧ bytes.length ≤ maxPsbtBytes

lemma signWith_encode_eq_ok [Base64] (hb : LawfulBase64) {psbt : Psbt}
    (hwf : psbt.WellFormed) (hl : WithinLimit (Base64.encode psbt.serialize))
    {inputIndices : List UInt32} :
    signWith signer (Base64.encode psbt.serialize) inputIndices = .ok out ↔
      (inputIndices ≠ [] ∧ (∀ index ∈ inputIndices, index.toNat < psbt.inputs.length) ∧
        inputIndices.Nodup) ∧
      ∃ inputs, updateAll (signMap signer psbt.unsignedTx) outOfRange
          (inputIndices.map UInt32.toNat) psbt.inputs = .ok inputs ∧
        out = Base64.encode { psbt with inputs }.serialize := by
  have hd : decodeBounded (Base64.encode psbt.serialize) = .ok psbt.serialize := by
    rcases hl with ⟨bytes, hby, hlen⟩
    rw [hb.decode_encode] at hby
    injection hby with hby
    subst hby
    exact decodeBounded_encode hb hlen
  have hpr : Psbt.parse psbt.serialize = .ok psbt := Psbt.parse_eq_ok.mpr ⟨rfl, hwf⟩
  rw [signWith_eq_ok]
  constructor
  · intro h
    rcases h with ⟨bytes, psbt', inputs, hby, hp, hin, hip, hout⟩
    rw [hd] at hby
    injection hby with hby
    subst hby
    rw [hpr] at hp
    injection hp with hp
    subst hp
    exact ⟨hin, inputs, hip, hout⟩
  · intro h
    rcases h with ⟨hin, inputs, hip, hout⟩
    exact ⟨_, psbt, inputs, hd, hpr, hin, hip, hout⟩

/-- Signing the inputs `I` and then the inputs `J` of the result is signing both in
one call, as long as the result in between can be read. -/
lemma signWith_append [Base64] (hk : LawfulK256) (hb : LawfulBase64)
    {J : List UInt32} (hI : I ≠ []) (hJ : J ≠ []) (hn : (I ++ J).Nodup)
    (hl : ∀ out, signWith signer psbtBase64 I = .ok out → WithinLimit out) (out : String) :
    (signWith signer psbtBase64 I >>= fun mid => signWith signer mid J) = .ok out ↔
      signWith signer psbtBase64 (I ++ J) = .ok out := by
  have hni := nodup_map_toNat.mpr (List.nodup_append.mp hn).1
  rw [except_bind_eq_ok]
  constructor
  · intro h
    rcases h with ⟨mid, hmid, h⟩
    have hm := hl mid hmid
    rcases signWith_eq_ok.mp hmid with
      ⟨bytes, psbt, inputs, hby, hp, ⟨_, hri, _⟩, hip, hout⟩
    subst hout
    -- the second call reads back the very PSBT that the first one wrote
    have hs := (Psbt.parse_eq_ok.mp hp).2.signed hk hni hip
    rcases (signWith_encode_eq_ok hb hs hm).mp h with
      ⟨⟨_, hr, _⟩, inputs', hi', ho'⟩
    rw [updateAll_length hip] at hr
    refine signWith_eq_ok.mpr ⟨bytes, psbt, inputs', hby, hp, ⟨by simp [hI], ?_, hn⟩,
      ?_, ho'⟩
    · intro index hin
      rcases List.mem_append.mp hin with hin | hin
      · exact hri index hin
      · exact hr index hin
    · rw [List.map_append]
      exact updateAll_append_eq_ok.mpr ⟨inputs, hip, hi'⟩
  · intro h
    rcases signWith_eq_ok.mp h with
      ⟨bytes, psbt, inputs', hby, hp, ⟨_, hrn, _⟩, hi', ho'⟩
    -- the one loop over both lists is the loop over `I`, then the loop over `J`
    rw [List.map_append, updateAll_append_eq_ok] at hi'
    rcases hi' with ⟨inputs, hip, hi'⟩
    have hmid : signWith signer psbtBase64 I =
        .ok (Base64.encode { psbt with inputs }.serialize) :=
      signWith_eq_ok.mpr ⟨bytes, psbt, inputs, hby, hp,
        ⟨hI, fun index hin => hrn index (List.mem_append_left _ hin),
          (List.nodup_append.mp hn).1⟩, hip, rfl⟩
    have hs := (Psbt.parse_eq_ok.mp hp).2.signed hk hni hip
    refine ⟨_, hmid, (signWith_encode_eq_ok hb hs (hl _ hmid)).mpr
      ⟨⟨hJ, ?_, (List.nodup_append.mp hn).2.1⟩, inputs', hi', ho'⟩⟩
    intro index hin
    rw [updateAll_length hip]
    exact hrn index (List.mem_append_right _ hin)

lemma signWith_perm [Base64] {I' : List UInt32}
    (hp : I.Perm I') (h : signWith signer psbtBase64 I = .ok out) :
    signWith signer psbtBase64 I' = .ok out := by
  rcases signWith_eq_ok.mp h with
    ⟨bytes, psbt, inputs, hb, hps, ⟨hne, hr, hn⟩, hin, hout⟩
  refine signWith_eq_ok.mpr ⟨bytes, psbt, inputs, hb, hps, ⟨?_, ?_, ?_⟩, ?_, hout⟩
  · intro hnil
    rw [hnil] at hp
    exact hne hp.eq_nil
  · intro index hid
    exact hr index (hp.mem_iff.mpr hid)
  · exact hp.nodup_iff.mp hn
  · exact (updateAll_perm (nodup_map_toNat.mpr hn)
      (hp.map UInt32.toNat)).mp hin

lemma signWith_again [Base64] (hk : LawfulK256) (hb : LawfulBase64)
    (h : signWith signer psbtBase64 I = .ok out) (hl : WithinLimit out) :
    signWith signer out I = .ok out := by
  rcases signWith_eq_ok.mp h with
    ⟨bytes, psbt, inputs, hby, hp, ⟨hne, hr, hn⟩, hin, hout⟩
  have hn' := nodup_map_toNat.mpr hn
  have hs := (Psbt.parse_eq_ok.mp hp).2.signed hk hn' hin
  subst hout
  refine (signWith_encode_eq_ok hb hs hl).mpr ⟨⟨hne, ?_, hn⟩, inputs, ?_, rfl⟩
  · intro index hid
    rw [updateAll_length hin]
    exact hr index hid
  · exact updateAll_fixed hn' signMap_fixed hin

/-- Signing in two parts is signing at once, the order of the listed inputs does
not matter, and signing again changes nothing; what has to be read back has to
be within the size limit. -/
theorem signWith_incremental [Base64] (hsigner : LawfulK256) (hbase64 : LawfulBase64)
    (signer : P2wpkhSigner) (psbtBase64 : String) (I J : List UInt32) (hneI : I ≠ [])
    (hneJ : J ≠ []) (hnodupI : I.Nodup) (hnodupJ : J.Nodup) (hdisjoint : I.Disjoint J) :
    ((∀ out, signWith signer psbtBase64 I = .ok out → WithinLimit out) →
      (signWith signer psbtBase64 I >>= fun mid => signWith signer mid J).toOption =
        (signWith signer psbtBase64 (I ++ J)).toOption) ∧
    (∀ I', I.Perm I' →
      (signWith signer psbtBase64 I').toOption = (signWith signer psbtBase64 I).toOption) ∧
    (∀ out, signWith signer psbtBase64 I = .ok out → WithinLimit out →
      signWith signer out I = .ok out) := by
  refine ⟨?_, ?_, ?_⟩
  · intro hwithin
    apply except_toOption_congr
    exact signWith_append hsigner hbase64 hneI hneJ (hnodupI.append hnodupJ hdisjoint) hwithin
  · intro I' hperm
    apply except_toOption_congr
    intro out
    exact ⟨signWith_perm hperm.symm, signWith_perm hperm⟩
  · intro out h hwithin
    exact signWith_again hsigner hbase64 h hwithin

end Parts

section Sample
attribute [local instance] target64 Reference.sha256 Reference.bitcoinHashes coinK256
  standardBase64

def firstSignedPsbt : Psbt :=
  { spendPsbt with inputs := [signedCoinMap 100000 false, coinMap 200000] }

lemma firstSigned : updateAll (signMap coinSigner spendTx) outOfRange [0] spendPsbt.inputs =
    .ok firstSignedPsbt.inputs ∧ firstSignedPsbt.serialize.length = 542 := by
  decide +kernel

/-- The two inputs of `spendPsbt`, one after the other. -/
theorem spendPsbt_incremental :
    (signWith coinSigner (Base64.encode spendPsbt.serialize) [0] >>=
      fun mid => signWith coinSigner mid [1]).toOption =
        (signWith coinSigner (Base64.encode spendPsbt.serialize) [0, 1]).toOption := by
  have hmid : signWith coinSigner (Base64.encode spendPsbt.serialize) [0] =
      .ok (Base64.encode firstSignedPsbt.serialize) := by
    rw [signWith_eq_ok]
    exact ⟨_, spendPsbt, _, decodeBounded_spendPsbt, parse_spendPsbt,
      ⟨by simp, by simp [spendPsbt], by simp⟩, firstSigned.1, rfl⟩
  refine (signWith_incremental coinK256_lawful standardBase64_standard.lawful coinSigner _ [0] [1]
    (by decide) (by decide) (by decide) (by decide) (by simp)).1 ?_
  intro out hout
  rw [hmid] at hout
  injection hout with hout
  subst hout
  exact ⟨_, standardBase64_standard.lawful.decode_encode _, by rw [firstSigned.2]; decide⟩

/-! ## A signed PSBT that is too large to be signed again -/

def Psbt.withGlobal (psbt : Psbt) (pair : Pair) : Psbt :=
  { psbt with global := psbt.global ++ [pair] }

lemma Psbt.length_serialize_withGlobal (psbt : Psbt) (pair : Pair) :
    (psbt.withGlobal pair).serialize.length = psbt.serialize.length +
      (writeVarBytes pair.key).length + (writeVarBytes pair.value).length := by
  rw [serialize_eq, serialize_eq]
  simp only [withGlobal, serializeMap, List.flatMap_append, List.flatMap_cons, List.flatMap_nil,
    List.length_append, List.append_nil]
  omega

/-- An unknown global field that fills `spendPsbt` up to the 4 MiB limit. -/
def padding : Pair := ⟨[0xf0], List.replicate 4193862 0⟩

lemma length_writeVarBytes_padding : (writeVarBytes padding.value).length = 4193867 := by
  unfold writeVarBytes
  rw [show padding.value = List.replicate 4193862 0 from rfl, List.length_append,
    List.length_replicate, writeCompactSize_eq (by decide), if_neg (by decide),
    if_neg (by decide), if_pos (by decide)]
  simp

lemma wellFormed_padded : (spendPsbt.withGlobal padding).WellFormed := by
  have hwf := (Psbt.parse_eq_ok.mp parse_spendPsbt).2
  refine ⟨⟨?_, by decide⟩, hwf.unsignedTx, hwf.inputs_length, hwf.inputs, hwf.checked,
    hwf.outputs_length, hwf.outputs⟩
  intro pair hp
  rcases List.mem_append.mp hp with hp | hp
  · exact hwf.global.pairs pair hp
  · rw [List.mem_singleton] at hp
    subst hp
    refine ⟨(0xf0, []), (keyBytes_small 0xf0 (by decide) []).symm, by decide, ?_, rfl⟩
    rw [show padding.value = List.replicate 4193862 0 from rfl, List.length_replicate]
    decide

lemma decodeBounded_too_large (bytes : Bytes) (h : maxPsbtBytes < bytes.length) :
    ∃ e, decodeBounded (Base64.encode bytes) = .error e := by
  unfold decodeBounded
  simp only [standardBase64_standard.lawful.decode_encode]
  split_ifs
  · exact ⟨_, rfl⟩
  · exact ⟨_, rfl⟩

/-- A PSBT of 4 MiB can be signed but grows beyond the limit, so that the signer
does not read it again. -/
theorem signWith_again_too_large :
    signWith coinSigner (Base64.encode (spendPsbt.withGlobal padding).serialize) [0] =
        .ok (Base64.encode (firstSignedPsbt.withGlobal padding).serialize) ∧
      signWith coinSigner (Base64.encode (firstSignedPsbt.withGlobal padding).serialize) [0] ≠
        .ok (Base64.encode (firstSignedPsbt.withGlobal padding).serialize) := by
  have hmax : maxPsbtBytes = 4194304 := rfl
  have hkey : (writeVarBytes padding.key).length = 2 := by decide
  have hl := spendPsbt.length_serialize_withGlobal padding
  rw [length_writeVarBytes_padding, hkey, spendPsbt_serialized.2] at hl
  -- the signature adds 107 bytes, and the padding left no room for them
  have hl' := firstSignedPsbt.length_serialize_withGlobal padding
  rw [length_writeVarBytes_padding, hkey, firstSigned.2] at hl'
  refine ⟨?_, ?_⟩
  · rw [signWith_eq_ok]
    refine ⟨_, spendPsbt.withGlobal padding, _,
      decodeBounded_encode standardBase64_standard.lawful (by omega),
      Psbt.parse_eq_ok.mpr ⟨rfl, wellFormed_padded⟩,
      ⟨by simp, by simp [Psbt.withGlobal, spendPsbt], by simp⟩, firstSigned.1, rfl⟩
  · intro h
    rcases signWith_eq_ok.mp h with ⟨bytes, _, _, hb, _⟩
    rcases decodeBounded_too_large (firstSignedPsbt.withGlobal padding).serialize (by omega) with
      ⟨e, he⟩
    rw [he] at hb
    cases hb

end Sample

end KrustyKms.Bitcoin

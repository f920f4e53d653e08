import KrustyKms.Bitcoin.PsbtSigning
import KrustyKms.Codec.Base64

/-!
# What a signed PSBT guarantees

* `signBitcoinPsbtInputs_checks`: a PSBT is only signed where every listed input
  provably spends this key's coin of the amount signed;
* `signWith_frame`: nothing but the listed inputs' own partial signatures changes,
  and the result is a PSBT again.
-/

namespace KrustyKms.Bitcoin

open Codec Codec.Parser Reader Support

section Checks
variable [Sha256] [BitcoinHashes] [K256] [Target]

/-! ## What the crates are relied on for -/

/-- What the signer relies on in the `k256` and `ecdsa` crates: signatures encode
to strict DER and compressed public keys are points. -/
structure LawfulK256 : Prop where
  strictDer : ∀ signature, isStrictDer (K256.toDer signature) = true
  publicKey : ∀ signingKey, isPublicKey (K256.compressedPublicKey signingKey) = true

omit [Sha256] [BitcoinHashes] [K256] [Target] in
lemma decodeBounded_encode [Base64] (hb : LawfulBase64) {bytes : Bytes}
    (h : bytes.length ≤ maxPsbtBytes) : decodeBounded (Base64.encode bytes) = .ok bytes := by
  unfold decodeBounded
  have hl := hb.length_encode bytes
  rw [if_neg (by omega), hb.decode_encode]
  show (if bytes.length > maxPsbtBytes then _ else _) = _
  rw [if_neg (by omega)]

/-! ## What the field table says of an input's pairs -/

omit [Sha256] [BitcoinHashes] [K256] [Target] in
lemma keyBytes_small (keyType : UInt8) (h : keyType.toNat ≤ 0xfc) (keyData : Bytes) :
    keyBytes (keyType.toUInt64, keyData) = keyType :: keyData := by
  unfold keyBytes
  rw [UInt8.toNat_toUInt64, writeCompactSize_eq (by omega), if_pos (by omega)]
  simp

variable {keyData : Bytes} {signer : P2wpkhSigner} {tx : Transaction} {index : ℕ} {map : Map}
  {utxo : TxOut} {pair : Pair}

lemma keyData_nil_of_checkPair {scope : Scope} {keyType : UInt64} {value : Bytes}
    {field : Field} (hl : lookup scope keyType = some field)
    (hkey : ∀ keyData, keyIsValid field.key keyData = keyData.isEmpty)
    (h : checkPair scope keyType keyData value = .ok ()) : keyData = [] := by
  unfold checkPair at h
  rw [hl] at h
  simp only [hkey] at h
  split_ifs at h with _ _ hem
  simpa using hem

/-! ## Only proven coins are signed -/

/-- Input `input` of `tx` was safe to sign: its map `map` proves the coin it spends,
has no field that a plain P2WPKH SIGHASH_ALL spend would not have, and `map'` is
`map` with a signature of the BIP-143 digest of that coin's amount. -/
structure SafelySigned (signer : P2wpkhSigner) (tx : Transaction) (input : TxIn) (map map' : Map) :
    Prop where
  coin : ∃ raw previousTx utxo signature,
    (⟨[inNonWitnessUtxo], raw⟩ : Pair) ∈ map ∧ Transaction.NetworkEncoding previousTx raw ∧
    doubleSha256 previousTx.serializeLegacy = input.previousOutput.txid ∧
    (⟨[inWitnessUtxo], utxo.serializeInto⟩ : Pair) ∈ map ∧
    previousTx.outputs[input.previousOutput.vout.toNat]? = some utxo ∧
    utxo.scriptPubkey = [0x00, 0x14] ++
      (BitcoinHashes.hash160 (K256.compressedPublicKey signer.signingKey)).toList ∧
    signer.signSighashAll (tx.bip143Digest input
      (Transaction.p2wpkhScriptCode signer.pubkeyHash) utxo.value) = .ok signature ∧
    map' = putPartialSignature map signer.publicKey signature
  plain : ∀ pair ∈ map, ∀ keyType keyData, keyParts pair.key = .ok (keyType, keyData) →
    keyType ≠ 4 ∧ keyType ≠ 5 ∧ keyType ≠ 7 ∧ keyType ≠ 8
  sighashType : ∀ pair ∈ map, ∀ keyData, keyParts pair.key = .ok (3, keyData) →
    pair.value = u32LeBytes 1
  partialSigs : ∀ pair ∈ map, ∀ keyData, keyParts pair.key = .ok (2, keyData) →
    pair.value.getLast? = some 0x01

omit [Sha256] [Target] in
lemma P2wpkhSigner.scriptPubkey_eq (signer : P2wpkhSigner) :
    signer.scriptPubkey = [0x00, 0x14] ++
      (BitcoinHashes.hash160 (K256.compressedPublicKey signer.signingKey)).toList := by
  rw [scriptPubkey, signer.pubkeyHash_eq, signer.publicKey_eq]

lemma Signable.keyType_ne (h : Signable signer tx index map utxo) (hp : pair ∈ map)
    {keyType refusedType : UInt64} (hkey : keyParts pair.key = .ok (keyType, keyData))
    {reason : String} (hr : refusedOnListedInput refusedType = some reason) :
    keyType ≠ refusedType := by
  rcases h.fields pair hp with ⟨parts, hpr, ha⟩
  have heq := keyBytes_injective (hpr.symm.trans (keyParts_eq_ok.mp hkey))
  rw [heq] at ha
  intro hs
  rw [hs, hr] at ha
  cases ha

/-- A signable map has the coin spent: the previous transaction, whose txid parsing
has already compared, and its output, which the witness UTXO repeats. -/
lemma Signable.exists_coin {input : TxIn} (h : Signable signer tx index map utxo)
    (hin : tx.inputs[index]? = some input) (hc : InputChecked input map) :
    ∃ raw previousTx,
      (⟨[inNonWitnessUtxo], raw⟩ : Pair) ∈ map ∧ Transaction.NetworkEncoding previousTx raw ∧
      doubleSha256 previousTx.serializeLegacy = input.previousOutput.txid ∧
      (⟨[inWitnessUtxo], utxo.serializeInto⟩ : Pair) ∈ map ∧
      previousTx.outputs[input.previousOutput.vout.toNat]? = some utxo := by
  rcases h.spent with ⟨raw, previousTx, input', hraw, hp, hi', hs⟩
  rw [hin] at hi'
  injection hi' with hi'
  subst hi'
  rcases h.witnessUtxo with ⟨rawUtxo, hu, hpu⟩
  rw [TxOut.parseExact_eq_ok] at hpu
  rw [hpu.1] at hu
  rcases requireSpentTransaction_eq_ok.mp hc.1 raw hraw with ⟨tx', hp', ht, _⟩
  rw [hp] at hp'
  injection hp' with hp'
  subst hp'
  exact ⟨raw, previousTx, mem_of_find hraw, (Transaction.parseNetwork_eq_ok.mp hp).2.2.2,
    ht, mem_of_find hu, hs⟩

lemma Signable.declaredSighash_eq
    (h : Signable signer tx index map utxo) (hok : MapOk .input map)
    (hp : pair ∈ map)
    (hkey : keyParts pair.key = .ok (3, keyData)) : pair.value = u32LeBytes 1 := by
  rcases hok.pairs pair hp with ⟨parts, hpr, _, _, hc⟩
  rw [keyParts_eq_ok] at hkey
  rw [← keyBytes_injective (hkey.symm.trans hpr)] at hc
  have hnil : keyData = [] := keyData_nil_of_checkPair
    (show lookup .input 3 = some (f .input 0x03 "PSBT_IN_SIGHASH_TYPE" .none .u32) from rfl)
    (fun _ => rfl) hc
  have hs : pair.key = [inSighashType] := by
    rw [hkey, hnil]
    exact keyBytes_small 3 (by decide) []
  apply h.sighashType
  apply find_of_mem hok.nodup
  rw [← hs]
  exact hp

lemma Signable.partialSig_getLast (h : Signable signer tx index map utxo)
    (hp : pair ∈ map) (hkey : keyParts pair.key = .ok (2, keyData)) :
    pair.value.getLast? = some 0x01 := by
  rw [keyParts_eq_ok] at hkey
  have hh : pair.key.head? = some inPartialSig := by
    rw [hkey, show keyBytes (2, keyData) = 2 :: keyData from keyBytes_small 2 (by decide) keyData]
    rfl
  by_contra hne
  have hany : hasPartialSignatureOtherThanAll map = true := by
    unfold hasPartialSignatureOtherThanAll
    rw [List.any_eq_true]
    exact ⟨pair, hp, by simp [hh, sighashAll, hne]⟩
  rw [h.partialSigs] at hany
  cases hany

lemma SafelySigned.of_signable {input : TxIn} {signature : Bytes}
    (h : Signable signer tx index map utxo) (hok : MapOk .input map)
    (hin : tx.inputs[index]? = some input) (hc : InputChecked input map)
    (hs : signer.signSighashAll (tx.bip143Digest input
    (Transaction.p2wpkhScriptCode signer.pubkeyHash) utxo.value) = .ok signature) :
    SafelySigned signer tx input map (putPartialSignature map signer.publicKey signature) := by
  refine ⟨?_, ?_, ?_, ?_⟩
  · rcases h.exists_coin hin hc with
      ⟨raw, previousTx, hraw, hen, ht, hu, hsp⟩
    exact ⟨raw, previousTx, utxo, signature, hraw, hen, ht, hu, hsp,
      h.script.trans signer.scriptPubkey_eq, hs, rfl⟩
  · intro pair hp keyType keyData hkey
    exact ⟨h.keyType_ne hp hkey rfl, h.keyType_ne hp hkey rfl,
      h.keyType_ne hp hkey rfl, h.keyType_ne hp hkey rfl⟩
  · intro pair hp keyData hkey
    exact h.declaredSighash_eq hok hp hkey
  · intro pair hp keyData hkey
    exact h.partialSig_getLast hp hkey

/-- A PSBT is only signed where every listed input provably spends this key's
P2WPKH coin, and what is signed is the BIP-143 digest of that coin's amount. -/
theorem signBitcoinPsbtInputs_checks [Base64] {privateKey : Vector UInt8 32}
    {psbtBase64 : String} {inputIndices : List UInt32} {out : String}
    (h : signBitcoinPsbtInputs privateKey psbtBase64 inputIndices = .ok out) :
    ∃ (signer : P2wpkhSigner) (bytes : Bytes) (psbt signed : Psbt),
      P2wpkhSigner.new privateKey = .ok signer ∧
      decodeBounded psbtBase64 = .ok bytes ∧ Psbt.parse bytes = .ok psbt ∧
      out = Base64.encode signed.serialize ∧
      ∀ index ∈ inputIndices, ∃ input map map',
        psbt.unsignedTx.inputs[index.toNat]? = some input ∧
        psbt.inputs[index.toNat]? = some map ∧ signed.inputs[index.toNat]? = some map' ∧
        SafelySigned signer psbt.unsignedTx input map map' := by
  unfold signBitcoinPsbtInputs at h
  rw [except_bind_eq_ok] at h
  rcases h with ⟨signer, hs, h⟩
  rw [signWith_eq_ok] at h
  rcases h with ⟨bytes, psbt, inputs, hb, hp, ⟨_, _, hn⟩, hip, hout⟩
  refine ⟨signer, bytes, psbt, { psbt with inputs }, hs, hb, hp, hout, ?_⟩
  intro index hid
  rw [updateAll_eq_ok (nodup_map_toNat.mpr hn)] at hip
  rcases hip.1 index.toNat (List.mem_map.mpr ⟨index, hid, rfl⟩) with
    ⟨map, map', hmap, hsg, hm'⟩
  rcases signMap_eq_ok.mp hsg with ⟨utxo, input, signature, hsi, hin, hsn, hput⟩
  have hwf := (Psbt.parse_eq_ok.mp hp).2
  refine ⟨input, map, map', hin, hmap, hm', ?_⟩
  rw [hput]
  exact .of_signable hsi (hwf.inputs map (List.mem_of_getElem? hmap)) hin
    (hwf.inputChecked hin hmap) hsn

end Checks

/-! ## A PSBT that spends both outputs of `coinTx` -/

def coinPrivateKey : Vector UInt8 32 :=
  beVector 32 0x4604b4b710fe91f584fff084e1a9159fe4f8408fff380596a604948474ce4fa3

def coinPublicKey : Vector UInt8 33 :=
  beVector 33 0x0330d54fd0dd420a6e5f8d3624f5f3482cae350f79d5f0753bf5beef9c2d91af3c

/-- The two halves of the signatures; `true` is the second. -/
def coinSignature : Bool → Bytes × Bytes
  | false => (
      beBytes 32 0x3d55b4edadcac142c90b2ceb94460f6e361698d44141e3edea138caf5b806734,
      beBytes 32 0x7d55ecde2ea261bde899aef84d507000443f07ce651c78af891541e512c4a8df)
  | true => (
      beBytes 32 0x19d754d62051d4563ee30ecd8886990b0f7f4581064aae419d05042c6909c54e,
      beBytes 32 0x71818e887ec45ea98aa2a50a82f2311bee46b8820a580aae55152ce3e3d9bff6)

/-- The key that `coinTx` pays and its RFC 6979 signatures of the two digests of
`spendTx`, both low-R and low-S at the first attempt. -/
@[reducible] def coinK256 : K256 where
  SigningKey := Unit
  Signature := Bool
  signingKeyFromSlice key := if key = coinPrivateKey then .ok () else .error "signature error"
  compressedPublicKey _ := coinPublicKey.toList
  signPrehashedRfc6979 _ digest _ := decide
    (digest = beVector 32 0x2441c55943f40c51952c36250664319c3cf09e942daf430b44fa79d0dd2fc25c)
  normalizeS signature := signature
  toBytes second := (coinSignature second).1 ++ (coinSignature second).2
  toDer second := [0x30, 0x44, 0x02, 0x20] ++ (coinSignature second).1 ++ [0x02, 0x20] ++
    (coinSignature second).2
  isSec1PublicKey bytes := decide (bytes = coinPublicKey.toList)

section Sample
attribute [local instance] target64 Reference.sha256 Reference.bitcoinHashes coinK256
  standardBase64

def coinMap (amount : UInt64) : Map := [
  ⟨[inNonWitnessUtxo], coinTx.serializeLegacy⟩,
  ⟨[inWitnessUtxo], (TxOut.mk amount ([0x00, 0x14] ++ coinKeyHash.toList)).serializeInto⟩]

def spendPsbt : Psbt where
  global := [⟨[globalUnsignedTx], spendTx.serializeLegacy⟩]
  unsignedTx := spendTx
  inputs := [coinMap 100000, coinMap 200000]
  outputs := [[]]

def coinSigner : P2wpkhSigner where
  signingKey := ()
  publicKey := coinPublicKey
  pubkeyHash := coinKeyHash
  publicKey_eq := rfl
  pubkeyHash_eq := by decide +kernel

def signedCoinMap (amount : UInt64) (second : Bool) : Map :=
  coinMap amount ++ [⟨partialSigKey coinPublicKey, coinK256.toDer second ++ [sighashAll]⟩]

lemma coinK256_lawful : LawfulK256 := by
  refine ⟨?_, ?_⟩
  · show ∀ second : Bool, isStrictDer (coinK256.toDer second) = true
    decide +kernel
  · intro _
    show isPublicKey coinPublicKey.toList = true
    decide +kernel

lemma new_coinSigner : P2wpkhSigner.new coinPrivateKey = .ok coinSigner := by
  have hkey : K256.signingKeyFromSlice coinPrivateKey = .ok () := if_pos rfl
  have hlength : (K256.compressedPublicKey () : Bytes).length = 33 := coinPublicKey.length_toList
  unfold P2wpkhSigner.new
  rw [hkey]
  dsimp only
  rw [dif_pos hlength, Except.ok.injEq, coinSigner, P2wpkhSigner.mk.injEq]
  exact ⟨rfl, rfl, coinSigner.pubkeyHash_eq.symm⟩

lemma spendPsbt_serialized : Psbt.parse spendPsbt.serialize = .ok spendPsbt ∧
    spendPsbt.serialize.length = 435 := by
  decide +kernel

lemma parse_spendPsbt : Psbt.parse spendPsbt.serialize = .ok spendPsbt := spendPsbt_serialized.1

lemma decodeBounded_spendPsbt :
    decodeBounded (Base64.encode spendPsbt.serialize) = .ok spendPsbt.serialize := by
  apply decodeBounded_encode standardBase64_standard.lawful
  rw [spendPsbt_serialized.2]
  decide

lemma eq_spendPsbt {bytes : Bytes} {psbt : Psbt}
    (hb : decodeBounded (Base64.encode spendPsbt.serialize) = .ok bytes)
    (hp : Psbt.parse bytes = .ok psbt) : psbt = spendPsbt := by
  rw [decodeBounded_spendPsbt] at hb
  injection hb with hb
  rw [← hb, parse_spendPsbt] at hp
  injection hp with hp
  exact hp.symm

lemma signWith_spendPsbt : signWith coinSigner (Base64.encode spendPsbt.serialize) [0, 1] =
    .ok (Base64.encode { spendPsbt with
      inputs := [signedCoinMap 100000 false, signedCoinMap 200000 true] }.serialize) := by
  rw [signWith_eq_ok]
  refine ⟨_, spendPsbt, _, decodeBounded_spendPsbt, parse_spendPsbt,
    ⟨by simp, by simp [spendPsbt], by simp⟩, ?_, rfl⟩
  decide +kernel

/-- The first input of `spendPsbt` is one the theorem speaks of. -/
theorem spendPsbt_checked :
    ∃ signer input map map', P2wpkhSigner.new coinPrivateKey = .ok signer ∧
      spendTx.inputs[0]? = some input ∧ SafelySigned signer spendTx input map map' := by
  have h : signBitcoinPsbtInputs coinPrivateKey
      (Base64.encode spendPsbt.serialize) [0, 1] = .ok (Base64.encode { spendPsbt with
        inputs := [signedCoinMap 100000 false, signedCoinMap 200000 true] }.serialize) := by
    unfold signBitcoinPsbtInputs
    rw [except_bind_eq_ok]
    exact ⟨coinSigner, new_coinSigner, signWith_spendPsbt⟩
  rcases signBitcoinPsbtInputs_checks h with
    ⟨signer, bytes, psbt, signed, hs, hb, hp, _, hc⟩
  obtain rfl := eq_spendPsbt hb hp
  rcases hc 0 (by simp) with ⟨input, map, map', hin, _, _, hsf⟩
  exact ⟨signer, input, map, map', hs, hin, hsf⟩

end Sample

/-! ## A signed PSBT is a PSBT again -/

section Frame
variable [Sha256] [BitcoinHashes] [K256] [Target]

omit [Sha256] [BitcoinHashes] [K256] [Target] in
lemma length_le_of_isStrictDer {der : Bytes} (h : isStrictDer der = true) : der.length ≤ 72 := by
  unfold isStrictDer at h
  split at h
  · split_ifs at h with htag hlen
    simp only [Bool.or_eq_true, Bool.not_eq_true', Bool.and_eq_false_iff, decide_eq_true_eq,
      decide_eq_false_iff_not, not_or, not_not] at hlen
    exact hlen.1.2
  · cases h

variable {signer : P2wpkhSigner} {sighash : Vector UInt8 32} {signature : Bytes}

omit [Sha256] [Target] in
lemma signSighashAll_eq_ok (h : signer.signSighashAll sighash = .ok signature) :
    ∃ ecdsa, signature = K256.toDer ecdsa ++ [sighashAll] := by
  unfold P2wpkhSigner.signSighashAll at h
  rw [except_bind_eq_ok] at h
  rcases h with ⟨ecdsa, _, h⟩
  injection h with h
  exact ⟨ecdsa, h.symm⟩

omit [Sha256] [BitcoinHashes] [K256] [Target] in
lemma isSignature_append_sighashAll {der : Bytes} (h : isStrictDer der = true) :
    isSignature (der ++ [sighashAll]) = true := by
  unfold isSignature
  rw [List.getLast?_concat, List.dropLast_concat, h]
  decide

lemma checkPair_partialSig {keyData value : Bytes} (hkey : isPublicKey keyData = true)
    (hv : isSignature value = true) : checkPair .input 2 keyData value = .ok () := by
  unfold checkPair
  rw [if_neg (by decide), if_neg (by decide), show lookup .input 2 =
    some (f .input 0x02 "PSBT_IN_PARTIAL_SIG" .publicKey .signature) from rfl]
  show (if (!isPublicKey keyData) = true then _ else _) = _
  rw [hkey, if_neg (by decide)]
  show (if isSignature value = true then Except.ok () else _) = _
  rw [if_pos hv]

/-- The new pair satisfies the field rules that every later parse applies. -/
lemma pairOk_signature (hk : LawfulK256) (h : signer.signSighashAll sighash = .ok signature) :
    PairOk .input ⟨partialSigKey signer.publicKey, signature⟩ := by
  rcases signSighashAll_eq_ok h with ⟨ecdsa, rfl⟩
  have hder := hk.strictDer ecdsa
  have hs := length_le_of_isStrictDer hder
  have hf : 2 ^ 32 - 1 ≤ usizeMax := le_usizeMax (by decide)
  refine ⟨(2, signer.publicKey.toList), (keyBytes_small 2 (by decide) _).symm, ?_, ?_, ?_⟩
  · simp [partialSigKey]
    omega
  · simp
    omega
  · have hp : isPublicKey signer.publicKey.toList = true := by
      rw [signer.publicKey_eq]
      exact hk.publicKey _
    exact checkPair_partialSig hp (isSignature_append_sighashAll hder)

lemma mapOk_putPartialSignature (hk : LawfulK256) {map : Map} (hok : MapOk .input map)
    (h : signer.signSighashAll sighash = .ok signature) :
    MapOk .input (putPartialSignature map signer.publicKey signature) := by
  refine ⟨?_, nodup_putPartialSignature _ _ hok.nodup⟩
  intro pair hp
  rcases mem_putPartialSignature hp with hp | hp
  · exact hok.pairs pair hp
  · rw [hp]
    exact pairOk_signature hk h

lemma inputChecked_putPartialSignature {tx : Transaction} {index : ℕ}
    {map : Map} {utxo : TxOut} {input : TxIn}
    (hs : Signable signer tx index map utxo) (hc : InputChecked input map)
    (h : signer.signSighashAll sighash = .ok signature) :
    InputChecked input (putPartialSignature map signer.publicKey signature) := by
  rcases signSighashAll_eq_ok h with ⟨ecdsa, rfl⟩
  refine ⟨?_, ?_⟩
  · rw [requireSpentTransaction_eq_ok, find_putPartialSignature]
    exact requireSpentTransaction_eq_ok.mp hc.1
  · rw [requireDeclaredSighash_eq_ok, find_putPartialSignature]
    intro declared hd pair hp hh
    rcases mem_putPartialSignature hp with hp | hp
    · exact requireDeclaredSighash_eq_ok.mp hc.2 declared hd pair hp hh
    · -- a declared type is SIGHASH_ALL, which is what the signature ends in
      rw [hp, hs.sighashType declared hd]
      simp only [List.getLast?_concat]
      rfl

lemma Psbt.WellFormed.signed (hk : LawfulK256) {psbt : Psbt}
    {indices : List ℕ} {inputs : List Map} (hwf : psbt.WellFormed) (hn : indices.Nodup)
    (h : updateAll (signMap signer psbt.unsignedTx) outOfRange indices psbt.inputs = .ok inputs) :
    ({ psbt with inputs } : Psbt).WellFormed := by
  have hl := updateAll_length h
  rw [updateAll_eq_ok hn] at h
  -- a listed map has one more signature, which passes; the others are untouched
  have hec : ∀ (i : ℕ) input map', psbt.unsignedTx.inputs[i]? = some input →
      inputs[i]? = some map' → MapOk .input map' ∧ InputChecked input map' := by
    intro i input map' hin hm'
    by_cases hi : i ∈ indices
    · rcases h.1 i hi with ⟨map, b, hmap, hsg, hb⟩
      rw [hm'] at hb
      injection hb with hb
      subst hb
      rcases signMap_eq_ok.mp hsg with ⟨utxo, _, signature, hsi, _, hs, hput⟩
      rw [hput]
      exact ⟨mapOk_putPartialSignature hk (hwf.inputs map (List.mem_of_getElem? hmap)) hs,
        inputChecked_putPartialSignature hsi (hwf.inputChecked hin hmap) hs⟩
    · rw [h.2 i hi] at hm'
      exact ⟨hwf.inputs map' (List.mem_of_getElem? hm'), hwf.inputChecked hin hm'⟩
  have hip : inputs.length = psbt.unsignedTx.inputs.length := by
    rw [hl, hwf.inputs_length]
  refine ⟨hwf.global, hwf.unsignedTx, hip, ?_, ?_, hwf.outputs_length, hwf.outputs⟩
  · intro map hmap
    rcases List.mem_iff_getElem?.mp hmap with ⟨i, hi⟩
    have hlt : i < psbt.unsignedTx.inputs.length := by
      rw [← hip]
      exact (List.getElem?_eq_some_iff.mp hi).1
    exact (hec i _ map (List.getElem?_eq_getElem hlt) hi).1
  · show checkInputs 0 (psbt.unsignedTx.inputs.zip inputs) = .ok ()
    rw [checkInputs_eq_ok]
    intro each he'
    rcases List.mem_iff_getElem?.mp he' with ⟨i, hi⟩
    rw [List.getElem?_zip_eq_some] at hi
    exact (hec i each.1 each.2 hi.1 hi.2).2

/-- Signing changes only this key's partial signature in the listed input maps,
and the result parses again, to exactly the edited PSBT. -/
theorem signWith_frame [Base64] (hsigner : LawfulK256) (hbase64 : LawfulBase64)
    {signer : P2wpkhSigner} {psbtBase64 : String} {inputIndices : List UInt32} {out : String}
    (h : signWith signer psbtBase64 inputIndices = .ok out) :
    ∃ (bytes : Bytes) (psbt signed : Psbt), decodeBounded psbtBase64 = .ok bytes ∧
      Psbt.parse bytes = .ok psbt ∧ out = Base64.encode signed.serialize ∧
      signed.global = psbt.global ∧ signed.unsignedTx = psbt.unsignedTx ∧
      signed.outputs = psbt.outputs ∧ signed.inputs.length = psbt.inputs.length ∧
      (∀ i, i ∉ inputIndices.map UInt32.toNat → signed.inputs[i]? = psbt.inputs[i]?) ∧
      (∀ i ∈ inputIndices.map UInt32.toNat, ∃ map map' signature,
        psbt.inputs[i]? = some map ∧ signed.inputs[i]? = some map' ∧
        (map.map Pair.key).Nodup ∧
        PutPair (inPartialSig :: signer.publicKey.toList) signature map map') ∧
      Psbt.parse signed.serialize = .ok signed ∧
      (signed.serialize.length ≤ maxPsbtBytes → decodeBounded out = .ok signed.serialize) := by
  rw [signWith_eq_ok] at h
  rcases h with ⟨bytes, psbt, inputs, hbytes, hparse, ⟨_, _, hnodup⟩, hinputs, hout⟩
  have hwf := (Psbt.parse_eq_ok.mp hparse).2
  have hplaces := nodup_map_toNat.mpr hnodup
  have hsigned := hwf.signed hsigner hplaces hinputs
  have hlength := updateAll_length hinputs
  rw [updateAll_eq_ok hplaces] at hinputs
  refine ⟨bytes, psbt, { psbt with inputs }, hbytes, hparse, hout, rfl, rfl, rfl, hlength,
    hinputs.2, ?_, Psbt.parse_eq_ok.mpr ⟨rfl, hsigned⟩, ?_⟩
  · intro i hlisted
    rcases hinputs.1 i hlisted with ⟨map, map', hmap, hsign, hafter⟩
    rcases signMap_eq_ok.mp hsign with ⟨_, _, signature, _, _, _, hput⟩
    refine ⟨map, map', signature, hmap, hafter, ?_, ?_⟩
    · exact (hwf.inputs map (List.mem_of_getElem? hmap)).nodup
    · rw [hput]
      exact putPartialSignature_put map signer.publicKey signature
  · intro hlimit
    rw [hout]
    exact decodeBounded_encode hbase64 hlimit

end Frame

section Sample
attribute [local instance] target64 Reference.sha256 Reference.bitcoinHashes coinK256
  standardBase64

/-- Signed, `spendPsbt` still has its transaction and both inputs, and parses. -/
theorem spendPsbt_frame : ∃ signed : Psbt, signed.unsignedTx = spendTx ∧
    signed.inputs.length = 2 ∧ Psbt.parse signed.serialize = .ok signed := by
  rcases signWith_frame coinK256_lawful standardBase64_standard.lawful signWith_spendPsbt with
    ⟨bytes, psbt, signed, hb, hp, _, _, htx, _, hl, _, _, hpr, _⟩
  obtain rfl := eq_spendPsbt hb hp
  exact ⟨signed, htx, hl, hpr⟩

end Sample

end KrustyKms.Bitcoin

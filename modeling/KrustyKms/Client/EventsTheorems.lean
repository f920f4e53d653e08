import KrustyKms.Client.Events
import KrustyKms.Sdk.SerializationTheorems

/-!
# Balance hints through the chain

A hint is encrypted for the auditor, written into calldata, emitted in an event, read from its
data and decrypted by the auditor.
-/

namespace KrustyKms.Client

open Codec Crypto Sdk StarkCurve Support

/-! ## Felts -/

lemma toList_lowHalf (felt : Felt) : (lowHalf felt).toList = beBytes 16 felt.val := by
  have hd : (Felt.toBytesBe felt).toList.drop 16 = beBytes 16 felt.val := by
    rw [toList_toBytesBe felt (show 16 + 16 = 32 from rfl), List.drop_left' (length_beBytes 16 _)]
  rw [← hd]
  apply List.ext_getElem
  · simp
  · intro i hi hi'
    simp [lowHalf]
    rfl

lemma toList_lowHalf_limbAt {bytes : Bytes} {start : ℕ} (h : start + 16 ≤ bytes.length) :
    (lowHalf (limbAt bytes start)).toList = (bytes.drop start).take 16 := by
  rw [toList_lowHalf, beBytes_val_limbAt h]

/-! ## Hints in events -/

lemma parseAeBalance_serialize (ciphertext : Vector UInt8 64) (nonce : Vector UInt8 24)
    {felts : List Felt} (h : serializeAeBalance ciphertext.toList nonce.toList = .ok felts)
    (before after : List Felt) :
    parseAeBalance (before ++ felts ++ after) before.length = .ok ⟨ciphertext, nonce⟩ := by
  rw [serializeAeBalance_eq, Except.ok.injEq] at h
  have hl : ciphertext.toList.length = 64 := by simp
  have hp : (nonce.toList ++ List.replicate 8 0).length = 32 := by simp
  have hc : lowHalf (limbAt ciphertext.toList 0) ++
      lowHalf (limbAt ciphertext.toList 16) ++ lowHalf (limbAt ciphertext.toList 32) ++
      lowHalf (limbAt ciphertext.toList 48) = ciphertext := by
    apply Vector.toList_inj.mp
    have hend : ciphertext.toList.drop 64 = [] := List.drop_of_length_le (Nat.le_of_eq hl)
    rw [Vector.toList_append, Vector.toList_append, Vector.toList_append,
      toList_lowHalf_limbAt (by omega), toList_lowHalf_limbAt (by omega),
      toList_lowHalf_limbAt (by omega), toList_lowHalf_limbAt (by omega), List.append_assoc,
      List.append_assoc]
    -- Limb by limb from the back.
    have h48 := drop_eq_limb_append ciphertext.toList 48
    have h32 := drop_eq_limb_append ciphertext.toList 32
    have h16 := drop_eq_limb_append ciphertext.toList 16
    have h0 := drop_eq_limb_append ciphertext.toList 0
    rw [hend, List.append_nil] at h48
    rw [← h48, ← h32, ← h16, ← h0, List.drop_zero]
  have hn : lowHalf (limbAt (nonce.toList ++ List.replicate 8 0) 0) ++
      (lowHalf (limbAt (nonce.toList ++ List.replicate 8 0) 16)).take 8 = nonce := by
    apply Vector.toList_inj.mp
    rw [Vector.toList_append, Vector.toList_take, toList_lowHalf_limbAt (by omega),
      toList_lowHalf_limbAt (by omega), List.take_take, List.drop_zero,
      List.drop_append_of_le_length (by simp), List.take_append_of_le_length (by simp),
      List.take_append_of_le_length (by simp),
      List.take_of_length_le (l := nonce.toList.drop 16) (by simp)]
    exact List.take_append_drop 16 nonce.toList
  rw [parseAeBalance, List.append_assoc, List.drop_left, ← h]
  exact congrArg Except.ok (congrArg₂ AEBalance.mk hc hn)

/-! ## Hints and their keys -/

section Hints

variable {Point : Type} [CurvePoint Point] [Sha256] [XChaCha20Poly1305]

/-- The AEAD is exact: it encrypts 16 bytes to as many and a tag of 16, and decryption inverts
encryption under the same key and nonce. -/
structure AeadExact : Prop where
  encrypt_ok : ∀ key nonce (plaintext : Bytes), plaintext.length = 16 →
    ∃ ciphertext, XChaCha20Poly1305.encrypt key nonce plaintext = .ok ciphertext
  length_encrypt : ∀ key nonce (plaintext ciphertext : Bytes),
    XChaCha20Poly1305.encrypt key nonce plaintext = .ok ciphertext →
      ciphertext.length = plaintext.length + 16
  decrypt_encrypt : ∀ key nonce (plaintext ciphertext : Bytes),
    XChaCha20Poly1305.encrypt key nonce plaintext = .ok ciphertext →
      XChaCha20Poly1305.decrypt key nonce ciphertext = .ok plaintext

omit [XChaCha20Poly1305] in
/-- Both sides of the exchange derive the same key, where there is one. -/
lemma deriveSharedSecret_comm (a b : Felt) :
    deriveSharedSecret a (mulGenerator b : Point) =
      deriveSharedSecret b (mulGenerator a : Point) := by
  have hp : mul a (some (mulGenerator b : Point)) = mul b (some (mulGenerator a : Point)) := by
    simp only [mul_eq_smul, mulGenerator_eq_smul]
    exact smul_comm _ _ _
  unfold deriveSharedSecret
  rw [hp]

omit [XChaCha20Poly1305] in
lemma exists_deriveSharedSecret {a : Felt} {P : Point} (h : mul a (some P) ≠ 0) :
    ∃ key, deriveSharedSecret a P = .ok key := by
  obtain ⟨affine, ha⟩ := exists_affine h
  unfold deriveSharedSecret
  dsimp only
  rw [projectiveToAffine_eq_ok.mpr ha]
  exact ⟨_, rfl⟩

omit [Sha256] in
lemma decryptAuditHint_of_encrypt (ha : AeadExact) (nonce : Vector UInt8 24) {balance : ℕ}
    (hb : balance < 2 ^ 128) (key : Vector UInt8 32) :
    ∃ ciphertext, encryptAuditHint nonce balance key = .ok (ciphertext, nonce) ∧
      decryptAuditHint ciphertext nonce key = .ok balance := by
  have hl : (beBytes 16 balance).length = 16 := length_beBytes 16 balance
  obtain ⟨sealed, hs⟩ := ha.encrypt_ok key nonce _ hl
  have hsz := ha.length_encrypt _ _ _ _ hs
  rw [hl] at hsz
  refine ⟨Vector.ofFn fun i => sealed.getD i 0, ?_, ?_⟩
  · unfold encryptAuditHint
    rw [hs]
  · have hf : (Vector.ofFn fun i : Fin 64 => sealed.getD i 0).toList.take 32 = sealed := by
      apply List.ext_getElem
      · simp [hsz]
      · intro i hi hi'
        simp [hi']
    unfold decryptAuditHint
    rw [hf, ha.decrypt_encrypt _ _ _ _ hs]
    dsimp only
    rw [if_neg (by simp), beValue_beBytes_of_lt hb]

/-- A balance goes through the hint, the calldata and the event to the auditor, at any position
of the event. -/
theorem ae_balance_round_trip (haead : AeadExact) (balance : ℕ) (hbalance : balance < 2 ^ 128)
    (userKey auditorKey : Felt) (nonce : Vector UInt8 24)
    (hshared : mul userKey (some (mulGenerator auditorKey)) ≠ (0 : Point))
    (before after : List Felt) :
    ∃ ciphertext felts,
      encryptForAuditor nonce balance userKey (mulGenerator auditorKey : Point) =
        .ok (ciphertext, nonce) ∧
      serializeAeBalance ciphertext.toList nonce.toList = .ok felts ∧
      parseAeBalance (before ++ felts ++ after) before.length = .ok ⟨ciphertext, nonce⟩ ∧
      decryptAsAuditor ciphertext nonce auditorKey (mulGenerator userKey : Point) =
        .ok balance := by
  obtain ⟨key, hkey⟩ := exists_deriveSharedSecret hshared
  obtain ⟨ciphertext, hen, hd⟩ :=
    decryptAuditHint_of_encrypt haead nonce hbalance key
  obtain ⟨felts, hf⟩ := exists_serializeAeBalance ciphertext nonce
  refine ⟨ciphertext, felts, ?_, hf, parseAeBalance_serialize _ _ hf before after, ?_⟩
  · unfold encryptForAuditor
    rw [hkey]
    exact hen
  · unfold decryptAsAuditor
    rw [deriveSharedSecret_comm, hkey]
    exact hd

end Hints

section Sample

/-- XChaCha20-Poly1305 at the key, the nonce and the plaintext of a known hint; elsewhere a tag of
zeros. -/
def hintEncrypt (key : Vector UInt8 32) (nonce : Vector UInt8 24) (plaintext : Bytes) : Bytes :=
  if key = beVector 32 sharedKey ∧ nonce = balanceNonce ∧ plaintext = beBytes 16 1 then balanceHint
  else plaintext ++ List.replicate 16 0

def hintDecrypt (key : Vector UInt8 32) (nonce : Vector UInt8 24) (ciphertext : Bytes) : Bytes :=
  if key = beVector 32 sharedKey ∧ nonce = balanceNonce ∧ ciphertext = balanceHint then
    beBytes 16 1
  else ciphertext.take (ciphertext.length - 16)

@[reducible] def hintAead : XChaCha20Poly1305 where
  encrypt key nonce plaintext := .ok (hintEncrypt key nonce plaintext)
  decrypt key nonce ciphertext := .ok (hintDecrypt key nonce ciphertext)

lemma length_hintEncrypt (key : Vector UInt8 32) (nonce : Vector UInt8 24) (plaintext : Bytes) :
    (hintEncrypt key nonce plaintext).length = plaintext.length + 16 := by
  unfold hintEncrypt
  split_ifs with hk
  · rw [hk.2.2]
    decide +kernel
  · rw [List.length_append, List.length_replicate]

lemma hintDecrypt_hintEncrypt (key : Vector UInt8 32) (nonce : Vector UInt8 24)
    (plaintext : Bytes) : hintDecrypt key nonce (hintEncrypt key nonce plaintext) = plaintext := by
  unfold hintEncrypt
  split_ifs with hk
  · rw [hintDecrypt, if_pos ⟨hk.1, hk.2.1, rfl⟩, hk.2.2]
  · -- The known hint does not end in zeros.
    have ho : plaintext ++ List.replicate 16 0 ≠ balanceHint := by
      intro heq
      have hend := congrArg (·.reverse.take 16) heq
      simp only [List.reverse_append, List.reverse_replicate] at hend
      rw [List.take_left' (by simp)] at hend
      exact absurd hend (by decide +kernel)
    rw [hintDecrypt, if_neg fun hc => ho hc.2.2]
    simp

lemma hintAead_exact : @AeadExact hintAead := by
  refine @AeadExact.mk hintAead (fun _ _ _ _ => ⟨_, rfl⟩) ?_ ?_
  · intro key nonce plaintext ciphertext h
    rw [← Except.ok.inj h]
    exact length_hintEncrypt key nonce plaintext
  · intro key nonce plaintext ciphertext h
    rw [← Except.ok.inj h]
    exact congrArg Except.ok (hintDecrypt_hintEncrypt key nonce plaintext)

attribute [local instance] sampleCurve Reference.sha256 hintAead

/-- The user's key is 7 and the auditor's 11; the balance is 1. -/
theorem ae_balance_round_trip_sample :
    ∃ ciphertext felts,
      encryptForAuditor balanceNonce 1 7 (mulGenerator 11 : CyclicPoint) =
        .ok (ciphertext, balanceNonce) ∧
      serializeAeBalance ciphertext.toList balanceNonce.toList = .ok felts ∧
      parseAeBalance ([5] ++ felts ++ [6]) 1 = .ok ⟨ciphertext, balanceNonce⟩ ∧
      decryptAsAuditor ciphertext balanceNonce 11 (mulGenerator 7 : CyclicPoint) = .ok 1 := by
  refine ae_balance_round_trip hintAead_exact 1 (by decide) 7 11 balanceNonce ?_ [5] [6]
  simp only [mul_eq_smul, mulGenerator_eq_smul, sampleTable.curve_smul]
  decide +kernel

end Sample

end KrustyKms.Client

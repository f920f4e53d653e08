import KrustyKms.Common.Reference
import KrustyKms.QsbHors.Key

/-!
# What a disclosure reveals

The secrets of a key are the beginnings of its HMACs (`secret_eq`), so commitments and
preimages are the same list of secrets, read at all indices or at the requested ones.
-/

namespace KrustyKms.QsbHors

open Codec Support

/-! ## Messages -/

lemma beBytes_injective (k : ℕ) {a b : ℕ} (ha : a < 256 ^ k) (hb : b < 256 ^ k)
    (h : beBytes k a = beBytes k b) : a = b := by
  rw [← beValue_beBytes_of_lt ha, h, beValue_beBytes_of_lt hb]

def indexBytes (index : UInt16) : Bytes := beBytes 2 index.toNat

lemma indexBytes_injective {index index' : UInt16} (h : indexBytes index = indexBytes index') :
    index = index' :=
  UInt16.toNat_inj.mp (beBytes_injective 2 index.toNat_lt index'.toNat_lt h)

lemma flatMap_indexBytes_injective {xs ys : List UInt16}
    (h : xs.flatMap indexBytes = ys.flatMap indexBytes) : xs = ys := by
  induction xs generalizing ys with
  | nil =>
    cases ys with
    | nil => rfl
    | cons y ys =>
      have hl := congrArg List.length h
      simp only [List.flatMap_nil, List.flatMap_cons, List.length_nil, List.length_append,
        indexBytes, length_beBytes] at hl
      omega
  | cons x xs ih =>
    cases ys with
    | nil =>
      have hl := congrArg List.length h
      simp [indexBytes] at hl
    | cons y ys =>
      rw [List.flatMap_cons, List.flatMap_cons] at h
      obtain ⟨hh, ht⟩ := List.append_inj h (by simp [indexBytes])
      rw [indexBytes_injective hh, ih ht]

lemma secretMessage_injective {vault vault' : QsbVault} {round round' : UInt8}
    {index index' : UInt16} (h : secretMessage vault round index =
    secretMessage vault' round' index') : vault = vault' ∧ round = round' ∧ index = index' := by
  unfold secretMessage at h
  obtain ⟨h, hin⟩ := List.append_inj' h (by simp)
  obtain ⟨h, hr⟩ := List.append_inj' h rfl
  obtain ⟨h, hv⟩ := List.append_inj' h (by simp)
  obtain ⟨-, hnet⟩ := List.append_inj' h rfl
  obtain ⟨net, v, hn, hvLe⟩ := vault
  obtain ⟨net', v', hn', hv'⟩ := vault'
  obtain rfl : net = net' := (List.cons.inj (List.cons.inj hnet).2).1
  obtain rfl : v = v' := UInt32.toNat_inj.mp (beBytes_injective 4 v.toNat_lt v'.toNat_lt hv)
  exact ⟨rfl, (List.cons.inj hr).1, indexBytes_injective hin⟩

lemma revealMessage_eq (indices : QsbRevealIndices) (binding : Vector UInt8 32) :
    revealMessage indices binding =
      revealTag ++ (indices.round0.toList ++ indices.round1.toList).flatMap indexBytes ++
        binding.toList := by
  simp only [revealMessage, QsbRevealIndices.secrets, List.flatMap_append, List.flatMap_map]
  rfl

lemma revealMessage_injective {indices indices' : QsbRevealIndices}
    {binding binding' : Vector UInt8 32}
    (h : revealMessage indices binding = revealMessage indices' binding') :
    indices = indices' ∧ binding = binding' := by
  rw [revealMessage_eq, revealMessage_eq] at h
  obtain ⟨h, hb⟩ := List.append_inj' h (by simp)
  obtain ⟨hround0, hround1⟩ := List.append_inj
    (flatMap_indexBytes_injective (List.append_cancel_left h)) (by simp)
  obtain ⟨round0, round1, hvalid0, hvalid1⟩ := indices
  obtain ⟨round0', round1', hvalid0', hvalid1'⟩ := indices'
  obtain rfl : round0 = round0' := Vector.toList_inj.mp hround0
  obtain rfl : round1 = round1' := Vector.toList_inj.mp hround1
  exact ⟨rfl, Vector.toList_inj.mp hb⟩

/-! ## Secrets -/

lemma mem_secrets {indices : QsbRevealIndices} {s : UInt8 × UInt16} (hs : s ∈ indices.secrets) :
    (s.1 = 0 ∨ s.1 = 1) ∧ s.2.toNat < secretsPerRound := by
  obtain hs | hs := List.mem_append.mp hs
  · obtain ⟨index, hin, rfl⟩ := List.mem_map.mp hs
    exact ⟨.inl rfl, indices.valid0.1 index hin⟩
  · obtain ⟨index, hin, rfl⟩ := List.mem_map.mp hs
    exact ⟨.inr rfl, indices.valid1.1 index hin⟩

def QsbKey.mac [Sha256] (key : QsbKey) (message : Bytes) : Vector UInt8 secretLen :=
  match hmacSha256 key.bytes.toList [message] with
  | .ok mac => takeOutput secretLen mac secretLen_le
  | .error _ => Vector.replicate secretLen 0

section Disclosure

variable [Sha256] (key : QsbKey)

lemma secret_eq (vault : QsbVault) (round : UInt8) (index : UInt16) :
    key.secret vault round index = .ok (key.mac (secretMessage vault round index)) := by
  have hkey : key.bytes.toList.length ≤ sha256Block := by
    rw [Vector.length_toList]
    decide
  obtain ⟨mac, hmac⟩ := exists_hmacSha256 hkey [secretMessage vault round index]
  simp only [QsbKey.secret, QsbKey.mac, hmac]
  rfl

lemma preimages_eq (vault : QsbVault) (indices : QsbRevealIndices) :
    key.preimages vault indices =
      .ok (indices.secrets.map fun s => key.mac (secretMessage vault s.1 s.2)) :=
  except_mapM_eq_map fun s _ => secret_eq key vault s.1 s.2

variable [BitcoinHashes]

def QsbKey.hashes (vault : QsbVault) (round : UInt8) : List QsbCommitment :=
  (List.range secretsPerRound).map fun index =>
    hash160 (key.mac (secretMessage vault round (UInt16.ofNat index))).toList

lemma roundCommitments_eq (vault : QsbVault) (round : UInt8) :
    key.roundCommitments vault round = .ok (key.hashes vault round) := by
  apply except_mapM_eq_map
  intro index _
  rw [secret_eq]
  rfl

def QsbCommitments.get? (commitments : QsbCommitments) (round : UInt8) (index : UInt16) :
    Option QsbCommitment :=
  if round = 0 then commitments.round0[index.toNat]? else commitments.round1[index.toNat]?

lemma exists_commitments (vault : QsbVault) :
    ∃ commitments, key.commitments vault = .ok commitments ∧
      ∀ round index, (round = 0 ∨ round = 1) → index.toNat < secretsPerRound →
        commitments.get? round index =
          some (hash160 (key.mac (secretMessage vault round index)).toList) := by
  have hp (round : UInt8) {index : UInt16} (hin : index.toNat < secretsPerRound) :
      (key.hashes vault round)[index.toNat]? =
        some (hash160 (key.mac (secretMessage vault round index)).toList) := by
    rw [QsbKey.hashes, List.getElem?_map, List.getElem?_range hin, Option.map_some,
      UInt16.ofNat_toNat]
  refine ⟨⟨key.hashes vault 0, key.hashes vault 1, Sha256.digest (rootTag ++
    (key.hashes vault 0 ++ key.hashes vault 1).flatMap Vector.toList)⟩, ?_, ?_⟩
  · rw [QsbKey.commitments, roundCommitments_eq, roundCommitments_eq]
    rfl
  · intro round index hr hin
    obtain rfl | rfl := hr
    · exact hp 0 hin
    · exact hp 1 hin

/-- Every disclosure succeeds, and its preimages hash to the commitments of their own rounds and
indices in the order of the request; where no two HMACs of the messages in `T` begin alike, no
other secret of the key is among them. The messages of different vaults, rounds or indices
differ. Where SHA-256 has no collision in `D`, equal digests are those of the same indices in the
same order and of the same binding. -/
theorem disclosure_exact {T D : Set Bytes} (hmac : Set.InjOn key.mac T)
    (hsha : Set.InjOn Sha256.digest D) :
    (∀ vault indices, ∃ preimages commitments,
      key.preimages vault indices = .ok preimages ∧ key.commitments vault = .ok commitments ∧
      preimages.map (fun secret => some (hash160 secret.toList)) =
        indices.secrets.map (fun s => commitments.get? s.1 s.2) ∧
      ((∀ s ∈ indices.secrets, secretMessage vault s.1 s.2 ∈ T) →
        ∀ vault' round index secret, secretMessage vault' round index ∈ T →
          key.secret vault' round index = .ok secret →
          (secret ∈ preimages ↔ vault' = vault ∧ (round, index) ∈ indices.secrets))) ∧
    (∀ vault vault' round round' index index',
      secretMessage vault round index = secretMessage vault' round' index' →
        vault = vault' ∧ round = round' ∧ index = index') ∧
    (∀ indices indices' binding binding', revealMessage indices binding ∈ D →
      revealMessage indices' binding' ∈ D →
      revealDigest indices binding = revealDigest indices' binding' →
        indices = indices' ∧ binding = binding') := by
  refine ⟨?_, fun _ _ _ _ _ _ => secretMessage_injective, ?_⟩
  · intro vault indices
    obtain ⟨commitments, hc, hget⟩ := exists_commitments key vault
    refine ⟨_, commitments, preimages_eq key vault indices, hc, ?_, ?_⟩
    · rw [List.map_map]
      apply List.map_congr_left
      intro s hs
      obtain ⟨hr, hin⟩ := mem_secrets hs
      exact (hget s.1 s.2 hr hin).symm
    · intro hrq vault' round index secret hmem hsc
      rw [secret_eq] at hsc
      obtain rfl := Except.ok.inj hsc
      rw [List.mem_map]
      constructor
      · intro h
        obtain ⟨s, hs, hel⟩ := h
        obtain ⟨rfl, rfl, rfl⟩ := secretMessage_injective (hmac (hrq s hs) hmem hel)
        exact ⟨rfl, hs⟩
      · intro h
        obtain ⟨rfl, hs⟩ := h
        exact ⟨(round, index), hs, rfl⟩
  · intro indices indices' binding binding' hmem hm' h
    exact revealMessage_injective (hsha hmem hm' h)

end Disclosure

/-! ## A withdrawal -/

section Sample

attribute [local instance] Reference.sha256 Reference.bitcoinHashes

def sampleKey : QsbKey := ⟨Vector.replicate 32 7⟩

def sampleVault : QsbVault := ⟨1, 3, by decide, by decide⟩

def sampleIndices : QsbRevealIndices where
  round0 := #v[5, 149, 0, 17, 44, 3, 98, 120]
  round1 := #v[5, 1, 2, 140, 9, 61, 80]
  valid0 := @checkIndices_ok 0 [] _ (by decide) ⟨by simp, List.nodup_nil⟩
  valid1 := @checkIndices_ok 1 [] _ (by decide) ⟨by simp, List.nodup_nil⟩

def sampleMessages : List Bytes :=
  ((0, 1) :: sampleIndices.secrets).map fun s => secretMessage sampleVault s.1 s.2

lemma sampleKey_mac_injOn : Set.InjOn sampleKey.mac {m | m ∈ sampleMessages} := by
  intro m hm m' hm' h
  have hn : (sampleMessages.map sampleKey.mac).Nodup := by decide +kernel
  exact List.inj_on_of_nodup_map hn hm hm' h

def sampleBinding : Vector UInt8 32 := Vector.replicate 32 9

def otherBinding : Vector UInt8 32 := Vector.replicate 32 8

lemma digest_injOn : Set.InjOn Sha256.digest
    {revealMessage sampleIndices sampleBinding, revealMessage sampleIndices otherBinding} := by
  rw [Set.injOn_pair]
  intro h
  exact absurd h (by decide +kernel)

/-- The request reveals the secret of round 0 at 149 and not that at 1, and its digest is not
that of another binding. -/
theorem sampleDisclosure_exact :
    ∃ preimages secret other, sampleKey.preimages sampleVault sampleIndices = .ok preimages ∧
      sampleKey.secret sampleVault 0 149 = .ok secret ∧ secret ∈ preimages ∧
      sampleKey.secret sampleVault 0 1 = .ok other ∧ other ∉ preimages ∧
      revealDigest sampleIndices sampleBinding ≠ revealDigest sampleIndices otherBinding := by
  obtain ⟨hrv, -, hd⟩ := disclosure_exact sampleKey sampleKey_mac_injOn digest_injOn
  obtain ⟨preimages, commitments, hp, -, -, hex⟩ := hrv sampleVault sampleIndices
  have hr : ∀ s ∈ sampleIndices.secrets,
      secretMessage sampleVault s.1 s.2 ∈ {m | m ∈ sampleMessages} := by
    intro s hs
    exact List.mem_map.mpr ⟨s, List.mem_cons_of_mem _ hs, rfl⟩
  have hmem := hex hr sampleVault 0 149 _ (hr (0, 149) (by decide))
    (secret_eq sampleKey sampleVault 0 149)
  have ho := hex hr sampleVault 0 1 _ List.mem_cons_self
    (secret_eq sampleKey sampleVault 0 1)
  refine ⟨preimages, _, _, hp, secret_eq _ _ _ _, hmem.mpr ⟨rfl, by decide⟩,
    secret_eq _ _ _ _, ?_, ?_⟩
  · intro h
    exact absurd (ho.mp h).2 (by decide)
  · intro h
    obtain ⟨-, hb⟩ := hd _ _ _ _ (.inl rfl) (.inr rfl) h
    exact absurd hb (by decide)

end Sample

end KrustyKms.QsbHors

import KrustyKms.Client.Multisig
import KrustyKms.Codec.Parser
import KrustyKms.Support.HashChain

/-!
# A signed coordination hash is the hash of one message

Every hash of the codec is a Pedersen chain from zero over a list of felts, and a batch of
calls is spelled by its list through nested lengths.
-/

namespace KrustyKms.Multisig

open Crypto Codec Codec.Parser Support

lemma chainId_asFelt_injective : Function.Injective ChainId.asFelt := by
  intro a b h
  cases a <;> cases b
  · rfl
  · exact absurd h (by decide +kernel)
  · exact absurd h (by decide +kernel)
  · rfl

lemma lenFelt_injective {α β : Type} {xs : Vec α} {ys : Vec β} (h : lenFelt xs = lenFelt ys) :
    xs.val.length = ys.val.length :=
  natCast_length_injective xs.property ys.property h

/-! ## The lists the chains run over -/

def callFelts (call : MultisigCall) : List Felt :=
  call.toAddress.asFelt :: call.selector :: lenFelt call.calldata :: call.calldata.val

def batchFelts (calls : Vec MultisigCall) (salt : Felt) : List Felt :=
  lenFelt calls :: (calls.val.flatMap callFelts ++ [salt])

lemma callFelts_append_inj {call call' : MultisigCall} {rest rest' : List Felt}
    (h : callFelts call ++ rest = callFelts call' ++ rest') : call = call' ∧ rest = rest' := by
  obtain ⟨⟨target⟩, selector, calldata⟩ := call
  obtain ⟨⟨target'⟩, selector', calldata'⟩ := call'
  simp only [callFelts, List.cons_append, List.cons.injEq] at h
  obtain ⟨ht, hs, hl, htl⟩ := h
  obtain ⟨hc, hr⟩ := List.append_inj htl (lenFelt_injective hl)
  rw [ht, hs, Subtype.ext hc]
  exact ⟨rfl, hr⟩

lemma batchFelts_injective {calls calls' : Vec MultisigCall} {salt salt' : Felt}
    (h : batchFelts calls salt = batchFelts calls' salt') : calls = calls' ∧ salt = salt' := by
  simp only [batchFelts, List.cons.injEq] at h
  obtain ⟨hl, ht⟩ := h
  obtain ⟨hc, hs⟩ := flatMap_append_inj (fun _ _ _ _ => callFelts_append_inj)
    (lenFelt_injective hl) ht
  exact ⟨Subtype.ext hc, (List.cons.inj hs).1⟩

section

variable [Pedersen]

lemma hashTransactionBatch_eq (calls : Vec MultisigCall) (salt : Felt) :
    hashTransactionBatch calls salt = (batchFelts calls salt).foldl Pedersen.hash 0 := by
  rw [batchFelts, List.foldl_cons, List.foldl_append, List.foldl_flatMap]
  rfl

variable [StarknetKeccak]

def memoHash (memo : Option String) : Felt :=
  match memo with
  | none => 0
  | some memo => StarknetKeccak.hash (utf8 memo)

def payloadFelts : MultisigCoordinationMessage → List Felt
  | .proposal proposal => [proposal.proposer.asFelt, memoHash proposal.memo]
  | .confirmation notice | .revocation notice => [notice.signer.asFelt]
  | .execution notice => [notice.executor.asFelt]

lemma coordinationPayloadHash_eq (message : MultisigCoordinationMessage) :
    coordinationPayloadHash message = (payloadFelts message).foldl Pedersen.hash 0 := by
  cases message with
  | proposal | confirmation | revocation | execution => rfl

def messageFelts (message : MultisigCoordinationMessage) : List Felt :=
  [Felt.fromBytesBeSlice coordinationDomainTag, message.topic.chainId.asFelt,
    message.topic.multisig.asFelt, message.topic.transactionId, message.kindFelt,
    (payloadFelts message).foldl Pedersen.hash 0]

lemma coordinationMessageHash_eq (message : MultisigCoordinationMessage) :
    coordinationMessageHash message = (messageFelts message).foldl Pedersen.hash 0 := by
  rw [messageFelts, ← coordinationPayloadHash_eq]
  rfl

def hashedPairs (message : MultisigCoordinationMessage) : List (Felt × Felt) :=
  chainPairs Pedersen.hash 0 (messageFelts message) ++
    chainPairs Pedersen.hash 0 (payloadFelts message) ++
    match message with
    | .proposal proposal => chainPairs Pedersen.hash 0 (batchFelts proposal.calls proposal.salt)
    | _ => []

end

def hashedMemos : MultisigCoordinationMessage → List Bytes
  | .proposal proposal => (proposal.memo.map utf8).toList
  | _ => []

section

variable [Pedersen] [StarknetKeccak]

omit [Pedersen] in
lemma memoHash_injective {T : Set Bytes} (hinj : Set.InjOn StarknetKeccak.hash T)
    (hne : ∀ bytes ∈ T, StarknetKeccak.hash bytes ≠ 0) {memo memo' : Option String}
    (hT : ∀ bytes ∈ (memo.map utf8).toList, bytes ∈ T)
    (hT' : ∀ bytes ∈ (memo'.map utf8).toList, bytes ∈ T) (h : memoHash memo = memoHash memo') :
    memo = memo' := by
  match memo, memo' with
  | none, none => rfl
  | none, some text' => exact absurd h.symm (hne _ (hT' _ (by simp)))
  | some text, none => exact absurd h (hne _ (hT _ (by simp)))
  | some text, some text' =>
    have ht := hinj (hT _ (by simp)) (hT' _ (by simp)) h
    rw [utf8_injective ht]

omit [StarknetKeccak] in
lemma validateTransactionId_eq_ok {proposal : MultisigProposal} :
    proposal.validateTransactionId = .ok () ↔
      hashTransactionBatch proposal.calls proposal.salt = proposal.transactionId := by
  unfold MultisigProposal.validateTransactionId
  dsimp only
  split_ifs with h
  · simpa using h
  · simpa using h

omit [StarknetKeccak] in
lemma transactionId_of_valid {signed : SignedMultisigCoordinationMessage}
    {proposal : MultisigProposal} (hm : signed.message = .proposal proposal)
    (hv : signed.validateStructure = .ok ()) :
    (batchFelts proposal.calls proposal.salt).foldl Pedersen.hash 0 = proposal.transactionId := by
  rw [← hashTransactionBatch_eq, ← validateTransactionId_eq_ok]
  unfold SignedMultisigCoordinationMessage.validateStructure at hv
  rw [hm] at hv
  by_cases hvr : signed.version ≠ multisigCoordinationSchemaVersion
  · simp [hvr] at hv
  · rw [if_neg hvr] at hv
    by_cases hs : signed.signature.val = []
    · simp [hs] at hv
    · rw [if_neg hs] at hv
      exact hv

/-- What the hashed felts of two messages tell of them, from the felts of the topic, the kind and
the payload, and for proposals from those of the batch. -/
lemma message_eq_of_felts {message message' : MultisigCoordinationMessage}
    (hf : messageFelts message = messageFelts message')
    (hp : payloadFelts message = payloadFelts message')
    (hm : ∀ proposal proposal', message = .proposal proposal → message' = .proposal proposal' →
    memoHash proposal.memo = memoHash proposal'.memo → proposal.memo = proposal'.memo)
    (hb : ∀ proposal proposal', message = .proposal proposal → message' = .proposal proposal' →
    proposal.transactionId = proposal'.transactionId →
    proposal.calls = proposal'.calls ∧ proposal.salt = proposal'.salt) : message = message' := by
  simp only [messageFelts, List.cons.injEq, and_true, true_and] at hf
  obtain ⟨hc, hml, hid, hk, -⟩ := hf
  have hc := chainId_asFelt_injective hc
  match message, message' with
  | .proposal proposal, .proposal proposal' =>
    simp only [payloadFelts, List.cons.injEq, and_true] at hp
    have hm := hm _ _ rfl rfl hp.2
    have hb := hb _ _ rfl rfl hid
    obtain ⟨⟨multisig⟩, chainId, id, calls, salt, ⟨proposer⟩, memo⟩ := proposal
    obtain ⟨⟨multisig'⟩, chainId', id', calls', salt', ⟨proposer'⟩, memo'⟩ := proposal'
    simp_all [MultisigCoordinationMessage.topic]
  | .confirmation notice, .confirmation notice' | .revocation notice, .revocation notice' =>
    simp only [payloadFelts, List.cons.injEq, and_true] at hp
    obtain ⟨⟨multisig⟩, chainId, id, ⟨signer⟩⟩ := notice
    obtain ⟨⟨multisig'⟩, chainId', id', ⟨signer'⟩⟩ := notice'
    simp_all [MultisigCoordinationMessage.topic]
  | .execution notice, .execution notice' =>
    simp only [payloadFelts, List.cons.injEq, and_true] at hp
    obtain ⟨⟨multisig⟩, chainId, id, ⟨executor⟩⟩ := notice
    obtain ⟨⟨multisig'⟩, chainId', id', ⟨executor'⟩⟩ := notice'
    simp_all [MultisigCoordinationMessage.topic]
  | .proposal _, .confirmation _ | .proposal _, .revocation _ | .proposal _, .execution _
  | .confirmation _, .proposal _ | .confirmation _, .revocation _ | .confirmation _, .execution _
  | .revocation _, .proposal _ | .revocation _, .confirmation _ | .revocation _, .execution _
  | .execution _, .proposal _ | .execution _, .confirmation _ | .execution _, .revocation _ =>
    exact absurd hk (of_decide_eq_false rfl)

/-- **A coordination hash is signed for one message.** Messages of valid signed envelopes whose
hashes agree are equal in every field, unless Pedersen collides, or meets zero, on a pair
hashed for them, or `starknet_keccak` on a memo. -/
theorem coordination_binding {signed signed' : SignedMultisigCoordinationMessage}
    (hvalid : signed.validateStructure = .ok ()) (hvalid' : signed'.validateStructure = .ok ())
    (hinj : Set.InjOn (fun p : Felt × Felt => Pedersen.hash p.1 p.2)
    {p | p ∈ hashedPairs signed.message ∨ p ∈ hashedPairs signed'.message})
    (hne : ∀ p, p ∈ hashedPairs signed.message ∨ p ∈ hashedPairs signed'.message →
    Pedersen.hash p.1 p.2 ≠ 0) (hmemo : Set.InjOn StarknetKeccak.hash
    {bytes | bytes ∈ hashedMemos signed.message ∨ bytes ∈ hashedMemos signed'.message})
    (hmemoNe : ∀ bytes, bytes ∈ hashedMemos signed.message ∨ bytes ∈ hashedMemos signed'.message →
    StarknetKeccak.hash bytes ≠ 0)
    (h : coordinationMessageHash signed.message = coordinationMessageHash signed'.message) :
    signed.message = signed'.message := by
  rw [coordinationMessageHash_eq, coordinationMessageHash_eq] at h
  have hf : messageFelts signed.message = messageFelts signed'.message :=
    foldl_hash_injective hinj hne (fun p hp => .inl (by simp [hashedPairs, hp]))
      (fun p hp => .inr (by simp [hashedPairs, hp])) h
  have hpy : payloadFelts signed.message = payloadFelts signed'.message := by
    have hd := hf
    simp only [messageFelts, List.cons.injEq, and_true] at hd
    exact foldl_hash_injective hinj hne (fun p hp => .inl (by simp [hashedPairs, hp]))
      (fun p hp => .inr (by simp [hashedPairs, hp])) hd.2.2.2.2.2
  refine message_eq_of_felts hf hpy ?_ ?_
  · intro proposal proposal' hm hm'
    exact memoHash_injective hmemo hmemoNe (fun bytes hb => .inl (by rwa [hm]))
      (fun bytes hb => .inr (by rwa [hm']))
  · intro proposal proposal' hm hm' hid
    rw [← transactionId_of_valid hm hvalid, ← transactionId_of_valid hm' hvalid'] at hid
    apply batchFelts_injective
    exact foldl_hash_injective hinj hne (fun p hp => .inl (by simp [hashedPairs, hm, hp]))
      (fun p hp => .inr (by simp [hashedPairs, hm', hp])) hid

end

section Sample

@[reducible] def samplePedersen : Pedersen := tablePedersen (
  chainTable 0 [
    (0x1, 0x46c9aeb066cc2f41c7124af30514f9e607137fbac950524f5fdace5788f9d43),
    (0x4718f5a0fc34cc1af16a1cdee98ffb20c31f5cd61d6ab07201858f4287c938d,
      0x1fed15fff2ad9892a0f481c4127a14cecda5cf142cc9c00cbbcc1c3006c7aac),
    (0x83afd3f4caedc6eebf44246fe54e38c95e3179a5ec9ea81740eca5b482d12e,
      0x2e324ded1b128dbb8cb0bac7a7f080ddfbf47ae6efc228716fee7c0f1e235ce),
    (0x3, 0x6f5d4845d5931777929ef5f472ce3d49861a1e322bdee702c737fd6a62b8f),
    (0x5678, 0x5d19f196f95e738a9e1c593a0278cc49f9e36bd1f2df2dc72ca7d20774c1c0),
    (0x64, 0xf41290890f28218983b6e9155e56f8731794b43e4bc563d21b7fbd5323e91d),
    (0, 0x3e68b7da7c3be8cf1dc7d3711aeac2ce7eba60367d2085efd8183732bd525a5),
    (0x7, 0x4606c80c51811d91561e065c8e7d324b20f3af3e4e699705226506c57a7d259)] ++
  chainTable 0 [
    (0x1111, 0x389c2304617408e753a5c5daf0a67b414bfa45748cb7a37c415adc23318ad01),
    (0x16291ca8a315e28825e012b0478526cc5e199296be37bf6a3145946cf9a04b0,
      0xe1b5e31a5b30c37cb0f6f330d6a0f523f5fc215cff139cd8a4d36cbe726773)] ++
  chainTable 0 [
    (0x6b72757374792d6b6d732e6d756c74697369672e6e6f746963652e7631,
      0x39ae54381219f47ff8f90da9b3caecee693d0db9a56d536657f0a08c84271cc),
    (0x534e5f5345504f4c4941, 0x1b6f1b28209003e655c34c40dc7f9f11a0237346df37fadd8373e988c2cff33),
    (0xabc, 0x53ecd51b1dce74c151d02edaed9dfa03fd156415bad72529499862614083d4e),
    (0x4606c80c51811d91561e065c8e7d324b20f3af3e4e699705226506c57a7d259,
      0x3732bd3ce26a6590d78c8ab9fc39143110b2657730712f6275539bd6e08d3b0),
    (0x1, 0x4960525ea61bb7c5b3f5494821c6204fb639a03d00d7fb4f70193f9d44e8472),
    (0xe1b5e31a5b30c37cb0f6f330d6a0f523f5fc215cff139cd8a4d36cbe726773,
      0x6394d203f968b7234993d0c4c8b92bd2b2b7a1872929fcf096135262953d6af)])

@[reducible] def sampleKeccak : StarknetKeccak := tableStarknetKeccak
  [(utf8 "rent", 0x16291ca8a315e28825e012b0478526cc5e199296be37bf6a3145946cf9a04b0)]

attribute [local instance] samplePedersen sampleKeccak

def sampleCall : MultisigCall where
  toAddress := ⟨0x4718f5a0fc34cc1af16a1cdee98ffb20c31f5cd61d6ab07201858f4287c938d⟩
  selector := 0x83afd3f4caedc6eebf44246fe54e38c95e3179a5ec9ea81740eca5b482d12e
  calldata := ⟨[0x5678, 100, 0], by decide⟩

def sampleProposal : MultisigProposal where
  multisig := ⟨0xabc⟩
  chainId := .sepolia
  transactionId := 0x4606c80c51811d91561e065c8e7d324b20f3af3e4e699705226506c57a7d259
  calls := ⟨[sampleCall], by decide⟩
  salt := 7
  proposer := ⟨0x1111⟩
  memo := some "rent"

def sampleSigned (r s : Felt) : SignedMultisigCoordinationMessage where
  version := 1
  message := .proposal sampleProposal
  signature := ⟨[r, s], by simp⟩

theorem sampleSigned_binding :
    coordinationMessageHash (sampleSigned 1 2).message =
        0x6394d203f968b7234993d0c4c8b92bd2b2b7a1872929fcf096135262953d6af ∧
      (sampleSigned 1 2).message = (sampleSigned 3 4).message := by
  have hinj : (hashedPairs (.proposal sampleProposal)).all (fun p =>
      (hashedPairs (.proposal sampleProposal)).all fun p' =>
        decide (Pedersen.hash p.1 p.2 = Pedersen.hash p'.1 p'.2 → p = p')) = true := by
    decide +kernel
  have hne : (hashedPairs (.proposal sampleProposal)).all (fun p =>
      decide (Pedersen.hash p.1 p.2 ≠ 0)) = true := by decide +kernel
  have hm : ∀ bytes ∈ hashedMemos (.proposal sampleProposal),
      ∀ bytes' ∈ hashedMemos (.proposal sampleProposal),
        StarknetKeccak.hash bytes = StarknetKeccak.hash bytes' → bytes = bytes' := by
    decide +kernel
  have hmn : ∀ bytes ∈ hashedMemos (.proposal sampleProposal),
      StarknetKeccak.hash bytes ≠ 0 := by decide +kernel
  simp only [List.all_eq_true, decide_eq_true_eq] at hinj hne
  refine ⟨by decide +kernel, coordination_binding (by decide +kernel) (by decide +kernel) ?_ ?_ ?_
    ?_ rfl⟩
  · intro p hp p' hp'
    exact hinj p (or_self_iff.mp hp) p' (or_self_iff.mp hp')
  · intro p hp
    exact hne p (or_self_iff.mp hp)
  · intro bytes hb bytes' hb'
    exact hm bytes (or_self_iff.mp hb) bytes' (or_self_iff.mp hb')
  · intro bytes hb
    exact hmn bytes (or_self_iff.mp hb)

end Sample

end KrustyKms.Multisig

import KrustyKms.Common.Reference
import KrustyKms.Crypto.CyclicCurve
import KrustyKms.MentalPoker.Protocol

/-!
# What is revealed of a shuffled deck

A masked card keeps its card through remaskings (`Masks`), and a round of shuffling moves the
cards with their positions (`masks_of_runRounds`).
-/

namespace KrustyKms.MentalPoker

open Crypto StarkCurve Support MayPanic

section Reveal

-- two products of a point are compared by their factors, not by their computation
attribute [local irreducible] StarkCurve.mul

variable {Point : Type} [CurvePoint Point]

/-! ## Masked cards -/

def Masks (aggregate : Point) (card : Card Point) (masked : MaskedCard Point) : Prop :=
  ∃ r : OrderResidue, masked.c0 = r • generator ∧ masked.c1 = card.point + r • aggregate

variable [Sha256] {aggregate : PublicKey Point}

variable {card : Card Point} {masked : MaskedCard Point}
  {entry : RevealToken Point × DLEqualityProof × PublicKey Point}

lemma masks_of_mask {draws : MaskDraws} {r : Option Felt} {proof : DLEqualityProof}
    (h : MentalPokerProtocol.mask draws card aggregate r = .ok (masked, proof)) :
    Masks aggregate.point card masked := by
  unfold MentalPokerProtocol.mask at h
  simp only [except_bind_eq_ok] at h
  obtain ⟨_, -, _, -, h⟩ := h
  obtain ⟨rfl, -⟩ := Prod.mk.inj (Except.ok.inj h)
  refine ⟨residueFromFelt (r.getD draws.factor), ?_, ?_⟩
  · exact mul_eq_smul _ _
  · show add _ _ = _
    rw [mul_eq_smul, add_eq]

lemma masks_of_remask {draws : MaskDraws} {remasked : MaskedCard Point}
    {alpha : Option Felt} {proof : DLEqualityProof} (hm : Masks aggregate.point card masked)
    (h : MentalPokerProtocol.remask draws masked aggregate alpha = .ok (remasked, proof)) :
    Masks aggregate.point card remasked := by
  unfold MentalPokerProtocol.remask at h
  simp only [except_bind_eq_ok] at h
  obtain ⟨_, -, _, -, h⟩ := h
  obtain ⟨rfl, -⟩ := Prod.mk.inj (Except.ok.inj h)
  obtain ⟨r, hc0, hc1⟩ := hm
  refine ⟨r + residueFromFelt (alpha.getD draws.factor), ?_, ?_⟩
  · show add _ _ = _
    rw [add_eq, mul_eq_smul, hc0, add_smul]
  · show add _ _ = _
    rw [add_eq, mul_eq_smul, hc1, add_smul, add_assoc]

/-! ## Rounds of shuffling -/

structure ShuffleRound where
  permutation : Permutation
  maskingFactors : List Felt
  draws : ℕ → MaskDraws

def runRounds (aggregate : PublicKey Point) (deck : List (MaskedCard Point))
    (rounds : List ShuffleRound) : MayPanic MentalPokerError (List (MaskedCard Point)) :=
  rounds.foldlM (fun deck round => do
    let remasked ← MentalPokerProtocol.shuffleAndRemask round.draws deck aggregate
      round.permutation round.maskingFactors
    pure (remasked.map Prod.fst)) deck

def composedIndex : List ShuffleRound → ℕ → Option ℕ
  | [], position => some position
  | round :: rounds, position =>
    (composedIndex rounds position).bind fun i => round.permutation.indices[i]?

lemma masks_of_shuffleAndRemask {round : ShuffleRound} {deck : List (MaskedCard Point)}
    {remasked : List (MaskedCard Point × DLEqualityProof)}
    (h : Returns (MentalPokerProtocol.shuffleAndRemask round.draws deck aggregate
    round.permutation round.maskingFactors) remasked) {i : ℕ}
    (hi : (remasked.map Prod.fst)[i]? = some masked) :
    ∃ j before, round.permutation.indices[i]? = some j ∧ deck[j]? = some before ∧
      ∀ card, Masks aggregate.point card before → Masks aggregate.point card masked := by
  unfold MentalPokerProtocol.shuffleAndRemask at h
  rw [returns_ite_throw, returns_bind] at h
  obtain ⟨-, permuted, hp, hr⟩ := h
  rw [Permutation.permute, returns_mapM] at hp
  rw [returns_mapM] at hr
  rw [List.getElem?_map, Option.map_eq_some_iff] at hi
  obtain ⟨⟨_, proof⟩, hi, rfl⟩ := hi
  -- back from the remasked card to the permuted one, and from there to the deck
  obtain ⟨⟨⟨before, factor⟩, k⟩, hen, hrm⟩ := forall₂_getElem?_right hr hi
  rw [List.getElem?_zipIdx, Option.map_eq_some_iff] at hen
  obtain ⟨pair, hpr, heq⟩ := hen
  obtain ⟨rfl, -⟩ := Prod.mk.inj heq
  obtain ⟨hb, -⟩ := List.getElem?_zip_eq_some.mp hpr
  obtain ⟨j, hj, hin⟩ := forall₂_getElem?_right hp hb
  rw [returns_index] at hin
  rw [returns_lift] at hrm
  exact ⟨j, before, hj, hin, fun card hm => masks_of_remask hm hrm⟩

lemma masks_of_runRounds {rounds : List ShuffleRound} {deck out : List (MaskedCard Point)}
    (h : Returns (runRounds aggregate deck rounds) out) {position : ℕ}
    (hp : out[position]? = some masked) :
    ∃ k before, composedIndex rounds position = some k ∧ deck[k]? = some before ∧
      ∀ card, Masks aggregate.point card before → Masks aggregate.point card masked := by
  induction rounds generalizing deck with
  | nil =>
    rw [runRounds, List.foldlM_nil, returns_pure] at h
    subst h
    exact ⟨position, masked, rfl, hp, fun _ hm => hm⟩
  | cons round rounds ih =>
    rw [runRounds, List.foldlM_cons, returns_bind] at h
    obtain ⟨next, hr, hrs⟩ := h
    rw [returns_bind] at hr
    obtain ⟨remasked, hrm, hn⟩ := hr
    rw [returns_pure] at hn
    subst hn
    obtain ⟨i, middle, hin, hmd, hk⟩ := ih hrs
    obtain ⟨j, before, hj, hb, hkp⟩ := masks_of_shuffleAndRemask hrm hmd
    refine ⟨j, before, ?_, hb, fun card hm => hk card (hkp card hm)⟩
    rw [composedIndex, hin, Option.bind_some, hj]

/-! ## Keys and tokens -/

omit [CurvePoint Point] [Sha256] in
/-- A step that adds what a proof was verified for. -/
lemma verified_eq_ok {α : Type} {check : Except MentalPokerError Bool} {e : MentalPokerError}
    {k : PUnit → Except MentalPokerError α} {next total : α} :
    (check >>= fun valid => if (!valid) = true then throw e >>= k else pure next) = .ok total ↔
      check = .ok true ∧ next = total := by
  simp only [except_bind_eq_ok, except_ite_throw_eq_ok]
  constructor
  · rintro ⟨valid, hv, ha, h⟩
    rw [Bool.not_eq_true', Bool.not_eq_false] at ha
    exact ⟨ha ▸ hv, Except.ok.inj h⟩
  · rintro ⟨hv, rfl⟩
    exact ⟨true, hv, by simp, rfl⟩

variable [FeltParser]

lemma addKey_eq_ok {key next : PublicKey Point}
    {entry : PublicKey Point × KeyOwnershipProof × Bytes} :
    MentalPokerProtocol.addKey key entry = .ok next ↔
      MentalPokerProtocol.verifyKeyOwnership entry.1 entry.2.1 entry.2.2 = .ok true ∧
        next.point = key.point + entry.1.point := by
  unfold MentalPokerProtocol.addKey
  rw [verified_eq_ok, PublicKey.add, add_eq]
  exact and_congr_right fun _ => ⟨fun h => h ▸ rfl, fun h => h ▸ rfl⟩

omit [CurvePoint Point] [Sha256] [FeltParser] in
lemma PublicKey.point_bijective : Function.Bijective (@PublicKey.point Point) :=
  ⟨fun _ _ h => congrArg PublicKey.mk h, fun P => ⟨⟨P⟩, rfl⟩⟩

lemma aggregate_eq_sum {playerKeys : List (PublicKey Point × KeyOwnershipProof × Bytes)}
    (h : MentalPokerProtocol.computeAggregateKey playerKeys = .ok aggregate) :
    aggregate.point = (playerKeys.map fun entry => entry.1.point).sum := by
  unfold MentalPokerProtocol.computeAggregateKey at h
  rw [foldlM_sum_eq_ok PublicKey.point_bijective fun _ _ _ => addKey_eq_ok] at h
  rw [h.2, PublicKey.zero, zero_add]

variable {masked : MaskedCard Point}

lemma addToken_eq_ok {token next : RevealToken Point} :
    MentalPokerProtocol.addToken masked token entry = .ok next ↔
      MentalPokerProtocol.verifyRevealToken masked entry.1 entry.2.2 entry.2.1 = .ok true ∧
        next.point = token.point + entry.1.point := by
  unfold MentalPokerProtocol.addToken
  rw [verified_eq_ok, RevealToken.add, add_eq]
  exact and_congr_right fun _ => ⟨fun h => h ▸ rfl, fun h => h ▸ rfl⟩

omit [CurvePoint Point] [Sha256] [FeltParser] in
lemma RevealToken.point_bijective : Function.Bijective (@RevealToken.point Point) :=
  ⟨fun _ _ h => congrArg RevealToken.mk h, fun P => ⟨⟨P⟩, rfl⟩⟩

variable {tokens : List (RevealToken Point × DLEqualityProof × PublicKey Point)}

lemma foldlM_addToken_eq_ok {total : RevealToken Point} :
    tokens.foldlM (MentalPokerProtocol.addToken masked) .zero = .ok total ↔
      (∀ entry ∈ tokens, MentalPokerProtocol.verifyRevealToken masked entry.1 entry.2.2 entry.2.1 =
        .ok true) ∧ total.point = (tokens.map fun entry => entry.1.point).sum := by
  rw [foldlM_sum_eq_ok RevealToken.point_bijective fun _ _ _ => addToken_eq_ok, RevealToken.zero,
    zero_add]

lemma unmask_eq_ok :
    MentalPokerProtocol.unmask masked tokens = .ok card ↔
      (∀ entry ∈ tokens, MentalPokerProtocol.verifyRevealToken masked entry.1 entry.2.2 entry.2.1 =
        .ok true) ∧ card.point = masked.c1 - (tokens.map fun entry => entry.1.point).sum := by
  unfold MentalPokerProtocol.unmask
  simp only [except_bind_eq_ok, foldlM_addToken_eq_ok, negatePoint_eq, Except.ok.injEq,
    exists_eq_left', add_eq, ← sub_eq_add_neg]
  constructor
  · intro h
    obtain ⟨total, ⟨ha, ht⟩, h⟩ := h
    rw [← Except.ok.inj h, ← ht]
    exact ⟨ha, rfl⟩
  · intro h
    obtain ⟨ha, hc⟩ := h
    refine ⟨⟨(tokens.map fun entry => entry.1.point).sum⟩, ⟨ha, rfl⟩, ?_⟩
    rw [← hc]
    rfl

omit [Sha256] [FeltParser] in
lemma sum_tokens_of_witnesses {r : OrderResidue} (hc0 : masked.c0 = r • generator)
    (hw : ∀ entry ∈ tokens, ChaumPedersenProtocol.HasWitness masked.c0 generator
    entry.1.point entry.2.2.point) :
    (tokens.map fun entry => entry.1.point).sum =
      r • (tokens.map fun entry => entry.2.2.point).sum := by
  induction tokens with
  | nil => simp
  | cons entry tokens ih =>
    obtain ⟨x, ht, hkey⟩ := hw entry List.mem_cons_self
    rw [List.map_cons, List.map_cons, List.sum_cons, List.sum_cons, smul_add,
      ih fun other hmem => hw other (List.mem_cons_of_mem entry hmem), ht, hkey,
      mul_eq_smul, mul_eq_smul, hc0, smul_comm]

lemma unmask_of_witnesses {opened : Card Point} (hm : Masks aggregate.point card masked)
    (hk : (tokens.map fun entry => entry.2.2.point).sum = aggregate.point)
    (hw : ∀ entry ∈ tokens, ChaumPedersenProtocol.HasWitness masked.c0 generator
      entry.1.point entry.2.2.point)
    (h : MentalPokerProtocol.unmask masked tokens = .ok opened) : opened = card := by
  obtain ⟨r, hc0, hc1⟩ := hm
  obtain ⟨-, ho⟩ := unmask_eq_ok.mp h
  rw [sum_tokens_of_witnesses hc0 hw, hk, hc1, add_sub_cancel_right] at ho
  exact congrArg Card.mk ho

/-! ## Honest tokens -/

/-- What the holder of `sk` computes for the card. -/
def HonestToken (masked : MaskedCard Point) (sk : SecretKey)
    (entry : RevealToken Point × DLEqualityProof × PublicKey Point) : Prop :=
  entry.2.2 = sk.publicKey ∧ ∃ nonce,
    MentalPokerProtocol.computeRevealToken nonce masked sk entry.2.2 = .ok (entry.1, entry.2.1)

omit [Sha256] [FeltParser] in
lemma SecretKey.publicKey_point (sk : SecretKey) :
    (sk.publicKey : PublicKey Point).point = mul sk.scalar (some generator) := by
  rw [SecretKey.publicKey, mulGenerator_eq_smul, mul_eq_smul]

omit [FeltParser] in
lemma HonestToken.hasWitness {sk : SecretKey} (h : HonestToken masked sk entry) :
    ChaumPedersenProtocol.HasWitness masked.c0 generator entry.1.point entry.2.2.point := by
  obtain ⟨hkey, nonce, hrun⟩ := h
  unfold MentalPokerProtocol.computeRevealToken at hrun
  rw [except_bind_eq_ok] at hrun
  obtain ⟨proof, -, hrun⟩ := hrun
  obtain ⟨ht, -⟩ := Prod.mk.inj (Except.ok.inj hrun)
  refine ⟨sk.scalar, ?_, ?_⟩
  · rw [← ht]
  · rw [hkey, SecretKey.publicKey_point]

lemma HonestToken.verify_iff (hex : FeltParser.Exact) {sk : SecretKey}
    (h : HonestToken masked sk entry) :
    MentalPokerProtocol.verifyRevealToken masked entry.1 entry.2.2 entry.2.1 = .ok true ↔
      FeltParser.fromHex entry.2.1.response ≠ .ok 0 := by
  obtain ⟨hkey, nonce, hrun⟩ := h
  unfold MentalPokerProtocol.computeRevealToken at hrun
  rw [except_bind_eq_ok] at hrun
  obtain ⟨proof, hp, hrun⟩ := hrun
  obtain ⟨ht, rfl⟩ := Prod.mk.inj (Except.ok.inj hrun)
  rw [hkey, SecretKey.publicKey_point] at hp
  rw [MentalPokerProtocol.verifyRevealToken, hkey, SecretKey.publicKey_point, ← ht]
  exact ChaumPedersenProtocol.verify_prove_iff hex hp

omit [FeltParser] in
lemma sum_keys_of_honest {playerKeys : List (PublicKey Point × KeyOwnershipProof × Bytes)}
    {secrets : List SecretKey} (hs : playerKeys.map Prod.fst = secrets.map SecretKey.publicKey)
    (hh : List.Forall₂ (HonestToken masked) secrets tokens) :
    (tokens.map fun entry => entry.2.2.point).sum =
      (playerKeys.map fun entry => entry.1.point).sum := by
  have hk : tokens.map (fun entry => entry.2.2) = secrets.map SecretKey.publicKey := by
    clear hs
    induction hh with
    | nil => rfl
    | cons hhd _ ih => rw [List.map_cons, List.map_cons, hhd.1, ih]
  have hp := congrArg (List.map PublicKey.point) (hk.trans hs.symm)
  rw [List.map_map, List.map_map] at hp
  exact congrArg List.sum hp

lemma unmask_of_honest (hex : FeltParser.Exact) {secrets : List SecretKey}
    (hm : Masks aggregate.point card masked)
    (hk : (tokens.map fun entry => entry.2.2.point).sum = aggregate.point)
    (hh : List.Forall₂ (HonestToken masked) secrets tokens) :
    (MentalPokerProtocol.unmask masked tokens = .ok card ↔
      ∀ entry ∈ tokens, FeltParser.fromHex entry.2.1.response ≠ .ok 0) ∧
    ∀ opened, MentalPokerProtocol.unmask masked tokens = .ok opened → opened = card := by
  have hen : ∀ entry ∈ tokens, ∃ sk, HonestToken masked sk entry := by
    intro entry hmem
    obtain ⟨i, hi⟩ := List.mem_iff_getElem?.mp hmem
    obtain ⟨sk, -, hsk⟩ := forall₂_getElem?_right hh hi
    exact ⟨sk, hsk⟩
  have ho : ∀ opened, MentalPokerProtocol.unmask masked tokens = .ok opened →
      opened = card := by
    intro opened h
    refine unmask_of_witnesses hm hk ?_ h
    intro entry hmem
    obtain ⟨sk, hsk⟩ := hen entry hmem
    exact hsk.hasWitness
  refine ⟨?_, ho⟩
  constructor
  · intro h entry hmem
    obtain ⟨sk, hsk⟩ := hen entry hmem
    exact (hsk.verify_iff hex).mp ((unmask_eq_ok.mp h).1 entry hmem)
  · intro hr
    have hrun : MentalPokerProtocol.unmask masked tokens =
        .ok ⟨masked.c1 - (tokens.map fun entry => entry.1.point).sum⟩ := by
      refine unmask_eq_ok.mpr ⟨?_, rfl⟩
      intro entry hmem
      obtain ⟨sk, hsk⟩ := hen entry hmem
      exact (hsk.verify_iff hex).mpr (hr entry hmem)
    rw [hrun, ho _ hrun]

/-- **What is revealed.** After any rounds of shuffling a position holds the card at the
composed index. The players' own tokens open it, unless a response is zero, which no verifier
accepts; and tokens that have witnesses under keys that add up to the aggregate key open
nothing else. Two transcripts that satisfy the equations of a token's proof with the same
commitments give a witness. -/
theorem reveal_original_card (hexact : FeltParser.Exact)
    {playerKeys : List (PublicKey Point × KeyOwnershipProof × Bytes)}
    (haggregate : MentalPokerProtocol.computeAggregateKey playerKeys = .ok aggregate)
    {cards : List (Card Point)} {deck out : List (MaskedCard Point)}
    (hmasked : List.Forall₂ (fun card masked => ∃ draws r proof,
    MentalPokerProtocol.mask draws card aggregate r = .ok (masked, proof)) cards deck)
    {rounds : List ShuffleRound} (hrounds : Returns (runRounds aggregate deck rounds) out)
    {position : ℕ} {masked : MaskedCard Point} (hposition : out[position]? = some masked) :
    ∃ k card, composedIndex rounds position = some k ∧ cards[k]? = some card ∧
      (∀ (secrets : List SecretKey)
          (tokens : List (RevealToken Point × DLEqualityProof × PublicKey Point)),
        playerKeys.map Prod.fst = secrets.map SecretKey.publicKey →
        List.Forall₂ (HonestToken masked) secrets tokens →
        (MentalPokerProtocol.unmask masked tokens = .ok card ↔
          ∀ entry ∈ tokens, FeltParser.fromHex entry.2.1.response ≠ .ok 0) ∧
        ∀ opened, MentalPokerProtocol.unmask masked tokens = .ok opened → opened = card) ∧
      (∀ (tokens : List (RevealToken Point × DLEqualityProof × PublicKey Point))
        (opened : Card Point),
        (tokens.map fun entry => entry.2.2.point).sum = aggregate.point →
        MentalPokerProtocol.unmask masked tokens = .ok opened →
        (∀ entry ∈ tokens, ChaumPedersenProtocol.HasWitness masked.c0 generator entry.1.point
          entry.2.2.point) → opened = card) ∧
      ∀ (token key a1 a2 : Point) (c c' s s' : Felt),
        ChaumPedersenProtocol.Equations masked.c0 generator token key a1 a2 c s →
        ChaumPedersenProtocol.Equations masked.c0 generator token key a1 a2 c' s' →
        residueFromFelt c ≠ residueFromFelt c' →
        ChaumPedersenProtocol.HasWitness masked.c0 generator token key := by
  obtain ⟨k, before, hin, hb, hkp⟩ := masks_of_runRounds hrounds hposition
  obtain ⟨card, hc, draws, r, proof, hms⟩ := forall₂_getElem?_right hmasked hb
  have hm : Masks aggregate.point card masked := hkp card (masks_of_mask hms)
  refine ⟨k, card, hin, hc, ?_, ?_, ?_⟩
  · intro secrets tokens hs hh
    have hk : (tokens.map fun entry => entry.2.2.point).sum = aggregate.point := by
      rw [sum_keys_of_honest hs hh, aggregate_eq_sum haggregate]
    exact unmask_of_honest hexact hm hk hh
  · intro tokens opened hk hrun hw
    exact unmask_of_witnesses hm hk hw hrun
  · intro token key a1 a2 c c' s s' het he' hne
    exact ⟨_, ChaumPedersenProtocol.extractWitness_spec het he' hne⟩

end Reveal

/-! ## A game of two players -/

section Sample

def gameTable : CurveTable where
  points := samplePoints ++ [
    ⟨6,
      0x1efc3d7c9649900fcbd03f578a8248d095bc4b6a13b3c25f9886ef971ff96fa,
      0x694e4dce951394737cf62c7ab0946d5a64940f7b9e573f4324c1d6ce9c4d991⟩,
    ⟨20,
      0xa32275bbdb8af5280e7290b75cefd515748a41f37c404cfc34854607ee8815,
      0x1f6a68bd0480b8a5be7bbc6b77c3f8371a5ac184b8174ae32a12b0f0be3db85⟩,
    ⟨12,
      0x66276b22edf076517b8fa9287280242555afda9ed00e78eedc9f99be8542aa3,
      0x587d4c16426bc2b24c41319ca321cc7325359ad3c9bc465e30eb9078a5c002a⟩,
    ⟨18,
      0x19661066e96a8b9f06a1d136881ee924dfb6a885239caa5fd3f87a54c6b25c4,
      0x5c857697280a06cbd3e29ece3dc730f5ce700e9276a83b8bd38b1e199044689⟩,
    ⟨41,
      0x78411bc5ef002e544e403537f87cefe326f14b3565e005a72a4d345704290fe,
      0x3d12e8b861d928bb7c8178262315b5d052799d0fede6496a9c33c85387c569⟩,
    ⟨27,
      0x788c2379f4f6ab6afb605d28bf8cd5917be6f6b9163bf7af488635edcd1f59c,
      0x126cdb5dcadd1d87316cb7a2fa1b237a6bd2c77308ab9da5ada7328beb5227c⟩,
    ⟨29,
      0x32bb8d8e566e4ec14f97438af929a469f9df0ec15847768e56b60c6a8c8a581,
      0x6dc2c5326b43131ff39199b09773ae76abe7ed03e7f6a5222e7b27ec6357e73⟩,
    ⟨4 + hLabel,
      0x343f0e18b782025e46ae40b9749f1adcf4c7ad5485ba72f18f7d809f1834de8,
      0x13d535c11e068ce2f737e59304cb8434d4bd0cf60f886356446f44672ab9e16⟩,
    ⟨0x1534dcf13eca59d93207bc9075e3be0dc0a5ce163766a6beb6da50fa87151e0,
      0x4eb8bfd9db95b9a87698f33cc4176a082e53f0e6c5fc0ce7edaa10248ac1463,
      0x464aeff4c5b9b37ca44f9e8b8ef3ab8dc2a3ab7eb79ce03eb2813978e022a85⟩]
  labels_nodup := by decide +kernel
  coordinates_nodup := by decide +kernel
  ne_zero := by decide +kernel

@[reducible] def gameCurve : CurvePoint CyclicPoint :=
  gameTable.curve (by decide +kernel) (by decide +kernel)

def transcriptAt (context : Bytes) (places : List OrderResidue) : Bytes :=
  context ++ places.flatMap fun P =>
    (Felt.toBytesBe (gameTable.point P).x).toList ++ (Felt.toBytesBe (gameTable.point P).y).toList

def textAt (P : OrderResidue) : SerializablePoint :=
  ⟨(gameTable.point P).x.toHex, (gameTable.point P).y.toHex⟩

attribute [local instance] gameCurve Reference.sha256 numeralParser

def gameKeys : List (PublicKey CyclicPoint × KeyOwnershipProof × Bytes) := [
  (⟨CyclicPoint.mk 2⟩,
    ⟨textAt 4,
      "0x40e90c51c8e9163d8401fe58e9447ed584ece6bd205e58937ecf68e4f6f29a",
      "0x20748628e4748b1ec200ff2c74a23f6ac276735e902f2c49bf67b4727b794b"⟩,
    utf8 "north"),
  (⟨CyclicPoint.mk 3⟩,
    ⟨textAt 6,
      "0x18d85f6531f7de8f9e32157de5d4b6037682eb646c1775389ff61d71a68a010",
      "0x8481fcc65fd4a2fdf660729f746e7567cd64e76ceb27c68355209d08cd8aae"⟩,
    utf8 "south")]

def gameSecrets : List SecretKey := [⟨2⟩, ⟨3⟩]

def gameAggregate : PublicKey CyclicPoint := ⟨CyclicPoint.mk 5⟩

def gameCards : List (Card CyclicPoint) := [⟨CyclicPoint.mk 7⟩, ⟨CyclicPoint.mk 11⟩]

def gameDeck : List (MaskedCard CyclicPoint) :=
  [⟨CyclicPoint.mk 1, CyclicPoint.mk 12⟩, ⟨CyclicPoint.mk 2, CyclicPoint.mk 21⟩]

def gameRound : ShuffleRound where
  permutation := ⟨[1, 0]⟩
  maskingFactors := [4, 3]
  draws i := ⟨0, if i = 0 then 1 else 2⟩

def gameShuffled : List (MaskedCard CyclicPoint) :=
  [⟨CyclicPoint.mk 6, CyclicPoint.mk 41⟩, ⟨CyclicPoint.mk 4, CyclicPoint.mk 27⟩]

def gameMasked : MaskedCard CyclicPoint := ⟨CyclicPoint.mk 6, CyclicPoint.mk 41⟩

def northToken : RevealToken CyclicPoint × DLEqualityProof × PublicKey CyclicPoint :=
  (⟨CyclicPoint.mk 12⟩,
    ⟨textAt 6, textAt 1,
      "0x18df3f24e5292ca5c02c8d9bfed166e0304eade00afd5585ea38bf932a78c31",
      "0xc6f9f9272949652e01646cdff68b370182756f0057eaac2f51c5fc9953c618"⟩,
    ⟨CyclicPoint.mk 2⟩)

def southToken : RevealToken CyclicPoint × DLEqualityProof × PublicKey CyclicPoint :=
  (⟨CyclicPoint.mk 18⟩,
    ⟨textAt 12, textAt 2,
      "0xeeaaad64b80166c03db65da03b863034ed90293cbd8cafeef3ddfb0244a7fb",
      "0x4f8e39cc3d55cceabf3cc9e013d76566f9dab86994843aa4fbf4a900c18d53"⟩,
    ⟨CyclicPoint.mk 3⟩)

def firstMaskProof : DLEqualityProof where
  a1 := textAt 2
  a2 := textAt 10
  response := "0x4d4638580eed9e466ae529df37014fcf5184c1f806e3607d9d7d4381975c03"
  challenge := "0x4d4638580eed9e466ae529df37014fcf5184c1f806e3607d9d7d4381975c01"

def secondMaskProof : DLEqualityProof where
  a1 := textAt 3
  a2 := textAt 15
  response := "0x128ed57593b86b20ea4282bd5e7f1a6c6b702b222bc0ae0260e7c5a78de3d01"
  challenge := "0x9476abac9dc35907521415eaf3f8d3635b8159115e057013073e2d3c6f1e7f"

lemma game_aggregate : MentalPokerProtocol.computeAggregateKey gameKeys = .ok gameAggregate := by
  unfold MentalPokerProtocol.computeAggregateKey MentalPokerProtocol.addKey
    MentalPokerProtocol.verifyKeyOwnership SchnorrProtocol.verify
  simp only [mul_eq_smul, gameTable.curve_smul]
  decide +kernel

lemma game_masked : List.Forall₂ (fun card masked => ∃ draws r proof,
    MentalPokerProtocol.mask draws card gameAggregate r = .ok (masked, proof))
    gameCards gameDeck := by
  have hf : MentalPokerProtocol.mask ⟨0, 2⟩ ⟨CyclicPoint.mk 7⟩ gameAggregate (some 1) =
      .ok (⟨CyclicPoint.mk 1, CyclicPoint.mk 12⟩, firstMaskProof) := by
    unfold MentalPokerProtocol.mask ChaumPedersenProtocol.prove
    simp only [mul_eq_smul, gameTable.curve_smul]
    decide +kernel
  have hs : MentalPokerProtocol.mask ⟨0, 3⟩ ⟨CyclicPoint.mk 11⟩ gameAggregate (some 2) =
      .ok (⟨CyclicPoint.mk 2, CyclicPoint.mk 21⟩, secondMaskProof) := by
    unfold MentalPokerProtocol.mask ChaumPedersenProtocol.prove
    simp only [mul_eq_smul, gameTable.curve_smul]
    decide +kernel
  exact .cons ⟨_, _, _, hf⟩ (.cons ⟨_, _, _, hs⟩ .nil)

lemma game_honest : List.Forall₂ (HonestToken gameMasked) gameSecrets [northToken, southToken] := by
  have hn : MentalPokerProtocol.computeRevealToken 1 gameMasked ⟨2⟩ northToken.2.2 =
      .ok (northToken.1, northToken.2.1) := by
    unfold MentalPokerProtocol.computeRevealToken ChaumPedersenProtocol.prove
    simp only [mul_eq_smul, gameTable.curve_smul]
    decide +kernel
  have hs : MentalPokerProtocol.computeRevealToken 2 gameMasked ⟨3⟩ southToken.2.2 =
      .ok (southToken.1, southToken.2.1) := by
    unfold MentalPokerProtocol.computeRevealToken ChaumPedersenProtocol.prove
    simp only [mul_eq_smul, gameTable.curve_smul]
    decide +kernel
  have hk : northToken.2.2 = SecretKey.publicKey ⟨2⟩ ∧
      southToken.2.2 = SecretKey.publicKey ⟨3⟩ := by
    unfold SecretKey.publicKey
    simp only [mulGenerator_eq_smul, gameTable.curve_smul]
    decide +kernel
  exact .cons ⟨hk.1, 1, hn⟩ (.cons ⟨hk.2, 2, hs⟩ .nil)

/-- The first card of the shuffled deck is the second of the cards, and the tokens open it. -/
theorem game_revealed :
    composedIndex [gameRound] 0 = some 1 ∧
      MentalPokerProtocol.unmask gameMasked [northToken, southToken] =
        .ok ⟨CyclicPoint.mk 11⟩ := by
  have hr : Returns (runRounds gameAggregate gameDeck [gameRound]) gameShuffled := by
    unfold runRounds MentalPokerProtocol.shuffleAndRemask MentalPokerProtocol.remask
      ChaumPedersenProtocol.prove
    simp only [mul_eq_smul, gameTable.curve_smul]
    decide +kernel
  have hp : gameShuffled[0]? = some gameMasked := rfl
  have hs : gameKeys.map Prod.fst = gameSecrets.map SecretKey.publicKey := by
    unfold SecretKey.publicKey
    simp only [mulGenerator_eq_smul, gameTable.curve_smul]
    decide +kernel
  have hrs : ∀ entry ∈ [northToken, southToken],
      FeltParser.fromHex entry.2.1.response ≠ .ok 0 := by decide +kernel
  obtain ⟨k, card, hin, hc, hh, -⟩ :=
    reveal_original_card numeralParser_exact game_aggregate game_masked hr hp
  have hk : composedIndex [gameRound] 0 = some 1 := by decide
  rw [hk, Option.some.injEq] at hin
  rw [← hin] at hc
  have ho := (hh gameSecrets _ hs game_honest).1.mpr hrs
  rw [← Option.some.inj hc] at ho
  exact ⟨hk, ho⟩

end Sample

end KrustyKms.MentalPoker

import KrustyKms.AccountClass.ArgentDecodeTheorems
import KrustyKms.AccountClass.Inspect
import KrustyKms.Support.Fallible

/-!
# Which deployments are reported as derivable from a seed

`SeedDeployment owner deployment` says it without the code: the class is known, the calldata is
what the class's constructor takes from a lone owner, and the salt is the owner's key, or zero
where OpenZeppelin allows it.
-/

namespace KrustyKms.AccountClass

open Crypto Account StarkSigning Support Support.MayPanic DeploymentInspection

/-! ## Deployments of a lone owner -/

def SeedCalldata (owner : Felt) (calldata : List Felt) : ConstructorShape → Prop
  | .publicKey => calldata = [owner]
  | .argentOwnerGuardianFelts =>
    calldata = ArgentConstructorLayout.ownerGuardianFelts.constructorCalldata owner
  | .argentSignerWithOptionalGuardian =>
    calldata = ArgentConstructorLayout.signerWithOptionalGuardian.constructorCalldata owner
  | .argentCairo0Proxy =>
    ∃ implementation, ArgentCairo0.isKnownImplementation implementation = true ∧
      calldata = ArgentCairo0.constructorCalldata implementation owner

variable {owner key : Felt} {known : KnownAccountClass}

lemma seedCalldata_ofLayout {calldata : List Felt} {layout : ArgentConstructorLayout} :
    SeedCalldata owner calldata (.ofLayout layout) ↔
      calldata = layout.constructorCalldata owner := by
  cases layout <;> rfl

lemma SeedCalldata.length_lt {calldata : List Felt} {shape : ConstructorShape}
    (h : SeedCalldata owner calldata shape) : calldata.length < 2 ^ 64 := by
  have hf : calldata.length ≤ 5 := by
    cases shape with
    | publicKey | argentOwnerGuardianFelts | argentSignerWithOptionalGuardian =>
      rw [h]
      exact of_decide_eq_true rfl
    | argentCairo0Proxy =>
      obtain ⟨implementation, -, rfl⟩ := h
      exact le_rfl
  omega

lemma ofLayout_injective : Function.Injective ConstructorShape.ofLayout := by
  intro a b h
  cases a <;> cases b <;> first | rfl | cases h

structure SeedDeployment (owner : Felt) (deployment : Deployment) (known : KnownAccountClass)
    (shape : ConstructorShape) : Prop where
  lookup : lookupAccountClass deployment.classHash = some known
  constructor_eq : known.constructor = some shape
  calldata : SeedCalldata owner deployment.constructorCalldata shape
  salt : deployment.salt = owner ∨
    shape = .publicKey ∧ known.family = .openZeppelin ∧ deployment.salt = 0

lemma SeedDeployment.salt_eq {deployment : Deployment}
    {shape : ConstructorShape} (h : SeedDeployment owner deployment known shape)
    (hne : shape ≠ .publicKey ∨ known.family ≠ .openZeppelin) : deployment.salt = owner := by
  refine h.salt.resolve_right ?_
  intro hz
  rcases hne with hne | hne
  · exact hne hz.1
  · exact hne hz.2.1

def Reports (inspection : DeploymentInspection) (owner : Felt) : Prop :=
  inspection.derivability = .fromSeed ∧ inspection.ownerPublicKey = some owner

@[simp] lemma reports_fromSeed :
    Reports (fromSeed known key) owner ↔ key = owner := by
  simp [Reports, fromSeed]

@[simp] lemma not_reports_notFromSeed {key : Option Felt} {reason : NotDerivableReason} :
    ¬ Reports (notFromSeed known key reason) owner := by
  simp [Reports, notFromSeed]

@[simp] lemma not_reports_guarded
    {guardian : Option Felt} : ¬ Reports (guarded known key guardian) owner := by
  simp [Reports, guarded]

@[simp] lemma not_reports_unknownClass {known : Option KnownAccountClass} :
    ¬ Reports (unknownClass known) owner := by
  simp [Reports, unknownClass]

lemma reports_ownerSaltVerdict {salt : Felt} :
    Reports (ownerSaltVerdict known key salt) owner ↔ key = owner ∧ salt = owner := by
  unfold ownerSaltVerdict
  split_ifs with h
  · rw [reports_fromSeed, h]
    simp
  · refine iff_of_false not_reports_notFromSeed ?_
    intro hb
    exact h (hb.2.trans hb.1.symm)

/-! ## The constructors -/

section

variable [FeltSqrt]

variable {known : KnownAccountClass} {owner salt : Felt} {calldata : List Felt}
  {deployment : Deployment}

lemma reports_malformedOwner {key : Felt} {verdict : DeploymentInspection} :
    Reports ((malformedOwner known key).getD verdict) owner ↔
      isStarkPublicKey key = true ∧ Reports verdict owner := by
  unfold malformedOwner
  cases isStarkPublicKey key with
  | false => simp
  | true => simp

lemma reports_inspectPublicKeyConstructor :
    Reports (inspectPublicKeyConstructor known salt calldata) owner ↔
      calldata = [owner] ∧ isStarkPublicKey owner = true ∧
        (salt = owner ∨ known.family = .openZeppelin ∧ salt = 0) := by
  unfold inspectPublicKeyConstructor
  split
  · rename_i key
    rw [List.singleton_inj]
    cases hkey : isStarkPublicKey key with
    | false =>
      refine iff_of_false (by simp) ?_
      intro h
      rw [← h.1, hkey] at h
      cases h.2.1
    | true =>
      simp only [Bool.not_true, Bool.false_eq_true, if_false]
      split_ifs with hs
      · rw [reports_fromSeed]
        constructor
        · intro h
          subst h
          exact ⟨rfl, hkey, hs⟩
        · exact fun h => h.1
      · refine iff_of_false not_reports_notFromSeed ?_
        intro h
        rw [← h.1] at h
        exact hs h.2.2
  · rename_i hsh
    refine iff_of_false not_reports_notFromSeed ?_
    intro h
    exact hsh owner h.1

lemma reports_argentVerdict {decoded : Result DecodedArgentConstructor} :
    Reports (argentVerdict known salt decoded) owner ↔
      decoded = .ok (.starknetOwnerNoGuardian owner) ∧ isStarkPublicKey owner = true ∧
        salt = owner := by
  match decoded with
  | .error _ => simp [argentVerdict]
  | .ok (.nonStarknetOwner _) => simp [argentVerdict]
  | .ok (.starknetOwnerWithGuardian key guardian) => simp [argentVerdict, reports_malformedOwner]
  | .ok (.starknetOwnerNoGuardian key) =>
    rw [argentVerdict, reports_malformedOwner, reports_ownerSaltVerdict, Except.ok.injEq,
      DecodedArgentConstructor.starknetOwnerNoGuardian.injEq]
    constructor
    · intro h
      exact ⟨h.2.1, h.2.1 ▸ h.1, h.2.2⟩
    · intro h
      exact ⟨h.1 ▸ h.2.1, h.1, h.2.2⟩

lemma reports_inspectArgentConstructor [Target] {layout : ArgentConstructorLayout} :
    (∃ inspection, inspectArgentConstructor known (.ofLayout layout) salt calldata =
        some inspection ∧ Reports inspection owner) ↔
      (owner ≠ 0 ∧ calldata = layout.constructorCalldata owner) ∧
        isStarkPublicKey owner = true ∧ salt = owner := by
  have hl : (ConstructorShape.ofLayout layout).argentLayout = some layout := by
    cases layout <;> rfl
  rw [← returns_decode_noGuardian, Returns]
  unfold inspectArgentConstructor
  simp only [hl, Option.bind_eq_bind, Option.bind_some, Option.bind_eq_some_iff,
    Option.pure_def, Option.some.injEq]
  constructor
  · intro h
    obtain ⟨inspection, ⟨decoded, hd, rfl⟩, hr⟩ := h
    obtain ⟨rfl, hv⟩ := reports_argentVerdict.mp hr
    exact ⟨hd, hv⟩
  · intro h
    exact ⟨_, ⟨_, h.1, rfl⟩, reports_argentVerdict.mpr ⟨rfl, h.2⟩⟩

lemma reports_inspectArgentCairo0Proxy :
    Reports (inspectArgentCairo0Proxy known salt calldata) owner ↔
      (∃ implementation, ArgentCairo0.isKnownImplementation implementation = true ∧
        calldata = ArgentCairo0.constructorCalldata implementation owner) ∧
        isStarkPublicKey owner = true ∧ salt = owner := by
  unfold inspectArgentCairo0Proxy
  constructor
  · intro h
    split at h
    · rename_i implementation selector arity key guardian
      by_cases hc : selector ≠ ArgentCairo0.initializeSelector ∨ arity ≠ 2
      · rw [if_pos hc] at h
        exact absurd h not_reports_notFromSeed
      rw [if_neg hc, reports_malformedOwner] at h
      rw [not_or, not_not, not_not] at hc
      obtain ⟨hkey, h⟩ := h
      split_ifs at h with hk hg
      · exact absurd h not_reports_notFromSeed
      · exact absurd h not_reports_guarded
      rw [Bool.not_eq_true', Bool.not_eq_false] at hk
      rw [not_not] at hg
      obtain ⟨rfl, hs⟩ := reports_ownerSaltVerdict.mp h
      refine ⟨⟨implementation, hk, ?_⟩, hkey, hs⟩
      rw [hc.1, hc.2, hg]
      rfl
    · exact absurd h not_reports_notFromSeed
  · intro h
    obtain ⟨⟨implementation, hk, rfl⟩, hkey, hs⟩ := h
    simp only [ArgentCairo0.constructorCalldata, ArgentCairo0.constructorCalldataWithGuardian,
      ne_eq, not_true_eq_false, or_self, if_false, hk, Bool.not_true, Bool.false_eq_true]
    exact reports_malformedOwner.mpr ⟨hkey, reports_ownerSaltVerdict.mpr ⟨rfl, hs⟩⟩

/-! ## The inspection -/

variable [Target]

omit [FeltSqrt] [Target] in
lemma exists_seedDeployment_iff
    {shape : ConstructorShape} (hl : lookupAccountClass deployment.classHash = some known)
    (hs : known.constructor = some shape) :
    (∃ known shape, SeedDeployment owner deployment known shape) ↔
      SeedCalldata owner deployment.constructorCalldata shape ∧
        (deployment.salt = owner ∨
          shape = .publicKey ∧ known.family = .openZeppelin ∧ deployment.salt = 0) := by
  constructor
  · intro h
    obtain ⟨known', shape', h⟩ := h
    obtain rfl : known' = known := Option.some.inj (h.lookup.symm.trans hl)
    obtain rfl : shape' = shape := Option.some.inj (h.constructor_eq.symm.trans hs)
    exact ⟨h.calldata, h.salt⟩
  · intro h
    exact ⟨known, shape, hl, hs, h.1, h.2⟩

lemma reports_argent (hk : ∀ x, isStarkPublicKey x = true → x ≠ 0) {known : KnownAccountClass}
    {layout : ArgentConstructorLayout} {salt owner : Felt} {calldata : List Felt} :
    (∃ inspection, inspectArgentConstructor known (.ofLayout layout) salt calldata =
        some inspection ∧ Reports inspection owner) ↔
      isStarkPublicKey owner = true ∧ SeedCalldata owner calldata (.ofLayout layout) ∧
        (salt = owner ∨
          ConstructorShape.ofLayout layout = .publicKey ∧ known.family = .openZeppelin ∧
            salt = 0) := by
  have hs : ConstructorShape.ofLayout layout ≠ .publicKey := by
    cases layout <;> decide
  rw [reports_inspectArgentConstructor, seedCalldata_ofLayout]
  constructor
  · intro h
    exact ⟨h.2.1, h.1.2, .inl h.2.2⟩
  · intro h
    obtain ⟨hkey, hc, hsl⟩ := h
    exact ⟨⟨hk owner hkey, hc⟩, hkey, hsl.resolve_right fun h => hs h.1⟩

lemma reports_classify (hk : ∀ x, isStarkPublicKey x = true → x ≠ 0) :
    (∃ inspection, classify deployment.classHash deployment.salt deployment.constructorCalldata =
        some inspection ∧ Reports inspection owner) ↔
      isStarkPublicKey owner = true ∧
        ∃ known shape, SeedDeployment owner deployment known shape := by
  unfold classify
  cases hl : lookupAccountClass deployment.classHash with
  | none =>
    refine iff_of_false (by simp) ?_
    intro h
    obtain ⟨-, known, shape, h⟩ := h
    rw [h.lookup] at hl
    cases hl
  | some known =>
    dsimp only
    cases hs : known.constructor with
    | none =>
      refine iff_of_false (by simp) ?_
      intro h
      obtain ⟨-, known', shape, h⟩ := h
      obtain rfl : known' = known := Option.some.inj (h.lookup.symm.trans hl)
      rw [h.constructor_eq] at hs
      cases hs
    | some shape =>
      rw [exists_seedDeployment_iff hl hs]
      cases shape with
      | publicKey =>
        simp only [Option.some.injEq, exists_eq_left', reports_inspectPublicKeyConstructor,
          SeedCalldata, true_and]
        tauto
      | argentOwnerGuardianFelts =>
        have ho := @reports_argent _ _ hk known .ownerGuardianFelts deployment.salt owner
          deployment.constructorCalldata
        exact ho
      | argentSignerWithOptionalGuardian =>
        have ho := @reports_argent _ _ hk known .signerWithOptionalGuardian
          deployment.salt owner deployment.constructorCalldata
        exact ho
      | argentCairo0Proxy =>
        simp only [Option.some.injEq, exists_eq_left', reports_inspectArgentCairo0Proxy,
          SeedCalldata, reduceCtorEq, false_and, or_false]
        tauto

variable [Pedersen] [NormalizeAddress]

def Deployment.contractAddress (deployment : Deployment) : Felt :=
  NormalizeAddress.normalizeAddress (hashElements [prefixFelt, 0, deployment.salt,
    deployment.classHash, hashElements deployment.constructorCalldata])

omit [FeltSqrt] [Target] in
lemma Deployment.address_eq (deployment : Deployment) :
    deployment.address = .ok deployment.contractAddress :=
  calculateContractAddress_eq _ _ _

lemma inspectDeployment_eq_some {inspection : DeploymentInspection} :
    inspectDeployment deployment.classHash deployment.salt deployment.constructorCalldata =
        some inspection ↔
      ∃ verdict, classify deployment.classHash deployment.salt deployment.constructorCalldata =
        some verdict ∧ { verdict with address := deployment.contractAddress } = inspection := by
  have ha : calculateContractAddress deployment.salt deployment.classHash
      deployment.constructorCalldata 0 = .ok deployment.contractAddress := deployment.address_eq
  unfold inspectDeployment
  rw [ha]
  simp only [Except.toOption, Option.bind_eq_bind, Option.bind_eq_some_iff, Option.bind_some,
    Option.pure_def, Option.some.injEq]

/-- **What is reported as derivable from a seed is what a lone owner deploys**, where the
owner is the x-coordinate of a point. -/
theorem inspectDeployment_fromSeed_iff [StarknetCrypto] (hc : SoundCurve) :
    (∃ inspection,
      inspectDeployment deployment.classHash deployment.salt deployment.constructorCalldata =
        some inspection ∧ Reports inspection owner) ↔
      IsAbscissa owner ∧ ∃ known shape, SeedDeployment owner deployment known shape := by
  have hk : ∀ x, isStarkPublicKey x = true → x ≠ 0 := fun x hx =>
    ((isStarkPublicKey_iff hc x).mp hx).ne_zero
  rw [← isStarkPublicKey_iff hc, ← reports_classify hk]
  simp only [inspectDeployment_eq_some]
  constructor
  · intro h
    obtain ⟨inspection, ⟨verdict, hv, rfl⟩, hr⟩ := h
    exact ⟨verdict, hv, hr⟩
  · intro h
    obtain ⟨verdict, hv, hr⟩ := h
    exact ⟨_, ⟨verdict, hv, rfl⟩, hr⟩

end

/-! ## Addresses tell deployments -/

section

variable [Pedersen] [NormalizeAddress]

def Deployment.elements (deployment : Deployment) : List Felt :=
  [prefixFelt, 0, deployment.salt, deployment.classHash,
    hashElements deployment.constructorCalldata]

def Deployment.hashedPairs (deployment : Deployment) : List (Felt × Felt) :=
  elementPairs deployment.constructorCalldata ++ elementPairs deployment.elements

/-- No collisions among the addresses: neither of the Pedersen hash, on the pairs that are
hashed for them, nor of the reduction of the final hashes. -/
structure CollisionFree (deployments : Set Deployment) : Prop where
  pedersen : Set.InjOn (fun p : Felt × Felt => Pedersen.hash p.1 p.2)
    {p | ∃ deployment ∈ deployments, p ∈ deployment.hashedPairs}
  normalize : Set.InjOn NormalizeAddress.normalizeAddress
    {hash | ∃ deployment ∈ deployments, hash = hashElements deployment.elements}

theorem CollisionFree.contractAddress_inj {deployments : Set Deployment}
    (hf : CollisionFree deployments) {d d' : Deployment} (hd : d ∈ deployments)
    (hd' : d' ∈ deployments) (hl : d.constructorCalldata.length < 2 ^ 64)
    (hl' : d'.constructorCalldata.length < 2 ^ 64)
    (h : d.contractAddress = d'.contractAddress) : d = d' := by
  have hh : hashElements d.elements = hashElements d'.elements :=
    hf.normalize ⟨d, hd, rfl⟩ ⟨d', hd', rfl⟩ h
  have hel : d.elements = d'.elements := by
    have hfv : ∀ d : Deployment, d.elements.length < 2 ^ 64 := fun d => by
      show 5 < 2 ^ 64
      decide
    refine hashElements_injective hf.pedersen (hfv d) (hfv d') ?_ ?_ hh
    · exact fun p hp => ⟨d, hd, List.mem_append_right _ hp⟩
    · exact fun p hp => ⟨d', hd', List.mem_append_right _ hp⟩
  simp only [Deployment.elements, List.cons.injEq, and_true, true_and] at hel
  obtain ⟨hs, hc, hcl⟩ := hel
  refine Deployment.ext hc hs ?_
  refine hashElements_injective hf.pedersen hl hl' ?_ ?_ hcl
  · exact fun p hp => ⟨d, hd, List.mem_append_left _ hp⟩
  · exact fun p hp => ⟨d', hd', List.mem_append_left _ hp⟩

end

end KrustyKms.AccountClass

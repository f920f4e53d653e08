import KrustyKms.AccountClass.InspectTheorems
import KrustyKms.Bitcoin.Bip32Theorems
import KrustyKms.Discovery.Generate
import KrustyKms.Support.HashChain

/-!
# Discovery and inspection

Both scans derive the same keys, two for each index (`discoveryKeys`), and a candidate is one row
of a table over the keys of its index.
-/

namespace KrustyKms.Discovery

open Codec Crypto Account AccountClass KrustyKms.Derivation Secp256k1 StarkSigning Support

lemma feltHex_injective : Function.Injective feltHex := by
  intro a b h
  have hd : lowerHex a.val = lowerHex b.val := by
    simpa [feltHex, Felt.toHex] using h
  exact ZMod.val_injective fieldPrime (lowerHex_injective hd)

/-! ## The keys of a scan -/

structure IndexKeys where
  direct : DerivedKey
  legacy : DerivedKey

def IndexKeys.key (keys : IndexKeys) : DerivationType → DerivedKey
  | .direct => keys.direct
  | .argentLegacy => keys.legacy

def DerivedKey.keypair (key : DerivedKey) (derivationType : DerivationType) : DerivedKeypair where
  derivationType
  publicKey := feltHex key.publicKey
  privateKey := feltHex key.privateKey
  derivationIndex := key.index
  derivationPath := key.path

def IndexKeys.keypairs (keys : IndexKeys) : List DerivedKeypair :=
  [keys.direct.keypair .direct, keys.legacy.keypair .argentLegacy]

lemma mem_keypairs {keys : IndexKeys} {keypair : DerivedKeypair} :
    keypair ∈ keys.keypairs ↔ ∃ scheme, keypair = (keys.key scheme).keypair scheme := by
  rw [IndexKeys.keypairs, List.mem_cons, List.mem_singleton]
  constructor
  · intro h
    rcases h with h | h
    · exact ⟨.direct, h⟩
    · exact ⟨.argentLegacy, h⟩
  · intro h
    obtain ⟨scheme, h⟩ := h
    cases scheme with
    | direct => exact .inl h
    | argentLegacy => exact .inr h

section Keys

variable [Points] [Sha256] [Bip39] [StarknetCrypto]

def keysAt (hmac : Hmac) (mnemonic : String) (index : UInt32) : Result IndexKeys := do
  let directPk ← derivePrivateKeyWithCoinType hmac mnemonic index 0 starknetCoinType none
  let directPubk ← starkPublicKey directPk
  let legacyPk ← deriveArgentLegacyPrivateKey hmac mnemonic index 0
  let legacyPubk ← starkPublicKey legacyPk
  pure
    { direct := ⟨directPk, directPubk, index, s!"m/44'/9004'/0'/0/{index}"⟩
      legacy := ⟨legacyPk, legacyPubk, index, s!"m/44'/60'/0'/0/0 -> m/44'/9004'/0'/0/{index}"⟩ }

def discoveryKeys (hmac : Hmac) (mnemonic : String) (maxIndex : UInt32) :
    Result (List IndexKeys) := do
  validateDiscoveryInputs mnemonic maxIndex
  ((List.range maxIndex.toNat).map UInt32.ofNat).mapM (keysAt hmac mnemonic)

variable {hmac : Hmac} {mnemonic : String} {maxIndex : UInt32}

lemma map_keysAt {γ : Type} (index : UInt32) {k : Felt → Felt → Felt → Felt → Result γ}
    {g : IndexKeys → γ}
    (h : ∀ directPk directPubk legacyPk legacyPubk, k directPk directPubk legacyPk legacyPubk =
    .ok (g ⟨⟨directPk, directPubk, index, s!"m/44'/9004'/0'/0/{index}"⟩,
    ⟨legacyPk, legacyPubk, index, s!"m/44'/60'/0'/0/0 -> m/44'/9004'/0'/0/{index}"⟩⟩)) :
    (do
      let directPk ← derivePrivateKeyWithCoinType hmac mnemonic index 0 starknetCoinType none
      let directPubk ← starkPublicKey directPk
      let legacyPk ← deriveArgentLegacyPrivateKey hmac mnemonic index 0
      let legacyPubk ← starkPublicKey legacyPk
      k directPk directPubk legacyPk legacyPubk) = (keysAt hmac mnemonic index).map g := by
  unfold keysAt
  simp only [h]
  cases derivePrivateKeyWithCoinType hmac mnemonic index 0 starknetCoinType none with
  | error e => rfl
  | ok directPk =>
    cases hd : starkPublicKey directPk with
    | error e => simp [bind, Except.bind, Except.map, hd]
    | ok directPubk =>
      cases deriveArgentLegacyPrivateKey hmac mnemonic index 0 with
      | error e => simp [bind, Except.bind, Except.map, hd]
      | ok legacyPk =>
        cases hl : starkPublicKey legacyPk with
        | error e => simp [bind, Except.bind, Except.map, hd, hl]
        | ok legacyPubk => simp [bind, Except.bind, Except.map, pure, Except.pure, hd, hl]

lemma foldlM_keysAt {β : Type} {step : List β → UInt32 → Result (List β)} {g : IndexKeys → List β}
    (hs : ∀ out index,
    step out index = (keysAt hmac mnemonic index).map (fun keys => out ++ g keys)) :
    (do
      validateDiscoveryInputs mnemonic maxIndex
      ((List.range maxIndex.toNat).map UInt32.ofNat).foldlM step []) =
      (discoveryKeys hmac mnemonic maxIndex).map (·.flatMap g) := by
  unfold discoveryKeys
  cases validateDiscoveryInputs mnemonic maxIndex with
  | error e => rfl
  | ok _ =>
    have hl := foldlM_append hs ((List.range maxIndex.toNat).map UInt32.ofNat) []
    simp only [List.nil_append] at hl
    exact hl

lemma deriveDiscoveryKeypairs_eq :
    deriveDiscoveryKeypairs hmac mnemonic maxIndex =
      (discoveryKeys hmac mnemonic maxIndex).map (·.flatMap IndexKeys.keypairs) := by
  apply foldlM_keysAt
  intro out index
  refine map_keysAt index ?_
  intro directPk directPubk legacyPk legacyPubk
  exact congrArg Except.ok (List.append_assoc _ _ _)

end Keys

/-! ## The rows of an index -/

structure Row where
  scheme : DerivationType
  walletType : WalletType
  deployment : Deployment
  classVersion : String

def rowsOf (scheme : DerivationType) (walletType : WalletType)
    (deployments : List (Deployment × String)) : List Row :=
  deployments.map fun (deployment, classVersion) => ⟨scheme, walletType, deployment, classVersion⟩

def IndexKeys.rows (keys : IndexKeys) : List Row :=
  let classes := DiscoveryClasses.load
  rowsOf .direct .braavos (classes.braavosDeployments keys.direct.publicKey) ++
  rowsOf .direct .argent (classes.argentDeployments keys.direct.publicKey) ++
  rowsOf .direct .openZeppelin (classes.ozDeployments keys.direct.publicKey) ++
  rowsOf .argentLegacy .argentLegacy (classes.argentDeployments keys.legacy.publicKey) ++
  rowsOf .argentLegacy .argentCairo0 (classes.argentCairo0Deployments keys.legacy.publicKey)

section Rows

variable [Pedersen] [NormalizeAddress]

def IndexKeys.candidate (keys : IndexKeys) (row : Row) : CandidateAccount :=
  (keys.key row.scheme).candidate row.walletType row.deployment.classHash
    row.deployment.contractAddress row.classVersion

variable {β : Type} {record : Deployment → CandidateAccount → β}

lemma pushCandidates_eq (out : List β) (key : DerivedKey) (walletType : WalletType)
    (deployments : List (Deployment × String)) :
    pushCandidates record out key walletType deployments =
      .ok (out ++ deployments.map fun (deployment, classVersion) =>
        record deployment (key.candidate walletType deployment.classHash
          deployment.contractAddress classVersion)) := by
  induction deployments generalizing out with
  | nil => simp [pushCandidates, pure, Except.pure]
  | cons entry deployments ih =>
    obtain ⟨deployment, classVersion⟩ := entry
    have hr : pushCandidates record out key walletType
        ((deployment, classVersion) :: deployments) =
        pushCandidates record (out ++ [record deployment (key.candidate walletType
          deployment.classHash deployment.contractAddress classVersion)]) key walletType
          deployments := by
      unfold pushCandidates
      rw [List.foldlM_cons]
      dsimp only
      rw [deployment.address_eq]
      rfl
    rw [hr, ih, List.append_assoc]
    rfl

variable [Points] [Sha256] [Bip39] [StarknetCrypto] {hmac : Hmac} {mnemonic : String}
  {maxIndex : UInt32}

lemma generateCandidatesWith_eq :
    generateCandidatesWith record hmac mnemonic maxIndex =
      (discoveryKeys hmac mnemonic maxIndex).map (·.flatMap fun keys =>
        keys.rows.map fun row => record row.deployment (keys.candidate row)) := by
  apply foldlM_keysAt
  intro out index
  unfold pushBraavosCandidates pushArgentCairo1Candidates pushOzCandidates
    pushArgentCairo0Candidates
  simp only [pushCandidates_eq]
  refine map_keysAt index ?_
  intro directPk directPubk legacyPk legacyPubk
  simp [bind, Except.bind, IndexKeys.rows, rowsOf, IndexKeys.candidate, IndexKeys.key,
    Function.comp_def]

end Rows

/-! ## The tables -/

lemma classHash_nodup : (knownAccountClasses.map KnownAccountClass.classHash).Nodup := by
  decide

variable {known : KnownAccountClass}

lemma lookupAccountClass_eq_some {classHash : Felt} :
    lookupAccountClass classHash = some known ↔
      known ∈ knownAccountClasses ∧ known.classHash = classHash :=
  find?_key_eq_some classHash_nodup

def fitsConstructor (known : KnownAccountClass) : Bool :=
  match known.constructor with
  | none => !known.isDeploymentClass
  | some .publicKey => known.family ≠ .argent && known.isDeploymentClass
  | some .argentCairo0Proxy =>
    known.family = .argent && known.classHash = ArgentCairo0.proxyClassHash
  | some shape => known.family = .argent && ArgentAccount.knownClasses.any fun entry =>
      entry.1 = known.classHash && .ofLayout entry.2.2 = shape

lemma fitsConstructor_of_mem : ∀ known ∈ knownAccountClasses, fitsConstructor known = true := by
  decide

lemma exists_known_argent : ∀ entry ∈ ArgentAccount.knownClasses,
    ∃ known ∈ knownAccountClasses, known.classHash = entry.1 ∧
      known.constructor = some (.ofLayout entry.2.2) := by
  decide

lemma exists_known_proxy : ∃ known ∈ knownAccountClasses,
    known.classHash = ArgentCairo0.proxyClassHash ∧
      known.constructor = some .argentCairo0Proxy := by
  decide

variable {publicKey : Felt} {deployment : Deployment}

lemma mem_deploymentClasses {family : AccountFamily} (hfm : family ≠ .argent) :
    known ∈ deploymentClasses family ↔
      known ∈ knownAccountClasses ∧ known.family = family ∧
        known.constructor = some .publicKey := by
  rw [deploymentClasses, List.mem_filter, Bool.and_eq_true, decide_eq_true_eq]
  constructor
  · intro h
    obtain ⟨hmem, rfl, hd⟩ := h
    have hf := fitsConstructor_of_mem known hmem
    unfold fitsConstructor at hf
    refine ⟨hmem, rfl, ?_⟩
    -- the constructors other than `[public_key]` belong to Argent, or to no deployment
    split at hf
    · rw [hd] at hf
      cases hf
    · assumption
    · simp [hfm] at hf
    · simp [hfm] at hf
  · intro h
    obtain ⟨hmem, rfl, hc⟩ := h
    have hf := fitsConstructor_of_mem known hmem
    simp only [fitsConstructor, hc, Bool.and_eq_true] at hf
    exact ⟨hmem, rfl, hf.2⟩

lemma exists_entry_argent (hmem : known ∈ knownAccountClasses) {layout : ArgentConstructorLayout}
    (hc : known.constructor = some (.ofLayout layout)) :
    ∃ entry ∈ ArgentAccount.knownClasses, entry.1 = known.classHash ∧
      ConstructorShape.ofLayout entry.2.2 = .ofLayout layout := by
  have hf := fitsConstructor_of_mem known hmem
  unfold fitsConstructor at hf
  cases layout with
  | ownerGuardianFelts =>
    have hs : known.constructor = some .argentOwnerGuardianFelts := hc
    simp only [hs, Bool.and_eq_true, List.any_eq_true, decide_eq_true_eq] at hf
    exact hf.2
  | signerWithOptionalGuardian =>
    have hs : known.constructor = some .argentSignerWithOptionalGuardian := hc
    simp only [hs, Bool.and_eq_true, List.any_eq_true, decide_eq_true_eq] at hf
    exact hf.2

lemma shape_cases {shape : ConstructorShape} (h : SeedDeployment publicKey deployment known shape) :
    (shape = .publicKey ∧ (known.family = .braavos ∨ known.family = .openZeppelin)) ∨
      (known.family = .argent ∧ ((∃ layout, shape = .ofLayout layout) ∨
        shape = .argentCairo0Proxy)) := by
  have hmem := (lookupAccountClass_eq_some.mp h.lookup).1
  have hf := fitsConstructor_of_mem known hmem
  cases shape with
  | publicKey =>
    simp only [fitsConstructor, h.constructor_eq, Bool.and_eq_true, decide_eq_true_eq] at hf
    refine .inl ⟨rfl, ?_⟩
    cases hfm : known.family with
    | argent => exact absurd hfm hf.1
    | braavos => exact .inl rfl
    | openZeppelin => exact .inr rfl
  | argentOwnerGuardianFelts =>
    simp only [fitsConstructor, h.constructor_eq, Bool.and_eq_true, decide_eq_true_eq] at hf
    exact .inr ⟨hf.1, .inl ⟨.ownerGuardianFelts, rfl⟩⟩
  | argentSignerWithOptionalGuardian =>
    simp only [fitsConstructor, h.constructor_eq, Bool.and_eq_true, decide_eq_true_eq] at hf
    exact .inr ⟨hf.1, .inl ⟨.signerWithOptionalGuardian, rfl⟩⟩
  | argentCairo0Proxy =>
    simp only [fitsConstructor, h.constructor_eq, Bool.and_eq_true, decide_eq_true_eq] at hf
    exact .inr ⟨hf.1, .inr rfl⟩

lemma braavosDeployments_exact :
    (∃ version, (deployment, version) ∈ DiscoveryClasses.load.braavosDeployments publicKey) ↔
      ∃ known, SeedDeployment publicKey deployment known .publicKey ∧
        known.family = .braavos := by
  simp only [DiscoveryClasses.braavosDeployments, DiscoveryClasses.load, List.mem_map,
    Prod.mk.injEq]
  constructor
  · intro h
    obtain ⟨version, known, hmem, rfl, -⟩ := h
    obtain ⟨hmem, hf, hc⟩ := (mem_deploymentClasses (by decide)).mp hmem
    refine ⟨known, ⟨?_, hc, rfl, .inl rfl⟩, hf⟩
    exact lookupAccountClass_eq_some.mpr ⟨hmem, rfl⟩
  · intro h
    obtain ⟨known, hs, hf⟩ := h
    obtain ⟨hmem, hh⟩ := lookupAccountClass_eq_some.mp hs.lookup
    have hk := (mem_deploymentClasses (by decide)).mpr ⟨hmem, hf, hs.constructor_eq⟩
    refine ⟨_, known, hk, ?_, rfl⟩
    have hsl := hs.salt_eq (.inr (by rw [hf]; decide))
    exact Deployment.ext hh hsl.symm hs.calldata.symm

lemma ozDeployments_exact :
    (∃ version, (deployment, version) ∈ DiscoveryClasses.load.ozDeployments publicKey) ↔
      ∃ known, SeedDeployment publicKey deployment known .publicKey ∧
        known.family = .openZeppelin := by
  simp only [DiscoveryClasses.ozDeployments, DiscoveryClasses.load, List.mem_flatMap,
    List.mem_cons, List.not_mem_nil, or_false, Prod.mk.injEq]
  constructor
  · intro h
    obtain ⟨version, known, hmem, h⟩ := h
    obtain ⟨hmem, hf, hc⟩ := (mem_deploymentClasses (by decide)).mp hmem
    have hl := lookupAccountClass_eq_some.mpr ⟨hmem, rfl⟩
    -- the two salts
    rcases h with ⟨rfl, -⟩ | ⟨rfl, -⟩
    · exact ⟨known, ⟨hl, hc, rfl, .inl rfl⟩, hf⟩
    · exact ⟨known, ⟨hl, hc, rfl, .inr ⟨rfl, hf, rfl⟩⟩, hf⟩
  · intro h
    obtain ⟨known, hs, hf⟩ := h
    obtain ⟨hmem, hh⟩ := lookupAccountClass_eq_some.mp hs.lookup
    have hk := (mem_deploymentClasses (by decide)).mpr ⟨hmem, hf, hs.constructor_eq⟩
    rcases hs.salt with hsl | ⟨-, -, hsl⟩
    · refine ⟨_, known, hk, .inl ⟨?_, rfl⟩⟩
      exact Deployment.ext hh.symm hsl hs.calldata
    · refine ⟨_, known, hk, .inr ⟨?_, rfl⟩⟩
      exact Deployment.ext hh.symm hsl hs.calldata

lemma argentDeployments_exact :
    (∃ version, (deployment, version) ∈ DiscoveryClasses.load.argentDeployments publicKey) ↔
      ∃ known layout, SeedDeployment publicKey deployment known (.ofLayout layout) := by
  simp only [DiscoveryClasses.argentDeployments, DiscoveryClasses.load, List.mem_map,
    List.mem_insertionSort, Prod.mk.injEq]
  constructor
  · intro h
    obtain ⟨version, entry, hen, rfl, -⟩ := h
    obtain ⟨known, hmem, hh, hc⟩ := exists_known_argent entry hen
    refine ⟨known, entry.2.2, ?_, hc, seedCalldata_ofLayout.mpr rfl, .inl rfl⟩
    exact lookupAccountClass_eq_some.mpr ⟨hmem, hh⟩
  · intro h
    obtain ⟨known, layout, hs⟩ := h
    obtain ⟨hmem, hh⟩ := lookupAccountClass_eq_some.mp hs.lookup
    obtain ⟨entry, hen, heh, hsh⟩ := exists_entry_argent hmem hs.constructor_eq
    have hsl := hs.salt_eq (.inl (by cases layout <;> decide))
    have hcl := seedCalldata_ofLayout.mp hs.calldata
    refine ⟨_, entry, hen, ?_, rfl⟩
    refine Deployment.ext (heh.trans hh) hsl.symm ?_
    rw [hcl, ← ofLayout_injective hsh]
    rfl

lemma argentCairo0Deployments_exact :
    (∃ version, (deployment, version) ∈
        DiscoveryClasses.load.argentCairo0Deployments publicKey) ↔
      ∃ known, SeedDeployment publicKey deployment known .argentCairo0Proxy := by
  simp only [DiscoveryClasses.argentCairo0Deployments, DiscoveryClasses.load, List.mem_map,
    Prod.mk.injEq]
  constructor
  · intro h
    obtain ⟨version, entry, hen, rfl, -⟩ := h
    obtain ⟨known, hmem, hh, hc⟩ := exists_known_proxy
    refine ⟨known, ?_, hc, ⟨entry.1, ?_, rfl⟩, .inl rfl⟩
    · exact lookupAccountClass_eq_some.mpr ⟨hmem, hh⟩
    · exact List.any_eq_true.mpr ⟨entry, hen, by simp⟩
  · intro h
    obtain ⟨known, hs⟩ := h
    obtain ⟨hmem, hh⟩ := lookupAccountClass_eq_some.mp hs.lookup
    have hf := fitsConstructor_of_mem known hmem
    simp only [fitsConstructor, hs.constructor_eq, Bool.and_eq_true, decide_eq_true_eq] at hf
    obtain ⟨implementation, hk, hcl⟩ := hs.calldata
    obtain ⟨entry, hen, him⟩ := List.any_eq_true.mp hk
    rw [decide_eq_true_eq] at him
    refine ⟨_, entry, hen, ?_, rfl⟩
    refine Deployment.ext (hf.2.symm.trans hh) (hs.salt_eq (.inl (by decide))).symm ?_
    rw [hcl, him]

/-! ## The rows are what is derivable -/

def DerivationType.covers : DerivationType → KnownAccountClass → Prop
  | .direct, known => known.constructor ≠ some .argentCairo0Proxy
  | .argentLegacy, known => known.family = .argent

lemma exists_rowsOf {scheme scheme' : DerivationType} {walletType : WalletType}
    {deployments : List (Deployment × String)} :
    (∃ row ∈ rowsOf scheme' walletType deployments,
        row.scheme = scheme ∧ row.deployment = deployment) ↔
      scheme' = scheme ∧ ∃ version, (deployment, version) ∈ deployments := by
  simp only [rowsOf, List.mem_map]
  constructor
  · intro h
    obtain ⟨row, ⟨entry, hen, rfl⟩, hs, rfl⟩ := h
    exact ⟨hs, entry.2, hen⟩
  · intro h
    obtain ⟨hs, version, hen⟩ := h
    exact ⟨_, ⟨_, hen, rfl⟩, hs, rfl⟩

theorem rows_exact (keys : IndexKeys) (scheme : DerivationType) :
    (∃ row ∈ keys.rows, row.scheme = scheme ∧ row.deployment = deployment) ↔
      ∃ known shape, scheme.covers known ∧
        SeedDeployment (keys.key scheme).publicKey deployment known shape := by
  simp only [IndexKeys.rows, List.mem_append, or_and_right, exists_or, exists_rowsOf,
    braavosDeployments_exact, ozDeployments_exact, argentDeployments_exact,
    argentCairo0Deployments_exact]
  cases scheme with
  | direct =>
    simp only [true_and, reduceCtorEq, false_and, or_false, IndexKeys.key,
      DerivationType.covers]
    constructor
    · intro h
      rcases h with (⟨known, h, -⟩ | ⟨known, layout, h⟩) | ⟨known, h, -⟩
      · exact ⟨known, _, by rw [h.constructor_eq]; decide, h⟩
      · refine ⟨known, _, ?_, h⟩
        rw [h.constructor_eq]
        cases layout <;> decide
      · exact ⟨known, _, by rw [h.constructor_eq]; decide, h⟩
    · intro h
      obtain ⟨known, shape, hc, h⟩ := h
      rcases shape_cases h with ⟨rfl, hf | hf⟩ | ⟨-, ⟨layout, rfl⟩ | rfl⟩
      · exact .inl (.inl ⟨known, h, hf⟩)
      · exact .inr ⟨known, h, hf⟩
      · exact .inl (.inr ⟨known, layout, h⟩)
      · exact absurd h.constructor_eq hc
  | argentLegacy =>
    simp only [true_and, reduceCtorEq, false_and, false_or, IndexKeys.key, DerivationType.covers]
    constructor
    · intro h
      rcases h with ⟨known, layout, h⟩ | ⟨known, h⟩
      · rcases shape_cases h with ⟨hs, -⟩ | ⟨hf, -⟩
        · cases layout <;> cases hs
        · exact ⟨known, _, hf, h⟩
      · rcases shape_cases h with ⟨hs, -⟩ | ⟨hf, -⟩
        · cases hs
        · exact ⟨known, _, hf, h⟩
    · intro h
      obtain ⟨known, shape, hc, h⟩ := h
      rcases shape_cases h with ⟨-, hf | hf⟩ | ⟨-, ⟨layout, rfl⟩ | rfl⟩
      · rw [hf] at hc
        cases hc
      · rw [hf] at hc
        cases hc
      · exact .inl ⟨known, layout, h⟩
      · exact .inr ⟨known, h⟩

/-! ## Discovery against inspection -/

section

variable [Points] [Sha256] [Bip39] [StarknetCrypto] [FeltSqrt] {hmac : Hmac} {mnemonic : String}
  {maxIndex : UInt32}

variable {scan : List IndexKeys}

lemma isAbscissa_of_discoveryKeys (hc : SoundCurve)
    (h : discoveryKeys hmac mnemonic maxIndex = .ok scan) :
    ∀ keys ∈ scan, ∀ scheme, IsAbscissa (keys.key scheme).publicKey := by
  unfold discoveryKeys at h
  rw [except_bind_eq_ok] at h
  obtain ⟨-, -, h⟩ := h
  intro keys hk scheme
  obtain ⟨index, -, hin⟩ := except_mapM_mem h keys hk
  unfold keysAt at hin
  rw [except_bind_eq_ok] at hin
  obtain ⟨directPk, -, hin⟩ := hin
  rw [except_bind_eq_ok] at hin
  obtain ⟨directPubk, hd, hin⟩ := hin
  rw [except_bind_eq_ok] at hin
  obtain ⟨legacyPk, -, hin⟩ := hin
  rw [except_bind_eq_ok] at hin
  obtain ⟨legacyPubk, hl, hin⟩ := hin
  obtain rfl := Except.ok.inj hin
  cases scheme with
  | direct => exact isAbscissa_of_starkPublicKey hc hd
  | argentLegacy => exact isAbscissa_of_starkPublicKey hc hl

variable [Pedersen] [NormalizeAddress] [Target]

/-- **Discovery is sound for inspection.** What the candidates were computed from is recorded
with them; its inspection says that the address follows from the seed, for the candidate's key,
and gives the candidate's address. -/
theorem candidates_inspected (hcurve : SoundCurve) {candidates : List CandidateAccount}
    (h : generateCandidates hmac mnemonic maxIndex = .ok candidates) :
    ∃ recorded, generateCandidatesWith Prod.mk hmac mnemonic maxIndex = .ok recorded ∧
      recorded.map Prod.snd = candidates ∧
      ∀ deployment candidate, (deployment, candidate) ∈ recorded →
        ∃ inspection owner,
          inspectDeployment deployment.classHash deployment.salt deployment.constructorCalldata =
            some inspection ∧
          inspection.derivability = .fromSeed ∧ inspection.ownerPublicKey = some owner ∧
          candidate.classHash = feltHex deployment.classHash ∧
          candidate.publicKey = feltHex owner ∧
          candidate.address = feltHex inspection.address := by
  rw [generateCandidates, generateCandidatesWith_eq, except_map_eq_ok] at h
  obtain ⟨scan, hs, rfl⟩ := h
  refine ⟨_, by rw [generateCandidatesWith_eq, hs]; rfl, ?_, ?_⟩
  · simp [List.map_flatMap, Function.comp_def]
  · intro deployment candidate hmem
    rw [List.mem_flatMap] at hmem
    obtain ⟨keys, hk, hrow⟩ := hmem
    rw [List.mem_map] at hrow
    obtain ⟨row, hrow, heq⟩ := hrow
    rw [Prod.mk.injEq] at heq
    obtain ⟨rfl, rfl⟩ := heq
    obtain ⟨known, shape, -, hsd⟩ :=
      (rows_exact keys row.scheme).mp ⟨row, hrow, rfl, rfl⟩
    have ha := isAbscissa_of_discoveryKeys hcurve hs keys hk row.scheme
    obtain ⟨inspection, hin, hr⟩ :=
      (inspectDeployment_fromSeed_iff hcurve).mpr ⟨ha, known, shape, hsd⟩
    refine ⟨inspection, _, hin, hr.1, hr.2, rfl, rfl, ?_⟩
    obtain ⟨verdict, -, rfl⟩ := inspectDeployment_eq_some.mp hin
    rfl

def scanned (hmac : Hmac) (mnemonic : String) (maxIndex : UInt32) : Set Deployment :=
  {deployment | ∃ recorded, generateCandidatesWith Prod.mk hmac mnemonic maxIndex = .ok recorded ∧
    deployment ∈ recorded.map Prod.fst}

def Generated (hmac : Hmac) (mnemonic : String) (maxIndex : UInt32) (address : Felt) : Prop :=
  ∃ candidates, generateCandidates hmac mnemonic maxIndex = .ok candidates ∧
    ∃ candidate ∈ candidates, candidate.address = feltHex address

/-- The key of the owner was derived, in a way used for the class. -/
def Covered (keypairs : List DerivedKeypair) (classHash owner : Felt) : Prop :=
  ∃ known, lookupAccountClass classHash = some known ∧
    ∃ keypair ∈ keypairs, keypair.publicKey = feltHex owner ∧
      keypair.derivationType.covers known

omit [FeltSqrt] [Target] in
lemma generateCandidates_of_discoveryKeys (hs : discoveryKeys hmac mnemonic maxIndex = .ok scan) :
    generateCandidates hmac mnemonic maxIndex =
      .ok (scan.flatMap fun keys => keys.rows.map keys.candidate) := by
  rw [generateCandidates, generateCandidatesWith_eq, hs]
  rfl

omit [FeltSqrt] [Target] in
lemma generated_of_covered {deployment : Deployment} {owner : Felt}
    {known : KnownAccountClass} {shape : ConstructorShape}
    (hsc : discoveryKeys hmac mnemonic maxIndex = .ok scan)
    (hs : SeedDeployment owner deployment known shape)
    (h : Covered (scan.flatMap IndexKeys.keypairs) deployment.classHash owner) :
    Generated hmac mnemonic maxIndex deployment.contractAddress := by
  obtain ⟨known', hl, keypair, hmem, hk, hc⟩ := h
  obtain ⟨keys, hky, hmem⟩ := List.mem_flatMap.mp hmem
  obtain ⟨scheme, rfl⟩ := mem_keypairs.mp hmem
  have hkey : (keys.key scheme).publicKey = owner := feltHex_injective hk
  obtain rfl : known = known' := Option.some.inj (hs.lookup.symm.trans hl)
  obtain ⟨row, hrow, -, hd⟩ :=
    (rows_exact keys scheme).mpr ⟨known, shape, hc, by rw [hkey]; exact hs⟩
  refine ⟨_, generateCandidates_of_discoveryKeys hsc, keys.candidate row, ?_, ?_⟩
  · exact List.mem_flatMap.mpr ⟨keys, hky, List.mem_map_of_mem hrow⟩
  · rw [← hd]
    rfl

lemma covered_of_generated (hc : SoundCurve)
    {deployment : Deployment} {owner : Felt} {known : KnownAccountClass}
    {shape : ConstructorShape} (hs : discoveryKeys hmac mnemonic maxIndex = .ok scan)
    (ho : IsAbscissa owner) (hsd : SeedDeployment owner deployment known shape)
    (hf : CollisionFree (insert deployment (scanned hmac mnemonic maxIndex)))
    (h : Generated hmac mnemonic maxIndex deployment.contractAddress) :
    Covered (scan.flatMap IndexKeys.keypairs) deployment.classHash owner := by
  obtain ⟨candidates, hok, candidate, hmem, hcn⟩ := h
  rw [generateCandidates_of_discoveryKeys hs] at hok
  obtain rfl := Except.ok.inj hok
  obtain ⟨keys, hk, hmem⟩ := List.mem_flatMap.mp hmem
  obtain ⟨row, hrow, rfl⟩ := List.mem_map.mp hmem
  obtain ⟨known', shape', hcv, hs'⟩ :=
    (rows_exact keys row.scheme).mp ⟨row, hrow, rfl, rfl⟩
  -- the address tells the deployment
  have hsc : row.deployment ∈ scanned hmac mnemonic maxIndex := by
    refine ⟨_, by rw [generateCandidatesWith_eq, hs]; rfl, ?_⟩
    simp only [List.map_flatMap, List.map_map, List.mem_flatMap, List.mem_map]
    exact ⟨keys, hk, row, hrow, rfl⟩
  have hd : row.deployment = deployment :=
    hf.contractAddress_inj (.inr hsc) (.inl rfl) hs'.calldata.length_lt
      hsd.calldata.length_lt (feltHex_injective hcn)
  rw [hd] at hs'
  -- and the deployment, inspected, its owner
  obtain ⟨inspection, hin, -, hr⟩ :=
    (inspectDeployment_fromSeed_iff hc).mpr ⟨ho, known, shape, hsd⟩
  obtain ⟨inspection', hi', -, hr'⟩ := (inspectDeployment_fromSeed_iff hc).mpr
    ⟨isAbscissa_of_discoveryKeys hc hs keys hk row.scheme, known', shape', hs'⟩
  obtain rfl : inspection' = inspection := Option.some.inj (hi'.symm.trans hin)
  have hkey : (keys.key row.scheme).publicKey = owner :=
    Option.some.inj (hr'.symm.trans hr)
  refine ⟨known', hs'.lookup, (keys.key row.scheme).keypair row.scheme, ?_, ?_, hcv⟩
  · exact List.mem_flatMap.mpr ⟨keys, hk, mem_keypairs.mpr ⟨_, rfl⟩⟩
  · rw [← hkey]
    rfl

/-- **When discovery is complete for inspection.** A deployment that inspection reports as
derivable from a seed, for an owner whose key the scan derives, is generated if the owner's key
was derived by a scheme its class is scanned with; unless hashes collide, only then. -/
theorem address_generated_iff (hcurve : SoundCurve) {deployment : Deployment}
    {inspection : DeploymentInspection} {owner : Felt} {keypairs : List DerivedKeypair}
    (hinspect : inspectDeployment deployment.classHash deployment.salt
    deployment.constructorCalldata = some inspection)
    (hderivability : inspection.derivability = .fromSeed)
    (howner : inspection.ownerPublicKey = some owner)
    (hkeypairs : deriveDiscoveryKeypairs hmac mnemonic maxIndex = .ok keypairs) :
    (Covered keypairs deployment.classHash owner →
      Generated hmac mnemonic maxIndex inspection.address) ∧
    (CollisionFree (insert deployment (scanned hmac mnemonic maxIndex)) →
      (Generated hmac mnemonic maxIndex inspection.address ↔
        Covered keypairs deployment.classHash owner)) := by
  rw [deriveDiscoveryKeypairs_eq, except_map_eq_ok] at hkeypairs
  obtain ⟨scan, hs, rfl⟩ := hkeypairs
  obtain ⟨ha, known, shape, hsd⟩ :=
    (inspectDeployment_fromSeed_iff hcurve).mp ⟨inspection, hinspect, hderivability, howner⟩
  have had : inspection.address = deployment.contractAddress := by
    obtain ⟨verdict, -, rfl⟩ := inspectDeployment_eq_some.mp hinspect
    rfl
  rw [had]
  refine ⟨generated_of_covered hs hsd, ?_⟩
  intro hf
  exact ⟨covered_of_generated hcurve hs ha hsd hf, generated_of_covered hs hsd⟩

end

/-! ## The test phrase -/

section Sample

def samplePhrase : String :=
  "person hunt couch artefact try half produce fatal large raw prison electric"

def sampleSeed : Vector UInt8 64 :=
  beVector 64 (0x37ad3cc6d7bba94e75da1dc7f3fe409285df5c9b3bc4982dfe2191cfc3e8d8ef * 2 ^ 256 +
    0xc64d6d7e8b0a32fafa167966cb7181d890db1a5c17c8bd65fa35bd1e984da2b3)

@[reducible] def sampleBip39 : Bip39 where
  Mnemonic := String
  parse phrase := if phrase = samplePhrase then .ok phrase else .error "BadWordCount(1)"
  toSeed _ _ := sampleSeed

@[reducible] def samplePoints : Points where
  compressedPublicKey key := beBytes 33 (([
    (0xd3c58ca6d49d45c86f615d5da4875c55f35754d9390174ad9528e5b540601eb4,
      0x02103d5da2b8be1371e72c0c90220b5bc52a6ef193c5850f7ead1e8bb47d19b2d1),
    (0x48bba16ffa699440d89fc3de67af07882e8fbeaee824db4817b03c63a2dbf88b,
      0x02bf1101bb0b93d9931be12d60d5c6da1957ab48133058c75320885673957e5f64),
    (0x88871c1e3bbf0229c14d2f3609e57ed0bce1a533b5b03ecd35ab01ed06febc29,
      0x03ec1990caf373f8a42be9cf3f8ac033988dc3fa99929937c815b1b2390bdb6e50),
    (0x6ad643ad366479d094d1d895ddce57380254427485db07ef7898cbf2fa75e419,
      0x03b09d128a9f50b638ee83314b1c2e3ff7921e1f21a482514e797936a80a02c873),
    (0x2dfa4ed3984ae00acfdbb784c11eab42f3290f8d45e804de3b7c1dbda9971bb3,
      0x038592718c703fb411471c621a4077070c506b80c70d7a2a8de1cd1132b0358e10),
    (0x9f9f797f0f1f02d823656072e1a3fff863e16ae6073b6fc4204b073a50619a8d,
      0x025912d60eb23a8a935a244c111a56851802348c59f6a778c5e9361a7710bc0d7c)].lookup key.val).getD 0)
  signingKeyError := "signature error"

attribute [local instance] sampleBip39 samplePoints

def sampleHmac : Hmac := @hmacSha512 Reference.sha512

def directPrivateKey : Felt := 0x4fc62347709307c23db0d065f4fd0a0f717e84d963dac1ac1eed740625700c3
def legacyPrivateKey : Felt := 0x72e62ef0a3dc57f2891f0f27bc60b6951854990968d07660c6f245f14de67c

def directKey : Felt := 0x2985b4b4b2a370bdded9810e0c6cf74f82caf31dba039d2ece7eb8b8b80bb5a

def legacyKey : Felt := 0x48495fca9753cb0f4035eb4d2e2c1a22cc6d36fe4b73e17d9d6848333ff03a9

@[reducible] def sampleCrypto : StarknetCrypto where
  getPublicKey key :=
    if key = directPrivateKey then directKey else if key = legacyPrivateKey then legacyKey else gX

@[reducible] noncomputable def sampleSqrt : FeltSqrt where
  sqrt y := by
    classical
    exact if h : IsSquare y then some h.choose else none

attribute [local instance] Reference.sha256 sampleCrypto sampleSqrt target64 moduloNormalizeAddress

lemma sample_isAbscissa : IsAbscissa directKey ∧ IsAbscissa legacyKey ∧ IsAbscissa gX := by
  refine ⟨⟨0x7f844c40015a40b18fc3d42a2f8b715687d78e333e0ea80c3722c609c30e5b2, ?_⟩,
    ⟨0x462961386b393e29f83e8ca815cfc6a2e0bc13d0a4d0000ca94dde730d95e04, ?_⟩, ⟨gY, ?_⟩⟩
  all_goals decide +kernel

lemma sample_soundCurve : SoundCurve where
  sqrt_isSome y := by
    by_cases h : IsSquare y
    · simp [FeltSqrt.sqrt, h]
    · simp [FeltSqrt.sqrt, h]
  getPublicKey_isAbscissa key _ _ := by
    show IsAbscissa (if key = directPrivateKey then directKey
      else if key = legacyPrivateKey then legacyKey else gX)
    split_ifs
    · exact sample_isAbscissa.1
    · exact sample_isAbscissa.2.1
    · exact sample_isAbscissa.2.2

def ozClassHash : Felt := 0x01d1777db36cdd06dd62cfde77b1b6ae06412af95d57a13dc40ac77b8a702381

/-! The hashes that several chains go through: of one element; with the prefix and the deployer
before a salt; and of the calldata of each kind of account. -/

def directHash : Felt := 0x4a9fc9673e33d33be92e0d64c0d33922724208d1d5c50306c6b845719d4b092
def legacyHash : Felt := 0x321baba09e275ef32bae9da8327f48bddf4d9d99991e40ab364569819c0bd2b
def zeroHash : Felt := 0x49ee3eba8c1600700ee1b87eb599f16716b0b1022947733551fde4050ca6804
def deployerHash : Felt := 0x2fded809d413d52f262acd526c5c64d42a20f8295e87773f781c6febdbbdb84
def directSalted : Felt := 0x42316bc51149637a777e417cec9fcf8cbf68e6b592f3f957e57e938cce07d59
def legacySalted : Felt := 0x3b8bd9312a2d876ff11e7df8e0db24d13f36b1762413a7ded82c179dac97502
def legacyProxy : Felt := 0x472ff6ce96f2068e03dadd443a89d0c8900b7d4098c6e09c0b028bef091b81f
def directOnly : Felt := 0x383b1c8bc2be977f1d814351de95d4b02861cc9cd424ea5f846965efb1f6ce5
def legacyOnly : Felt := 0x14e1042ebc2001f98c7d7742fb7b31083f135511505884930279c0ae8081498
def directSigner : Felt := 0x71c0b7a4979f441d081eb58e4c2e989d733271a4e5979da22c85926eb73e29f
def legacySigner : Felt := 0x74d89415561b3c5b031d0f0dbe2cef2371a0bd85ba25d5c8e79e29dd115de21
def directGuarded : Felt := 0x3138c964cc059b73c0148f8764ce15f9b9cfa6e9080cb343d38f23b3a4808c0
def legacyGuarded : Felt := 0x6e97d1be8a0ff3bef3f7b2c445ada2044fe63cb99a73b9fd28d5fbba1ec692e

/-- The class, the calldata and their number after the salt. -/
def addressTable (salted calldata : Felt) (rows : List (Felt × Felt × Felt × Felt)) :
    List ((Felt × Felt) × Felt) :=
  rows.flatMap fun (classHash, withClass, withCalldata, address) =>
    chainTable salted [(classHash, withClass), (calldata, withCalldata), (5, address)]

/-- The calldata of the proxy, for each implementation, and then its address. -/
def implementationTable (rows : List (Felt × List Felt × List Felt)) :
    List ((Felt × Felt) × Felt) :=
  rows.flatMap fun (implementation, calldata, address) =>
    chainTable 0 ([implementation, ArgentCairo0.initializeSelector, 2, legacyKey, 0, 5].zip
      calldata) ++ chainTable legacyProxy ([calldata.getLastD 0, 5].zip address)

def sampleTable : List ((Felt × Felt) × Felt) :=
  chainTable 0 [(directKey, directHash)] ++
  chainTable 0 [
    (prefixFelt, 0x19c4f5a32bf8efb8ff328e8933002412ad1a38b70e8e8d672289996cc025fcd),
    (0, deployerHash)] ++
  chainTable 0 [(0, zeroHash)] ++
  chainTable 0 [(legacyKey, legacyHash)] ++
  chainTable deployerHash [(directKey, directSalted)] ++
  chainTable deployerHash [
    (0, 0x27a21f23d6c72fb0d2d2206f7c712c114c8d212a878667535269d33ad08d901),
    (ozClassHash, 0x356fc86e54a8a77d963ac9f108959bde63e454af2639734ea946abc22b466ac),
    (directOnly, 0x30b7f9a04e20ad3a32fcde62813a1a980b735b2fea7548f09e80979da08dc01),
    (5, 0x6c16710431efd3962d3c6f55faf00d8c855188029acb42781b9ac77c438ade5)] ++
  chainTable deployerHash [(legacyKey, legacySalted)] ++
  chainTable directHash [(1, directOnly)] ++
  chainTable directHash [
    (0, 0x3a5e78009a5a954d77b292bdbb021e6e1beebde47afd52a124b253be5144b77),
    (2, directGuarded)] ++
  chainTable legacyHash [
    (0, 0x6f4374e763eda7f82d9abce222c7e7461459ebcbd774c26ccc9d3059350d4c),
    (2, legacyGuarded)] ++
  chainTable legacyHash [(1, legacyOnly)] ++
  chainTable legacySalted [(ArgentCairo0.proxyClassHash, legacyProxy)] ++
  chainTable zeroHash [
    (directKey, 0x19a12b8c10ab91404d1d164acd5d6518f8f51636428af5a1c51c04f369f409d),
    (1, 0x1c531fca845ddbf069a56fdeff8c0c605b6585482a09520cb8e2d1a01760993),
    (3, directSigner)] ++
  chainTable zeroHash [
    (legacyKey, 0x64e337ceab1ce6b9eae3ac3c72f640a1a93c36115ef1e2788b1580fded5c8e5),
    (1, 0x18d183d013cd7ee87efa412e6e40361ecf4ab8ecf057f42a65ceadfe4ebc416),
    (3, legacySigner)] ++
  implementationTable [
    (ArgentCairo0.implClassHashV024,
      [0x30cfbf76e22159e99dc4e9a6fb0fd66ef8c44f2c4e669039fe0234c998e442d,
        0x59e2970948ca6dc52f4ef1baa02a5da9d74310be7179784e088becd9dfcc075,
        0x629a34cb99abdccfae64a0987fa3431d85718d8beac3dab3b87c65f53b78627,
        0x51acbd5312db200fcf930dacedd0dbf8c8fb2d1446466c4f9607ef9d0f7695a,
        0x563cfc31ffa91706b6ac55404b96a367c51a0bd2191e3535d881c05b7a86cb8,
        0x20a94be26f5e8a2fb4bcc832097b96358143a35c1518e07b083ad604dc39812],
      [0x6be1bbd8b33981071a9b67ff35a2805c64259e2f6e0b951d1f6752eeb6471e2,
        0x66a0a957f26719ee1217d14f4aeb7c7d57e0bbb3c5a35542f5afbfe165f4974]),
    (ArgentCairo0.implClassHashV023,
      [0x4237ae2d53de06b4b59f9f3d1a20bd217a384f061391c4130a77b64a36ea9,
        0x72dbb6c9554c910044d992b48a601a6dc2f29e93535ebff691c1b3d5d7c8216,
        0x64c5f7f0e8abd6688be7e4f7c9da0a18f08009d3ccc00615ee98ad46ca6f7c8,
        0x738491c61f464990fda73beb2b4732e315643c5fc17bb541ab75eed9a4f4627,
        0x70547deabfa5919aaaab79747fc2e8365714be13d567de9e2a52eaabe341fe4,
        0x70104092e368b8664ce891c1305dd3a6af2c2f9aa4f7dcccdc7f8df9fbe5545],
      [0x35c1fe62a17390da8b0d9bfeb5821d7ca363be2c8f3292f7dcb34b1814f7bf0,
        0x3ea6e5112e6819f2e1fcb35c79f7cd0736811bdbab7c986eb31b89f596b0e43]),
    (ArgentCairo0.implClassHashV022,
      [0x6d8eabdaaa2e2524d9578c316ea3eb2419d9f02cbb1e29874fe084ce2201560,
        0x8b21bb1a0816a9deeb4e0c542a96e439bd84538c4aedda7aac223f6fe6ff77,
        0x4828e3964bcf63466ff123e1c3a08d25d811c5202646f879684e649790a8338,
        0x69eda09e40b821e8f426c7432351c1b704ad24817678079179b3f01cb27e4a3,
        0x3a9d7c0ea85dcb2f1431ff912468f70228fb017960de982fe6734e42c42837d,
        0x6b5190be276339b11e83ffda014d028e6748375d22b6ee86342c4bcbbe88c08],
      [0x232ff8759e31e2926f4ab11a54d96905a371dd6652b86661c0018a66f24e311,
        0x13af11c18e4a8faa56c3c48ac86e8fa3a18deabeca0b3dd5d9d62c668eb7a62]),
    (ArgentCairo0.implClassHashV021,
      [0x546650892c0edac886e99cd1ab4107b4b76cb7de4868cfb6d669acdf5dff918,
        0x319ed2983939e00aad5096994bd9ad0a7a6bf2252b81a0034c449af98ea167a,
        0x1d569757fb3eaf7f25328bf9fee3c3a487ebe7ebf3ab84e6bbf10f9b8fd9af2,
        0x42b5265fa279a96636daec7fc41cf1b95c67fbb65713a4151b6740d706c0729,
        0x77c976bc6980434dd5b689fa6869d6ddf20c0290587cafbf0a31674f2eb7731,
        0x32d31b9fe1339e727d440a936d3a67dbde86928d2e6dbe616ccedd892c52b8],
      [0x5237fdf4f5c5e29ded10917223a47e7ce29bb8e5d6053f4acb36ab4b059d823,
        0x601c0d2f7174671056d5d30f232cf899c0c7157a19f7ac62352f996be754c46])] ++
  addressTable directSalted directOnly [
    (BraavosAccount.currentClassHash,
      0x2c60855962fc391f813cd74afd0dc44cf175ca82a8fef7fee81953c0f260cb6,
      0x768b8f038c9d71f67e7788674b714cde6b838b75e809962f63282fd7dbe9fce,
      0x5ddbfaa0b1daab3e0d8a78b5ba5cdfa00431ac62ca3d31fe3e8fabdbbf01626),
    (BraavosAccount.baseClassHashV100,
      0x4fb286b2e966534c7fef4473d2df34c24d9009da9ec4e1ac7e61080ed0904de,
      0xb11b848ad80b2490351f245152644942d086e897802af7cbce47e1c1f147ff,
      0xe90dd9785ff3b24be3255fcc283d6a65d619be87178902e6d4ad25f8a20b32),
    (ozClassHash,
      0x3eeccc2ac2b21bc5fe7f84b3d9222e232cba968fe0b035025c894c122a64c68,
      0x67464779df97266c0bbb9e7a8353d2a9c9034537745b76edf04c9d30f511860,
      0x2f7d1e10b26a1435b23c39c8b95cb88403cd198ef1d5f810803373788f06777)] ++
  addressTable directSalted directSigner [
    (ArgentAccount.defaultClassHash,
      0x38fb036d62f4182ca88c11022854ca998212b59338a8e9ea225ab31d2c4765a,
      0x16dc8b78cca6e61096df9b76052229b4ae744b0af73e42cc30c12ef415b201e,
      0x6c16d7e5581dd081a3a429158256ab1c28e87ac464d500dfe42652be8f764ac),
    (ArgentAccount.classHashV050,
      0x72e3c68604bccef480b4c51126838cb4992904509e6c352d09b5db9198f6797,
      0x5299e1bea6d5c4845ed7e30cda7583d286141ac347fa54a02310105973d8719,
      0x1d10ac15969e56c1957b918a26340b855bb1acecf298407552a7223b834c2e5)] ++
  addressTable directSalted directGuarded [
    (ArgentAccount.classHashV031,
      0x2fca4ac5f254cf6669953887f5321dfe495dfaeced8e3e7745ef9dd35d5a26d,
      0x14e7d9456caa961386b6a5b8b0791e06b0e0f487cfd35446237f5bd1a75cbc,
      0xf6b4887024af9d8aff64e658e53e126ddbfc65cd7216a61ae0f3e9badc85d0),
    (ArgentAccount.classHashV030,
      0x7dd221ea60404743e1b1473ca744e7e437a6f0a7dfb98663d4d8fc5a19a4f98,
      0x6f92b8186d3a73afdec031b22d2cb1ae8a6f525dd4eb7bdca46b44e2a987d4f,
      0x5a2ff725b9a0dfc14f057dbbba6282424c62351cd4759d21dcd1d50336633df)] ++
  addressTable legacySalted legacySigner [
    (ArgentAccount.defaultClassHash,
      0x760c59c3e02885461f887468bd2e17ca31bb824763ea7dbe7c9c9198f9c1fcd,
      0x58d62fd9bba0cd26d0ebb1fe5a0398ea0ff6a80bfb3f91eb0b9835981bcb8c0,
      0x6bb92ac7bd2ba6922e497f8b9ccf4357559e3f3896396d5834d8a0b1ce1fc0e),
    (ArgentAccount.classHashV050,
      0xf51ca102e4427809227057155c8034b6a2546d3d1f564e2642689b0b13ef66,
      0x57eb0094b0675e684b96cf58671b9d7c6bdd59038ade9d14e0142b095a071a3,
      0xa7b7b279606ff2262e059b263d6f75e8f6eb6521a1315be29d0cbf68a91ea6)] ++
  addressTable legacySalted legacyGuarded [
    (ArgentAccount.classHashV031,
      0x32f0a6b0371e4d4ab244ad443a79592e5168b2a6a1b8ab58aac639be8d7f029,
      0x662668b81aa2450298659331c3917704a9f277105daee7b4185122dc44efde3,
      0x14ee55eefca7e146781873bff2c532aa550b4597b8ed5f13c48b641b999c8d9),
    (ArgentAccount.classHashV030,
      0x3bbcebba44ff0a8243f2f79a999c7d20d39d9749299c4a4f7c1c483efa6954c,
      0x6c50ee74606d8b8f3accac83b88761f870252143a41149759ec0f85f039b5ac,
      0x4cc9b1a1d27a28a17731af8e5fc5833864864085e4e93b16c8d7447e79f7904)] ++
  addressTable legacySalted legacyOnly [
    (BraavosAccount.currentClassHash,
      0x60042502ebdbacf8a8138d77cf2b5ab7a300ed15f7f08341b18fbff862f15a,
      0x46f19de5f2398e79c42c815b3c05b937995f8a9ada885923b94357a8f524c4b,
      0x1f3f62e457e117e36adc1caaafd24fc3dbf8955f9bcfd70701cabf887dfca80)]

@[reducible] def samplePedersen : Pedersen := tablePedersen sampleTable

attribute [local instance] samplePedersen

def sampleKeys : IndexKeys where
  direct := ⟨directPrivateKey, directKey, 0, "m/44'/9004'/0'/0/0"⟩
  legacy := ⟨legacyPrivateKey, legacyKey, 0, "m/44'/60'/0'/0/0 -> m/44'/9004'/0'/0/0"⟩

lemma sample_discoveryKeys : discoveryKeys sampleHmac samplePhrase 1 = .ok [sampleKeys] := by
  have hv : validateDiscoveryInputs samplePhrase 1 = .ok () := by decide +kernel
  have hd : derivePrivateKeyWithCoinType sampleHmac samplePhrase 0 0 starknetCoinType
      none = .ok directPrivateKey := by
    decide +kernel
  have hl : deriveArgentLegacyPrivateKey sampleHmac samplePhrase 0 0 =
      .ok legacyPrivateKey := by
    decide +kernel
  have hdr : starkPublicKey directPrivateKey = .ok directKey := by decide +kernel
  have hlg : starkPublicKey legacyPrivateKey = .ok legacyKey := by decide +kernel
  have hk : keysAt sampleHmac samplePhrase 0 = .ok sampleKeys := by
    unfold keysAt
    rw [hd, hl]
    show (do
      let directPubk ← starkPublicKey directPrivateKey
      let legacyPubk ← starkPublicKey legacyPrivateKey
      pure _ : Result IndexKeys) = _
    rw [hdr, hlg]
    rfl
  have hin : (List.range (1 : UInt32).toNat).map UInt32.ofNat = [0] := by decide
  unfold discoveryKeys
  rw [hv, hin, except_bind_eq_ok]
  refine ⟨(), rfl, ?_⟩
  rw [List.mapM_cons, hk]
  rfl

lemma sample_generateCandidates :
    generateCandidates sampleHmac samplePhrase 1 =
      .ok (sampleKeys.rows.map sampleKeys.candidate) := by
  rw [generateCandidates, generateCandidatesWith_eq, sample_discoveryKeys]
  simp [Except.map]

/-- The candidates of the phrase, the first with the address the repository's tests expect. -/
theorem sample_candidates_inspected :
    ∃ candidates, generateCandidates sampleHmac samplePhrase 1 = .ok candidates ∧
      candidates.length = 16 ∧ candidates.head?.map CandidateAccount.address =
        some "0x5ddbfaa0b1daab3e0d8a78b5ba5cdfa00431ac62ca3d31fe3e8fabdbbf01626" ∧
      ∃ recorded, generateCandidatesWith Prod.mk sampleHmac samplePhrase 1 = .ok recorded ∧
        recorded.map Prod.snd = candidates ∧
        ∀ deployment candidate, (deployment, candidate) ∈ recorded →
          ∃ inspection owner,
            inspectDeployment deployment.classHash deployment.salt
              deployment.constructorCalldata = some inspection ∧
            inspection.derivability = .fromSeed ∧ inspection.ownerPublicKey = some owner ∧
            candidate.classHash = feltHex deployment.classHash ∧
            candidate.publicKey = feltHex owner ∧
            candidate.address = feltHex inspection.address := by
  refine ⟨_, sample_generateCandidates, by decide +kernel, by decide +kernel, ?_⟩
  exact candidates_inspected sample_soundCurve sample_generateCandidates

def braavosDeployment (key : Felt) : Deployment := ⟨BraavosAccount.currentClassHash, key, [key]⟩

lemma braavosDeployment_inspected {key : Felt} (hkey : IsAbscissa key) :
    ∃ inspection,
      inspectDeployment (braavosDeployment key).classHash (braavosDeployment key).salt
        (braavosDeployment key).constructorCalldata = some inspection ∧
      Reports inspection key := by
  have hk : ∃ known ∈ knownAccountClasses,
      known.classHash = BraavosAccount.currentClassHash ∧
        known.constructor = some .publicKey := by decide
  obtain ⟨known, hmem, hh, hc⟩ := hk
  refine (inspectDeployment_fromSeed_iff sample_soundCurve).mpr ⟨hkey, known, .publicKey, ?_⟩
  exact ⟨lookupAccountClass_eq_some.mpr ⟨hmem, hh⟩, hc, rfl, .inl rfl⟩

lemma sample_deriveDiscoveryKeypairs :
    deriveDiscoveryKeypairs sampleHmac samplePhrase 1 = .ok sampleKeys.keypairs := by
  rw [deriveDiscoveryKeypairs_eq, sample_discoveryKeys]
  simp [Except.map]

/-- A Braavos account of the phrase's legacy key is reported as derivable from a seed, and its
address is not among the phrase's candidates. -/
theorem braavos_legacy_not_generated :
    ∃ inspection keypairs candidates,
      inspectDeployment (braavosDeployment legacyKey).classHash (braavosDeployment legacyKey).salt
        (braavosDeployment legacyKey).constructorCalldata = some inspection ∧
      inspection.derivability = .fromSeed ∧ inspection.ownerPublicKey = some legacyKey ∧
      deriveDiscoveryKeypairs sampleHmac samplePhrase 1 = .ok keypairs ∧
      (∃ keypair ∈ keypairs, keypair.publicKey = feltHex legacyKey) ∧
      generateCandidates sampleHmac samplePhrase 1 = .ok candidates ∧
      ∀ candidate ∈ candidates, candidate.address ≠ feltHex inspection.address := by
  have ha : sampleKeys.rows.all (fun row => decide
      (row.deployment.contractAddress ≠ (braavosDeployment legacyKey).contractAddress)) = true := by
    decide +kernel
  simp only [List.all_eq_true, decide_eq_true_eq] at ha
  obtain ⟨inspection, hin, hd, ho⟩ :=
    braavosDeployment_inspected sample_isAbscissa.2.1
  refine ⟨inspection, _, _, hin, hd, ho, sample_deriveDiscoveryKeypairs,
    ⟨sampleKeys.legacy.keypair .argentLegacy, by simp [IndexKeys.keypairs], rfl⟩,
    sample_generateCandidates, ?_⟩
  intro candidate hc
  obtain ⟨row, hrow, rfl⟩ := List.mem_map.mp hc
  obtain ⟨verdict, -, rfl⟩ := inspectDeployment_eq_some.mp hin
  intro h
  exact ha row hrow (feltHex_injective h)

lemma sample_scanned {deployment : Deployment}
    (h : deployment ∈ scanned sampleHmac samplePhrase 1) :
    ∃ row ∈ sampleKeys.rows, row.deployment = deployment := by
  obtain ⟨recorded, hr, hmem⟩ := h
  rw [generateCandidatesWith_eq, sample_discoveryKeys] at hr
  obtain rfl := Except.ok.inj hr
  simpa using hmem

lemma sample_collisionFree :
    CollisionFree (insert (braavosDeployment directKey) (scanned sampleHmac samplePhrase 1)) := by
  have hb : ∃ row ∈ sampleKeys.rows, row.deployment = braavosDeployment directKey := by
    decide +kernel
  have hr : ∀ deployment ∈ insert (braavosDeployment directKey)
      (scanned sampleHmac samplePhrase 1),
      ∃ row ∈ sampleKeys.rows, row.deployment = deployment := by
    intro deployment h
    rcases h with rfl | h
    · exact hb
    · exact sample_scanned h
  have hpr : sampleKeys.rows.all (fun row => row.deployment.hashedPairs.all fun p =>
      (sampleTable.map Prod.fst).contains p) = true := by
    decide +kernel
  have hn : sampleKeys.rows.all (fun row => sampleKeys.rows.all fun row' => decide
      (NormalizeAddress.normalizeAddress (hashElements row.deployment.elements) =
        NormalizeAddress.normalizeAddress (hashElements row'.deployment.elements) →
      hashElements row.deployment.elements = hashElements row'.deployment.elements)) = true := by
    decide +kernel
  simp only [List.all_eq_true, List.contains_iff_mem, decide_eq_true_eq] at hpr hn
  constructor
  · refine (tablePedersen_injOn (by decide +kernel)).mono ?_
    intro p hp
    obtain ⟨deployment, hd, hp⟩ := hp
    obtain ⟨row, hrow, rfl⟩ := hr deployment hd
    exact hpr row hrow p hp
  · intro hash hh hash' hh' h
    obtain ⟨deployment, hd, rfl⟩ := hh
    obtain ⟨deployment', hd', rfl⟩ := hh'
    obtain ⟨row, hrow, rfl⟩ := hr deployment hd
    obtain ⟨row', hr', rfl⟩ := hr deployment' hd'
    exact hn row hrow row' hr' h

/-- The Braavos account of the key derived directly is generated. -/
theorem braavos_direct_generated :
    ∃ inspection,
      inspectDeployment (braavosDeployment directKey).classHash (braavosDeployment directKey).salt
        (braavosDeployment directKey).constructorCalldata = some inspection ∧
      inspection.derivability = .fromSeed ∧ inspection.ownerPublicKey = some directKey ∧
      deriveDiscoveryKeypairs sampleHmac samplePhrase 1 = .ok sampleKeys.keypairs ∧
      Generated sampleHmac samplePhrase 1 inspection.address := by
  have hk : ∃ known, lookupAccountClass BraavosAccount.currentClassHash = some known ∧
      known.constructor ≠ some .argentCairo0Proxy := by
    refine ⟨_, Option.eq_some_of_isSome (by decide +kernel), ?_⟩
    decide +kernel
  obtain ⟨known, hl, hc⟩ := hk
  obtain ⟨inspection, hin, hd, ho⟩ :=
    braavosDeployment_inspected sample_isAbscissa.1
  refine ⟨inspection, hin, hd, ho, sample_deriveDiscoveryKeypairs, ?_⟩
  refine ((address_generated_iff sample_soundCurve hin hd ho
    sample_deriveDiscoveryKeypairs).2 sample_collisionFree).mpr ⟨known, hl, ?_⟩
  exact ⟨sampleKeys.direct.keypair .direct, by simp [IndexKeys.keypairs], rfl, hc⟩

end Sample

end KrustyKms.Discovery

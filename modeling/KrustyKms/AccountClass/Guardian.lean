import KrustyKms.AccountClass.InspectTheorems
import KrustyKms.Common.FeltText

/-!
# Addresses of guarded Argent accounts

An inspection names the owner and the guardian of a guarded deployment, and
`calculateAddressWithGuardian` computes an address from these two and the class.
-/

namespace KrustyKms.AccountClass

open Crypto Account StarkSigning Support Support.MayPanic DeploymentInspection

/-! ## The preset -/

structure ArgentAccount where
  classHash : Felt
  layout : ArgentConstructorLayout
deriving DecidableEq

namespace ArgentAccount

def knownClassHashes : List Felt := knownClasses.map fun entry => entry.1

def layoutForClassHash (classHash : Felt) : Option ArgentConstructorLayout :=
  (knownClasses.find? fun entry => entry.1 = classHash).map fun entry => entry.2.2

def tryWithClassHash (classHash : Felt) : Result ArgentAccount :=
  match layoutForClassHash classHash with
  | some layout => .ok ⟨classHash, layout⟩
  | none => .error (.invalidClassHash
      s!"unknown Argent class hash {classHash.toHex}: no known constructor layout")

def calculateAddressWithGuardian [Pedersen] [NormalizeAddress] (account : ArgentAccount)
    (publicKey guardian : Felt) : Result Felt :=
  let calldata := account.layout.constructorCalldataWithGuardian publicKey guardian
  calculateContractAddress publicKey account.classHash calldata 0

end ArgentAccount

lemma length_constructorCalldataWithGuardian (layout : ArgentConstructorLayout)
    (publicKey guardian : Felt) :
    (layout.constructorCalldataWithGuardian publicKey guardian).length ≤ 5 := by
  unfold ArgentConstructorLayout.constructorCalldataWithGuardian
  split_ifs
  · cases layout <;> exact of_decide_eq_true rfl
  · cases layout <;> exact of_decide_eq_true rfl

lemma listed_registered : ∀ entry ∈ ArgentAccount.knownClasses,
    (lookupAccountClass entry.1).bind (·.constructor) = some (.ofLayout entry.2.2) ∧
      ArgentAccount.layoutForClassHash entry.1 = some entry.2.2 := by
  decide +kernel

/-! ## What is read as a guarded deployment -/

section Decode

variable [Target]

lemma eq_of_splitOptionalSigner_starknet {calldata : List Felt} {key : Felt}
    (h : Returns (splitOptionalSigner calldata) (some (.starknet key))) :
    key ≠ 0 ∧ calldata = [0, 0, key] := by
  cases calldata with
  | nil => simp [splitOptionalSigner] at h
  | cons tag rest =>
    unfold splitOptionalSigner at h
    dsimp only at h
    split_ifs at h with hn hr hs
    · simp at h
    · rw [returns_pure] at h
      cases h
    · cases rest with
      | nil => simp at h
      | cons signerTag payload =>
        dsimp only at h
        rw [returns_bind] at h
        obtain ⟨⟨signer, rest⟩, hsg, h⟩ := h
        dsimp only at h
        split_ifs at h with hr
        · simp at h
        · rw [returns_pure] at h
          rw [not_not] at hr
          obtain rfl := Option.some.inj h
          obtain ⟨rfl, hne, rfl⟩ := eq_of_splitSigner_starknet hsg
          rw [hs, hr]
          exact ⟨hne, rfl⟩
    · simp at h

lemma eq_of_decode_withGuardian {layout : ArgentConstructorLayout} {calldata : List Felt}
    {owner guardian : Felt}
    (h : Returns (layout.decode calldata) (.starknetOwnerWithGuardian owner (some guardian))) :
    calldata = layout.constructorCalldataWithGuardian owner guardian := by
  cases layout with
  | ownerGuardianFelts =>
    have h := returns_lift.mp h
    unfold decodeOwnerGuardianFelts at h
    split at h
    · split_ifs at h with ho hgr
      · cases h
      · injection h with h
        injection h with hkey hg
        injection hg with hg
        subst hkey hg
        exact (if_neg hgr).symm
    · cases h
  | signerWithOptionalGuardian =>
    cases calldata with
    | nil => exact absurd h (by simp [ArgentConstructorLayout.decode,
        decodeSignerWithOptionalGuardian])
    | cons ownerTag rest =>
      have h : Returns (decodeSignerWithOptionalGuardian (ownerTag :: rest)) _ := h
      unfold decodeSignerWithOptionalGuardian at h
      dsimp only at h
      rw [returns_bind] at h
      obtain ⟨⟨signer, afterOwner⟩, ho, h⟩ := h
      dsimp only at h
      rw [returns_bind] at h
      obtain ⟨optional, hgr, h⟩ := h
      rw [returns_pure] at h
      rcases signer with key | _
      · rcases optional with _ | guardianKey | _
        · cases h
        · injection h with hkey hg
          injection hg with hg
          subst hkey hg
          obtain ⟨rfl, -, rfl⟩ := eq_of_splitSigner_starknet ho
          obtain ⟨hne, rfl⟩ := eq_of_splitOptionalSigner_starknet hgr
          exact (if_neg hne).symm
        · cases h
      · cases h

end Decode

/-- The inspection says that the address follows from the owner's key and the guardian's. -/
structure GuardedBy (inspection : DeploymentInspection) (owner guardian : Felt) : Prop where
  reason : inspection.derivability = .notFromSeed .guardian
  owner : inspection.ownerPublicKey = some owner
  guardian : inspection.guardianPublicKey = some guardian

section Inspection

variable {known : KnownAccountClass} {key owner guardian : Felt}

lemma guardedBy_guarded
    {guardianKey : Option Felt} (h : GuardedBy (guarded known key guardianKey) owner guardian) :
    key = owner ∧ guardianKey = some guardian :=
  ⟨Option.some.inj h.owner, h.guardian⟩

lemma not_guardedBy_notFromSeed {key : Option Felt} {reason : NotDerivableReason} :
    ¬ GuardedBy (notFromSeed known key reason) owner guardian := by
  intro h
  cases h.guardian

lemma not_guardedBy_ownerSaltVerdict {salt : Felt} :
    ¬ GuardedBy (ownerSaltVerdict known key salt) owner guardian := by
  intro h
  unfold ownerSaltVerdict at h
  split_ifs at h
  · cases h.guardian
  · exact not_guardedBy_notFromSeed h

variable [FeltSqrt]

lemma guardedBy_malformedOwner {verdict : DeploymentInspection}
    (h : GuardedBy ((malformedOwner known key).getD verdict) owner guardian) :
    GuardedBy verdict owner guardian := by
  unfold malformedOwner at h
  split_ifs at h
  · exact absurd h not_guardedBy_notFromSeed
  · exact h

lemma GuardedBy.decoded {salt : Felt} {decoded : Result DecodedArgentConstructor}
    (h : GuardedBy (argentVerdict known salt decoded) owner guardian) :
    decoded = .ok (.starknetOwnerWithGuardian owner (some guardian)) := by
  match decoded with
  | .error _ => exact absurd h not_guardedBy_notFromSeed
  | .ok (.nonStarknetOwner _) => exact absurd h not_guardedBy_notFromSeed
  | .ok (.starknetOwnerWithGuardian key guardianKey) =>
    obtain ⟨rfl, rfl⟩ := guardedBy_guarded (guardedBy_malformedOwner h)
    rfl
  | .ok (.starknetOwnerNoGuardian key) =>
    exact absurd (guardedBy_malformedOwner h) not_guardedBy_ownerSaltVerdict

variable [Target]

lemma GuardedBy.calldata {deployment : Deployment} {verdict : DeploymentInspection}
    {entry : Felt × String × ArgentConstructorLayout}
    (hen : entry ∈ ArgentAccount.knownClasses) (hc : entry.1 = deployment.classHash)
    (hv : classify deployment.classHash deployment.salt deployment.constructorCalldata =
    some verdict) (h : GuardedBy verdict owner guardian) :
    deployment.constructorCalldata =
      entry.2.2.constructorCalldataWithGuardian owner guardian := by
  obtain ⟨hr, -⟩ := listed_registered entry hen
  rw [hc, Option.bind_eq_some_iff] at hr
  obtain ⟨known, hl, hcn⟩ := hr
  have ha : inspectArgentConstructor known (.ofLayout entry.2.2) deployment.salt
      deployment.constructorCalldata = some verdict := by
    rw [← hv]
    unfold classify
    simp only [hl, hcn]
    cases entry.2.2 <;> rfl
  have hly : (ConstructorShape.ofLayout entry.2.2).argentLayout = some entry.2.2 := by
    cases entry.2.2 <;> rfl
  simp only [inspectArgentConstructor, hly, Option.bind_eq_bind, Option.bind_some,
    Option.bind_eq_some_iff, Option.pure_def, Option.some.injEq] at ha
  obtain ⟨decoded, hd, rfl⟩ := ha
  rw [h.decoded] at hd
  exact eq_of_decode_withGuardian hd

variable [Pedersen] [NormalizeAddress]

/-- The preset finds the address from the owner and the guardian. -/
def Recomputes (classHash owner guardian address : Felt) : Prop :=
  ∃ account, ArgentAccount.tryWithClassHash classHash = .ok account ∧
    account.calculateAddressWithGuardian owner guardian = .ok address

/-- **When a guarded address is recomputed.** The preset finds the address of a Cairo 1 Argent
deployment that inspection reports as guarded by a Starknet key if its salt is the owner's key;
unless hashes collide, only then. -/
theorem guardedAddress_recomputed_iff {deployment : Deployment} {inspection : DeploymentInspection}
    {owner guardian : Felt} (hclass : deployment.classHash ∈ ArgentAccount.knownClassHashes)
    (hinspect : inspectDeployment deployment.classHash deployment.salt
    deployment.constructorCalldata = some inspection)
    (hguarded : GuardedBy inspection owner guardian) :
    (deployment.salt = owner →
      Recomputes deployment.classHash owner guardian inspection.address) ∧
    (CollisionFree {deployment, { deployment with salt := owner }} →
      (Recomputes deployment.classHash owner guardian inspection.address ↔
        deployment.salt = owner)) := by
  obtain ⟨entry, hen, hh⟩ := List.mem_map.mp hclass
  obtain ⟨verdict, hv, rfl⟩ := inspectDeployment_eq_some.mp hinspect
  have hc := GuardedBy.calldata hen hh hv
    ⟨hguarded.reason, hguarded.owner, hguarded.guardian⟩
  obtain ⟨-, hly⟩ := listed_registered entry hen
  have hac : ArgentAccount.tryWithClassHash deployment.classHash =
      .ok ⟨deployment.classHash, entry.2.2⟩ := by
    rw [ArgentAccount.tryWithClassHash, ← hh, hly]
  -- What is computed is the address of the deployment with the owner as its salt.
  have ha : Recomputes deployment.classHash owner guardian deployment.contractAddress ↔
      { deployment with salt := owner }.contractAddress = deployment.contractAddress := by
    have hcm : calculateContractAddress owner deployment.classHash
        (entry.2.2.constructorCalldataWithGuardian owner guardian) 0 =
          .ok { deployment with salt := owner }.contractAddress := by
      rw [← hc]
      exact Deployment.address_eq { deployment with salt := owner }
    constructor
    · intro h
      obtain ⟨account, hok, ha⟩ := h
      obtain rfl := Except.ok.inj (hac.symm.trans hok)
      exact Except.ok.inj (hcm.symm.trans ha)
    · intro h
      exact ⟨_, hac, hcm.trans (congrArg Except.ok h)⟩
  have hsl : deployment.salt = owner → { deployment with salt := owner } = deployment := by
    rintro rfl
    rfl
  refine ⟨fun hs => ha.mpr (congrArg _ (hsl hs)), fun hf => ha.trans ?_⟩
  constructor
  · intro h
    have hl : deployment.constructorCalldata.length < 2 ^ 64 := by
      rw [hc]
      exact Nat.lt_of_le_of_lt (length_constructorCalldataWithGuardian _ _ _) (by decide)
    have hsm := hf.contractAddress_inj (.inr rfl) (.inl rfl) hl hl h
    exact (congrArg Deployment.salt hsm).symm
  · exact fun hs => congrArg _ (hsl hs)

end Inspection

/-! ## An account with a salt of its own -/

section Sample

@[reducible] def sampleSqrt : FeltSqrt := ⟨fun y => if gY * gY = y then some gY else none⟩

/-- The Pedersen hashes behind the addresses of the generator's key with the guardian `0x1234`
under two salts. -/
def guardianTable : List ((Felt × Felt) × Felt) :=
  chainTable 0 [
    (0, 0x49ee3eba8c1600700ee1b87eb599f16716b0b1022947733551fde4050ca6804),
    (gX, 0x28fc9e363c33667a1b3d26e78dcd685d58578c71d695ff610d7d8384f004bf8),
    (0, 0x79f42fa9c9710b8498cce50a3540333fc21b1b551fbe478918933162705e9a2),
    (0, 0x12fb46804c24a93591834d2cab87f02942a11ad31f695f50702931d35e52d61),
    (0x1234, 0x20f0506d5140415bb274b7139afc0c310481f5fb025d688da2c53c9d160c001),
    (0x5, 0x4618ec42bfb813a831ffdaa5936f9cedddf09d3d1352493c0528e03cc546b65)] ++
  chainTable 0 [
    (prefixFelt, 0x19c4f5a32bf8efb8ff328e8933002412ad1a38b70e8e8d672289996cc025fcd),
    (0, 0x2fded809d413d52f262acd526c5c64d42a20f8295e87773f781c6febdbbdb84),
    (gX, 0x429f070ac4eb770cf437f22ef7d04acfa370520788fb430f33e4152ce3b726f),
    (ArgentAccount.defaultClassHash,
      0xa58f88d813ea7e2e98a354a67f74a21ad9d142b31c089c25cf04d184459625),
    (0x4618ec42bfb813a831ffdaa5936f9cedddf09d3d1352493c0528e03cc546b65,
      0x5dde0227b91bbeec2290827de5bb11866a5ecd46713578047a64cc5f9bbb1cc),
    (0x5, 0xe943d906dd10879f0a0184a73cd260a0decee53579e155c480f4b5bb031ffe)] ++
  chainTable 0x2fded809d413d52f262acd526c5c64d42a20f8295e87773f781c6febdbbdb84 [
    (0x5678, 0x62ff71ee55b2c1dc16f5af63da7a0f50be95d84f847a7a492626715a8ca71f4),
    (ArgentAccount.defaultClassHash,
      0x5b836d4e6fe9b1f86df6dcb446ce61b60b4686238352f4c1db511740223c9fb),
    (0x4618ec42bfb813a831ffdaa5936f9cedddf09d3d1352493c0528e03cc546b65,
      0x4d22ee9c4a958fbba67e46f0c5ddc443daf1e68939a5998a4ef6dc837f45c42),
    (0x5, 0x111cd895d942f30d4088bde96a7baaf9a6f147b49090b464c7ae6b2c2910b43)]

@[reducible] def guardianPedersen : Pedersen := tablePedersen guardianTable

attribute [local instance] sampleSqrt guardianPedersen moduloNormalizeAddress target64

def guardedDeployment (salt : Felt) : Deployment :=
  ⟨ArgentAccount.defaultClassHash, salt, [0, gX, 0, 0, 0x1234]⟩

def guardedFields (inspection : DeploymentInspection) :
    Derivability × Option Felt × Option Felt × Felt :=
  (inspection.derivability, inspection.ownerPublicKey, inspection.guardianPublicKey,
    inspection.address)

lemma exists_guardedBy {deployment : Deployment} {owner guardian address : Felt}
    (h : (inspectDeployment deployment.classHash deployment.salt
    deployment.constructorCalldata).map guardedFields =
    some (.notFromSeed .guardian, some owner, some guardian, address)) :
    ∃ inspection, inspectDeployment deployment.classHash deployment.salt
        deployment.constructorCalldata = some inspection ∧
      GuardedBy inspection owner guardian ∧ inspection.address = address := by
  obtain ⟨inspection, hin, hf⟩ := Option.map_eq_some_iff.mp h
  simp only [guardedFields, Prod.mk.injEq] at hf
  obtain ⟨hr, ho, hg, ha⟩ := hf
  exact ⟨inspection, hin, ⟨hr, ho, hg⟩, ha⟩

/-- Under a salt that is not the owner's key the preset computes another address. -/
theorem guarded_salt_not_recomputed :
    ∃ inspection, inspectDeployment ArgentAccount.defaultClassHash 0x5678
        [0, gX, 0, 0, 0x1234] = some inspection ∧
      GuardedBy inspection gX 0x1234 ∧
      ¬ Recomputes ArgentAccount.defaultClassHash gX 0x1234 inspection.address := by
  obtain ⟨inspection, hin, hg, ha⟩ :=
    @exists_guardedBy (guardedDeployment 0x5678) gX 0x1234
      0x111cd895d942f30d4088bde96a7baaf9a6f147b49090b464c7ae6b2c2910b43 (by decide +kernel)
  refine ⟨inspection, hin, hg, ?_⟩
  intro h
  obtain ⟨account, hok, hc⟩ := h
  rw [ha] at hc
  have hac : ArgentAccount.tryWithClassHash ArgentAccount.defaultClassHash =
      .ok ⟨ArgentAccount.defaultClassHash, .signerWithOptionalGuardian⟩ := by decide +kernel
  obtain rfl := Except.ok.inj (hac.symm.trans hok)
  exact absurd hc (by decide +kernel)

lemma guarded_collisionFree :
    CollisionFree {guardedDeployment gX, { guardedDeployment gX with salt := gX }} := by
  have hs : ({guardedDeployment gX, { guardedDeployment gX with salt := gX }} :
      Set Deployment) = {guardedDeployment gX} := Set.pair_eq_singleton _
  rw [hs]
  have hpr : ((guardedDeployment gX).hashedPairs.all fun pair =>
      (guardianTable.map Prod.fst).contains pair) = true := by decide +kernel
  refine ⟨(tablePedersen_injOn (by decide +kernel)).mono ?_, ?_⟩
  · intro pair hp
    obtain ⟨deployment, rfl, hp⟩ := hp
    exact List.contains_iff_mem.mp (List.all_eq_true.mp hpr pair hp)
  · intro hash hh hash' hh' _
    obtain ⟨deployment, rfl, rfl⟩ := hh
    obtain ⟨deployment', rfl, rfl⟩ := hh'
    rfl

/-- Under the owner's key as the salt the address is recomputed. -/
theorem guarded_owner_recomputed :
    ∃ inspection, inspectDeployment ArgentAccount.defaultClassHash gX
        [0, gX, 0, 0, 0x1234] = some inspection ∧
      GuardedBy inspection gX 0x1234 ∧
      Recomputes ArgentAccount.defaultClassHash gX 0x1234 inspection.address := by
  obtain ⟨inspection, hin, hg, -⟩ :=
    @exists_guardedBy (guardedDeployment gX) gX 0x1234
      0xe943d906dd10879f0a0184a73cd260a0decee53579e155c480f4b5bb031ffe (by decide +kernel)
  have hc : (guardedDeployment gX).classHash ∈ ArgentAccount.knownClassHashes := by
    decide +kernel
  obtain ⟨-, hiff⟩ := guardedAddress_recomputed_iff hc hin hg
  exact ⟨inspection, hin, hg, (hiff guarded_collisionFree).mpr rfl⟩

end Sample

end KrustyKms.AccountClass

import KrustyKms.AccountClass.ArgentDecode

/-!
# The Argent decoder reads exactly the Cairo serialization

`CairoSigner` is the grammar of Argent's `Signer`, each variant with the ranges of its
types, and `CairoSigner.serialize` is its serialization.
-/

namespace KrustyKms.AccountClass

open Crypto Codec Support Support.MayPanic

/-! ## Values in range -/

lemma val_natCast_of_lt {n : ℕ} (h : n < 2 ^ 192) : ((n : ℕ) : Felt).val = n := by
  have hs : 2 ^ 192 < fieldPrime := by decide
  exact ZMod.val_natCast_of_lt (by omega)

lemma fits_eq_true {felt : Felt} {bytes : ℕ} (h : bytes ≤ 32) :
    fits felt bytes = true ↔ felt.val < 256 ^ bytes := by
  rw [← forall_take_toBytesBe felt (Nat.sub_add_cancel h), fits, List.all_eq_true]
  simp only [decide_eq_true_eq]

lemma smallUsize_eq_some [Target] {felt : Felt} {n : ℕ} :
    smallUsize felt = some n ↔ felt.val = n ∧ n ≤ usizeMax := by
  have hmax := usizeMax_lt
  have ht := forall_take_toBytesBe felt (show 24 + 8 = 32 from rfl)
  unfold smallUsize
  dsimp only
  split_ifs with hany
  · -- a nonzero byte above the low eight
    rw [List.any_eq_true] at hany
    obtain ⟨b, hb, hne⟩ := hany
    have hl : ¬ felt.val < 256 ^ 8 := fun hlt => by simp [ht.mpr hlt b hb] at hne
    constructor
    · intro h
      cases h
    · intro h
      omega
  · have hlt : felt.val < 256 ^ 8 := by
      rw [← ht]
      simpa using hany
    rw [toList_toBytesBe felt (show 24 + 8 = 32 from rfl), List.drop_left' (length_beBytes 24 _),
      beValue_beBytes_of_lt hlt, usizeTryFrom_eq_some]
    constructor
    · intro h
      omega
    · intro h
      omega

/-! ## The grammar -/

structure NonZeroU256 where
  low : BitVec 128
  high : BitVec 128
  ne_zero : low ≠ 0 ∨ high ≠ 0

def NonZeroU256.serialize (n : NonZeroU256) : List Felt :=
  [(n.low.toNat : Felt), (n.high.toNat : Felt)]

structure NonZeroEthAddress where
  value : BitVec 160
  ne_zero : value ≠ 0

def NonZeroEthAddress.serialize (address : NonZeroEthAddress) : List Felt :=
  [(address.value.toNat : Felt)]

def serializeBytes (bytes : Bytes) : List Felt :=
  (bytes.length : Felt) :: bytes.map fun byte => (byte.toNat : Felt)

/-- Argent's `Signer`. -/
inductive CairoSigner where
  | starknet (pubkey : Felt) (ne_zero : pubkey ≠ 0)
  | secp256k1 (pubkeyHash : NonZeroEthAddress)
  | secp256r1 (pubkey : NonZeroU256)
  | eip191 (ethAddress : NonZeroEthAddress)
  | webauthn (origin : Bytes) (rpIdHash pubkey : NonZeroU256)

namespace CairoSigner

def variant : CairoSigner → ℕ
  | starknet .. => 0
  | secp256k1 _ => 1
  | secp256r1 _ => 2
  | eip191 _ => 3
  | webauthn .. => 4

lemma variant_lt (signer : CairoSigner) : signer.variant < 5 := by
  cases signer <;> exact of_decide_eq_true rfl

def fields : CairoSigner → List Felt
  | starknet pubkey _ => [pubkey]
  | secp256k1 pubkeyHash => pubkeyHash.serialize
  | secp256r1 pubkey => pubkey.serialize
  | eip191 ethAddress => ethAddress.serialize
  | webauthn origin rpIdHash pubkey =>
    serializeBytes origin ++ (rpIdHash.serialize ++ pubkey.serialize)

def serialize (signer : CairoSigner) : List Felt := (signer.variant : Felt) :: signer.fields

def summary : CairoSigner → Signer
  | starknet pubkey _ => .starknet pubkey
  | signer => .other (UInt8.ofNat signer.variant)

end CairoSigner

def serializeOptionalSigner : Option CairoSigner → List Felt
  | none => [1]
  | some signer => 0 :: signer.serialize

def describe : CairoSigner → Option CairoSigner → DecodedArgentConstructor
  | .starknet owner _, none => .starknetOwnerNoGuardian owner
  | .starknet owner _, some (.starknet guardian _) =>
    .starknetOwnerWithGuardian owner (some guardian)
  | .starknet owner _, some _ => .starknetOwnerWithGuardian owner none
  | owner, _ => .nonStarknetOwner (UInt8.ofNat owner.variant)

lemma summarize_summary (owner : CairoSigner) (guardian : Option CairoSigner) :
    summarize owner.summary (guardian.map CairoSigner.summary) = describe owner guardian := by
  cases owner with
  | starknet =>
    match guardian with
    | none => rfl
    | some (.starknet ..) | some (.secp256k1 _) | some (.secp256r1 _) | some (.eip191 _) => rfl
    | some (.webauthn ..) => rfl
  | secp256k1 | secp256r1 | eip191 | webauthn => rfl

/-! ## Reading the values -/

lemma exists_u128 {felt : Felt} (h : fits felt u128Bytes = true) :
    ∃ limb : BitVec 128, felt = (limb.toNat : Felt) := by
  rw [u128Bytes, fits_eq_true (by decide)] at h
  refine ⟨BitVec.ofNat 128 felt.val, ?_⟩
  rw [BitVec.toNat_ofNat, Nat.mod_eq_of_lt (by omega), ZMod.natCast_zmod_val]

lemma fits_u128 (limb : BitVec 128) : fits (limb.toNat : Felt) u128Bytes = true := by
  have hlt := limb.isLt
  rw [u128Bytes, fits_eq_true (by decide), val_natCast_of_lt (by omega)]
  omega

lemma u128_eq_zero {limb : BitVec 128} : (limb.toNat : Felt) = 0 ↔ limb = 0 := by
  have hlt := limb.isLt
  rw [← ZMod.val_eq_zero, val_natCast_of_lt (by omega), ← BitVec.toNat_inj]
  rfl

lemma isNonzeroU256_eq_true {limbs : List Felt} :
    isNonzeroU256 limbs = true ↔ ∃ n : NonZeroU256, limbs = n.serialize := by
  constructor
  · intro h
    simp only [isNonzeroU256, Bool.and_eq_true, decide_eq_true_eq, List.all_eq_true,
      List.any_eq_true] at h
    obtain ⟨⟨hln, hf⟩, hne⟩ := h
    obtain ⟨low, high, hl⟩ := List.length_eq_two.mp hln
    subst hl
    obtain ⟨lowLimb, hlow⟩ := exists_u128 (hf low (by simp))
    obtain ⟨highLimb, hh⟩ := exists_u128 (hf high (by simp))
    subst hlow hh
    exact ⟨⟨lowLimb, highLimb, by simpa [u128_eq_zero] using hne⟩, rfl⟩
  · intro h
    obtain ⟨⟨low, high, hne⟩, hl⟩ := h
    subst hl
    simp only [NonZeroU256.serialize, isNonzeroU256, List.length_cons, List.length_nil,
      List.all_cons, List.all_nil, List.any_cons, List.any_nil, fits_u128, ne_eq, u128_eq_zero]
    simpa using hne

lemma inRange_ethAddress_iff {felt : Felt} :
    (felt ≠ 0 ∧ fits felt ethAddressBytes = true) ↔
      ∃ address : NonZeroEthAddress, [felt] = address.serialize := by
  rw [ethAddressBytes, fits_eq_true (by decide)]
  constructor
  · intro ⟨hne, hlt⟩
    have hv : (BitVec.ofNat 160 felt.val).toNat = felt.val := by
      rw [BitVec.toNat_ofNat, Nat.mod_eq_of_lt (by omega)]
    refine ⟨⟨BitVec.ofNat 160 felt.val, ?_⟩, ?_⟩
    · intro hz
      rw [hz] at hv
      exact hne ((ZMod.val_eq_zero felt).mp hv.symm)
    · rw [NonZeroEthAddress.serialize, hv, ZMod.natCast_zmod_val]
  · intro ⟨⟨value, hne⟩, hf⟩
    have hlt := value.isLt
    have hval : ((value.toNat : ℕ) : Felt).val = value.toNat := val_natCast_of_lt (by omega)
    simp only [NonZeroEthAddress.serialize, List.cons.injEq, and_true] at hf
    subst hf
    refine ⟨?_, by omega⟩
    intro hz
    rw [← ZMod.val_eq_zero, hval] at hz
    exact hne (BitVec.eq_of_toNat_eq hz)

lemma exists_bytes {felts : List Felt} (h : ∀ felt ∈ felts, fits felt 1 = true) :
    ∃ bytes : Bytes, felts = bytes.map fun byte => (byte.toNat : Felt) := by
  refine ⟨felts.map fun felt => UInt8.ofNat felt.val, ?_⟩
  rw [List.map_map]
  conv_lhs => rw [← List.map_id felts]
  apply List.map_congr_left
  intro felt hf
  have hlt := (fits_eq_true (by decide)).mp (h felt hf)
  have hb : (UInt8.ofNat felt.val).toNat = felt.val := UInt8.toNat_ofNat_of_lt' (by omega)
  rw [Function.comp_apply, hb, ZMod.natCast_zmod_val, id]

lemma fits_byte (byte : UInt8) : fits (byte.toNat : Felt) 1 = true := by
  have hlt := byte.toNat_lt
  rw [fits_eq_true (by decide), val_natCast_of_lt (by omega)]
  omega

/-! ## WebAuthn -/

section

variable [Target]

lemma checkedAdd_eq_some {n m k : ℕ} : checkedAdd n m = some k ↔ n + m = k ∧ k ≤ usizeMax := by
  unfold checkedAdd
  split_ifs with h
  · rw [Option.some.injEq]
    omega
  · simp
    omega

lemma smallUsize_length {n : ℕ} (h : n ≤ usizeMax) : smallUsize (n : Felt) = some n := by
  have hmax := usizeMax_lt
  exact smallUsize_eq_some.mpr ⟨val_natCast_of_lt (by omega), h⟩

variable {payload front rest calldata : List Felt} {tag key : Felt} {variant : UInt8}
  {what : String} {signer : Signer}

lemma returns_isValidWebauthn :
    Returns (isValidWebauthn payload) true ↔
      ∃ (origin : Bytes) (rpIdHash pubkey : NonZeroU256), origin.length + 4 ≤ usizeMax ∧
        payload = serializeBytes origin ++ (rpIdHash.serialize ++ pubkey.serialize) := by
  constructor
  · intro h
    match payload with
    | [] => simp [isValidWebauthn] at h
    | first :: rest =>
      unfold isValidWebauthn at h
      dsimp only at h
      cases hs : smallUsize first with
      | none => simp [hs] at h
      | some originLen =>
        rw [hs] at h
        dsimp only at h
        rw [returns_bind] at h
        obtain ⟨expected, hex, h⟩ := h
        rw [returns_orPanic, checkedAdd_eq_some] at hex
        split_ifs at h with hr
        · simp at h
        · rw [returns_bind] at h
          obtain ⟨⟨origin, keys⟩, hsp, h⟩ := h
          rw [returns_bind] at h
          obtain ⟨⟨rpIdHash, pubkey⟩, hk, h⟩ := h
          rw [returns_splitAt] at hsp hk
          simp only [returns_pure, Bool.and_eq_true, List.all_eq_true] at h
          obtain ⟨bytes, hb⟩ := exists_bytes h.1.1
          obtain ⟨rpIdHash, hrpIdHash⟩ := isNonzeroU256_eq_true.mp h.1.2
          obtain ⟨pubkey, hp⟩ := isNonzeroU256_eq_true.mp h.2
          subst hb hrpIdHash hp
          have hl : bytes.length = originLen := by simpa using hsp.2
          refine ⟨bytes, rpIdHash, pubkey, by omega, ?_⟩
          rw [hsp.1, hk.1, serializeBytes, List.cons_append, hl,
            ← (smallUsize_eq_some.mp hs).1, ZMod.natCast_zmod_val]
  · intro h
    obtain ⟨origin, rpIdHash, pubkey, hmax, hpy⟩ := h
    subst hpy
    rw [serializeBytes, List.cons_append]
    unfold isValidWebauthn
    dsimp only
    rw [smallUsize_length (by omega)]
    dsimp only
    rw [returns_bind]
    refine ⟨origin.length + 4, returns_orPanic.mpr (checkedAdd_eq_some.mpr ⟨rfl, hmax⟩), ?_⟩
    rw [if_neg (by simp [NonZeroU256.serialize])]
    rw [returns_bind]
    refine ⟨(origin.map _, rpIdHash.serialize ++ pubkey.serialize),
      returns_splitAt.mpr ⟨rfl, List.length_map _⟩, ?_⟩
    dsimp only
    rw [returns_bind]
    refine ⟨(rpIdHash.serialize, pubkey.serialize), returns_splitAt.mpr ⟨rfl, rfl⟩, ?_⟩
    have hrpIdHash := isNonzeroU256_eq_true.mpr ⟨rpIdHash, rfl⟩
    have hp := isNonzeroU256_eq_true.mpr ⟨pubkey, rfl⟩
    simp [hrpIdHash, hp, fits_byte]

lemma completes_isValidWebauthn
    (hmax : ∀ originLen, payload.head?.bind smallUsize = some originLen →
    originLen + 5 ≤ usizeMax) : Completes (isValidWebauthn payload) := by
  match payload with
  | [] => exact completes_pure
  | first :: rest =>
    unfold isValidWebauthn
    dsimp only
    cases hs : smallUsize first with
    | none => exact completes_pure
    | some originLen =>
      have hlen := hmax originLen hs
      apply completes_bind
      · exact (returns_orPanic.mpr (checkedAdd_eq_some.mpr ⟨rfl, by omega⟩)).completes
      intro expected hex
      rw [returns_orPanic, checkedAdd_eq_some] at hex
      apply completes_ite (fun _ => completes_pure)
      intro hr
      apply completes_bind (completes_splitAt (by omega))
      intro parts hp
      obtain ⟨hpy, hl⟩ := returns_splitAt.mp hp
      rw [hpy, List.length_append] at hr
      exact completes_bind (completes_splitAt (by omega)) fun _ _ => completes_pure

/-! ## One signer -/

lemma signerVariant_eq_some :
    signerVariant tag = some variant ↔ tag.val = variant.toNat := by
  have hv := variant.toNat_lt
  have hmax : variant.toNat ≤ usizeMax := le_usizeMax (by omega)
  unfold signerVariant
  rw [Option.bind_eq_some_iff]
  constructor
  · intro h
    obtain ⟨n, hn, h⟩ := h
    split_ifs at h with hlt
    rw [Option.some.injEq] at h
    rw [← h, UInt8.toNat_ofNat_of_lt' hlt]
    exact (smallUsize_eq_some.mp hn).1
  · intro h
    refine ⟨variant.toNat, smallUsize_eq_some.mpr ⟨h, hmax⟩, ?_⟩
    rw [if_pos hv, UInt8.ofNat_toNat]

lemma returns_isValidPayload_key :
    Returns (isValidPayload 0 [key]) true ↔ key ≠ 0 := by
  simp only [isValidPayload, returns_bind, returns_index, returns_pure, decide_eq_true_eq]
  simp

lemma returns_isValidPayload_address {variant : ℕ} (h : variant = 1 ∨ variant = 3) {felt : Felt} :
    Returns (isValidPayload variant [felt]) true ↔
      ∃ address : NonZeroEthAddress, [felt] = address.serialize := by
  rw [← inRange_ethAddress_iff]
  rcases h with rfl | rfl
  all_goals
    simp only [isValidPayload, returns_bind, returns_index, returns_pure, Bool.and_eq_true,
      decide_eq_true_eq]
    simp

lemma exists_signer {variant : ℕ} (hw : signerWidth variant (front ++ rest) what = .ok front.length)
    (hv : Returns (isValidPayload variant front) true) :
    ∃ signer : CairoSigner, signer.variant = variant ∧ signer.fields = front := by
  match variant with
  | 0 =>
    injection hw with hw
    obtain ⟨key, hf⟩ := List.length_eq_one_iff.mp hw.symm
    subst hf
    exact ⟨.starknet key (returns_isValidPayload_key.mp hv), rfl, rfl⟩
  | 1 =>
    injection hw with hw
    obtain ⟨felt, hf⟩ := List.length_eq_one_iff.mp hw.symm
    subst hf
    obtain ⟨address, ha⟩ := (returns_isValidPayload_address (.inl rfl)).mp hv
    exact ⟨.secp256k1 address, rfl, ha.symm⟩
  | 2 =>
    rw [isValidPayload, returns_pure] at hv
    obtain ⟨pubkey, hp⟩ := isNonzeroU256_eq_true.mp hv
    exact ⟨.secp256r1 pubkey, rfl, hp.symm⟩
  | 3 =>
    injection hw with hw
    obtain ⟨felt, hf⟩ := List.length_eq_one_iff.mp hw.symm
    subst hf
    obtain ⟨address, ha⟩ := (returns_isValidPayload_address (.inr rfl)).mp hv
    exact ⟨.eip191 address, rfl, ha.symm⟩
  | 4 =>
    obtain ⟨origin, rpIdHash, pubkey, -, hf⟩ := returns_isValidWebauthn.mp hv
    exact ⟨.webauthn origin rpIdHash pubkey, rfl, hf.symm⟩
  | variant + 5 => cases hw

lemma signerWidth_fields (signer : CairoSigner) (rest : List Felt) (what : String)
    (hmax : signer.fields.length ≤ usizeMax) :
    signerWidth signer.variant (signer.fields ++ rest) what = .ok signer.fields.length := by
  cases signer with
  | starknet | secp256k1 | secp256r1 | eip191 => rfl
  | webauthn origin rpIdHash pubkey =>
    have hl : (CairoSigner.webauthn origin rpIdHash pubkey).fields.length =
        origin.length + 5 := by
      simp [CairoSigner.fields, serializeBytes, NonZeroU256.serialize]
    rw [hl] at hmax ⊢
    have hh : ((CairoSigner.webauthn origin rpIdHash pubkey).fields ++ rest).head?.bind
        smallUsize = some origin.length := by
      simp [CairoSigner.fields, serializeBytes, smallUsize_length (show origin.length ≤ _ by omega)]
    show signerWidth 4 _ what = _
    rw [signerWidth, hh]
    dsimp only
    rw [checkedAdd_eq_some.mpr ⟨rfl, hmax⟩]

lemma returns_isValidPayload (signer : CairoSigner) (hmax : signer.fields.length ≤ usizeMax) :
    Returns (isValidPayload signer.variant signer.fields) true := by
  cases signer with
  | starknet pubkey hne => exact returns_isValidPayload_key.mpr hne
  | secp256k1 address => exact (returns_isValidPayload_address (.inl rfl)).mpr ⟨address, rfl⟩
  | eip191 address => exact (returns_isValidPayload_address (.inr rfl)).mpr ⟨address, rfl⟩
  | secp256r1 pubkey =>
    exact returns_pure.mpr (isNonzeroU256_eq_true.mpr ⟨pubkey, rfl⟩)
  | webauthn origin rpIdHash pubkey =>
    refine returns_isValidWebauthn.mpr ⟨origin, rpIdHash, pubkey, ?_, rfl⟩
    simp [CairoSigner.fields, serializeBytes, NonZeroU256.serialize] at hmax
    omega

def Keeps (variant : UInt8) (front : List Felt) (signer : Signer) : Prop :=
  if variant = 0 then ∃ key, front[0]? = some key ∧ .starknet key = signer
  else .other variant = signer

omit [Target] in
lemma keeps_summary (cairo : CairoSigner) :
    Keeps (UInt8.ofNat cairo.variant) cairo.fields cairo.summary := by
  cases cairo with
  | starknet pubkey hne => exact ⟨pubkey, rfl, rfl⟩
  | secp256k1 | secp256r1 | eip191 | webauthn => exact rfl

omit [Target] in
lemma Keeps.unique {signer' : Signer}
    (h : Keeps variant front signer) (h' : Keeps variant front signer') : signer = signer' := by
  unfold Keeps at h h'
  split_ifs at h h' with hz
  · obtain ⟨key, hkey, rfl⟩ := h
    obtain ⟨key', hk', rfl⟩ := h'
    rw [hkey, Option.some.injEq] at hk'
    rw [hk']
  · exact h.symm.trans h'

omit [Target] in
lemma returns_keep {rest' : List Felt} :
    Returns (if variant = 0 then (do
        let key ← index front 0
        pure (.starknet key, rest))
      else pure (.other variant, rest) : MayPanic KmsError (Signer × List Felt)) (signer, rest') ↔
      Keeps variant front signer ∧ rest = rest' := by
  unfold Keeps
  split_ifs with hz
  · simp only [returns_bind, returns_index, returns_pure, Prod.mk.injEq]
    tauto
  · rw [returns_pure, Prod.mk.injEq]

lemma returns_splitSigner_iff :
    Returns (splitSigner tag payload what) (signer, rest) ↔
      ∃ variant front, signerVariant tag = some variant ∧ payload = front ++ rest ∧
        signerWidth variant.toNat payload what = .ok front.length ∧
        Returns (isValidPayload variant.toNat front) true ∧ Keeps variant front signer := by
  unfold splitSigner
  cases htag : signerVariant tag with
  | none => simp
  | some variant =>
    simp only [Option.some.injEq, exists_and_left, exists_eq_left']
    rw [returns_bind]
    constructor
    · intro h
      obtain ⟨width, hw, h⟩ := h
      rw [returns_lift] at hw
      by_cases hlen : payload.length < width
      · simp [hlen] at h
      rw [if_neg hlen, returns_bind] at h
      obtain ⟨⟨front, rest'⟩, hs, h⟩ := h
      rw [returns_splitAt] at hs
      dsimp only at hs h
      rw [returns_bind] at h
      obtain ⟨valid, hv, h⟩ := h
      cases valid with
      | false => simp at h
      | true =>
        obtain ⟨hk, rfl⟩ := returns_keep.mp h
        exact ⟨front, hs.1, hs.2 ▸ hw, hv, hk⟩
    · intro h
      obtain ⟨front, hp, hw, hv, hk⟩ := h
      refine ⟨front.length, returns_lift.mpr hw, ?_⟩
      rw [if_neg (by simp [hp]), returns_bind]
      refine ⟨(front, rest), returns_splitAt.mpr ⟨hp, rfl⟩, ?_⟩
      dsimp only
      rw [returns_bind]
      exact ⟨true, hv, returns_keep.mpr ⟨hk, rfl⟩⟩

lemma returns_splitSigner (hmax : payload.length ≤ usizeMax) :
    Returns (splitSigner tag payload what) (signer, rest) ↔
      ∃ cairo : CairoSigner, tag :: payload = cairo.serialize ++ rest ∧ cairo.summary = signer := by
  rw [returns_splitSigner_iff]
  constructor
  · intro h
    obtain ⟨variant, front, htag, hp, hw, hvl, hk⟩ := h
    subst hp
    obtain ⟨cairo, hv, hf⟩ := exists_signer hw hvl
    refine ⟨cairo, ?_, ?_⟩
    · rw [CairoSigner.serialize, List.cons_append, hf, hv,
        ← signerVariant_eq_some.mp htag, ZMod.natCast_zmod_val]
    · have hs := keeps_summary cairo
      rw [hv, hf, UInt8.ofNat_toNat] at hs
      exact hs.unique hk
  · intro h
    obtain ⟨cairo, hc, rfl⟩ := h
    rw [CairoSigner.serialize, List.cons_append, List.cons.injEq] at hc
    obtain ⟨htag, hp⟩ := hc
    have hlt := cairo.variant_lt
    have hv : (UInt8.ofNat cairo.variant).toNat = cairo.variant :=
      UInt8.toNat_ofNat_of_lt' (hlt.trans (by decide))
    have hf : cairo.fields.length ≤ usizeMax := by
      rw [hp, List.length_append] at hmax
      omega
    refine ⟨UInt8.ofNat cairo.variant, cairo.fields, ?_, hp, ?_, ?_, keeps_summary cairo⟩
    · rw [signerVariant_eq_some, htag, hv, val_natCast_of_lt (by omega)]
    · rw [hv, hp, signerWidth_fields cairo rest what hf]
    · rw [hv]
      exact returns_isValidPayload cairo hf

/-! ## No panic -/

lemma signerWidth_webauthn {width : ℕ} :
    signerWidth 4 payload what = .ok width ↔
      ∃ originLen, payload.head?.bind smallUsize = some originLen ∧ originLen + 5 = width ∧
        width ≤ usizeMax := by
  unfold signerWidth
  cases payload.head?.bind smallUsize with
  | none => simp
  | some originLen =>
    dsimp only
    cases hadd : checkedAdd originLen 5 with
    | none =>
      have ho : ¬ (originLen + 5 = width ∧ width ≤ usizeMax) := fun hn => by
        rw [checkedAdd_eq_some.mpr hn] at hadd
        cases hadd
      simpa using ho
    | some sum =>
      have hsum := checkedAdd_eq_some.mp hadd
      simp only [Except.ok.injEq, Option.some.injEq, exists_eq_left']
      omega

lemma completes_isValidPayload {variant : ℕ}
    (hw : signerWidth variant (front ++ rest) what = .ok front.length) :
    Completes (isValidPayload variant front) := by
  have hin : front.length = 1 → Completes (index front 0 : MayPanic KmsError Felt) := by
    intro hone
    obtain ⟨felt, rfl⟩ := List.length_eq_one_iff.mp hone
    exact (returns_index.mpr rfl).completes
  match variant with
  | 0 | 1 | 3 =>
    injection hw with hw
    exact completes_bind (hin hw.symm) fun _ _ => completes_pure
  | 2 => exact completes_pure
  | 4 =>
    rw [signerWidth_webauthn] at hw
    obtain ⟨declared, hd, hl, hmax⟩ := hw
    apply completes_isValidWebauthn
    intro originLen hh
    -- the payload starts with the length that gave the width
    cases front with
    | nil => simp at hh
    | cons first front =>
      obtain rfl : declared = originLen := by
        rw [List.head?_cons] at hh
        rw [List.cons_append, List.head?_cons, hh] at hd
        injection hd with hd
        exact hd.symm
      omega
  | variant + 5 => cases hw

lemma completes_splitSigner (tag : Felt) (payload : List Felt) (what : String) :
    Completes (splitSigner tag payload what) := by
  unfold splitSigner
  cases signerVariant tag with
  | none => exact completes_throw
  | some variant =>
    dsimp only
    apply completes_bind completes_lift
    intro width hw
    rw [returns_lift] at hw
    apply completes_ite (fun _ => completes_throw)
    intro hlen
    apply completes_bind (completes_splitAt (by omega))
    intro parts hpr
    obtain ⟨front, rest⟩ := parts
    obtain ⟨hp, hl⟩ := returns_splitAt.mp hpr
    dsimp only at hp hl ⊢
    subst hp hl
    apply completes_bind (completes_isValidPayload hw)
    intro valid _
    apply completes_ite (fun _ => completes_throw)
    intro _
    apply completes_ite
    · intro hz
      rw [hz] at hw
      injection hw with hw
      obtain ⟨key, rfl⟩ := List.length_eq_one_iff.mp hw.symm
      exact completes_bind (returns_index.mpr rfl).completes fun _ _ => completes_pure
    · exact fun _ => completes_pure

lemma completes_splitOptionalSigner (calldata : List Felt) :
    Completes (splitOptionalSigner calldata) := by
  match calldata with
  | [] => exact completes_throw
  | tag :: rest =>
    unfold splitOptionalSigner
    dsimp only
    apply completes_ite
    · exact fun _ => completes_ite (fun _ => completes_throw) fun _ => completes_pure
    intro _
    apply completes_ite
    · intro _
      match rest with
      | [] => exact completes_throw
      | signerTag :: payload =>
        apply completes_bind (completes_splitSigner signerTag payload "guardian")
        intro parts _
        exact completes_ite (fun _ => completes_throw) fun _ => completes_pure
    · exact fun _ => completes_throw

lemma completes_decodeSignerWithOptionalGuardian (calldata : List Felt) :
    Completes (decodeSignerWithOptionalGuardian calldata) := by
  match calldata with
  | [] => exact completes_throw
  | ownerTag :: rest =>
    apply completes_bind (completes_splitSigner ownerTag rest "owner")
    intro parts _
    apply completes_bind (completes_splitOptionalSigner parts.2)
    exact fun _ _ => completes_pure

/-! ## The decoder -/

lemma returns_splitOptionalSigner {guardian : Option Signer} (hmax : calldata.length ≤ usizeMax) :
    Returns (splitOptionalSigner calldata) guardian ↔
      ∃ cairo : Option CairoSigner, calldata = serializeOptionalSigner cairo ∧
        cairo.map CairoSigner.summary = guardian := by
  constructor
  · intro h
    match calldata with
    | [] => simp [splitOptionalSigner] at h
    | tag :: rest =>
      unfold splitOptionalSigner at h
      dsimp only at h
      split_ifs at h with hn hr hsm
      · simp at h
      · rw [returns_pure] at h
        rw [not_not] at hr
        subst hn hr h
        exact ⟨none, rfl, rfl⟩
      · match rest with
        | [] => simp at h
        | signerTag :: payload =>
          dsimp only at h
          rw [returns_bind] at h
          obtain ⟨⟨signer, rest⟩, hs, h⟩ := h
          simp only [List.length_cons] at hmax
          rw [returns_splitSigner (by omega)] at hs
          obtain ⟨cairo, hc, hsu⟩ := hs
          dsimp only at h
          split_ifs at h with hr
          · simp at h
          · rw [returns_pure] at h
            rw [not_not] at hr
            subst hr h
            refine ⟨some cairo, ?_, by rw [Option.map_some, hsu]⟩
            rw [hsm, hc, List.append_nil]
            rfl
      · simp at h
  · intro h
    obtain ⟨cairo, rfl, rfl⟩ := h
    match cairo with
    | none =>
      show Returns (splitOptionalSigner [1]) none
      unfold splitOptionalSigner
      simp
    | some cairo =>
      have hsp : Returns (splitSigner (cairo.variant : Felt) cairo.fields "guardian")
          (cairo.summary, []) := by
        simp only [serializeOptionalSigner, CairoSigner.serialize, List.length_cons] at hmax
        exact (returns_splitSigner (by omega)).mpr ⟨cairo, (List.append_nil _).symm, rfl⟩
      show Returns (splitOptionalSigner (0 :: cairo.variant :: cairo.fields)) _
      unfold splitOptionalSigner
      dsimp only
      rw [if_neg (by decide), if_pos rfl, returns_bind]
      exact ⟨_, hsp, by simp⟩

lemma returns_decodeSignerWithOptionalGuardian
    {decoded : DecodedArgentConstructor} (hmax : calldata.length ≤ usizeMax) :
    Returns (decodeSignerWithOptionalGuardian calldata) decoded ↔
      ∃ (owner : CairoSigner) (guardian : Option CairoSigner),
        calldata = owner.serialize ++ serializeOptionalSigner guardian ∧
          decoded = describe owner guardian := by
  constructor
  · intro h
    match calldata with
    | [] => simp [decodeSignerWithOptionalGuardian] at h
    | ownerTag :: rest =>
      simp only [List.length_cons] at hmax
      unfold decodeSignerWithOptionalGuardian at h
      dsimp only at h
      rw [returns_bind] at h
      obtain ⟨⟨owner, afterOwner⟩, ho, h⟩ := h
      rw [returns_splitSigner (by omega)] at ho
      obtain ⟨cairoOwner, hc, rfl⟩ := ho
      have ha : afterOwner.length ≤ usizeMax := by
        have hl := congrArg List.length hc
        rw [List.length_append, List.length_cons] at hl
        omega
      dsimp only at h
      rw [returns_bind] at h
      obtain ⟨guardian, hg, h⟩ := h
      rw [returns_splitOptionalSigner ha] at hg
      obtain ⟨cairoGuardian, rfl, rfl⟩ := hg
      rw [returns_pure, summarize_summary] at h
      exact ⟨cairoOwner, cairoGuardian, hc, h.symm⟩
  · intro h
    obtain ⟨owner, guardian, rfl, rfl⟩ := h
    rw [CairoSigner.serialize, List.cons_append] at hmax ⊢
    simp only [List.length_cons, List.length_append] at hmax
    unfold decodeSignerWithOptionalGuardian
    dsimp only
    rw [returns_bind]
    refine ⟨(owner.summary, serializeOptionalSigner guardian), ?_, ?_⟩
    · exact (returns_splitSigner (by rw [List.length_append]; omega)).mpr ⟨owner, rfl, rfl⟩
    · dsimp only
      rw [returns_bind]
      exact ⟨_, (returns_splitOptionalSigner (by omega)).mpr ⟨guardian, rfl, rfl⟩,
        returns_pure.mpr (summarize_summary owner guardian)⟩

omit [Target] in
lemma serialize_of_withGuardian {owner : CairoSigner} {guardian : Option CairoSigner}
    {guardianKey : Felt}
    (h : .starknetOwnerWithGuardian key (some guardianKey) = describe owner guardian) :
    ArgentConstructorLayout.signerWithOptionalGuardian.constructorCalldataWithGuardian key
        guardianKey = owner.serialize ++ serializeOptionalSigner guardian := by
  cases owner with
  | starknet pubkey hne =>
    match guardian with
    | none => cases h
    | some (.starknet pubkey' hne') =>
      injection h with hkey hg
      injection hg with hg
      subst hkey hg
      rw [ArgentConstructorLayout.constructorCalldataWithGuardian, if_neg hne']
      rfl
    | some (.secp256k1 _) | some (.secp256r1 _) | some (.eip191 _) => cases h
    | some (.webauthn ..) => cases h
  | secp256k1 | secp256r1 | eip191 | webauthn => cases h

lemma eq_of_splitOptionalSigner_none
    (h : Returns (splitOptionalSigner calldata) none) : calldata = [1] := by
  match calldata with
  | [] => simp [splitOptionalSigner] at h
  | tag :: rest =>
    unfold splitOptionalSigner at h
    dsimp only at h
    split_ifs at h with hn hr hs
    · simp at h
    · rw [not_not] at hr
      rw [hn, hr]
    · match rest with
      | [] => simp at h
      | signerTag :: payload =>
        dsimp only at h
        rw [returns_bind] at h
        obtain ⟨parts, -, h⟩ := h
        split_ifs at h with hr
        · simp at h
        · rw [returns_pure] at h
          cases h
    · simp at h

lemma eq_of_splitSigner_starknet
    (h : Returns (splitSigner tag payload what) (.starknet key, rest)) :
    tag = 0 ∧ key ≠ 0 ∧ payload = key :: rest := by
  obtain ⟨variant, front, htag, hp, hw, hv, hk⟩ := returns_splitSigner_iff.mp h
  unfold Keeps at hk
  split_ifs at hk with hz
  · obtain ⟨key', hk', hs⟩ := hk
    injection hs with hs
    subst hs hz
    -- a signer of variant 0 is one felt wide
    have hl : front.length = 1 := (Except.ok.inj hw).symm
    obtain ⟨felt, rfl⟩ := List.length_eq_one_iff.mp hl
    obtain rfl := Option.some.inj hk'
    refine ⟨?_, returns_isValidPayload_key.mp hv, hp⟩
    exact (ZMod.val_eq_zero tag).mp (signerVariant_eq_some.mp htag)

theorem returns_decode_noGuardian {layout : ArgentConstructorLayout} {owner : Felt} :
    Returns (layout.decode calldata) (.starknetOwnerNoGuardian owner) ↔
      owner ≠ 0 ∧ calldata = layout.constructorCalldata owner := by
  cases layout with
  | ownerGuardianFelts =>
    show Returns (liftM (decodeOwnerGuardianFelts calldata)) _ ↔ owner ≠ 0 ∧ calldata = [owner, 0]
    rw [returns_lift]
    constructor
    · intro h
      unfold decodeOwnerGuardianFelts at h
      split at h
      · split_ifs at h with ho hg
        · injection h with h
          injection h with h
          subst h hg
          exact ⟨ho, rfl⟩
        · cases h
      · cases h
    · intro h
      obtain ⟨ho, rfl⟩ := h
      rw [decodeOwnerGuardianFelts, if_neg ho, if_pos rfl]
  | signerWithOptionalGuardian =>
    show Returns (decodeSignerWithOptionalGuardian calldata) _ ↔
      owner ≠ 0 ∧ calldata = [0, owner, 1]
    constructor
    · intro h
      match calldata with
      | [] => simp [decodeSignerWithOptionalGuardian] at h
      | ownerTag :: rest =>
        unfold decodeSignerWithOptionalGuardian at h
        dsimp only at h
        rw [returns_bind] at h
        obtain ⟨⟨signer, afterOwner⟩, ho, h⟩ := h
        dsimp only at h
        rw [returns_bind] at h
        obtain ⟨guardian, hg, h⟩ := h
        rw [returns_pure] at h
        match signer, guardian with
        | .starknet key, none =>
          injection h with h
          subst h
          obtain ⟨htag, hne, hr⟩ := eq_of_splitSigner_starknet ho
          rw [eq_of_splitOptionalSigner_none hg] at hr
          exact ⟨hne, by rw [htag, hr]⟩
        | .starknet _, some (.starknet _) | .starknet _, some (.other _) => cases h
        | .other _, _ => cases h
    · intro h
      obtain ⟨ho, rfl⟩ := h
      refine (returns_decodeSignerWithOptionalGuardian (le_usizeMax ?_)).mpr
        ⟨.starknet owner ho, none, rfl, rfl⟩
      show 3 < 2 ^ 32
      decide

/-- **The decoder reads exactly the Cairo serialization.** On calldata that a slice can hold
it does not panic; it succeeds exactly on a serialized owner followed by a serialized optional
guardian, and reports these two. It inverts the constructors of calldata, and what they build
is what is read as a Starknet owner without or with a Starknet guardian. -/
theorem decode_exact {calldata : List Felt} (hmax : calldata.length ≤ usizeMax) :
    let layout := ArgentConstructorLayout.signerWithOptionalGuardian
    Completes (layout.decode calldata) ∧
      (∀ decoded, Returns (layout.decode calldata) decoded ↔
        ∃ (owner : CairoSigner) (guardian : Option CairoSigner),
          calldata = owner.serialize ++ serializeOptionalSigner guardian ∧
            decoded = describe owner guardian) ∧
      (∀ owner, owner ≠ 0 →
        Returns (layout.decode (layout.constructorCalldata owner))
          (.starknetOwnerNoGuardian owner)) ∧
      (∀ owner guardian, owner ≠ 0 → guardian ≠ 0 →
        Returns (layout.decode (layout.constructorCalldataWithGuardian owner guardian))
          (.starknetOwnerWithGuardian owner (some guardian))) ∧
      (∀ owner, Returns (layout.decode calldata) (.starknetOwnerNoGuardian owner) →
        layout.constructorCalldata owner = calldata) ∧
      ∀ owner guardian,
        Returns (layout.decode calldata) (.starknetOwnerWithGuardian owner (some guardian)) →
          layout.constructorCalldataWithGuardian owner guardian = calldata := by
  intro layout
  refine ⟨completes_decodeSignerWithOptionalGuardian calldata, ?_, ?_, ?_, ?_, ?_⟩
  · intro decoded
    exact returns_decodeSignerWithOptionalGuardian hmax
  · intro owner ho
    exact returns_decode_noGuardian.mpr ⟨ho, rfl⟩
  · intro owner guardian ho hg
    have hc : layout.constructorCalldataWithGuardian owner guardian =
        [0, owner, 0, 0, guardian] := if_neg hg
    rw [hc]
    refine (returns_decodeSignerWithOptionalGuardian (le_usizeMax ?_)).mpr
      ⟨.starknet owner ho, some (.starknet guardian hg), rfl, rfl⟩
    show 5 < 2 ^ 32
    decide
  · intro owner h
    exact (returns_decode_noGuardian.mp h).2.symm
  · intro owner guardian h
    obtain ⟨cairoOwner, cairoGuardian, hc, hd⟩ :=
      (returns_decodeSignerWithOptionalGuardian hmax).mp h
    rw [hc, serialize_of_withGuardian hd]

end

section Sample

attribute [local instance] target64

/-- A Starknet owner with a WebAuthn guardian whose origin has five bytes. -/
def sampleCalldata : List Felt :=
  [0, 0x1234, 0, 4, 5, 104, 116, 116, 112, 115, 7, 0, 0, 0x80000000000000000000000000000000]

theorem sampleCalldata_decoded : sampleCalldata.length ≤ usizeMax ∧
    Returns (ArgentConstructorLayout.signerWithOptionalGuardian.decode sampleCalldata)
      (.starknetOwnerWithGuardian 0x1234 none) := by
  have hmax : sampleCalldata.length ≤ usizeMax := by decide
  refine ⟨hmax, ((decode_exact hmax).2.1 _).mpr ?_⟩
  refine ⟨.starknet 0x1234 (by decide), some (.webauthn (utf8 "https")
    ⟨7, 0, by decide⟩ ⟨0, 0x80000000000000000000000000000000, by decide⟩), by decide +kernel, rfl⟩

end Sample

end KrustyKms.AccountClass

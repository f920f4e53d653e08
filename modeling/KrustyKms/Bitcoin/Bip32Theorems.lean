import KrustyKms.Bitcoin.Bip32
import KrustyKms.Common.ZeroizingHmac
import KrustyKms.Support.Fallible

/-!
# The two BIP-32 derivations

`Node.walk` is BIP-32's private derivation along a path. The shared derivation computes it
(`derivePath_eq_walk`); the Bitcoin module computes it except that it refuses a child whose `IL`
is zero (`foldlM_deriveStep_eq_walk`), which BIP-32 allows.
-/

namespace KrustyKms.Bitcoin.Bip32

open Codec Secp256k1 KrustyKms.Derivation Support

/-! ## BIP-32 -/

structure Node where
  key : Scalar
  chainCode : Vector UInt8 32
  key_ne : key ≠ 0
deriving DecidableEq

namespace Node

variable [Points]

def message (node : Node) (index : UInt32) : List Bytes :=
  if index &&& 0x80000000 ≠ 0 then [[0x00], (toRepr node.key).toList, indexBytes index]
  else [Points.compressedPublicKey node.key, indexBytes index]

/-- BIP-32's `CKDpriv`, with the child's `IL`: invalid when `IL` is not below the
order or the child key is zero. -/
def child (hmac : Hmac) (node : Node) (index : UInt32) : Option (ℕ × Node) :=
  (hmac node.chainCode.toList (node.message index)).toOption.bind fun output =>
    let il := beValue (output.toList.take 32)
    let key := reduce il + node.key
    if h : il < order ∧ key ≠ 0 then some (il, ⟨key, (splitKeyAndChain output).2, h.2⟩)
    else none

def walk (hmac : Hmac) : Node → List UInt32 → Option (List ℕ × Node)
  | node, [] => some ([], node)
  | node, index :: path =>
    (node.child hmac index).bind fun next =>
      (walk hmac next.2 path).map fun last => (next.1 :: last.1, last.2)

end Node

section Derivations

variable [Points]

/-! ## One child -/

lemma signingKeyFromBytes_toRepr (node : Node) :
    signingKeyFromBytes (toRepr node.key) = .ok node.key := by
  unfold signingKeyFromBytes
  rw [fromRepr_toRepr]
  show (if node.key = 0 then _ else _) = _
  rw [if_neg node.key_ne]

omit [Points] in
lemma toList_splitKeyAndChain_fst (output : Vector UInt8 64) :
    (splitKeyAndChain output).1.toList = output.toList.take 32 := by
  simp [splitKeyAndChain]

omit [Points] in
lemma copyHalf_left (output : Vector UInt8 64) :
    copyHalf output .left = (splitKeyAndChain output).1 := rfl

omit [Points] in
lemma copyHalf_right (output : Vector UInt8 64) :
    copyHalf output .right = (splitKeyAndChain output).2 := rfl

omit [Points] in
lemma fromRepr_splitKeyAndChain (output : Vector UInt8 64) :
    fromRepr (splitKeyAndChain output).1 =
      if beValue (output.toList.take 32) < order then
        some (reduce (beValue (output.toList.take 32)))
      else none := by
  unfold fromRepr
  rw [toList_splitKeyAndChain_fst]
  by_cases hlt : beValue (output.toList.take 32) < order
  · rw [dif_pos hlt, if_pos hlt, ← reduce_val ⟨beValue (output.toList.take 32), hlt⟩]
  · rw [dif_neg hlt, if_neg hlt]

omit [Points] in
lemma reduce_eq_zero {n : ℕ} (h : n < order) : reduce n = 0 ↔ n = 0 := by
  rw [Fin.ext_iff]
  show n % order = 0 ↔ n = 0
  rw [Nat.mod_eq_of_lt h]

omit [Points] in
lemma parseScalar_toOption (output : Vector UInt8 64) (what : String) :
    (parseScalar output what).toOption =
      if beValue (output.toList.take 32) < order ∧ beValue (output.toList.take 32) ≠ 0 then
        some (reduce (beValue (output.toList.take 32)))
      else none := by
  unfold parseScalar
  rw [copyHalf_left, fromRepr_splitKeyAndChain]
  by_cases hlt : beValue (output.toList.take 32) < order
  · rw [if_pos hlt]
    show (if reduce (beValue (output.toList.take 32)) = 0 then _ else _ :
      Result Scalar).toOption = _
    by_cases hz : beValue (output.toList.take 32) = 0
    · rw [if_pos ((reduce_eq_zero hlt).mpr hz), if_neg (by simp [hz])]
      rfl
    · rw [if_neg fun h => hz ((reduce_eq_zero hlt).mp h), if_pos ⟨hlt, hz⟩]
      rfl
  · rw [if_neg hlt, if_neg (by simp [hlt])]
    rfl

lemma deriveChild_eq_child (hmac : Hmac) (node : Node) (index : UInt32) :
    (deriveChild hmac (toRepr node.key) node.chainCode index).toOption =
      (node.child hmac index).map fun next => (toRepr next.2.key, next.2.chainCode) := by
  have ho : deriveChild hmac (toRepr node.key) node.chainCode index =
      (hmac node.chainCode.toList (node.message index) >>= fun output => do
        let child ← childScalar (splitKeyAndChain output).1 (toRepr node.key)
        pure (toRepr child, (splitKeyAndChain output).2)) := by
    unfold deriveChild Node.message
    rw [signingKeyFromBytes_toRepr]
    by_cases hh : index &&& 0x80000000 ≠ 0
    · rw [if_pos hh, if_pos hh]
    · rw [if_neg hh, if_neg hh]
  rw [ho, except_toOption_bind]
  unfold Node.child
  cases (hmac node.chainCode.toList (node.message index)).toOption with
  | none => rfl
  | some output =>
    simp only [Option.bind_some]
    unfold childScalar
    rw [toList_splitKeyAndChain_fst, beValue_toRepr, reduce_val]
    by_cases hlt : beValue (output.toList.take 32) < order
    · rw [if_neg (not_not.mpr hlt)]
      by_cases hz : reduce (beValue (output.toList.take 32)) + node.key = 0
      · rw [dif_neg (by simp [hz])]
        simp only [if_pos hz]
        rfl
      · rw [dif_pos ⟨hlt, hz⟩]
        simp only [if_neg hz]
        rfl
    · rw [if_pos hlt, dif_neg (by simp [hlt])]
      rfl

lemma deriveStep_eq_child (hp : ∀ key, (Points.compressedPublicKey key).length = 33)
    (hmac : Hmac) (node : Node) (index : UInt32) :
    (deriveStep hmac (node.key, node.chainCode) index).toOption =
      (node.child hmac index).bind fun next =>
        if next.1 = 0 then none else some (next.2.key, next.2.chainCode) := by
  have hpb : compressedPublicKey node.key = .ok (Points.compressedPublicKey node.key) := by
    unfold compressedPublicKey
    rw [if_neg node.key_ne]
    exact if_pos (hp node.key)
  have ho : deriveStep hmac (node.key, node.chainCode) index =
      (hmac node.chainCode.toList (node.message index) >>= fun output => do
        let tweak ← parseScalar output "child key"
        if node.key + tweak = 0 then
          .error (.cryptoError "BIP-32 child derivation failed: derived key is zero")
        else .ok (node.key + tweak, copyHalf output .right)) := by
    unfold deriveStep Node.message
    rw [hpb]
    by_cases hh : index &&& 0x80000000 ≠ 0
    · rw [if_pos hh, if_pos hh]
    · rw [if_neg hh, if_neg hh]
      rfl
  rw [ho, except_toOption_bind]
  unfold Node.child
  cases (hmac node.chainCode.toList (node.message index)).toOption with
  | none => rfl
  | some output =>
    simp only [Option.bind_some]
    rw [except_toOption_bind, parseScalar_toOption]
    by_cases hlt : beValue (output.toList.take 32) < order
    · by_cases hil : beValue (output.toList.take 32) = 0
      · -- the child is the parent, which is not zero: BIP-32 accepts it, the code does not
        have hc : reduce (beValue (output.toList.take 32)) + node.key ≠ 0 := by
          rw [(reduce_eq_zero hlt).mpr hil, zero_add]
          exact node.key_ne
        rw [if_neg (by simp [hil]), dif_pos ⟨hlt, hc⟩]
        simp [hil]
      · rw [if_pos ⟨hlt, hil⟩, Option.bind_some, add_comm node.key]
        by_cases hz : reduce (beValue (output.toList.take 32)) + node.key = 0
        · rw [if_pos hz, dif_neg (by simp [hz])]
          rfl
        · rw [if_neg hz, dif_pos ⟨hlt, hz⟩]
          simp [hil, copyHalf_right, Except.toOption]
    · rw [if_neg (by simp [hlt]), dif_neg (by simp [hlt])]
      rfl

/-! ## Paths -/

/-- The shared derivation computes BIP-32's derivation along a path. -/
theorem derivePath_eq_walk (hmac : Hmac) (node : Node) (path : List UInt32) :
    (derivePath hmac (toRepr node.key) node.chainCode path).toOption =
      (node.walk hmac path).map fun last => (toRepr last.2.key, last.2.chainCode) := by
  unfold derivePath
  induction path generalizing node with
  | nil => rfl
  | cons index path ih =>
    rw [List.foldlM_cons, except_toOption_bind, deriveChild_eq_child]
    unfold Node.walk
    cases node.child hmac index with
    | none => rfl
    | some next =>
      simp only [Option.map_some, Option.bind_some, Option.map_map]
      rw [ih next.2]
      rfl

/-- The Bitcoin module computes it too, as long as no `IL` on the way is zero. -/
theorem foldlM_deriveStep_eq_walk (hp : ∀ key, (Points.compressedPublicKey key).length = 33)
    (hmac : Hmac) (node : Node) (path : List UInt32) :
    (path.foldlM (deriveStep hmac) (node.key, node.chainCode)).toOption =
      (node.walk hmac path).bind fun last =>
        if 0 ∈ last.1 then none else some (last.2.key, last.2.chainCode) := by
  induction path generalizing node with
  | nil => rfl
  | cons index path ih =>
    rw [List.foldlM_cons, except_toOption_bind, deriveStep_eq_child hp]
    unfold Node.walk
    cases node.child hmac index with
    | none => rfl
    | some next =>
      simp only [Option.bind_some]
      by_cases hil : next.1 = 0
      · -- refused here, whether or not BIP-32 gets to the end of the path
        rw [if_pos hil]
        cases next.2.walk hmac path with
        | none => rfl
        | some last => simp [hil]
      · rw [if_neg hil, Option.bind_some, ih next.2]
        cases next.2.walk hmac path with
        | none => rfl
        | some last => simp [Ne.symm hil]

def Node.master (output : Vector UInt8 64)
    (h : 0 < beValue (output.toList.take 32) ∧ beValue (output.toList.take 32) < order) : Node where
  key := reduce (beValue (output.toList.take 32))
  chainCode := (splitKeyAndChain output).2
  key_ne := fun hzero => by
    have := (reduce_eq_zero h.2).mp hzero
    omega

section Master

variable (hmac : Hmac) (seed : Bytes) (path : List UInt32) (output : Vector UInt8 64)
  (hmaster : hmac bitcoinSeed [seed] = .ok output)
  (hrange : 0 < beValue (output.toList.take 32) ∧ beValue (output.toList.take 32) < order)

omit [Points] in
lemma toRepr_master : toRepr (Node.master output hrange).key = (splitKeyAndChain output).1 := by
  apply toRepr_of_fromRepr
  rw [fromRepr_splitKeyAndChain, if_pos hrange.2]
  rfl

include hmaster in
lemma deriveMasterKey_derivePath_eq_walk :
    (do
      let master ← deriveMasterKey hmac seed
      let pair ← derivePath hmac master.1 master.2 path
      pure pair.1 : Result (Vector UInt8 32)).toOption =
        ((Node.master output hrange).walk hmac path).map fun last => toRepr last.2.key := by
  have hw := derivePath_eq_walk hmac (Node.master output hrange) path
  rw [toRepr_master] at hw
  unfold deriveMasterKey
  rw [hmaster]
  show (derivePath hmac (splitKeyAndChain output).1 (Node.master output hrange).chainCode path >>=
    fun pair => pure pair.1).toOption = _
  rw [except_toOption_bind, hw]
  cases (Node.master output hrange).walk hmac path with
  | none => rfl
  | some last => rfl

include hmaster in
lemma derivePrivateKey_eq_walk (hp : ∀ key, (Points.compressedPublicKey key).length = 33) :
    (derivePrivateKey hmac seed path).toOption =
      ((Node.master output hrange).walk hmac path).bind fun last =>
        if 0 ∈ last.1 then none else some (toRepr last.2.key) := by
  have hpr : (parseScalar output "master key").toOption =
      some (Node.master output hrange).key := by
    rw [parseScalar_toOption, if_pos ⟨hrange.2, by omega⟩]
    rfl
  have hw := foldlM_deriveStep_eq_walk hp hmac (Node.master output hrange) path
  unfold derivePrivateKey
  rw [hmaster]
  show (parseScalar output "master key" >>= fun key =>
    path.foldlM (deriveStep hmac) (key, (Node.master output hrange).chainCode) >>= fun node =>
      pure (toRepr node.1)).toOption = _
  rw [except_toOption_bind, hpr, Option.bind_some, except_toOption_bind, hw]
  cases (Node.master output hrange).walk hmac path with
  | none => rfl
  | some last =>
    simp only [Option.bind_some]
    by_cases hz : 0 ∈ last.1
    · rw [if_pos hz, if_pos hz]
      rfl
    · rw [if_neg hz, if_neg hz]
      rfl

end Master

/-- **When the two derivations agree.** From a master key in `[1, n)` they return
the same private key or both fail precisely when BIP-32's derivation along the
path meets an invalid child or no child whose `IL` is zero. -/
theorem derivations_agree_iff (hpoint : ∀ key, (Points.compressedPublicKey key).length = 33)
    (hmac : Hmac) (seed : Bytes) (path : List UInt32) (output : Vector UInt8 64)
    (hmaster : hmac bitcoinSeed [seed] = .ok output)
    (hrange : 0 < beValue (output.toList.take 32) ∧ beValue (output.toList.take 32) < order) :
    (do
      let master ← deriveMasterKey hmac seed
      let pair ← derivePath hmac master.1 master.2 path
      pure pair.1 : Result (Vector UInt8 32)).toOption =
        (derivePrivateKey hmac seed path).toOption ↔
      ∀ ils last, (Node.master output hrange).walk hmac path = some (ils, last) → 0 ∉ ils := by
  rw [deriveMasterKey_derivePath_eq_walk hmac seed path output hmaster hrange,
    derivePrivateKey_eq_walk hmac seed path output hmaster hrange hpoint]
  cases (Node.master output hrange).walk hmac path with
  | none => simp
  | some found =>
    obtain ⟨ils, last⟩ := found
    simp only [Option.map_some, Option.bind_some, Option.some.injEq, Prod.mk.injEq]
    by_cases hz : 0 ∈ ils
    · rw [if_pos hz]
      simp [hz]
    · rw [if_neg hz]
      simp [hz]

end Derivations

section Sample

def tableHmac (table : List ((Bytes × Bytes) × ℕ)) : Hmac := fun key parts =>
  .ok (beVector 64 ((table.lookup (key, parts.flatten)).getD 0))

def vectorMaster : ℕ :=
  0xe8f32e723decf4051aefac8e2c93c9c5b214313817cdb01a1494b917c8436b35 * 2 ^ 256 +
    0x873dff81c02f525623fd1fe5167eac3a55a049de3d314bb42ee227ffed37d508

lemma vectorMaster_range : 0 < beValue ((beVector 64 vectorMaster).toList.take 32) ∧
    beValue ((beVector 64 vectorMaster).toList.take 32) < order := by
  decide +kernel

def vectorSeed : Bytes := beBytes 16 0x000102030405060708090a0b0c0d0e0f

@[reducible] def vectorPoints : Points where
  compressedPublicKey key :=
    if key.val = 0xedb2e14f9ee77d26dd93b4ecede8d16ed408ce149b6cd80b0715a2d911a0afea then
      beBytes 33 0x035a784662a4a20a65bf6aab9ae98a6c068a81c52e4b032c0fb5400c706cfccc56
    else 0x02 :: beBytes 32 key.val
  signingKeyError := "signature error"

attribute [local instance] vectorPoints

def vectorHmac : Hmac := @hmacSha512 Reference.sha512

/-- On the vector's `m/0'/1` both derivations return the key BIP-32 prints. -/
theorem vector_derivations_agree :
    (do
      let master ← deriveMasterKey vectorHmac vectorSeed
      let pair ← derivePath vectorHmac master.1 master.2 [0x80000000, 1]
      pure pair.1 : Result (Vector UInt8 32)).toOption =
        (derivePrivateKey vectorHmac vectorSeed [0x80000000, 1]).toOption ∧
      derivePrivateKey vectorHmac vectorSeed [0x80000000, 1] = .ok (beVector 32
        0x3c6cb8d0f6a264c91ea8b5030fadaa8e538b020f0a387421a12de9319dc93368) := by
  have hp : ∀ key, (vectorPoints.compressedPublicKey key).length = 33 := by
    intro key
    show (if _ then _ else _ : Bytes).length = 33
    split_ifs <;> simp
  have hmaster : vectorHmac bitcoinSeed [vectorSeed] = .ok (beVector 64 vectorMaster) := by
    decide +kernel
  refine ⟨(derivations_agree_iff hp vectorHmac vectorSeed _ _ hmaster
    vectorMaster_range).mpr ?_, by decide +kernel⟩
  intro ils last hw
  have hils : ((Node.master (beVector 64 vectorMaster) vectorMaster_range).walk vectorHmac
      [0x80000000, 1]).map Prod.fst = some [
        0x04bfb2dd60fa8921c2a4085ec15507a921f49cdc839f27f0f280e9c1495d44b5,
        0x4eb9d78157bae7a24115001621c4d91e3a3110e11e143c5259eaa4e55c5ec4bf] := by
    decide +kernel
  rw [hw, Option.map_some, Option.some.injEq] at hils
  rw [show ils = _ from hils]
  decide

/-- An HMAC whose master output starts with the integer 1 and whose other outputs
are zero: BIP-32 keeps the key of the parent, and the Bitcoin module refuses it. -/
theorem zero_tweak_disagrees :
    letI hmac := tableHmac [((bitcoinSeed, vectorSeed), 2 ^ 256)]
    (do
      let master ← deriveMasterKey hmac vectorSeed
      let pair ← derivePath hmac master.1 master.2 [0x80000000]
      pure pair.1 : Result (Vector UInt8 32)) = .ok (beVector 32 1) ∧
      derivePrivateKey hmac vectorSeed [0x80000000] = .error (.cryptoError
        "BIP-32 derivation failed: child key is not below the curve order or is zero") := by
  constructor <;> decide +kernel

end Sample

end KrustyKms.Bitcoin.Bip32

import KrustyKms.Starknet.TxHash

/-!
# Transaction hashes bind transactions

Resource bounds are unpacked below the field prime (`packResourceBounds_injective`), the
three kinds of transactions hash lists that start differently, and an invoke with proof
facts hashes one element more than one without.
-/

namespace KrustyKms.TxHash

open Crypto

/-! ## Packing -/

lemma uint64_natCast_injective {a b : UInt64} (h : (a.toNat : Felt) = (b.toNat : Felt)) :
    a = b := by
  have hs : 2 ^ 64 < fieldPrime := by decide
  have ha := a.toNat_lt
  have hb := b.toNat_lt
  exact UInt64.toNat_inj.mp (natCast_injective (by omega) (by omega) h)

lemma packResourceBounds_injective {name : Felt} {bounds bounds' : ResourceBounds}
    (h : packResourceBounds name bounds = packResourceBounds name bounds') : bounds = bounds' := by
  have hs : 2 ^ 192 < fieldPrime := by decide
  have ha := bounds.maxAmount.toNat_lt
  have ha' := bounds'.maxAmount.toNat_lt
  have hpr := bounds.maxPricePerUnit.isLt
  have hp' := bounds'.maxPricePerUnit.isLt
  -- without the name, both sides are numbers of 192 bits
  have hp : ∀ b : ResourceBounds, packResourceBounds name b = name * twoPow192 +
      ((b.maxAmount.toNat * 2 ^ 128 + b.maxPricePerUnit.toNat : ℕ) : Felt) := by
    intro b
    rw [packResourceBounds, add_assoc]
    push_cast
    rfl
  rw [hp, hp] at h
  have hnat := natCast_injective (by omega) (by omega) (add_left_cancel h)
  obtain ⟨amount, price⟩ := bounds
  obtain ⟨amount', price'⟩ := bounds'
  dsimp only at hnat ha ha' hpr hp'
  have hae : amount.toNat = amount'.toNat := by omega
  have hpe : price.toNat = price'.toNat := by omega
  rw [UInt64.toNat_inj.mp hae, BitVec.eq_of_toNat_eq hpe]

lemma packDaModes_injective {nonceDa feeDa nonceDa' feeDa' : DaMode}
    (h : packDaModes nonceDa feeDa = packDaModes nonceDa' feeDa') :
    nonceDa = nonceDa' ∧ feeDa = feeDa' := by
  have hnat := uint64_natCast_injective h
  revert hnat
  cases nonceDa <;> cases feeDa <;> cases nonceDa' <;> cases feeDa' <;> decide

/-! ## Transactions -/

structure CommonFields where
  chainId : Felt
  nonce : Felt
  tip : UInt64
  l1Gas : ResourceBounds
  l2Gas : ResourceBounds
  l1DataGas : ResourceBounds
  paymasterData : List Felt
  nonceDaMode : DaMode
  feeDaMode : DaMode
deriving DecidableEq

structure Invoke extends CommonFields where
  senderAddress : Felt
  calldata : List Felt
  accountDeploymentData : List Felt
deriving DecidableEq

structure DeployAccount extends CommonFields where
  contractAddress : Felt
  classHash : Felt
  constructorCalldata : List Felt
  salt : Felt
deriving DecidableEq

structure Declare extends CommonFields where
  senderAddress : Felt
  classHash : Felt
  compiledClassHash : Felt
  accountDeploymentData : List Felt
deriving DecidableEq

/-- A call of one of the hashing functions; an invoke comes with or without proof facts. -/
inductive V3Transaction where
  | invoke (tx : Invoke) (proofFacts : Option (List Felt))
  | deployAccount (tx : DeployAccount)
  | declare (tx : Declare)
deriving DecidableEq

namespace V3Transaction

def normalized : V3Transaction → V3Transaction
  | invoke tx proofFacts => invoke tx (some (proofFacts.getD []))
  | deployAccount tx => deployAccount tx
  | declare tx => declare tx

variable [Poseidon]

def hash : V3Transaction → Felt
  | invoke tx none => computeInvokeV3Hash tx.senderAddress tx.calldata tx.chainId tx.nonce
      tx.accountDeploymentData tx.tip tx.l1Gas tx.l2Gas tx.l1DataGas tx.paymasterData
      tx.nonceDaMode tx.feeDaMode
  | invoke tx (some proofFacts) => computeInvokeV3HashWithProofFacts tx.senderAddress tx.calldata
      tx.chainId tx.nonce tx.accountDeploymentData tx.tip tx.l1Gas tx.l2Gas tx.l1DataGas
      tx.paymasterData tx.nonceDaMode tx.feeDaMode proofFacts
  | deployAccount tx => computeDeployAccountV3Hash tx.contractAddress tx.classHash
      tx.constructorCalldata tx.salt tx.chainId tx.nonce tx.tip tx.l1Gas tx.l2Gas tx.l1DataGas
      tx.paymasterData tx.nonceDaMode tx.feeDaMode
  | declare tx => computeDeclareV3Hash tx.senderAddress tx.classHash tx.compiledClassHash
      tx.chainId tx.nonce tx.tip tx.l1Gas tx.l2Gas tx.l1DataGas tx.paymasterData tx.nonceDaMode
      tx.feeDaMode tx.accountDeploymentData

end V3Transaction

/-! ## What is hashed -/

namespace CommonFields

def feeInputs (tx : CommonFields) : List Felt :=
  [(tx.tip.toNat : Felt), packResourceBounds l1GasName tx.l1Gas,
    packResourceBounds l2GasName tx.l2Gas, packResourceBounds l1DataName tx.l1DataGas]

def hashed (tx : CommonFields) : List (List Felt) := [tx.feeInputs, tx.paymasterData]

variable [Poseidon]

def header (tx : CommonFields) (kind address : Felt) : List Felt :=
  [kind, version3, address, Poseidon.hashArray tx.feeInputs, Poseidon.hashArray tx.paymasterData,
    tx.chainId, tx.nonce, packDaModes tx.nonceDaMode tx.feeDaMode]

@[simp] lemma length_header (tx : CommonFields) (kind address : Felt) :
    (tx.header kind address).length = 8 := rfl

variable {tx tx' : CommonFields} {S : Set (List Felt)}

lemma header_injective (hinj : Set.InjOn Poseidon.hashArray S) (hS : ∀ felts ∈ tx.hashed, felts ∈ S)
    (hS' : ∀ felts ∈ tx'.hashed, felts ∈ S) {kind kind' address address' : Felt}
    (h : tx.header kind address = tx'.header kind' address') :
    kind = kind' ∧ address = address' ∧ tx = tx' := by
  simp only [header, List.cons.injEq, true_and, and_true] at h
  obtain ⟨hk, ha, hfee, hp, hc, hn, hm⟩ := h
  have hfee := hinj (hS _ (by simp [hashed])) (hS' _ (by simp [hashed])) hfee
  have hp := hinj (hS _ (by simp [hashed])) (hS' _ (by simp [hashed])) hp
  simp only [feeInputs, List.cons.injEq, and_true] at hfee
  obtain ⟨htip, hl1, hl2, hl1Data⟩ := hfee
  obtain ⟨hnd, hf⟩ := packDaModes_injective hm
  have htip := uint64_natCast_injective htip
  have hl1 := packResourceBounds_injective hl1
  have hl2 := packResourceBounds_injective hl2
  have hl1Data := packResourceBounds_injective hl1Data
  refine ⟨hk, ha, ?_⟩
  cases tx
  cases tx'
  simp_all

end CommonFields

namespace V3Transaction

def factLists (proofFacts : Option (List Felt)) : List (List Felt) :=
  match proofFacts.getD [] with
  | [] => []
  | fact :: facts => [fact :: facts]

variable [Poseidon]

def preimage : V3Transaction → List Felt
  | invoke tx proofFacts => tx.header invokePrefix tx.senderAddress ++
      Poseidon.hashArray tx.accountDeploymentData :: Poseidon.hashArray tx.calldata ::
        (factLists proofFacts).map Poseidon.hashArray
  | deployAccount tx => tx.header deployAccountPrefix tx.contractAddress ++
      [Poseidon.hashArray tx.constructorCalldata, tx.classHash, tx.salt]
  | declare tx => tx.header declarePrefix tx.senderAddress ++
      [Poseidon.hashArray tx.accountDeploymentData, tx.classHash, tx.compiledClassHash]

def hashed (tx : V3Transaction) : List (List Felt) :=
  tx.preimage :: match tx with
    | invoke tx proofFacts => tx.toCommonFields.hashed ++
        tx.accountDeploymentData :: tx.calldata :: factLists proofFacts
    | deployAccount tx => tx.toCommonFields.hashed ++ [tx.constructorCalldata]
    | declare tx => tx.toCommonFields.hashed ++ [tx.accountDeploymentData]

lemma hash_eq (tx : V3Transaction) : tx.hash = Poseidon.hashArray tx.preimage := by
  match tx with
  | invoke tx none => rfl
  | invoke tx (some []) => rfl
  | invoke tx (some (fact :: facts)) => rfl
  | deployAccount tx => rfl
  | declare tx => rfl

variable {S : Set (List Felt)}

lemma factLists_injective (hinj : Set.InjOn Poseidon.hashArray S)
    {proofFacts proofFacts' : Option (List Felt)} (hS : ∀ felts ∈ factLists proofFacts, felts ∈ S)
    (hS' : ∀ felts ∈ factLists proofFacts', felts ∈ S)
    (h : (factLists proofFacts).map Poseidon.hashArray =
    (factLists proofFacts').map Poseidon.hashArray) :
    proofFacts.getD [] = proofFacts'.getD [] := by
  unfold factLists at hS hS' h
  generalize proofFacts.getD [] = facts at *
  generalize proofFacts'.getD [] = facts' at *
  match facts, facts' with
  | [], [] => rfl
  | [], fact' :: facts' => simp at h
  | fact :: facts, [] => simp at h
  | fact :: facts, fact' :: facts' =>
    simp only [List.map_cons, List.map_nil, List.cons.injEq, and_true] at h
    exact hinj (hS _ (List.mem_singleton_self _)) (hS' _ (List.mem_singleton_self _)) h

variable {tx tx' : V3Transaction}

lemma preimage_injective (hinj : Set.InjOn Poseidon.hashArray S)
    (hS : ∀ felts ∈ tx.hashed, felts ∈ S) (hS' : ∀ felts ∈ tx'.hashed, felts ∈ S)
    (h : tx.preimage = tx'.preimage) : tx.normalized = tx'.normalized := by
  -- of the nine pairs of kinds, six differ in the first element
  match tx, tx' with
  | invoke tx proofFacts, invoke tx' proofFacts' =>
    simp only [hashed, List.forall_mem_cons, List.forall_mem_append] at hS hS'
    obtain ⟨-, hc, hd, hcl, hf⟩ := hS
    obtain ⟨-, hc', hd', hcl', hf'⟩ := hS'
    simp only [preimage] at h
    obtain ⟨hh, ht⟩ := List.append_inj h (by simp)
    obtain ⟨-, ha, hce⟩ := CommonFields.header_injective hinj hc hc' hh
    simp only [List.cons.injEq] at ht
    have hde := hinj hd hd' ht.1
    have hca := hinj hcl hcl' ht.2.1
    have hfe := factLists_injective hinj hf hf' ht.2.2
    cases tx
    cases tx'
    simp_all [normalized]
  | deployAccount tx, deployAccount tx' =>
    simp only [hashed, List.forall_mem_cons, List.forall_mem_append] at hS hS'
    obtain ⟨-, hc, hcn, -⟩ := hS
    obtain ⟨-, hc', hcn', -⟩ := hS'
    simp only [preimage] at h
    obtain ⟨hh, ht⟩ := List.append_inj h (by simp)
    obtain ⟨-, ha, hce⟩ := CommonFields.header_injective hinj hc hc' hh
    simp only [List.cons.injEq, and_true] at ht
    have hco := hinj hcn hcn' ht.1
    cases tx
    cases tx'
    simp_all [normalized]
  | declare tx, declare tx' =>
    simp only [hashed, List.forall_mem_cons, List.forall_mem_append] at hS hS'
    obtain ⟨-, hc, hd, -⟩ := hS
    obtain ⟨-, hc', hd', -⟩ := hS'
    simp only [preimage] at h
    obtain ⟨hh, ht⟩ := List.append_inj h (by simp)
    obtain ⟨-, ha, hce⟩ := CommonFields.header_injective hinj hc hc' hh
    simp only [List.cons.injEq, and_true] at ht
    have hde := hinj hd hd' ht.1
    cases tx
    cases tx'
    simp_all [normalized]
  | invoke .., deployAccount .. => exact absurd (List.cons.inj h).1 (by decide)
  | invoke .., declare .. => exact absurd (List.cons.inj h).1 (by decide)
  | deployAccount .., invoke .. => exact absurd (List.cons.inj h).1 (by decide)
  | deployAccount .., declare .. => exact absurd (List.cons.inj h).1 (by decide)
  | declare .., invoke .. => exact absurd (List.cons.inj h).1 (by decide)
  | declare .., deployAccount .. => exact absurd (List.cons.inj h).1 (by decide)

/-- **A transaction hash binds the transaction.** Two transactions with equal hashes are of the
same kind and equal in every field, unless Poseidon collides on the lists hashed for them; an
invoke without proof facts is one whose list of proof facts is empty. -/
theorem hash_binding
    (hinj : Set.InjOn Poseidon.hashArray {felts | felts ∈ tx.hashed ∨ felts ∈ tx'.hashed})
    (h : tx.hash = tx'.hash) : tx.normalized = tx'.normalized := by
  have htx : tx.preimage ∈ tx.hashed := List.mem_cons_self
  have htx' : tx'.preimage ∈ tx'.hashed := List.mem_cons_self
  rw [hash_eq, hash_eq] at h
  have hp := hinj (Or.inl htx) (Or.inr htx') h
  exact preimage_injective hinj (fun _ => Or.inl) (fun _ => Or.inr) hp

end V3Transaction

section Sample

@[reducible] def samplePoseidon : Poseidon := tablePoseidon
  [([], 0x2272be0f580fd156823304800919530eaa97430e972d7213ee13f4fbf7a5dbc),
    ([0x1, 0x4c315f474153000000000000000000000000000000000000000000000000,
        0x4c325f4741530000000005f5e100000000000000000000000002cb417800,
        0x4c315f4441544100000000000000800000000000000000000000003b9aca00],
      0x4dc992e9cc859d9e07c814b8de918e5ecb51314c5fb8a202f3a4f259d6115af),
    ([0x1, 0x4718f5a0fc34cc1af16a1cdee98ffb20c31f5cd61d6ab07201858f4287c938d,
        0x83afd3f4caedc6eebf44246fe54e38c95e3179a5ec9ea81740eca5b482d12e, 0x3, 0x5678, 0x64, 0x0],
      0x1719c092e3e27b0cdaa2eda0645873ba4620859dd512767cbf127988fd0f540),
    ([0x696e766f6b65, 0x3, 0x1234,
        0x4dc992e9cc859d9e07c814b8de918e5ecb51314c5fb8a202f3a4f259d6115af,
        0x2272be0f580fd156823304800919530eaa97430e972d7213ee13f4fbf7a5dbc, 0x534e5f5345504f4c4941,
        0x7, 0x0, 0x2272be0f580fd156823304800919530eaa97430e972d7213ee13f4fbf7a5dbc,
        0x1719c092e3e27b0cdaa2eda0645873ba4620859dd512767cbf127988fd0f540],
      0x6272c42522309bc526f14303b94e4961eae8a6479fa46693b6776f4a34be87c)]

attribute [local instance] samplePoseidon

def sampleInvoke : Invoke where
  chainId := 0x534e5f5345504f4c4941
  nonce := 7
  tip := 1
  l1Gas := ⟨0, 0⟩
  l2Gas := ⟨0x5f5e100, 0x2cb417800⟩
  l1DataGas := ⟨128, 0x3b9aca00⟩
  paymasterData := []
  nonceDaMode := .l1
  feeDaMode := .l1
  senderAddress := 0x1234
  calldata := [0x1, 0x4718f5a0fc34cc1af16a1cdee98ffb20c31f5cd61d6ab07201858f4287c938d,
    0x83afd3f4caedc6eebf44246fe54e38c95e3179a5ec9ea81740eca5b482d12e, 0x3, 0x5678, 0x64, 0x0]
  accountDeploymentData := []

/-- The transfer, hashed without proof facts and with an empty list of them. -/
theorem sampleInvoke_hash_binding :
    V3Transaction.hash (.invoke sampleInvoke none) =
        0x6272c42522309bc526f14303b94e4961eae8a6479fa46693b6776f4a34be87c ∧
      V3Transaction.normalized (.invoke sampleInvoke none) =
        V3Transaction.normalized (.invoke sampleInvoke (some [])) := by
  have hinj : ∀ felts ∈ V3Transaction.hashed (.invoke sampleInvoke none) ++
        V3Transaction.hashed (.invoke sampleInvoke (some [])),
      ∀ felts' ∈ V3Transaction.hashed (.invoke sampleInvoke none) ++
        V3Transaction.hashed (.invoke sampleInvoke (some [])),
      Poseidon.hashArray felts = Poseidon.hashArray felts' → felts = felts' := by
    decide +kernel
  refine ⟨by decide +kernel, V3Transaction.hash_binding ?_ (by decide +kernel)⟩
  intro felts hf felts' hf'
  exact hinj felts (List.mem_append.mpr hf) felts' (List.mem_append.mpr hf')

end Sample

end KrustyKms.TxHash

import KrustyKms.Crypto.Hash

/-!
# The hashes of Starknet V3 transactions

Calldata, paymaster data, deployment data and proof facts are lists that are hashed on
their own; the resource bounds are packed into field elements by shifts, and the packed
bounds are hashed with the tip.
-/

namespace KrustyKms.TxHash

open Crypto

def invokePrefix : Felt := 0x696e766f6b65
def deployAccountPrefix : Felt := 0x6465706c6f795f6163636f756e74
def declarePrefix : Felt := 0x6465636c617265

def l1GasName : Felt := 0x4c315f474153
def l2GasName : Felt := 0x4c325f474153
def l1DataName : Felt := 0x4c315f44415441

def twoPow192 : Felt := 0x1000000000000000000000000000000000000000000000000
def twoPow128 : Felt := 0x100000000000000000000000000000000

def version3 : Felt := 0x3

structure ResourceBounds where
  maxAmount : UInt64
  maxPricePerUnit : BitVec 128
deriving DecidableEq

/-- Data availability mode. -/
inductive DaMode where
  | l1
  | l2
deriving DecidableEq

def DaMode.toUInt64 : DaMode → UInt64
  | l1 => 0
  | l2 => 1

def packResourceBounds (resourceName : Felt) (bounds : ResourceBounds) : Felt :=
  resourceName * twoPow192 + (bounds.maxAmount.toNat : Felt) * twoPow128 +
    (bounds.maxPricePerUnit.toNat : Felt)

def packDaModes (nonceDa feeDa : DaMode) : Felt :=
  (((nonceDa.toUInt64 <<< 32) + feeDa.toUInt64).toNat : Felt)

variable [Poseidon]

def computeFeeHash (tip : UInt64) (l1Gas l2Gas l1DataGas : ResourceBounds) : Felt :=
  let l1Packed := packResourceBounds l1GasName l1Gas
  let l2Packed := packResourceBounds l2GasName l2Gas
  let l1DataPacked := packResourceBounds l1DataName l1DataGas
  Poseidon.hashArray [(tip.toNat : Felt), l1Packed, l2Packed, l1DataPacked]

def computeInvokeV3HashWithProofFacts (senderAddress : Felt) (calldata : List Felt)
    (chainId nonce : Felt) (accountDeploymentData : List Felt) (tip : UInt64)
    (l1Gas l2Gas l1DataGas : ResourceBounds) (paymasterData : List Felt)
    (nonceDaMode feeDaMode : DaMode) (proofFacts : List Felt) : Felt :=
  let feeHash := computeFeeHash tip l1Gas l2Gas l1DataGas
  let paymasterHash := Poseidon.hashArray paymasterData
  let daMode := packDaModes nonceDaMode feeDaMode
  let deploymentDataHash := Poseidon.hashArray accountDeploymentData
  let calldataHash := Poseidon.hashArray calldata
  if proofFacts.isEmpty then
    Poseidon.hashArray [invokePrefix, version3, senderAddress, feeHash, paymasterHash, chainId,
      nonce, daMode, deploymentDataHash, calldataHash]
  else
    let proofFactsHash := Poseidon.hashArray proofFacts
    Poseidon.hashArray [invokePrefix, version3, senderAddress, feeHash, paymasterHash, chainId,
      nonce, daMode, deploymentDataHash, calldataHash, proofFactsHash]

def computeInvokeV3Hash (senderAddress : Felt) (calldata : List Felt) (chainId nonce : Felt)
    (accountDeploymentData : List Felt) (tip : UInt64) (l1Gas l2Gas l1DataGas : ResourceBounds)
    (paymasterData : List Felt) (nonceDaMode feeDaMode : DaMode) : Felt :=
  computeInvokeV3HashWithProofFacts senderAddress calldata chainId nonce accountDeploymentData
    tip l1Gas l2Gas l1DataGas paymasterData nonceDaMode feeDaMode []

def computeDeployAccountV3Hash (contractAddress classHash : Felt) (constructorCalldata : List Felt)
    (salt chainId nonce : Felt) (tip : UInt64) (l1Gas l2Gas l1DataGas : ResourceBounds)
    (paymasterData : List Felt) (nonceDaMode feeDaMode : DaMode) : Felt :=
  let feeHash := computeFeeHash tip l1Gas l2Gas l1DataGas
  let paymasterHash := Poseidon.hashArray paymasterData
  let daMode := packDaModes nonceDaMode feeDaMode
  let constructorHash := Poseidon.hashArray constructorCalldata
  Poseidon.hashArray [deployAccountPrefix, version3, contractAddress, feeHash, paymasterHash,
    chainId, nonce, daMode, constructorHash, classHash, salt]

def computeDeclareV3Hash (senderAddress classHash compiledClassHash chainId nonce : Felt)
    (tip : UInt64) (l1Gas l2Gas l1DataGas : ResourceBounds) (paymasterData : List Felt)
    (nonceDaMode feeDaMode : DaMode) (accountDeploymentData : List Felt) : Felt :=
  let feeHash := computeFeeHash tip l1Gas l2Gas l1DataGas
  let paymasterHash := Poseidon.hashArray paymasterData
  let daMode := packDaModes nonceDaMode feeDaMode
  let deploymentDataHash := Poseidon.hashArray accountDeploymentData
  Poseidon.hashArray [declarePrefix, version3, senderAddress, feeHash, paymasterHash, chainId,
    nonce, daMode, deploymentDataHash, classHash, compiledClassHash]

end KrustyKms.TxHash

import KrustyKms.AccountClass.Argent
import KrustyKms.Starknet.Account

/-!
# The account classes and their registry

A preset knows its class hash and its constructor calldata, which fix the address of an account
together with the salt.
-/

namespace KrustyKms.AccountClass

open Crypto Account

/-! ## Presets -/

/-- Policy for deriving the deployment salt from a public key. -/
inductive SaltPolicy where
  | publicKey
  | zero
  | explicit (salt : Felt)

def SaltPolicy.resolve (policy : SaltPolicy) (publicKey : Felt) : Felt :=
  match policy with
  | .publicKey => publicKey
  | .zero => 0
  | .explicit salt => salt

/-- The fields of a `DEPLOY_ACCOUNT` transaction that fix the address. -/
@[ext]
structure Deployment where
  classHash : Felt
  salt : Felt
  constructorCalldata : List Felt
deriving DecidableEq

def Deployment.address [Pedersen] [NormalizeAddress] (deployment : Deployment) : Result Felt :=
  calculateContractAddress deployment.salt deployment.classHash deployment.constructorCalldata 0

end KrustyKms.AccountClass

namespace KrustyKms

structure AccountClass where
  classHash : Crypto.Felt
  buildConstructorCalldata : Crypto.Felt → List Crypto.Felt

namespace AccountClass

open Crypto Account

def deployment (account : AccountClass) (publicKey : Felt) (saltPolicy : SaltPolicy) :
    Deployment :=
  ⟨account.classHash, saltPolicy.resolve publicKey, account.buildConstructorCalldata publicKey⟩

def calculateAddress [Pedersen] [NormalizeAddress] (account : AccountClass)
    (publicKey : Felt) (saltPolicy : SaltPolicy) : Result Felt :=
  (account.deployment publicKey saltPolicy).address

def OpenZeppelinAccount.fromClassHash (classHash : Felt) : AccountClass :=
  ⟨classHash, fun publicKey => [publicKey]⟩

def BraavosAccount.withClassHash (classHash : Felt) : AccountClass :=
  ⟨classHash, fun publicKey => [publicKey]⟩

def ArgentAccount.withClassHashAndLayout (classHash : Felt) (layout : ArgentConstructorLayout) :
    AccountClass :=
  ⟨classHash, layout.constructorCalldata⟩

/-! ## Entries -/

/-- Account contract family a class belongs to. -/
inductive AccountFamily where
  | openZeppelin
  | argent
  | braavos
deriving DecidableEq

/-- Role a class plays for the accounts that use it. -/
inductive ClassRole where
  | deployment
  | implementation
  | proxyTarget
deriving DecidableEq

/-- Constructor calldata convention of a deployment class. -/
inductive ConstructorShape where
  | publicKey
  | argentOwnerGuardianFelts
  | argentSignerWithOptionalGuardian
  | argentCairo0Proxy
deriving DecidableEq

def ConstructorShape.argentLayout : ConstructorShape → Option ArgentConstructorLayout
  | argentOwnerGuardianFelts => some .ownerGuardianFelts
  | argentSignerWithOptionalGuardian => some .signerWithOptionalGuardian
  | publicKey | argentCairo0Proxy => none

def ConstructorShape.ofLayout : ArgentConstructorLayout → ConstructorShape
  | .ownerGuardianFelts => argentOwnerGuardianFelts
  | .signerWithOptionalGuardian => argentSignerWithOptionalGuardian

structure KnownAccountClass where
  family : AccountFamily
  classHash : Felt
  version : String
  label : String
  roles : List ClassRole
  constructor : Option ConstructorShape
  source : String
deriving DecidableEq

namespace KnownAccountClass

def isDeploymentClass (known : KnownAccountClass) : Bool := known.roles.contains .deployment

def isProxyTarget (known : KnownAccountClass) : Bool := known.roles.contains .proxyTarget

end KnownAccountClass

def deploymentAndImplementation : List ClassRole := [.deployment, .implementation]
def deploymentOnly : List ClassRole := [.deployment]
def implementationOnly : List ClassRole := [.implementation]
def proxyTargetOnly : List ClassRole := [.proxyTarget]

def argentDeploymentsSource : String :=
  "https://github.com/argentlabs/argent-contracts-starknet/blob/main/deployments/account.txt"

def argentXConstantsSource : String :=
  "https://github.com/argentlabs/argent-x/blob/develop/packages/extension/src/shared/account/" ++
    "starknet.constants.ts"

/-! ## OpenZeppelin -/

structure OzAccountManifestVersion where
  docs : String
  networks : List (String × Felt)

def ozAccountManifest : List (String × OzAccountManifestVersion) :=
  [("3.0.0",
    { docs := "https://docs.openzeppelin.com/contracts-cairo/3.x/api/account#AccountUpgradeable"
      networks :=
        [("SN_MAIN", 0x01d1777db36cdd06dd62cfde77b1b6ae06412af95d57a13dc40ac77b8a702381),
          ("SN_SEPOLIA", 0x01d1777db36cdd06dd62cfde77b1b6ae06412af95d57a13dc40ac77b8a702381)] })]

/-- Every manifest-backed class as version, documentation and class hash, one entry per
distinct class hash. -/
def ozManifestClasses : List (String × String × Felt) :=
  ozAccountManifest.foldl (fun classes entry =>
    entry.2.networks.foldl (fun classes network =>
      if classes.any fun known => known.2.2 = network.2 then classes
      else classes ++ [(entry.1, entry.2.docs, network.2)]) classes) []

def ozClasses : List KnownAccountClass :=
  ozManifestClasses.map fun (version, docsUrl, classHash) =>
    { family := .openZeppelin, classHash, version
      label := s!"OpenZeppelin AccountUpgradeable v{version}"
      roles := deploymentAndImplementation, constructor := some .publicKey, source := docsUrl }

/-! ## Argent -/

namespace ArgentAccount

def defaultClassHash : Felt := 0x036078334509b514626504edc9fb252328d1a240e4e948bef8d0c08dff45927f
def classHashV050 : Felt := 0x073414441639dcd11d1846f287650a00c60c416b9d3ba45d31c651672125b2c2
def classHashV031 : Felt := 0x029927c8af6bccf3f6fda035981e765a7bdbf18a2dc0d630494f8758aa908e2b
def classHashV030 : Felt := 0x01a736d6ed154502257f02b1ccdf4d9d1089f80811cd6acad48e6b6a9d1f2003

def knownClasses : List (Felt × String × ArgentConstructorLayout) :=
  [(classHashV050, "v0.5.0", .signerWithOptionalGuardian),
    (defaultClassHash, "v0.4.0", .signerWithOptionalGuardian),
    (classHashV031, "v0.3.1", .ownerGuardianFelts),
    (classHashV030, "v0.3.0", .ownerGuardianFelts)]

end ArgentAccount

def argentCairo1Classes : List KnownAccountClass :=
  ArgentAccount.knownClasses.map fun (classHash, version, layout) =>
    { family := .argent, classHash
      version := String.ofList (version.toList.dropWhile (· = 'v'))
      label := s!"Argent Account {version}", roles := deploymentAndImplementation
      constructor := some (.ofLayout layout), source := argentDeploymentsSource }

namespace ArgentCairo0

def proxyClassHash : Felt := 0x025ec026985a3bf9d0cc1fe17326b245dfdc3ff89b8fde106542a3ea56c5a918
def implClassHashV024 : Felt := 0x033434ad846cdd5f23eb73ff09fe6fddd568284a0fb7d1be20ee482f044dabe2
def implClassHashV023 : Felt := 0x01a7820094feaf82d53f53f214b81292d717e7bb9a92bb2488092cd306f3993f
def implClassHashV022 : Felt := 0x03e327de1c40540b98d05cbcb13552008e36f0ec8d61d46956d2f9752c294328
def implClassHashV021 : Felt := 0x07e28fb0161d10d1cf7fe1f13e7ca57bce062731a3bd04494dfd2d0412699727

def initializeSelector : Felt := 0x79dc0da7c54b95f10aa182ad0a46400db63156920adb65eca2654c0945a463

def knownImplementations : List (Felt × String) :=
  [(implClassHashV024, "0.2.4"), (implClassHashV023, "0.2.3"), (implClassHashV022, "0.2.2"),
    (implClassHashV021, "0.2.1")]

def isKnownImplementation (classHash : Felt) : Bool :=
  knownImplementations.any fun known => known.1 = classHash

def constructorCalldataWithGuardian (implementation publicKey guardian : Felt) : List Felt :=
  [implementation, initializeSelector, 2, publicKey, guardian]

def constructorCalldata (implementation publicKey : Felt) : List Felt :=
  constructorCalldataWithGuardian implementation publicKey 0

def knownClasses : List KnownAccountClass :=
  { family := .argent, classHash := proxyClassHash, version := "proxy"
    label := "Argent Cairo 0 proxy", roles := deploymentAndImplementation
    constructor := some .argentCairo0Proxy, source := argentXConstantsSource } ::
  knownImplementations.map fun (classHash, version) =>
    { family := .argent, classHash, version
      label := s!"Argent Cairo 0 account v{version} (behind the proxy)"
      roles := proxyTargetOnly, constructor := none, source := argentXConstantsSource }

end ArgentCairo0

/-! ## Braavos -/

namespace BraavosAccount

/-- Base account class hash for v1.1.0 and v1.2.0: the current deployment class. -/
def currentClassHash : Felt := 0x03d16c7a9a60b0593bd202f660a28c5d76e0403601d9ccc7e4fa253b6a70c201
def baseClassHashV100 : Felt := 0x013bfe114fb1cf405bfc3a7f8dbe2d91db146c17521d40dcf57e16d6b59fa8e6
def legacyClassHash : Felt := 0x00816dd0297efc55dc1e7559020a3a825e81ef734b558f03c83325d4da7e6253
def accountClassHashV110 : Felt :=
  0x02c8c7e6fbcfb3e8e15a46648e8914c6aa1fc506fc1e7fb3d1e19630716174bc
def accountClassHashV120 : Felt :=
  0x03957f9f5a1cbfe918cedc2015c85200ca51a5f7506ecb6de98a5207b759bf8a

def readmeV100 : String :=
  "https://github.com/myBraavos/braavos-account-cairo/blob/v1.0.0/README.md"
def readmeV110 : String :=
  "https://github.com/myBraavos/braavos-account-cairo/blob/v1.1.0/README.md"
def readmeV120 : String :=
  "https://github.com/myBraavos/braavos-account-cairo/blob/v1.2.0/README.md"

def knownClasses : List KnownAccountClass :=
  [⟨.braavos, currentClassHash, "1.1.0", "Braavos Base Account v1.1.0 and later",
      deploymentOnly, some .publicKey, readmeV120⟩,
    ⟨.braavos, baseClassHashV100, "1.0.0", "Braavos Base Account v1.0.0", deploymentOnly,
      some .publicKey, readmeV100⟩,
    ⟨.braavos, accountClassHashV120, "1.2.0", "Braavos Account v1.2.0", implementationOnly,
      none, readmeV120⟩,
    ⟨.braavos, accountClassHashV110, "1.1.0", "Braavos Account v1.1.0", implementationOnly,
      none, readmeV110⟩,
    ⟨.braavos, legacyClassHash, "1.0.0", "Braavos Account v1.0.0", implementationOnly, none,
      readmeV100⟩]

end BraavosAccount

/-! ## The registry -/

def knownAccountClasses : List KnownAccountClass :=
  ozClasses ++ argentCairo1Classes ++ ArgentCairo0.knownClasses ++ BraavosAccount.knownClasses

def lookupAccountClass (classHash : Felt) : Option KnownAccountClass :=
  knownAccountClasses.find? fun known => known.classHash = classHash

def deploymentClasses (family : AccountFamily) : List KnownAccountClass :=
  knownAccountClasses.filter fun known => known.family = family && known.isDeploymentClass

end AccountClass

end KrustyKms

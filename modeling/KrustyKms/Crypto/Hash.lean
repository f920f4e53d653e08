import KrustyKms.Crypto.Curve

/-!
# Fiat-Shamir challenges

The older challenge is a chain of Pedersen hashes over the coordinates of the points, and is
not reduced; the newer ones are Poseidon hashes.
-/

namespace KrustyKms.Crypto

/-- The Poseidon hash of `starknet-types-core`. -/
class Poseidon where
  hashArray : List Felt → Felt

/-- The Poseidon hash of the lists of a table. -/
@[reducible] def tablePoseidon (table : List (List Felt × Felt)) : Poseidon where
  hashArray felts := (table.lookup felts).getD 0

/-- The Pedersen hash of two felts. -/
class Pedersen where
  hash : Felt → Felt → Felt

/-- The Pedersen hash of the pairs of a table. -/
@[reducible] def tablePedersen (table : List ((Felt × Felt) × Felt)) : Pedersen where
  hash a b := (table.lookup (a, b)).getD 0

lemma tablePedersen_injOn {table : List ((Felt × Felt) × Felt)} (hn : (table.map Prod.snd).Nodup) :
    Set.InjOn (fun p : Felt × Felt => (tablePedersen table).hash p.1 p.2)
      {p | p ∈ table.map Prod.fst} := by
  have hl : ∀ p ∈ table.map Prod.fst, (p, (tablePedersen table).hash p.1 p.2) ∈ table := by
    intro p hp
    cases h : table.lookup p with
    | none =>
      obtain ⟨entry, hen, rfl⟩ := List.mem_map.mp hp
      simpa using List.lookup_eq_none_iff.mp h entry hen
    | some hash =>
      obtain ⟨before, after, hs, -⟩ := List.lookup_eq_some_iff.mp h
      have hh : (tablePedersen table).hash p.1 p.2 = hash := by
        show (table.lookup p).getD 0 = hash
        rw [h, Option.getD_some]
      rw [hh, hs]
      simp
  intro p hp q hq h
  have heq := List.inj_on_of_nodup_map hn (hl p hp) (hl q hq) h
  exact congrArg Prod.fst heq

/-- The table of a chain of hashes, each of the one before it and an element. -/
def chainTable (start : Felt) : List (Felt × Felt) → List ((Felt × Felt) × Felt)
  | [] => []
  | (element, hash) :: chain => ((start, element), hash) :: chainTable hash chain

/-- `starknet_keccak`: the low 250 bits of Keccak-256. -/
class StarknetKeccak where
  hash : Bytes → Felt

/-- `starknet_keccak` on the strings of a table. -/
@[reducible] def tableStarknetKeccak (table : List (Bytes × Felt)) : StarknetKeccak where
  hash bytes := (table.lookup bytes).getD 0

variable {Point : Type} [CurvePoint Point]

def extendTranscript (felts : List Felt) (points : List Point) : Result (List Felt) :=
  points.foldlM (fun felts point =>
    match toAffine point with
    | some affine => .ok (felts ++ [affine.x, affine.y])
    | none => .error .pointAtInfinity) felts

def computeChallenge [Pedersen] (prefixFelt : Felt) (points : List Point) : Result Felt :=
  points.foldlM (fun current point =>
    match toAffine point with
    | some affine => .ok (Pedersen.hash (Pedersen.hash current affine.x) affine.y)
    | none => .error .pointAtInfinity) prefixFelt

def computeChallengeTriple [Pedersen] (prefixFelt : Felt) (point1 point2 point3 : Point) :
    Result Felt :=
  computeChallenge prefixFelt [point1, point2, point3]

variable [Poseidon]

def poseidonHashMany (felts : List Felt) : Felt := Poseidon.hashArray felts

def extendPoseidonPrefix (prefixFelt : Felt) (points : List Point) : Result Felt := do
  let felts ← extendTranscript [prefixFelt] points
  pure (poseidonHashMany felts)

def computePoseidonChallenge (prefixFelt : Felt) (points : List Point) : Result Felt := do
  let felts ← extendTranscript [prefixFelt] points
  reduceScalar (Poseidon.hashArray felts)

end KrustyKms.Crypto

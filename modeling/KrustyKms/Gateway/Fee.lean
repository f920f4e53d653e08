import KrustyKms.Common.Basic
import KrustyKms.Gateway.Operations
import KrustyKms.Support.Fallible

/-!
# Fee ceilings

The resource bounds of a transaction are scaled from the estimate of an untrusted node, admitted
against a ceiling, and pinned. How an estimate is scaled is left open (`Scaling`).
-/

namespace KrustyKms.Fee

open Gateway Support

def dimensions : List String := ["l1_gas", "l2_gas", "l1_data_gas"]

inductive FeeCeilingError where
  | zeroCeiling (dimension field : String)
  | estimateOutOfRange
  | exceeded (dimension field : String) (proposed ceiling : ℕ)
deriving DecidableEq, Repr

def FeeCeilingError.text : FeeCeilingError → String
  | .zeroCeiling dimension field => s!"fee ceiling {dimension}.{field} must be greater than zero"
  | .estimateOutOfRange => "fee estimate price does not fit the signable range"
  | .exceeded dimension field proposed ceiling =>
    s!"proposed {dimension}.{field} {proposed} exceeds fee ceiling {ceiling}"

structure MaxBound where
  maxAmount : UInt64
  maxPricePerUnit : Fin (2 ^ 128)
deriving DecidableEq, Repr

/-- The floating-point products with the multiplier, for amounts and for prices. -/
class Scaling where
  scaleAmount : UInt64 → UInt64
  scalePrice : UInt64 → Fin (2 ^ 128)

namespace MaxBound

def fromEstimate [Scaling] (consumed : UInt64) (pricePerUnit : Fin (2 ^ 128)) :
    Except FeeCeilingError MaxBound :=
  if pricePerUnit.val < 2 ^ 64 then
    .ok ⟨Scaling.scaleAmount consumed, Scaling.scalePrice (UInt64.ofNat pricePerUnit.val)⟩
  else
    .error .estimateOutOfRange

def fields (bound : MaxBound) : List (String × ℕ) :=
  [("max_amount", bound.maxAmount.toNat), ("max_price_per_unit", bound.maxPricePerUnit.val)]

end MaxBound

structure ProposedResourceBounds where
  l1Gas : MaxBound
  l2Gas : MaxBound
  l1DataGas : MaxBound
deriving DecidableEq, Repr

namespace ProposedResourceBounds

def fromEstimate [Scaling] (l1Gas l2Gas l1DataGas : UInt64 × Fin (2 ^ 128)) :
    Except FeeCeilingError ProposedResourceBounds := do
  pure {
    l1Gas := ← MaxBound.fromEstimate l1Gas.1 l1Gas.2
    l2Gas := ← MaxBound.fromEstimate l2Gas.1 l2Gas.2
    l1DataGas := ← MaxBound.fromEstimate l1DataGas.1 l1DataGas.2 }

def bounds (proposed : ProposedResourceBounds) : List MaxBound :=
  [proposed.l1Gas, proposed.l2Gas, proposed.l1DataGas]

end ProposedResourceBounds

/-- A deserialized ceiling may have zero fields. -/
structure ResourceBoundsCeiling where
  l1Gas : MaxBound
  l2Gas : MaxBound
  l1DataGas : MaxBound
  maxTip : UInt64
deriving DecidableEq, Repr

namespace ResourceBoundsCeiling

def bounds (ceiling : ResourceBoundsCeiling) : List MaxBound :=
  [ceiling.l1Gas, ceiling.l2Gas, ceiling.l1DataGas]

def validate (ceiling : ResourceBoundsCeiling) : Except FeeCeilingError Unit :=
  (dimensions.zip ceiling.bounds).forM fun (dimension, bound) =>
    match bound.fields.find? fun (_, value) => value = 0 with
    | some (field, _) => throw (.zeroCeiling dimension field)
    | none => pure ()

def admitFields (dimension : String) (ceiling proposed : MaxBound) :
    Except FeeCeilingError Unit :=
  (ceiling.fields.zip proposed.fields).forM fun ((field, ceiling), (_, proposed)) => do
    if ceiling < proposed then throw (.exceeded dimension field proposed ceiling)

/-- `admit` of the source. -/
def admitBounds (ceiling : ResourceBoundsCeiling) (proposed : ProposedResourceBounds) :
    Except FeeCeilingError Unit := do
  ceiling.validate
  ((dimensions.zip ceiling.bounds).zip proposed.bounds).forM fun ((dimension, ceiling), proposed) =>
    admitFields dimension ceiling proposed

def admitEstimate [Scaling] (ceiling : ResourceBoundsCeiling)
    (l1Gas l2Gas l1DataGas : UInt64 × Fin (2 ^ 128)) :
    Except FeeCeilingError ProposedResourceBounds := do
  let proposed ← ProposedResourceBounds.fromEstimate l1Gas l2Gas l1DataGas
  ceiling.admitBounds proposed
  pure proposed

def worstCase (ceiling : ResourceBoundsCeiling) : ℕ :=
  (ceiling.bounds.map fun bound => bound.maxAmount.toNat * bound.maxPricePerUnit.val).sum +
    ceiling.l2Gas.maxAmount.toNat * ceiling.maxTip.toNat

end ResourceBoundsCeiling

structure FeeEstimate where
  l1GasConsumed : UInt64
  l1GasPrice : Fin (2 ^ 128)
  l2GasConsumed : UInt64
  l2GasPrice : Fin (2 ^ 128)
  l1DataGasConsumed : UInt64
  l1DataGasPrice : Fin (2 ^ 128)

/-- What is pinned on the builder of a V3 transaction. -/
structure Pins where
  tip : Option UInt64
  l1Gas : Option UInt64
  l1GasPrice : Option (Fin (2 ^ 128))
  l2Gas : Option UInt64
  l2GasPrice : Option (Fin (2 ^ 128))
  l1DataGas : Option UInt64
  l1DataGasPrice : Option (Fin (2 ^ 128))
deriving DecidableEq, Repr

/-- The chain of setters that `bound_execution` and both `bound_deployment` end with. -/
def Pins.ofBounds (ceiling : ResourceBoundsCeiling) (bounds : ProposedResourceBounds) : Pins where
  tip := ceiling.maxTip
  l1Gas := bounds.l1Gas.maxAmount
  l1GasPrice := bounds.l1Gas.maxPricePerUnit
  l2Gas := bounds.l2Gas.maxAmount
  l2GasPrice := bounds.l2Gas.maxPricePerUnit
  l1DataGas := bounds.l1DataGas.maxAmount
  l1DataGasPrice := bounds.l1DataGas.maxPricePerUnit

/-- An `ExecutionV3` or an `AccountDeploymentV3`: what is requested, and what is pinned. -/
structure Builder (Request : Type) extends Pins where
  request : Request

variable {Request : Type}

variable [Scaling]

def admitEstimate (estimate : FeeEstimate) (ceiling : ResourceBoundsCeiling) :
    Except FeeCeilingError ProposedResourceBounds :=
  ceiling.admitEstimate (estimate.l1GasConsumed, estimate.l1GasPrice)
    (estimate.l2GasConsumed, estimate.l2GasPrice)
    (estimate.l1DataGasConsumed, estimate.l1DataGasPrice)

namespace Wallet

def admitEstimate (estimate : FeeEstimate) (ceiling : ResourceBoundsCeiling) :
    Result ProposedResourceBounds :=
  (Fee.admitEstimate estimate ceiling).mapError fun error =>
    .feeEstimationFailed s!"fee ceiling: {error.text}"

def boundExecution (execution : Builder Request) (estimate : FeeEstimate)
    (ceiling : ResourceBoundsCeiling) : Result (Builder Request) := do
  let bounds ← admitEstimate estimate ceiling
  pure { execution with toPins := .ofBounds ceiling bounds }

def boundDeployment (deployment : Builder Request) (estimate : FeeEstimate)
    (ceiling : ResourceBoundsCeiling) : Result (Builder Request) := do
  let bounds ← admitEstimate estimate ceiling
  pure { deployment with toPins := .ofBounds ceiling bounds }

end Wallet

def Deploy.boundDeployment (deployment : Builder Request) (estimate : FeeEstimate)
    (ceiling : ResourceBoundsCeiling) : Except GatewayError (Builder Request) := do
  let bounds ← (admitEstimate estimate ceiling).mapError fun error =>
    ⟨.invalidRequest, false, some s!"fee ceiling: {error.text}"⟩
  pure { deployment with toPins := .ofBounds ceiling bounds }

/-! ## What a ceiling guarantees -/

def MaxBound.Covers (bound : MaxBound) (amount price : ℕ) : Prop :=
  amount ≤ bound.maxAmount.toNat ∧ price ≤ bound.maxPricePerUnit.val

def Within (ceiling : ResourceBoundsCeiling) (pins : Pins) : Prop :=
  ∃ l1 l2 data : MaxBound,
    pins = ⟨some ceiling.maxTip, some l1.maxAmount, some l1.maxPricePerUnit, some l2.maxAmount,
      some l2.maxPricePerUnit, some data.maxAmount, some data.maxPricePerUnit⟩ ∧
    List.Forall₂ (fun ceiling bound => ceiling.Covers bound.maxAmount.toNat
      bound.maxPricePerUnit.val) ceiling.bounds [l1, l2, data] ∧
    (∀ bound ∈ ceiling.bounds, bound.maxAmount ≠ 0 ∧ bound.maxPricePerUnit ≠ 0) ∧
    ∀ a₁ p₁ a₂ p₂ a₃ p₃ : ℕ, l1.Covers a₁ p₁ → l2.Covers a₂ p₂ → data.Covers a₃ p₃ →
      a₁ * p₁ + a₂ * p₂ + a₃ * p₃ + a₂ * ceiling.maxTip.toNat ≤ ceiling.worstCase

section Ceiling

variable {ceiling : ResourceBoundsCeiling} {proposed : ProposedResourceBounds}

omit [Scaling]

lemma forM_eq_ok {α ε : Type} {f : α → Except ε Unit} {xs : List α} :
    xs.forM f = .ok () ↔ ∀ x ∈ xs, f x = .ok () := by
  induction xs with
  | nil => exact iff_of_true rfl (by simp)
  | cons x xs ih =>
    rw [List.forM_eq_forM, List.forM_cons, except_bind_eq_ok, List.forall_mem_cons, ← ih]
    exact ⟨fun ⟨_, hx, hxs⟩ => ⟨hx, hxs⟩, fun ⟨hx, hxs⟩ => ⟨(), hx, hxs⟩⟩

lemma MaxBound.fields_ne_zero {bound : MaxBound}
    (h : bound.fields.find? (fun (_, value) => value = 0) = none) :
    bound.maxAmount ≠ 0 ∧ bound.maxPricePerUnit ≠ 0 := by
  rw [List.find?_eq_none] at h
  have ha := h _ (.head _)
  have hp := h _ (.tail _ (.head _))
  simp only [decide_eq_true_eq] at ha hp
  exact ⟨fun h => ha (h ▸ rfl), fun h => hp (h ▸ rfl)⟩

lemma ne_zero_of_validate (h : ceiling.validate = .ok ()) :
    ∀ bound ∈ ceiling.bounds, bound.maxAmount ≠ 0 ∧ bound.maxPricePerUnit ≠ 0 := by
  intro bound hb
  obtain ⟨dimension, hd⟩ : ∃ dimension, (dimension, bound) ∈ dimensions.zip ceiling.bounds := by
    simp only [ResourceBoundsCeiling.bounds, List.mem_cons, List.not_mem_nil, or_false] at hb
    obtain rfl | rfl | rfl := hb
    · exact ⟨"l1_gas", .head _⟩
    · exact ⟨"l2_gas", .tail _ (.head _)⟩
    · exact ⟨"l1_data_gas", .tail _ (.tail _ (.head _))⟩
  have hf := forM_eq_ok.mp h _ hd
  dsimp only at hf
  split at hf
  · cases hf
  · exact MaxBound.fields_ne_zero ‹_›

lemma covers_of_fields {dimension : String} {ceiling bound : MaxBound}
    (h : ResourceBoundsCeiling.admitFields dimension ceiling bound = .ok ()) :
    ceiling.Covers bound.maxAmount.toNat bound.maxPricePerUnit.val := by
  have h := forM_eq_ok.mp h
  have ha := h _ (.head _)
  have hp := h _ (.tail _ (.head _))
  dsimp only at ha hp
  split_ifs at ha hp with hca hcp
  exact ⟨Nat.not_lt.mp hca, Nat.not_lt.mp hcp⟩

lemma covers_of_admitted (h : ceiling.admitBounds proposed = .ok ()) :
    List.Forall₂ (fun ceiling bound => ceiling.Covers bound.maxAmount.toNat
      bound.maxPricePerUnit.val) ceiling.bounds proposed.bounds := by
  obtain ⟨-, -, h⟩ := except_bind_eq_ok.mp h
  have h := forM_eq_ok.mp h
  exact .cons (covers_of_fields (h _ (.head _))) (.cons (covers_of_fields (h _ (.tail _ (.head _))))
    (.cons (covers_of_fields (h _ (.tail _ (.tail _ (.head _))))) .nil))

lemma within_of_admitted (hv : ceiling.validate = .ok ())
    (ha : ceiling.admitBounds proposed = .ok ()) :
    Within ceiling (.ofBounds ceiling proposed) := by
  have hc := covers_of_admitted ha
  refine ⟨_, _, _, rfl, hc, ne_zero_of_validate hv, ?_⟩
  intro a₁ p₁ a₂ p₂ a₃ p₃ h₁ h₂ h₃
  obtain - | ⟨c₁, - | ⟨c₂, - | ⟨c₃, -⟩⟩⟩ := hc
  have hf₁ := Nat.mul_le_mul (h₁.1.trans c₁.1) (h₁.2.trans c₁.2)
  have hf₂ := Nat.mul_le_mul (h₂.1.trans c₂.1) (h₂.2.trans c₂.2)
  have hf₃ := Nat.mul_le_mul (h₃.1.trans c₃.1) (h₃.2.trans c₃.2)
  have ht := Nat.mul_le_mul_right ceiling.maxTip.toNat (h₂.1.trans c₂.1)
  simp only [ResourceBoundsCeiling.worstCase, ResourceBoundsCeiling.bounds, List.map_cons,
    List.map_nil, List.sum_cons, List.sum_nil]
  omega

end Ceiling

lemma admitEstimate_eq_ok {estimate : FeeEstimate} {ceiling : ResourceBoundsCeiling}
    {proposed : ProposedResourceBounds} (h : admitEstimate estimate ceiling = .ok proposed) :
    ceiling.validate = .ok () ∧ ceiling.admitBounds proposed = .ok () := by
  obtain ⟨proposed', -, h⟩ := except_bind_eq_ok.mp h
  obtain ⟨_, ha, h⟩ := except_bind_eq_ok.mp h
  cases h
  obtain ⟨_, hv, -⟩ := except_bind_eq_ok.mp ha
  exact ⟨hv, ha⟩

/-- All three pin bounds within the ceiling, and the same ones, or all three fail. -/
theorem bounds_within_ceiling (estimate : FeeEstimate) (ceiling : ResourceBoundsCeiling)
    {Deployment : Type} (execution : Builder Request) (deployment : Builder Deployment) :
    (∃ execution' deployment',
      Wallet.boundExecution execution estimate ceiling = .ok execution' ∧
      Wallet.boundDeployment deployment estimate ceiling = .ok deployment' ∧
      Deploy.boundDeployment deployment estimate ceiling = .ok deployment' ∧
      execution'.toPins = deployment'.toPins ∧ Within ceiling execution'.toPins) ∨
    ∃ e e', Wallet.boundExecution execution estimate ceiling = .error e ∧
      Wallet.boundDeployment deployment estimate ceiling = .error e ∧
      Deploy.boundDeployment deployment estimate ceiling = .error e' := by
  unfold Wallet.boundExecution Wallet.boundDeployment Deploy.boundDeployment Wallet.admitEstimate
  cases h : admitEstimate estimate ceiling with
  | ok proposed =>
    obtain ⟨hv, ha⟩ := admitEstimate_eq_ok h
    exact .inl ⟨_, _, rfl, rfl, rfl, rfl, within_of_admitted hv ha⟩
  | error e => exact .inr ⟨_, _, rfl, rfl, rfl⟩

-- With the scaling left out, an estimate of three units at a price of two.
example : (@Wallet.boundExecution Unit ⟨id, fun price => Fin.ofNat _ price.toNat⟩
    ⟨⟨none, none, none, none, none, none, none⟩, ()⟩ ⟨3, 2, 3, 2, 3, 2⟩
    ⟨⟨3, 2⟩, ⟨4, 2⟩, ⟨3, 9⟩, 7⟩).map (·.toPins) =
      .ok ⟨some 7, some 3, some 2, some 3, some 2, some 3, some 2⟩ := rfl

end KrustyKms.Fee

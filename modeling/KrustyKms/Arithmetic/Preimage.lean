import Mathlib.Algebra.Field.Basic
import Mathlib.LinearAlgebra.Prod
import Mathlib.Tactic.Lemma

/-!
# Proofs of knowledge of a preimage of a linear map

Schnorr's protocol with a linear map `φ` in place of the multiples of a point: the statement is `y
= φ w`, the prover sends `a = φ k` and answers the challenge `c` with `z = k + c w`, and the
verifier checks `φ z = a + c y`.
-/

namespace KrustyKms.Arithmetic.Preimage

variable {F W G : Type*} [Field F] [AddCommGroup W] [Module F W] [AddCommGroup G] [Module F G]

def Accepts (φ : W →ₗ[F] G) (y a : G) (c : F) (z : W) : Prop := φ z = a + c • y

lemma accepts_respond (φ : W →ₗ[F] G) (w k : W) (c : F) :
    Accepts φ (φ w) (φ k) c (k + c • w) := by
  unfold Accepts
  rw [map_add, map_smul]

lemma accepts_prod {H : Type*} [AddCommGroup H] [Module F H] {φ : W →ₗ[F] G} {ψ : W →ₗ[F] H}
    {y a : G} {y' a' : H} {c : F} {z : W} :
    Accepts (φ.prod ψ) (y, y') (a, a') c z ↔ Accepts φ y a c z ∧ Accepts ψ y' a' c z := by
  unfold Accepts
  rw [LinearMap.prod_apply, Prod.smul_mk, Prod.mk_add_mk]
  show (φ z, ψ z) = _ ↔ _
  rw [Prod.mk.injEq]

/-- The preimage two responses to one first message give away. -/
def extract (c c' : F) (z z' : W) : W := (c - c')⁻¹ • (z - z')

variable {φ : W →ₗ[F] G} {y y' a : G} {c c' : F} {z z' : W}

theorem Accepts.extract (h : Accepts φ y a c z) (h' : Accepts φ y a c' z') (hne : c ≠ c') :
    y = φ (Preimage.extract c c' z z') := by
  -- the first message cancels
  have hd : φ (z - z') = (c - c') • y := by
    rw [map_sub, h, h', add_sub_add_left_eq_sub, sub_smul]
  rw [Preimage.extract, map_smul, hd, smul_smul, inv_mul_cancel₀ (sub_ne_zero.mpr hne),
    one_smul]

lemma Accepts.response_unique (h : Accepts φ y a c z) (h' : Accepts φ y a c z')
    (hφ : Function.Injective φ) : z = z' := by
  apply hφ
  rw [h, h']

lemma Accepts.statement_unique (h : Accepts φ y a c z) (h' : Accepts φ y' a c z) (hc : c ≠ 0) :
    y = y' := by
  have heq : c • y = c • y' := by
    have hb := h.symm.trans h'
    exact add_left_cancel hb
  have hcn := congrArg (fun P => c⁻¹ • P) heq
  simp only [smul_smul, inv_mul_cancel₀ hc, one_smul] at hcn
  exact hcn

end KrustyKms.Arithmetic.Preimage

import Mathlib.Algebra.Module.Basic
import Mathlib.Algebra.Field.Basic
import Mathlib.Tactic.Lemma

/-!
# Proofs of knowledge of a discrete logarithm, and their disjunction

The transcripts of Schnorr's protocol over a vector space: a first message `a`, a challenge `c`
and a response `z`, accepted when `z • g = a + c • y`.
-/

namespace KrustyKms.Arithmetic.Sigma

variable {F G : Type*} [Field F] [AddCommGroup G] [Module F G]

def Accepts (g y a : G) (c z : F) : Prop := z • g = a + c • y

lemma accepts_respond (g : G) (x k c : F) : Accepts g (x • g) (k • g) c (k + c * x) := by
  unfold Accepts
  rw [add_smul, mul_smul]

lemma accepts_simulate (g y : G) (c z : F) : Accepts g y (z • g - c • y) c z := by
  unfold Accepts
  rw [sub_add_cancel]

/-- A first message and a response fix the statement. -/
lemma accepts_iff_statement {g y a : G} {c z : F} (hc : c ≠ 0) :
    Accepts g y a c z ↔ y = c⁻¹ • (z • g - a) := by
  unfold Accepts
  rw [eq_inv_smul_iff₀ hc, eq_sub_iff_add_eq', eq_comm]

lemma accepts_respond_iff {g y : G} {x k c : F} :
    Accepts g y (k • g) c (k + c * x) ↔ c = 0 ∨ y = x • g := by
  by_cases hc : c = 0
  · simp [Accepts, hc]
  · rw [accepts_iff_statement hc, add_smul, add_sub_cancel_left, mul_smul, inv_smul_smul₀ hc]
    simp [hc]

/-- The logarithm two responses to one first message give away. -/
def extract (c c' z z' : F) : F := (z - z') * (c - c')⁻¹

theorem Accepts.extract {g y a : G} {c c' z z' : F} (h : Accepts g y a c z)
    (h' : Accepts g y a c' z') (hne : c ≠ c') : y = extract c c' z z' • g := by
  -- the first message cancels
  have hd : (z - z') • g = (c - c') • y := by
    rw [sub_smul, sub_smul, h, h', add_sub_add_left_eq_sub]
  have hinv : (c - c')⁻¹ * (c - c') = 1 := inv_mul_cancel₀ (sub_ne_zero.mpr hne)
  calc y = ((c - c')⁻¹ * (c - c')) • y := by rw [hinv, one_smul]
    _ = (c - c')⁻¹ • (z - z') • g := by rw [mul_smul, hd]
    _ = Sigma.extract c c' z z' • g := by rw [smul_smul, mul_comm, Sigma.extract]

/-! ## Disjunctions -/

/-- The scalars of a transcript of a disjunction: the challenge, the part of it
spent on the left statement, and the two responses. -/
structure OrTranscript (F : Type*) where
  challenge : F
  left : F
  leftResponse : F
  rightResponse : F

namespace OrTranscript

def right (t : OrTranscript F) : F := t.challenge - t.left

def Accepts (t : OrTranscript F) (g y₀ y₁ a₀ a₁ : G) : Prop :=
  Sigma.Accepts g y₀ a₀ t.left t.leftResponse ∧ Sigma.Accepts g y₁ a₁ t.right t.rightResponse

variable [DecidableEq F]

def extract (t t' : OrTranscript F) : Bool × F :=
  if t.left = t'.left then
    (true, Sigma.extract t.right t'.right t.rightResponse t'.rightResponse)
  else (false, Sigma.extract t.left t'.left t.leftResponse t'.leftResponse)

/-- Special soundness of a disjunction: the extractor finds a logarithm of the
statement of the branch it names. -/
theorem extract_correct {t t' : OrTranscript F} {g y₀ y₁ a₀ a₁ : G}
    (h : t.Accepts g y₀ y₁ a₀ a₁) (h' : t'.Accepts g y₀ y₁ a₀ a₁)
    (hne : t.challenge ≠ t'.challenge) :
    (if (t.extract t').1 then y₁ else y₀) = (t.extract t').2 • g := by
  unfold extract
  by_cases hl : t.left = t'.left
  · -- the whole difference of the challenges is spent on the right
    have hr : t.right ≠ t'.right := by
      unfold right
      rw [hl]
      intro heq
      exact hne (sub_left_injective heq)
    rw [if_pos hl]
    exact h.2.extract h'.2 hr
  · rw [if_neg hl]
    exact h.1.extract h'.1 hl

end OrTranscript

end KrustyKms.Arithmetic.Sigma

import Mathlib.Data.List.Basic
import Mathlib.Tactic.Lemma

/-!
# Bits, most significant first, and their regrouping into bytes

`bits f k` lists the bits `f (k - 1), …, f 0` of a word that is given by its bits.
-/

namespace KrustyKms.Codec

def bits (f : ℕ → Bool) : ℕ → List Bool
  | 0 => []
  | k + 1 => f k :: bits f k

lemma bits_congr {f g : ℕ → Bool} {k : ℕ} (h : ∀ i < k, f i = g i) : bits f k = bits g k := by
  induction k with
  | zero => rfl
  | succ k ih =>
    rw [bits, bits, h k (Nat.lt_succ_self k), ih fun i hi => h i (Nat.lt_succ_of_lt hi)]

lemma bits_false (k : ℕ) : bits (fun _ => false) k = List.replicate k false := by
  induction k with
  | zero => rfl
  | succ k ih => rw [bits, ih, List.replicate_succ]

lemma bits_add (f : ℕ → Bool) (j k : ℕ) :
    bits f (j + k) = bits (fun i => f (i + k)) j ++ bits f k := by
  induction j with
  | zero => simp [bits]
  | succ j ih => rw [Nat.succ_add, bits, ih, bits, List.cons_append]

/-! ## Bytes -/

def byteBits (byte : UInt8) : List Bool := bits byte.toBitVec.getLsbD 8

def byteOf (b₇ b₆ b₅ b₄ b₃ b₂ b₁ b₀ : Bool) : UInt8 :=
  UInt8.ofNat (b₇.toNat * 128 + b₆.toNat * 64 + b₅.toNat * 32 + b₄.toNat * 16 + b₃.toNat * 8 +
    b₂.toNat * 4 + b₁.toNat * 2 + b₀.toNat)

def regroup : List Bool → List UInt8 × List Bool
  | b₇ :: b₆ :: b₅ :: b₄ :: b₃ :: b₂ :: b₁ :: b₀ :: rest =>
    let (bytes, left) := regroup rest
    (byteOf b₇ b₆ b₅ b₄ b₃ b₂ b₁ b₀ :: bytes, left)
  | left => ([], left)

lemma byteOf_bits (byte : UInt8) :
    byteOf (byte.toBitVec.getLsbD 7) (byte.toBitVec.getLsbD 6) (byte.toBitVec.getLsbD 5)
      (byte.toBitVec.getLsbD 4) (byte.toBitVec.getLsbD 3) (byte.toBitVec.getLsbD 2)
      (byte.toBitVec.getLsbD 1) (byte.toBitVec.getLsbD 0) = byte := by
  have hall : ∀ byte : Fin 256, byteOf ((UInt8.ofFin byte).toBitVec.getLsbD 7)
      ((UInt8.ofFin byte).toBitVec.getLsbD 6) ((UInt8.ofFin byte).toBitVec.getLsbD 5)
      ((UInt8.ofFin byte).toBitVec.getLsbD 4) ((UInt8.ofFin byte).toBitVec.getLsbD 3)
      ((UInt8.ofFin byte).toBitVec.getLsbD 2) ((UInt8.ofFin byte).toBitVec.getLsbD 1)
      ((UInt8.ofFin byte).toBitVec.getLsbD 0) = UInt8.ofFin byte := by
    decide +kernel
  exact hall byte.toFin

lemma regroup_flatMap_append (bytes : List UInt8) {left : List Bool} (hl : left.length < 8) :
    regroup (bytes.flatMap byteBits ++ left) = (bytes, left) := by
  induction bytes with
  | nil =>
    rw [List.flatMap_nil, List.nil_append]
    match left, hl with
    | [], _ | [_], _ | [_, _], _ | [_, _, _], _ | [_, _, _, _], _ | [_, _, _, _, _], _
    | [_, _, _, _, _, _], _ | [_, _, _, _, _, _, _], _ => rfl
  | cons byte bytes ih =>
    have hs : regroup ((byte :: bytes).flatMap byteBits ++ left) =
        (byteOf (byte.toBitVec.getLsbD 7) (byte.toBitVec.getLsbD 6) (byte.toBitVec.getLsbD 5)
          (byte.toBitVec.getLsbD 4) (byte.toBitVec.getLsbD 3) (byte.toBitVec.getLsbD 2)
          (byte.toBitVec.getLsbD 1) (byte.toBitVec.getLsbD 0) ::
            (regroup (bytes.flatMap byteBits ++ left)).1,
          (regroup (bytes.flatMap byteBits ++ left)).2) := rfl
    rw [hs, ih, byteOf_bits]

end KrustyKms.Codec

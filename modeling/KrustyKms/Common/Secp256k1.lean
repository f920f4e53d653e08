import KrustyKms.Codec.Endian
import KrustyKms.Common.Basic
import Mathlib.Algebra.Group.Fin.Basic

/-!
# secp256k1 scalars as the `k256` crate has them

Scalars are integers modulo the curve order; their representation is 32 bytes,
most significant first.
-/

namespace KrustyKms.Secp256k1

open Codec

def order : ℕ := 0xfffffffffffffffffffffffffffffffebaaedce6af48a03bbfd25e8cd0364141

instance : NeZero order := ⟨by decide⟩

abbrev Scalar := Fin order

def reduce (n : ℕ) : Scalar := Fin.ofNat order n

def toRepr (scalar : Scalar) : Vector UInt8 32 := beVector 32 scalar.val

def fromRepr (bytes : Vector UInt8 32) : Option Scalar :=
  if h : beValue bytes.toList < order then some ⟨beValue bytes.toList, h⟩ else none

/-- The rest of `k256`: the SEC1 compressed encoding of a scalar's public key, and
the text of the error of `SigningKey::from_bytes`. -/
class Points where
  compressedPublicKey : Scalar → Bytes
  signingKeyError : String

/-- `SigningKey::from_bytes`: the scalar of a private key, which is not zero. -/
def signingKeyFromBytes [Points] (bytes : Vector UInt8 32) : Except String Scalar :=
  match fromRepr bytes with
  | some scalar => if scalar = 0 then .error Points.signingKeyError else .ok scalar
  | none => .error Points.signingKeyError

/-! ## Representations -/

lemma beValue_toRepr (scalar : Scalar) : beValue (toRepr scalar).toList = scalar.val := by
  have hlt := scalar.isLt
  have ho : order < 256 ^ 32 := by decide
  rw [toRepr, toList_beVector, beValue_beBytes_of_lt (by omega)]

lemma fromRepr_toRepr (scalar : Scalar) : fromRepr (toRepr scalar) = some scalar := by
  have hval := beValue_toRepr scalar
  unfold fromRepr
  rw [dif_pos (by rw [hval]; exact scalar.isLt)]
  simp [hval]

lemma toRepr_of_fromRepr {bytes : Vector UInt8 32} {scalar : Scalar}
    (h : fromRepr bytes = some scalar) : toRepr scalar = bytes := by
  unfold fromRepr at h
  split_ifs at h with hlt
  injection h with h
  subst h
  apply Vector.toList_inj.mp
  have hlen : bytes.toList.length = 32 := bytes.length_toList
  have hb := beBytes_beValue bytes.toList
  rw [hlen] at hb
  rw [toRepr, toList_beVector]
  exact hb

lemma reduce_val (scalar : Scalar) : reduce scalar.val = scalar := by
  apply Fin.ext
  exact Nat.mod_eq_of_lt scalar.isLt

end KrustyKms.Secp256k1

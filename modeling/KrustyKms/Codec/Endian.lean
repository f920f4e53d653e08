import Mathlib.Data.List.Basic
import Mathlib.Tactic.Ring

/-!
# Fixed-width byte encodings of natural numbers

`leBytes k v` writes the `k` low bytes of `v`, least significant first, and
`leValue` reads them back; `beBytes` and `beValue` are the big-endian pair.
-/

namespace KrustyKms.Codec

def leBytes : ℕ → ℕ → List UInt8
  | 0, _ => []
  | k + 1, v => UInt8.ofNat v :: leBytes k (v / 256)

def leValue : List UInt8 → ℕ
  | [] => 0
  | b :: bs => b.toNat + 256 * leValue bs

def beBytes (k v : ℕ) : List UInt8 := (leBytes k v).reverse

def beValue (bs : List UInt8) : ℕ := leValue bs.reverse

@[simp] lemma length_leBytes (k v : ℕ) : (leBytes k v).length = k := by
  induction k generalizing v with
  | zero => rfl
  | succ k ih => simp [leBytes, ih]

@[simp] lemma length_beBytes (k v : ℕ) : (beBytes k v).length = k := by
  simp [beBytes]

lemma leValue_lt (bs : List UInt8) : leValue bs < 256 ^ bs.length := by
  induction bs with
  | nil => simp [leValue]
  | cons b bs ih =>
    have hb : b.toNat < 256 := b.toNat_lt
    rw [leValue, List.length_cons, pow_succ]
    omega

lemma leValue_leBytes (k v : ℕ) : leValue (leBytes k v) = v % 256 ^ k := by
  induction k generalizing v with
  | zero => simp [leBytes, leValue, Nat.mod_one]
  | succ k ih =>
    have hb : (UInt8.ofNat v).toNat = v % 256 := by simp
    rw [leBytes, leValue, ih, hb, pow_succ, Nat.mul_comm (256 ^ k), Nat.mod_mul]

lemma leValue_leBytes_of_lt {k v : ℕ} (h : v < 256 ^ k) : leValue (leBytes k v) = v := by
  rw [leValue_leBytes, Nat.mod_eq_of_lt h]

lemma leBytes_leValue (bs : List UInt8) : leBytes bs.length (leValue bs) = bs := by
  induction bs with
  | nil => rfl
  | cons b bs ih =>
    have hb : b.toNat < 256 := b.toNat_lt
    have hlow : UInt8.ofNat (b.toNat + 256 * leValue bs) = b := by
      apply UInt8.toNat_inj.mp
      rw [UInt8.toNat_ofNat']
      omega
    have hh : (b.toNat + 256 * leValue bs) / 256 = leValue bs := by omega
    rw [List.length_cons, leValue, leBytes, hlow, hh, ih]

lemma leBytes_add (k m v : ℕ) : leBytes (k + m) v = leBytes k v ++ leBytes m (v / 256 ^ k) := by
  induction k generalizing v with
  | zero => simp [leBytes]
  | succ k ih =>
    rw [Nat.add_right_comm, leBytes, leBytes, ih, List.cons_append, Nat.div_div_eq_div_mul,
      ← pow_succ']

lemma beBytes_add (k m v : ℕ) : beBytes (k + m) v = beBytes k (v / 256 ^ m) ++ beBytes m v := by
  rw [beBytes, beBytes, beBytes, Nat.add_comm, leBytes_add, List.reverse_append]

lemma leValue_of_forall_zero {bs : List UInt8} (h : ∀ b ∈ bs, b = 0) : leValue bs = 0 := by
  induction bs with
  | nil => rfl
  | cons b bs ih =>
    rw [List.forall_mem_cons] at h
    rw [leValue, h.1, ih h.2]
    rfl

lemma forall_leBytes_zero (k : ℕ) : ∀ b ∈ leBytes k 0, b = 0 := by
  induction k with
  | zero => simp [leBytes]
  | succ k ih => simpa [leBytes] using ih

lemma forall_beBytes_eq_zero {k v : ℕ} (hv : v < 256 ^ k) :
    (∀ b ∈ beBytes k v, b = 0) ↔ v = 0 := by
  constructor
  · intro h
    rw [← leValue_leBytes_of_lt hv]
    exact leValue_of_forall_zero fun b hb => h b (List.mem_reverse.mpr hb)
  · intro h b hb
    subst h
    exact forall_leBytes_zero k b (List.mem_reverse.mp hb)

lemma beValue_beBytes_of_lt {k v : ℕ} (h : v < 256 ^ k) : beValue (beBytes k v) = v := by
  rw [beValue, beBytes, List.reverse_reverse, leValue_leBytes_of_lt h]

lemma beBytes_beValue (bs : List UInt8) : beBytes bs.length (beValue bs) = bs := by
  have h := leBytes_leValue bs.reverse
  rw [List.length_reverse] at h
  rw [beBytes, beValue, h, List.reverse_reverse]

def beVector (k v : ℕ) : Vector UInt8 k := ⟨(beBytes k v).toArray, by simp⟩

@[simp] lemma toList_beVector (k v : ℕ) : (beVector k v).toList = beBytes k v := by
  simp [beVector]

end KrustyKms.Codec

import KrustyKms.Crypto.CurveTheorems

/-!
# ElGamal ciphertexts on the Stark curve

A ciphertext of `m` under the public key `Y` is `L = m G + r Y` with `R = r G`; whoever holds the
logarithm of `Y` recovers the point `m G` (`decrypt_eq`).
-/

namespace KrustyKms.Crypto

open Support StarkCurve

variable {Point : Type} [CurvePoint Point]

structure ElGamalCiphertext (Point : Type) where
  l : Point
  r : Point
deriving DecidableEq

def createAffinePoint (x y : Felt) : Result (AffinePoint Point) :=
  match AffinePoint.new x y with
  | .ok affine => .ok affine
  | .error e => .error (.invalidPublicKey s!"Invalid affine point: {e}")

def negatePoint (point : Point) : Result Point := do
  let affine ← projectiveToAffine point
  let negated ← (createAffinePoint affine.x (-affine.y) : Result (AffinePoint Point))
  pure (affineToProjective negated)

lemma negatePoint_eq_ok {P Q : Point} : negatePoint P = .ok Q ↔ P ≠ 0 ∧ Q = -P := by
  unfold negatePoint createAffinePoint
  simp only [except_bind_eq_ok, projectiveToAffine_eq_ok]
  constructor
  · intro h
    obtain ⟨a, rfl, c, hc, h⟩ := h
    obtain ⟨b, hnew, hb⟩ := exists_negated a
    rw [hnew, Except.ok.injEq] at hc
    rw [← hb, hc]
    exact ⟨affineToProjective_ne_zero a, (Except.ok.inj h).symm⟩
  · intro h
    obtain ⟨hne, rfl⟩ := h
    obtain ⟨a, rfl⟩ := exists_affine hne
    obtain ⟨b, hnew, hb⟩ := exists_negated a
    rw [← hb]
    exact ⟨a, rfl, b, by rw [hnew], rfl⟩

namespace ElGamal

def decrypt (ciphertext : ElGamalCiphertext Point) (privateKey : Felt) : Result Point := do
  let rSk := mul privateKey (some ciphertext.r)
  if (toAffine rSk).isNone then
    return ciphertext.l
  let negRSk ← negatePoint rSk
  return add ciphertext.l negRSk

lemma decrypt_eq (ciphertext : ElGamalCiphertext Point) (privateKey : Felt) :
    decrypt ciphertext privateKey =
      .ok (ciphertext.l - residueFromFelt privateKey • ciphertext.r) := by
  unfold decrypt
  simp only [mul_eq_smul, Option.isNone_iff_eq_none, toAffine_eq_none, add_eq]
  split_ifs with hz
  · rw [hz, sub_zero]
    rfl
  · rw [except_bind_eq_ok]
    exact ⟨_, negatePoint_eq_ok.mpr ⟨hz, rfl⟩, by rw [sub_eq_add_neg]; rfl⟩

/-- `privateKey` decrypts the pair to the message. -/
def Encrypts (ciphertext : ElGamalCiphertext Point) (privateKey message : Felt) : Prop :=
  ciphertext.l = add (mul message (some generator)) (mul privateKey (some ciphertext.r))

lemma encrypts_iff {ciphertext : ElGamalCiphertext Point} {privateKey message : Felt} :
    Encrypts ciphertext privateKey message ↔
      ciphertext.l = residueFromFelt message • generator +
        residueFromFelt privateKey • ciphertext.r := by
  rw [Encrypts, mul_eq_smul, mul_eq_smul, add_eq]

lemma decrypt_eq_iff {ciphertext : ElGamalCiphertext Point} {privateKey message : Felt} :
    decrypt ciphertext privateKey = .ok (mul message (some generator)) ↔
      Encrypts ciphertext privateKey message := by
  rw [decrypt_eq, Except.ok.injEq, mul_eq_smul, encrypts_iff, sub_eq_iff_eq_add]

lemma encrypts_mk (x message r : Felt) :
    Encrypts (⟨add (mul message (some generator)) (mul r (some (mulGenerator x))),
      mul r (some generator)⟩ : ElGamalCiphertext Point) x message := by
  rw [encrypts_iff, mul_eq_smul, mul_eq_smul, mul_eq_smul, mulGenerator_eq_smul, add_eq, smul_smul,
    smul_smul, mul_comm]

lemma residueFromFelt_sub {m m' : ℕ} (hle : m' ≤ m) (hm : m < 2 ^ 128) :
    residueFromFelt ((m - m' : ℕ) : Felt) =
      residueFromFelt (m : Felt) - residueFromFelt (m' : Felt) := by
  have hs : 2 ^ 128 < fieldPrime := by decide
  rw [residueFromFelt_natCast (by omega), residueFromFelt_natCast (by omega),
    residueFromFelt_natCast (by omega), Nat.cast_sub hle]

lemma Encrypts.sub {cipher cipher' : ElGamalCiphertext Point} {x : Felt} {m m' : ℕ}
    (h : Encrypts cipher x (m : Felt)) (h' : Encrypts cipher' x (m' : Felt)) (hle : m' ≤ m)
    (hm : m < 2 ^ 128) :
    Encrypts ⟨cipher.l - cipher'.l, cipher.r - cipher'.r⟩ x ((m - m' : ℕ) : Felt) := by
  rw [encrypts_iff] at h h' ⊢
  rw [h, h', residueFromFelt_sub hle hm, sub_smul, smul_sub, add_sub_add_comm]

end ElGamal

end KrustyKms.Crypto

import KrustyKms.Codec.Endian
import KrustyKms.Common.Reference
import KrustyKms.Support.Fallible

/-!
# HMAC and HKDF-Expand

A key longer than one block is refused; otherwise the HMAC is that of RFC 2104, and the expansion
of a 32-byte key is the beginning of the sequence of RFC 5869 (`hkdfSha256Expand_eq`).
-/

namespace KrustyKms

open Codec Support

def sha256Block : ℕ := 64

def sha512Block : ℕ := 128

def ipad : UInt8 := 0x36
def opad : UInt8 := 0x5c

/-- SHA-512's block, the largest of the hashes used here. -/
def maxHmacBlock : ℕ := 128

/-- `HMAC-D(key, message[0] || message[1] || ...)` for a hash `D` with blocks of this size. -/
def hmac {n : ℕ} (digest : Bytes → Vector UInt8 n) (block : ℕ) (key : Bytes)
    (message : List Bytes) : Result (Vector UInt8 n) :=
  if key.length > block ∨ block > maxHmacBlock then
    .error (.cryptoError "HMAC key must fit one block and the output its digest")
  else
    let innerPad := (key ++ List.replicate (block - key.length) 0).map (· ^^^ ipad)
    let innerHash := digest (innerPad ++ message.flatten)
    let outerPad := innerPad.map (· ^^^ (ipad ^^^ opad))
    .ok (digest (outerPad ++ innerHash.toList))

def hmacSha256 [Sha256] : Bytes → List Bytes → Result (Vector UInt8 32) :=
  hmac Sha256.digest sha256Block

def hmacSha512 [Sha512] : Bytes → List Bytes → Result (Vector UInt8 64) :=
  hmac Sha512.digest sha512Block

/-! ## HMAC of RFC 2104 -/

def rfc2104 {n : ℕ} (digest : Bytes → Vector UInt8 n) (block : ℕ) (key text : Bytes) :
    Vector UInt8 n :=
  let padded := key ++ List.replicate (block - key.length) 0
  digest (padded.map (· ^^^ opad) ++ (digest (padded.map (· ^^^ ipad) ++ text)).toList)

lemma map_ipad_opad (padded : Bytes) :
    (padded.map (· ^^^ ipad)).map (· ^^^ (ipad ^^^ opad)) = padded.map (· ^^^ opad) := by
  rw [List.map_map]
  apply List.map_congr_left
  intro byte _
  show byte ^^^ ipad ^^^ (ipad ^^^ opad) = byte ^^^ opad
  rw [UInt8.xor_assoc, ← UInt8.xor_assoc ipad, UInt8.xor_self, UInt8.zero_xor]

lemma hmac_eq {n : ℕ} (digest : Bytes → Vector UInt8 n) {block : ℕ} (hblock : block ≤ maxHmacBlock)
    {key : Bytes} (hkey : key.length ≤ block) (message : List Bytes) :
    hmac digest block key message = .ok (rfc2104 digest block key message.flatten) := by
  unfold hmac
  rw [if_neg (not_or.mpr ⟨Nat.not_lt.mpr hkey, Nat.not_lt.mpr hblock⟩)]
  simp only [map_ipad_opad]
  rfl

lemma hmacSha256_eq [Sha256] {key : Bytes} (hkey : key.length ≤ sha256Block)
    (message : List Bytes) :
    hmacSha256 key message = .ok (rfc2104 Sha256.digest sha256Block key message.flatten) :=
  hmac_eq Sha256.digest (by decide) hkey message

lemma exists_hmacSha256 [Sha256] {key : Bytes} (hkey : key.length ≤ sha256Block)
    (message : List Bytes) : ∃ tag, hmacSha256 key message = .ok tag :=
  ⟨_, hmacSha256_eq hkey message⟩

/-! ## The expansion -/

section Expansion

variable [Sha256]

def expandRound (length : ℕ) (prk : Vector UInt8 32) (info : Bytes) (state : Bytes × Bytes)
    (counter : ℕ) : Result (Bytes × Bytes) := do
  let (okm, previous) := state
  let chained := if counter = 1 then [] else previous
  let block ← hmacSha256 prk.toList [chained, info, [UInt8.ofNat counter]]
  let chunk := block.toList.take (length - okm.length)
  pure (okm ++ chunk, block.toList)

def hkdfSha256Expand (length : ℕ) (prk : Vector UInt8 32) (info : Bytes) : Result Bytes := do
  if length > 255 * 32 then
    throw (.cryptoError "HKDF-SHA256 output is limited to 8160 bytes")
  let rounds := (length + 31) / 32
  let (okm, _) ← (List.range' 1 rounds).foldlM (expandRound length prk info)
    ([], List.replicate 32 0)
  pure okm

def rfc5869T (prk info : Bytes) : ℕ → Bytes
  | 0 => []
  | i + 1 => (rfc2104 Sha256.digest sha256Block prk
      (rfc5869T prk info i ++ info ++ [UInt8.ofNat (i + 1)])).toList

variable (length : ℕ) (prk : Vector UInt8 32) (info : Bytes)

def rfc5869Blocks (i : ℕ) : Bytes :=
  (List.range i).flatMap fun k => rfc5869T prk.toList info (k + 1)

lemma rfc5869Blocks_succ (i : ℕ) : rfc5869Blocks prk info (i + 1) =
    rfc5869Blocks prk info i ++ rfc5869T prk.toList info (i + 1) := by
  simp [rfc5869Blocks, List.range_succ]

lemma length_rfc5869Blocks (i : ℕ) : (rfc5869Blocks prk info i).length = 32 * i := by
  induction i with
  | zero => rfl
  | succ i ih =>
    rw [rfc5869Blocks_succ, List.length_append, ih, rfc5869T, Vector.length_toList]
    ring

lemma expandRounds_eq (rounds i : ℕ) (previous : Bytes)
    (hp : i = 0 ∨ previous = rfc5869T prk.toList info i) :
    ∃ last, (List.range' (i + 1) rounds).foldlM (expandRound length prk info)
        ((rfc5869Blocks prk info i).take length, previous) =
      .ok ((rfc5869Blocks prk info (i + rounds)).take length, last) := by
  induction rounds generalizing i previous with
  | zero => exact ⟨previous, rfl⟩
  | succ rounds ih =>
    obtain ⟨last, hl⟩ := ih (i + 1) _ (.inr rfl)
    refine ⟨last, ?_⟩
    rw [List.range'_succ, List.foldlM_cons, except_bind_eq_ok]
    refine ⟨_, ?_, by rw [show i + (rounds + 1) = i + 1 + rounds by omega]; exact hl⟩
    have hchained : (if i + 1 = 1 then [] else previous) = rfc5869T prk.toList info i := by
      rcases hp with rfl | rfl
      · rfl
      · split_ifs with h
        · rw [show i = 0 by omega]
          rfl
        · rfl
    unfold expandRound
    rw [except_bind_eq_ok]
    refine ⟨_, hmacSha256_eq (by rw [prk.length_toList]; decide) _, ?_⟩
    have hblock : (rfc2104 Sha256.digest sha256Block prk.toList
        [if i + 1 = 1 then [] else previous, info, [UInt8.ofNat (i + 1)]].flatten).toList =
          rfc5869T prk.toList info (i + 1) := by
      rw [rfc5869T, hchained]
      simp
    rw [hblock, rfc5869Blocks_succ, List.take_append, List.length_take, length_rfc5869Blocks]
    simp only [pure, Except.pure, Except.ok.injEq, Prod.mk.injEq, List.append_cancel_left_eq,
      and_true]
    congr 1
    omega

lemma take_rfc5869Blocks (i k : ℕ) (hl : length ≤ 32 * i) :
    (rfc5869Blocks prk info (i + k)).take length = (rfc5869Blocks prk info i).take length := by
  induction k with
  | zero => rfl
  | succ k ih =>
    rw [← Nat.add_assoc, rfc5869Blocks_succ, List.take_append_of_le_length, ih]
    rw [length_rfc5869Blocks]
    omega

lemma hkdfSha256Expand_eq (hl : length ≤ 255 * 32) :
    hkdfSha256Expand length prk info = .ok ((rfc5869Blocks prk info 255).take length) := by
  obtain ⟨last, hrun⟩ := expandRounds_eq length prk info ((length + 31) / 32) 0
    (List.replicate 32 0) (.inl rfl)
  rw [show rfc5869Blocks prk info 0 = [] from rfl, List.take_nil, Nat.zero_add, Nat.zero_add]
    at hrun
  unfold hkdfSha256Expand
  rw [except_ite_throw_eq_ok, except_bind_eq_ok]
  refine ⟨Nat.not_lt.mpr hl, _, hrun, ?_⟩
  have htake := take_rfc5869Blocks length prk info ((length + 31) / 32)
    (255 - (length + 31) / 32) (by omega)
  rw [Nat.add_sub_cancel' (by omega)] at htake
  rw [← htake]
  rfl

theorem exists_hkdfSha256Expand (hl : length ≤ 255 * 32) :
    ∃ okm, hkdfSha256Expand length prk info = .ok okm ∧ okm.length = length := by
  refine ⟨_, hkdfSha256Expand_eq length prk info hl, ?_⟩
  rw [List.length_take, length_rfc5869Blocks]
  omega

/-- HMAC is that of RFC 2104 for a key of at most one block, and the expansion is the beginning of
the sequence `T(1) || T(2) || ...` of RFC 5869, for every length up to 8160. -/
theorem hkdf_refines_rfc :
    (∀ (key : Bytes) (message : List Bytes), key.length ≤ sha256Block →
      hmacSha256 key message = .ok (rfc2104 Sha256.digest sha256Block key message.flatten)) ∧
    (∀ [Sha512] (key : Bytes) (message : List Bytes), key.length ≤ sha512Block →
      hmacSha512 key message = .ok (rfc2104 Sha512.digest sha512Block key message.flatten)) ∧
    ∀ (prk : Vector UInt8 32) (info : Bytes) (length : ℕ), length ≤ 8160 →
      hkdfSha256Expand length prk info = .ok ((rfc5869Blocks prk info 255).take length) ∧
        ((rfc5869Blocks prk info 255).take length).length = length := by
  refine ⟨fun _ message hkey => hmacSha256_eq hkey message,
    fun _ message hkey => hmac_eq Sha512.digest (by decide) hkey message, ?_⟩
  intro prk info length hl
  refine ⟨hkdfSha256Expand_eq length prk info hl, ?_⟩
  rw [List.length_take, length_rfc5869Blocks]
  omega

end Expansion

/-! ## The first test case of RFC 5869 -/

def testPrk : Vector UInt8 32 :=
  beVector 32 0x77709362c2e32df0ddc3f0dc47bba6390b6c73bb50f9c3122ec844ad7c2b3e5
def testInfo : Bytes := beBytes 10 0xf0f1f2f3f4f5f6f7f8f9

attribute [local instance] Reference.sha256 in
theorem hkdf_test_case :
    hkdfSha256Expand 42 testPrk testInfo = .ok ((rfc5869Blocks testPrk testInfo 255).take 42) ∧
      (rfc5869Blocks testPrk testInfo 2).take 42 = beBytes 42
        0x3cb25f25faacd57a90434f64d0362f2a2d2d0a90cf1a5a4c5db02d56ecc4c5bf34007208d5b887185865 :=
  ⟨(hkdf_refines_rfc.2.2 testPrk testInfo 42 (by decide)).1, by decide +kernel⟩

end KrustyKms

import KrustyKms.Codec.Endian
import KrustyKms.Common.Crates

/-!
# The deterministic generator

A block is the hash of the seed with a counter, and what a request leaves of it is kept for the
next one. The requests read one stream, wherever it is cut.
-/

namespace KrustyKms.Crypto

open Codec

def parityDomain : Bytes := utf8 "kms-parity-v1"

structure DeterministicRngState where
  seed : Vector UInt8 32
  stream : Bytes
  counter : UInt64
  block : Vector UInt8 32
  blockOffset : ℕ

namespace DeterministicRngState

def new (seed : Vector UInt8 32) (stream : Bytes) : DeterministicRngState where
  seed
  stream
  counter := 0
  block := beVector 32 0
  blockOffset := 32

variable [Sha256]

def refillBlock (st : DeterministicRngState) : DeterministicRngState :=
  { st with
    block := Sha256.digest (parityDomain ++ st.stream ++ st.seed.toList ++
      beBytes 8 st.counter.toNat)
    blockOffset := 0
    counter := st.counter + 1 }

def ensureBlock (st : DeterministicRngState) : DeterministicRngState :=
  if st.blockOffset ≥ 32 then st.refillBlock else st

lemma ensureBlock_offset_lt (st : DeterministicRngState) : st.ensureBlock.blockOffset < 32 := by
  unfold ensureBlock
  split_ifs with h
  · exact Nat.succ_pos 31
  · omega

def fill (st : DeterministicRngState) (needed : ℕ) : Bytes × DeterministicRngState :=
  if needed = 0 then ([], st)
  else
    let ready := st.ensureBlock
    let chunk := min (32 - ready.blockOffset) needed
    let rest := fill { ready with blockOffset := ready.blockOffset + chunk } (needed - chunk)
    ((ready.block.toList.drop ready.blockOffset).take chunk ++ rest.1, rest.2)
termination_by needed
decreasing_by
  have := st.ensureBlock_offset_lt
  omega

def fillAll (st : DeterministicRngState) : List ℕ → List Bytes
  | [] => []
  | needed :: lengths =>
    let (out, st) := st.fill needed
    out :: st.fillAll lengths

/-! ## The stream -/

variable (seed : Vector UInt8 32) (stream : Bytes)

def streamBlock (k : ℕ) : Vector UInt8 32 :=
  Sha256.digest (parityDomain ++ stream ++ seed.toList ++ beBytes 8 (UInt64.ofNat k).toNat)

def streamByte (i : ℕ) : UInt8 :=
  (streamBlock seed stream (i / 32)).get ⟨i % 32, Nat.mod_lt i (by decide)⟩

def streamFrom (pos n : ℕ) : Bytes := (List.range' pos n).map (streamByte seed stream)

def At (pos : ℕ) (st : DeterministicRngState) : Prop :=
  st.seed = seed ∧ st.stream = stream ∧ ∃ k,
    (st.counter = UInt64.ofNat k ∧ st.blockOffset = 32 ∧ pos = 32 * k) ∨
    (st.counter = UInt64.ofNat (k + 1) ∧ st.blockOffset < 32 ∧ pos = 32 * k + st.blockOffset ∧
      st.block = streamBlock seed stream k)

variable {seed stream} {pos : ℕ} {st : DeterministicRngState}

lemma At.ensureBlock (h : At seed stream pos st) : At seed stream pos st.ensureBlock := by
  obtain ⟨rfl, rfl, k, ⟨hc, ho, hp⟩ | ⟨hc, ho, hp, hb⟩⟩ := h
  · rw [DeterministicRngState.ensureBlock, if_pos (by omega)]
    refine ⟨rfl, rfl, k, .inr ⟨?_, Nat.succ_pos 31, hp, ?_⟩⟩
    · simp [refillBlock, hc]
    · simp [refillBlock, streamBlock, hc]
  · rw [DeterministicRngState.ensureBlock, if_neg (by omega)]
    exact ⟨rfl, rfl, k, .inr ⟨hc, ho, hp, hb⟩⟩

lemma take_drop_streamBlock {k offset chunk : ℕ} (h : offset + chunk ≤ 32) :
    ((streamBlock seed stream k).toList.drop offset).take chunk =
      streamFrom seed stream (32 * k + offset) chunk := by
  apply List.ext_getElem
  · simp [streamFrom]
    omega
  · intro i hi _
    have hlt : i < chunk := (List.length_take_le _ _).trans_lt' hi
    simp only [streamFrom, streamByte, List.getElem_take, List.getElem_drop, List.getElem_map,
      List.getElem_range', Vector.getElem_toList]
    have hd : (32 * k + offset + 1 * i) / 32 = k := by omega
    have hm : (32 * k + offset + 1 * i) % 32 = offset + i := by omega
    simp only [hd, hm]
    rfl

lemma At.chunk (h : At seed stream pos st) (hlt : st.blockOffset < 32) {chunk : ℕ}
    (hc : st.blockOffset + chunk ≤ 32) :
    (st.block.toList.drop st.blockOffset).take chunk = streamFrom seed stream pos chunk ∧
      At seed stream (pos + chunk) { st with blockOffset := st.blockOffset + chunk } := by
  obtain ⟨hs, ht, k, ⟨-, ho, -⟩ | ⟨hk, -, rfl, hb⟩⟩ := h
  · omega
  · refine ⟨by rw [hb, take_drop_streamBlock hc], hs, ht, ?_⟩
    rcases Nat.lt_or_eq_of_le hc with hin | hend
    · exact ⟨k, .inr ⟨hk, hin, by dsimp only; omega, hb⟩⟩
    · exact ⟨k + 1, .inl ⟨hk, hend, by omega⟩⟩

lemma streamFrom_append (pos n m : ℕ) :
    streamFrom seed stream pos n ++ streamFrom seed stream (pos + n) m =
      streamFrom seed stream pos (n + m) := by
  simp [streamFrom, ← List.map_append, List.range'_append_1]

lemma At.fill (needed : ℕ) (h : At seed stream pos st) :
    (st.fill needed).1 = streamFrom seed stream pos needed ∧
      At seed stream (pos + needed) (st.fill needed).2 := by
  induction needed using Nat.strong_induction_on generalizing pos st with
  | _ needed ih =>
    rw [DeterministicRngState.fill]
    split_ifs with hz
    · subst hz
      exact ⟨rfl, h⟩
    · have hlt := st.ensureBlock_offset_lt
      obtain ⟨hout, hat⟩ := h.ensureBlock.chunk hlt
        (show _ + min (32 - st.ensureBlock.blockOffset) needed ≤ 32 by omega)
      obtain ⟨hrest, hlast⟩ :=
        ih (needed - min (32 - st.ensureBlock.blockOffset) needed) (by omega) hat
      have hle : min (32 - st.ensureBlock.blockOffset) needed ≤ needed := Nat.min_le_right _ _
      rw [Nat.add_assoc, Nat.add_sub_cancel' hle] at hlast
      refine ⟨?_, hlast⟩
      dsimp only
      rw [hout, hrest, streamFrom_append, Nat.add_sub_cancel' hle]

lemma At.fillAll (lengths : List ℕ) (h : At seed stream pos st) :
    (st.fillAll lengths).flatten = streamFrom seed stream pos lengths.sum ∧
      (st.fillAll lengths).map List.length = lengths := by
  induction lengths generalizing pos st with
  | nil => exact ⟨rfl, rfl⟩
  | cons needed lengths ih =>
    obtain ⟨hout, hat⟩ := h.fill needed
    obtain ⟨hrest, hlen⟩ := ih hat
    rw [DeterministicRngState.fillAll, List.flatten_cons, List.map_cons, List.sum_cons, hout,
      hrest, hlen, streamFrom_append]
    simp [streamFrom]

variable (seed stream)

/-- However requests are cut, their buffers together are the beginning of one stream. -/
theorem fillAll_prefix (lengths : List ℕ) :
    ((new seed stream).fillAll lengths).flatten = streamFrom seed stream 0 lengths.sum ∧
      ((new seed stream).fillAll lengths).map List.length = lengths :=
  At.fillAll lengths ⟨rfl, rfl, 0, .inl ⟨rfl, rfl, rfl⟩⟩

end DeterministicRngState

end KrustyKms.Crypto

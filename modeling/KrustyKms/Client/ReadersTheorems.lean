import KrustyKms.Client.Readers
import KrustyKms.Support.Fallible

/-!
# Where RPC numbers are read exactly

A read is exact when it does not panic, every number it returns is the value that was sent, and a
value that is too large for its type is an error.
-/

namespace KrustyKms.Client

open Codec Crypto Support

/-! ## The bytes of a felt -/

lemma lowBytes_eq (felt : Felt) {start count : ℕ} (h : start + count = 32) :
    lowBytes felt start = felt.val % 256 ^ count := by
  rw [lowBytes, toList_toBytesBe felt h, List.drop_left' (length_beBytes start _), beValue, beBytes,
    List.reverse_reverse, leValue_leBytes]

lemma toNat_feltToU64 (felt : Felt) : (feltToU64 felt).toNat = felt.val % 2 ^ 64 := by
  rw [feltToU64, lowBytes_eq felt (show 24 + 8 = 32 from rfl), UInt64.toNat_ofNat']
  exact Nat.mod_mod _ _

lemma val_feltToU128 (felt : Felt) : (feltToU128 felt).val = felt.val % 2 ^ 128 := by
  rw [feltToU128, lowBytes_eq felt (show 16 + 16 = 32 from rfl)]
  exact Nat.mod_mod _ _

lemma toNat_feltToU16 (felt : Felt) : (feltToU16 felt).toNat = felt.val % 2 ^ 16 := by
  rw [feltToU16, lowBytes_eq felt (show 30 + 2 = 32 from rfl), UInt16.toNat_ofNat']
  exact Nat.mod_mod _ _

lemma readU32_cons (felt : Felt) (rest : List Felt) (name : String) :
    ∃ value, readU32 (felt :: rest) name = .ok value ∧ value.toNat = felt.val % 2 ^ 32 := by
  refine ⟨UInt32.ofNat (lowBytes felt 28), rfl, ?_⟩
  rw [lowBytes_eq felt (show 28 + 4 = 32 from rfl), UInt32.toNat_ofNat']
  exact Nat.mod_mod _ _

lemma u256ToU128_eq_ok {low high : Felt} {value : ℕ} :
    Sdk.u256ToU128 low high = .ok value ↔
      low.val + 2 ^ 128 * high.val < 2 ^ 128 ∧ value = low.val := by
  have hany : ¬ ((Felt.toBytesBe low).toList.take 16).any (· ≠ 0) = true ↔ low.val < 2 ^ 128 := by
    have ht := forall_take_toBytesBe low (show 16 + 16 = 32 from rfl)
    have hpow : 256 ^ 16 = 2 ^ 128 := by decide
    rw [hpow] at ht
    rw [← ht]
    simp
  have hd : beValue ((Felt.toBytesBe low).toList.drop 16) = low.val % 2 ^ 128 :=
    lowBytes_eq low (show 16 + 16 = 32 from rfl)
  unfold Sdk.u256ToU128
  rw [except_ite_throw_eq_ok]
  dsimp only
  rw [except_ite_throw_eq_ok, hany, hd, not_not]
  constructor
  · intro h
    obtain ⟨hh, hlow, hv⟩ := h
    have hv := Except.ok.inj hv
    rw [Nat.mod_eq_of_lt hlow] at hv
    rw [hh, ZMod.val_zero]
    exact ⟨by omega, hv.symm⟩
  · intro h
    obtain ⟨hf, rfl⟩ := h
    have hz : high.val = 0 := by omega
    have hlow : low.val < 2 ^ 128 := by omega
    exact ⟨(ZMod.val_eq_zero high).mp hz, hlow, by rw [Nat.mod_eq_of_lt hlow]; rfl⟩

/-! ## Exact reads -/

structure SentNumber where
  value : ℕ
  bound : ℕ

def Fits (sent : List SentNumber) : Prop := ∀ number ∈ sent, number.value < number.bound

structure ExactRead {α : Type} (outcome : Option (Result α)) (numbers : α → List ℕ)
    (sent : List SentNumber) : Prop where
  returns : outcome ≠ none
  exact : ∀ a, outcome = some (.ok a) → numbers a = sent.map SentNumber.value
  refused : (∃ number ∈ sent, number.bound ≤ number.value) → ∃ e, outcome = some (.error e)

section
variable {α : Type} {numbers : α → List ℕ} {sent : List SentNumber}

lemma exact_of_error (e : KmsError) : ExactRead (some (.error e)) numbers sent :=
  ⟨by simp, by simp, fun _ => ⟨e, rfl⟩⟩

lemma exact_iff_fits {a : α} (h : Fits sent → numbers a = sent.map SentNumber.value) :
    ExactRead (some (.ok a)) numbers sent ↔ Fits sent := by
  constructor
  · intro hex number hmem
    by_contra hl
    obtain ⟨e, he⟩ := hex.refused ⟨number, hmem, by omega⟩
    exact absurd he (by simp)
  · intro hf
    refine ⟨by simp, ?_, ?_⟩
    · intro b hb
      obtain rfl : a = b := by simpa using hb
      exact h hf
    · intro hl
      obtain ⟨number, hmem, hbn⟩ := hl
      have := hf number hmem
      omega

end

lemma fits_singleton {value bound : ℕ} : Fits [⟨value, bound⟩] ↔ value < bound := by
  simp [Fits]

lemma fits_nil : Fits [] := by simp [Fits]

/-! ## Events -/

section Events

variable {Point : Type} [CurvePoint Point]

/-- The nonce and the amount. The hints are not numbers but bytes: of each of their felts the
parser keeps the low half, whatever is above it. -/
def TongoEvent.numbers : TongoEvent Point → List ℕ
  | .fund e => [e.nonce.toNat, e.amount.val]
  | .outsideFund e => [e.amount.val]
  | .withdraw e => [e.nonce.toNat, e.amount.val]
  | .ragequit e => [e.nonce.toNat, e.amount.val]
  | .rollover e => [e.nonce.toNat]
  | .transfer e => [e.nonce.toNat]
  | .balanceDeclared e => [e.nonce.toNat]
  | .transferDeclared e => [e.nonce.toNat]

def EventKind.layout : EventKind → List (ℕ × ℕ)
  | .fund => [(0, 64), (2, 128)]
  | .outsideFund => [(1, 128)]
  | .withdraw | .ragequit => [(0, 64), (1, 128)]
  | .rollover | .transfer | .balanceDeclared | .transferDeclared => [(0, 64)]

def EventKind.sent (kind : EventKind) (e : EmittedEvent) : List SentNumber :=
  kind.layout.filterMap fun (i, bits) => e.data[i]?.map fun felt => ⟨felt.val, 2 ^ bits⟩

variable (Point) in
def HasPoint (felts : List Felt) (offset : ℕ) : Prop :=
  ∃ point : Point, parsePoint felts offset = .ok point

variable (Point) in
def EventKind.WellFormed (kind : EventKind) (e : EmittedEvent) : Prop :=
  HasPoint Point e.keys 1 ∧ match kind with
    | .fund | .withdraw | .ragequit => 3 ≤ e.data.length
    | .outsideFund => 2 ≤ e.data.length
    | .rollover => HasPoint Point e.data 1 ∧ HasPoint Point e.data 3
    | .transfer => HasPoint Point e.keys 3 ∧ HasPoint Point e.data 1 ∧ HasPoint Point e.data 3 ∧
        HasPoint Point e.data 5 ∧ HasPoint Point e.data 7 ∧ 21 ≤ e.data.length
    | .balanceDeclared => HasPoint Point e.data 1 ∧ HasPoint Point e.data 3 ∧
        HasPoint Point e.data 5 ∧ 13 ≤ e.data.length
    | .transferDeclared => HasPoint Point e.keys 3 ∧ HasPoint Point e.data 1 ∧
        HasPoint Point e.data 3 ∧ HasPoint Point e.data 5 ∧ 13 ≤ e.data.length

variable {felts : List Felt} {offset : ℕ} {e : EmittedEvent}

lemma getFelt_eq_ok {i : ℕ} {felt : Felt} :
    getFelt felts i = .ok felt ↔ felts[i]? = some felt := by
  unfold getFelt
  cases felts[i]? with
  | none => simp
  | some other => simp

lemma exists_getFelt {i : ℕ} :
    (∃ felt, felts[i]? = some felt) ↔ i < felts.length := by
  rw [← Option.isSome_iff_exists]
  simp

lemma length_of_hasPoint (h : HasPoint Point felts offset) :
    offset + 2 ≤ felts.length := by
  obtain ⟨point, hp⟩ := h
  unfold parsePoint at hp
  split at hp
  · rename_i hx hy
    have := List.getElem?_eq_some_iff.mp hy
    obtain ⟨hlt, -⟩ := this
    omega
  · exact absurd hp (by simp)

lemma exists_parseAeBalance :
    (∃ hint, parseAeBalance felts offset = .ok hint) ↔ offset + 6 ≤ felts.length := by
  have hl : (felts.drop offset).length = felts.length - offset := List.length_drop
  unfold parseAeBalance
  split
  · rename_i heq
    rw [heq] at hl
    simp only [List.length_cons] at hl
    refine iff_of_true ⟨_, rfl⟩ ?_
    omega
  · rename_i hs
    refine iff_of_false (by simp) ?_
    intro hln
    rcases hd : felts.drop offset with
      _ | ⟨c0, _ | ⟨c1, _ | ⟨c2, _ | ⟨c3, _ | ⟨low, _ | ⟨high, rest⟩⟩⟩⟩⟩⟩
    all_goals rw [hd] at hl
    all_goals simp only [List.length_cons, List.length_nil] at hl
    all_goals first
      | omega
      | exact hs _ _ _ _ _ _ _ hd

lemma exists_parseCipherBalance :
    (∃ cipher : CipherBalance Point, parseCipherBalance felts offset = .ok cipher) ↔
      HasPoint Point felts offset ∧ HasPoint Point felts (offset + 2) := by
  simp only [parseCipherBalance, exists_except_bind_eq_ok, exists_and_right,
    exists_except_pure_eq_ok, and_true]
  rfl

lemma numbers_of_parseEvent {kind : EventKind} {event : TongoEvent Point}
    (h : parseEvent kind e = .ok event) :
    event.numbers = (kind.sent e).map fun number => number.value % number.bound := by
  cases kind with
  | fund =>
    obtain ⟨parsed, hp, rfl⟩ := except_map_eq_ok.mp h
    simp only [parseFundEvent, except_bind_eq_ok, getFelt_eq_ok] at hp
    obtain ⟨_, -, nonce, hnonce, _, -, amount, hamount, hparsed⟩ := hp
    obtain rfl := Except.ok.inj hparsed
    simp [TongoEvent.numbers, EventKind.sent, EventKind.layout, hnonce, hamount,
      toNat_feltToU64, val_feltToU128]
  | outsideFund =>
    obtain ⟨parsed, hp, rfl⟩ := except_map_eq_ok.mp h
    simp only [parseOutsideFundEvent, except_bind_eq_ok, getFelt_eq_ok] at hp
    obtain ⟨_, -, _, -, amount, hamount, hparsed⟩ := hp
    obtain rfl := Except.ok.inj hparsed
    simp [TongoEvent.numbers, EventKind.sent, EventKind.layout, hamount, val_feltToU128]
  | withdraw | ragequit =>
    obtain ⟨parsed, hp, rfl⟩ := except_map_eq_ok.mp h
    simp only [parseWithdrawEvent, parseRagequitEvent, parseExitEvent, except_bind_eq_ok,
      getFelt_eq_ok] at hp
    obtain ⟨_, -, nonce, hnonce, amount, hamount, _, -, hparsed⟩ := hp
    obtain rfl := Except.ok.inj hparsed
    simp [TongoEvent.numbers, EventKind.sent, EventKind.layout, hnonce, hamount,
      toNat_feltToU64, val_feltToU128]
  | rollover =>
    obtain ⟨parsed, hp, rfl⟩ := except_map_eq_ok.mp h
    simp only [parseRolloverEvent, except_bind_eq_ok, getFelt_eq_ok] at hp
    obtain ⟨_, -, nonce, hnonce, _, -, hparsed⟩ := hp
    obtain rfl := Except.ok.inj hparsed
    simp [TongoEvent.numbers, EventKind.sent, EventKind.layout, hnonce, toNat_feltToU64]
  | transfer =>
    obtain ⟨parsed, hp, rfl⟩ := except_map_eq_ok.mp h
    simp only [parseTransferEvent, except_bind_eq_ok, getFelt_eq_ok] at hp
    obtain ⟨_, -, _, -, nonce, hnonce, _, -, _, -, _, -, _, -, hparsed⟩ := hp
    obtain rfl := Except.ok.inj hparsed
    simp [TongoEvent.numbers, EventKind.sent, EventKind.layout, hnonce, toNat_feltToU64]
  | balanceDeclared =>
    obtain ⟨parsed, hp, rfl⟩ := except_map_eq_ok.mp h
    simp only [parseBalanceDeclaredEvent, except_bind_eq_ok, getFelt_eq_ok] at hp
    obtain ⟨_, -, nonce, hnonce, _, -, _, -, _, -, hparsed⟩ := hp
    obtain rfl := Except.ok.inj hparsed
    simp [TongoEvent.numbers, EventKind.sent, EventKind.layout, hnonce, toNat_feltToU64]
  | transferDeclared =>
    obtain ⟨parsed, hp, rfl⟩ := except_map_eq_ok.mp h
    simp only [parseTransferDeclaredEvent, except_bind_eq_ok, getFelt_eq_ok] at hp
    obtain ⟨_, -, _, -, nonce, hnonce, _, -, _, -, _, -, hparsed⟩ := hp
    obtain rfl := Except.ok.inj hparsed
    simp [TongoEvent.numbers, EventKind.sent, EventKind.layout, hnonce, toNat_feltToU64]

lemma exists_map_ok {α β : Type} {x : Result α} {f : α → β} :
    (∃ b, x.map f = .ok b) ↔ ∃ a, x = .ok a := by
  simp only [except_map_eq_ok]
  constructor
  · intro h
    obtain ⟨b, a, ha, -⟩ := h
    exact ⟨a, ha⟩
  · intro h
    obtain ⟨a, ha⟩ := h
    exact ⟨f a, a, ha, rfl⟩

lemma exists_parseFundEvent :
    (∃ event : FundEvent Point, parseFundEvent e = .ok event) ↔
      HasPoint Point e.keys 1 ∧ 3 ≤ e.data.length := by
  simp only [parseFundEvent, exists_except_bind_eq_ok, exists_and_right, getFelt_eq_ok,
    exists_getFelt, exists_except_pure_eq_ok, and_true]
  exact and_congr_right fun _ => by omega

lemma exists_parseOutsideFundEvent :
    (∃ event : OutsideFundEvent Point, parseOutsideFundEvent e = .ok event) ↔
      HasPoint Point e.keys 1 ∧ 2 ≤ e.data.length := by
  simp only [parseOutsideFundEvent, exists_except_bind_eq_ok, exists_and_right, getFelt_eq_ok,
    exists_getFelt, exists_except_pure_eq_ok, and_true]
  exact and_congr_right fun _ => by omega

lemma exists_parseExitEvent :
    (∃ event : ExitEvent Point, parseExitEvent e = .ok event) ↔
      HasPoint Point e.keys 1 ∧ 3 ≤ e.data.length := by
  simp only [parseExitEvent, exists_except_bind_eq_ok, exists_and_right, getFelt_eq_ok,
    exists_getFelt, exists_except_pure_eq_ok, and_true]
  exact and_congr_right fun _ => by omega

lemma exists_parseRolloverEvent :
    (∃ event : RolloverEvent Point, parseRolloverEvent e = .ok event) ↔
      HasPoint Point e.keys 1 ∧ HasPoint Point e.data 1 ∧ HasPoint Point e.data 3 := by
  simp only [parseRolloverEvent, exists_except_bind_eq_ok, exists_and_right, getFelt_eq_ok,
    exists_getFelt, exists_parseCipherBalance, exists_except_pure_eq_ok, and_true]
  refine and_congr_right fun _ => and_iff_right_of_imp fun hp => ?_
  have hl := length_of_hasPoint hp.1
  omega

lemma exists_parseTransferEvent :
    (∃ event : TransferEvent Point, parseTransferEvent e = .ok event) ↔
      HasPoint Point e.keys 1 ∧ HasPoint Point e.keys 3 ∧ HasPoint Point e.data 1 ∧
        HasPoint Point e.data 3 ∧ HasPoint Point e.data 5 ∧ HasPoint Point e.data 7 ∧
        21 ≤ e.data.length := by
  simp only [parseTransferEvent, exists_except_bind_eq_ok, exists_and_right, getFelt_eq_ok,
    exists_getFelt, exists_parseCipherBalance, exists_parseAeBalance, exists_except_pure_eq_ok,
    and_true]
  constructor
  · rintro ⟨hr, hs, -, ⟨h1, h3⟩, ⟨h5, h7⟩, -, hl⟩
    exact ⟨hr, hs, h1, h3, h5, h7, hl⟩
  · rintro ⟨hr, hs, h1, h3, h5, h7, hl⟩
    exact ⟨hr, hs, by omega, ⟨h1, h3⟩, ⟨h5, h7⟩, by omega, hl⟩

lemma exists_parseBalanceDeclaredEvent :
    (∃ event : BalanceDeclaredEvent Point, parseBalanceDeclaredEvent e = .ok event) ↔
      HasPoint Point e.keys 1 ∧ HasPoint Point e.data 1 ∧ HasPoint Point e.data 3 ∧
        HasPoint Point e.data 5 ∧ 13 ≤ e.data.length := by
  simp only [parseBalanceDeclaredEvent, exists_except_bind_eq_ok, exists_and_right,
    getFelt_eq_ok, exists_getFelt, exists_parseCipherBalance, exists_parseAeBalance,
    exists_except_pure_eq_ok, and_true]
  constructor
  · rintro ⟨hs, -, ha, ⟨h3, h5⟩, hl⟩
    exact ⟨hs, ha, h3, h5, hl⟩
  · rintro ⟨hs, ha, h3, h5, hl⟩
    exact ⟨hs, by omega, ha, ⟨h3, h5⟩, hl⟩

lemma exists_parseTransferDeclaredEvent :
    (∃ event : TransferDeclaredEvent Point, parseTransferDeclaredEvent e = .ok event) ↔
      HasPoint Point e.keys 1 ∧ HasPoint Point e.keys 3 ∧ HasPoint Point e.data 1 ∧
        HasPoint Point e.data 3 ∧ HasPoint Point e.data 5 ∧ 13 ≤ e.data.length := by
  simp only [parseTransferDeclaredEvent, exists_except_bind_eq_ok, exists_and_right,
    getFelt_eq_ok, exists_getFelt, exists_parseCipherBalance, exists_parseAeBalance,
    exists_except_pure_eq_ok, and_true]
  constructor
  · rintro ⟨hs, hr, -, ha, ⟨h3, h5⟩, hl⟩
    exact ⟨hs, hr, ha, h3, h5, hl⟩
  · rintro ⟨hs, hr, ha, h3, h5, hl⟩
    exact ⟨hs, hr, by omega, ha, ⟨h3, h5⟩, hl⟩

lemma exists_parseEvent (kind : EventKind) (e : EmittedEvent) :
    (∃ event : TongoEvent Point, parseEvent kind e = .ok event) ↔ kind.WellFormed Point e := by
  cases kind with
  | fund => exact exists_map_ok.trans exists_parseFundEvent
  | outsideFund => exact exists_map_ok.trans exists_parseOutsideFundEvent
  | withdraw => exact exists_map_ok.trans exists_parseExitEvent
  | ragequit => exact exists_map_ok.trans exists_parseExitEvent
  | rollover => exact exists_map_ok.trans exists_parseRolloverEvent
  | transfer => exact exists_map_ok.trans exists_parseTransferEvent
  | balanceDeclared => exact exists_map_ok.trans exists_parseBalanceDeclaredEvent
  | transferDeclared => exact exists_map_ok.trans exists_parseTransferDeclaredEvent

end Events

/-! ## Every reader -/

section

variable {Point : Type} [CurvePoint Point]

/-- One read of what an RPC endpoint returned. -/
inductive RpcRead where
  | bool (result : List Felt) (name : String)
  | u32 (result : List Felt) (name : String)
  | u64 (result : List Felt) (name : String)
  | addressSpan (result : List Felt) (name : String)
  | transactionState (result : List Felt)
  | event (kind : EventKind) (e : EmittedEvent)
  | position (result : List Felt) (decimals : UInt8)

def MultisigTransactionState.number : MultisigTransactionState → ℕ
  | notFound => 0
  | pending => 1
  | confirmed => 2
  | executed => 3

def firstSent (result : List Felt) (bound : ℕ) : List SentNumber :=
  (result.head?.map fun felt => SentNumber.mk felt.val bound).toList

def positionSent : List Felt → List SentNumber
  | _ :: amountLow :: amountHigh :: rewardsLow :: rewardsHigh :: commission :: _ => [
    ⟨amountLow.val + 2 ^ 128 * amountHigh.val, 2 ^ 128⟩,
    ⟨rewardsLow.val + 2 ^ 128 * rewardsHigh.val, 2 ^ 128⟩,
    ⟨commission.val, 2 ^ 16⟩]
  | _ => []

variable (Point) in
def RpcRead.Exact : RpcRead → Prop
  | .bool result name =>
    ExactRead (some (readBool result name)) (fun b => [b.toNat]) (firstSent result 2)
  | .u32 result name =>
    ExactRead (some (readU32 result name)) (fun n => [n.toNat]) (firstSent result (2 ^ 32))
  | .u64 result name =>
    ExactRead (some (readU64 result name)) (fun n => [n.toNat]) (firstSent result (2 ^ 64))
  | .addressSpan result name =>
    ExactRead (readAddressSpan result name).run (fun addresses => [addresses.length])
      (firstSent result (2 ^ 64))
  | .transactionState result =>
    ExactRead (some (readTransactionState result)) (fun state => [state.number])
      (firstSent result (2 ^ 32))
  | .event kind e =>
    ExactRead (some (parseEvent kind e)) (fun event : TongoEvent Point => event.numbers)
      (kind.sent e)
  | .position result decimals =>
    ExactRead (some (readPosition result decimals))
      (fun p => [p.amount.raw.val, p.unclaimedRewards.raw.val, p.commission.toNat])
      (positionSent result)

variable (Point) in
/-- What was sent fits the types it is read as, or the reply is refused for something else: a
state that is not known, a count that is not the length, an event or a position without its
fields. A count of `2 ^ 64 - 1`, with any bits above it, is never right. -/
def RpcRead.Readable : RpcRead → Prop
  | .bool result _ => Fits (firstSent result 2)
  | .u32 result _ => Fits (firstSent result (2 ^ 32))
  | .u64 result _ => Fits (firstSent result (2 ^ 64))
  | .addressSpan result _ => ∀ first ∈ result.head?, first.val % 2 ^ 64 ≠ 2 ^ 64 - 1 ∧
      (first.val < 2 ^ 64 ∨ result.length ≠ first.val % 2 ^ 64 + 1)
  | .transactionState result =>
    ∀ first ∈ result.head?, first.val < 2 ^ 32 ∨ 4 ≤ first.val % 2 ^ 32
  | .event kind e => Fits (kind.sent e) ∨ ¬ kind.WellFormed Point e
  | .position result _ => Fits (positionSent result) ∨
      ∃ number ∈ (positionSent result).take 2, number.bound ≤ number.value

lemma fits_firstSent_nil (bound : ℕ) : Fits (firstSent [] bound) := fits_nil

lemma firstSent_cons (felt : Felt) (rest : List Felt) (bound : ℕ) :
    firstSent (felt :: rest) bound = [⟨felt.val, bound⟩] := rfl

lemma readBool_exact_iff (result : List Felt) (name : String) :
    ExactRead (some (readBool result name)) (fun b => [b.toNat]) (firstSent result 2) ↔
      Fits (firstSent result 2) := by
  cases result with
  | nil => exact iff_of_true (exact_of_error _) (fits_firstSent_nil 2)
  | cons felt rest =>
    apply exact_iff_fits
    intro hf
    rw [firstSent_cons, fits_singleton] at hf
    by_cases hz : felt = 0
    · simp [hz, firstSent_cons]
    · have hval : felt.val ≠ 0 := fun h => hz ((ZMod.val_eq_zero felt).mp h)
      have hone : felt.val = 1 := by omega
      simp [hz, firstSent_cons, hone]

lemma cut_exact_iff {α : Type} (read : List Felt → Result α) (toNat : α → ℕ) {bound : ℕ}
    (hnil : ∃ e, read [] = .error e) (hc : ∀ felt rest, ∃ value, read (felt :: rest) = .ok value ∧
    toNat value = felt.val % bound) (result : List Felt) :
    ExactRead (some (read result)) (fun n => [toNat n]) (firstSent result bound) ↔
      Fits (firstSent result bound) := by
  cases result with
  | nil =>
    obtain ⟨e, he⟩ := hnil
    rw [he]
    exact iff_of_true (exact_of_error e) (fits_firstSent_nil bound)
  | cons felt rest =>
    obtain ⟨value, hr, hv⟩ := hc felt rest
    rw [hr]
    apply exact_iff_fits
    intro hf
    rw [firstSent_cons, fits_singleton] at hf
    rw [firstSent_cons, hv, Nat.mod_eq_of_lt hf]
    rfl

lemma readU32_exact_iff (result : List Felt) (name : String) :
    ExactRead (some (readU32 result name)) (fun n => [n.toNat]) (firstSent result (2 ^ 32)) ↔
      Fits (firstSent result (2 ^ 32)) :=
  cut_exact_iff (readU32 · name) UInt32.toNat ⟨_, rfl⟩
    (fun felt rest => readU32_cons felt rest name) result

lemma readU64_exact_iff (result : List Felt) (name : String) :
    ExactRead (some (readU64 result name)) (fun n => [n.toNat]) (firstSent result (2 ^ 64)) ↔
      Fits (firstSent result (2 ^ 64)) :=
  cut_exact_iff (readU64 · name) UInt64.toNat ⟨_, rfl⟩
    (fun felt _ => ⟨feltToU64 felt, rfl, toNat_feltToU64 felt⟩) result

lemma readAddressSpan_cons (first : Felt) (rest : List Felt) (name : String) :
    (readAddressSpan (first :: rest) name).run =
      if first.val % 2 ^ 64 = 2 ^ 64 - 1 then none
      else if rest.length + 1 = first.val % 2 ^ 64 + 1 then some (.ok (rest.map Address.mk))
      else
        let expected := first.val % 2 ^ 64 + 1
        some (.error (.deserializationError
          s!"unexpected {name} response length: expected {expected}, got {rest.length + 1}")) := by
  have hc : readUsize first = first.val % 2 ^ 64 :=
    lowBytes_eq first (show 24 + 8 = 32 from rfl)
  have hlt : first.val % 2 ^ 64 < 2 ^ 64 := Nat.mod_lt _ (by decide)
  unfold readAddressSpan
  dsimp only
  rw [hc]
  by_cases hls : first.val % 2 ^ 64 = 2 ^ 64 - 1
  · rw [if_pos hls, if_neg (by omega)]
    rfl
  · rw [if_neg hls, if_pos (by omega)]
    change (if (first :: rest).length ≠ first.val % 2 ^ 64 + 1 then _ else _ :
      MayPanic KmsError (List Address)).run = _
    by_cases hl : rest.length + 1 = first.val % 2 ^ 64 + 1
    · have hnot : ¬ (first :: rest).length ≠ first.val % 2 ^ 64 + 1 := not_not.mpr hl
      rw [if_pos hl, if_neg hnot]
      rfl
    · have hne : (first :: rest).length ≠ first.val % 2 ^ 64 + 1 := hl
      rw [if_neg hl, if_pos hne]
      rfl

lemma readAddressSpan_exact_iff (result : List Felt) (name : String) :
    ExactRead (readAddressSpan result name).run (fun addresses => [addresses.length])
        (firstSent result (2 ^ 64)) ↔
      ∀ first ∈ result.head?, first.val % 2 ^ 64 ≠ 2 ^ 64 - 1 ∧
        (first.val < 2 ^ 64 ∨ result.length ≠ first.val % 2 ^ 64 + 1) := by
  cases result with
  | nil => exact iff_of_true (exact_of_error _) (by simp)
  | cons first rest =>
    rw [readAddressSpan_cons]
    simp only [List.head?_cons, Option.mem_some_iff, forall_eq', List.length_cons]
    by_cases hl : first.val % 2 ^ 64 = 2 ^ 64 - 1
    · rw [if_pos hl]
      exact iff_of_false (fun hex => hex.returns rfl) (fun h => h.1 hl)
    · rw [if_neg hl]
      by_cases hln : rest.length + 1 = first.val % 2 ^ 64 + 1
      · rw [if_pos hln, exact_iff_fits, firstSent_cons, fits_singleton]
        · exact ⟨fun h => ⟨hl, .inl h⟩, fun h => h.2.resolve_right (not_not.mpr hln)⟩
        · intro hf
          rw [firstSent_cons, fits_singleton] at hf
          rw [Nat.mod_eq_of_lt hf] at hln
          simp only [List.length_map, firstSent_cons, List.map_cons, List.map_nil,
            List.cons.injEq, and_true]
          omega
      · rw [if_neg hln]
        exact iff_of_true (exact_of_error _) ⟨hl, .inr hln⟩

lemma readTransactionState_cons (first : Felt) (rest : List Felt) :
    (∃ state, readTransactionState (first :: rest) = .ok state ∧
        state.number = first.val % 2 ^ 32) ∨
      4 ≤ first.val % 2 ^ 32 ∧ ∃ e, readTransactionState (first :: rest) = .error e := by
  obtain ⟨value, hr, hv⟩ := readU32_cons first rest "get_transaction_state"
  unfold readTransactionState
  rw [hr, ← hv, except_ok_bind]
  split
  · rename_i h
    exact .inl ⟨.notFound, rfl, h.symm⟩
  · rename_i h
    exact .inl ⟨.pending, rfl, h.symm⟩
  · rename_i h
    exact .inl ⟨.confirmed, rfl, h.symm⟩
  · rename_i h
    exact .inl ⟨.executed, rfl, h.symm⟩
  · rename_i h0 h1 h2 h3
    have hu : value.toNat ≠ 0 ∧ value.toNat ≠ 1 ∧ value.toNat ≠ 2 ∧ value.toNat ≠ 3 :=
      ⟨h0, h1, h2, h3⟩
    exact .inr ⟨by omega, _, rfl⟩

lemma readTransactionState_exact_iff (result : List Felt) :
    ExactRead (some (readTransactionState result)) (fun state => [state.number])
        (firstSent result (2 ^ 32)) ↔
      ∀ first ∈ result.head?, first.val < 2 ^ 32 ∨ 4 ≤ first.val % 2 ^ 32 := by
  cases result with
  | nil => exact iff_of_true (exact_of_error _) (by simp)
  | cons first rest =>
    simp only [List.head?_cons, Option.mem_some_iff, forall_eq']
    obtain ⟨state, hs, hn⟩ | ⟨hu, e, he⟩ := readTransactionState_cons first rest
    · have hsm : first.val % 2 ^ 32 < 4 := by
        rw [← hn]
        cases state <;> decide
      rw [hs, exact_iff_fits, firstSent_cons, fits_singleton]
      · exact ⟨.inl, fun h => h.resolve_right (by omega)⟩
      · intro hf
        rw [firstSent_cons, fits_singleton] at hf
        rw [hn, Nat.mod_eq_of_lt hf]
        rfl
    · rw [he]
      exact iff_of_true (exact_of_error e) (.inr hu)

lemma parseEvent_exact_iff (kind : EventKind) (e : EmittedEvent) :
    ExactRead (some (parseEvent kind e)) (fun event : TongoEvent Point => event.numbers)
        (kind.sent e) ↔
      Fits (kind.sent e) ∨ ¬ kind.WellFormed Point e := by
  rw [← exists_parseEvent]
  cases hp : (parseEvent kind e : Result (TongoEvent Point)) with
  | error error => exact iff_of_true (exact_of_error error) (.inr (by simp))
  | ok event =>
    rw [exact_iff_fits]
    · simp
    · intro hf
      rw [numbers_of_parseEvent hp]
      apply List.map_congr_left
      intro number hmem
      exact Nat.mod_eq_of_lt (hf number hmem)

lemma parsePositionAmount_cases (low high : Felt) (field : String) (decimals : UInt8) :
    (low.val + 2 ^ 128 * high.val < 2 ^ 128 ∧ ∃ amount,
        parsePositionAmount low high field decimals = .ok amount ∧
          amount.raw.val = low.val + 2 ^ 128 * high.val) ∨
      2 ^ 128 ≤ low.val + 2 ^ 128 * high.val ∧
        ∃ e, parsePositionAmount low high field decimals = .error e := by
  by_cases hf : low.val + 2 ^ 128 * high.val < 2 ^ 128
  · have hr := u256ToU128_eq_ok.mpr ⟨hf, rfl⟩
    have hlow : low.val < 2 ^ 128 := by omega
    refine .inl ⟨hf, ⟨Fin.ofNat (2 ^ 128) low.val, decimals⟩, ?_, ?_⟩
    · rw [parsePositionAmount, hr]
    · show low.val % 2 ^ 128 = _
      rw [Nat.mod_eq_of_lt hlow]
      omega
  · refine .inr ⟨Nat.not_lt.mp hf, ?_⟩
    unfold parsePositionAmount
    cases hr : Sdk.u256ToU128 low high with
    | ok value => exact absurd (u256ToU128_eq_ok.mp hr).1 hf
    | error e => exact ⟨_, rfl⟩

lemma readPosition_exact_iff (result : List Felt) (decimals : UInt8) :
    ExactRead (some (readPosition result decimals))
        (fun p => [p.amount.raw.val, p.unclaimedRewards.raw.val, p.commission.toNat])
        (positionSent result) ↔
      Fits (positionSent result) ∨
        ∃ number ∈ (positionSent result).take 2, number.bound ≤ number.value := by
  unfold readPosition
  split
  · rename_i reward aLow aHigh rLow rHigh commission rest
    dsimp only [positionSent]
    obtain ⟨ha, amount, hr, hv⟩ | ⟨hl, e, he⟩ :=
      parsePositionAmount_cases aLow aHigh "amount" decimals
    · rw [hr, except_ok_bind]
      obtain ⟨hrw, rewards, hr, hv'⟩ | ⟨hl, e, he⟩ :=
        parsePositionAmount_cases rLow rHigh "unclaimed_rewards" decimals
      · rw [hr, except_ok_bind]
        have hn : ¬ ∃ number ∈ List.take 2 [
            SentNumber.mk (aLow.val + 2 ^ 128 * aHigh.val) (2 ^ 128),
            SentNumber.mk (rLow.val + 2 ^ 128 * rHigh.val) (2 ^ 128),
            SentNumber.mk commission.val (2 ^ 16)], number.bound ≤ number.value := by
          simp only [List.take_succ_cons, List.take_zero, List.mem_cons, List.not_mem_nil, or_false,
            exists_eq_or_imp, exists_eq_left, not_or, not_le]
          exact ⟨ha, hrw⟩
        rw [or_iff_left hn]
        apply exact_iff_fits
        intro hf
        have hc : commission.val < 2 ^ 16 := hf ⟨commission.val, 2 ^ 16⟩ (by simp)
        simp only [hv, hv', toNat_feltToU16, Nat.mod_eq_of_lt hc, List.map_cons,
          List.map_nil]
      · rw [he, except_error_bind]
        exact iff_of_true (exact_of_error e) (.inr ⟨⟨_, 2 ^ 128⟩, by simp, hl⟩)
    · rw [he, except_error_bind]
      exact iff_of_true (exact_of_error e) (.inr ⟨⟨_, 2 ^ 128⟩, by simp, hl⟩)
  · rename_i hs
    have hsn : positionSent result = [] := by
      unfold positionSent
      split
      · exact absurd rfl (hs _ _ _ _ _ _ _)
      · rfl
    rw [hsn]
    exact iff_of_true (exact_of_error _) (.inl fits_nil)

/-- Every number, flag, count and state that a reader returns is the value of the felts it was
read from, too large values are errors, and no reader panics, exactly where the reply is
readable. -/
theorem rpc_numbers_exact_iff (read : RpcRead) : read.Exact Point ↔ read.Readable Point := by
  cases read with
  | bool result name => exact readBool_exact_iff result name
  | u32 result name => exact readU32_exact_iff result name
  | u64 result name => exact readU64_exact_iff result name
  | addressSpan result name => exact readAddressSpan_exact_iff result name
  | transactionState result => exact readTransactionState_exact_iff result
  | event kind e => exact parseEvent_exact_iff kind e
  | position result decimals => exact readPosition_exact_iff result decimals

/-- A quorum of `2 ^ 32 + 2` is read as two. -/
theorem quorum_aliased :
    readU32 [2 ^ 32 + 2] "get_quorum" = .ok 2 ∧ (2 ^ 32 + 2 : Felt).val = 2 ^ 32 + 2 := by
  decide +kernel

end

end KrustyKms.Client

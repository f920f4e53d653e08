import KrustyKms.Client.Operations
import KrustyKms.Client.Readers
import KrustyKms.WalletApi.Wait

/-!
# Staking in a delegation pool

`stake` asks `isMember` which of two transactions to send, and `isMember` takes every failure of
`getPosition` for the answer that the address is not a member.
-/

namespace KrustyKms

open Crypto Support WalletApi

def Amount.toU256 (amount : Amount) : Felt × Felt := ((amount.raw.val : Felt), 0)

namespace Client

structure Token where
  address : Address
  decimals : UInt8

structure Staking where
  poolAddress : Address
  token : Token

/-- What the provider answers to a call of a contract's view. -/
abbrev CallReply := Except ProviderError (List Felt)

namespace Staking

section Code

variable [SelectorNames] (staking : Staking) (provider : Call → CallReply)

def selector (name : String) : MayPanic KmsError Felt :=
  MayPanic.orPanic (SelectorNames.getSelectorFromName name).toOption

def approveAnd (name : String) (amount : Amount) (calldata : List Felt) :
    MayPanic KmsError (List Call) := do
  let poolRs := coreFeltToRs staking.poolAddress.asFelt
  let (low, high) := amount.toU256
  let approve := {
    toAddress := coreFeltToRs staking.token.address.asFelt
    selector := ← selector "approve"
    calldata := [poolRs, coreFeltToRs low, coreFeltToRs high] }
  let call := {
    toAddress := poolRs
    selector := ← selector name
    calldata := calldata ++ [coreFeltToRs low, coreFeltToRs high] }
  pure [approve, call]

def populateEnter (amount : Amount) (rewardAddress : Address) : MayPanic KmsError (List Call) :=
  staking.approveAnd "enter_delegation_pool" amount [coreFeltToRs rewardAddress.asFelt]

def populateAdd (amount : Amount) : MayPanic KmsError (List Call) :=
  staking.approveAnd "add_to_delegation_pool" amount []

def positionCall (address : Address) : MayPanic KmsError Call := do
  pure {
    toAddress := coreFeltToRs staking.poolAddress.asFelt
    selector := ← selector "pool_member_info"
    calldata := [coreFeltToRs address.asFelt] }

def getPosition (address : Address) : MayPanic KmsError PoolPosition := do
  let call ← staking.positionCall address
  match provider call with
  | .error e => throw (.stakingError (providerErrorMessage e))
  | .ok result => MonadExcept.ofExcept (readPosition result staking.token.decimals)

def isMember (address : Address) : MayPanic KmsError Bool :=
  ExceptT.mk ((staking.getPosition provider address).run.map fun
    | .ok _ => .ok true
    | .error _ => .ok false)

def stakeCalls (address : Address) (amount : Amount) (rewardAddress : Address) :
    MayPanic KmsError (List Call) := do
  if ← staking.isMember provider address then
    staking.populateAdd amount
  else
    staking.populateEnter amount rewardAddress

def stake {Tx : Type} (execute : List Call → MayPanic KmsError Tx) (address : Address)
    (amount : Amount) (rewardAddress : Address) : MayPanic KmsError Tx := do
  let calls ← staking.stakeCalls provider address amount rewardAddress
  execute calls

end Code

/-! ## Replies -/

def Decodes (staking : Staking) (reply : CallReply) : Prop :=
  ∃ result position, reply = .ok result ∧ readPosition result staking.token.decimals = .ok position

def SaysNotMember (notMember : String → Bool) (reply : CallReply) : Prop :=
  ∃ text, reply = .error (.typed text) ∧ notMember text = true

def Failed (staking : Staking) (reply : CallReply) : Prop :=
  (∃ inner, reply = .error (.other inner)) ∨
    ∃ result e, reply = .ok result ∧ readPosition result staking.token.decimals = .error e

def Truthful (staking : Staking) (notMember : String → Bool) (member : Prop) (reply : CallReply) :
    Prop :=
  (staking.Decodes reply → member) ∧ (SaysNotMember notMember reply → ¬ member)

section Replies

variable {staking : Staking} {notMember : String → Bool} {reply : CallReply}

lemma not_decodes_of_saysNotMember (h : SaysNotMember notMember reply) :
    ¬ staking.Decodes reply := by
  obtain ⟨text, rfl, -⟩ := h
  rintro ⟨result, position, h, -⟩
  cases h

lemma not_decodes_of_failed (h : staking.Failed reply) : ¬ staking.Decodes reply := by
  rintro ⟨result, position, rfl, hp⟩
  obtain ⟨inner, h⟩ | ⟨result', e, h, he⟩ := h
  · cases h
  · cases h
    rw [hp] at he
    cases he

lemma not_failed_of_saysNotMember (h : SaysNotMember notMember reply) :
    ¬ staking.Failed reply := by
  obtain ⟨text, rfl, -⟩ := h
  rintro (⟨inner, h⟩ | ⟨result, e, h, -⟩)
  · cases h
  · cases h

end Replies

/-! ## The guarantee -/

variable [SelectorNames]

def SelectorsKnown : Prop :=
  ∀ name ∈ ["approve", "enter_delegation_pool", "add_to_delegation_pool", "pool_member_info"],
    ∃ felt, SelectorNames.getSelectorFromName name = .ok felt

/-- Whatever the wallet does with calls, `stake` hands it these. -/
def Submits (staking : Staking) (provider : Call → CallReply) (address : Address) (amount : Amount)
    (rewardAddress : Address) (calls : List Call) : Prop :=
  ∀ (Tx : Type) (execute : List Call → MayPanic KmsError Tx),
    staking.stake provider execute address amount rewardAddress = execute calls

lemma submits_iff {staking : Staking} {provider : Call → CallReply} {address : Address}
    {amount : Amount} {rewardAddress : Address} {calls : List Call} :
    staking.Submits provider address amount rewardAddress calls ↔
      staking.stakeCalls provider address amount rewardAddress = pure calls := by
  constructor
  · intro h
    rw [← h _ pure, stake, bind_pure]
  · intro h Tx execute
    rw [stake, h, pure_bind]

structure Guarantee (staking : Staking) (provider : Call → CallReply) (notMember : String → Bool)
    (address : Address) (amount : Amount) (rewardAddress : Address) (reply : CallReply) : Prop where
  no_only_if : (staking.isMember provider address).Returns false → SaysNotMember notMember reply
  failure : staking.Failed reply → ∃ e, (staking.isMember provider address).run = some (.error e)
  enter_only_if : ∀ member calls, staking.Truthful notMember member reply →
    staking.Submits provider address amount rewardAddress calls →
    (staking.populateEnter amount rewardAddress).Returns calls → ¬ member
  add_only_if : ∀ member calls, staking.Truthful notMember member reply →
    staking.Submits provider address amount rewardAddress calls →
    (staking.populateAdd amount).Returns calls → member

lemma exists_selector (hs : SelectorsKnown) (name : String) (hn : name ∈
    ["approve", "enter_delegation_pool", "add_to_delegation_pool", "pool_member_info"]) :
    ∃ felt, selector name = pure felt := by
  obtain ⟨felt, hf⟩ := hs name hn
  refine ⟨felt, ?_⟩
  rw [selector, hf]
  rfl

lemma exists_positionCall (hs : SelectorsKnown) (staking : Staking) (address : Address) :
    ∃ call, staking.positionCall address = pure call := by
  obtain ⟨felt, hf⟩ := exists_selector hs "pool_member_info" (by decide)
  exact ⟨_, by rw [positionCall, hf, pure_bind]⟩

lemma exists_approveAnd (hs : SelectorsKnown) (staking : Staking) (amount : Amount)
    (name : String) (hn : name ∈
      ["approve", "enter_delegation_pool", "add_to_delegation_pool", "pool_member_info"])
    (calldata : List Felt) : ∃ approve call, call.calldata.length = calldata.length + 2 ∧
      staking.approveAnd name amount calldata = pure [approve, call] := by
  obtain ⟨approve, ha⟩ := exists_selector hs "approve" (by decide)
  obtain ⟨felt, hf⟩ := exists_selector hs name hn
  refine ⟨_, _, ?_, by rw [approveAnd, ha, hf]; rfl⟩
  simp

lemma exists_calls (hs : SelectorsKnown) (staking : Staking) (amount : Amount)
    (rewardAddress : Address) : ∃ enter add, enter ≠ add ∧
      staking.populateEnter amount rewardAddress = pure enter ∧
        staking.populateAdd amount = pure add := by
  obtain ⟨approve, enter, hle, he⟩ := exists_approveAnd hs staking amount
    "enter_delegation_pool" (by decide) [coreFeltToRs rewardAddress.asFelt]
  obtain ⟨approve', add, hla, ha⟩ := exists_approveAnd hs staking amount
    "add_to_delegation_pool" (by decide) []
  refine ⟨_, _, ?_, he, ha⟩
  intro h
  rw [List.cons.injEq, List.cons.injEq] at h
  rw [h.2.1, hla] at hle
  simp at hle

section Answer

variable {staking : Staking} {provider : Call → CallReply} {address : Address} {call : Call}

lemma isMember_of_decodes (hc : staking.positionCall address = pure call)
    (hd : staking.Decodes (provider call)) : staking.isMember provider address = pure true := by
  obtain ⟨result, position, hr, hp⟩ := hd
  rw [isMember, getPosition, hc, pure_bind, hr]
  dsimp only
  rw [hp]
  rfl

lemma isMember_of_not_decodes (hc : staking.positionCall address = pure call)
    (hd : ¬ staking.Decodes (provider call)) :
    staking.isMember provider address = pure false := by
  rw [isMember, getPosition, hc, pure_bind]
  cases hr : provider call with
  | error e => rfl
  | ok result =>
    dsimp only
    cases hp : readPosition result staking.token.decimals with
    | ok position => exact absurd ⟨result, position, hr, hp⟩ hd
    | error e => rfl

end Answer

/-- The answer and the transaction are right exactly when the pool was heard: the reply is a
position, or says that the address is not a member. -/
theorem stake_right_iff (hselectors : SelectorsKnown) (staking : Staking)
    (provider : Call → CallReply) (notMember : String → Bool) (address : Address)
    (amount : Amount) (rewardAddress : Address) :
    ∃ call, staking.positionCall address = pure call ∧
      (staking.Guarantee provider notMember address amount rewardAddress (provider call) ↔
        staking.Decodes (provider call) ∨ SaysNotMember notMember (provider call)) := by
  obtain ⟨call, hcall⟩ := exists_positionCall hselectors staking address
  obtain ⟨enter, add, hne, henterCall, haddCall⟩ :=
    exists_calls hselectors staking amount rewardAddress
  refine ⟨call, hcall, ?_, ?_⟩
  · intro h
    by_cases hdecodes : staking.Decodes (provider call)
    · exact .inl hdecodes
    · exact .inr (h.no_only_if (isMember_of_not_decodes hcall hdecodes ▸ rfl))
  · rintro (hdecodes | hrefused)
    · have hmember := isMember_of_decodes hcall hdecodes
      have hcalled : staking.stakeCalls provider address amount rewardAddress = pure add := by
        rw [stakeCalls, hmember, pure_bind, if_pos rfl, haddCall]
      refine ⟨fun h => ?_, fun h => absurd hdecodes (not_decodes_of_failed h), ?_,
        fun member calls htruth _ _ => htruth.1 hdecodes⟩
      · rw [hmember] at h
        cases h
      · intro member calls htruth hcalls henter
        rw [submits_iff, hcalled] at hcalls
        rw [henterCall] at henter
        cases hcalls
        cases henter
        exact absurd rfl hne
    · have hmember := isMember_of_not_decodes hcall (not_decodes_of_saysNotMember hrefused)
      have hcalled : staking.stakeCalls provider address amount rewardAddress = pure enter := by
        rw [stakeCalls, hmember, pure_bind, if_neg Bool.false_ne_true, henterCall]
      refine ⟨fun _ => hrefused, fun h => absurd h (not_failed_of_saysNotMember hrefused),
        fun member calls htruth _ _ => htruth.2 hrefused, ?_⟩
      intro member calls htruth hcalls hadd
      rw [submits_iff, hcalled] at hcalls
      rw [haddCall] at hadd
      cases hcalls
      cases hadd
      exact absurd rfl hne

end Staking

/-! ## A member whose provider does not answer -/

@[reducible] def sampleSelectors : SelectorNames where
  getSelectorFromName
    | "approve" => .ok 0x219209e083275171774dab1df80982e9df2096516f06319c5c6d71ae0a8480c
    | "enter_delegation_pool" =>
      .ok 0x28d4193fb8ce46eddddb440a7045e0abfb03313d85424642281b927d824a9c
    | "add_to_delegation_pool" =>
      .ok 0x2ec6c127d4ffe4bdc6597d95c3aeac9ab96edeb735da12054582c9a20034db2
    | "pool_member_info" => .ok 0xcf37a862e5bf34bd0e858865ea02d4ba6db9cc722f3424eb452c94d4ea567f
    | name => .error name

lemma sampleSelectors_known : @Staking.SelectorsKnown sampleSelectors := by
  intro name hn
  fin_cases hn <;> exact ⟨_, rfl⟩

def samplePool : Staking := ⟨⟨7⟩, ⟨⟨5⟩, 18⟩⟩

def timedOut : CallReply :=
  .error (.other (some (.transportReqwest ⟨true, false, none, false⟩)))

/-- With the member's position in the reply. -/
theorem stake_right_position :
    @Staking.SelectorsKnown sampleSelectors ∧
      ∃ call, @Staking.positionCall sampleSelectors samplePool ⟨9⟩ = pure call ∧
        @Staking.Guarantee sampleSelectors samplePool (fun _ => .ok [9, 100, 0, 3, 0, 250])
          (· = "Pool member does not exist") ⟨9⟩ ⟨1, 18⟩ ⟨9⟩ (.ok [9, 100, 0, 3, 0, 250]) := by
  obtain ⟨call, hc, h⟩ := @Staking.stake_right_iff sampleSelectors sampleSelectors_known samplePool
    (fun _ => .ok [9, 100, 0, 3, 0, 250]) (· = "Pool member does not exist") ⟨9⟩ ⟨1, 18⟩ ⟨9⟩
  exact ⟨sampleSelectors_known, call, hc, h.mpr (.inl ⟨_, _, rfl, rfl⟩)⟩

/-- A timeout is no answer, so the address may be a member, and the transaction enters it. -/
theorem stake_enters_on_timeout :
    samplePool.Truthful (· = "Pool member does not exist") True timedOut ∧
      (@Staking.isMember sampleSelectors samplePool (fun _ => timedOut) ⟨9⟩).Returns false ∧
      ∃ calls, (@Staking.populateEnter sampleSelectors samplePool ⟨1, 18⟩ ⟨9⟩).Returns calls ∧
        @Staking.Submits sampleSelectors samplePool (fun _ => timedOut) ⟨9⟩ ⟨1, 18⟩ ⟨9⟩ calls := by
  refine ⟨⟨fun _ => trivial, ?_⟩, rfl, _, rfl, fun _ _ => rfl⟩
  rintro ⟨text, h, -⟩
  cases h

end Client
end KrustyKms

import KrustyKms.WalletApi.Wait

/-!
# Waiting for acceptance in the gateway

The gateway polls as the wallet does, but every poll is cut off at the deadline.
-/

namespace KrustyKms.Gateway

open Crypto WalletApi

/-! ## Observations -/

inductive TransactionObservation where
  | pending
  | accepted
  | reverted (reason : String)
deriving DecidableEq

def classifyExecution (finalityStatus : TransactionFinalityStatus)
    (executionResult : ExecutionResult) : TransactionObservation :=
  match executionResult with
  | .reverted reason => .reverted reason
  | .succeeded =>
    match finalityStatus with
    | .preConfirmed => .pending
    | .acceptedOnL2 | .acceptedOnL1 => .accepted

def classifyReceipt (receipt : TransactionReceipt) : TransactionObservation :=
  classifyExecution receipt.finalityStatus receipt.executionResult

def classifyTransactionStatus : TransactionStatus → TransactionObservation
  | .received | .candidate => .pending
  | .preConfirmed execution => classifyExecution .preConfirmed execution
  | .acceptedOnL2 execution => classifyExecution .acceptedOnL2 execution
  | .acceptedOnL1 execution => classifyExecution .acceptedOnL1 execution

def observeTransaction (provider : TxProvider) (n : ℕ) (txHash : Felt) :
    Timed (Result TransactionObservation) :=
  match provider.getTransactionReceipt n txHash with
  | none => none
  | some (elapsed, .ok receipt) => some (elapsed, .ok (classifyReceipt receipt))
  | some (elapsed, .error receiptError) =>
    match provider.getTransactionStatus n txHash with
    | none => none
    | some (more, .ok status) => some (elapsed + more, .ok (classifyTransactionStatus status))
    | some (more, .error statusError) =>
      if isTransactionHashNotFound receiptError ∧ isTransactionHashNotFound statusError then
        some (elapsed + more, .ok .pending)
      else
        some (elapsed + more, .error (.rpcError
          (s!"failed to query transaction {txHash.toHex}: receipt error: " ++
            s!"{providerErrorMessage receiptError}; " ++
            s!"status error: {providerErrorMessage statusError}")))

/-! ## The loop -/

def fromMillis (ms : ℕ) : ℕ := ms * 1000000

inductive AcceptancePhase where
  | polling
  | panicked
  | returned (result : Result Unit)
deriving DecidableEq

structure AcceptanceState where
  now : ℕ
  polls : ℕ
  observed : List (Result TransactionObservation)
  phase : AcceptancePhase
deriving DecidableEq

def AcceptanceState.advance (st : AcceptanceState) : Option ℕ → AcceptanceState
  | none => { st with phase := .panicked }
  | some now => { st with now }

def timeoutError (txHash : Felt) (timeoutMs : ℕ) : KmsError :=
  .timeout s!"transaction {txHash.val} not accepted within {timeoutMs}ms"

def revertedError (txHash : Felt) (reason : String) : KmsError :=
  .transactionReverted s!"transaction {txHash.toHex} reverted: {reason}"

def afterPoll (txHash : Felt) (interval deadline : ℕ)
    (observation : Result TransactionObservation) (st : AcceptanceState) : AcceptanceState :=
  match observation with
  | .error error => { st with phase := .returned (.error error) }
  | .ok .pending =>
    -- Never sleep past the deadline, whatever the interval.
    let remaining := deadline - st.now
    st.advance (checkedAddInstant st.now (min interval remaining))
  | .ok .accepted => { st with phase := .returned (.ok ()) }
  | .ok (.reverted reason) => { st with phase := .returned (.error (revertedError txHash reason)) }

def cutOff (txHash : Felt) (timeoutMs : ℕ) (due : Option ℕ) (st : AcceptanceState) :
    AcceptanceState :=
  match due with
  | none => { st with phase := .panicked }
  | some now => { st with now, phase := .returned (.error (timeoutError txHash timeoutMs)) }

def waitStep (provider : TxProvider) (txHash : Felt) (timeoutMs interval deadline : ℕ)
    (st : AcceptanceState) : AcceptanceState :=
  match st.phase with
  | .panicked | .returned _ => st
  | .polling =>
    if deadline ≤ st.now then
      { st with phase := .returned (.error (timeoutError txHash timeoutMs)) }
    else
      let remaining := deadline - st.now
      let polled := { st with polls := st.polls + 1 }
      match observeTransaction provider st.polls txHash with
      | none => cutOff txHash timeoutMs (checkedAddInstant st.now remaining) polled
      | some (elapsed, observation) =>
        if elapsed ≤ remaining then
          afterPoll txHash interval deadline observation
            { polled with now := st.now + elapsed, observed := st.observed ++ [observation] }
        else cutOff txHash timeoutMs (checkedAddInstant st.now remaining) polled

def waitUntil (provider : TxProvider) (txHash : Felt) (pollIntervalMs timeoutMs start rounds : ℕ) :
    Option ℕ → AcceptanceState
  | none => ⟨start, 0, [], .returned (.error (.timeout
      s!"wait timeout_ms={timeoutMs} exceeds the schedulable clock range"))⟩
  | some deadline =>
    (waitStep provider txHash timeoutMs (fromMillis pollIntervalMs) deadline)^[rounds]
      ⟨start, 0, [], .polling⟩

def waitForAcceptance (provider : TxProvider) (txHash : Felt)
    (pollIntervalMs timeoutMs start rounds : ℕ) : AcceptanceState :=
  waitUntil provider txHash pollIntervalMs timeoutMs start rounds
    (checkedAddInstant start (fromMillis timeoutMs))

/-! ## What an observation means -/

def ReportedAccepted (provider : TxProvider) (n : ℕ) (txHash : Felt) : Prop :=
  (∃ elapsed receipt, provider.getTransactionReceipt n txHash = some (elapsed, .ok receipt) ∧
      receipt.executionResult = .succeeded ∧
      (receipt.finalityStatus = .acceptedOnL2 ∨ receipt.finalityStatus = .acceptedOnL1)) ∨
    ∃ elapsed status, provider.getTransactionStatus n txHash = some (elapsed, .ok status) ∧
      (status = .acceptedOnL2 .succeeded ∨ status = .acceptedOnL1 .succeeded)

lemma classifyExecution_eq_accepted {finalityStatus : TransactionFinalityStatus}
    {executionResult : ExecutionResult} :
    Gateway.classifyExecution finalityStatus executionResult = .accepted ↔
      executionResult = .succeeded ∧
        (finalityStatus = .acceptedOnL2 ∨ finalityStatus = .acceptedOnL1) := by
  cases executionResult <;> cases finalityStatus <;> simp [Gateway.classifyExecution]

lemma classifyTransactionStatus_eq_accepted {status : TransactionStatus} :
    Gateway.classifyTransactionStatus status = .accepted ↔
      status = .acceptedOnL2 .succeeded ∨ status = .acceptedOnL1 .succeeded := by
  cases status <;> simp [Gateway.classifyTransactionStatus, classifyExecution_eq_accepted]

variable {elapsed : ℕ} {st : AcceptanceState}

lemma reportedAccepted_of_observe {provider : TxProvider} {n : ℕ} {txHash : Felt}
    (h : Gateway.observeTransaction provider n txHash = some (elapsed, .ok .accepted)) :
    ReportedAccepted provider n txHash := by
  unfold Gateway.observeTransaction at h
  split at h
  · cases h
  · rename_i time receipt hr
    simp only [Option.some.injEq, Prod.mk.injEq, Except.ok.injEq] at h
    exact .inl ⟨time, receipt, hr, classifyExecution_eq_accepted.mp h.2⟩
  · split at h
    · cases h
    · rename_i time status hs
      simp only [Option.some.injEq, Prod.mk.injEq, Except.ok.injEq] at h
      exact .inr ⟨time, status, hs, classifyTransactionStatus_eq_accepted.mp h.2⟩
    · split_ifs at h <;> simp at h

lemma rpcError_of_observe {provider : TxProvider} {n : ℕ} {txHash : Felt} {error : KmsError}
    (h : Gateway.observeTransaction provider n txHash = some (elapsed, .error error)) :
    ∃ text, error = .rpcError text := by
  unfold Gateway.observeTransaction at h
  split at h
  · cases h
  · simp at h
  · split at h
    · cases h
    · simp at h
    · split_ifs at h
      · simp at h
      · simp only [Option.some.injEq, Prod.mk.injEq, Except.error.injEq] at h
        exact ⟨_, h.2.symm⟩

/-! ## One round -/

variable {provider : TxProvider} {txHash : Felt} {timeoutMs interval deadline start : ℕ}

lemma checkedAddInstant_of_le {now duration : ℕ} (hclock : deadline < fromSecs (2 ^ 63))
    (hle : now + duration ≤ deadline) : checkedAddInstant now duration = some (now + duration) :=
  if_pos (hle.trans_lt hclock)

def AcceptanceState.answered (st : AcceptanceState) (elapsed : ℕ)
    (observation : Result TransactionObservation) : AcceptanceState :=
  { st with
    now := st.now + elapsed
    polls := st.polls + 1
    observed := st.observed ++ [observation] }

lemma waitStep_cases (provider : TxProvider) (txHash : Felt) (timeoutMs interval : ℕ)
    (hclock : deadline < fromSecs (2 ^ 63)) (hnow : st.now ≤ deadline) :
    (st.phase ≠ .polling ∧ waitStep provider txHash timeoutMs interval deadline st = st) ∨
    (st.phase = .polling ∧
      (deadline ≤ st.now ∨ ∀ elapsed observation,
        Gateway.observeTransaction provider st.polls txHash = some (elapsed, observation) →
          deadline < st.now + elapsed) ∧
      ∃ polls, waitStep provider txHash timeoutMs interval deadline st =
        { st with
          now := deadline
          polls
          phase := .returned (.error (timeoutError txHash timeoutMs)) }) ∨
    (st.phase = .polling ∧ st.now < deadline ∧ ∃ elapsed observation,
      Gateway.observeTransaction provider st.polls txHash = some (elapsed, observation) ∧
      st.now + elapsed ≤ deadline ∧
      waitStep provider txHash timeoutMs interval deadline st =
        afterPoll txHash interval deadline observation (st.answered elapsed observation)) := by
  obtain ⟨now, polls, observed, phase⟩ := st
  cases phase with
  | panicked => exact .inl ⟨by simp, rfl⟩
  | returned result => exact .inl ⟨by simp, rfl⟩
  | polling =>
    refine .inr ?_
    unfold waitStep
    dsimp only at hnow ⊢
    by_cases hl : deadline ≤ now
    · obtain rfl : now = deadline := le_antisymm hnow hl
      exact .inl ⟨rfl, .inl le_rfl, polls, by rw [if_pos le_rfl]⟩
    · have hdue : checkedAddInstant now (deadline - now) = some deadline := by
        rw [checkedAddInstant_of_le hclock (by omega), Nat.add_sub_cancel' hnow]
      rw [if_neg hl, hdue]
      cases ho : Gateway.observeTransaction provider polls txHash with
      | none => exact .inl ⟨rfl, .inr (by simp), polls + 1, rfl⟩
      | some answer =>
        obtain ⟨elapsed, observation⟩ := answer
        by_cases hin : elapsed ≤ deadline - now
        · refine .inr ⟨rfl, Nat.not_le.mp hl, elapsed, observation, rfl, by omega, ?_⟩
          dsimp only
          rw [if_pos hin]
          rfl
        · refine .inl ⟨rfl, .inr ?_, polls + 1, ?_⟩
          · intro time other hs
            obtain ⟨rfl, -⟩ := Prod.mk.inj (Option.some.inj hs)
            omega
          · dsimp only
            rw [if_neg hin]
            rfl

/-- A poll that is answered in time ends the loop or lets it sleep, not past the deadline. -/
lemma afterPoll_cases (txHash : Felt) (interval : ℕ) (observation : Result TransactionObservation)
    (hclock : deadline < fromSecs (2 ^ 63)) (hnow : st.now ≤ deadline) :
    (observation = .ok .pending ∧ afterPoll txHash interval deadline observation st =
      { st with now := st.now + min interval (deadline - st.now) }) ∨
    ∃ result, afterPoll txHash interval deadline observation st =
        { st with phase := .returned result } ∧
      (result = .ok () ∧ observation = .ok .accepted ∨
        (∃ reason, result = .error (revertedError txHash reason) ∧
          observation = .ok (.reverted reason)) ∨
        ∃ error, result = .error error ∧ observation = .error error) := by
  cases observation with
  | error error => exact .inr ⟨_, rfl, .inr (.inr ⟨error, rfl, rfl⟩)⟩
  | ok observation =>
    cases observation with
    | pending =>
      refine .inl ⟨rfl, ?_⟩
      have hw : checkedAddInstant st.now (min interval (deadline - st.now)) =
          some (st.now + min interval (deadline - st.now)) :=
        checkedAddInstant_of_le hclock (by omega)
      simp only [afterPoll, hw]
      rfl
    | accepted => exact .inr ⟨_, rfl, .inl ⟨rfl, rfl⟩⟩
    | reverted reason => exact .inr ⟨_, rfl, .inr (.inl ⟨reason, rfl, rfl⟩)⟩

/-! ## Every state -/

structure AcceptanceInvariant (provider : TxProvider) (txHash : Felt) (deadline : ℕ)
    (st : AcceptanceState) : Prop where
  now_le : st.now ≤ deadline
  no_panic : st.phase ≠ .panicked
  accepted : st.phase = .returned (.ok ()) →
    .ok .accepted ∈ st.observed ∧ ∃ n < st.polls, ReportedAccepted provider n txHash
  reverted : ∀ reason, .ok (.reverted reason) ∈ st.observed →
    st.phase = .returned (.error (revertedError txHash reason))
  timeout : ∀ text, st.phase = .returned (.error (.timeout text)) → deadline ≤ st.now

lemma AcceptanceInvariant.not_reverted
    (h : AcceptanceInvariant provider txHash deadline st) (hp : st.phase = .polling)
    (reason : String) : .ok (.reverted reason) ∉ st.observed := by
  intro hmem
  have hr := h.reverted reason hmem
  rw [hp] at hr
  cases hr

lemma AcceptanceInvariant.answered
    {observation : Result TransactionObservation} (hclock : deadline < fromSecs (2 ^ 63))
    (h : AcceptanceInvariant provider txHash deadline st) (hph : st.phase = .polling)
    (ho : Gateway.observeTransaction provider st.polls txHash = some (elapsed, observation))
    (hin : st.now + elapsed ≤ deadline) (interval : ℕ) :
    AcceptanceInvariant provider txHash deadline
      (afterPoll txHash interval deadline observation (st.answered elapsed observation)) := by
  have hmem : ∀ reason, .ok (.reverted reason) ∈ st.observed ++ [observation] →
      observation = .ok (.reverted reason) := by
    intro reason hmem
    rcases List.mem_append.mp hmem with hold | hnew
    · exact absurd hold (h.not_reverted hph reason)
    · exact (List.mem_singleton.mp hnew).symm
  have hnow : (st.answered elapsed observation).now ≤ deadline := hin
  rcases afterPoll_cases txHash interval observation hclock hnow with
    ⟨rfl, heq⟩ | ⟨result, heq, hrs⟩
  · rw [heq]
    have hp : (st.answered elapsed (.ok .pending)).phase = .polling := hph
    refine ⟨?_, ?_, ?_, ?_, ?_⟩
    · change (st.answered elapsed _).now + min interval (deadline - _) ≤ deadline
      omega
    · rw [hp]
      simp
    · intro hr
      rw [hp] at hr
      cases hr
    · intro reason hre
      cases hmem reason hre
    · intro text hr
      rw [hp] at hr
      cases hr
  · rw [heq]
    refine ⟨hin, by simp, ?_, ?_, ?_⟩
    · intro hr
      obtain rfl := AcceptancePhase.returned.inj hr
      rcases hrs with ⟨-, rfl⟩ | ⟨reason, hw, -⟩ | ⟨error, hw, -⟩
      · refine ⟨List.mem_append_right _ (List.mem_singleton.mpr rfl), st.polls,
          Nat.lt_succ_self _, reportedAccepted_of_observe ho⟩
      · cases hw
      · cases hw
    · intro reason hre
      obtain rfl := hmem reason hre
      rcases hrs with ⟨-, hw⟩ | ⟨other, rfl, hs⟩ | ⟨error, -, hw⟩
      · cases hw
      · cases hs
        rfl
      · cases hw
    · intro text hr
      obtain rfl := AcceptancePhase.returned.inj hr
      rcases hrs with ⟨hw, -⟩ | ⟨reason, hw, -⟩ | ⟨error, hs, rfl⟩
      · cases hw
      · cases hw
      · -- the error of an observation is never a timeout
        obtain ⟨_, rfl⟩ := rpcError_of_observe ho
        cases hs

lemma AcceptanceInvariant.step (hclock : deadline < fromSecs (2 ^ 63))
    (h : AcceptanceInvariant provider txHash deadline st) :
    AcceptanceInvariant provider txHash deadline
      (waitStep provider txHash timeoutMs interval deadline st) := by
  rcases waitStep_cases provider txHash timeoutMs interval hclock h.now_le with
    ⟨-, heq⟩ | ⟨hp, -, polls, heq⟩ | ⟨hp, -, elapsed, observation, ho, hin, heq⟩
  · rw [heq]
    exact h
  · rw [heq]
    exact ⟨le_rfl, by simp, by simp, fun reason hmem => absurd hmem (h.not_reverted hp reason),
      fun _ _ => le_rfl⟩
  · rw [heq]
    exact h.answered hclock hp ho hin interval

/-! ## Runs -/

def IsAcceptanceRun (provider : TxProvider) (txHash : Felt) (timeoutMs interval deadline : ℕ)
    (run : ℕ → AcceptanceState) : Prop :=
  ∀ n, run (n + 1) = waitStep provider txHash timeoutMs interval deadline (run n)

section Runs

variable {run : ℕ → AcceptanceState} (hclock : deadline < fromSecs (2 ^ 63))
  (hrun : IsAcceptanceRun provider txHash timeoutMs interval deadline run)
  (hstart : AcceptanceInvariant provider txHash deadline (run 0))
include hclock hrun hstart

lemma acceptanceInvariant_run (n : ℕ) : AcceptanceInvariant provider txHash deadline (run n) := by
  induction n with
  | zero => exact hstart
  | succ n ih =>
    rw [hrun n]
    exact ih.step hclock

lemma now_of_polling (hit : 0 < interval) (n : ℕ) (hp : (run n).phase = .polling) :
    (run 0).now + n ≤ (run n).now ∨ (run n).now = deadline := by
  induction n with
  | zero => exact .inl le_rfl
  | succ n ih =>
    have h := acceptanceInvariant_run hclock hrun hstart n
    rw [hrun n] at hp ⊢
    rcases waitStep_cases provider txHash timeoutMs interval hclock h.now_le with
      ⟨hen, heq⟩ | ⟨-, -, polls, heq⟩ |
      ⟨hpl, her, elapsed, observation, -, hin, heq⟩
    · rw [heq] at hp
      exact absurd hp hen
    · rw [heq] at hp
      cases hp
    · rw [heq] at hp ⊢
      have hnow : ((run n).answered elapsed observation).now ≤ deadline := hin
      rcases afterPoll_cases txHash interval observation hclock hnow with
        ⟨-, ha⟩ | ⟨result, ha, -⟩
      · rw [ha]
        have hb := ih hpl
        simp only [AcceptanceState.answered]
        omega
      · rw [ha] at hp
        cases hp

lemma exists_returned (hin : 0 < interval) :
    ∃ n result, (run n).phase = .returned result ∧ (run n).now ≤ deadline := by
  -- after so many rounds a loop that still polls is at its deadline, and the next round ends it
  have h := acceptanceInvariant_run hclock hrun hstart (deadline + 1)
  cases hp : (run (deadline + 1)).phase with
  | panicked => exact absurd hp h.no_panic
  | returned result => exact ⟨_, result, hp, h.now_le⟩
  | polling =>
    have hl : (run (deadline + 1)).now = deadline := by
      rcases now_of_polling hclock hrun hstart hin _ hp with hlt | hs
      · have := h.now_le
        omega
      · exact hs
    rcases waitStep_cases provider txHash timeoutMs interval hclock h.now_le with
      ⟨hen, -⟩ | ⟨-, -, polls, heq⟩ | ⟨-, her, -⟩
    · exact absurd hp hen
    · exact ⟨deadline + 2, _, by rw [hrun, heq], by rw [hrun, heq]⟩
    · omega

lemma returned_of_observed {n elapsed : ℕ} {observation : TransactionObservation}
    (hp : (run n).phase = .polling) (ho : Gateway.observeTransaction provider (run n).polls txHash =
    some (elapsed, .ok observation)) (hin : (run n).now + elapsed < deadline) :
    (observation = .accepted → (run (n + 1)).phase = .returned (.ok ()) ∧
        (run (n + 1)).now = (run n).now + elapsed) ∧
      ∀ reason, observation = .reverted reason →
        (run (n + 1)).phase = .returned (.error (revertedError txHash reason)) ∧
          (run (n + 1)).now = (run n).now + elapsed := by
  have h := acceptanceInvariant_run hclock hrun hstart n
  rw [hrun n]
  rcases waitStep_cases provider txHash timeoutMs interval hclock h.now_le with
    ⟨hen, -⟩ | ⟨-, hcut, -⟩ | ⟨-, -, time, other, hs, -, heq⟩
  · exact absurd hp hen
  · rcases hcut with hl | hsl
    · omega
    · have := hsl _ _ ho
      omega
  · obtain ⟨rfl, rfl⟩ := Prod.mk.inj (Option.some.inj (ho.symm.trans hs))
    rw [heq]
    constructor
    · rintro rfl
      exact ⟨rfl, rfl⟩
    · rintro reason rfl
      exact ⟨rfl, rfl⟩

end Runs

/-! ## The caller's view -/

structure AcceptanceGuarantee (provider : TxProvider) (txHash : Felt) (start timeoutMs : ℕ)
    (run : ℕ → AcceptanceState) : Prop where
  returns : ∃ n result, (run n).phase = .returned result ∧
    (run n).now ≤ start + fromMillis timeoutMs
  no_panic : ∀ n, (run n).phase ≠ .panicked
  accepted : ∀ n, (run n).phase = .returned (.ok ()) →
    .ok .accepted ∈ (run n).observed ∧ ∃ k < (run n).polls, ReportedAccepted provider k txHash
  reverted : ∀ n reason, .ok (.reverted reason) ∈ (run n).observed →
    (run n).phase = .returned (.error (revertedError txHash reason))
  timeout : ∀ n text, (run n).phase = .returned (.error (.timeout text)) →
    start + fromMillis timeoutMs ≤ (run n).now ∨
      checkedAddInstant start (fromMillis timeoutMs) = none ∧ (run n).now = start
  decisive : ∀ n elapsed observation, (run n).phase = .polling →
    Gateway.observeTransaction provider (run n).polls txHash = some (elapsed, .ok observation) →
    (run n).now + elapsed < start + fromMillis timeoutMs →
    (observation = .accepted → (run (n + 1)).phase = .returned (.ok ()) ∧
        (run (n + 1)).now = (run n).now + elapsed) ∧
      ∀ reason, observation = .reverted reason →
        (run (n + 1)).phase = .returned (.error (revertedError txHash reason)) ∧
          (run (n + 1)).now = (run n).now + elapsed

/-- For every positive interval and every timeout the wait returns by its deadline, and with the
right result, whatever the provider answers and when. -/
theorem waitForAcceptance_guarantee (provider : TxProvider) (txHash : Felt)
    (pollIntervalMs timeoutMs start : ℕ) (hinterval : 0 < pollIntervalMs) :
    AcceptanceGuarantee provider txHash start timeoutMs
      (waitForAcceptance provider txHash pollIntervalMs timeoutMs start) := by
  have hw : waitForAcceptance provider txHash pollIntervalMs timeoutMs start = fun rounds =>
      waitUntil provider txHash pollIntervalMs timeoutMs start rounds
        (checkedAddInstant start (fromMillis timeoutMs)) := rfl
  rw [hw]
  cases hadd : checkedAddInstant start (fromMillis timeoutMs) with
  | none =>
    -- when the clock cannot show the deadline, nothing is polled
    refine ⟨⟨0, _, rfl, Nat.le_add_right _ _⟩, by simp [waitUntil], by simp [waitUntil],
      by simp [waitUntil], ?_, by simp [waitUntil]⟩
    intro n text _
    exact .inr ⟨hadd, rfl⟩
  | some deadline =>
    have hclock : deadline < fromSecs (2 ^ 63) := by
      unfold checkedAddInstant at hadd
      split_ifs at hadd with hf
      exact (Option.some.inj hadd) ▸ hf
    have hd : deadline = start + fromMillis timeoutMs := by
      unfold checkedAddInstant at hadd
      split_ifs at hadd
      exact (Option.some.inj hadd).symm
    have hpos : 0 < fromMillis pollIntervalMs := Nat.mul_pos hinterval (by decide)
    have hrun : IsAcceptanceRun provider txHash timeoutMs (fromMillis pollIntervalMs) deadline
        fun rounds => waitUntil provider txHash pollIntervalMs timeoutMs start rounds
          (some deadline) := fun n => Function.iterate_succ_apply' _ n _
    have hstart : AcceptanceInvariant provider txHash deadline ⟨start, 0, [], .polling⟩ :=
      ⟨by simp [hd], by simp, by simp, by simp, by simp⟩
    have hall := acceptanceInvariant_run hclock hrun hstart
    refine ⟨?_, fun n => (hall n).no_panic, fun n => (hall n).accepted,
      fun n => (hall n).reverted, ?_, ?_⟩
    · rw [← hd]
      exact exists_returned hclock hrun hstart hpos
    · intro n text hr
      rw [← hd]
      exact .inl ((hall n).timeout text hr)
    · intro n elapsed observation hp ho hin
      rw [← hd] at hin
      exact returned_of_observed hclock hrun hstart hp ho hin

def promptProvider : TxProvider where
  getTransactionReceipt _ _ := some (fromSecs 1, .ok ⟨0x7a5, .acceptedOnL2, .succeeded⟩)
  getTransactionStatus _ _ := none

/-- The wait returns when the receipt is there. -/
theorem waitForAcceptance_prompt :
    (waitForAcceptance promptProvider 0x7a5 250 5000 0 1).phase = .returned (.ok ()) ∧
      (waitForAcceptance promptProvider 0x7a5 250 5000 0 1).now = fromSecs 1 :=
  ((waitForAcceptance_guarantee promptProvider 0x7a5 250 5000 0 (by decide)).decisive 0
    (fromSecs 1) .accepted (by decide +kernel) rfl (by decide +kernel)).1 rfl

end KrustyKms.Gateway

import KrustyKms.WalletApi.Wait

/-!
# What a caller of `wait` can rely on

* `waitStep_cases`: what one round does;
* `WaitInvariant`: what holds in every state, whatever the provider answers and when;
* `wait_guarantee_iff`: the loop returns by its deadline exactly when every poll it starts is
  answered by then.
-/

namespace KrustyKms.WalletApi

def TransactionReceipt.Accepted (receipt : TransactionReceipt) : Prop :=
  receipt.executionResult = .succeeded ∧
    (receipt.finalityStatus = .acceptedOnL2 ∨ receipt.finalityStatus = .acceptedOnL1)

lemma classifyExecution_eq_accepted {finalityStatus : TransactionFinalityStatus}
    {executionResult : ExecutionResult} {receipt : Option TransactionReceipt}
    {result : TransactionReceipt} :
    classifyExecution finalityStatus executionResult receipt = .accepted result ↔
      executionResult = .succeeded ∧ finalityStatus ≠ .preConfirmed ∧ receipt = some result := by
  cases executionResult with
  | reverted reason => simp [classifyExecution]
  | succeeded =>
    cases finalityStatus with
    | preConfirmed => simp [classifyExecution]
    | acceptedOnL2 | acceptedOnL1 =>
      cases receipt with
      | none => simp [classifyExecution]
      | some receipt => simp [classifyExecution]

lemma classifyReceipt_eq_accepted {receipt result : TransactionReceipt}
    (h : classifyReceipt receipt = .accepted result) : result.Accepted := by
  obtain ⟨hex, hf, hr⟩ := classifyExecution_eq_accepted.mp h
  obtain rfl := Option.some.inj hr
  refine ⟨hex, ?_⟩
  cases hs : receipt.finalityStatus with
  | preConfirmed => exact absurd hs hf
  | acceptedOnL2 => exact .inl rfl
  | acceptedOnL1 => exact .inr rfl

lemma classifyTransactionStatus_ne_accepted (status : TransactionStatus)
    (result : TransactionReceipt) : classifyTransactionStatus status ≠ .accepted result := by
  intro h
  cases status with
  | received | candidate => exact absurd h (by simp [classifyTransactionStatus])
  | preConfirmed execution | acceptedOnL2 execution | acceptedOnL1 execution =>
    rw [classifyTransactionStatus, classifyExecution_eq_accepted] at h
    exact absurd h.2.2 (by simp)

lemma accepted_of_observeTransaction {provider : TxProvider} {n elapsed : ℕ} {txHash : Crypto.Felt}
    {receipt : TransactionReceipt}
    (h : observeTransaction provider n txHash = some (elapsed, .ok (.accepted receipt))) :
    receipt.Accepted := by
  unfold observeTransaction at h
  split at h
  · exact absurd h (by simp)
  · simp only [Option.some.injEq, Prod.mk.injEq, Except.ok.injEq] at h
    exact classifyReceipt_eq_accepted h.2
  · split at h
    · exact absurd h (by simp)
    · simp only [Option.some.injEq, Prod.mk.injEq, Except.ok.injEq] at h
      exact absurd h.2 (classifyTransactionStatus_ne_accepted _ _)
    · split_ifs at h <;> simp at h

/-! ## One round -/

variable {tx : Tx} {provider : TxProvider} {timeoutSecs interval deadline : ℕ}

def WaitState.answered (st : WaitState) (elapsed : ℕ) (observation : Result ReceiptObservation) :
    WaitState :=
  { st with
    now := st.now + elapsed
    polls := st.polls + 1
    observed := st.observed ++ [observation] }

lemma waitStep_cases (tx : Tx) (provider : TxProvider) (timeoutSecs interval deadline : ℕ)
    (st : WaitState) :
    (st.phase ≠ .polling ∧ tx.waitStep provider timeoutSecs interval deadline st = st) ∨
    (st.phase = .polling ∧ deadline ≤ st.now ∧
      ∃ text, tx.waitStep provider timeoutSecs interval deadline st =
        { st with phase := .returned (.error (.timeout text)) }) ∨
    (st.phase = .polling ∧ st.now < deadline ∧ tx.observeReceipt provider st.polls = none ∧
      tx.waitStep provider timeoutSecs interval deadline st =
        { st with polls := st.polls + 1, phase := .stalled }) ∨
    (st.phase = .polling ∧ st.now < deadline ∧ ∃ elapsed observation,
      tx.observeReceipt provider st.polls = some (elapsed, observation) ∧
      tx.waitStep provider timeoutSecs interval deadline st =
        tx.afterPoll interval deadline observation (st.answered elapsed observation)) := by
  obtain ⟨now, polls, observed, phase⟩ := st
  unfold Tx.waitStep
  cases phase with
  | stalled => exact .inl ⟨by simp, rfl⟩
  | returned result => exact .inl ⟨by simp, rfl⟩
  | polling =>
    refine .inr ?_
    dsimp only
    split_ifs with hd
    · exact .inl ⟨rfl, hd, _, rfl⟩
    refine .inr ?_
    cases ho : tx.observeReceipt provider polls with
    | none => exact .inl ⟨rfl, Nat.not_le.mp hd, rfl, rfl⟩
    | some answer =>
      obtain ⟨elapsed, observation⟩ := answer
      exact .inr ⟨rfl, Nat.not_le.mp hd, elapsed, observation, rfl, rfl⟩

lemma afterPoll_cases (tx : Tx) (interval deadline : ℕ) (observation : Result ReceiptObservation)
    (st : WaitState) :
    (observation = .ok .pending ∨ observation = .ok .acceptedWithoutReceipt) ∧
        tx.afterPoll interval deadline observation st =
          { st with now := st.now + min interval (deadline - st.now) } ∨
      ∃ result, tx.afterPoll interval deadline observation st =
        { st with phase := .returned result } ∧
        (∀ receipt, result = .ok receipt → observation = .ok (.accepted receipt)) ∧
        (∀ reason, observation = .ok (.reverted reason) → result =
          .error (.transactionReverted s!"transaction {tx.hashHex} reverted: {reason}")) := by
  cases observation with
  | error error => exact .inr ⟨_, rfl, by simp, by simp⟩
  | ok observation =>
    cases observation with
    | pending => exact .inl ⟨.inl rfl, rfl⟩
    | acceptedWithoutReceipt => exact .inl ⟨.inr rfl, rfl⟩
    | accepted receipt => exact .inr ⟨_, rfl, by simp, by simp⟩
    | reverted reason => exact .inr ⟨_, rfl, by simp, by simp⟩

def Tx.revertedError (tx : Tx) (reason : String) : KmsError :=
  .transactionReverted s!"transaction {tx.hashHex} reverted: {reason}"

structure WaitInvariant (tx : Tx) (start interval deadline : ℕ) (st : WaitState) : Prop where
  /-- Polls are an interval apart. -/
  spaced : st.phase = .polling →
    start + st.polls * interval ≤ st.now ∨ deadline ≤ st.now
  polls : start + st.polls * interval < deadline + interval
  accepted : ∀ receipt, st.phase = .returned (.ok receipt) → receipt.Accepted
  reverted : ∀ reason, .ok (.reverted reason) ∈ st.observed →
    st.phase = .returned (.error (tx.revertedError reason))

variable {start : ℕ} {st : WaitState}

lemma WaitInvariant.not_reverted
    (h : WaitInvariant tx start interval deadline st) (hp : st.phase = .polling)
    (reason : String) : .ok (.reverted reason) ∉ st.observed := by
  intro hmem
  have hr := h.reverted reason hmem
  rw [hp] at hr
  exact absurd hr (by simp)

/-- A poll is started before the deadline, so there is room for one more. -/
lemma WaitInvariant.polls_succ
    (h : WaitInvariant tx start interval deadline st) (hp : st.phase = .polling)
    (hnow : st.now < deadline) : start + (st.polls + 1) * interval < deadline + interval := by
  rw [Nat.add_mul, Nat.one_mul]
  rcases h.spaced hp with hs | hl
  · omega
  · omega

lemma WaitInvariant.answered {elapsed : ℕ}
    {observation : Result ReceiptObservation} (h : WaitInvariant tx start interval deadline st)
    (hp : st.phase = .polling) (hnow : st.now < deadline)
    (ho : tx.observeReceipt provider st.polls = some (elapsed, observation)) :
    WaitInvariant tx start interval deadline
      (tx.afterPoll interval deadline observation (st.answered elapsed observation)) := by
  have hpl := h.polls_succ hp hnow
  have hmem : ∀ reason, .ok (.reverted reason) ∈ st.observed ++ [observation] →
      observation = .ok (.reverted reason) := by
    intro reason hmem
    rcases List.mem_append.mp hmem with hold | hnew
    · exact absurd hold (h.not_reverted hp reason)
    · exact (List.mem_singleton.mp hnew).symm
  rcases afterPoll_cases tx interval deadline observation (st.answered elapsed observation) with
    ⟨hpn, heq⟩ | ⟨result, heq, hok, hrv⟩
  · rw [heq]
    refine ⟨fun _ => ?_, hpl, fun receipt hr => ?_, fun reason hrs => ?_⟩
    · -- the sleep takes an interval, or lasts until the deadline
      have hs := h.spaced hp
      simp only [WaitState.answered, Nat.add_mul, Nat.one_mul]
      omega
    · exact absurd (hp.symm.trans hr) (by simp)
    · rw [hmem reason hrs] at hpn
      exact absurd hpn (by simp)
  · rw [heq]
    refine ⟨fun hpo => absurd hpo (by simp), hpl, fun receipt hr => ?_,
      fun reason hrs => ?_⟩
    · rw [hok receipt (WaitPhase.returned.inj hr)] at ho
      exact accepted_of_observeTransaction ho
    · exact congrArg WaitPhase.returned (hrv reason (hmem reason hrs))

lemma WaitInvariant.step (h : WaitInvariant tx start interval deadline st) :
    WaitInvariant tx start interval deadline
      (tx.waitStep provider timeoutSecs interval deadline st) := by
  rcases waitStep_cases tx provider timeoutSecs interval deadline st with
    ⟨-, heq⟩ | ⟨hp, -, text, heq⟩ | ⟨hp, hnow, -, heq⟩ |
    ⟨hp, hnow, elapsed, observation, ho, heq⟩
  · rw [heq]
    exact h
  · rw [heq]
    exact ⟨by simp, h.polls, by simp, fun reason hmem => absurd hmem (h.not_reverted hp reason)⟩
  · rw [heq]
    exact ⟨by simp, h.polls_succ hp hnow, by simp,
      fun reason hmem => absurd hmem (h.not_reverted hp reason)⟩
  · rw [heq]
    exact h.answered hp hnow ho

/-! ## Runs -/

def IsRun (tx : Tx) (provider : TxProvider) (timeoutSecs interval deadline : ℕ)
    (run : ℕ → WaitState) : Prop :=
  ∀ n, run (n + 1) = tx.waitStep provider timeoutSecs interval deadline (run n)

/-- Every poll that starts before the deadline is answered by it. -/
def PollsAnswered (tx : Tx) (provider : TxProvider) (deadline : ℕ) (run : ℕ → WaitState) : Prop :=
  ∀ n, (run n).phase = .polling → (run n).now < deadline →
    ∃ elapsed observation, tx.observeReceipt provider (run n).polls = some (elapsed, observation) ∧
      (run n).now + elapsed ≤ deadline

lemma now_le_afterPoll (tx : Tx) (interval deadline : ℕ)
    (observation : Result ReceiptObservation) (st : WaitState) :
    st.now ≤ (tx.afterPoll interval deadline observation st).now := by
  rcases afterPoll_cases tx interval deadline observation st with ⟨-, heq⟩ | ⟨result, heq, -⟩
  · rw [heq]
    exact Nat.le_add_right _ _
  · rw [heq]

section Runs

variable {run : ℕ → WaitState} (hrun : IsRun tx provider timeoutSecs interval deadline run)
include hrun

lemma waitInvariant_run {start : ℕ} (h : WaitInvariant tx start interval deadline (run 0))
    (n : ℕ) : WaitInvariant tx start interval deadline (run n) := by
  induction n with
  | zero => exact h
  | succ n ih =>
    rw [hrun n]
    exact ih.step

lemma now_monotone : Monotone fun n => (run n).now := by
  refine monotone_nat_of_le_succ fun n => ?_
  rw [hrun n]
  rcases waitStep_cases tx provider timeoutSecs interval deadline (run n) with
    ⟨-, heq⟩ | ⟨-, -, text, heq⟩ | ⟨-, -, -, heq⟩ | ⟨-, -, elapsed, observation, -, heq⟩
  · rw [heq]
  · rw [heq]
  · rw [heq]
  · rw [heq]
    calc (run n).now ≤ (run n).now + elapsed := Nat.le_add_right _ _
      _ ≤ _ := now_le_afterPoll tx interval deadline observation
        ((run n).answered elapsed observation)

lemma run_eq_of_le {n m : ℕ} (hle : n ≤ m) (hph : (run n).phase ≠ .polling) :
    run m = run n := by
  induction m, hle using Nat.le_induction with
  | base => rfl
  | succ m _ ih =>
    rw [hrun m, ih]
    rcases waitStep_cases tx provider timeoutSecs interval deadline (run n) with
      ⟨-, heq⟩ | ⟨hp, -⟩ | ⟨hp, -⟩ | ⟨hp, -⟩
    · exact heq
    · exact absurd hp hph
    · exact absurd hp hph
    · exact absurd hp hph

lemma polls_run (hs : (run 0).polls = 0) {n : ℕ} (hp : (run n).phase = .polling) :
    (run n).polls = n := by
  induction n with
  | zero => exact hs
  | succ n ih =>
    rw [hrun n] at hp ⊢
    rcases waitStep_cases tx provider timeoutSecs interval deadline (run n) with
      ⟨hen, heq⟩ | ⟨-, -, text, heq⟩ | ⟨-, -, -, heq⟩ |
      ⟨hpl, -, elapsed, observation, -, heq⟩
    · rw [heq] at hp
      exact absurd hp hen
    · rw [heq] at hp
      exact absurd hp (by simp)
    · rw [heq] at hp
      exact absurd hp (by simp)
    · rw [heq] at hp ⊢
      rcases afterPoll_cases tx interval deadline observation
          ((run n).answered elapsed observation) with ⟨-, ha⟩ | ⟨result, ha, -⟩
      · rw [ha]
        exact congrArg (· + 1) (ih hpl)
      · rw [ha] at hp
        exact absurd hp (by simp)

lemma now_le_deadline (hph : (run 0).phase = .polling) (hnow : (run 0).now ≤ deadline)
    (han : PollsAnswered tx provider deadline run) (n : ℕ) :
    (run n).phase ≠ .stalled ∧ (run n).now ≤ deadline := by
  induction n with
  | zero =>
    refine ⟨fun hst => ?_, hnow⟩
    exact absurd (hph.symm.trans hst) (by simp)
  | succ n ih =>
    rw [hrun n]
    rcases waitStep_cases tx provider timeoutSecs interval deadline (run n) with
      ⟨-, heq⟩ | ⟨-, -, text, heq⟩ | ⟨hp, her, hn, -⟩ |
      ⟨hp, her, elapsed, observation, ho, heq⟩
    · rw [heq]
      exact ih
    · rw [heq]
      exact ⟨by simp, ih.2⟩
    · obtain ⟨elapsed, observation, hs, -⟩ := han n hp her
      exact absurd (hn.symm.trans hs) (by simp)
    · obtain ⟨_, _, hs, hin⟩ := han n hp her
      rw [ho, Option.some.injEq, Prod.mk.injEq] at hs
      obtain ⟨rfl, rfl⟩ := hs
      rw [heq]
      rcases afterPoll_cases tx interval deadline observation
          ((run n).answered elapsed observation) with ⟨-, ha⟩ | ⟨result, ha, -⟩
      · rw [ha]
        refine ⟨fun hst => absurd (hp.symm.trans hst) (by simp), ?_⟩
        simp only [WaitState.answered]
        omega
      · rw [ha]
        exact ⟨by simp, hin⟩

lemma pollsAnswered_of_returns {n : ℕ} {result : Result TransactionReceipt}
    (hr : (run n).phase = .returned result) (hnow : (run n).now ≤ deadline) :
    PollsAnswered tx provider deadline run := by
  intro k hp her
  have hlt : k < n := by
    by_contra hge
    rw [run_eq_of_le hrun (Nat.not_lt.mp hge) (by simp [hr]), hr] at hp
    exact absurd hp (by simp)
  have hs := hrun k
  rcases waitStep_cases tx provider timeoutSecs interval deadline (run k) with
    ⟨hen, -⟩ | ⟨-, hl, -⟩ | ⟨-, -, -, heq⟩ | ⟨-, -, elapsed, observation, ho, heq⟩
  · exact absurd hp hen
  · exact absurd her (Nat.not_lt.mpr hl)
  · -- the loop hangs in a call, and never returns
    rw [heq] at hs
    have hst : (run (k + 1)).phase = .stalled := by rw [hs]
    rw [run_eq_of_le hrun hlt (by simp [hst]), hst] at hr
    exact absurd hr (by simp)
  · refine ⟨elapsed, observation, ho, ?_⟩
    -- the clock only goes forward, and it still shows the deadline at the return
    rw [heq] at hs
    calc (run k).now + elapsed ≤ (run (k + 1)).now := by
          rw [hs]
          exact now_le_afterPoll tx interval deadline observation
            ((run k).answered elapsed observation)
      _ ≤ (run n).now := now_monotone hrun hlt
      _ ≤ deadline := hnow

lemma returns_of_pollsAnswered {start : ℕ} (hin : 0 < interval)
    (h : WaitInvariant tx start interval deadline (run 0)) (hp : (run 0).phase = .polling)
    (hpl : (run 0).polls = 0) (hnow : (run 0).now ≤ deadline)
    (ha : PollsAnswered tx provider deadline run) :
    ∃ n result, (run n).phase = .returned result ∧ (run n).now ≤ deadline := by
  -- more rounds than there may be polls
  have hb := (waitInvariant_run hrun h (deadline + 1)).polls
  obtain ⟨hs, hit⟩ := now_le_deadline hrun hp hnow ha (deadline + 1)
  cases hl : (run (deadline + 1)).phase with
  | returned result => exact ⟨deadline + 1, result, hl, hit⟩
  | stalled => exact absurd hl hs
  | polling =>
    rw [polls_run hrun hpl hl] at hb
    have hle : deadline ≤ deadline * interval := Nat.le_mul_of_pos_right _ hin
    rw [Nat.add_mul, Nat.one_mul] at hb
    omega

end Runs

/-! ## The caller's view -/

lemma effectiveWaitBounds_pos (options : WaitOptions) :
    0 < (effectiveWaitBounds options).1 ∧ 0 < (effectiveWaitBounds options).2 := by
  simp only [effectiveWaitBounds, minWaitIntervalSecs, minWaitTimeoutSecs, maxWaitTimeoutSecs]
  omega

structure WaitGuarantee (tx : Tx) (start intervalSecs timeoutSecs : ℕ) (run : ℕ → WaitState) :
    Prop where
  returns : ∃ n result, (run n).phase = .returned result ∧
    (run n).now ≤ start + fromSecs timeoutSecs
  accepted : ∀ n receipt, (run n).phase = .returned (.ok receipt) → receipt.Accepted
  reverted : ∀ n reason, .ok (.reverted reason) ∈ (run n).observed →
    (run n).phase = .returned (.error (tx.revertedError reason))
  polls : ∀ n, (run n).polls ≤ timeoutSecs / intervalSecs + 1

lemma polls_le_of_spaced {intervalSecs timeoutSecs polls : ℕ} (hin : 0 < intervalSecs)
    (h : start + polls * fromSecs intervalSecs
    < start + fromSecs timeoutSecs + fromSecs intervalSecs) :
    polls ≤ timeoutSecs / intervalSecs + 1 := by
  cases polls with
  | zero => exact Nat.zero_le _
  | succ polls =>
    have hmul : polls * intervalSecs ≤ timeoutSecs := by
      unfold fromSecs at h
      rw [Nat.add_mul, Nat.one_mul, ← Nat.mul_assoc] at h
      omega
    exact Nat.succ_le_succ ((Nat.le_div_iff_mul_le hin).mpr hmul)

lemma guarantee_run_iff {intervalSecs timeoutSecs : ℕ} {run : ℕ → WaitState}
    (hin : 0 < intervalSecs)
    (hrun : IsRun tx provider timeoutSecs (fromSecs intervalSecs) (start + fromSecs timeoutSecs)
    run) (hs : run 0 = ⟨start, 0, [], .polling⟩) :
    WaitGuarantee tx start intervalSecs timeoutSecs run ↔
      PollsAnswered tx provider (start + fromSecs timeoutSecs) run := by
  have hpos : 0 < fromSecs intervalSecs := Nat.mul_pos hin (by decide)
  have hiv : WaitInvariant tx start (fromSecs intervalSecs)
      (start + fromSecs timeoutSecs) (run 0) := by
    rw [hs]
    refine ⟨fun _ => .inl (by simp), ?_, by simp, by simp⟩
    rw [Nat.zero_mul]
    omega
  have hall := waitInvariant_run hrun hiv
  refine ⟨fun h => ?_, fun h => ⟨?_, fun n => (hall n).accepted, fun n => (hall n).reverted,
    fun n => polls_le_of_spaced hin (hall n).polls⟩⟩
  · obtain ⟨n, result, hr, hnow⟩ := h.returns
    exact pollsAnswered_of_returns hrun hr hnow
  · exact returns_of_pollsAnswered hrun hpos hiv (by rw [hs]) (by rw [hs])
      (by simp [hs]) h

lemma checkedAddInstant_eq_some {instant duration sum : ℕ}
    (h : checkedAddInstant instant duration = some sum) : sum = instant + duration := by
  unfold checkedAddInstant at h
  split_ifs at h
  exact (Option.some.inj h).symm

/-- `wait` keeps its promises, for all options, exactly when every poll that it starts is answered
by the deadline. Only the time of its return depends on that. -/
theorem wait_guarantee_iff (tx : Tx) (provider : TxProvider) (options : Option WaitOptions)
    (start : ℕ) :
    WaitGuarantee tx start (effectiveWaitBounds (options.getD default)).1
        (effectiveWaitBounds (options.getD default)).2 (tx.wait provider options start) ↔
      PollsAnswered tx provider
        (start + fromSecs (effectiveWaitBounds (options.getD default)).2)
        (tx.wait provider options start) := by
  have hin := (effectiveWaitBounds_pos (options.getD default)).1
  have hw : tx.wait provider options start = fun rounds =>
      tx.waitUntil provider (effectiveWaitBounds (options.getD default)).1
        (effectiveWaitBounds (options.getD default)).2 start rounds
        (checkedAddInstant start (fromSecs (effectiveWaitBounds (options.getD default)).2)) := rfl
  rw [hw]
  cases hadd : checkedAddInstant start
      (fromSecs (effectiveWaitBounds (options.getD default)).2) with
  | some deadline =>
    obtain rfl := checkedAddInstant_eq_some hadd
    exact guarantee_run_iff hin (fun n => Function.iterate_succ_apply' _ n _) rfl
  | none =>
    -- when the clock cannot show the deadline, nothing is polled
    refine iff_of_true ⟨⟨0, _, rfl, Nat.le_add_right _ _⟩, ?_, ?_, ?_⟩ ?_
    · intro n receipt hr
      exact absurd (WaitPhase.returned.inj hr) (by simp)
    · intro n reason hmem
      exact absurd hmem (List.not_mem_nil)
    · intro n
      exact Nat.zero_le _
    · intro n hp
      exact WaitPhase.noConfusion hp

def slowProvider (receipt : TransactionReceipt) : TxProvider where
  getTransactionReceipt _ _ := some (fromSecs 121, .ok receipt)
  getTransactionStatus _ _ := none

def sampleReceipt : TransactionReceipt := ⟨0x7a5, .acceptedOnL2, .succeeded⟩

/-- The timeout of 120 seconds has passed when `wait` returns, and it returns a receipt. -/
theorem wait_returns_late :
    (effectiveWaitBounds default).2 = 120 ∧
      Tx.wait ⟨0x7a5⟩ (slowProvider sampleReceipt) none 0 1
        = ⟨fromSecs 121, 1, [.ok (.accepted sampleReceipt)], .returned (.ok sampleReceipt)⟩ := by
  decide +kernel

end KrustyKms.WalletApi

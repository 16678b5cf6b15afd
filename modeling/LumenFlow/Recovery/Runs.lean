import LumenFlow.Recovery.Client

/-!
# How a recovery can go

The transcripts of the client, by what happens in them: a call that is confirmed, one
that is found to have landed, one that is given up, one that is made again.
-/

namespace LumenFlow

open Kit

namespace Recovery

/-- A read and its answer. -/
def read (params : RecoverRefundParams) (answer : Except Thrown (Option RefundStatus)) :
    Exchange :=
  ⟨.getRefund params.refundId, answer⟩

/-- The call of a step and its answer. -/
def called (params : RecoverRefundParams) (step : RefundStep)
    (answer : (step.op params).Answer) : Exchange :=
  ⟨step.op params, answer⟩

/-- A sleep and how it ends. -/
def slept (attempt : Nat) (answer : Except Thrown Unit) : Exchange :=
  ⟨.sleep attempt, answer⟩

/-- What `readStatus` makes of the answer to a read. -/
def shown : Except Thrown (Option RefundStatus) → Except Failure (Option RefundStatus)
  | .ok record => .ok record
  | .error err => if isRefundNotFound err then .ok none else .error (.thrown err)

/-- The call may be made again after this error. -/
def Retriable (params : RecoverRefundParams) (step : RefundStep) (err : Thrown) : Prop :=
  ¬ (isRefundNotFound err ∧ step ≠ .initiate) ∧ params.isTransient err = true

/-- A run of `runStep`, given how many retries are left. -/
inductive StepRun (params : RecoverRefundParams) (step : RefundStep)
    (status : Option RefundStatus) :
    Nat → List Exchange → Except Failure (Option RefundStatus) → Prop where
  | succeeded (left : Nat) (value : (step.op params).Value) :
      StepRun params step status left [called params step (.ok value)] (.ok status)
  | unread (left : Nat) (err : Thrown) {answer : Except Thrown (Option RefundStatus)}
      {failure : Failure} (failed : shown answer = .error failure) :
      StepRun params step status left [called params step (.error err), read params answer]
        (.error failure)
  | landed (left : Nat) (err : Thrown) {answer : Except Thrown (Option RefundStatus)}
      {observed : Option RefundStatus} (shows : shown answer = .ok observed)
      (reached : phaseOrder step.phase ≤ phaseOf observed) :
      StepRun params step status left [called params step (.error err), read params answer]
        (.ok observed)
  | aborted (left : Nat) {err : Thrown} {answer : Except Thrown (Option RefundStatus)}
      {observed : Option RefundStatus} (shows : shown answer = .ok observed)
      (short : phaseOf observed < phaseOrder step.phase) (final : ¬ Retriable params step err)
      (failure : Failure) :
      StepRun params step status left [called params step (.error err), read params answer]
        (.error failure)
  | exhausted {err : Thrown} {answer : Except Thrown (Option RefundStatus)}
      {observed : Option RefundStatus} (shows : shown answer = .ok observed)
      (short : phaseOf observed < phaseOrder step.phase) (retriable : Retriable params step err) :
      StepRun params step status 0 [called params step (.error err), read params answer]
        (.error (.retryExhaustedError step (params.maxRetriesPerStep + 1)))
  | unslept (left attempt : Nat) {err : Thrown} {answer : Except Thrown (Option RefundStatus)}
      {observed : Option RefundStatus} (shows : shown answer = .ok observed)
      (short : phaseOf observed < phaseOrder step.phase) (retriable : Retriable params step err)
      (broken : Thrown) :
      StepRun params step status (left + 1)
        [called params step (.error err), read params answer, slept attempt (.error broken)]
        (.error (.thrown broken))
  | again (left attempt : Nat) {err : Thrown} {answer : Except Thrown (Option RefundStatus)}
      {observed : Option RefundStatus} (shows : shown answer = .ok observed)
      (short : phaseOf observed < phaseOrder step.phase) (retriable : Retriable params step err)
      {rest : List Exchange} {outcome : Except Failure (Option RefundStatus)}
      (later : StepRun params step status left rest outcome) :
      StepRun params step status (left + 1)
        (called params step (.error err) :: read params answer :: slept attempt (.ok ()) :: rest)
        outcome

/-- A human has stopped the refund. -/
def Stopped (status : Option RefundStatus) : Prop :=
  status = some .rejected ∨ status = some .disputed

instance (status : Option RefundStatus) : Decidable (Stopped status) :=
  inferInstanceAs (Decidable (_ ∨ _))

/-- A run of the main loop, given how many rounds are left and the status read last. -/
inductive WalkRun (params : RecoverRefundParams) :
    Nat → Option RefundStatus → List RefundStep → List Exchange →
      Except Failure (Option RefundStatus × List RefundStep) → Prop where
  | complete (left : Nat) {status : Option RefundStatus} (stepsApplied : List RefundStep)
      (reached : phaseOrder params.targetPhase ≤ phaseOf status) :
      WalkRun params left status stepsApplied [] (.ok (status, stepsApplied))
  | notConverged {status : Option RefundStatus} (stepsApplied : List RefundStep)
      (short : phaseOf status < phaseOrder params.targetPhase) :
      WalkRun params 0 status stepsApplied [] (.error (.refundRecoveryError .notConverged status))
  | entered (left : Nat) {status : Option RefundStatus} (stepsApplied : List RefundStep)
      (stopped : Stopped status) :
      WalkRun params (left + 1) status stepsApplied []
        (.error (.refundRecoveryError .entered status))
  | failed (left : Nat) {status : Option RefundStatus} (stepsApplied : List RefundStep)
      {step : RefundStep} (short : phaseOf status < phaseOrder params.targetPhase)
      (next : nextStep status = some step) {transcript : List Exchange} {failure : Failure}
      (ran : StepRun params step status params.maxRetriesPerStep transcript (.error failure)) :
      WalkRun params (left + 1) status stepsApplied transcript (.error failure)
  | unread (left : Nat) {status : Option RefundStatus} (stepsApplied : List RefundStep)
      {step : RefundStep} (short : phaseOf status < phaseOrder params.targetPhase)
      (next : nextStep status = some step) {transcript : List Exchange}
      {assigned : Option RefundStatus}
      (ran : StepRun params step status params.maxRetriesPerStep transcript (.ok assigned))
      {answer : Except Thrown (Option RefundStatus)} {failure : Failure}
      (unshown : shown answer = .error failure) :
      WalkRun params (left + 1) status stepsApplied (transcript ++ [read params answer])
        (.error failure)
  | round (left : Nat) {status : Option RefundStatus} (stepsApplied : List RefundStep)
      {step : RefundStep} (short : phaseOf status < phaseOrder params.targetPhase)
      (next : nextStep status = some step) {transcript : List Exchange}
      {assigned : Option RefundStatus}
      (ran : StepRun params step status params.maxRetriesPerStep transcript (.ok assigned))
      {answer : Except Thrown (Option RefundStatus)} {found : Option RefundStatus}
      (shows : shown answer = .ok found) {rest : List Exchange}
      {outcome : Except Failure (Option RefundStatus × List RefundStep)}
      (later : WalkRun params left found (stepsApplied ++ [step]) rest outcome) :
      WalkRun params (left + 1) status stepsApplied (transcript ++ read params answer :: rest)
        outcome

/-- A run of `recoverRefund`. -/
inductive RecoverRun (params : RecoverRefundParams) :
    List Exchange → Except Failure RecoverRefundResult → Prop where
  | unread {answer : Except Thrown (Option RefundStatus)} {failure : Failure}
      (unshown : shown answer = .error failure) :
      RecoverRun params [read params answer] (.error failure)
  | stopped {answer : Except Thrown (Option RefundStatus)} {status : Option RefundStatus}
      (shows : shown answer = .ok status) (stopped : Stopped status) (reason : RecoveryReason) :
      RecoverRun params [read params answer] (.error (.refundRecoveryError reason status))
  | failed {answer : Except Thrown (Option RefundStatus)} {status : Option RefundStatus}
      (shows : shown answer = .ok status) (running : ¬ Stopped status)
      {rest : List Exchange} {failure : Failure}
      (walked : WalkRun params maxRounds status [] rest (.error failure)) :
      RecoverRun params (read params answer :: rest) (.error failure)
  | returned {answer : Except Thrown (Option RefundStatus)} {status : Option RefundStatus}
      (shows : shown answer = .ok status) (running : ¬ Stopped status)
      {rest : List Exchange} {final : Option RefundStatus} {stepsApplied : List RefundStep}
      (walked : WalkRun params maxRounds status [] rest (.ok (final, stepsApplied))) :
      RecoverRun params (read params answer :: rest)
        (.ok ⟨params.refundId, final.getD .pending, stepsApplied,
          decide (phaseOrder params.targetPhase ≤ phaseOf status)⟩)

section Runs

variable {params : RecoverRefundParams} {step : RefundStep} {status : Option RefundStatus}
  {stepsApplied : List RefundStep} {transcript : List Exchange} {left : Nat}

theorem runs_getRefund {outcome : Except Failure (Except Thrown (Option RefundStatus))} :
    Dialogue.Runs (getRefund params.refundId) transcript outcome ↔
      ∃ answer, transcript = [read params answer] ∧ outcome = .ok answer :=
  Dialogue.runs_send

theorem runs_sleep {attempt : Nat} {outcome : Except Failure (Except Thrown Unit)} :
    Dialogue.Runs (sleep attempt) transcript outcome ↔
      ∃ answer, transcript = [slept attempt answer] ∧ outcome = .ok answer :=
  Dialogue.runs_send

theorem runs_readStatus {outcome : Except Failure (Option RefundStatus)} :
    Dialogue.Runs (readStatus params) transcript outcome ↔
      ∃ answer, transcript = [read params answer] ∧ outcome = shown answer := by
  simp only [readStatus, Dialogue.runs_bind, runs_getRefund]
  constructor
  · rintro (⟨failure, ⟨answer, _, ends⟩, _⟩ | ⟨answer, front, rest, rfl, ⟨_, rfl, same⟩, goes⟩)
    · cases ends
    · cases same
      refine ⟨answer, ?_⟩
      cases answer with
      | ok record => simpa [shown] using goes
      | error err =>
          by_cases missing : isRefundNotFound err = true
          · simpa [shown, missing] using goes
          · simpa [shown, missing] using goes
  · rintro ⟨answer, rfl, rfl⟩
    refine .inr ⟨answer, [read params answer], [], rfl, ⟨answer, rfl, rfl⟩, ?_⟩
    cases answer with
    | ok record => simp [shown]
    | error err =>
        by_cases missing : isRefundNotFound err = true
        · simp [shown, missing]
        · simp [shown, missing]

theorem attemptStep_cases {again : Client (Option RefundStatus)}
    {outcome : Except Failure (Option RefundStatus)}
    (runs : Dialogue.Runs (attemptStep params step status again) transcript outcome) :
    StepRun params step status left transcript outcome ∨
      ∃ err answer observed rest,
        transcript = called params step (.error err) :: read params answer :: rest ∧
          shown answer = .ok observed ∧ phaseOf observed < phaseOrder step.phase ∧
          Retriable params step err ∧ Dialogue.Runs again rest outcome := by
  simp only [attemptStep, Dialogue.runs_bind, Dialogue.runs_send] at runs
  rcases runs with
    ⟨failure, ⟨answer, _, ends⟩, _⟩ | ⟨answer, front, rest, rfl, ⟨_, rfl, same⟩, goes⟩
  · cases ends
  · cases same
    cases answer with
    | ok value =>
        obtain ⟨rfl, rfl⟩ := Dialogue.runs_pure.mp goes
        exact .inl (.succeeded left value)
    | error err =>
        simp only [Dialogue.runs_bind, runs_readStatus] at goes
        rcases goes with ⟨failure, ⟨answer, rfl, failed⟩, rfl⟩ |
          ⟨observed, front, later, rfl, ⟨answer, rfl, shows⟩, goes⟩
        · exact .inl (.unread left err failed.symm)
        · by_cases reached : phaseOrder step.phase ≤ phaseOf observed
          · rw [if_pos reached] at goes
            obtain ⟨rfl, rfl⟩ := Dialogue.runs_pure.mp goes
            exact .inl (.landed left err shows.symm reached)
          · have short : phaseOf observed < phaseOrder step.phase := Int.not_le.mp reached
            rw [if_neg reached] at goes
            by_cases vanished : isRefundNotFound err ∧ step ≠ .initiate
            · rw [if_pos vanished] at goes
              obtain ⟨rfl, rfl⟩ := Dialogue.runs_fail.mp goes
              exact .inl (.aborted left shows.symm short (fun retriable => retriable.1 vanished) _)
            · rw [if_neg vanished] at goes
              by_cases permanent : params.isTransient err = false
              · rw [if_pos permanent] at goes
                obtain ⟨rfl, rfl⟩ := Dialogue.runs_fail.mp goes
                refine .inl (.aborted left shows.symm short ?_ _)
                intro retriable
                exact Bool.false_ne_true (permanent.symm.trans retriable.2)
              · rw [if_neg permanent] at goes
                exact .inr ⟨err, answer, observed, later, rfl, shows.symm, short,
                  ⟨vanished, Bool.eq_true_of_not_eq_false permanent⟩, goes⟩

theorem runs_runStep {outcome : Except Failure (Option RefundStatus)}
    (runs : Dialogue.Runs (runStep params step status left) transcript outcome) :
    StepRun params step status left transcript outcome := by
  induction left generalizing transcript with
  | zero =>
      rcases attemptStep_cases runs with
        ended | ⟨err, answer, observed, rest, rfl, shows, short, retriable, goes⟩
      · exact ended
      · obtain ⟨rfl, rfl⟩ := Dialogue.runs_fail.mp goes
        exact .exhausted shows short retriable
  | succ left inductionHypothesis =>
      rcases attemptStep_cases runs with
        ended | ⟨err, answer, observed, rest, rfl, shows, short, retriable, goes⟩
      · exact ended
      · simp only [Dialogue.runs_bind, runs_sleep] at goes
        rcases goes with ⟨failure, ⟨waited, _, ends⟩, _⟩ |
          ⟨waited, front, later, rfl, ⟨_, rfl, same⟩, goes⟩
        · cases ends
        · cases same
          cases waited with
          | ok value => exact .again left _ shows short retriable (inductionHypothesis goes)
          | error broken =>
              obtain ⟨rfl, rfl⟩ := Dialogue.runs_fail.mp goes
              exact .unslept left _ shows short retriable broken

theorem phaseOrder_le (phase : RefundPhase) : 0 ≤ phaseOrder phase ∧ phaseOrder phase ≤ 2 := by
  cases phase <;> decide

theorem nextStep_cases (short : phaseOf status < phaseOrder params.targetPhase) :
    (∃ step, nextStep status = some step) ∨ Stopped status ∧ nextStep status = none := by
  cases status with
  | none => exact .inl ⟨.initiate, rfl⟩
  | some status =>
      cases status with
      | pending => exact .inl ⟨.approve, rfl⟩
      | approved => exact .inl ⟨.execute, rfl⟩
      | rejected => exact .inr ⟨.inl rfl, rfl⟩
      | disputed => exact .inr ⟨.inr rfl, rfl⟩
      | completed =>
          have last := phaseOrder_le params.targetPhase
          have two : phaseOf (some .completed) = 2 := rfl
          omega

theorem walkStep_of_next (next : nextStep status = some step) :
    walkStep params status stepsApplied = (do
      let _status ← runStep params step status params.maxRetriesPerStep
      return stepsApplied ++ [step]) := by
  unfold walkStep
  rw [next]

theorem runs_walk {outcome : Except Failure (Option RefundStatus × List RefundStep)}
    (runs : Dialogue.Runs (walk params left status stepsApplied) transcript outcome) :
    WalkRun params left status stepsApplied transcript outcome := by
  induction left generalizing status stepsApplied transcript with
  | zero =>
      rw [walk] at runs
      by_cases reached : phaseOrder params.targetPhase ≤ phaseOf status
      · rw [if_pos reached] at runs
        obtain ⟨rfl, rfl⟩ := Dialogue.runs_pure.mp runs
        exact .complete 0 stepsApplied reached
      · rw [if_neg reached] at runs
        obtain ⟨rfl, rfl⟩ := Dialogue.runs_fail.mp runs
        exact .notConverged stepsApplied (Int.not_le.mp reached)
  | succ left inductionHypothesis =>
      rw [walk] at runs
      by_cases reached : phaseOrder params.targetPhase ≤ phaseOf status
      · rw [if_pos reached] at runs
        obtain ⟨rfl, rfl⟩ := Dialogue.runs_pure.mp runs
        exact .complete _ stepsApplied reached
      · have short : phaseOf status < phaseOrder params.targetPhase := Int.not_le.mp reached
        rw [if_neg reached] at runs
        rcases nextStep_cases short with ⟨step, next⟩ | ⟨stopped, none⟩
        · rw [walkStep_of_next next] at runs
          rcases Dialogue.runs_bind.mp runs with
            ⟨failure, stepped, rfl⟩ | ⟨applied, front, later, rfl, stepped, goes⟩
          · rcases Dialogue.runs_bind.mp stepped with ⟨_, ran, same⟩ | ⟨_, _, _, _, _, returns⟩
            · cases same
              exact .failed left stepsApplied short next (runs_runStep ran)
            · cases (Dialogue.runs_pure.mp returns).2
          · rcases Dialogue.runs_bind.mp stepped with
              ⟨_, _, ends⟩ | ⟨assigned, ranFront, ended, rfl, ran, returns⟩
            · cases ends
            · obtain ⟨rfl, same⟩ := Dialogue.runs_pure.mp returns
              cases same
              rw [List.append_nil]
              rcases Dialogue.runs_bind.mp goes with
                ⟨failure, unread, rfl⟩ | ⟨found, readFront, rest, rfl, reads, walked⟩
              · obtain ⟨answer, rfl, unshown⟩ := runs_readStatus.mp unread
                exact .unread left stepsApplied short next (runs_runStep ran) unshown.symm
              · obtain ⟨answer, rfl, shows⟩ := runs_readStatus.mp reads
                exact .round left stepsApplied short next (runs_runStep ran) shows.symm
                  (inductionHypothesis walked)
        · have fails : walkStep params status stepsApplied =
              Dialogue.fail (.refundRecoveryError .entered status) := by
            unfold walkStep
            rw [none]
            exact if_pos stopped
          rw [fails] at runs
          rcases Dialogue.runs_bind.mp runs with ⟨failure, fail, rfl⟩ | ⟨_, _, _, _, fail, _⟩
          · obtain ⟨rfl, ends⟩ := Dialogue.runs_fail.mp fail
            cases ends
            exact .entered left stepsApplied stopped
          · cases (Dialogue.runs_fail.mp fail).2

/-- Every run of the client is one of these. -/
theorem runs_recoverRefund {outcome : Except Failure RecoverRefundResult}
    (runs : Dialogue.Runs (recoverRefund params) transcript outcome) :
    RecoverRun params transcript outcome := by
  simp only [recoverRefund, Dialogue.runs_bind, runs_readStatus] at runs
  rcases runs with ⟨failure, ⟨answer, rfl, unshown⟩, rfl⟩ |
    ⟨status, front, rest, rfl, ⟨answer, rfl, shows⟩, goes⟩
  · exact .unread unshown.symm
  · by_cases rejected : status = some .rejected
    · rw [if_pos rejected] at goes
      obtain ⟨rfl, rfl⟩ := Dialogue.runs_fail.mp goes
      exact .stopped shows.symm (.inl rejected) .rejected
    · rw [if_neg rejected] at goes
      by_cases disputed : status = some .disputed
      · rw [if_pos disputed] at goes
        obtain ⟨rfl, rfl⟩ := Dialogue.runs_fail.mp goes
        exact .stopped shows.symm (.inr disputed) .disputed
      · rw [if_neg disputed] at goes
        have running : ¬ Stopped status := not_or.mpr ⟨rejected, disputed⟩
        rcases Dialogue.runs_bind.mp goes with
          ⟨failure, walked, rfl⟩ | ⟨⟨final, stepsApplied⟩, front, ended, rfl, walked, returns⟩
        · exact .failed shows.symm running (runs_walk walked)
        · obtain ⟨rfl, rfl⟩ := Dialogue.runs_pure.mp returns
          rw [List.append_nil]
          exact .returned shows.symm running (runs_walk walked)

end Runs

end Recovery

end LumenFlow

import LumenFlow.Recovery.Stopping

/-!
# What a recovery achieves

The client comes to an end after a bounded number of calls, each of which the status
calls for that it has read, and returns only what it has read last.
-/

namespace LumenFlow

open Kit

namespace Recovery

/-- Attempts of a step that have failed, with the reads and the sleeps between them. -/
inductive Attempts (params : RecoverRefundParams) (step : RefundStep) : List Exchange → Prop where
  | none : Attempts params step []
  | again (err : Thrown) (answer : Except Thrown (Option RefundStatus)) (attempt : Nat)
      {rest : List Exchange} (later : Attempts params step rest) :
      Attempts params step
        (called params step (.error err) :: read params answer :: slept attempt (.ok ()) :: rest)

/-- Each call that changes the refund is the one that a read before it calls for, with nothing
but failed attempts of the same step in between. -/
def CalledFor (params : RecoverRefundParams) (transcript : List Exchange) : Prop :=
  ∀ before exchange rest, transcript = before ++ exchange :: rest →
    exchange.question.mutates = true →
      ∃ front answer status step attempts, before = front ++ read params answer :: attempts ∧
        shown answer = .ok status ∧ nextStep status = some step ∧
        exchange.question = step.op params ∧ Attempts params step attempts

/-- What the client achieves in a run. -/
structure Converges (params : RecoverRefundParams) (transcript : List Exchange)
    (outcome : Except Failure RecoverRefundResult) : Prop where
  bounded : transcript.countP (·.question.mutates) ≤ 5 * (params.maxRetriesPerStep + 1)
  truthful : ∀ result, outcome = .ok result → ∃ before status,
    transcript = before ++ [read params (.ok (some status))] ∧
      phaseOrder params.targetPhase ≤ phaseOf (some status) ∧ result.finalStatus = status
  calledFor : CalledFor params transcript
  idle : ∀ answer status rest, transcript = read params answer :: rest →
    shown answer = .ok status → phaseOrder params.targetPhase ≤ phaseOf status →
      rest = [] ∧ outcome = .ok ⟨params.refundId, status.getD .pending, [], true⟩

section Runs

variable {params : RecoverRefundParams} {step : RefundStep} {status : Option RefundStatus}
  {stepsApplied : List RefundStep} {transcript front back : List Exchange} {left : Nat}
  {answer : Except Thrown (Option RefundStatus)}

theorem StepRun.bounded {outcome : Except Failure (Option RefundStatus)}
    (ran : StepRun params step status left transcript outcome) :
    transcript.countP (·.question.mutates) ≤ left + 1 := by
  induction ran with
  | again left attempt shows short retriable later inductionHypothesis =>
      simp only [List.countP_cons, mutates_called, mutates_read, mutates_slept]
      simpa using inductionHypothesis
  | _ => simp

theorem WalkRun.bounded {outcome : Except Failure (Option RefundStatus × List RefundStep)}
    (ran : WalkRun params left status stepsApplied transcript outcome) :
    transcript.countP (·.question.mutates) ≤ left * (params.maxRetriesPerStep + 1) := by
  induction ran with
  | complete => simp
  | notConverged => simp
  | entered => simp
  | failed left stepsApplied short next ran =>
      have steps := ran.bounded
      rw [Nat.succ_mul]
      omega
  | unread left stepsApplied short next ran unshown =>
      have steps := ran.bounded
      rw [Nat.succ_mul, List.countP_append, List.countP_singleton, mutates_read]
      simp only [Bool.false_eq_true, if_false]
      omega
  | round left stepsApplied short next ran shows later inductionHypothesis =>
      have steps := ran.bounded
      rw [Nat.succ_mul, List.countP_append, List.countP_cons, mutates_read]
      simp only [Bool.false_eq_true, if_false]
      omega

theorem RecoverRun.bounded {outcome : Except Failure RecoverRefundResult}
    (ran : RecoverRun params transcript outcome) :
    transcript.countP (·.question.mutates) ≤ 5 * (params.maxRetriesPerStep + 1) := by
  cases ran with
  | unread => simp
  | stopped => simp
  | failed shows runs walked =>
      simpa [List.countP_cons, maxRounds] using walked.bounded
  | returned shows runs walked =>
      simpa [List.countP_cons, maxRounds] using walked.bounded

/-- A main loop that returns has read what it returns last. -/
theorem WalkRun.truthful {final : Option RefundStatus} {applied : List RefundStep}
    (ran : WalkRun params left status stepsApplied transcript (.ok (final, applied)))
    (shows : shown answer = .ok status) :
    phaseOrder params.targetPhase ≤ phaseOf final ∧ ∃ before last,
      read params answer :: transcript = before ++ [read params last] ∧
        shown last = .ok final := by
  generalize ends : (.ok (final, applied) : Except Failure _) = outcome at ran
  induction ran generalizing answer with
  | complete left stepsApplied reached =>
      cases ends
      exact ⟨reached, [], answer, rfl, shows⟩
  | @round left status stepsApplied step short next steps assigned ran reply found shown rest
      outcome later inductionHypothesis =>
      obtain ⟨reached, before, last, split, final⟩ := inductionHypothesis shown ends
      refine ⟨reached, read params answer :: steps ++ before, last, ?_, final⟩
      rw [List.append_assoc, ← split, List.cons_append]
  | _ => cases ends

theorem shown_some {found : RefundStatus} (shows : shown answer = .ok (some found)) :
    answer = .ok (some found) := by
  cases answer with
  | ok record =>
      cases shows
      rfl
  | error err =>
      by_cases missing : isRefundNotFound err = true
      · simp [shown, missing] at shows
      · simp [shown, missing] at shows

theorem exists_of_phase (reached : phaseOrder params.targetPhase ≤ phaseOf status) :
    ∃ found, status = some found := by
  cases status with
  | none =>
      have start := (phaseOrder_le params.targetPhase).1
      simp only [phaseOf] at reached
      omega
  | some found => exact ⟨found, rfl⟩

theorem RecoverRun.truthful {result : RecoverRefundResult}
    (ran : RecoverRun params transcript (.ok result)) :
    ∃ before status, transcript = before ++ [read params (.ok (some status))] ∧
      phaseOrder params.targetPhase ≤ phaseOf (some status) ∧ result.finalStatus = status := by
  cases ran with
  | returned shows running walked =>
      obtain ⟨reached, before, last, split, final⟩ := walked.truthful shows
      obtain ⟨found, rfl⟩ := exists_of_phase reached
      rw [shown_some final] at split
      exact ⟨before, found, split, reached, rfl⟩

theorem CalledFor.append (first : CalledFor params front) (second : CalledFor params back) :
    CalledFor params (front ++ back) := by
  intro before exchange rest split mutates
  rcases List.append_eq_append_iff.mp split with ⟨between, rfl, within⟩ | ⟨between, rfl, within⟩
  · obtain ⟨earlier, answer, status, step, attempts, rfl, shows, next, calls, failed⟩ :=
      second between exchange rest within mutates
    exact ⟨front ++ earlier, answer, status, step, attempts, by simp, shows, next, calls, failed⟩
  · cases between with
    | nil =>
        obtain ⟨earlier, answer, status, step, attempts, none, _⟩ :=
          second [] exchange rest within.symm mutates
        simp at none
    | cons head tail =>
        obtain ⟨rfl, rfl⟩ := List.cons.inj within
        exact first before exchange tail rfl mutates

theorem calledFor_read (answer : Except Thrown (Option RefundStatus)) :
    CalledFor params [read params answer] := by
  intro before exchange rest split mutates
  cases before with
  | nil =>
      obtain ⟨rfl, _⟩ := List.cons.inj split
      cases mutates
  | cons head tail => simp at split

theorem attempts_of_quiet {answer : (step.op params).Answer} {quiet before rest : List Exchange}
    {exchange : Exchange} (silent : ∀ other ∈ quiet, other.question.mutates = false)
    (split : called params step answer :: quiet = before ++ exchange :: rest)
    (mutates : exchange.question.mutates = true) :
    exchange.question = step.op params ∧ Attempts params step before := by
  cases before with
  | nil =>
      obtain ⟨rfl, _⟩ := List.cons.inj split
      exact ⟨rfl, .none⟩
  | cons head middle =>
      obtain ⟨_, rfl⟩ := List.cons.inj split
      have still := silent exchange (by simp)
      exact absurd (still.symm.trans mutates) Bool.false_ne_true

/-- What comes before a call of a step are failed attempts of the step. -/
theorem StepRun.attempts {outcome : Except Failure (Option RefundStatus)}
    (ran : StepRun params step status left transcript outcome) {before rest : List Exchange}
    {exchange : Exchange} (split : transcript = before ++ exchange :: rest)
    (mutates : exchange.question.mutates = true) :
    exchange.question = step.op params ∧ Attempts params step before := by
  induction ran generalizing before with
  | succeeded => exact attempts_of_quiet (by simp) split mutates
  | unread => exact attempts_of_quiet (by simp) split mutates
  | landed => exact attempts_of_quiet (by simp) split mutates
  | aborted => exact attempts_of_quiet (by simp) split mutates
  | exhausted => exact attempts_of_quiet (by simp) split mutates
  | unslept => exact attempts_of_quiet (by simp) split mutates
  | again left attempt shows short retriable later inductionHypothesis =>
      rcases List.cons_eq_append_iff.mp split with ⟨rfl, here⟩ | ⟨first, rfl, reading⟩
      · obtain ⟨rfl, _⟩ := List.cons.inj here
        exact ⟨rfl, .none⟩
      rcases List.cons_eq_append_iff.mp reading with ⟨rfl, here⟩ | ⟨second, rfl, sleeping⟩
      · obtain ⟨rfl, _⟩ := List.cons.inj here
        cases mutates
      rcases List.cons_eq_append_iff.mp sleeping with ⟨rfl, here⟩ | ⟨third, rfl, retrying⟩
      · obtain ⟨rfl, _⟩ := List.cons.inj here
        cases mutates
      obtain ⟨calls, failed⟩ := inductionHypothesis retrying
      exact ⟨calls, .again _ _ attempt failed⟩

theorem StepRun.calledFor {outcome : Except Failure (Option RefundStatus)}
    (ran : StepRun params step status left transcript outcome) (shows : shown answer = .ok status)
    (next : nextStep status = some step) : CalledFor params (read params answer :: transcript) := by
  intro before exchange rest split mutates
  cases before with
  | nil =>
      obtain ⟨rfl, _⟩ := List.cons.inj split
      cases mutates
  | cons head attempts =>
      obtain ⟨rfl, within⟩ := List.cons.inj split
      obtain ⟨calls, failed⟩ := ran.attempts within mutates
      exact ⟨[], answer, status, step, attempts, rfl, shows, next, calls, failed⟩

theorem WalkRun.calledFor {outcome : Except Failure (Option RefundStatus × List RefundStep)}
    (ran : WalkRun params left status stepsApplied transcript outcome)
    (shows : shown answer = .ok status) : CalledFor params (read params answer :: transcript) := by
  induction ran generalizing answer with
  | complete => exact calledFor_read answer
  | notConverged => exact calledFor_read answer
  | entered => exact calledFor_read answer
  | failed left stepsApplied short next ran => exact ran.calledFor shows next
  | unread left stepsApplied short next ran unshown =>
      exact (ran.calledFor shows next).append (calledFor_read _)
  | round left stepsApplied short next ran found later inductionHypothesis =>
      exact (ran.calledFor shows next).append (inductionHypothesis found)

theorem RecoverRun.calledFor {outcome : Except Failure RecoverRefundResult}
    (ran : RecoverRun params transcript outcome) : CalledFor params transcript := by
  cases ran with
  | unread => exact calledFor_read _
  | stopped => exact calledFor_read _
  | failed shows runs walked => exact walked.calledFor shows
  | returned shows runs walked => exact walked.calledFor shows

theorem WalkRun.idle {outcome : Except Failure (Option RefundStatus × List RefundStep)}
    (ran : WalkRun params left status stepsApplied transcript outcome)
    (reached : phaseOrder params.targetPhase ≤ phaseOf status) :
    transcript = [] ∧ outcome = .ok (status, stepsApplied) := by
  cases ran with
  | complete => exact ⟨rfl, rfl⟩
  | entered left stepsApplied stopped =>
      have start := (phaseOrder_le params.targetPhase).1
      rw [phaseOf_of_stopped stopped] at reached
      omega
  | notConverged stepsApplied short => exact absurd reached (Int.not_le.mpr short)
  | failed left stepsApplied short => exact absurd reached (Int.not_le.mpr short)
  | unread left stepsApplied short => exact absurd reached (Int.not_le.mpr short)
  | round left stepsApplied short => exact absurd reached (Int.not_le.mpr short)

theorem RecoverRun.idle {outcome : Except Failure RecoverRefundResult} {rest : List Exchange}
    (ran : RecoverRun params (read params answer :: rest) outcome)
    (shows : shown answer = .ok status)
    (reached : phaseOrder params.targetPhase ≤ phaseOf status) :
    rest = [] ∧ outcome = .ok ⟨params.refundId, status.getD .pending, [], true⟩ := by
  cases ran with
  | unread unshown => cases shows.symm.trans unshown
  | stopped found stopped =>
      cases shows.symm.trans found
      have start := (phaseOrder_le params.targetPhase).1
      rw [phaseOf_of_stopped stopped] at reached
      omega
  | failed found runs walked =>
      cases shows.symm.trans found
      cases (walked.idle reached).2
  | returned found runs walked =>
      cases shows.symm.trans found
      obtain ⟨rfl, same⟩ := walked.idle reached
      cases same
      exact ⟨rfl, by rw [decide_eq_true reached]⟩

/-- Whatever the answers are, the client comes to an end, and what it did until then was
called for. -/
theorem recoverRefund_converges (params : RecoverRefundParams) :
    (∀ world, ∃ transcript outcome, Dialogue.Runs (recoverRefund params) transcript outcome ∧
        Dialogue.Answered world [] transcript) ∧
      ∀ transcript outcome, Dialogue.Runs (recoverRefund params) transcript outcome →
        Converges params transcript outcome := by
  apply And.intro (fun world => Dialogue.exists_run world _ [])
  intro transcript outcome runs
  have ran := runs_recoverRefund runs
  refine ⟨ran.bounded, ?_, ran.calledFor, ?_⟩
  · rintro result rfl
    exact ran.truthful
  · rintro answer status rest rfl shows reached
    exact ran.idle shows reached

end Runs

theorem recoverRefund_converges_sample :
    Converges Sample.params Sample.rejectedMeanwhile (.ok ⟨[1], .completed, [.approve], false⟩) :=
  (recoverRefund_converges Sample.params).2 _ _ Sample.rejectedMeanwhile_runs

end Recovery

end LumenFlow

import LumenFlow.Recovery.Runs

/-!
# Refunds that a human has stopped

After a read that shows a rejected or disputed refund the client is to make no call
and not to return.  The read between two attempts of a step is the one whose status
the client does not look at.
-/

namespace LumenFlow

open Kit

namespace Recovery

/-- The call changes the refund. -/
def RefundOp.mutates : RefundOp → Bool
  | .initiateRefund .. | .approveRefund .. | .executeRefund .. => true
  | .getRefund _ | .sleep _ => false

/-- A read that shows that a human has stopped the refund. -/
def StoppedRead (params : RecoverRefundParams) (exchange : Exchange) : Prop :=
  ∃ status, exchange = read params (.ok status) ∧ Stopped status

/-- After a read that shows a stopped refund there is no call that changes the refund, and
the client throws. -/
def Halts {Result : Type} (params : RecoverRefundParams) (transcript : List Exchange)
    (outcome : Except Failure Result) : Prop :=
  ∀ exchange rest, exchange :: rest <:+ transcript → StoppedRead params exchange →
    (∀ later ∈ rest, later.question.mutates = false) ∧ ∃ failure, outcome = .error failure

/-- A call has failed with an error after which it may be made again, the read after it shows
that a human has stopped the refund, and the client sleeps before the next attempt. -/
def RetriesStopped (params : RecoverRefundParams) (transcript : List Exchange) : Prop :=
  ∃ step err status attempt rest, Retriable params step err ∧ Stopped status ∧
    called params step (.error err) :: read params (.ok status) :: slept attempt (.ok ()) ::
      rest <:+ transcript

/-- After each sleep comes a call that changes the refund. -/
def Wakes (transcript : List Exchange) : Prop :=
  ∀ attempt rest, slept attempt (.ok ()) :: rest <:+ transcript →
    ∃ later ∈ rest, later.question.mutates = true

section Parts

variable {params : RecoverRefundParams} {step : RefundStep} {status : Option RefundStatus}
  {stepsApplied : List RefundStep} {front back transcript rest : List Exchange} {left : Nat}
  {exchange : Exchange} {Result Next : Type}

theorem cons_suffix_append (ends : exchange :: rest <:+ front ++ back) :
    exchange :: rest <:+ back ∨ ∃ middle, rest = middle ++ back ∧ exchange :: middle <:+ front := by
  obtain ⟨before, same⟩ := ends
  rcases List.append_eq_append_iff.mp same with ⟨between, rfl, split⟩ | ⟨between, rfl, rfl⟩
  · cases between with
    | nil => exact .inl ⟨[], split⟩
    | cons first middle =>
        obtain ⟨rfl, rfl⟩ := List.cons.inj split
        exact .inr ⟨middle, rfl, ⟨before, rfl⟩⟩
  · exact .inl ⟨between, rfl⟩

@[simp]
theorem mutates_called (answer : (step.op params).Answer) :
    (called params step answer).question.mutates = true := by
  cases step <;> rfl

@[simp]
theorem mutates_read (answer : Except Thrown (Option RefundStatus)) :
    (read params answer).question.mutates = false := rfl

@[simp]
theorem mutates_slept (attempt : Nat) (answer : Except Thrown Unit) :
    (slept attempt answer).question.mutates = false := rfl

theorem not_stoppedRead_of_mutates (mutates : exchange.question.mutates = true) :
    ¬ StoppedRead params exchange := by
  rintro ⟨status, rfl, _⟩
  cases mutates

theorem not_stoppedRead_slept {attempt : Nat} {answer : Except Thrown Unit} :
    ¬ StoppedRead params (slept attempt answer) := by
  rintro ⟨status, same, _⟩
  have questions := congrArg Dialogue.Exchange.question same
  cases questions

theorem stoppedRead_read {answer : Except Thrown (Option RefundStatus)} :
    StoppedRead params (read params answer) ↔ ∃ status, answer = .ok status ∧ Stopped status := by
  constructor
  · rintro ⟨status, same, stopped⟩
    cases same
    exact ⟨status, rfl, stopped⟩
  · rintro ⟨status, rfl, stopped⟩
    exact ⟨status, rfl, stopped⟩

theorem phaseOf_of_stopped (stopped : Stopped status) : phaseOf status = -1 := by
  rcases stopped with rfl | rfl <;> rfl

theorem nextStep_of_stopped (stopped : Stopped status) : nextStep status = none := by
  rcases stopped with rfl | rfl <;> rfl

theorem halts_nil (outcome : Except Failure Result) : Halts params [] outcome := by
  intro exchange rest ends
  simp at ends

theorem Halts.cons_of_not {outcome : Except Failure Result}
    (other : ¬ StoppedRead params exchange) (halts : Halts params transcript outcome) :
    Halts params (exchange :: transcript) outcome := by
  intro found rest ends stopped
  rcases List.suffix_cons_iff.mp ends with same | later
  · obtain ⟨rfl, _⟩ := List.cons.inj same
    exact absurd stopped other
  · exact halts found rest later stopped

theorem halts_single (exchange : Exchange) (failure : Failure) :
    Halts params [exchange] (.error failure : Except Failure Result) := by
  intro found rest ends _
  rcases List.suffix_cons_iff.mp ends with same | none
  · obtain ⟨rfl, rfl⟩ := List.cons.inj same
    exact ⟨by simp, failure, rfl⟩
  · simp at none

theorem Halts.cons_of_shown {answer : Except Thrown (Option RefundStatus)}
    {outcome : Except Failure Result} (halts : Halts params transcript outcome)
    (shows : shown answer = .ok status)
    (ends : Stopped status → transcript = [] ∧ ∃ failure, outcome = .error failure) :
    Halts params (read params answer :: transcript) outcome := by
  by_cases stoppedRead : StoppedRead params (read params answer)
  · obtain ⟨status, rfl, stopped⟩ := stoppedRead_read.mp stoppedRead
    cases shows
    obtain ⟨rfl, failure, rfl⟩ := ends stopped
    exact halts_single _ _
  · exact halts.cons_of_not stoppedRead

theorem Halts.append {result : Next} {outcome : Except Failure Result}
    (returns : Halts params front (.ok result : Except Failure Next))
    (halts : Halts params back outcome) : Halts params (front ++ back) outcome := by
  intro exchange rest ends stopped
  rcases cons_suffix_append ends with later | ⟨middle, rfl, earlier⟩
  · exact halts exchange rest later stopped
  · obtain ⟨_, failure, failed⟩ := returns exchange middle earlier stopped
    cases failed

theorem RetriesStopped.mono (retries : RetriesStopped params back)
    (ends : back <:+ transcript) : RetriesStopped params transcript := by
  obtain ⟨step, err, status, attempt, rest, retriable, stopped, found⟩ := retries
  exact ⟨step, err, status, attempt, rest, retriable, stopped, found.trans ends⟩

theorem RetriesStopped.append (retries : RetriesStopped params front) (back : List Exchange) :
    RetriesStopped params (front ++ back) := by
  obtain ⟨step, err, status, attempt, rest, retriable, stopped, found⟩ := retries
  exact ⟨step, err, status, attempt, rest ++ back, retriable, stopped,
    List.suffix_append_self_iff.mpr found⟩

theorem Halts.congr {outcome : Except Failure Result} {other : Except Failure Next}
    (halts : Halts params transcript outcome)
    (fails : (∃ failure, outcome = .error failure) → ∃ failure, other = .error failure) :
    Halts params transcript other := by
  intro exchange rest ends stopped
  obtain ⟨still, failed⟩ := halts exchange rest ends stopped
  exact ⟨still, fails failed⟩

theorem Wakes.append (first : Wakes front) (second : Wakes back) : Wakes (front ++ back) := by
  intro attempt rest ends
  rcases cons_suffix_append ends with later | ⟨middle, rfl, earlier⟩
  · exact second attempt rest later
  · obtain ⟨call, member, mutates⟩ := first attempt middle earlier
    exact ⟨call, List.mem_append_left back member, mutates⟩

theorem wakes_nil : Wakes [] := by
  intro attempt rest ends
  simp at ends

theorem Wakes.cons_of_ne (wakes : Wakes transcript)
    (other : ∀ attempt, exchange ≠ slept attempt (.ok ())) : Wakes (exchange :: transcript) := by
  intro attempt rest ends
  rcases List.suffix_cons_iff.mp ends with same | later
  · exact absurd (List.cons.inj same).1.symm (other attempt)
  · exact wakes attempt rest later

theorem read_ne_slept {answer : Except Thrown (Option RefundStatus)} {attempt : Nat}
    {value : Except Thrown Unit} : read params answer ≠ slept attempt value := by
  intro same
  cases congrArg Dialogue.Exchange.question same

theorem called_ne_slept {answer : (step.op params).Answer} {attempt : Nat}
    {value : Except Thrown Unit} : called params step answer ≠ slept attempt value := by
  intro same
  have mutates := mutates_called answer
  rw [same] at mutates
  cases mutates

end Parts

section Runs

variable {params : RecoverRefundParams} {step : RefundStep} {status : Option RefundStatus}
  {stepsApplied : List RefundStep} {transcript : List Exchange} {left : Nat}

theorem StepRun.starts {outcome : Except Failure (Option RefundStatus)}
    (ran : StepRun params step status left transcript outcome) :
    ∃ answer rest, transcript = called params step answer :: rest := by
  cases ran <;> exact ⟨_, _, rfl⟩

/-- A run of a step looks at the status of each read, but for the one before a retry. -/
theorem StepRun.halts {outcome : Except Failure (Option RefundStatus)}
    (ran : StepRun params step status left transcript outcome)
    (looks : ¬ RetriesStopped params transcript) : Halts params transcript outcome := by
  have calls {answer : (step.op params).Answer} :
      ¬ StoppedRead params (called params step answer) :=
    not_stoppedRead_of_mutates (mutates_called answer)
  induction ran with
  | succeeded left value => exact (halts_nil _).cons_of_not calls
  | unread left err failed => exact (halts_single _ _).cons_of_not calls
  | landed left err shows reached =>
      refine ((halts_nil _).cons_of_not ?_).cons_of_not calls
      intro stoppedRead
      obtain ⟨status, rfl, stopped⟩ := stoppedRead_read.mp stoppedRead
      cases shows
      rw [phaseOf_of_stopped stopped] at reached
      have start := (phaseOrder_le step.phase).1
      omega
  | aborted left shows short final failure => exact (halts_single _ _).cons_of_not calls
  | exhausted shows short retriable => exact (halts_single _ _).cons_of_not calls
  | unslept left attempt shows short retriable broken =>
      apply Halts.cons_of_not calls
      intro found rest ends stopped
      refine ⟨?_, _, rfl⟩
      rcases List.suffix_cons_iff.mp ends with same | later
      · obtain ⟨rfl, rfl⟩ := List.cons.inj same
        simp
      · rcases List.suffix_cons_iff.mp later with same | none
        · obtain ⟨rfl, rfl⟩ := List.cons.inj same
          simp
        · simp at none
  | @again left attempt err answer observed shows short retriable rest outcome later
      inductionHypothesis =>
      have ends : rest <:+ called params step (.error err) :: read params answer ::
          slept attempt (.ok ()) :: rest := ⟨[_, _, _], rfl⟩
      have rests := inductionHypothesis fun retries => looks (retries.mono ends)
      refine ((rests.cons_of_not not_stoppedRead_slept).cons_of_not ?_).cons_of_not calls
      intro stoppedRead
      obtain ⟨status, rfl, stopped⟩ := stoppedRead_read.mp stoppedRead
      exact looks ⟨step, err, status, attempt, rest, retriable, stopped, List.suffix_refl _⟩

/-- The main loop makes no call for a stopped refund. -/
theorem WalkRun.of_stopped {outcome : Except Failure (Option RefundStatus × List RefundStep)}
    (ran : WalkRun params left status stepsApplied transcript outcome) (stopped : Stopped status) :
    transcript = [] ∧ ∃ failure, outcome = .error failure := by
  have none := nextStep_of_stopped stopped
  cases ran with
  | complete left stepsApplied reached =>
      have start := (phaseOrder_le params.targetPhase).1
      rw [phaseOf_of_stopped stopped] at reached
      omega
  | notConverged => exact ⟨rfl, _, rfl⟩
  | entered => exact ⟨rfl, _, rfl⟩
  | failed left stepsApplied short next => exact nomatch none.symm.trans next
  | unread left stepsApplied short next => exact nomatch none.symm.trans next
  | round left stepsApplied short next => exact nomatch none.symm.trans next

theorem WalkRun.halts {outcome : Except Failure (Option RefundStatus × List RefundStep)}
    (ran : WalkRun params left status stepsApplied transcript outcome)
    (looks : ¬ RetriesStopped params transcript) : Halts params transcript outcome := by
  induction ran with
  | complete => exact halts_nil _
  | notConverged => exact halts_nil _
  | entered => exact halts_nil _
  | failed left stepsApplied short next ran =>
      exact (ran.halts looks).congr fun _ => ⟨_, rfl⟩
  | unread left stepsApplied short next ran unshown =>
      have steps := ran.halts fun retries => looks (retries.append _)
      exact steps.append (halts_single _ _)
  | round left stepsApplied short next ran shows later inductionHypothesis =>
      have steps := ran.halts fun retries => looks (retries.append _)
      have rests := inductionHypothesis fun retries =>
        looks (retries.mono ((List.suffix_cons _ _).trans (List.suffix_append _ _)))
      exact steps.append (rests.cons_of_shown shows later.of_stopped)

theorem RecoverRun.halts {outcome : Except Failure RecoverRefundResult}
    (ran : RecoverRun params transcript outcome) (looks : ¬ RetriesStopped params transcript) :
    Halts params transcript outcome := by
  cases ran with
  | unread unshown => exact halts_single _ _
  | stopped shows stopped reason => exact halts_single _ _
  | failed shows runs walked =>
      have rests := walked.halts fun retries => looks (retries.mono (List.suffix_cons _ _))
      exact (rests.congr fun _ => ⟨_, rfl⟩).cons_of_shown shows fun stopped => absurd stopped runs
  | returned shows runs walked =>
      have rests := walked.halts fun retries => looks (retries.mono (List.suffix_cons _ _))
      refine (rests.congr ?_).cons_of_shown shows fun stopped => absurd stopped runs
      rintro ⟨failure, failed⟩
      cases failed

theorem StepRun.wakes {outcome : Except Failure (Option RefundStatus)}
    (ran : StepRun params step status left transcript outcome) : Wakes transcript := by
  have pair {answer : (step.op params).Answer} {shows : Except Thrown (Option RefundStatus)}
      {rest : List Exchange} (wakes : Wakes rest) :
      Wakes (called params step answer :: read params shows :: rest) :=
    (wakes.cons_of_ne fun _ => read_ne_slept).cons_of_ne fun _ => called_ne_slept
  induction ran with
  | succeeded left value => exact wakes_nil.cons_of_ne fun _ => called_ne_slept
  | unread => exact pair wakes_nil
  | landed => exact pair wakes_nil
  | aborted => exact pair wakes_nil
  | exhausted => exact pair wakes_nil
  | unslept left attempt shows short retriable broken =>
      apply pair
      apply wakes_nil.cons_of_ne
      intro other same
      cases same
  | again left attempt shows short retriable later inductionHypothesis =>
      apply pair
      obtain ⟨answer, rest, rfl⟩ := later.starts
      intro other ended ends
      rcases List.suffix_cons_iff.mp ends with same | within
      · obtain ⟨_, rfl⟩ := List.cons.inj same
        exact ⟨_, List.mem_cons_self, mutates_called answer⟩
      · exact inductionHypothesis other ended within

theorem WalkRun.wakes {outcome : Except Failure (Option RefundStatus × List RefundStep)}
    (ran : WalkRun params left status stepsApplied transcript outcome) : Wakes transcript := by
  induction ran with
  | complete => exact wakes_nil
  | notConverged => exact wakes_nil
  | entered => exact wakes_nil
  | failed left stepsApplied short next ran => exact ran.wakes
  | unread left stepsApplied short next ran unshown =>
      exact ran.wakes.append (wakes_nil.cons_of_ne fun _ => read_ne_slept)
  | round left stepsApplied short next ran shows later inductionHypothesis =>
      exact ran.wakes.append (inductionHypothesis.cons_of_ne fun _ => read_ne_slept)

theorem RecoverRun.wakes {outcome : Except Failure RecoverRefundResult}
    (ran : RecoverRun params transcript outcome) : Wakes transcript := by
  cases ran with
  | unread => exact wakes_nil.cons_of_ne fun _ => read_ne_slept
  | stopped => exact wakes_nil.cons_of_ne fun _ => read_ne_slept
  | failed shows runs walked => exact walked.wakes.cons_of_ne fun _ => read_ne_slept
  | returned shows runs walked => exact walked.wakes.cons_of_ne fun _ => read_ne_slept

/-- The client stops at a refund that a human has stopped, exactly if it does not find out by
the read between a failed call and a retry. -/
theorem recoverRefund_halts_iff (params : RecoverRefundParams) (transcript : List Exchange)
    (outcome : Except Failure RecoverRefundResult)
    (runs : Dialogue.Runs (recoverRefund params) transcript outcome) :
    Halts params transcript outcome ↔ ¬ RetriesStopped params transcript := by
  have ran := runs_recoverRefund runs
  constructor
  · rintro halts ⟨step, err, status, attempt, rest, _, stopped, found⟩
    have reading := (List.suffix_cons _ _).trans found
    have sleeping := (List.suffix_cons _ _).trans reading
    obtain ⟨call, member, mutates⟩ := ran.wakes attempt rest sleeping
    have still := (halts _ _ reading ⟨status, rfl, stopped⟩).1 call (List.mem_cons_of_mem _ member)
    exact Bool.false_ne_true (still.symm.trans mutates)
  · exact ran.halts

end Runs

namespace Sample

def params : RecoverRefundParams where
  refundId := [1]
  orderId := [2]
  amount := 500
  reason := [3]
  caller := [4]
  targetPhase := .executed
  maxRetriesPerStep := 3
  isTransient err := err = .other [5]

/-- The merchant rejects the refund while the client has an approval under way that fails
for the time being. -/
def rejectedMeanwhile : List Exchange := [
  read params (.ok (some .pending)),
  called params .approve (.error (.other [5])),
  read params (.ok (some .rejected)),
  slept 0 (.ok ()),
  called params .approve (.ok ()),
  read params (.ok (some .completed))]

theorem rejectedMeanwhile_runs : Dialogue.Runs (recoverRefund params) rejectedMeanwhile
    (.ok ⟨[1], .completed, [.approve], false⟩) := by
  repeat apply Dialogue.Runs.ask
  apply Dialogue.Runs.finish

end Sample

theorem recoverRefund_halts_iff_sample :
    Halts Sample.params Sample.rejectedMeanwhile
        (.ok ⟨[1], .completed, [.approve], false⟩ : Except Failure RecoverRefundResult) ↔
      ¬ RetriesStopped Sample.params Sample.rejectedMeanwhile :=
  recoverRefund_halts_iff Sample.params Sample.rejectedMeanwhile _ Sample.rejectedMeanwhile_runs

/-- The client has seen that the refund is rejected, approves it all the same, and returns. -/
theorem rejected_refund_driven :
    Dialogue.Runs (recoverRefund Sample.params) Sample.rejectedMeanwhile
        (.ok ⟨[1], .completed, [.approve], false⟩) ∧
      ¬ Halts Sample.params Sample.rejectedMeanwhile
        (.ok ⟨[1], .completed, [.approve], false⟩ : Except Failure RecoverRefundResult) := by
  apply And.intro Sample.rejectedMeanwhile_runs
  intro halts
  have reading : read Sample.params (.ok (some .rejected)) :: Sample.rejectedMeanwhile.drop 3 <:+
      Sample.rejectedMeanwhile := ⟨Sample.rejectedMeanwhile.take 2, rfl⟩
  obtain ⟨_, failure, failed⟩ := halts _ _ reading ⟨some .rejected, rfl, .inl rfl⟩
  cases failed

end Recovery

end LumenFlow

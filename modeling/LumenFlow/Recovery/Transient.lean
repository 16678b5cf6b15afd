import LumenFlow.Recovery.Stopping
import Mathlib.Logic.Relation

/-!
# Errors that pass

Nobody but the client touches the refund, a read that comes through shows what is on
the chain, and whatever fails does so with an error that counts as transient.  A call
that has failed may land later, or never.  A failed call is made again, but a failed
read is not.
-/

namespace LumenFlow

open Kit

namespace Recovery

/-- The status that the contract asks of a refund before the step. -/
def RefundStep.before : RefundStep → Option RefundStatus
  | .initiate => none
  | .approve => some .pending
  | .execute => some .approved

/-- The status that the contract gives the refund. -/
def RefundStep.after : RefundStep → Option RefundStatus
  | .initiate => some .pending
  | .approve => some .approved
  | .execute => some .completed

/-- The refund on the chain, and the steps of the calls that have failed, which may land yet. -/
structure Chain where
  status : Option RefundStatus
  lost : List RefundStep

namespace Chain

/-- A call lands although the client was told that it failed. -/
def Lands (chain next : Chain) : Prop :=
  ∃ step ∈ chain.lost, chain.status = step.before ∧ next = { chain with status := step.after }

/-- Some of the lost calls land. -/
def Settles : Chain → Chain → Prop :=
  Relation.ReflTransGen Lands

/-- Every lost call is one of a step up to this phase. -/
def LostUpTo (order : Int) (chain : Chain) : Prop :=
  ∀ step ∈ chain.lost, phaseOrder step.phase ≤ order

/-- The client is at the step, which may have been taken without its knowledge. -/
structure Trying (step : RefundStep) (chain : Chain) : Prop where
  status : chain.status = step.before ∨ chain.status = step.after
  lost : chain.LostUpTo (phaseOrder step.phase)

end Chain

section Environment

variable (params : RecoverRefundParams)

/-- The call of a step succeeds and has its effect, or it is lost. -/
def Takes (step : RefundStep) (chain : Chain) : Except Thrown Unit → Chain → Prop
  | .ok _, next => chain.status = step.before ∧ next = { chain with status := step.after }
  | .error err, next =>
      params.isTransient err = true ∧ next = { chain with lost := step :: chain.lost }

/-- What an exchange says of the chain and does to it.  An answer that there is no such refund
is a report like any other. -/
def Reacts (chain : Chain) : Exchange → Chain → Prop
  | ⟨.getRefund _, answer⟩, next =>
      next = chain ∧ (shown answer = .ok chain.status ∨
        ∃ err, shown answer = .error (.thrown err) ∧ params.isTransient err = true)
  | ⟨.initiateRefund .., answer⟩, next => Takes params .initiate chain answer next
  | ⟨.approveRefund .., answer⟩, next => Takes params .approve chain answer next
  | ⟨.executeRefund .., answer⟩, next => Takes params .execute chain answer next
  | ⟨.sleep _, answer⟩, next => next = chain ∧ answer = .ok ()

/-- The answers are those of a chain that only the client's calls change, and lost calls land
whenever they like. -/
def Honest : Chain → List Exchange → Chain → Prop
  | chain, [], final => chain.Settles final
  | chain, exchange :: rest, final =>
      ∃ now next, chain.Settles now ∧ Reacts params now exchange next ∧ Honest next rest final

/-- What an exchange throws. -/
def thrown? (exchange : Exchange) : Option Thrown :=
  match exchange.answer with
  | .ok _ => none
  | .error err => some err

/-- The step whose call it is. -/
def RefundOp.step? : RefundOp → Option RefundStep
  | .initiateRefund .. => some .initiate
  | .approveRefund .. => some .approve
  | .executeRefund .. => some .execute
  | .getRefund _ | .sleep _ => none

def failed (exchange : Exchange) : Bool := (thrown? exchange).isSome

/-- A failed call of the step. -/
def failedCall (step : RefundStep) (exchange : Exchange) : Bool :=
  decide (exchange.question.step? = some step) && failed exchange

/-- No step has more failed calls than it may be tried again.  Failed reads are not counted. -/
def FewFailures (transcript : List Exchange) : Prop :=
  ∀ step, transcript.countP (failedCall step) ≤ params.maxRetriesPerStep

/-- A call that needs the refund fails because there is none, and the read after it shows that
the call has not landed. -/
def Vanishes (transcript : List Exchange) : Prop :=
  ∃ step err answer status rest, step ≠ .initiate ∧ isRefundNotFound err = true ∧
    shown answer = .ok status ∧ phaseOf status < phaseOrder step.phase ∧
    called params step (.error err) :: read params answer :: rest <:+ transcript

/-- Every read comes through, and no call reports that the refund is gone. -/
structure Legible (transcript : List Exchange) : Prop where
  reads : ∀ answer, read params answer ∈ transcript → ∃ status, shown answer = .ok status
  present : ¬ Vanishes params transcript

end Environment

section Steps

variable {step other : RefundStep} {chain now next final : Chain}

theorem phaseOf_before (step : RefundStep) : phaseOf step.before = phaseOrder step.phase - 1 := by
  cases step <;> rfl

theorem phaseOf_after (step : RefundStep) : phaseOf step.after = phaseOrder step.phase := by
  cases step <;> rfl

theorem before_injective (same : step.before = other.before) : step = other := by
  cases step <;> cases other <;> first | rfl | cases same

theorem nextStep_eq_some {status : Option RefundStatus} (next : nextStep status = some step) :
    status = step.before := by
  rcases status with _ | status
  · cases next
    rfl
  · cases status <;> cases next <;> rfl

theorem not_stopped_after (step : RefundStep) : ¬ Stopped step.after := by
  cases step <;> decide

namespace Chain

/-- Lost calls of steps that have been taken do not land. -/
theorem Settles.eq_of_past (settles : chain.Settles final)
    (past : chain.LostUpTo (phaseOf chain.status)) : final = chain := by
  rcases settles.cases_head with same | ⟨now, ⟨step, member, before, _⟩, _⟩
  · exact same.symm
  · have taken := past step member
    rw [before, phaseOf_before] at taken
    omega

theorem trying_of_before (before : chain.status = step.before)
    (past : chain.LostUpTo (phaseOf chain.status)) : chain.Trying step := by
  refine ⟨.inl before, ?_⟩
  intro other member
  have order := past other member
  rw [before, phaseOf_before] at order
  omega

theorem Trying.past (trying : chain.Trying step) (taken : chain.status = step.after) :
    chain.LostUpTo (phaseOf chain.status) := by
  rw [taken, phaseOf_after]
  exact trying.lost

theorem Trying.settles (trying : chain.Trying step) (settles : chain.Settles final) :
    final.Trying step := by
  induction settles with
  | refl => exact trying
  | @tail now next settled lands inductionHypothesis =>
      obtain ⟨landed, member, before, rfl⟩ := lands
      refine ⟨.inr ?_, inductionHypothesis.lost⟩
      rcases inductionHypothesis.status with same | same
      · rw [before_injective (before.symm.trans same)]
      · have taken := inductionHypothesis.lost landed member
        have phases := congrArg phaseOf (before.symm.trans same)
        rw [phaseOf_before, phaseOf_after] at phases
        omega

end Chain

end Steps

section Exchanges

variable {params : RecoverRefundParams} {step other : RefundStep} {chain final : Chain}
  {front back transcript rest : List Exchange} {err thrown : Thrown} {exchange : Exchange}
  {answer : Except Thrown (Option RefundStatus)} {status observed : Option RefundStatus}

theorem reacts_called_ok {value : (step.op params).Value} {now next : Chain}
    (reacts : Reacts params now (called params step (.ok value)) next) :
    now.status = step.before ∧ next = { now with status := step.after } := by
  cases step <;> exact reacts

theorem reacts_called_error {now next : Chain}
    (reacts : Reacts params now (called params step (.error err)) next) :
    params.isTransient err = true ∧ next = { now with lost := step :: now.lost } := by
  cases step <;> exact reacts

theorem reacts_read {now next : Chain} (reacts : Reacts params now (read params answer) next)
    (shows : shown answer = .ok status) : next = now ∧ status = now.status := by
  rcases reacts with ⟨same, truth | ⟨err, failed, _⟩⟩
  · cases shows.symm.trans truth
    exact ⟨same, rfl⟩
  · cases shows.symm.trans failed

@[simp]
theorem step?_called (params : RecoverRefundParams) (step : RefundStep)
    (answer : (step.op params).Answer) :
    (called params step answer).question.step? = some step := by
  cases step <;> rfl

@[simp]
theorem thrown?_called_error (params : RecoverRefundParams) (step : RefundStep) (err : Thrown) :
    thrown? (called params step (.error err)) = some err := rfl

@[simp]
theorem thrown?_called_ok (params : RecoverRefundParams) (step : RefundStep)
    (value : (step.op params).Value) : thrown? (called params step (.ok value)) = none := rfl

theorem failedCall_called_error (params : RecoverRefundParams) (step : RefundStep)
    (err : Thrown) : failedCall step (called params step (.error err)) = true := by
  simp [failedCall, failed]

theorem called_error_inj
    (same : called params step (.error err) = called params other (.error thrown)) :
    step = other ∧ err = thrown := by
  have steps := congrArg (fun exchange => exchange.question.step?) same
  have errors := congrArg thrown? same
  simp only [step?_called, Option.some.injEq] at steps
  exact ⟨steps, Option.some.inj errors⟩

theorem called_ne_read {call : (step.op params).Answer} :
    called params step call ≠ read params answer := by
  intro same
  have mutates := mutates_called call
  rw [same] at mutates
  cases mutates

theorem called_ne_called {value : (step.op params).Value} :
    called params step (.ok value) ≠ called params other (.error thrown) := by
  intro same
  cases congrArg thrown? same

theorem Honest.of_append (honest : Honest params chain (front ++ back) final) :
    ∃ middle, Honest params chain front middle ∧ Honest params middle back final := by
  induction front generalizing chain with
  | nil => exact ⟨chain, .refl, honest⟩
  | cons exchange rest inductionHypothesis =>
      obtain ⟨now, next, settles, reacts, rests⟩ := honest
      obtain ⟨middle, first, second⟩ := inductionHypothesis rests
      exact ⟨middle, ⟨now, next, settles, reacts, first⟩, second⟩

theorem Honest.transient (honest : Honest params chain transcript final)
    (member : called params step (.error err) ∈ transcript) : params.isTransient err = true := by
  induction transcript generalizing chain with
  | nil => cases member
  | cons exchange rest inductionHypothesis =>
      obtain ⟨now, next, _, reacts, rests⟩ := honest
      rcases List.mem_cons.mp member with rfl | later
      · exact (reacts_called_error reacts).1
      · exact inductionHypothesis rests later

theorem Honest.read_cons (honest : Honest params chain (read params answer :: rest) final)
    (past : chain.LostUpTo (phaseOf chain.status)) (shows : shown answer = .ok status) :
    status = chain.status ∧ Honest params chain rest final := by
  obtain ⟨now, next, settles, reacts, rests⟩ := honest
  obtain rfl := settles.eq_of_past past
  obtain ⟨rfl, rfl⟩ := reacts_read reacts shows
  exact ⟨rfl, rests⟩

theorem Honest.attempt
    (honest : Honest params chain
      (called params step (.error err) :: read params answer :: rest) final)
    (trying : chain.Trying step) (shows : shown answer = .ok observed) :
    params.isTransient err = true ∧
      ∃ now, now.Trying step ∧ now.status = observed ∧ Honest params now rest final := by
  obtain ⟨before, lost, settles, calls, middle, next, drifts, reads, rests⟩ := honest
  obtain ⟨transient, rfl⟩ := reacts_called_error calls
  have tried := trying.settles settles
  have losing : Chain.Trying step { before with lost := step :: before.lost } := by
    refine ⟨tried.status, ?_⟩
    intro other member
    rcases List.mem_cons.mp member with rfl | earlier
    · exact Int.le_refl _
    · exact tried.lost other earlier
  obtain ⟨rfl, rfl⟩ := reacts_read reads shows
  exact ⟨transient, next, losing.settles drifts, rfl, rests⟩

theorem Chain.Trying.taken (trying : chain.Trying step)
    (reached : phaseOrder step.phase ≤ phaseOf chain.status) : chain.status = step.after := by
  rcases trying.status with before | after
  · rw [before, phaseOf_before] at reached
    omega
  · exact after

end Exchanges

section Legible

variable {params : RecoverRefundParams} {step : RefundStep} {front back transcript rest :
  List Exchange} {err : Thrown} {exchange : Exchange}
  {answer : Except Thrown (Option RefundStatus)} {observed : Option RefundStatus}

theorem Legible.mono (legible : Legible params transcript) (ends : back <:+ transcript) :
    Legible params back := by
  refine ⟨fun answer member => legible.reads answer (ends.mem member), ?_⟩
  rintro ⟨step, err, answer, status, rest, needs, missing, shows, short, found⟩
  exact legible.present
    ⟨step, err, answer, status, rest, needs, missing, shows, short, found.trans ends⟩

theorem Legible.of_append (legible : Legible params (front ++ back)) : Legible params front := by
  refine ⟨fun answer member => legible.reads answer (List.mem_append_left back member), ?_⟩
  rintro ⟨step, err, answer, status, rest, needs, missing, shows, short, found⟩
  exact legible.present ⟨step, err, answer, status, rest ++ back, needs, missing, shows, short,
    List.suffix_append_self_iff.mpr found⟩

theorem legible_nil : Legible params [] := by
  refine ⟨fun answer member => (List.not_mem_nil member).elim, ?_⟩
  rintro ⟨step, err, answer, status, rest, _, _, _, _, found⟩
  simp at found

theorem Legible.cons (legible : Legible params rest)
    (reads : ∀ answer, exchange = read params answer → ∃ status, shown answer = .ok status)
    (present : ∀ step err, exchange = called params step (.error err) →
      ¬ Vanishes params (exchange :: rest)) :
    Legible params (exchange :: rest) := by
  constructor
  · intro answer member
    rcases List.mem_cons.mp member with same | later
    · exact reads answer same.symm
    · exact legible.reads answer later
  · intro vanishes
    have vanished := vanishes
    obtain ⟨step, err, answer, status, after, needs, missing, shows, short, found⟩ := vanishes
    rcases List.suffix_cons_iff.mp found with same | later
    · exact present step err (List.cons.inj same).1.symm vanished
    · exact legible.present ⟨step, err, answer, status, after, needs, missing, shows, short, later⟩

theorem Legible.cons_read (legible : Legible params rest) (shows : shown answer = .ok observed) :
    Legible params (read params answer :: rest) := by
  apply legible.cons
  · intro other same
    cases same
    exact ⟨observed, shows⟩
  · intro step err same
    exact absurd same.symm called_ne_read

theorem Legible.cons_slept (legible : Legible params rest) (attempt : Nat)
    (answer : Except Thrown Unit) : Legible params (slept attempt answer :: rest) := by
  apply legible.cons
  · intro other same
    exact absurd same.symm read_ne_slept
  · intro step err same
    exact absurd same.symm called_ne_slept

theorem Legible.cons_called {value : (step.op params).Value} (legible : Legible params rest) :
    Legible params (called params step (.ok value) :: rest) := by
  apply legible.cons
  · intro other same
    exact absurd same called_ne_read
  · intro other err same
    exact absurd same called_ne_called

theorem Legible.cons_failed (legible : Legible params (read params answer :: rest))
    (shows : shown answer = .ok observed)
    (harmless : phaseOf observed < phaseOrder step.phase → Retriable params step err) :
    Legible params (called params step (.error err) :: read params answer :: rest) := by
  apply legible.cons
  · intro other same
    exact absurd same called_ne_read
  · rintro _ _ _ ⟨other, thrown, second, status, after, needs, missing, seen, short, found⟩
    rcases List.suffix_cons_iff.mp found with same | later
    · obtain ⟨call, reads⟩ := List.cons.inj same
      obtain ⟨rfl, rfl⟩ := called_error_inj call
      cases (List.cons.inj reads).1
      cases shows.symm.trans seen
      exact (harmless short).1 ⟨missing, needs⟩
    · exact legible.present
        ⟨other, thrown, second, status, after, needs, missing, seen, short, later⟩

end Legible

section Runs

variable {params : RecoverRefundParams} {step : RefundStep} {start status : Option RefundStatus}
  {stepsApplied : List RefundStep} {transcript rest : List Exchange} {left : Nat}
  {chain final : Chain}

theorem StepRun.legible {outcome : Except Failure (Option RefundStatus)}
    (ran : StepRun params step status left transcript outcome)
    (confirmed : ∃ observed, outcome = .ok observed) (legible : Legible params rest) :
    Legible params (transcript ++ rest) := by
  obtain ⟨observed, rfl⟩ := confirmed
  generalize ended : Except.ok observed = outcome at ran
  induction ran with
  | succeeded left value => exact legible.cons_called
  | unread left err failed => cases ended
  | landed left err shows reached =>
      apply (legible.cons_read shows).cons_failed shows
      intro short
      exact absurd reached (Int.not_le.mpr short)
  | aborted left shows short final failure => cases ended
  | exhausted shows short retriable => cases ended
  | unslept left attempt shows short retriable broken => cases ended
  | again left attempt shows short retriable later inductionHypothesis =>
      have rests := (inductionHypothesis ended).cons_slept attempt (.ok ())
      exact (rests.cons_read shows).cons_failed shows fun _ => retriable

theorem WalkRun.legible {outcome : Except Failure (Option RefundStatus × List RefundStep)}
    (ran : WalkRun params left status stepsApplied transcript outcome)
    (returns : ∃ result, outcome = .ok result) : Legible params transcript := by
  obtain ⟨result, rfl⟩ := returns
  generalize ended : Except.ok result = outcome at ran
  induction ran with
  | complete => exact legible_nil
  | notConverged => cases ended
  | entered => cases ended
  | failed => cases ended
  | unread => cases ended
  | round left stepsApplied short next ran shows later inductionHypothesis =>
      exact ran.legible ⟨_, rfl⟩ ((inductionHypothesis ended).cons_read shows)

/-- A step with enough retries is taken, and the client knows it. -/
theorem StepRun.survives {outcome : Except Failure (Option RefundStatus)}
    (ran : StepRun params step status left transcript outcome)
    (honest : Honest params chain transcript final) (trying : chain.Trying step)
    (legible : Legible params transcript)
    (few : transcript.countP (failedCall step) ≤ left) :
    (∃ observed, outcome = .ok observed) ∧ final.Trying step ∧ final.status = step.after := by
  induction ran generalizing chain with
  | succeeded left value =>
      obtain ⟨now, next, settles, calls, ends⟩ := honest
      obtain ⟨_, rfl⟩ := reacts_called_ok calls
      have taken : Chain.Trying step { now with status := step.after } :=
        ⟨.inr rfl, (trying.settles settles).lost⟩
      obtain rfl := Chain.Settles.eq_of_past ends (taken.past rfl)
      exact ⟨⟨status, rfl⟩, taken, rfl⟩
  | unread left err failed =>
      obtain ⟨observed, shows⟩ := legible.reads _ (List.mem_cons_of_mem _ List.mem_cons_self)
      cases shows.symm.trans failed
  | @landed left err answer observed shows reached =>
      obtain ⟨_, now, tried, rfl, ends⟩ := honest.attempt trying shows
      have taken := tried.taken reached
      obtain rfl := Chain.Settles.eq_of_past ends (tried.past taken)
      exact ⟨⟨_, rfl⟩, tried, taken⟩
  | @aborted left err answer observed shows short final failure =>
      obtain ⟨transient, _⟩ := honest.attempt trying shows
      -- of the transient errors only one that says that there is no refund ends the step
      obtain ⟨missing, needs⟩ := not_not.mp fun retriable => final ⟨retriable, transient⟩
      exact (legible.present ⟨step, err, answer, observed, [], needs, missing, shows, short,
        List.suffix_refl _⟩).elim
  | exhausted shows short retriable =>
      simp [failedCall_called_error] at few
  | unslept left attempt shows short retriable broken =>
      obtain ⟨_, now, _, _, later, next, _, ⟨_, wakes⟩, _⟩ := honest.attempt trying shows
      cases wakes
  | again left attempt shows short retriable later inductionHypothesis =>
      obtain ⟨_, now, tried, _, woken, next, settles, ⟨rfl, _⟩, rests⟩ :=
        honest.attempt trying shows
      apply inductionHypothesis rests (tried.settles settles)
      · exact legible.mono ⟨[_, _, _], rfl⟩
      · simp only [List.countP_cons, failedCall_called_error, if_true] at few
        omega

/-- The main loop takes a step each round, up to the target. -/
theorem WalkRun.survives {outcome : Except Failure (Option RefundStatus × List RefundStep)}
    (ran : WalkRun params left status stepsApplied transcript outcome)
    (honest : Honest params chain transcript final) (agrees : status = chain.status)
    (past : chain.LostUpTo (phaseOf chain.status)) (running : ¬ Stopped status)
    (legible : Legible params transcript) (few : FewFailures params transcript)
    (rounds : 2 - phaseOf status ≤ left) :
    (∃ result, outcome = .ok result) ∧ phaseOrder params.targetPhase ≤ phaseOf final.status := by
  have last := (phaseOrder_le params.targetPhase).2
  induction ran generalizing chain with
  | complete left stepsApplied reached =>
      obtain rfl := Chain.Settles.eq_of_past honest past
      subst agrees
      exact ⟨⟨_, rfl⟩, reached⟩
  | notConverged stepsApplied short => omega
  | entered left stepsApplied stopped => exact absurd stopped running
  | @failed left status stepsApplied step short next transcript failure ran =>
      have trying := Chain.trying_of_before (agrees.symm.trans (nextStep_eq_some next)) past
      obtain ⟨⟨_, ends⟩, _⟩ := ran.survives honest trying legible (few step)
      cases ends
  | unread left stepsApplied short next ran unshown =>
      obtain ⟨observed, shows⟩ := legible.reads _
        (List.mem_append_right _ List.mem_cons_self)
      cases shows.symm.trans unshown
  | @round left status stepsApplied step short next transcript assigned ran answer found shows
      rest outcome later inductionHypothesis =>
      have before := nextStep_eq_some next
      have trying := Chain.trying_of_before (agrees.symm.trans before) past
      obtain ⟨middle, first, second⟩ := honest.of_append
      have failures (other : RefundStep) :
          transcript.countP (failedCall other) ≤ params.maxRetriesPerStep ∧
            rest.countP (failedCall other) ≤ params.maxRetriesPerStep := by
        have total := few other
        rw [List.countP_append, List.countP_cons] at total
        omega
      obtain ⟨_, tried, taken⟩ := ran.survives first trying legible.of_append (failures step).1
      obtain ⟨rfl, rests⟩ := second.read_cons (tried.past taken) shows
      have ends : rest <:+ transcript ++ read params answer :: rest :=
        (List.suffix_cons _ _).trans (List.suffix_append _ _)
      apply inductionHypothesis rests rfl (tried.past taken)
      · rw [taken]
        exact not_stopped_after step
      · exact legible.mono ends
      · exact fun other => (failures other).2
      · rw [before, phaseOf_before] at rounds
        rw [taken, phaseOf_after]
        omega

theorem RecoverRun.legible {outcome : Except Failure RecoverRefundResult}
    (ran : RecoverRun params transcript outcome) (returns : ∃ result, outcome = .ok result) :
    Legible params transcript ∧ ∃ answer status rest, transcript = read params answer :: rest ∧
      shown answer = .ok status ∧ ¬ Stopped status := by
  obtain ⟨result, rfl⟩ := returns
  cases ran with
  | returned shows running walked =>
      exact ⟨(walked.legible ⟨_, rfl⟩).cons_read shows, _, _, _, rfl, shows, running⟩

theorem phaseOf_ge (status : Option RefundStatus) : -1 ≤ phaseOf status := by
  rcases status with _ | status
  · decide
  · cases status <;> decide

theorem past_of_none_lost (status : Option RefundStatus) :
    (⟨status, []⟩ : Chain).LostUpTo (phaseOf status) := by
  intro step member
  cases member

/-- The main loop after the first read has rounds enough. -/
theorem WalkRun.survives_first {outcome : Except Failure (Option RefundStatus × List RefundStep)}
    {answer : Except Thrown (Option RefundStatus)}
    (ran : WalkRun params maxRounds status [] rest outcome) (shows : shown answer = .ok status)
    (honest : Honest params ⟨start, []⟩ (read params answer :: rest) final)
    (running : ¬ Stopped start) (legible : Legible params (read params answer :: rest))
    (few : FewFailures params (read params answer :: rest)) :
    (∃ result, outcome = .ok result) ∧ phaseOrder params.targetPhase ≤ phaseOf final.status := by
  obtain ⟨rfl, rests⟩ := honest.read_cons (past_of_none_lost start) shows
  apply ran.survives rests rfl (past_of_none_lost _) running
  · exact legible.mono (List.suffix_cons _ _)
  · intro step
    exact (List.suffix_cons _ _).sublist.countP_le.trans (few step)
  · have bound := phaseOf_ge status
    have rounds : maxRounds = 5 := rfl
    omega

theorem RecoverRun.survives {outcome : Except Failure RecoverRefundResult}
    (ran : RecoverRun params transcript outcome)
    (honest : Honest params ⟨start, []⟩ transcript final) (running : ¬ Stopped start)
    (legible : Legible params transcript) (few : FewFailures params transcript) :
    (∃ result, outcome = .ok result) ∧ phaseOrder params.targetPhase ≤ phaseOf final.status := by
  cases ran with
  | unread unshown =>
      obtain ⟨observed, shows⟩ := legible.reads _ List.mem_cons_self
      cases shows.symm.trans unshown
  | stopped shows stopped reason =>
      obtain ⟨rfl, _⟩ := honest.read_cons (past_of_none_lost start) shows
      exact absurd stopped running
  | failed shows _ walked =>
      obtain ⟨⟨_, ends⟩, _⟩ := walked.survives_first shows honest running legible few
      cases ends
  | returned shows _ walked =>
      exact ⟨⟨_, rfl⟩, (walked.survives_first shows honest running legible few).2⟩

/-- With errors that pass, the client takes the refund to its target and returns, exactly if
nobody has stopped the refund, every read comes through, and no call reports that the refund
is gone. -/
theorem recoverRefund_survives_iff (params : RecoverRefundParams) (start : Option RefundStatus)
    (transcript : List Exchange) (outcome : Except Failure RecoverRefundResult) (final : Chain)
    (runs : Dialogue.Runs (recoverRefund params) transcript outcome)
    (honest : Honest params ⟨start, []⟩ transcript final) (few : FewFailures params transcript) :
    ((∃ result, outcome = .ok result) ∧
        phaseOrder params.targetPhase ≤ phaseOf final.status) ↔
      ¬ Stopped start ∧ Legible params transcript := by
  have ran := runs_recoverRefund runs
  constructor
  · rintro ⟨returns, _⟩
    obtain ⟨legible, answer, status, rest, rfl, shows, running⟩ := ran.legible returns
    obtain ⟨rfl, _⟩ := honest.read_cons (past_of_none_lost start) shows
    exact ⟨running, legible⟩
  · rintro ⟨running, legible⟩
    exact ran.survives honest running legible few

end Runs

namespace Sample

/-- The first approval lands after its retry has failed as well. -/
def landedLate : List Exchange := [
  read params (.ok (some .pending)),
  called params .approve (.error (.other [5])),
  read params (.ok (some .pending)),
  slept 0 (.ok ()),
  called params .approve (.error (.other [5])),
  read params (.ok (some .approved)),
  read params (.ok (some .approved)),
  called params .execute (.ok ()),
  read params (.ok (some .completed))]

/-- The read that is to tell whether the execution has landed fails like the execution. -/
def unreadExecution : List Exchange := [
  read params (.ok (some .approved)),
  called params .execute (.error (.other [5])),
  read params (.error (.other [5]))]

theorem landedLate_runs : Dialogue.Runs (recoverRefund params) landedLate
    (.ok ⟨[1], .completed, [.approve, .execute], false⟩) := by
  repeat apply Dialogue.Runs.ask
  apply Dialogue.Runs.finish

theorem unreadExecution_runs : Dialogue.Runs (recoverRefund params) unreadExecution
    (.error (.thrown (.other [5]))) := by
  repeat apply Dialogue.Runs.ask
  apply Dialogue.Runs.finish

theorem landedLate_honest : Honest params ⟨some .pending, []⟩ landedLate
    ⟨some .completed, [.approve, .approve]⟩ := by
  have lands : Chain.Settles ⟨some .pending, [.approve, .approve]⟩
      ⟨some .approved, [.approve, .approve]⟩ :=
    .single ⟨.approve, List.mem_cons_self, rfl, rfl⟩
  refine ⟨_, _, .refl, ⟨rfl, .inl rfl⟩, ?_⟩
  refine ⟨_, _, .refl, ⟨rfl, rfl⟩, ?_⟩
  refine ⟨_, _, .refl, ⟨rfl, .inl rfl⟩, ?_⟩
  refine ⟨_, _, .refl, ⟨rfl, rfl⟩, ?_⟩
  refine ⟨_, _, .refl, ⟨rfl, rfl⟩, ?_⟩
  refine ⟨_, _, lands, ⟨rfl, .inl rfl⟩, ?_⟩
  refine ⟨_, _, .refl, ⟨rfl, .inl rfl⟩, ?_⟩
  refine ⟨_, _, .refl, ⟨rfl, rfl⟩, ?_⟩
  refine ⟨_, _, .refl, ⟨rfl, .inl rfl⟩, ?_⟩
  exact .refl

theorem unreadExecution_honest : Honest params ⟨some .approved, []⟩ unreadExecution
    ⟨some .approved, [.execute]⟩ := by
  refine ⟨_, _, .refl, ⟨rfl, .inl rfl⟩, ?_⟩
  refine ⟨_, _, .refl, ⟨rfl, rfl⟩, ?_⟩
  refine ⟨_, _, .refl, ⟨rfl, .inr ⟨.other [5], rfl, rfl⟩⟩, ?_⟩
  exact .refl

theorem landedLate_few : FewFailures params landedLate := by
  intro step
  cases step <;> decide

end Sample

theorem recoverRefund_survives_late_landing :
    ((∃ result, (.ok ⟨[1], .completed, [.approve, .execute], false⟩ :
          Except Failure RecoverRefundResult) = .ok result) ∧
        phaseOrder Sample.params.targetPhase ≤ phaseOf (some .completed)) ↔
      ¬ Stopped (some .pending) ∧ Legible Sample.params Sample.landedLate :=
  recoverRefund_survives_iff Sample.params (some .pending) Sample.landedLate _
    ⟨some .completed, [.approve, .approve]⟩ Sample.landedLate_runs Sample.landedLate_honest
    Sample.landedLate_few

/-- Two errors that pass, and the client throws with the refund where it was. -/
theorem failed_read_ends_recovery :
    Dialogue.Runs (recoverRefund Sample.params) Sample.unreadExecution
        (.error (.thrown (.other [5]))) ∧
      Honest Sample.params ⟨some .approved, []⟩ Sample.unreadExecution
        ⟨some .approved, [.execute]⟩ ∧
      Sample.unreadExecution.countP failed = 2 ∧ 2 ≤ Sample.params.maxRetriesPerStep ∧
      phaseOf (some .approved) < phaseOrder Sample.params.targetPhase :=
  ⟨Sample.unreadExecution_runs, Sample.unreadExecution_honest, rfl, (by decide), (by decide)⟩

end Recovery

end LumenFlow

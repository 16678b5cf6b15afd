import LumenFlow.Effect.Accepted
import LumenFlow.Effect.Disputes
import LumenFlow.Safety.Lockout

/-!
# The life of a dispute

A dispute only moves forward, from open over under review and escalated to resolved, and it is
decided for the payer exactly when its refund is paid out.  It can be resolved for the payer as
long as its refund and the payment are stored.
-/

namespace LumenFlow

open Kit Contract

/-- The later record is about the same subject and is the record itself or further on. -/
structure DisputeRecord.Follows (later dispute : DisputeRecord) : Prop where
  subject : later.SameSubject dispute
  initiator : later.initiator = dispute.initiator
  further : later = dispute ∨ dispute.status.rank < later.status.rank

instance : IsPreorder DisputeRecord DisputeRecord.Follows where
  refl dispute := ⟨⟨rfl, rfl, rfl⟩, rfl, .inl rfl⟩
  trans later middle dispute last first := by
    refine ⟨⟨last.subject.disputeId.trans first.subject.disputeId,
      last.subject.refundId.trans first.subject.refundId,
      last.subject.orderId.trans first.subject.orderId⟩,
      last.initiator.trans first.initiator, ?_⟩
    rcases last.further with rfl | ahead
    · exact first.further
    · rcases first.further with rfl | behind
      · exact .inr ahead
      · exact .inr (behind.trans ahead)

/-- The disputes that have an outcome are the resolved ones. -/
def World.DisputesDecided (world : World) : Prop :=
  world.disputes.All fun dispute => dispute.outcome.isSome ↔ dispute.status = .resolved

/-- Every stored dispute is kept, as it is or further on. -/
def DisputesAdvance (world next : World) : Prop :=
  ∀ id dispute, world.disputes.get id = some dispute →
    ∃ later, next.disputes.get id = some later ∧ later.Follows dispute

instance : IsPreorder World DisputesAdvance where
  refl _ id dispute stored := ⟨dispute, stored, refl_of DisputeRecord.Follows dispute⟩
  trans _ _ _ head tail id dispute stored := by
    obtain ⟨middle, found, first⟩ := head id dispute stored
    obtain ⟨later, last, second⟩ := tail id middle found
    exact ⟨later, last, trans_of DisputeRecord.Follows second first⟩

/-- A dispute that gets resolved is decided for the payer exactly if its refund is paid out in
the same step. -/
def DisputesPaid (host : Host) (world : World) (action : Action) : Prop :=
  ∀ id later, (step host world action).disputes.get id = some later → later.status = .resolved →
    (∀ dispute, world.disputes.get id = some dispute → dispute.status ≠ .resolved) →
      (later.outcome = some .payerFavor ↔ PaidOut later.refundId world (step host world action))

structure DisputesProceed (host : Host) (start : World) (actions : List Action) : Prop where
  advance : ∀ before during after, actions = before ++ (during ++ after) →
    DisputesAdvance (run (step host) start before) (run (step host) start (before ++ during))
  decided : Throughout (step host) World.DisputesDecided start actions
  paid : Along (step host) (DisputesPaid host) start actions

section Moves

variable {world next : World} {call : Call}

theorem disputesAdvance_put {dispute : DisputeRecord} {disputes : Table DisputeRecord.disputeId}
    (written : disputes = world.disputes.put dispute)
    (follows : ∀ old, world.disputes.get dispute.disputeId = some old → dispute.Follows old) :
    ∀ id old, world.disputes.get id = some old →
      ∃ later, disputes.get id = some later ∧ later.Follows old := by
  subst written
  intro id old stored
  by_cases same : id = dispute.disputeId
  · subst same
    exact ⟨dispute, Table.get_put_self _ dispute, follows old stored⟩
  · exact ⟨old, (Table.get_put_of_ne same).trans stored, refl_of DisputeRecord.Follows old⟩

theorem DisputeMove.advance (move : DisputeMove world next call) :
    DisputesAdvance world next := by
  cases move with
  | kept _ same =>
      intro id dispute stored
      exact ⟨dispute, same ▸ stored, refl_of DisputeRecord.Follows dispute⟩
  | raised _ _ dispute _ _ free _ _ _ _ _ written =>
      apply disputesAdvance_put (congrArg World.disputes written)
      intro old stored
      cases free.symm.trans stored
  | initiated _ _ _ dispute free _ _ _ written =>
      apply disputesAdvance_put (congrArg World.disputes written)
      intro old stored
      cases free.symm.trans stored
  | advanced _ dispute later stored subject initiator _ _ further written =>
      apply disputesAdvance_put written
      intro old found
      rw [subject.disputeId, stored] at found
      obtain rfl := Option.some.inj found
      exact ⟨subject, initiator, .inr further⟩
  | resolved _ resolution force dispute stored unresolved written =>
      apply disputesAdvance_put written
      intro old found
      obtain rfl := Option.some.inj (stored.symm.trans found)
      exact ⟨⟨rfl, rfl, rfl⟩, rfl, .inr (DisputeStatus.rank_lt_resolved unresolved)⟩

theorem DisputeMove.all {property : DisputeRecord → Prop} (move : DisputeMove world next call)
    (before : world.disputes.All property)
    (opened : ∀ dispute : DisputeRecord, ValidId dispute.disputeId → dispute.status = .open →
      dispute.outcome = none → property dispute)
    (advanced : ∀ dispute later : DisputeRecord, property dispute → later.SameSubject dispute →
      later.outcome = dispute.outcome → dispute.status ≠ .resolved → later.status ≠ .resolved →
      property later)
    (resolved : ∀ (dispute : DisputeRecord) resolution force, property dispute →
      property (dispute.resolvedWith resolution force)) :
    next.disputes.All property := by
  cases move with
  | kept _ same => rwa [same]
  | raised _ _ dispute _ _ _ valid isOpen undecided _ _ written =>
      rw [written]
      exact before.put (opened dispute valid isOpen undecided)
  | initiated _ _ _ dispute _ valid isOpen undecided written =>
      rw [written]
      exact before.put (opened dispute valid isOpen undecided)
  | advanced _ dispute later stored subject _ outcome unresolved further written =>
      rw [written]
      refine before.put (advanced dispute later (before _ _ stored) subject outcome ?_ unresolved)
      intro resolved
      rw [resolved] at further
      exact absurd later.status.rank_le_resolved (not_le.mpr further)
  | resolved _ resolution force dispute stored _ written =>
      rw [written]
      exact before.put (resolved dispute resolution force (before _ _ stored))

theorem DisputeMove.decided (move : DisputeMove world next call)
    (decided : world.DisputesDecided) : next.DisputesDecided := by
  refine move.all decided ?_ ?_ ?_
  · intro dispute _ isOpen undecided
    simp [isOpen, undecided]
  · intro dispute later before _ outcome unresolved unfinished
    rw [outcome, before]
    exact iff_of_false unresolved unfinished
  · intro dispute resolution force _
    simp

theorem DisputeMove.paid (move : DisputeMove world next call) {id : Text} {later : DisputeRecord}
    (stored : next.disputes.get id = some later) (finished : later.status = .resolved)
    (unresolved : ∀ dispute, world.disputes.get id = some dispute → dispute.status ≠ .resolved) :
    later.outcome = some .payerFavor ↔ PaidOut later.refundId world next := by
  have fresh (dispute : DisputeRecord) (unfinished : dispute.status ≠ .resolved)
      (found : (world.disputes.put dispute).get id = some later) : False := by
    rcases Table.get_put_cases found with ⟨_, rfl⟩ | before
    · exact unfinished finished
    · exact unresolved later before finished
  cases move with
  | kept _ same =>
      rw [same] at stored
      exact absurd finished (unresolved later stored)
  | raised _ _ dispute _ _ _ _ isOpen _ _ _ written =>
      rw [written] at stored
      exact (fresh dispute (by simp [isOpen]) stored).elim
  | initiated _ _ _ dispute _ _ isOpen _ written =>
      rw [written] at stored
      exact (fresh dispute (by simp [isOpen]) stored).elim
  | advanced _ dispute advanced _ _ _ _ unfinished _ written =>
      rw [written] at stored
      exact (fresh advanced unfinished stored).elim
  | resolved _ resolution force dispute _ _ written paid =>
      rw [written] at stored
      rcases Table.get_put_cases stored with ⟨_, rfl⟩ | before
      · cases force with
        | true => exact iff_of_true rfl paid
        | false => exact iff_of_false (by simp) (PaysNothing.not_paidOut paid)
      · exact absurd finished (unresolved later before)

end Moves

section Lifecycle

variable {host : Host} {start : World}

theorem step_disputes (host : Host) (world : World) (action : Action) :
    (∃ auth permits call, action = .invoke auth permits call ∧
        DisputeMove world (step host world action) call) ∨
      (step host world action).disputes = world.disputes := by
  rcases step_cases host world action with
    ⟨auth, permits, call, rfl, succeeded⟩ | ⟨_, bank, sequence, timestamp, same⟩
  · exact .inl ⟨auth, permits, call, rfl, Call.disputeMove succeeded.executes⟩
  · exact .inr (by rw [same])

theorem step_disputesAdvance (host : Host) (world : World) (action : Action) :
    DisputesAdvance world (step host world action) := by
  rcases step_disputes host world action with ⟨_, _, call, rfl, move⟩ | same
  · exact move.advance
  · intro id dispute stored
    exact ⟨dispute, same ▸ stored, refl_of DisputeRecord.Follows dispute⟩

theorem run_disputesAdvance (host : Host) (world : World) (actions : List Action) :
    DisputesAdvance world (run (step host) world actions) := by
  refine run_invariant (fun middle action advanced => ?_) (refl_of DisputesAdvance world) actions
  exact trans_of DisputesAdvance advanced (step_disputesAdvance host middle action)

theorem step_disputesDecided (host : Host) (world : World) (action : Action)
    (decided : world.DisputesDecided) : (step host world action).DisputesDecided := by
  rcases step_disputes host world action with ⟨_, _, call, rfl, move⟩ | same
  · exact move.decided decided
  · rwa [World.DisputesDecided, same]

theorem disputesPaid (host : Host) (world : World) (action : Action) :
    DisputesPaid host world action := by
  intro id later stored finished unresolved
  rcases step_disputes host world action with ⟨_, _, call, rfl, move⟩ | same
  · exact move.paid stored finished unresolved
  · rw [same] at stored
    exact absurd finished (unresolved later stored)

theorem Deployed.no_disputes (deployed : Deployed host start) (id : Text) :
    start.disputes.get id = none := by
  obtain ⟨bank, timestamp, sequence, _, _, rfl⟩ := deployed
  rfl

/-- Disputes only move forward, are decided when they are resolved, and are decided for the payer
exactly if the refund is paid out. -/
theorem disputes_proceed (deployed : Deployed host start) (actions : List Action) :
    DisputesProceed host start actions where
  advance := by
    intro before during after _
    rw [run_append]
    exact run_disputesAdvance host _ during
  decided := by
    have initial : start.DisputesDecided := fun id dispute stored => by
      cases (deployed.no_disputes id).symm.trans stored
    intro before after _
    exact run_invariant (step_disputesDecided host) initial before
  paid := along_of_forall (disputesPaid host) start actions

end Lifecycle

/-- A dispute goes through its stages and is resolved for the payer. -/
def Sample.arbitration : List Action := [
  invokedBy payer (.payment (.processPaymentWithNonce payer [1] shop coin 500 [] none 0)),
  invokedBy payer (.refund (.initiateRefund payer [2] [1] 200 [])),
  invokedBy shop (.refund (.rejectRefund shop [2])),
  invokedBy payer (.refund (.raiseDispute payer [3] [2] [])),
  invokedBy admin (.refund (.markDisputeUnderReview admin [3])),
  invokedBy admin (.refund (.escalateDispute admin [3] none)),
  .invoke [admin, shop] (fun _ => true) (.refund (.resolveDispute admin [3] [89] true))]

theorem disputes_proceed_sample :
    DisputesProceed Sample.host Sample.start (Sample.opening ++ Sample.arbitration) ∧
      ((Sample.world Sample.arbitration).disputes.get [3]).map DisputeRecord.outcome =
        some (some .payerFavor) :=
  ⟨disputes_proceed Sample.deployed_start _, by decide +kernel⟩

end LumenFlow

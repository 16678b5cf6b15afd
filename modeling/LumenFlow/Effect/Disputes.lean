import LumenFlow.Effect.Step
import LumenFlow.Effect.Frame

/-!
# Dispute moves

A dispute is opened, put under review, escalated and resolved.  `DisputeMove` lists what an
accepted call can do to the stored disputes.
-/

namespace LumenFlow

open Kit Contract

/-- How far a dispute has come. -/
def DisputeStatus.rank : DisputeStatus → Nat
  | .open => 0
  | .underReview => 1
  | .escalated => 2
  | .resolved => 3

theorem DisputeStatus.rank_le_resolved (status : DisputeStatus) :
    status.rank ≤ DisputeStatus.resolved.rank := by
  cases status <;> decide

theorem DisputeStatus.rank_lt_resolved {status : DisputeStatus} (unresolved : status ≠ .resolved) :
    status.rank < DisputeStatus.resolved.rank := by
  cases status with
  | resolved => exact absurd rfl unresolved
  | _ => decide

/-- The refund is paid from the merchant of its payment to the payer, and to nobody else, and
is completed. -/
def PaidOut (refundId : Text) (world next : World) : Prop :=
  ∃ refund payment, world.refunds.records.get refundId = some refund ∧
    world.payments.orders.get refund.orderId = some payment ∧
    next.transfers = refund.payout payment :: world.transfers ∧
    next.bank = world.bank.move payment.token payment.merchantAddress payment.payer refund.amount ∧
    next.refunds.records.get refundId = some { refund with status := .completed }

/-- Nothing is paid and no refund changes. -/
def PaysNothing (world next : World) : Prop :=
  next.transfers = world.transfers ∧ next.bank = world.bank ∧ next.refunds = world.refunds

theorem PaysNothing.not_paidOut {refundId : Text} {world next : World}
    (nothing : PaysNothing world next) : ¬ PaidOut refundId world next := by
  rintro ⟨refund, payment, _, _, transfers, _⟩
  rw [nothing.1] at transfers
  exact List.cons_ne_self _ _ transfers.symm

/-- The dispute that the resolution leaves. -/
@[simps]
def DisputeRecord.resolvedWith (dispute : DisputeRecord) (resolution : Text) (force : Bool) :
    DisputeRecord :=
  { dispute with
    status := .resolved
    outcome := some (if force = true then .payerFavor else .merchantFavor)
    resolution := some resolution }

/-- What an accepted call does to the disputes. -/
inductive DisputeMove (world next : World) : Call → Prop where
  | kept (call : Call) (same : next.disputes = world.disputes) : DisputeMove world next call
  | raised (caller : Address) (reason : Text) (dispute : DisputeRecord) (refund : RefundRecord)
      (payment : PaymentOrder) (free : world.disputes.get dispute.disputeId = none)
      (valid : ValidId dispute.disputeId) (isOpen : dispute.status = .open)
      (undecided : dispute.outcome = none)
      (stored : world.refunds.records.get dispute.refundId = some refund)
      (order : world.payments.orders.get refund.orderId = some payment)
      (written : next = world.setDispute dispute) :
      DisputeMove world next
        (.refund (.raiseDispute caller dispute.disputeId dispute.refundId reason))
  | initiated (caller : Address) (orderId reason : Text) (dispute : DisputeRecord)
      (free : world.disputes.get dispute.disputeId = none)
      (valid : ValidId dispute.disputeId) (isOpen : dispute.status = .open)
      (undecided : dispute.outcome = none) (written : next = world.setDispute dispute) :
      DisputeMove world next (.refund (.initiateDispute caller dispute.disputeId orderId reason))
  | advanced (call : RefundCall) (dispute later : DisputeRecord)
      (stored : world.disputes.get dispute.disputeId = some dispute)
      (subject : later.SameSubject dispute) (initiator : later.initiator = dispute.initiator)
      (outcome : later.outcome = dispute.outcome) (unresolved : later.status ≠ .resolved)
      (further : dispute.status.rank < later.status.rank)
      (written : next.disputes = world.disputes.put later) :
      DisputeMove world next (.refund call)
  | resolved (admin : Address) (resolution : Text) (force : Bool) (dispute : DisputeRecord)
      (stored : world.disputes.get dispute.disputeId = some dispute)
      (unresolved : dispute.status ≠ .resolved)
      (written : next.disputes = world.disputes.put (dispute.resolvedWith resolution force))
      (paid : if force = true then PaidOut dispute.refundId world next else
        PaysNothing world next) :
      DisputeMove world next
        (.refund (.resolveDispute admin dispute.disputeId resolution force))

variable {env : Env} {world next : World}

theorem resolveDispute_paidOut {admin : Address} {disputeId resolution : Text}
    {dispute : DisputeRecord} (raised : world.disputes.get disputeId = some dispute)
    (committed : (resolveDispute admin disputeId resolution true).Commits env world () next) :
    PaidOut dispute.refundId world next := by
  obtain ⟨found, refund, payment, here, _, stored, order, books⟩ := resolveDispute_books committed
  obtain rfl := Option.some.inj (raised.symm.trans here)
  refine ⟨refund, payment, stored, order, congrArg Books.transfers books,
    congrArg Books.bank books, ?_⟩
  have refunds : next.refunds.records = _ := congrArg Books.refunds books
  rw [refunds, ← Table.key_of_get stored]
  exact Table.get_put_self world.refunds.records { refund with status := .completed }

theorem resolveDispute_disputeMove {admin : Address} {disputeId resolution : Text} {force : Bool}
    (committed : (resolveDispute admin disputeId resolution force).Commits env world () next) :
    DisputeMove world next (.refund (.resolveDispute admin disputeId resolution force)) := by
  cases force with
  | true =>
      obtain ⟨dispute, refund, payment, raised, unresolved, stored, order, books⟩ :=
        resolveDispute_books committed
      have paid := resolveDispute_paidOut raised committed
      obtain rfl := Table.key_of_get raised
      exact .resolved admin resolution true dispute raised unresolved
        (congrArg Books.disputes books) paid
  | false =>
      simp [resolveDispute] at committed
      obtain ⟨_, _, _, dispute, raised, unresolved, rfl⟩ := committed
      obtain rfl := Table.key_of_get raised
      exact .resolved admin resolution false dispute raised unresolved rfl ⟨rfl, rfl, rfl⟩

theorem Call.disputes_cases (call : Call) :
    .disputes ∉ call.parts ∨
      (∃ caller disputeId refundId reason,
        call = .refund (.raiseDispute caller disputeId refundId reason)) ∨
      (∃ caller disputeId orderId reason,
        call = .refund (.initiateDispute caller disputeId orderId reason)) ∨
      (∃ admin disputeId, call = .refund (.markDisputeUnderReview admin disputeId)) ∨
      (∃ admin disputeId notes, call = .refund (.escalateDispute admin disputeId notes)) ∨
      ∃ admin disputeId resolution force,
        call = .refund (.resolveDispute admin disputeId resolution force) := by
  rcases call with call | call | call | call | call | call | call <;> cases call <;>
    simp [Call.parts, AdminCall.parts, MerchantCall.parts, PaymentCall.parts, RefundCall.parts,
      MultisigCall.parts, SubscriptionCall.parts, EscrowCall.parts]

theorem Call.disputeMove {call : Call} (committed : call.exec.Commits env world () next) :
    DisputeMove world next call := by
  rcases call.disputes_cases with silent | ⟨caller, disputeId, refundId, reason, rfl⟩ |
    ⟨caller, disputeId, orderId, reason, rfl⟩ | ⟨admin, disputeId, rfl⟩ |
    ⟨admin, disputeId, notes, rfl⟩ | ⟨admin, disputeId, resolution, force, rfl⟩
  · have writes := call.writes
    exact .kept call (same_part call.parts committed .disputes silent)
  · simp [Call.exec, RefundCall.exec, Contract.raiseDispute] at committed
    obtain ⟨_, _, valid, _, free, refund, stored, _, payment, order, _, rfl⟩ := committed
    exact .raised caller reason ⟨disputeId, refund.orderId, refundId, caller, reason, .open, none,
      none, world.timestamp⟩ refund payment free valid rfl rfl stored order rfl
  · simp [Call.exec, RefundCall.exec, Contract.initiateDispute] at committed
    obtain ⟨_, _, valid, _, free, payment, _, _, rfl⟩ := committed
    exact .initiated caller orderId reason ⟨disputeId, orderId, [], caller, reason, .open, none,
      none, world.timestamp⟩ free valid rfl rfl rfl
  · simp [Call.exec, RefundCall.exec, Contract.markDisputeUnderReview] at committed
    obtain ⟨_, _, dispute, stored, isOpen, rfl⟩ := committed
    obtain rfl := Table.key_of_get stored
    exact .advanced _ dispute { dispute with status := .underReview } stored ⟨rfl, rfl, rfl⟩ rfl
      rfl (by simp) (by rw [isOpen]; exact Nat.zero_lt_one) rfl
  · simp [Call.exec, RefundCall.exec, Contract.escalateDispute] at committed
    obtain ⟨_, _, dispute, stored, unresolved, unescalated, _, rfl⟩ := committed
    obtain rfl := Table.key_of_get stored
    have further : dispute.status.rank < DisputeStatus.escalated.rank := by
      cases status : dispute.status with
      | resolved => exact absurd status unresolved
      | escalated => exact absurd status unescalated
      | _ => decide
    exact .advanced _ dispute { dispute with status := .escalated, resolution := notes } stored
      ⟨rfl, rfl, rfl⟩ rfl rfl (by simp) further rfl
  · exact resolveDispute_disputeMove committed

end LumenFlow

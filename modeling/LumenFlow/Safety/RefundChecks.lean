import LumenFlow.Effect.Failures
import LumenFlow.Model.Call

/-!
# The checks of a new refund

The end of the refund window and the sum of the refunds are added up with the arithmetic of the
machine, which traps where the mathematical sum does not fit.
-/

namespace LumenFlow

open Kit Contract

/-- The checks that come before the refund window. -/
structure RefundOpen (world : World) (caller : Address) (refundId orderId : Text) (amount : Int)
    (payment : PaymentOrder) : Prop where
  unpaused : world.getPaused = false
  positive : 0 < amount
  least : world.getMinRefundAmount ≤ amount
  validId : ValidId refundId
  unused : world.getRefund refundId = none
  stored : world.getPayment orderId = some payment
  room : (world.getOrderRefundIds orderId).length < maxRefundsPerPayment
  party : caller = payment.payer ∨ caller = payment.merchantAddress

/-- The refund window of the payment is still open. -/
def World.WithinWindow (world : World) (payment : PaymentOrder) : Prop :=
  world.timestamp ≤ payment.paidAt + world.getRefundWindow

/-- A new refund is answered, and told to exceed the payment exactly when it does. -/
structure RefundAnswered (env : Env) (world : World) (caller : Address) (refundId orderId : Text)
    (amount : Int) (reason : Text) : Prop where
  noTrap : ¬ (initiateRefund caller refundId orderId amount reason).Fails env world .trap
  exceeds : (initiateRefund caller refundId orderId amount reason).Fails env world
      (.error .refundExceedsOriginal) ↔
    ∃ payment, RefundOpen world caller refundId orderId amount payment ∧
      world.WithinWindow payment ∧ payment.amount < payment.refundedAmount + amount

/-- The sums of a refund that gets there fit in their types. -/
def RefundSumsFit (world : World) (caller : Address) (refundId orderId : Text) (amount : Int) :
    Prop :=
  ∀ payment, RefundOpen world caller refundId orderId amount payment →
    payment.paidAt + world.getRefundWindow ≤ u64Max ∧
      (world.WithinWindow payment → InI128 (payment.refundedAmount + amount))

variable {env : Env} {world : World} {caller : Address} {refundId orderId : Text} {amount : Int}
  {reason : Text}

theorem initiateRefund_traps_iff (authorised : env.Authorised caller) :
    (initiateRefund caller refundId orderId amount reason).Fails env world .trap ↔
      ∃ payment, RefundOpen world caller refundId orderId amount payment ∧
        (u64Max < payment.paidAt + world.getRefundWindow ∨
          world.WithinWindow payment ∧ ¬ InI128 (payment.refundedAmount + amount)) := by
  have named : ¬ (requireValidId refundId).Fails env world .trap := by
    intro failed
    rcases (fails_requireValidId failed).2 with same | same <;> cases same
  simp [initiateRefund, authorised, named]
  constructor
  · rintro ⟨unpaused, positive, least, validId, unused, payment, stored, room, party, sums⟩
    refine ⟨payment, ⟨unpaused, positive, least, validId, unused, stored, room,
      or_iff_not_imp_left.mpr party⟩, ?_⟩
    exact sums.imp_right fun ⟨_, within, large⟩ => ⟨within, large⟩
  · rintro ⟨payment, checked, sums⟩
    refine ⟨checked.unpaused, checked.positive, checked.least, checked.validId, checked.unused,
      payment, checked.stored, checked.room, or_iff_not_imp_left.mp checked.party, ?_⟩
    by_cases late : u64Max < payment.paidAt + world.getRefundWindow
    · exact .inl late
    · exact .inr ⟨not_lt.mp late, sums.resolve_left late⟩

theorem initiateRefund_exceeds_iff (authorised : env.Authorised caller) :
    (initiateRefund caller refundId orderId amount reason).Fails env world
        (.error .refundExceedsOriginal) ↔
      ∃ payment, RefundOpen world caller refundId orderId amount payment ∧
        payment.paidAt + world.getRefundWindow ≤ u64Max ∧ world.WithinWindow payment ∧
          InI128 (payment.refundedAmount + amount) ∧
            payment.amount < payment.refundedAmount + amount := by
  have named : ¬ (requireValidId refundId).Fails env world (.error .refundExceedsOriginal) := by
    intro failed
    rcases (fails_requireValidId failed).2 with same | same <;> cases same
  simp [initiateRefund, authorised, named]
  constructor
  · rintro ⟨unpaused, positive, least, validId, unused, payment, stored, room, party, sums⟩
    exact ⟨payment, ⟨unpaused, positive, least, validId, unused, stored, room,
      or_iff_not_imp_left.mpr party⟩, sums⟩
  · rintro ⟨payment, checked, sums⟩
    exact ⟨checked.unpaused, checked.positive, checked.least, checked.validId, checked.unused,
      payment, checked.stored, checked.room, or_iff_not_imp_left.mp checked.party, sums⟩

/-- In every state a new refund is answered exactly if the sums that it needs fit in their
types. -/
theorem refund_answered_iff (world : World) (authorised : env.Authorised caller)
    (refundId orderId : Text) (amount : Int) (reason : Text) :
    RefundAnswered env world caller refundId orderId amount reason ↔
      RefundSumsFit world caller refundId orderId amount := by
  constructor
  · rintro ⟨noTrap, _⟩ payment checked
    rw [initiateRefund_traps_iff authorised] at noTrap
    constructor
    · exact not_lt.mp fun late => noTrap ⟨payment, checked, .inl late⟩
    · intro within
      by_contra large
      exact noTrap ⟨payment, checked, .inr ⟨within, large⟩⟩
  · intro fits
    constructor
    · rw [initiateRefund_traps_iff authorised]
      rintro ⟨payment, checked, late | ⟨within, large⟩⟩
      · exact absurd (fits payment checked).1 (not_le.mpr late)
      · exact large ((fits payment checked).2 within)
    · rw [initiateRefund_exceeds_iff authorised]
      constructor
      · rintro ⟨payment, checked, _, within, _, exceeds⟩
        exact ⟨payment, checked, within, exceeds⟩
      · rintro ⟨payment, checked, within, exceeds⟩
        obtain ⟨inTime, inRange⟩ := fits payment checked
        exact ⟨payment, checked, inTime, within, inRange within, exceeds⟩

/-- The admin sets the longest refund window, and a payment is made a second later. -/
def Sample.unlimited : List Action := [
  invokedBy admin (.admin (.setRefundWindow admin u64Max)),
  .advance 1 1,
  invokedBy payer (.payment (.processPaymentWithNonce payer [1] shop coin 500 [] none 0))]

theorem refund_answered_iff_sample :
    RefundAnswered (Sample.host.env [Sample.payer] fun _ => true) (Sample.world Sample.unlimited)
        Sample.payer [2] [1] 200 [] ↔
      RefundSumsFit (Sample.world Sample.unlimited) Sample.payer [2] [1] 200 :=
  refund_answered_iff _ (by decide) _ _ _ _

/-- No refund can then be requested: the call traps. -/
theorem refund_window_overflows :
    ¬ ∀ host start actions, Deployed host start → ∀ auth permits caller refundId orderId amount
      reason, (host.env auth permits).Authorised caller →
        RefundAnswered (host.env auth permits) (run (step host) start actions) caller refundId
          orderId amount reason := by
  intro answered
  have refunding := answered Sample.host Sample.start (Sample.opening ++ Sample.unlimited)
    Sample.deployed_start [Sample.payer] (fun _ => true) Sample.payer [2] [1] 200 []
    (by decide)
  exact refunding.noTrap (Tx.failure_eq_some_iff.mp (by decide +kernel))

end LumenFlow

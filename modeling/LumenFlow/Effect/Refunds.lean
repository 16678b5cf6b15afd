import LumenFlow.Effect.Payments

/-!
# Effects of the refund and dispute calls
-/

namespace LumenFlow

open Kit Contract

variable {env : Env} {world next : World}

instance (merchantAddress : Address) (amount : Int) :
    Quiet (countMerchantRefund merchantAddress amount) := by
  unfold countMerchantRefund; infer_instance

instance (amount : Int) : Quiet (countGlobalRefund amount) := by
  unfold countGlobalRefund; infer_instance

theorem initiateRefund_effect {caller : Address} {refundId orderId : Text} {amount : Int}
    {reason : Text}
    (committed : (initiateRefund caller refundId orderId amount reason).Commits env world () next) :
    Effect env world.books (.refund (.initiateRefund caller refundId orderId amount reason))
      next.books := by
  simp [initiateRefund] at committed
  obtain ⟨_, authorised, positive, _, _, free, payment, stored, _, _, _, _, _, bounded, _, rfl⟩ :=
    committed
  exact .refundOpened caller refundId orderId amount reason payment free stored positive bounded
    authorised

theorem decideRefund_effect {call : RefundCall} {caller : Address} {refundId : Text}
    {status : RefundStatus} (decision : status = .approved ∨ status = .rejected)
    (committed : (decideRefund caller refundId status).Commits env world () next) :
    Effect env world.books (.refund call) next.books := by
  simp [decideRefund] at committed
  obtain ⟨_, refund, stored, _, _, _, pending, rfl⟩ := committed
  obtain rfl := Table.key_of_get stored
  exact .refundDecided call refund status stored pending decision

/-- Executing a refund always pays it out. -/
theorem executeRefund_books {refundId : Text}
    (committed : (executeRefund refundId).Commits env world () next) :
    ∃ refund payment, world.books.refunds.get refundId = some refund ∧
      refund.status = .approved ∧ world.books.orders.get refund.orderId = some payment ∧
      env.Authorised payment.merchantAddress ∧
      next.books = world.books.payOut refund payment (payment.version + 1) := by
  simp [executeRefund] at committed
  obtain ⟨_, refund, stored, approved, payment, order, authorised, _, _, counting, merchantCounted,
    paying, globallyCounted, _, _, _, _, rfl⟩ := committed
  obtain rfl := Table.key_of_get stored
  refine ⟨refund, payment, stored, approved, order, authorised, ?_⟩
  change paying.books.settle (refund.payout payment) = _
  rw [quiet_books globallyCounted, quiet_books merchantCounted]
  rfl

theorem executeRefund_effect {refundId : Text}
    (committed : (executeRefund refundId).Commits env world () next) :
    Effect env world.books (.refund (.executeRefund refundId)) next.books := by
  obtain ⟨refund, payment, stored, approved, order, authorised, books⟩ :=
    executeRefund_books committed
  obtain rfl := Table.key_of_get stored
  rw [books]
  exact .refundExecuted refund payment stored approved order authorised

/-- The dispute keeps what it is about. -/
structure DisputeRecord.SameSubject (first second : DisputeRecord) : Prop where
  disputeId : first.disputeId = second.disputeId
  refundId : first.refundId = second.refundId
  orderId : first.orderId = second.orderId

theorem disputeRewritten_effect {call : RefundCall} {books : Books} {disputeId : Text}
    {old dispute : DisputeRecord} (stored : books.disputes.get disputeId = some old)
    (unresolved : old.status ≠ .resolved) (same : dispute.SameSubject old) :
    Effect env books (.refund call) { books with disputes := books.disputes.put dispute } := by
  refine .disputeWritten call dispute fun found foundHere => ?_
  have key : dispute.disputeId = disputeId := same.disputeId.trans (Table.key_of_get stored)
  rw [key, stored] at foundHere
  obtain rfl := Option.some.inj foundHere
  exact ⟨unresolved, same.refundId, same.orderId⟩

theorem resolveDispute_books {admin : Address} {disputeId resolution : Text}
    (committed : (resolveDispute admin disputeId resolution true).Commits env world () next) :
    ∃ dispute refund payment, world.books.disputes.get disputeId = some dispute ∧
      dispute.status ≠ .resolved ∧ world.books.refunds.get dispute.refundId = some refund ∧
      world.books.orders.get refund.orderId = some payment ∧
      next.books =
        { world.books.payOut refund payment payment.version with
          disputes := world.books.disputes.put { dispute with
            status := .resolved
            outcome := some .payerFavor
            resolution := some resolution } } := by
  simp [resolveDispute, forceRefund] at committed
  obtain ⟨_, _, _, dispute, raised, unresolved, refund, stored, payment, order, _, counting,
    globallyCounted, paying, merchantCounted, _, _, _, _, rfl⟩ := committed
  have key : refund.refundId = dispute.refundId := Table.key_of_get stored
  have payout : refund.payout payment = ⟨.refund dispute.refundId refund.orderId, payment.token,
      payment.merchantAddress, payment.payer, refund.amount⟩ := by
    rw [← key]
    rfl
  refine ⟨dispute, refund, payment, raised, unresolved, stored, order, ?_⟩
  rw [← payout]
  change paying.books.settle (refund.payout payment) = _
  rw [quiet_books merchantCounted, quiet_books globallyCounted]
  rfl

theorem resolveDispute_effect {admin : Address} {disputeId resolution : Text} {force : Bool}
    (committed : (resolveDispute admin disputeId resolution force).Commits env world () next) :
    Effect env world.books (.refund (.resolveDispute admin disputeId resolution force))
      next.books := by
  cases force with
  | true =>
      obtain ⟨dispute, refund, payment, raised, unresolved, stored, order, books⟩ :=
        resolveDispute_books committed
      obtain rfl := Table.key_of_get raised
      rw [books]
      exact .refundForced admin resolution dispute refund payment raised unresolved stored order
  | false =>
      simp [resolveDispute] at committed
      obtain ⟨_, _, _, dispute, raised, unresolved, rfl⟩ := committed
      exact disputeRewritten_effect raised unresolved ⟨rfl, rfl, rfl⟩

/-- Refunds were deleted, no other record has changed. -/
def RefundsPruned (before after : World) : Prop :=
  ∃ refunds, refunds.Sub before.books.refunds ∧ after.books = { before.books with refunds }

instance : IsPreorder World RefundsPruned where
  refl world := ⟨world.books.refunds, Table.Sub.refl _, rfl⟩
  trans first second third head tail := by
    obtain ⟨_, sub, middle⟩ := head
    obtain ⟨refunds, less, books⟩ := tail
    rw [middle] at less books
    exact ⟨refunds, less.trans sub, books⟩

theorem removeExpiredRefund_prunes (cutoff removed : Nat) (refundId : Text) :
    Tx.Respects RefundsPruned (removeExpiredRefund cutoff removed refundId) := by
  intro env world result next committed
  simp [removeExpiredRefund] at committed
  rcases committed with ⟨_, _, _, rfl⟩ | ⟨_, _, rfl⟩
  · exact ⟨_, Table.sub_erase _ refundId, rfl⟩
  · exact refl_of RefundsPruned _

theorem cleanupExpiredRefunds_effect {admin : Address} {result : Nat}
    (committed : (cleanupExpiredRefunds admin).Commits env world result next) :
    Effect env world.books (.refund (.cleanupExpiredRefunds admin)) next.books := by
  simp only [cleanupExpiredRefunds, Tx.commits_bind, Tx.exists_unit, commits_requireAdmin,
    Tx.commits_gets] at committed
  obtain ⟨_, ⟨_, rfl⟩, cutoff, _, ⟨_, rfl⟩, merchants, world, ⟨_, rfl⟩, removed⟩ := committed
  have pruned : RefundsPruned world next := by
    refine Tx.respects_fold ?_ 0 env world result next removed
    intro removed merchant _
    refine Tx.respects_bind (Tx.respects_gets _) fun paymentIds => ?_
    refine Tx.respects_fold (fun removed paymentId _ => ?_) removed
    refine Tx.respects_bind (Tx.respects_gets _) fun refundIds => ?_
    exact Tx.respects_fold (fun removed refundId _ =>
      removeExpiredRefund_prunes cutoff removed refundId) removed
  obtain ⟨refunds, sub, books⟩ := pruned
  rw [books]
  exact .refundsCleaned admin refunds sub

theorem RefundCall.effect {call : RefundCall}
    (committed : call.exec.Commits env world () next) :
    Effect env world.books (.refund call) next.books := by
  cases call with
  | initiateRefund => exact initiateRefund_effect committed
  | approveRefund => exact decideRefund_effect (.inl rfl) committed
  | rejectRefund => exact decideRefund_effect (.inr rfl) committed
  | executeRefund => exact executeRefund_effect committed
  | resolveDispute => exact resolveDispute_effect committed
  | cleanupExpiredRefunds =>
      obtain ⟨_, removed⟩ := Tx.commits_discard.mp committed
      exact cleanupExpiredRefunds_effect removed
  | raiseDispute =>
      simp [RefundCall.exec, Contract.raiseDispute] at committed
      obtain ⟨_, _, _, _, free, _, _, _, _, _, _, rfl⟩ := committed
      exact .disputeWritten _ ⟨_, _, _, _, _, _, _, _, _⟩ fun old found =>
        absurd (free.symm.trans found) (by simp)
  | initiateDispute =>
      simp [RefundCall.exec, Contract.initiateDispute] at committed
      obtain ⟨_, _, _, _, free, _, _, _, rfl⟩ := committed
      exact .disputeWritten _ ⟨_, _, _, _, _, _, _, _, _⟩ fun old found =>
        absurd (free.symm.trans found) (by simp)
  | markDisputeUnderReview =>
      simp [RefundCall.exec, Contract.markDisputeUnderReview] at committed
      obtain ⟨_, _, dispute, stored, isOpen, rfl⟩ := committed
      have unresolved : dispute.status ≠ .resolved := by simp [isOpen]
      exact disputeRewritten_effect stored unresolved ⟨rfl, rfl, rfl⟩
  | escalateDispute =>
      simp [RefundCall.exec, Contract.escalateDispute] at committed
      obtain ⟨_, _, dispute, stored, unresolved, _, _, rfl⟩ := committed
      exact disputeRewritten_effect stored unresolved ⟨rfl, rfl, rfl⟩
  | getRefundsForOrder caller orderId =>
      have quiet : Quiet (Contract.getRefundsForOrder caller orderId) := by
        unfold Contract.getRefundsForOrder requireParty; infer_instance
      obtain ⟨_, found⟩ := Tx.commits_discard.mp committed
      rw [quiet_books found]
      exact .quiet _ rfl
  | getRefund caller refundId =>
      have quiet : Quiet (Contract.getRefund caller refundId) := by
        unfold Contract.getRefund; infer_instance
      obtain ⟨_, found⟩ := Tx.commits_discard.mp committed
      rw [quiet_books found]
      exact .quiet _ rfl
  | getDispute =>
      simp [RefundCall.exec, Contract.getDispute] at committed
      obtain ⟨_, _, rfl⟩ := committed
      exact .quiet _ rfl

end LumenFlow

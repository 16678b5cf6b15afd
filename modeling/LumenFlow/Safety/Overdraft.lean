import LumenFlow.Safety.Bookkeeping

/-!
# When refunds stay within their payment

The amount of a refund is compared with its payment when the refund is
initiated, and not again when it is paid out.  So the payouts of a payment stay
within its amount exactly in the runs in which each of them still fits.
-/

namespace LumenFlow

open Kit

/-- What is still to be paid back covers the refund. -/
def Books.Covers (books : Books) (refundId : Text) : Prop :=
  ∀ refund payment, books.refunds.get refundId = some refund →
    books.orders.get refund.orderId = some payment →
    payment.refundedAmount + refund.amount ≤ payment.amount

/-- A call that pays a refund out is made while the payment still covers it. -/
def PayoutFits (books : Books) : Call → Prop
  | .refund (.executeRefund refundId) => books.Covers refundId
  | .refund (.resolveDispute _ disputeId _ true) =>
      ∀ dispute, books.disputes.get disputeId = some dispute → books.Covers dispute.refundId
  | _ => True

/-- No payment has more paid back than its amount. -/
def Books.WithinAmounts (books : Books) : Prop :=
  ∀ orderId payment, books.orders.get orderId = some payment →
    refundsPaid orderId books.transfers ≤ payment.amount

section Steps

variable {env : Env} {books next : Books} {call : Call}

theorem Books.Bookkept.withinAmounts_iff (kept : books.Bookkept) :
    books.WithinAmounts ↔
      books.orders.All fun payment => payment.refundedAmount ≤ payment.amount := by
  constructor
  · intro within orderId payment stored
    rw [(kept.recorded orderId payment stored).refundedAmount]
    exact within orderId payment stored
  · intro every orderId payment stored
    rw [← (kept.recorded orderId payment stored).refundedAmount]
    exact every orderId payment stored

/-- Only payouts can take a payment beyond its amount. -/
theorem Effect.refundedAmount_le (clean : books.Clean env.host.self)
    (every : books.orders.All fun payment => payment.refundedAmount ≤ payment.amount)
    (keeps : KeepsPayments books call) (fits : PayoutFits books call)
    (effect : Effect env books call next) :
    next.orders.All fun payment => payment.refundedAmount ≤ payment.amount := by
  cases effect with
  | statusUpdated => exact keeps.elim
  | archived => exact keeps.elim
  | paymentsCleaned => exact keeps.elim
  | paid call orders profiles transfers listed distinct fresh opened =>
      apply every.putAll
      intro order membership
      obtain ⟨new, positive, _⟩ := opened order membership
      rw [new.refundedAmount]
      exact positive.le
  | refundExecuted refund payment stored approved order =>
      exact every.put (fits refund payment stored order)
  | refundForced admin resolution dispute refund payment raised unresolved stored order =>
      exact every.put (fits dispute raised refund payment stored order)
  | multisigPaid payer multisig stored => exact every.put (clean.multisigs _ multisig stored).2.le
  | requestPaid payer request stored => exact every.put (clean.requests _ request stored).2.le
  | _ => exact every

theorem Books.covers_of_le {refund : RefundRecord} {payment : PaymentOrder}
    (stored : books.refunds.get refund.refundId = some refund)
    (order : books.orders.get refund.orderId = some payment)
    (bounded : payment.refundedAmount + refund.amount ≤ payment.amount) :
    books.Covers refund.refundId := by
  intro found foundPayment foundHere foundOrder
  obtain rfl := Option.some.inj (stored.symm.trans foundHere)
  obtain rfl := Option.some.inj (order.symm.trans foundOrder)
  exact bounded

end Steps

section Runs

variable {host : Host} {start world next : World} {auth : List Address} {permits : TokenCall → Bool}

/-- A call whose payout, if it makes one, adds up to at most the payment was covered. -/
theorem payoutFits_of_succeeds {call : Call}
    (succeeded : Succeeds host world auth permits call next)
    (bounded : ∀ (refund : RefundRecord) (payment : PaymentOrder) (version : Nat),
      world.books.orders.get refund.orderId = some payment →
      next.books.orders.get refund.orderId = some (payment.refundBy refund.amount version) →
      next.books.transfers = refund.payout payment :: world.books.transfers →
      payment.refundedAmount + refund.amount ≤ payment.amount) :
    PayoutFits world.books call := by
  have executed := succeeded.executes
  have covers (refund : RefundRecord) (payment : PaymentOrder) (version : Nat)
      (stored : world.books.refunds.get refund.refundId = some refund)
      (order : world.books.orders.get refund.orderId = some payment)
      (orders : next.books.orders =
        world.books.orders.put (payment.refundBy refund.amount version))
      (transfers : next.books.transfers = refund.payout payment :: world.books.transfers) :
      world.books.Covers refund.refundId := by
    have key : payment.orderId = refund.orderId := Table.key_of_get order
    refine Books.covers_of_le stored order (bounded refund payment version order ?_ transfers)
    rw [orders]
    exact Table.get_put_of_key key
  cases call with
  | refund call =>
      cases call with
      | executeRefund refundId =>
          obtain ⟨refund, payment, stored, _, order, _, books⟩ :=
            executeRefund_books executed
          obtain rfl := Table.key_of_get stored
          exact covers refund payment (payment.version + 1) stored order (by rw [books]; rfl)
            (by rw [books]; rfl)
      | resolveDispute admin disputeId resolution force =>
          cases force with
          | false => trivial
          | true =>
              obtain ⟨dispute, refund, payment, raised, _, stored, order, books⟩ :=
                resolveDispute_books executed
              intro found foundHere
              obtain rfl := Option.some.inj (raised.symm.trans foundHere)
              have key : refund.refundId = dispute.refundId := Table.key_of_get stored
              rw [← key] at stored ⊢
              exact covers refund payment payment.version stored order (by rw [books]; rfl)
                (by rw [books]; rfl)
      | _ => trivial
  | _ => trivial

/-- While nobody edits, archives or overwrites payments, the payouts of every
payment stay within its amount throughout a run exactly if each refund that the
run pays out is covered when it is paid. -/
theorem refunds_within_amount_iff (deployed : Deployed host start) {actions : List Action}
    (kept : Along (step host) (Admits host KeepsPayments) start actions) :
    (∀ before after, actions = before ++ after → ∀ orderId payment,
      (run (step host) start before).payments.orders.get orderId = some payment →
        refundsPaid orderId (run (step host) start before).transfers ≤ payment.amount) ↔
      Along (step host) (Admits host PayoutFits) start actions := by
  constructor
  · intro within
    rw [along_iff_split]
    intro before action after split
    have keptBefore : Along (step host) (Admits host KeepsPayments) start before := by
      rw [split] at kept
      exact ((along_append start before _).mp kept).1
    have bookkept := bookkept_run deployed.sound deployed.bookkept keptBefore
    cases action with
    | invoke auth permits call =>
        intro next succeeded
        apply payoutFits_of_succeeds succeeded
        intro refund payment version order written paid
        have throughout : Throughout (step host) (fun world => ∀ orderId payment,
            world.payments.orders.get orderId = some payment →
              refundsPaid orderId world.transfers ≤ payment.amount) start actions := within
        have later := throughout.after_input split
        rw [succeeded.step_eq] at later
        have total := later refund.orderId (payment.refundBy refund.amount version) written
        -- what the log adds up to is what the payment has recorded
        change refundsPaid refund.orderId next.books.transfers ≤ payment.amount at total
        rw [paid, refundsPaid_cons, refund.refunded_payout, if_pos rfl,
          ← (bookkept.recorded _ payment order).refundedAmount] at total
        omega
    | _ => trivial
  · rintro fits before after rfl orderId payment stored
    have keptBefore := ((along_append start before after).mp kept).1
    have fitsBefore := ((along_append start before after).mp fits).1
    have bookkept := bookkept_run deployed.sound deployed.bookkept keptBefore
    refine bookkept.withinAmounts_iff.mpr ?_ orderId payment stored
    have both : ∀ books action next,
        books.Sound host.self ∧
          (books.orders.All fun payment => payment.refundedAmount ≤ payment.amount) →
        Change host (BothAllow KeepsPayments PayoutFits) books action next →
        next.Sound host.self ∧
          next.orders.All fun payment => payment.refundedAmount ≤ payment.amount := by
      rintro books action next ⟨sound, every⟩ change
      refine ⟨change.sound sound, ?_⟩
      cases change with
      | called auth permits call next admitted effect =>
          exact effect.refundedAmount_le sound.toClean every admitted.1 admitted.2
      | _ => exact every
    exact (books_invariant both ⟨deployed.sound, deployed.orders_all⟩
      (along_bothAllow keptBefore fitsBefore)).2

end Runs

/-- Two refunds of 300 on a payment of 500, initiated before either is paid. -/
def Sample.overdrawing : List Action := [
  invokedBy payer (.payment (.processPaymentWithNonce payer [1] shop coin 500 [] none 0)),
  invokedBy payer (.refund (.initiateRefund payer [2] [1] 300 [])),
  invokedBy payer (.refund (.initiateRefund payer [3] [1] 300 [])),
  invokedBy shop (.refund (.approveRefund shop [2])),
  invokedBy shop (.refund (.approveRefund shop [3])),
  invokedBy shop (.refund (.executeRefund [2])),
  invokedBy shop (.refund (.executeRefund [3]))]

theorem Sample.overdrawing_keeps :
    Along (step host) (Admits host KeepsPayments) start (opening ++ overdrawing) := by
  simp [opening, overdrawing, invokedBy, Admits, KeepsPayments]

theorem Sample.overdrawing_amount :
    ((world overdrawing).payments.orders.get [1]).map PaymentOrder.amount = some 500 := by
  decide +kernel

theorem Sample.overdrawing_paid : refundsPaid [1] (world overdrawing).transfers = 600 := by
  decide +kernel

theorem refunds_within_amount_iff_sample :
    ¬ Along (step Sample.host) (Admits Sample.host PayoutFits) Sample.start
      (Sample.opening ++ Sample.overdrawing) := by
  intro fits
  have within :=
    (refunds_within_amount_iff Sample.deployed_start Sample.overdrawing_keeps).mpr fits
  obtain ⟨payment, stored, amount⟩ := Option.map_eq_some_iff.mp Sample.overdrawing_amount
  have bounded : refundsPaid [1] (Sample.world Sample.overdrawing).transfers ≤ payment.amount :=
    within _ [] (List.append_nil _).symm [1] payment stored
  rw [Sample.overdrawing_paid, amount] at bounded
  omega

theorem refunds_exceed_amount :
    Along (step Sample.host) (Admits Sample.host KeepsPayments) Sample.start
        (Sample.opening ++ Sample.overdrawing) ∧
      ((Sample.world Sample.overdrawing).payments.orders.get [1]).map PaymentOrder.amount =
        some 500 ∧
      refundsPaid [1] (Sample.world Sample.overdrawing).transfers = 600 :=
  ⟨Sample.overdrawing_keeps, Sample.overdrawing_amount, Sample.overdrawing_paid⟩

end LumenFlow

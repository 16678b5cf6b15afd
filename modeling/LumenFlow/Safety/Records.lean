import LumenFlow.Safety.Overdraft

/-!
# What a stored payment says about its refunds

The refunded amount of a payment is set by its payouts and by the merchant or the admin
directly.  Neither compares it with the amount of the payment when it is written.
-/

namespace LumenFlow

open Kit

/-- The refunded amount lies within the payment, and the status says whether nothing or
everything was refunded. -/
structure PaymentOrder.Consistent (payment : PaymentOrder) : Prop where
  nonneg : 0 ≤ payment.refundedAmount
  within : payment.refundedAmount ≤ payment.amount
  full : payment.status = .fullyRefunded ↔ payment.refundedAmount = payment.amount
  complete : payment.status = .completed ↔ payment.refundedAmount = 0

/-- A refunded amount that the call sets is positive and within the payment, and a refund
that it pays out is covered. -/
def RecordsFit (books : Books) : Call → Prop
  | .payment (.updatePaymentStatus _ orderId refundedAmount _) =>
      ∀ payment, books.orders.get orderId = some payment →
        0 < refundedAmount ∧ refundedAmount ≤ payment.amount
  | call => PayoutFits books call

section Payments

variable {payment : PaymentOrder}

theorem PaymentOrder.consistent_iff_of_refunded (positive : 0 < payment.amount)
    (refunded : payment.status = Contract.refundStatus payment.refundedAmount payment.amount) :
    payment.Consistent ↔ 0 < payment.refundedAmount ∧ payment.refundedAmount ≤ payment.amount := by
  unfold Contract.refundStatus at refunded
  constructor
  · intro consistent
    have nonneg := consistent.nonneg
    have unpaid : payment.refundedAmount ≠ 0 := by
      intro zero
      have complete := consistent.complete.mpr zero
      rw [refunded] at complete
      split at complete <;> cases complete
    exact ⟨by omega, consistent.within⟩
  · rintro ⟨paid, within⟩
    refine ⟨paid.le, within, ?_, ?_⟩
    · rw [refunded]
      split
      · simp
        omega
      · simp
        omega
    · rw [refunded]
      split
      · simp
        omega
      · simp
        omega

theorem PaymentOrder.IsNew.consistent {now : Nat} (new : payment.IsNew now)
    (positive : 0 < payment.amount) : payment.Consistent := by
  refine ⟨new.refundedAmount.ge, ?_, ?_, ?_⟩
  · rw [new.refundedAmount]
    exact positive.le
  · rw [new.status, new.refundedAmount]
    simp
    omega
  · simp [new.status, new.refundedAmount]

theorem PaymentOrder.Consistent.refundBy (consistent : payment.Consistent) {amount : Int}
    (positive : 0 < payment.amount) (refunded : 0 < amount)
    (covers : payment.refundedAmount + amount ≤ payment.amount) (version : Nat) :
    (payment.refundBy amount version).Consistent := by
  have nonneg := consistent.nonneg
  have paid : 0 < payment.refundedAmount + amount := by omega
  have amounts : 0 < (payment.refundBy amount version).amount := positive
  exact (consistent_iff_of_refunded amounts rfl).mpr ⟨paid, covers⟩

end Payments

section Steps

variable {env : Env} {books next : Books} {call : Call}

theorem Effect.consistent (clean : books.Clean env.host.self)
    (every : books.orders.All PaymentOrder.Consistent) (fits : RecordsFit books call)
    (effect : Effect env books call next) : next.orders.All PaymentOrder.Consistent := by
  cases effect with
  | paid call orders profiles transfers listed distinct fresh opened =>
      apply every.putAll
      intro order membership
      obtain ⟨new, positive, _⟩ := opened order membership
      exact new.consistent positive
  | statusUpdated caller orderId refundedAmount expectedVersion payment stored =>
      have positive : 0 < (payment.refundedTo refundedAmount).amount :=
        (clean.orders _ payment stored).2
      have consistent : (payment.refundedTo refundedAmount).Consistent :=
        (PaymentOrder.consistent_iff_of_refunded positive rfl).mpr (fits payment stored)
      exact every.put consistent
  | archived => exact every.erase _
  | paymentsCleaned admin batchSize orders refunds ordersSub => exact every.sub ordersSub
  | refundExecuted refund payment stored approved order =>
      have positive := (clean.orders _ payment order).2
      have consistent := every _ payment order
      exact every.put (consistent.refundBy positive (clean.refunds _ refund stored)
        (fits refund payment stored order) _)
  | refundForced admin resolution dispute refund payment raised unresolved stored order =>
      have positive := (clean.orders _ payment order).2
      have consistent := every _ payment order
      exact every.put (consistent.refundBy positive (clean.refunds _ refund stored)
        (fits dispute raised refund payment stored order) _)
  | multisigPaid payer multisig stored =>
      have positive := (clean.multisigs _ multisig stored).2
      exact every.put ((multisig.order_isNew payer books.timestamp).consistent positive)
  | requestPaid payer request stored =>
      have positive := (clean.requests _ request stored).2
      exact every.put ((request.order_isNew payer books.timestamp).consistent positive)
  | _ => exact every

variable {host : Host} {action : Action}

theorem Change.consistent (sound : books.Sound host.self)
    (every : books.orders.All PaymentOrder.Consistent)
    (change : Change host RecordsFit books action next) :
    next.orders.All PaymentOrder.Consistent := by
  cases change with
  | called auth permits call next admitted effect =>
      exact effect.consistent sound.toClean every admitted
  | _ => exact every

end Steps

section Runs

variable {host : Host} {start world next : World} {auth : List Address} {permits : TokenCall → Bool}

/-- A successful call that leaves every payment consistent fits the records. -/
theorem recordsFit_of_succeeds {call : Call} (sound : world.books.Sound host.self)
    (succeeded : Succeeds host world auth permits call next)
    (every : next.books.orders.All PaymentOrder.Consistent) : RecordsFit world.books call := by
  have payoutFits : PayoutFits world.books call :=
    payoutFits_of_succeeds succeeded fun _ _ _ _ written _ => (every _ _ written).within
  unfold RecordsFit
  split
  · next caller orderId refundedAmount expectedVersion =>
      intro payment stored
      have written := updatePaymentStatus_written succeeded.executes stored
      have positive : 0 < (payment.refundedTo refundedAmount).amount :=
        (sound.orders _ payment stored).2
      exact (PaymentOrder.consistent_iff_of_refunded positive rfl).mp (every _ _ written)
  · exact payoutFits

theorem run_consistent (deployed : Deployed host start) {actions : List Action}
    (fits : Along (step host) (Admits host RecordsFit) start actions) :
    (run (step host) start actions).books.orders.All PaymentOrder.Consistent := by
  have stepwise : ∀ books action next,
      books.Sound host.self ∧ books.orders.All PaymentOrder.Consistent →
      Change host RecordsFit books action next →
      next.Sound host.self ∧ next.orders.All PaymentOrder.Consistent :=
    fun _ _ _ ⟨sound, every⟩ change => ⟨change.sound sound, change.consistent sound every⟩
  exact (books_invariant stepwise ⟨deployed.sound, deployed.orders_all⟩ fits).2

/-- Every stored payment is consistent throughout a run exactly if each refunded amount
that the run sets is positive and within its payment, and each refund that it pays out is
covered when it is paid. -/
theorem records_consistent_iff (deployed : Deployed host start) (actions : List Action) :
    Throughout (step host) (fun world => world.payments.orders.All PaymentOrder.Consistent) start
        actions ↔
      Along (step host) (Admits host RecordsFit) start actions := by
  constructor
  · intro every
    rw [along_iff_split]
    intro before action after split
    cases action with
    | invoke auth permits call =>
        intro next succeeded
        have later := every.after_input split
        rw [succeeded.step_eq] at later
        exact recordsFit_of_succeeds (sound_run deployed.sound before) succeeded later
    | _ => trivial
  · rintro fits before after rfl
    exact run_consistent deployed ((along_append start before after).mp fits).1

end Runs

/-- The merchant sets the refunded amount of a payment of 500 to nothing. -/
def Sample.resetting : List Action := [
  invokedBy payer (.payment (.processPaymentWithNonce payer [1] shop coin 500 [] none 0)),
  invokedBy shop (.payment (.updatePaymentStatus shop [1] 0 none))]

theorem record_inconsistent :
    ¬ (Sample.world Sample.resetting).payments.orders.All PaymentOrder.Consistent := by
  have reset : ((Sample.world Sample.resetting).payments.orders.get [1]).map
      (fun payment => (payment.refundedAmount, payment.status)) = some (0, .partiallyRefunded) := by
    decide +kernel
  obtain ⟨payment, stored, record⟩ := Option.map_eq_some_iff.mp reset
  obtain ⟨unpaid, status⟩ := Prod.mk.inj record
  intro every
  have complete := (every [1] payment stored).complete.mpr unpaid
  exact nomatch status.symm.trans complete

theorem records_consistent_iff_sample :
    ¬ Along (step Sample.host) (Admits Sample.host RecordsFit) Sample.start
      (Sample.opening ++ Sample.overdrawing) := by
  have overdrawn : ((Sample.world Sample.overdrawing).payments.orders.get [1]).map
      (fun payment => (payment.refundedAmount, payment.amount)) = some (600, 500) := by
    decide +kernel
  obtain ⟨payment, stored, record⟩ := Option.map_eq_some_iff.mp overdrawn
  obtain ⟨refunded, amount⟩ := Prod.mk.inj record
  intro fits
  have every := (records_consistent_iff Sample.deployed_start _).mpr fits
  have within := (every _ [] (List.append_nil _).symm [1] payment stored).within
  omega

end LumenFlow

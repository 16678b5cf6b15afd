import LumenFlow.Safety.Solvency

/-!
# Refunds and the books about them

While nobody edits, archives or overwrites a stored payment, the payment says
exactly what was paid back on its account.
-/

namespace LumenFlow

open Kit

section Payouts

/-- What a movement of tokens pays back on account of an order. -/
def Transfer.refunded (orderId : Text) (transfer : Transfer) : Int :=
  match transfer.cause with
  | .refund _ refundOrder => if refundOrder = orderId then transfer.amount else 0
  | _ => 0

/-- What a log of movements pays back on account of an order. -/
def refundsPaid (orderId : Text) (transfers : List Transfer) : Int :=
  (transfers.map (Transfer.refunded orderId)).sum

@[simp]
theorem refundsPaid_nil (orderId : Text) : refundsPaid orderId [] = 0 := rfl

@[simp]
theorem refundsPaid_cons (orderId : Text) (transfer : Transfer) (transfers : List Transfer) :
    refundsPaid orderId (transfer :: transfers) =
      transfer.refunded orderId + refundsPaid orderId transfers := by
  simp [refundsPaid]

@[simp]
theorem refundsPaid_append (orderId : Text) (first second : List Transfer) :
    refundsPaid orderId (first ++ second) =
      refundsPaid orderId first + refundsPaid orderId second := by
  simp [refundsPaid]

theorem Transfer.refunded_of_isCharge {orderId : Text} {transfer : Transfer}
    (charge : transfer.cause.IsCharge) : transfer.refunded orderId = 0 := by
  unfold Transfer.refunded
  split
  · next found => simp [found, Cause.IsCharge] at charge
  · rfl

theorem refundsPaid_of_charges {orderId : Text} {transfers : List Transfer}
    (charges : ∀ transfer ∈ transfers, transfer.cause.IsCharge) :
    refundsPaid orderId transfers = 0 := by
  induction transfers with
  | nil => rfl
  | cons transfer rest inductionHypothesis =>
      obtain ⟨head, tail⟩ := List.forall_mem_cons.mp charges
      rw [refundsPaid_cons, Transfer.refunded_of_isCharge head, inductionHypothesis tail, add_zero]

theorem RefundRecord.refunded_payout (refund : RefundRecord) (payment : PaymentOrder)
    (orderId : Text) :
    (refund.payout payment).refunded orderId =
      if refund.orderId = orderId then refund.amount else 0 := rfl

end Payouts

section Invariant

/-- The status that belongs to a payment of which an amount was paid back. -/
def PaymentOrder.statusAfter (payment : PaymentOrder) (paid : Int) : PaymentStatus :=
  if paid = 0 then .completed else Contract.refundStatus paid payment.amount

/-- A payment says what was paid back on its account. -/
structure PaymentOrder.Accounts (payment : PaymentOrder) (paid : Int) : Prop where
  refundedAmount : payment.refundedAmount = paid
  status : payment.status = payment.statusAfter paid
  nonneg : 0 ≤ paid

/-- Every stored payment says what was paid back on its account, and nothing was
paid back for an order without a payment. -/
structure Books.Bookkept (books : Books) : Prop where
  recorded : ∀ orderId payment, books.orders.get orderId = some payment →
    payment.Accounts (refundsPaid orderId books.transfers)
  unpaid : ∀ orderId, books.orders.get orderId = none →
    refundsPaid orderId books.transfers = 0

/-- The call neither edits nor deletes nor overwrites a stored payment. -/
def KeepsPayments (books : Books) : Call → Prop
  | .payment (.updatePaymentStatus ..) => False
  | .payment (.archivePaymentRecord ..) => False
  | .payment (.cleanupExpiredPayments ..) => False
  | .multisig (.executeMultisigPayment _ paymentId) => books.orders.get paymentId = none
  | _ => True

variable {books next : Books}

theorem PaymentOrder.IsNew.accounts {order : PaymentOrder} {now : Nat} (new : order.IsNew now) :
    order.Accounts 0 :=
  ⟨new.refundedAmount, new.status, le_refl 0⟩

theorem PaymentOrder.Accounts.refundBy {payment : PaymentOrder} {paid amount : Int}
    (accounts : payment.Accounts paid) (positive : 0 < amount) (version : Nat) :
    (payment.refundBy amount version).Accounts (amount + paid) := by
  obtain ⟨rfl, status, nonneg⟩ := accounts
  have someRefund : amount + payment.refundedAmount ≠ 0 := by omega
  refine ⟨add_comm _ _, ?_, by omega⟩
  simp [PaymentOrder.refundBy, PaymentOrder.statusAfter, someRefund, add_comm]

theorem Books.Bookkept.same (kept : books.Bookkept) (orders : next.orders = books.orders)
    (paid : ∀ orderId, refundsPaid orderId next.transfers = refundsPaid orderId books.transfers) :
    next.Bookkept where
  recorded orderId payment stored := by
    rw [paid]
    exact kept.recorded orderId payment (orders ▸ stored)
  unpaid orderId free := by
    rw [paid]
    exact kept.unpaid orderId (orders ▸ free)

/-- Storing new payments under free identifiers keeps the bookkeeping. -/
theorem Books.Bookkept.store (kept : books.Bookkept) {stored : List PaymentOrder}
    (fresh : ∀ order ∈ stored, books.orders.get order.orderId = none)
    (new : ∀ order ∈ stored, order.IsNew books.timestamp)
    (orders : next.orders = books.orders.putAll stored)
    (paid : ∀ orderId, refundsPaid orderId next.transfers = refundsPaid orderId books.transfers) :
    next.Bookkept where
  recorded orderId payment found := by
    rw [paid]
    rw [orders] at found
    rcases Table.get_putAll_cases found with listed | ⟨_, before⟩
    · have key : payment.orderId = orderId := Table.key_of_get found
      rw [kept.unpaid orderId (key ▸ fresh payment listed)]
      exact (new payment listed).accounts
    · exact kept.recorded orderId payment before
  unpaid orderId free := by
    rw [paid]
    rw [orders] at free
    exact kept.unpaid orderId (Table.get_eq_none_of_putAll free)

theorem Books.Bookkept.storeOne (kept : books.Bookkept) {order : PaymentOrder}
    (fresh : books.orders.get order.orderId = none) (new : order.IsNew books.timestamp)
    (orders : next.orders = books.orders.put order)
    (paid : ∀ orderId, refundsPaid orderId next.transfers = refundsPaid orderId books.transfers) :
    next.Bookkept :=
  kept.store (List.forall_mem_singleton.mpr fresh) (List.forall_mem_singleton.mpr new) orders paid

/-- Paying a refund out and adding it to its payment keeps the bookkeeping. -/
theorem Books.Bookkept.refund (kept : books.Bookkept) {refund : RefundRecord}
    {payment : PaymentOrder} {version : Nat} (positive : 0 < refund.amount)
    (stored : books.orders.get refund.orderId = some payment)
    (orders : next.orders = books.orders.put (payment.refundBy refund.amount version))
    (transfers : next.transfers = refund.payout payment :: books.transfers) :
    next.Bookkept where
  recorded orderId found foundHere := by
    have key : payment.orderId = refund.orderId := Table.key_of_get stored
    rw [orders, Table.get_put] at foundHere
    rw [transfers, refundsPaid_cons, refund.refunded_payout]
    split at foundHere
    · next same =>
        obtain rfl := Option.some.inj foundHere
        obtain rfl : orderId = refund.orderId := same.trans key
        rw [if_pos rfl]
        exact (kept.recorded _ payment stored).refundBy positive version
    · next different =>
        have other : refund.orderId ≠ orderId := fun same => different (same.symm.trans key.symm)
        rw [if_neg other, zero_add]
        exact kept.recorded orderId found foundHere
  unpaid orderId free := by
    have key : payment.orderId = refund.orderId := Table.key_of_get stored
    rw [orders, Table.get_put] at free
    split at free
    · simp at free
    · next different =>
        have other : refund.orderId ≠ orderId := fun same => different (same.symm.trans key.symm)
        rw [transfers, refundsPaid_cons, refund.refunded_payout, if_neg other, zero_add]
        exact kept.unpaid orderId free

end Invariant

section Steps

variable {env : Env} {books next : Books} {call : Call}

theorem Effect.bookkept (clean : books.Clean env.host.self) (kept : books.Bookkept)
    (allowed : KeepsPayments books call) (effect : Effect env books call next) :
    next.Bookkept := by
  cases effect with
  | statusUpdated => exact allowed.elim
  | archived => exact allowed.elim
  | paymentsCleaned => exact allowed.elim
  | paid call orders profiles transfers listed distinct fresh opened known charged =>
      refine kept.store fresh (fun order membership => (opened order membership).1) rfl ?_
      intro orderId
      have charges : refundsPaid orderId transfers.reverse = 0 :=
        refundsPaid_of_charges fun transfer membership =>
          (charged transfer (List.mem_reverse.mp membership)).2.1
      simp [charges]
  | refundExecuted refund payment stored approved order =>
      exact kept.refund (clean.refunds _ refund stored) order rfl rfl
  | refundForced admin resolution dispute refund payment raised unresolved stored order =>
      exact kept.refund (clean.refunds _ refund stored) order rfl rfl
  | multisigPaid payer multisig stored =>
      have fresh : books.orders.get multisig.paymentId = none := allowed
      exact kept.storeOne fresh (multisig.order_isNew payer books.timestamp) rfl
        fun _ => by simp [Transfer.refunded]
  | requestPaid payer request stored fresh =>
      exact kept.storeOne fresh (request.order_isNew payer books.timestamp) rfl
        fun _ => by simp [Transfer.refunded]
  | _ => exact kept.same rfl fun _ => by simp [Transfer.refunded]

theorem Effect.refundsPaid_le (clean : books.Clean env.host.self)
    (effect : Effect env books call next) (orderId : Text) :
    refundsPaid orderId books.transfers ≤ refundsPaid orderId next.transfers := by
  cases effect with
  | paid call orders profiles transfers listed distinct fresh opened known charged =>
      have charges : refundsPaid orderId transfers.reverse = 0 :=
        refundsPaid_of_charges fun transfer membership =>
          (charged transfer (List.mem_reverse.mp membership)).2.1
      simp [charges]
  | refundExecuted refund payment stored =>
      have positive := clean.refunds _ refund stored
      simp only [Books.payOut_transfers, refundsPaid_cons, refund.refunded_payout]
      split <;> omega
  | refundForced admin resolution dispute refund payment raised unresolved stored =>
      have positive := clean.refunds _ refund stored
      simp only [Books.payOut_transfers, refundsPaid_cons, refund.refunded_payout]
      split <;> omega
  | _ => simp [Transfer.refunded]

variable {host : Host} {allowed : Books → Call → Prop} {action : Action}

theorem Change.refundsPaid_le (sound : books.Sound host.self)
    (change : Change host allowed books action next) (orderId : Text) :
    refundsPaid orderId books.transfers ≤ refundsPaid orderId next.transfers := by
  cases change with
  | called auth permits call next admitted effect =>
      exact effect.refundsPaid_le sound.toClean orderId
  | _ => exact le_refl _

theorem Change.bookkept (sound : books.Sound host.self) (kept : books.Bookkept)
    (change : Change host KeepsPayments books action next) : next.Bookkept := by
  cases change with
  | called auth permits call next admitted effect =>
      exact effect.bookkept sound.toClean kept admitted
  | _ => exact kept.same rfl fun _ => rfl

end Steps

section Runs

variable {host : Host} {start : World}

theorem Deployed.bookkept (deployed : Deployed host start) : start.books.Bookkept := by
  obtain ⟨bank, timestamp, sequence, _, _, rfl⟩ := deployed
  exact ⟨fun orderId payment found => absurd found (by simp [World.books, World.deployed]),
    fun _ _ => rfl⟩

theorem bookkept_run {world : World} (sound : world.books.Sound host.self)
    (kept : world.books.Bookkept) {actions : List Action}
    (admitted : Along (step host) (Admits host KeepsPayments) world actions) :
    (run (step host) world actions).books.Bookkept := by
  have both : ∀ books action next, books.Sound host.self ∧ books.Bookkept →
      Change host KeepsPayments books action next → next.Sound host.self ∧ next.Bookkept :=
    fun _ _ _ holds change => ⟨change.sound holds.1, change.bookkept holds.1 holds.2⟩
  exact (books_invariant both ⟨sound, kept⟩ admitted).2

theorem refundsPaid_le_run {world : World} (sound : world.books.Sound host.self)
    (actions : List Action) (orderId : Text) :
    refundsPaid orderId world.transfers ≤
      refundsPaid orderId (run (step host) world actions).transfers := by
  induction actions generalizing world with
  | nil => exact le_refl _
  | cons action rest inductionHypothesis =>
      have change := step_change (admits_anyCall host world action)
      exact (change.refundsPaid_le sound orderId).trans (inductionHypothesis (change.sound sound))

theorem PaymentOrder.Accounts.status_iff {payment : PaymentOrder} {paid : Int}
    (accounts : payment.Accounts paid) (positive : 0 < payment.amount) :
    (payment.status = .completed ↔ paid = 0) ∧
      (payment.status = .fullyRefunded ↔ payment.amount ≤ paid) ∧
      (payment.status = .partiallyRefunded ↔ paid ≠ 0 ∧ paid < payment.amount) := by
  rw [accounts.status, statusAfter, Contract.refundStatus]
  by_cases unpaid : paid = 0
  · simp [unpaid, positive]
  · by_cases whole : payment.amount ≤ paid
    · simp [unpaid, whole]
    · simp [unpaid, whole, lt_of_not_ge whole]

/-- While nobody edits, archives or overwrites payments, a payment says what was
paid back on its account, its status follows from that, and the amount never
becomes less. -/
theorem payments_agree_with_refunds (deployed : Deployed host start) {actions : List Action}
    (kept : Along (step host) (Admits host KeepsPayments) start actions) :
    (∀ orderId payment,
      (run (step host) start actions).payments.orders.get orderId = some payment →
        payment.refundedAmount = refundsPaid orderId (run (step host) start actions).transfers ∧
        (payment.status = .completed ↔
          refundsPaid orderId (run (step host) start actions).transfers = 0) ∧
        (payment.status = .fullyRefunded ↔
          payment.amount ≤ refundsPaid orderId (run (step host) start actions).transfers) ∧
        (payment.status = .partiallyRefunded ↔
          refundsPaid orderId (run (step host) start actions).transfers ≠ 0 ∧
            refundsPaid orderId (run (step host) start actions).transfers < payment.amount)) ∧
    ∀ before after orderId first last, actions = before ++ after →
      (run (step host) start before).payments.orders.get orderId = some first →
      (run (step host) start actions).payments.orders.get orderId = some last →
      first.refundedAmount ≤ last.refundedAmount := by
  have sound := sound_run deployed.sound actions
  have bookkept := bookkept_run deployed.sound deployed.bookkept kept
  constructor
  · intro orderId payment stored
    have accounts := bookkept.recorded orderId payment stored
    have positive := (sound.orders _ payment stored).2
    exact ⟨accounts.refundedAmount, accounts.status_iff positive⟩
  · rintro before after orderId first last rfl storedFirst storedLast
    have keptBefore := ((along_append start before after).mp kept).1
    have soundBefore := sound_run deployed.sound before
    have bookkeptBefore := bookkept_run deployed.sound deployed.bookkept keptBefore
    have grown := refundsPaid_le_run soundBefore after orderId
    rw [← run_append] at grown
    calc
      first.refundedAmount = _ := (bookkeptBefore.recorded orderId first storedFirst).refundedAmount
      _ ≤ _ := grown
      _ = last.refundedAmount := (bookkept.recorded orderId last storedLast).refundedAmount.symm

end Runs

/-- A refund of 200 on a payment of 500. -/
def Sample.refunding : List Action := [
  invokedBy payer (.payment (.processPaymentWithNonce payer [1] shop coin 500 [] none 0)),
  invokedBy payer (.refund (.initiateRefund payer [2] [1] 200 [])),
  invokedBy shop (.refund (.approveRefund shop [2])),
  invokedBy shop (.refund (.executeRefund [2]))]

theorem Sample.refunding_keeps :
    Along (step host) (Admits host KeepsPayments) start (opening ++ refunding) := by
  simp [opening, refunding, invokedBy, Admits, KeepsPayments]

theorem payments_agree_with_refunds_sample :
    ∃ payment, (Sample.world Sample.refunding).payments.orders.get [1] = some payment ∧
      payment.refundedAmount = refundsPaid [1] (Sample.world Sample.refunding).transfers ∧
      refundsPaid [1] (Sample.world Sample.refunding).transfers = 200 := by
  have present : ((Sample.world Sample.refunding).payments.orders.get [1]).isSome = true := by
    decide +kernel
  obtain ⟨payment, stored⟩ := Option.isSome_iff_exists.mp present
  have agree := payments_agree_with_refunds Sample.deployed_start Sample.refunding_keeps
  exact ⟨payment, stored, (agree.1 [1] payment stored).1, by decide +kernel⟩

end LumenFlow

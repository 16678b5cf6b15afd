import LumenFlow.Safety.Payouts

/-!
# What a refund settles against

A refund names its payment by the order identifier only, and stays on file when
the payment is archived.  It settles against the payment it was opened for as
long as nobody pays other parties under that identifier in the meantime.
-/

namespace LumenFlow

open Kit

/-- The parties and the token of a payment. -/
structure PaymentTerms.SameParties (first second : PaymentTerms) : Prop where
  merchantAddress : first.merchantAddress = second.merchantAddress
  payer : first.payer = second.payer
  token : first.token = second.token

/-- The call stores no payment between other parties under the order identifier. -/
def KeepsParties (terms : PaymentTerms) (books : Books) (call : Call) : Prop :=
  ∀ new ∈ call.terms books, new.orderId = terms.orderId → new.SameParties terms

section Steps

variable {env : Env} {books next : Books} {call : Call} {refundId orderId : Text}

/-- Whatever is stored under the order identifier of the terms has their parties. -/
def Books.Agrees (terms : PaymentTerms) (books : Books) : Prop :=
  ∀ order, books.orders.get terms.orderId = some order → order.terms.SameParties terms

variable {terms : PaymentTerms}

theorem Books.Agrees.put (agrees : books.Agrees terms) {order : PaymentOrder}
    (same : order.orderId = terms.orderId → order.terms.SameParties terms) :
    Books.Agrees terms { books with orders := books.orders.put order } := by
  intro found foundHere
  rw [Table.get_put] at foundHere
  split at foundHere
  · next here =>
      obtain rfl := Option.some.inj foundHere
      exact same here.symm
  · exact agrees found foundHere

theorem Books.Agrees.rewrite (agrees : books.Agrees terms)
    {payment order : PaymentOrder} (stored : books.orders.get payment.orderId = some payment)
    (same : order.terms = payment.terms) :
    Books.Agrees terms { books with orders := books.orders.put order } := by
  apply agrees.put
  intro here
  have key : order.orderId = payment.orderId := congrArg PaymentTerms.orderId same
  rw [same]
  exact agrees payment (by rw [← here, key]; exact stored)

theorem Effect.agrees (keeps : KeepsParties terms books call)
    (agrees : books.Agrees terms) (effect : Effect env books call next) :
    next.Agrees terms := by
  cases effect with
  | paid call orders profiles transfers listed distinct fresh =>
      intro order found
      rcases Table.get_putAll_cases found with written | ⟨_, stored⟩
      · have membership : order.terms ∈ call.terms := by
          rw [← listed]
          exact List.mem_map_of_mem written
        have key : order.orderId = terms.orderId := Table.key_of_get found
        exact keeps order.terms membership key
      · exact agrees order stored
  | statusUpdated caller updated refundedAmount expectedVersion payment stored =>
      obtain rfl := Table.key_of_get stored
      exact agrees.rewrite stored rfl
  | archived admin archivedId =>
      exact fun order found => agrees order (Table.sub_erase _ _ _ _ found)
  | paymentsCleaned admin batchSize orders refunds ordersSub =>
      exact fun order found => agrees order (ordersSub _ _ found)
  | refundExecuted refund payment stored approved order =>
      have key : payment.orderId = refund.orderId := Table.key_of_get order
      rw [← key] at order
      exact agrees.rewrite order rfl
  | refundForced admin resolution dispute refund payment raised unresolved stored order =>
      have key : payment.orderId = refund.orderId := Table.key_of_get order
      rw [← key] at order
      exact agrees.rewrite order rfl
  | multisigPaid payer multisig stored =>
      have listed : (multisig.order payer books.timestamp).terms ∈
          (Call.multisig (.executeMultisigPayment payer multisig.paymentId)).terms books := by
        simp [Call.terms, stored]
      exact agrees.put (keeps _ listed)
  | requestPaid payer request stored =>
      have listed : (request.order payer books.timestamp).terms ∈
          (Call.multisig (.payPaymentRequest payer request.requestId)).terms books := by
        simp [Call.terms, stored]
      exact agrees.put (keeps _ listed)
  | _ => exact agrees

/-- A refund on file keeps its order and its amount. -/
structure RefundRecord.SameSubject (first second : RefundRecord) : Prop where
  orderId : first.orderId = second.orderId
  amount : first.amount = second.amount

variable {first last : RefundRecord}

theorem sameSubject_put {refund : RefundRecord} {status : RefundStatus}
    (stored : books.refunds.get refund.refundId = some refund)
    (before : books.refunds.get refundId = some first)
    (after : (books.refunds.put { refund with status }).get refundId = some last) :
    last.SameSubject first := by
  rcases Table.get_rewrite_cases { refund with status } stored rfl before with
    kept | ⟨rfl, written⟩
  · obtain rfl := Option.some.inj (kept.symm.trans after)
    exact ⟨rfl, rfl⟩
  · obtain rfl := Option.some.inj (written.symm.trans after)
    exact ⟨rfl, rfl⟩

theorem Effect.sameSubject (effect : Effect env books call next)
    (before : books.refunds.get refundId = some first)
    (after : next.refunds.get refundId = some last) : last.SameSubject first := by
  cases effect with
  | paid =>
      simp only [Books.settleAll_refunds, before] at after
      obtain rfl := Option.some.inj after
      exact ⟨rfl, rfl⟩
  | paymentsCleaned admin batchSize orders refunds ordersSub refundsSub =>
      obtain rfl := Option.some.inj (before.symm.trans (refundsSub _ _ after))
      exact ⟨rfl, rfl⟩
  | refundsCleaned admin refunds sub =>
      obtain rfl := Option.some.inj (before.symm.trans (sub _ _ after))
      exact ⟨rfl, rfl⟩
  | refundOpened caller opened orderId amount reason payment free =>
      obtain rfl := Table.eq_of_put_free free before after
      exact ⟨rfl, rfl⟩
  | refundDecided call refund status stored => exact sameSubject_put stored before after
  | refundExecuted refund payment stored => exact sameSubject_put stored before after
  | refundForced admin resolution dispute refund payment raised unresolved stored =>
      have key : refund.refundId = dispute.refundId := Table.key_of_get stored
      rw [← key] at stored
      exact sameSubject_put stored before after
  | _ =>
      obtain rfl := Option.some.inj (before.symm.trans after)
      exact ⟨rfl, rfl⟩

/-- The movements that pay a refund out are made by its payout. -/
theorem Effect.payouts (effect : Effect env books call next) :
    ∃ new, next.transfers = new ++ books.transfers ∧
      ∀ transfer ∈ new, transfer.cause.pays refundId = true →
        ∃ refund payment, books.refunds.get refundId = some refund ∧
          books.orders.get refund.orderId = some payment ∧
          transfer = refund.payout payment := by
  cases effect with
  | paid call orders profiles transfers listed distinct fresh opened known charged =>
      refine ⟨transfers.reverse, by simp, fun transfer membership pays => ?_⟩
      have charge := (charged transfer (List.mem_reverse.mp membership)).2.1
      cases found : transfer.cause <;> simp [found, Cause.pays, Cause.IsCharge] at charge pays
  | refundExecuted refund payment stored approved order =>
      refine ⟨[refund.payout payment], rfl, fun transfer membership pays => ?_⟩
      obtain rfl := List.mem_singleton.mp membership
      obtain rfl : refund.refundId = refundId := by
        simpa [RefundRecord.payout, Cause.pays] using pays
      exact ⟨refund, payment, stored, order, rfl⟩
  | refundForced admin resolution dispute refund payment raised unresolved stored order =>
      refine ⟨[refund.payout payment], rfl, fun transfer membership pays => ?_⟩
      obtain rfl := List.mem_singleton.mp membership
      obtain rfl : refund.refundId = refundId := by
        simpa [RefundRecord.payout, Cause.pays] using pays
      have key : refund.refundId = dispute.refundId := Table.key_of_get stored
      rw [← key] at stored
      exact ⟨refund, payment, stored, order, rfl⟩
  | multisigPaid => exact ⟨[_], rfl, by simp [Cause.pays]⟩
  | requestPaid => exact ⟨[_], rfl, by simp [Cause.pays]⟩
  | charged => exact ⟨[_], rfl, by simp [Cause.pays]⟩
  | escrowOpened => exact ⟨[_], rfl, by simp [Cause.pays]⟩
  | escrowSettled => exact ⟨[_], rfl, by simp [Cause.pays]⟩
  | holdOpened => exact ⟨[_], rfl, by simp [Cause.pays]⟩
  | holdSettled => exact ⟨[_], rfl, by simp [Cause.pays]⟩
  | _ => exact ⟨[], rfl, by simp⟩

variable {host : Host} {action : Action}

theorem Change.agrees (change : Change host (KeepsParties terms) books action next)
    (agrees : books.Agrees terms) : next.Agrees terms := by
  cases change with
  | called auth permits call next admitted effect => exact effect.agrees admitted agrees
  | _ => exact agrees

variable {allowed : Books → Call → Prop}

theorem Change.sameSubject (change : Change host allowed books action next)
    (before : books.refunds.get refundId = some first)
    (after : next.refunds.get refundId = some last) : last.SameSubject first := by
  cases change with
  | called auth permits call next admitted effect => exact effect.sameSubject before after
  | _ =>
      obtain rfl := Option.some.inj (before.symm.trans after)
      exact ⟨rfl, rfl⟩

theorem Change.payouts (change : Change host allowed books action next) :
    ∃ new, next.transfers = new ++ books.transfers ∧
      ∀ transfer ∈ new, transfer.cause.pays refundId = true →
        ∃ refund payment, books.refunds.get refundId = some refund ∧
          books.orders.get refund.orderId = some payment ∧
          transfer = refund.payout payment := by
  cases change with
  | called auth permits call next admitted effect => exact effect.payouts
  | _ => exact ⟨[], rfl, by simp⟩

end Steps

section Runs

variable {host : Host} {world opened : World} {terms : PaymentTerms} {refundId : Text}

/-- While a refund stays on file and nobody pays other parties under its order, the
refund keeps its subject and what is stored under the order agrees with the terms. -/
theorem agrees_run {actions : List Action} {first : RefundRecord}
    (keeps : Along (step host) (Admits host (KeepsParties terms)) world actions)
    (throughout : Throughout (step host) (OnFile refundId) world actions)
    (agrees : world.books.Agrees terms)
    (before : world.refunds.records.get refundId = some first) :
    (run (step host) world actions).books.Agrees terms ∧
      ∀ last, (run (step host) world actions).refunds.records.get refundId = some last →
        last.SameSubject first := by
  induction actions generalizing world first with
  | nil =>
      refine ⟨agrees, fun last after => ?_⟩
      obtain rfl := Option.some.inj (before.symm.trans after)
      exact ⟨rfl, rfl⟩
  | cons action rest inductionHypothesis =>
      obtain ⟨middle, stored⟩ := throughout.tail.here
      have change := step_change keeps.1
      have subject := change.sameSubject before stored
      obtain ⟨later, same⟩ :=
        inductionHypothesis keeps.2 throughout.tail (change.agrees agrees) stored
      refine ⟨later, fun last after => ?_⟩
      have tail := same last after
      exact ⟨tail.orderId.trans subject.orderId, tail.amount.trans subject.amount⟩

theorem initiateRefund_opens {auth : List Address} {permits : TokenCall → Bool}
    {caller : Address} {orderId reason : Text} {amount : Int} {order : PaymentOrder}
    (opens : Succeeds host world auth permits
      (.refund (.initiateRefund caller refundId orderId amount reason)) opened)
    (stored : world.payments.orders.get orderId = some order) :
    (∃ refund, opened.refunds.records.get refundId = some refund ∧ refund.orderId = orderId ∧
      refund.amount = amount) ∧
      opened.payments.orders = world.payments.orders ∧
      order.refundedAmount + amount ≤ order.amount := by
  have executed := opens.executes
  simp [Call.exec, RefundCall.exec, Contract.initiateRefund] at executed
  obtain ⟨_, _, _, _, _, _, payment, found, _, _, _, _, _, bounded, _, rfl⟩ := executed
  obtain rfl := Option.some.inj (stored.symm.trans found)
  exact ⟨⟨_, Table.get_put_self world.refunds.records _, rfl, rfl⟩, rfl, bounded⟩

/-- From the initiation of a refund on, and while it stays on file, every payout
of the refund goes from the merchant to the payer of the payment that was stored
when the refund was initiated, in its token and within its amount, if nothing
negative was entered as refunded in that payment and nobody pays other parties
under its identifier. -/
theorem refund_settles_its_payment {auth : List Address} {permits : TokenCall → Bool}
    {caller : Address} {orderId reason : Text} {amount : Int} {order : PaymentOrder}
    (opens : Succeeds host world auth permits
      (.refund (.initiateRefund caller refundId orderId amount reason)) opened)
    (stored : world.payments.orders.get orderId = some order)
    (sane : 0 ≤ order.refundedAmount) {actions : List Action}
    (keeps : Along (step host) (Admits host (KeepsParties order.terms)) opened actions)
    (throughout : Throughout (step host) (OnFile refundId) opened actions) (action : Action) :
    ∃ new, (step host (run (step host) opened actions) action).transfers =
        new ++ (run (step host) opened actions).transfers ∧
      ∀ transfer ∈ new, transfer.cause.pays refundId = true →
        transfer = ⟨.refund refundId orderId, order.token, order.merchantAddress, order.payer,
          amount⟩ ∧ transfer.amount ≤ order.amount := by
  obtain ⟨⟨refund, onFile, sameOrder, sameAmount⟩, sameOrders, bounded⟩ :=
    initiateRefund_opens opens stored
  have key : order.orderId = orderId := Table.key_of_get stored
  have agrees : opened.books.Agrees order.terms := by
    intro found foundHere
    change opened.payments.orders.get order.orderId = some found at foundHere
    rw [sameOrders, key, stored] at foundHere
    obtain rfl := Option.some.inj foundHere
    exact ⟨rfl, rfl, rfl⟩
  obtain ⟨agreesLater, subject⟩ := agrees_run keeps throughout agrees onFile
  obtain ⟨new, log, payouts⟩ :=
    (step_change (admits_anyCall host (run (step host) opened actions) action)).payouts
  refine ⟨new, log, fun transfer membership pays => ?_⟩
  obtain ⟨last, payment, found, paid, rfl⟩ := payouts transfer membership pays
  obtain ⟨lastOrder, lastAmount⟩ := subject last found
  have name : last.refundId = refundId := Table.key_of_get found
  have under : last.orderId = orderId := lastOrder.trans sameOrder
  have amounts : last.amount = amount := lastAmount.trans sameAmount
  have current : (run (step host) opened actions).payments.orders.get order.orderId =
      some payment := by
    rw [key, ← under]
    exact paid
  obtain ⟨merchantAddress, payer, token⟩ := agreesLater payment current
  have payout : last.payout payment = ⟨.refund refundId orderId, order.token,
      order.merchantAddress, order.payer, amount⟩ := by
    rw [← name, ← under, ← amounts, ← show payment.token = order.token from token,
      ← show payment.merchantAddress = order.merchantAddress from merchantAddress,
      ← show payment.payer = order.payer from payer]
    rfl
  refine ⟨payout, ?_⟩
  rw [payout]
  change amount ≤ order.amount
  omega

end Runs

namespace Sample

def paying : Action :=
  invokedBy payer (.payment (.processPaymentWithNonce payer [1] shop coin 500 [] none 0))

def requesting : Action := invokedBy payer (.refund (.initiateRefund payer [2] [1] 300 []))

def approving : Action := invokedBy shop (.refund (.approveRefund shop [2]))

def paidOrder : PaymentOrder :=
  ⟨[1], shop, payer, coin, 500, 0, .completed, 0, 0, [], none, 0⟩

/-- The world in which the refund has just been initiated. -/
def requested : World := step host (world [paying]) requesting

/-- The payment is archived, its identifier used for another one, and the refund executed. -/
def misdirecting : List Action := [
  invokedBy admin (.payment (.archivePaymentRecord admin [1])),
  invokedBy shop (.payment (.processPaymentWithNonce shop [1] rival coin 100 [] none 0)),
  invokedBy rival (.refund (.executeRefund [2]))]

theorem requested_succeeds :
    Succeeds host (world [paying]) [payer] (fun _ => true)
      (.refund (.initiateRefund payer [2] [1] 300 [])) requested :=
  succeeds_of_changed (·.refunds.records.get [2]) (by decide +kernel)

theorem paidOrder_stored : (world [paying]).payments.orders.get [1] = some paidOrder := by
  decide +kernel

theorem approving_keeps (terms : PaymentTerms) :
    Along (step host) (Admits host (KeepsParties terms)) requested [approving] := by
  simp [approving, invokedBy, Admits, KeepsParties, Call.terms]

theorem onFile_approving : Throughout (step host) (OnFile [2]) requested [approving] :=
  throughout_single (Option.isSome_iff_exists.mp (by decide +kernel))
    (Option.isSome_iff_exists.mp (by decide +kernel))

end Sample

theorem refund_settles_its_payment_sample :
    ∃ new, (step Sample.host (run (step Sample.host) Sample.requested [Sample.approving])
          (Sample.invokedBy Sample.shop (.refund (.executeRefund [2])))).transfers =
        new ++ (run (step Sample.host) Sample.requested [Sample.approving]).transfers ∧
      ∀ transfer ∈ new, transfer.cause.pays [2] = true →
        transfer = ⟨.refund [2] [1], Sample.coin, Sample.shop, Sample.payer, 300⟩ ∧
          transfer.amount ≤ 500 :=
  refund_settles_its_payment Sample.requested_succeeds Sample.paidOrder_stored (by decide)
    (Sample.approving_keeps _) Sample.onFile_approving _

theorem refund_settles_another_payment :
    Succeeds Sample.host (Sample.world [Sample.paying]) [Sample.payer] (fun _ => true)
        (.refund (.initiateRefund Sample.payer [2] [1] 300 [])) Sample.requested ∧
      (Sample.world [Sample.paying]).payments.orders.get [1] = some Sample.paidOrder ∧
      (run (step Sample.host) Sample.requested
          (Sample.approving :: Sample.misdirecting)).transfers.head? =
        some ⟨.refund [2] [1], Sample.coin, Sample.rival, Sample.shop, 300⟩ :=
  ⟨Sample.requested_succeeds, Sample.paidOrder_stored, by decide +kernel⟩

end LumenFlow

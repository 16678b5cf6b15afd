import LumenFlow.Safety.Solvency

/-!
# Stored payments are not overwritten

Every way to pay looks for a payment under the identifier first, except the
execution of a multisig payment.
-/

namespace LumenFlow

open Kit

section Multisig

/-- The checks of the execution of a multisig payment. -/
structure MultisigPayment.Payable (env : Env) (world : World) (payer : Address)
    (multisig : MultisigPayment) : Prop where
  sized : Sized multisig.paymentId
  unpaused : world.gov.paused = false
  authorised : env.Authorised payer
  pending : multisig.executed = false
  standing : multisig.cancelled = false
  current : ∀ limit ∈ multisig.expiresAt, world.timestamp ≤ limit
  signed : multisig.requiredSignatures ≤ multisig.collected.length
  permitted : env.permits
    (.transfer multisig.token payer multisig.merchantAddress multisig.amount) = true
  nonneg : 0 ≤ multisig.amount
  funded : multisig.amount ≤ world.bank.balance multisig.token payer
  counted : world.stats.global.totalPayments + 1 ≤ u32Max

variable {env : Env} {world next : World}

theorem addMerchantPaymentId_total (env : Env) (merchant : Address) (orderId : Text)
    (world : World) :
    ∃ next, (Tx.when ((world.getMerchantPaymentIds merchant).length <
        maxPaymentIdsPerAccount)
          (Contract.addMerchantPaymentId merchant orderId)).Commits env world () next ∧
      next.stats = world.stats := by
  by_cases room : (world.payments.merchantIds merchant).length < maxPaymentIdsPerAccount
  · refine ⟨world.updatePayments fun book => { book with
      merchantIds := Function.update book.merchantIds merchant
        (world.payments.merchantIds merchant ++ [orderId]) }, ?_, rfl⟩
    simp [Contract.addMerchantPaymentId, room]
  · exact ⟨world, Tx.commits_when.mpr (.inr ⟨room, rfl⟩), rfl⟩

theorem addPayerPaymentId_total (env : Env) (payer : Address) (orderId : Text) (world : World) :
    ∃ next, (Tx.when ((world.getPayerPaymentIds payer).length <
        maxPaymentIdsPerAccount)
          (Contract.addPayerPaymentId payer orderId)).Commits env world () next ∧
      next.stats = world.stats := by
  by_cases room : (world.payments.payerIds payer).length < maxPaymentIdsPerAccount
  · refine ⟨world.updatePayments fun book => { book with
      payerIds := Function.update book.payerIds payer
        (world.payments.payerIds payer ++ [orderId]) }, ?_, rfl⟩
    simp [Contract.addPayerPaymentId, room]
  · exact ⟨world, Tx.commits_when.mpr (.inr ⟨room, rfl⟩), rfl⟩

theorem recordPaymentBestEffort_total (env : Env) (payment : PaymentOrder) (world : World) :
    ∃ next, (Contract.recordPaymentBestEffort payment).Commits env world () next ∧
      next.stats = world.stats := by
  obtain ⟨middle, merchantIndex, sameMiddle⟩ :=
    addMerchantPaymentId_total env payment.merchantAddress payment.orderId
      (world.setPayment payment)
  obtain ⟨next, payerIndex, sameNext⟩ :=
    addPayerPaymentId_total env payment.payer payment.orderId middle
  refine ⟨next, ?_, sameNext.trans sameMiddle⟩
  simp only [Contract.recordPaymentBestEffort, Tx.commits_bind, Tx.exists_unit, Tx.commits_modify,
    exists_eq_left, Tx.commits_gets]
  exact ⟨_, _, ⟨rfl, rfl⟩, middle, merchantIndex, _, _, ⟨rfl, rfl⟩, payerIndex⟩

theorem countGlobalPayment_commits_iff {amount : Int} :
    (∃ next, (Contract.countGlobalPayment amount).Commits env world () next) ↔
      world.stats.global.totalPayments + 1 ≤ u32Max := by
  simp [Contract.countGlobalPayment, Contract.countedPayment]

/-- The execution of a multisig payment makes exactly these checks. -/
theorem executeMultisigPayment_succeeds_iff {host : Host} {auth : List Address}
    {permits : TokenCall → Bool} {payer : Address} {paymentId : Text} :
    (∃ next, Succeeds host world auth permits (.multisig (.executeMultisigPayment payer paymentId))
      next) ↔
      ∃ multisig, world.multisigs.get paymentId = some multisig ∧
        multisig.Payable (host.env auth permits) world payer := by
  constructor
  · rintro ⟨next, succeeded⟩
    obtain ⟨sized, executed⟩ := succeeds_iff.mp succeeded
    simp [Call.exec, MultisigCall.exec, Contract.executeMultisigPayment] at executed
    obtain ⟨unpaused, authorised, multisig, stored, pending, standing, current, signed,
      ⟨_, permitted, nonneg, funded⟩, middle, recorded, counting⟩ := executed
    obtain ⟨_, known, sameStats⟩ := recordPaymentBestEffort_total _ _ _
    obtain rfl := (Tx.commits_deterministic known recorded).2
    have counted := countGlobalPayment_commits_iff.mp ⟨next, counting⟩
    rw [sameStats] at counted
    obtain rfl := Table.key_of_get stored
    exact ⟨multisig, stored, sized, unpaused, authorised, pending, standing, current, signed,
      permitted, nonneg, funded, counted⟩
  · rintro ⟨multisig, stored, payable⟩
    obtain rfl := Table.key_of_get stored
    obtain ⟨middle, recorded, sameStats⟩ := recordPaymentBestEffort_total (host.env auth permits)
      (multisig.order payer world.timestamp)
      ((world.moveTokens ⟨.multisig multisig.paymentId, multisig.token, payer,
        multisig.merchantAddress, multisig.amount⟩).setMultisig { multisig with executed := true })
    obtain ⟨next, counting⟩ : ∃ next, (Contract.countGlobalPayment multisig.amount).Commits
        (host.env auth permits) middle () next := by
      rw [countGlobalPayment_commits_iff, sameStats]
      exact payable.counted
    refine ⟨next, succeeds_iff.mpr ⟨payable.sized, ?_⟩⟩
    simp [Call.exec, MultisigCall.exec, Contract.executeMultisigPayment]
    exact ⟨payable.unpaused, payable.authorised, multisig, stored, payable.pending,
      payable.standing, payable.current, payable.signed,
      ⟨.inr payable.authorised, payable.permitted, payable.nonneg, payable.funded⟩,
      middle, recorded, counting⟩

end Multisig

section Steps

variable {env : Env} {books next : Books} {call : Call} {orderId : Text} {first last : PaymentOrder}

/-- Every successful way to pay found its identifiers free, but for the multisig
payment. -/
theorem Effect.fresh (effect : Effect env books call next) (written : orderId ∈ call.orderIds) :
    books.orders.get orderId = none ∨
      ∃ payer, call = .multisig (.executeMultisigPayment payer orderId) := by
  cases effect with
  | quiet call silent => simp [silent] at written
  | paid call orders profiles transfers listed distinct fresh =>
      rw [Call.orderIds, ← listed, List.map_map] at written
      obtain ⟨order, membership, rfl⟩ := List.mem_map.mp written
      exact .inl (fresh order membership)
  | multisigOpened call multisig free positive registered silent => simp [silent] at written
  | multisigChanged call old multisig stored same silent => simp [silent] at written
  | requestOpened call request positive authorised silent => simp [silent] at written
  | requestsDropped call requests sub silent => simp [silent] at written
  | multisigPaid payer multisig =>
      obtain rfl := List.mem_singleton.mp written
      exact .inr ⟨payer, rfl⟩
  | requestPaid payer request stored fresh =>
      obtain rfl := List.mem_singleton.mp written
      exact .inl fresh
  | _ => simp [Call.orderIds, PaymentCall.terms] at written

/-- The payments are about the same: who pays whom what, and since when. -/
structure PaymentOrder.SameIdentity (first second : PaymentOrder) : Prop where
  terms : first.terms = second.terms
  paidAt : first.paidAt = second.paidAt

theorem PaymentOrder.SameIdentity.refl (order : PaymentOrder) : order.SameIdentity order :=
  ⟨rfl, rfl⟩

theorem PaymentOrder.SameIdentity.trans {first second third : PaymentOrder}
    (head : first.SameIdentity second) (tail : second.SameIdentity third) :
    first.SameIdentity third :=
  ⟨head.terms.trans tail.terms, head.paidAt.trans tail.paidAt⟩

/-- The call does not execute a multisig payment over a stored payment. -/
def NoOverwrite (books : Books) : Call → Prop
  | .multisig (.executeMultisigPayment _ paymentId) => books.orders.get paymentId = none
  | _ => True

theorem sameIdentity_put {payment changed : PaymentOrder}
    (stored : books.orders.get payment.orderId = some payment)
    (before : books.orders.get orderId = some first)
    (after : (books.orders.put changed).get orderId = some last)
    (same : changed.SameIdentity payment) : last.SameIdentity first := by
  have key : changed.orderId = payment.orderId := congrArg PaymentTerms.orderId same.terms
  rcases Table.get_rewrite_cases changed stored key before with kept | ⟨rfl, written⟩
  · obtain rfl := Option.some.inj (kept.symm.trans after)
    exact .refl first
  · obtain rfl := Option.some.inj (written.symm.trans after)
    exact same

theorem sameIdentity_put_fresh {order : PaymentOrder}
    (fresh : books.orders.get order.orderId = none)
    (before : books.orders.get orderId = some first)
    (after : (books.orders.put order).get orderId = some last) : last.SameIdentity first := by
  obtain rfl := Table.eq_of_put_free fresh before after
  exact .refl first

theorem Effect.sameIdentity (allowed : NoOverwrite books call) (effect : Effect env books call next)
    (before : books.orders.get orderId = some first)
    (after : next.orders.get orderId = some last) : last.SameIdentity first := by
  cases effect with
  | paid call orders profiles transfers listed distinct fresh =>
      rcases Table.get_putAll_cases after with written | ⟨_, same⟩
      · have key : last.orderId = orderId := Table.key_of_get after
        rw [← key, fresh last written] at before
        simp at before
      · obtain rfl := Option.some.inj (before.symm.trans same)
        exact .refl first
  | statusUpdated caller updated refundedAmount expectedVersion payment stored =>
      obtain rfl := Table.key_of_get stored
      exact sameIdentity_put stored before after ⟨rfl, rfl⟩
  | archived admin archivedId =>
      obtain rfl := Option.some.inj (before.symm.trans (Table.sub_erase _ _ _ _ after))
      exact .refl first
  | paymentsCleaned admin batchSize orders refunds ordersSub refundsSub =>
      obtain rfl := Option.some.inj (before.symm.trans (ordersSub _ _ after))
      exact .refl first
  | refundExecuted refund payment stored approved order =>
      have key : payment.orderId = refund.orderId := Table.key_of_get order
      rw [← key] at order
      exact sameIdentity_put order before after ⟨rfl, rfl⟩
  | refundForced admin resolution dispute refund payment raised unresolved stored order =>
      have key : payment.orderId = refund.orderId := Table.key_of_get order
      rw [← key] at order
      exact sameIdentity_put order before after ⟨rfl, rfl⟩
  | multisigPaid payer multisig stored =>
      have fresh : books.orders.get multisig.paymentId = none := allowed
      exact sameIdentity_put_fresh fresh before after
  | requestPaid payer request stored fresh => exact sameIdentity_put_fresh fresh before after
  | _ =>
      obtain rfl := Option.some.inj (before.symm.trans after)
      exact .refl first

theorem Change.sameIdentity {host : Host} {action : Action}
    (change : Change host NoOverwrite books action next)
    (before : books.orders.get orderId = some first)
    (after : next.orders.get orderId = some last) : last.SameIdentity first := by
  cases change with
  | called auth permits call next admitted effect => exact effect.sameIdentity admitted before after
  | _ =>
      obtain rfl := Option.some.inj (before.symm.trans after)
      exact .refl first

end Steps

section Runs

variable {host : Host} {start world : World} {orderId : Text} {first last : PaymentOrder}

/-- A payment is stored under the identifier. -/
def Stored (orderId : Text) (world : World) : Prop :=
  ∃ order, world.payments.orders.get orderId = some order

/-- No multisig payment that passes its own checks is executed over a stored payment. -/
def SparesOrders (host : Host) (world : World) : Action → Prop
  | .invoke auth permits (.multisig (.executeMultisigPayment payer paymentId)) =>
      Stored paymentId world → ∀ multisig, world.multisigs.get paymentId = some multisig →
        ¬ multisig.Payable (host.env auth permits) world payer
  | _ => True

theorem admits_noOverwrite {action : Action} (spares : SparesOrders host world action) :
    Admits host NoOverwrite world action := by
  cases action with
  | invoke auth permits call =>
      intro next succeeded
      unfold NoOverwrite
      split
      · next payer paymentId =>
          obtain ⟨multisig, stored, payable⟩ :=
            executeMultisigPayment_succeeds_iff.mp ⟨next, succeeded⟩
          cases found : world.payments.orders.get paymentId with
          | none => exact found
          | some order => exact absurd payable (spares ⟨order, found⟩ multisig stored)
      · trivial
  | _ => trivial

/-- A call that would write over a stored payment fails, unless it is the execution
of a multisig payment. -/
theorem not_succeeds_of_stored {auth : List Address} {permits : TokenCall → Bool} {call : Call}
    (spares : SparesOrders host world (.invoke auth permits call))
    (written : orderId ∈ call.orderIds) (stored : Stored orderId world) (next : World) :
    ¬ Succeeds host world auth permits call next := by
  intro succeeded
  obtain ⟨order, found⟩ := stored
  rcases succeeded.effect.fresh written with free | ⟨payer, rfl⟩
  · exact absurd (free.symm.trans found) (by simp)
  · have free : world.payments.orders.get orderId = none :=
      admits_noOverwrite spares next succeeded
    exact absurd (free.symm.trans found) (by simp)

/-- A payment keeps its identity as long as it stays stored. -/
theorem sameIdentity_run {actions : List Action}
    (spares : Along (step host) (SparesOrders host) world actions)
    (throughout : Throughout (step host) (Stored orderId) world actions)
    (before : world.payments.orders.get orderId = some first)
    (after : (run (step host) world actions).payments.orders.get orderId = some last) :
    last.SameIdentity first := by
  induction actions generalizing world first with
  | nil =>
      obtain rfl := Option.some.inj (before.symm.trans after)
      exact .refl first
  | cons action rest inductionHypothesis =>
      obtain ⟨middle, stored⟩ := throughout.tail.here
      have head := (step_change (admits_noOverwrite spares.1)).sameIdentity before stored
      exact (inductionHypothesis spares.2 throughout.tail stored after).trans head

/-- In a run, every call that would write over a stored payment fails without
effect and every stored payment keeps its identity, exactly if no multisig payment
that passes its own checks is executed over a stored payment. -/
theorem orders_not_overwritten_iff (actions : List Action) :
    ((∀ before auth permits call after orderId,
        actions = before ++ .invoke auth permits call :: after → orderId ∈ call.orderIds →
        Stored orderId (run (step host) start before) →
        (∀ next, ¬ Succeeds host (run (step host) start before) auth permits call next) ∧
          step host (run (step host) start before) (.invoke auth permits call) =
            run (step host) start before) ∧
      ∀ before during after orderId first last, actions = before ++ (during ++ after) →
        Throughout (step host) (Stored orderId) (run (step host) start before) during →
        (run (step host) start before).payments.orders.get orderId = some first →
        (run (step host) start (before ++ during)).payments.orders.get orderId = some last →
        last.SameIdentity first) ↔
      Along (step host) (SparesOrders host) start actions := by
  constructor
  · rintro ⟨refused, _⟩
    rw [along_iff_split]
    intro before action after split
    unfold SparesOrders
    split
    · next auth permits payer paymentId =>
        intro stored multisig found payable
        obtain ⟨next, succeeded⟩ :=
          executeMultisigPayment_succeeds_iff.mpr ⟨multisig, found, payable⟩
        exact (refused before auth permits _ after paymentId split (by simp [Call.orderIds])
          stored).1 next succeeded
    · trivial
  · intro spares
    constructor
    · intro before auth permits call after orderId split written stored
      have now := (along_iff_split start actions).mp spares before _ after split
      have fails := not_succeeds_of_stored now written stored
      exact ⟨fails, step_eq_of_not_succeeds fails⟩
    · rintro before during after orderId first last rfl throughout stored later
      rw [run_append] at later
      exact sameIdentity_run spares.during throughout stored later

end Runs

/-- A signed multisig payment to one merchant and, under its identifier, a stored
payment to another. -/
def Sample.clashing : List Action := [
  invokedBy shop (.multisig
    (.initiateMultisigPayment shop [1] shop coin 100 [shop] 1 none)),
  invokedBy shop (.multisig (.signMultisigPayment shop [1] [0])),
  invokedBy payer (.payment (.processPaymentWithNonce payer [1] rival coin 500 [] none 0))]

def Sample.overwriting : Action :=
  invokedBy payer (.multisig (.executeMultisigPayment payer [1]))

theorem order_overwritten :
    ((Sample.world Sample.clashing).payments.orders.get [1]).map PaymentOrder.terms =
        some ⟨[1], Sample.rival, Sample.payer, Sample.coin, 500⟩ ∧
      ((Sample.world (Sample.clashing ++ [Sample.overwriting])).payments.orders.get [1]).map
          PaymentOrder.terms =
        some ⟨[1], Sample.shop, Sample.payer, Sample.coin, 100⟩ := by
  decide +kernel

end LumenFlow

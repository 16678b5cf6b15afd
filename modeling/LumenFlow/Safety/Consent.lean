import Mathlib.Algebra.Ring.Nat
import LumenFlow.Safety.Solvency
import LumenFlow.Safety.Subscriptions

/-!
# Who has consented to a payment

Every movement of tokens that an accepted call makes is either paid by the contract itself, or
authorised by the account that pays, in that very call, or the charge of a subscription.  A
charge is authorised by the merchant only, so its consent lies in the past: the invariant is
that every stored subscription was taken by its subscriber, in an accepted call for the plan
whose amount is charged now.
-/

namespace LumenFlow

open Kit Contract

/-- What a movement adds to the balance of an account. -/
def Transfer.gain (token account : Address) (transfer : Transfer) : Int :=
  (if token = transfer.token ∧ account = transfer.recipient then transfer.amount else 0) -
    (if token = transfer.token ∧ account = transfer.sender then transfer.amount else 0)

/-- The account that pays is the contract, or has authorised the call. -/
def Transfer.Signed (env : Env) (transfer : Transfer) : Prop :=
  transfer.sender = env.host.self ∨ env.Authorised transfer.sender

section Moves

variable {env : Env} {books next : Books} {call : Call}

/-- The log of the second books continues that of the first, and accounts for the balances. -/
structure Books.Moves (books next : Books) (moved : List Transfer) : Prop where
  logged : next.transfers = moved ++ books.transfers
  balances : ∀ token account, next.bank.balance token account =
    books.bank.balance token account + (moved.map (·.gain token account)).sum

theorem Books.moves_nil (books : Books) : books.Moves books [] :=
  ⟨rfl, fun _ _ => (add_zero _).symm⟩

theorem Books.moves_settle (books : Books) (transfer : Transfer) :
    books.Moves (books.settle transfer) [transfer] := by
  refine ⟨rfl, fun token account => ?_⟩
  rw [Books.balance_settle, List.map_singleton, List.sum_singleton, Transfer.gain]
  omega

theorem Books.Moves.trans {middle : Books} {first second : List Transfer}
    (before : books.Moves middle first) (after : middle.Moves next second) :
    books.Moves next (second ++ first) := by
  refine ⟨?_, fun token account => ?_⟩
  · rw [after.logged, before.logged, List.append_assoc]
  · rw [after.balances, before.balances, List.map_append, List.sum_append]
    omega

theorem Books.moves_settleAll (books : Books) (transfers : List Transfer) :
    books.Moves (books.settleAll transfers) transfers.reverse := by
  induction transfers generalizing books with
  | nil => exact books.moves_nil
  | cons transfer rest inductionHypothesis =>
      rw [Books.settleAll_cons, List.reverse_cons]
      exact (books.moves_settle transfer).trans (inductionHypothesis _)

/-- The call is to pay a refund that was rejected. -/
def Call.Forces (call : Call) : Prop :=
  ∃ admin disputeId resolution,
    call = .refund (.resolveDispute admin disputeId resolution true)

/-- What the effects say about a movement: it is signed, or a charge, or a forced refund. -/
def Transfer.Explained (env : Env) (call : Call) (transfer : Transfer) : Prop :=
  0 ≤ transfer.amount ∧
    (transfer.Signed env ∨ transfer.subscription.isSome = true ∨ call.Forces)

theorem Effect.moves (clean : books.Clean env.host.self) (effect : Effect env books call next) :
    ∃ moved, books.Moves next moved ∧ ∀ transfer ∈ moved, transfer.Explained env call := by
  have quiet {next : Books} (log : next.transfers = books.transfers)
      (balances : next.bank.balance = books.bank.balance) :
      ∃ moved, books.Moves next moved ∧ ∀ transfer ∈ moved, transfer.Explained env call := by
    refine ⟨[], ⟨log, ?_⟩, fun _ none => absurd none List.not_mem_nil⟩
    rw [balances]
    exact books.moves_nil.balances
  have single {next : Books} (transfer : Transfer)
      (log : next.transfers = transfer :: books.transfers)
      (balances : next.bank.balance = (books.settle transfer).bank.balance)
      (explained : transfer.Explained env call) :
      ∃ moved, books.Moves next moved ∧ ∀ other ∈ moved, other.Explained env call := by
    refine ⟨[transfer], ⟨log, ?_⟩, fun _ listed => List.eq_of_mem_singleton listed ▸ explained⟩
    rw [balances]
    exact (books.moves_settle transfer).balances
  cases effect with
  | paid call orders profiles transfers listed distinct fresh opened known charged =>
      have settled := books.moves_settleAll transfers
      refine ⟨transfers.reverse, ⟨settled.logged, settled.balances⟩, fun transfer listed => ?_⟩
      obtain ⟨authorised, _, nonneg⟩ := charged transfer (List.mem_reverse.mp listed)
      exact ⟨nonneg, .inl (.inr authorised)⟩
  | refundExecuted refund payment stored approved order authorised =>
      exact single (refund.payout payment) rfl rfl
        ⟨(clean.refunds _ refund stored).le, .inl (.inr authorised)⟩
  | refundForced admin resolution dispute refund payment raised unresolved stored order =>
      exact single (refund.payout payment) rfl rfl
        ⟨(clean.refunds _ refund stored).le, .inr (.inr ⟨_, _, _, rfl⟩)⟩
  | multisigPaid payer multisig stored pending authorised =>
      exact single
        ⟨.multisig multisig.paymentId, multisig.token, payer, multisig.merchantAddress,
          multisig.amount⟩ rfl rfl
        ⟨(clean.multisigs _ multisig stored).2.le, .inl (.inr authorised)⟩
  | requestPaid payer request stored fresh authorised =>
      exact single
        ⟨.request request.requestId, request.token, payer, request.merchant, request.amount⟩
        rfl rfl ⟨(clean.requests _ request stored).2.le, .inl (.inr authorised)⟩
  | charged call old subscription token amount allowance stored same nonneg =>
      exact single
        ⟨.subscription subscription.subscriptionId, token, subscription.subscriber,
          subscription.merchant, amount⟩ rfl rfl ⟨nonneg, .inr (.inl rfl)⟩
  | escrowOpened call escrow free positive locked authorised =>
      exact single
        ⟨.escrowDeposit escrow.orderId, escrow.token, escrow.payer, env.host.self, escrow.amount⟩
        rfl rfl ⟨positive.le, .inl (.inr authorised)⟩
  | escrowSettled call escrow status recipient stored locked due =>
      exact single
        ⟨.escrowSettlement escrow.orderId, escrow.token, env.host.self, recipient,
          escrow.amount⟩ rfl rfl ⟨(clean.escrows _ escrow stored).2.2.le, .inl (.inl rfl)⟩
  | holdOpened call hold free positive held authorised =>
      exact single
        ⟨.holdDeposit hold.escrowId, hold.token, hold.payer, env.host.self, hold.amount⟩
        rfl rfl ⟨positive.le, .inl (.inr authorised)⟩
  | holdSettled call hold status recipient stored held due =>
      exact single
        ⟨.holdSettlement hold.escrowId, hold.token, env.host.self, recipient, hold.amount⟩
        rfl rfl ⟨(clean.holds _ hold stored).2.2.le, .inl (.inl rfl)⟩
  | _ => exact quiet rfl rfl

end Moves

section Signed

variable {env : Env} {world next : World} {call : Call}

theorem resolveDispute_signed {admin : Address} {disputeId resolution : Text}
    (committed : (resolveDispute admin disputeId resolution true).Commits env world () next) :
    ∃ transfer, next.transfers = transfer :: world.transfers ∧ transfer.Signed env := by
  have books := resolveDispute_books committed
  simp [resolveDispute, forceRefund] at committed
  obtain ⟨_, _, _, dispute, raised, _, refund, stored, payment, order, _, _, _, _, _, signed, _⟩ :=
    committed
  obtain ⟨_, _, _, raisedAgain, _, storedAgain, orderAgain, books⟩ := books
  obtain rfl := Option.some.inj (raised.symm.trans raisedAgain)
  obtain rfl := Option.some.inj (stored.symm.trans storedAgain)
  obtain rfl := Option.some.inj (order.symm.trans orderAgain)
  exact ⟨refund.payout payment, congrArg Books.transfers books, signed⟩

theorem Call.Forces.signed (forces : call.Forces)
    (committed : call.exec.Commits env world () next) {moved : List Transfer}
    (logged : next.transfers = moved ++ world.transfers) :
    ∀ transfer ∈ moved, transfer.Signed env := by
  obtain ⟨admin, disputeId, resolution, rfl⟩ := forces
  obtain ⟨paid, log, signed⟩ := resolveDispute_signed committed
  have only : moved = [paid] :=
    List.append_cancel_right (logged.symm.trans log)
  intro transfer listed
  rw [only] at listed
  exact List.eq_of_mem_singleton listed ▸ signed

theorem BillingChange.charge_of_mem {billing after : Billing}
    (change : BillingChange env world billing call after) {moved : List Transfer}
    (logged : after.charges = moved ++ billing.charges) {transfer : Transfer}
    (listed : transfer ∈ moved) :
    ∃ subscription plan,
      billing.book.records.get subscription.subscriptionId = some subscription ∧
        world.subscriptions.plans.get subscription.planId = some plan ∧
        transfer = subscription.chargeTransfer plan := by
  have nothing (same : after.charges = billing.charges) : moved = [] :=
    List.append_cancel_right (logged.symm.trans (same.trans (List.nil_append _).symm))
  cases change with
  | charged subscription plan stored chargeable =>
      have only : moved = [subscription.chargeTransfer plan] :=
        List.append_cancel_right logged.symm
      rw [only] at listed
      exact ⟨subscription, plan, stored, chargeable.planned, List.eq_of_mem_singleton listed⟩
  | _ =>
      rw [nothing rfl] at listed
      exact absurd listed List.not_mem_nil

end Signed

section Taken

variable {host : Host} {start : World}

/-- The subscription was taken by its subscriber, in an accepted call of the run and for the
plan as it is. -/
def Taken (host : Host) (start : World) (past : List Action) (subscription : Subscription)
    (plan : SubscriptionPlan) : Prop :=
  ∃ before auth permits after,
    past = before ++ .invoke auth permits (.subscription (.subscribe subscription.merchant
      subscription.subscriber subscription.planId subscription.subscriptionId)) :: after ∧
    Accepted host (run (step host) start before) auth permits (.subscription (.subscribe
      subscription.merchant subscription.subscriber subscription.planId
      subscription.subscriptionId)) ∧
    (host.env auth permits).Authorised subscription.subscriber ∧
    (run (step host) start before).subscriptions.plans.get subscription.planId = some plan

/-- What a subscription keeps as long as it is stored. -/
structure Subscription.SameContract (first second : Subscription) : Prop where
  subscriptionId : first.subscriptionId = second.subscriptionId
  planId : first.planId = second.planId
  merchant : first.merchant = second.merchant
  subscriber : first.subscriber = second.subscriber

theorem Taken.later {past : List Action} {subscription other : Subscription}
    {plan : SubscriptionPlan} (taken : Taken host start past subscription plan)
    (same : other.SameContract subscription) (more : List Action) :
    Taken host start (past ++ more) other plan := by
  obtain ⟨before, auth, permits, after, split, accepted, authorised, planned⟩ := taken
  rw [← same.merchant, ← same.subscriber, ← same.planId, ← same.subscriptionId] at split accepted
  rw [← same.subscriber] at authorised
  rw [← same.planId] at planned
  refine ⟨before, auth, permits, after ++ more, ?_, accepted, authorised, planned⟩
  rw [split, List.append_assoc, List.cons_append]

/-- Every stored subscription was taken, for the plan that is stored now. -/
def AllTaken (host : Host) (start : World) (past : List Action) (book : SubscriptionBook) : Prop :=
  ∀ subscription, book.records.get subscription.subscriptionId = some subscription →
    ∃ plan, book.plans.get subscription.planId = some plan ∧
      Taken host start past subscription plan

theorem subscribe_authorised {env : Env} {world next : World} {merchant subscriber : Address}
    {planId subscriptionId : Text}
    (committed : (subscribe merchant subscriber planId subscriptionId).Commits env world ()
      next) : env.Authorised subscriber := by
  simp [subscribe] at committed
  exact committed.2.1

theorem allTaken_step {past : List Action} (action : Action)
    (taken : AllTaken host start past (run (step host) start past).subscriptions) :
    AllTaken host start (past ++ [action])
      (step host (run (step host) start past) action).subscriptions := by
  -- a subscription that stays what it is was taken when it was
  have known {subscription old : Subscription} {plans : Table SubscriptionPlan.planId}
      (stored : (run (step host) start past).subscriptions.records.get old.subscriptionId =
        some old) (same : subscription.SameContract old)
      (kept : ∀ planId plan, (run (step host) start past).subscriptions.plans.get planId =
        some plan → plans.get planId = some plan) :
      ∃ plan, plans.get subscription.planId = some plan ∧
        Taken host start (past ++ [action]) subscription plan := by
    obtain ⟨plan, planned, before⟩ := taken old stored
    rw [← same.planId] at planned
    exact ⟨plan, kept _ _ planned, before.later same [action]⟩
  -- the written subscription is a stored one in another state
  have rewritten {old : Subscription} (written : Subscription)
      (stored : (run (step host) start past).subscriptions.records.get old.subscriptionId =
        some old) (same : written.SameContract old) (subscription : Subscription)
      (found : ((run (step host) start past).subscriptions.records.put written).get
        subscription.subscriptionId = some subscription) :
      ∃ plan, (run (step host) start past).subscriptions.plans.get subscription.planId =
          some plan ∧ Taken host start (past ++ [action]) subscription plan := by
    rw [Table.get_put] at found
    split at found
    · obtain rfl := Option.some.inj found
      exact known stored same fun _ _ => id
    · exact known found ⟨rfl, rfl, rfl, rfl⟩ fun _ _ => id
  rcases step_cases host (run (step host) start past) action with
    ⟨auth, permits, call, rfl, succeeded⟩ | ⟨_, _, _, _, same⟩
  · intro subscription found
    have book := succeeded.billingChange
    generalize after : (step host (run (step host) start past)
      (.invoke auth permits call)).billing host.self = billing at book
    have subscriptions : (step host (run (step host) start past)
        (.invoke auth permits call)).subscriptions = billing.book := congrArg Billing.book after
    rw [subscriptions] at found ⊢
    cases book with
    | kept => exact known found ⟨rfl, rfl, rfl, rfl⟩ fun _ _ => id
    | planned admin plan free positive cycles =>
        exact known found ⟨rfl, rfl, rfl, rfl⟩ fun _ _ planned => Table.get_put_free free planned
    | started merchant subscriber planId named plan planned free =>
        change ((run (step host) start past).subscriptions.records.put _).get _ = _ at found
        rw [Table.get_put] at found
        split at found
        · obtain rfl := Option.some.inj found
          refine ⟨plan, planned, past, auth, permits, [], rfl, succeeded.accepted, ?_, planned⟩
          exact subscribe_authorised succeeded.executes
        · exact known found ⟨rfl, rfl, rfl, rfl⟩ fun _ _ => id
    | charged old plan stored chargeable =>
        exact rewritten (old.charged plan _) stored ⟨rfl, rfl, rfl, rfl⟩ subscription found
    | ended caller old plan stored =>
        exact rewritten { old with status := .cancelled } stored ⟨rfl, rfl, rfl, rfl⟩ subscription
          found
    | endedBySubscriber caller old plan stored =>
        exact rewritten { old with status := .cancelled } stored ⟨rfl, rfl, rfl, rfl⟩ subscription
          found
    | renewed => exact known found ⟨rfl, rfl, rfl, rfl⟩ fun _ _ => id
  · intro subscription found
    rw [same] at found ⊢
    exact known found ⟨rfl, rfl, rfl, rfl⟩ fun _ _ => id

theorem allTaken_run (deployed : Deployed host start) (past : List Action) :
    AllTaken host start past (run (step host) start past).subscriptions := by
  induction past using List.reverseRecOn with
  | nil =>
      obtain ⟨_, _, _, _, _, rfl⟩ := deployed
      intro subscription found
      cases found
  | append_singleton past action inductionHypothesis =>
      rw [run_append]
      exact allTaken_step action inductionHypothesis

end Taken

section Runs

variable {host : Host} {start : World}

/-- The account that pays is the contract, or has authorised the call, or has taken the
subscription that is charged, for a plan with this token and this amount. -/
def Consented (host : Host) (start : World) (past : List Action) (env : Env)
    (transfer : Transfer) : Prop :=
  transfer.Signed env ∨
    ∃ subscription plan, transfer = subscription.chargeTransfer plan ∧
      Taken host start past subscription plan

/-- Whatever an accepted call of a run moves is logged, the log accounts for every balance, and
the account that pays has consented to each movement. -/
theorem movements_consented (deployed : Deployed host start) (past : List Action)
    {auth : List Address} {permits : TokenCall → Bool} {call : Call} {next : World}
    (succeeded : Succeeds host (run (step host) start past) auth permits call next) :
    ∃ moved : List Transfer,
      next.transfers = moved ++ (run (step host) start past).transfers ∧
      (∀ token account, next.bank.balance token account =
        (run (step host) start past).bank.balance token account +
          (moved.map (·.gain token account)).sum) ∧
      ∀ transfer ∈ moved, 0 ≤ transfer.amount ∧
        Consented host start past (host.env auth permits) transfer := by
  have clean := (sound_run deployed.sound past).toClean
  obtain ⟨moved, moves, explained⟩ := succeeded.effect.moves clean
  refine ⟨moved, moves.logged, moves.balances, fun transfer listed => ?_⟩
  obtain ⟨nonneg, signed | charge | forces⟩ := explained transfer listed
  · exact ⟨nonneg, .inl signed⟩
  · refine ⟨nonneg, .inr ?_⟩
    have logged : (next.billing host.self).charges =
        moved.filter (·.subscription.isSome) ++
          ((run (step host) start past).billing host.self).charges := by
      change next.transfers.filter _ = _
      rw [show next.transfers = _ from moves.logged, List.filter_append]
      rfl
    obtain ⟨subscription, plan, stored, planned, equal⟩ :=
      succeeded.billingChange.charge_of_mem logged (List.mem_filter.mpr ⟨listed, charge⟩)
    obtain ⟨other, found, taken⟩ := allTaken_run deployed past subscription stored
    obtain rfl := Option.some.inj (found.symm.trans planned)
    exact ⟨subscription, other, equal, taken⟩
  · exact ⟨nonneg, .inl (forces.signed succeeded.executes moves.logged transfer listed)⟩

end Runs

namespace Sample

/-- The payer takes a subscription, whose first charge is due then. -/
def subscribing : List Action := opening ++ [
  invokedBy admin (.subscription (.createSubscriptionPlan admin [1] coin 100 10 3)),
  invokedBy payer (.subscription (.subscribe shop payer [1] [1])),
  .advance 1 20]

end Sample

/-- The payer does not authorise the charge, but it is charged. -/
theorem movements_consented_sample :
    ∃ moved : List Transfer,
      (step Sample.host (Sample.world Sample.subscribing) (Sample.invokedBy Sample.shop
        (.subscription (.chargeSubscription Sample.shop [1])))).transfers =
          moved ++ (Sample.world Sample.subscribing).transfers ∧
      ∀ transfer ∈ moved, Consented Sample.host Sample.start Sample.subscribing
        (Sample.host.env [Sample.shop] fun _ => true) transfer := by
  have accepted : Accepted Sample.host (run (step Sample.host) Sample.start Sample.subscribing)
      [Sample.shop] (fun _ => true)
      (.subscription (.chargeSubscription Sample.shop [1])) := by
    decide +kernel
  obtain ⟨moved, logged, _, consented⟩ :=
    movements_consented Sample.deployed_start Sample.subscribing accepted.succeeds
  exact ⟨moved, logged, fun transfer listed => (consented transfer listed).2⟩

end LumenFlow

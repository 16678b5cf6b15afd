import Mathlib.Logic.Relation
import LumenFlow.Effect.Accepted
import LumenFlow.Effect.Sweeps
import LumenFlow.Safety.Solvency

/-!
# The life of a refund

A refund is opened by one of the two parties of its payment, decided by the merchant or the
admin, and paid by the merchant or by a resolved dispute.  As long as it is stored it stays about
the same payment and amount and only moves forward, and each move has been authorised by those
who may make it.  A dispute that is resolved for the payer completes it whatever its status, in
the usual course a rejected one.
-/

namespace LumenFlow

open Kit Contract

/-- How the merchant or the admin takes a refund on. -/
inductive RefundStatus.Moves : RefundStatus → RefundStatus → Prop where
  | approved : Moves .pending .approved
  | rejected : Moves .pending .rejected
  | executed : Moves .approved .completed

abbrev RefundStatus.Reaches : RefundStatus → RefundStatus → Prop :=
  Relation.ReflTransGen RefundStatus.Moves

theorem RefundStatus.Reaches.eq_completed {status : RefundStatus}
    (reaches : RefundStatus.completed.Reaches status) : status = .completed := by
  induction reaches with
  | refl => rfl
  | tail _ move same =>
      subst same
      cases move

/-- The call resolves a dispute about the refund for the payer, which pays the refund whatever its
status. -/
def Call.ForcesPayment (world : World) (id : Text) (call : Call) : Prop :=
  ∃ admin disputeId resolution, call = .refund (.resolveDispute admin disputeId resolution true) ∧
    ∃ dispute ∈ world.getDispute disputeId, dispute.refundId = id

/-- The payment of the refund is forced. -/
def ForcesRefund (host : Host) (id : Text) (world : World) (action : Action) : Prop :=
  ∃ auth permits call, action = .invoke auth permits call ∧
    Accepted host world auth permits call ∧ call.ForcesPayment world id

def ForcedIn (host : Host) (id : Text) (start : World) (actions : List Action) : Prop :=
  ∃ before action after, actions = before ++ action :: after ∧
    ForcesRefund host id (run (step host) start before) action

/-- The later record is the same request, as far as before or further on; only a forced payment
takes it out of turn. -/
structure RefundRecord.Follows (forced : Prop) (later refund : RefundRecord) : Prop where
  request : later = { refund with status := later.status }
  further : refund.status.Reaches later.status ∨ later.status = .completed ∧ forced

section Follows

variable {forced : Prop} {later middle refund : RefundRecord}

theorem RefundRecord.Follows.refl (refund : RefundRecord) : refund.Follows forced refund :=
  ⟨rfl, .inl .refl⟩

theorem RefundRecord.Follows.trans {head tail : Prop} (last : later.Follows tail middle)
    (first : middle.Follows head refund) : later.Follows (head ∨ tail) refund := by
  refine ⟨?_, ?_⟩
  · calc
      later = { middle with status := later.status } := last.request
      _ = { refund with status := later.status } := by rw [first.request]
  · rcases last.further with onward | ⟨paid, forced⟩
    · rcases first.further with reached | ⟨paid, forced⟩
      · exact .inl (reached.trans onward)
      · rw [paid] at onward
        exact .inr ⟨onward.eq_completed, .inl forced⟩
    · exact .inr ⟨paid, .inr forced⟩

theorem RefundRecord.Follows.imp {weaker : Prop} (follows : later.Follows forced refund)
    (implies : forced → weaker) : later.Follows weaker refund :=
  ⟨follows.request, follows.further.imp_right (And.imp_right implies)⟩

end Follows

/-- Who may decide or pay a stored refund, by which call and to which status. -/
inductive RefundRecord.Decision (env : Env) (world : World) (refund : RefundRecord) :
    Call → RefundStatus → Prop where
  | approved (caller : Address) (payment : PaymentOrder) (pending : refund.status = .pending)
      (order : world.getPayment refund.orderId = some payment)
      (authorised : env.Authorised caller)
      (entitled : world.getAdmin = some caller ∨ caller = payment.merchantAddress) :
      refund.Decision env world (.refund (.approveRefund caller refund.refundId)) .approved
  | rejected (caller : Address) (payment : PaymentOrder) (pending : refund.status = .pending)
      (order : world.getPayment refund.orderId = some payment)
      (authorised : env.Authorised caller)
      (entitled : world.getAdmin = some caller ∨ caller = payment.merchantAddress) :
      refund.Decision env world (.refund (.rejectRefund caller refund.refundId)) .rejected
  | executed (payment : PaymentOrder) (approved : refund.status = .approved)
      (order : world.getPayment refund.orderId = some payment)
      (authorised : env.Authorised payment.merchantAddress) :
      refund.Decision env world (.refund (.executeRefund refund.refundId)) .completed
  | forced (admin : Address) (resolution : Text) (dispute : DisputeRecord)
      (payment : PaymentOrder) (raised : world.getDispute dispute.disputeId = some dispute)
      (unresolved : dispute.status ≠ .resolved) (about : dispute.refundId = refund.refundId)
      (order : world.getPayment refund.orderId = some payment)
      (authorised : env.Authorised admin) (entitled : world.getAdmin = some admin)
      (agreed : payment.merchantAddress = env.host.self ∨
        env.Authorised payment.merchantAddress) :
      refund.Decision env world
        (.refund (.resolveDispute admin dispute.disputeId resolution true)) .completed

/-- Who may open a refund, by which call. -/
inductive RefundRecord.Opening (env : Env) (world : World) (refund : RefundRecord) :
    Call → Prop where
  | initiated (payment : PaymentOrder) (pending : refund.status = .pending)
      (now : refund.createdAt = world.timestamp) (positive : 0 < refund.amount)
      (order : world.getPayment refund.orderId = some payment)
      (authorised : env.Authorised refund.initiator)
      (party : refund.initiator = payment.payer ∨ refund.initiator = payment.merchantAddress)
      (within : payment.refundedAmount + refund.amount ≤ payment.amount) :
      refund.Opening env world (.refund (.initiateRefund refund.initiator refund.refundId
        refund.orderId refund.amount refund.reason))

/-- The two clean-ups that remove refunds. -/
def Call.CleansRefunds (call : Call) : Prop :=
  (∃ admin, call = .refund (.cleanupExpiredRefunds admin)) ∨
    ∃ admin batchSize, call = .payment (.cleanupExpiredPayments admin batchSize)

/-- What an accepted call does to the stored refunds. -/
inductive RefundMove (env : Env) (world : World) (call : Call)
    (records : Table RefundRecord.refundId) : Prop where
  | kept (same : records = world.refundRecords)
  | cleaned (cleans : call.CleansRefunds) (sub : records.Sub world.refundRecords)
  | opened (refund : RefundRecord) (free : world.getRefund refund.refundId = none)
      (opening : refund.Opening env world call)
      (written : records = world.refundRecords.put refund)
  | decided (refund : RefundRecord) (status : RefundStatus)
      (stored : world.getRefund refund.refundId = some refund)
      (decision : refund.Decision env world call status)
      (written : records = world.refundRecords.put { refund with status })

section Calls

variable {env : Env} {world next : World}

theorem initiateRefund_refundMove {caller : Address} {refundId orderId : Text} {amount : Int}
    {reason : Text}
    (committed : (initiateRefund caller refundId orderId amount reason).Commits env world ()
      next) :
    RefundMove env world (.refund (.initiateRefund caller refundId orderId amount reason))
      next.refundRecords := by
  simp [initiateRefund] at committed
  obtain ⟨_, authorised, positive, _, _, free, payment, order, _, party, _, _, _, within, _, rfl⟩ :=
    committed
  let refund : RefundRecord :=
    ⟨refundId, orderId, caller, amount, reason, .pending, world.timestamp⟩
  have entitled : caller = payment.payer ∨ caller = payment.merchantAddress :=
    or_iff_not_imp_left.mpr party
  exact .opened refund free ⟨payment, rfl, rfl, positive, order, authorised, entitled, within⟩ rfl

theorem decideRefund_decides {caller : Address} {refundId : Text} {status : RefundStatus}
    (committed : (decideRefund caller refundId status).Commits env world () next) :
    ∃ refund payment, world.getRefund refundId = some refund ∧ refund.status = .pending ∧
      world.getPayment refund.orderId = some payment ∧ env.Authorised caller ∧
      (world.getAdmin = some caller ∨ caller = payment.merchantAddress) ∧
      next.refundRecords = world.refundRecords.put { refund with status } := by
  simp [decideRefund] at committed
  obtain ⟨_, refund, stored, payment, order, ⟨authorised, entitled⟩, pending, rfl⟩ := committed
  exact ⟨refund, payment, stored, pending, order, authorised, entitled, rfl⟩

theorem executeRefund_refundMove {refundId : Text}
    (committed : (executeRefund refundId).Commits env world () next) :
    RefundMove env world (.refund (.executeRefund refundId)) next.refundRecords := by
  obtain ⟨refund, payment, stored, approved, order, authorised, books⟩ :=
    executeRefund_books committed
  obtain rfl := Table.key_of_get stored
  exact .decided refund .completed stored (.executed payment approved order authorised)
    (congrArg Books.refunds books)

theorem resolveDispute_refundMove {admin : Address} {disputeId resolution : Text}
    (committed : (resolveDispute admin disputeId resolution true).Commits env world () next) :
    RefundMove env world (.refund (.resolveDispute admin disputeId resolution true))
      next.refundRecords := by
  have books := resolveDispute_books committed
  simp [resolveDispute, forceRefund] at committed
  obtain ⟨_, ⟨_, authorised, entitled⟩, _, dispute, raised, _, refund, stored, payment, order, _, _,
    _, _, _, agreed, _⟩ := committed
  obtain ⟨_, _, _, raisedAgain, unresolved, storedAgain, orderAgain, books⟩ := books
  obtain rfl := Option.some.inj (raised.symm.trans raisedAgain)
  obtain rfl := Option.some.inj (stored.symm.trans storedAgain)
  obtain rfl := Option.some.inj (order.symm.trans orderAgain)
  have about : dispute.refundId = refund.refundId := (Table.key_of_get stored).symm
  obtain rfl := Table.key_of_get raised
  rw [about] at stored
  exact .decided refund .completed stored
    (.forced admin resolution dispute payment raised unresolved about order authorised entitled
      agreed) (congrArg Books.refunds books)

theorem Call.refundMove {call : Call} (committed : call.exec.Commits env world () next) :
    RefundMove env world call next.refundRecords := by
  have quiet (other : .refunds ∉ call.parts) : RefundMove env world call next.refundRecords := by
    have same : next.refundRecords = world.refundRecords :=
      call.writes.frame committed .refunds other
    exact .kept same
  cases call with
  | refund call =>
      cases call with
      | initiateRefund => exact initiateRefund_refundMove committed
      | approveRefund caller refundId =>
          obtain ⟨refund, payment, stored, pending, order, authorised, entitled, written⟩ :=
            decideRefund_decides committed
          obtain rfl := Table.key_of_get stored
          exact .decided refund .approved stored
            (.approved caller payment pending order authorised entitled) written
      | rejectRefund caller refundId =>
          obtain ⟨refund, payment, stored, pending, order, authorised, entitled, written⟩ :=
            decideRefund_decides committed
          obtain rfl := Table.key_of_get stored
          exact .decided refund .rejected stored
            (.rejected caller payment pending order authorised entitled) written
      | executeRefund => exact executeRefund_refundMove committed
      | cleanupExpiredRefunds admin =>
          obtain ⟨_, swept⟩ := Tx.commits_discard.mp committed
          exact .cleaned (.inl ⟨admin, rfl⟩) (cleanupExpiredRefunds_swept swept).sub
      | resolveDispute admin disputeId resolution force =>
          cases force with
          | true => exact resolveDispute_refundMove committed
          | false =>
              simp [RefundCall.exec, Call.exec, resolveDispute] at committed
              obtain ⟨_, _, _, dispute, _, _, rfl⟩ := committed
              exact .kept rfl
      | _ => exact quiet (by simp [Call.parts, RefundCall.parts])
  | payment call =>
      cases call with
      | cleanupExpiredPayments admin batchSize =>
          obtain ⟨_, cleaned⟩ := Tx.commits_discard.mp committed
          obtain ⟨_, _, _, refundsSub, books⟩ := cleanupExpiredPayments_pruned cleaned
          have records : next.refundRecords = _ := congrArg Books.refunds books
          rw [records]
          exact .cleaned (.inr ⟨admin, batchSize, rfl⟩) refundsSub
      | _ => exact quiet (by simp [Call.parts, PaymentCall.parts])
  | admin call => exact quiet (by cases call <;> simp [Call.parts, AdminCall.parts])
  | merchant call => exact quiet (by cases call <;> simp [Call.parts, MerchantCall.parts])
  | multisig call => exact quiet (by cases call <;> simp [Call.parts, MultisigCall.parts])
  | subscription call => exact quiet (by cases call <;> simp [Call.parts, SubscriptionCall.parts])
  | escrow call => exact quiet (by cases call <;> simp [Call.parts, EscrowCall.parts])

end Calls

section Steps

variable {host : Host} {world : World} {action : Action}

/-- A refund that an action opens is one that its initiator may open, and one that it changes
goes on as somebody may decide. -/
structure RefundsAuthorised (host : Host) (world : World) (action : Action) : Prop where
  opened : ∀ id refund, world.getRefund id = none →
    (step host world action).getRefund id = some refund →
      ∃ auth permits call, action = .invoke auth permits call ∧
        refund.Opening (host.env auth permits) world call
  decided : ∀ id refund later, world.getRefund id = some refund →
    (step host world action).getRefund id = some later → later ≠ refund →
      ∃ auth permits call, action = .invoke auth permits call ∧
        refund.Decision (host.env auth permits) world call later.status

theorem RefundRecord.Decision.reaches {env : Env} {refund : RefundRecord} {call : Call}
    {status : RefundStatus} (decision : refund.Decision env world call status) :
    refund.status.Reaches status ∨
      status = .completed ∧ call.ForcesPayment world refund.refundId := by
  cases decision with
  | approved caller payment pending => rw [pending]; exact .inl (.single .approved)
  | rejected caller payment pending => rw [pending]; exact .inl (.single .rejected)
  | executed payment approved => rw [approved]; exact .inl (.single .executed)
  | forced admin resolution dispute payment raised unresolved about =>
      exact .inr ⟨rfl, admin, dispute.disputeId, resolution, rfl, dispute, raised, about⟩

theorem getRefund_cases {records : Table RefundRecord.refundId} {written found : RefundRecord}
    {id : Text} (put : world.refundRecords = records.put written)
    (stored : world.getRefund id = some found) :
    (id = written.refundId ∧ found = written) ∨ records.get id = some found := by
  change world.refundRecords.get id = some found at stored
  rw [put] at stored
  exact Table.get_put_cases stored

theorem getRefund_of_same {before after : World} {id : Text} {found : RefundRecord}
    (same : after.refundRecords = before.refundRecords)
    (stored : after.getRefund id = some found) : before.getRefund id = some found :=
  (congrArg (fun records => records.get id) same).symm.trans stored

theorem step_refundMove (host : Host) (world : World) (action : Action) :
    (∃ auth permits call, action = .invoke auth permits call ∧
        RefundMove (host.env auth permits) world call (step host world action).refundRecords) ∨
      (step host world action).refundRecords = world.refundRecords := by
  rcases step_cases host world action with
    ⟨auth, permits, call, rfl, succeeded⟩ | ⟨_, _, _, _, same⟩
  · exact .inl ⟨auth, permits, call, rfl, Call.refundMove succeeded.executes⟩
  · rw [same]
    exact .inr rfl

theorem step_refundsAuthorised (host : Host) (world : World) (action : Action) :
    RefundsAuthorised host world action := by
  rcases step_refundMove host world action with ⟨auth, permits, call, rfl, move⟩ | same
  · constructor
    · intro id refund free stored
      refine ⟨auth, permits, call, rfl, ?_⟩
      cases move with
      | kept same => cases free.symm.trans (getRefund_of_same same stored)
      | cleaned _ sub => cases free.symm.trans (sub _ _ stored)
      | opened new _ opening written =>
          rcases getRefund_cases written stored with ⟨_, rfl⟩ | before
          · exact opening
          · cases free.symm.trans before
      | decided old status before decision written =>
          rcases getRefund_cases written stored with ⟨rfl, rfl⟩ | kept
          · cases free.symm.trans before
          · cases free.symm.trans kept
    · intro id refund later before stored changed
      refine ⟨auth, permits, call, rfl, ?_⟩
      have same (kept : world.getRefund id = some later) : later = refund :=
        Option.some.inj (kept.symm.trans before)
      cases move with
      | kept untouched => exact absurd (same (getRefund_of_same untouched stored)) changed
      | cleaned _ sub => exact absurd (same (sub _ _ stored)) changed
      | opened new free opening written =>
          rcases getRefund_cases written stored with ⟨rfl, rfl⟩ | kept
          · cases free.symm.trans before
          · exact absurd (same kept) changed
      | decided old status found decision written =>
          rcases getRefund_cases written stored with ⟨rfl, rfl⟩ | kept
          · obtain rfl := Option.some.inj (before.symm.trans found)
            exact decision
          · exact absurd (same kept) changed
  · constructor
    · intro id refund free stored
      cases free.symm.trans (getRefund_of_same same stored)
    · intro id refund later before stored changed
      exact absurd (Option.some.inj ((getRefund_of_same same stored).symm.trans before)) changed

/-- A refund that stays stored is the same request, as far as before or further on. -/
theorem step_refund_follows {id : Text} {refund later : RefundRecord}
    (before : world.getRefund id = some refund)
    (stored : (step host world action).getRefund id = some later) :
    later.Follows (ForcesRefund host id world action) refund := by
  have kept (found : world.getRefund id = some later) :
      later.Follows (ForcesRefund host id world action) refund :=
    Option.some.inj (found.symm.trans before) ▸ .refl _
  rcases step_cases host world action with
    ⟨auth, permits, call, rfl, succeeded⟩ | ⟨_, _, _, _, same⟩
  · cases Call.refundMove succeeded.executes with
    | kept same => exact kept (getRefund_of_same same stored)
    | cleaned _ sub => exact kept (sub _ _ stored)
    | opened new free opening written =>
        rcases getRefund_cases written stored with ⟨rfl, rfl⟩ | found
        · cases free.symm.trans before
        · exact kept found
    | decided old status found decision written =>
        rcases getRefund_cases written stored with ⟨rfl, rfl⟩ | found
        · obtain rfl := Option.some.inj (before.symm.trans found)
          refine ⟨rfl, decision.reaches.imp_right (And.imp_right fun forces => ?_)⟩
          exact ⟨auth, permits, call, rfl, succeeded.accepted, forces⟩
        · exact kept found
  · rw [same] at stored
    exact kept stored

end Steps

/-- The refund is on file. -/
def World.Files (id : Text) (world : World) : Prop :=
  (world.getRefund id).isSome = true

section Runs

variable {host : Host} {world : World}

theorem forcedIn_cons {action : Action} {rest : List Action} {id : Text}
    (forced : ForcesRefund host id world action ∨ ForcedIn host id (step host world action) rest) :
    ForcedIn host id world (action :: rest) := by
  rcases forced with here | ⟨before, later, after, rfl, forces⟩
  · exact ⟨[], action, rest, rfl, here⟩
  · exact ⟨action :: before, later, after, rfl, forces⟩

theorem run_refund_follows {actions : List Action} {id : Text} {refund later : RefundRecord}
    (filed : Throughout (step host) (World.Files id) world actions)
    (before : world.getRefund id = some refund)
    (stored : (run (step host) world actions).getRefund id = some later) :
    later.Follows (ForcedIn host id world actions) refund := by
  induction actions generalizing world refund with
  | nil => exact Option.some.inj (stored.symm.trans before) ▸ .refl _
  | cons action rest inductionHypothesis =>
      obtain ⟨middle, found⟩ := Option.isSome_iff_exists.mp filed.tail.here
      have later := inductionHypothesis filed.tail found stored
      exact (later.trans (step_refund_follows before found)).imp forcedIn_cons

/-- In every run each refund is opened by a party of its payment, within what is left of the
payment, and each change of a stored refund is a decision that its caller may make; and as long as
a refund is on file it stays the same request and goes from pending over approved to completed or
to rejected, unless a dispute about it is resolved for the payer, which completes it. -/
theorem refunds_proceed (host : Host) (start : World) (actions : List Action) :
    Along (step host) (RefundsAuthorised host) start actions ∧
      ∀ before during after id refund later, actions = before ++ (during ++ after) →
        Throughout (step host) (World.Files id) (run (step host) start before) during →
        (run (step host) start before).getRefund id = some refund →
        (run (step host) start (before ++ during)).getRefund id = some later →
          later.Follows (ForcedIn host id (run (step host) start before) during) refund := by
  refine ⟨along_of_forall (step_refundsAuthorised host) start actions, ?_⟩
  intro before during after id refund later _ filed here stored
  rw [run_append] at stored
  exact run_refund_follows filed here stored

end Runs

end LumenFlow

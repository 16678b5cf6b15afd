import LumenFlow.Safety.Settlements

/-!
# Forced refunds

A dispute that is resolved for the payer takes the refund from the merchant.  The token contract
wants the merchant to authorise that, and the admin alone cannot.
-/

namespace LumenFlow

open Kit Contract

variable {host : Host} {start : World} {admin : Address} {permits : TokenCall → Bool}
  {resolution : Text}

/-- An unresolved dispute on a rejected refund of a stored payment, while nothing is paused. -/
structure DisputeRecord.Contests (dispute : DisputeRecord) (world : World)
    (refund : RefundRecord) (payment : PaymentOrder) : Prop where
  unpaused : world.gov.paused = false
  stored : world.disputes.get dispute.disputeId = some dispute
  unresolved : dispute.status ≠ .resolved
  refundStored : world.refunds.records.get dispute.refundId = some refund
  rejected : refund.status = .rejected
  order : world.payments.orders.get refund.orderId = some payment

/-- The admin resolves the dispute for the payer. -/
def DisputeRecord.forcing (dispute : DisputeRecord) (admin : Address) (resolution : Text) : Call :=
  .refund (.resolveDispute admin dispute.disputeId resolution true)

/-- The admin alone resolves the dispute for the payer, who gets the refund from the merchant. -/
def DisputeRecord.Enforced (host : Host) (world : World) (dispute : DisputeRecord)
    (admin : Address) (permits : TokenCall → Bool) (resolution : Text) : Prop :=
  ∃ next, Succeeds host world [admin] permits (dispute.forcing admin resolution) next ∧
    PaidOut dispute.refundId world next

theorem Deployed.valid_disputes (deployed : Deployed host start) (actions : List Action) :
    (run (step host) start actions).disputes.All fun dispute => ValidId dispute.disputeId := by
  have stepwise : ∀ (world : World) action,
      world.disputes.All (fun dispute => ValidId dispute.disputeId) →
      (step host world action).disputes.All fun dispute => ValidId dispute.disputeId := by
    intro world action valid
    rcases step_cases host world action with
      ⟨auth, permits, call, rfl, succeeded⟩ | ⟨_, bank, sequence, timestamp, same⟩
    · exact valid_disputes_called valid succeeded.executes
    · rw [same]
      exact valid
  have initial : start.disputes.All fun dispute => ValidId dispute.disputeId :=
    fun id dispute stored => by cases (deployed.no_disputes id).symm.trans stored
  exact run_invariant stepwise initial actions

/-- What a forced resolution needs of the merchant and of the counters. -/
theorem resolveDispute_needs {env : Env} {world next : World} {dispute : DisputeRecord}
    {refund : RefundRecord} {payment : PaymentOrder}
    (contests : dispute.Contests world refund payment)
    (committed : (resolveDispute admin dispute.disputeId resolution true).Commits env world ()
      next) :
    (payment.merchantAddress = env.host.self ∨ env.Authorised payment.merchantAddress) ∧
      world.CanRefund refund payment := by
  simp [resolveDispute, forceRefund, countGlobalRefund, countMerchantRefund, contests.stored,
    contests.refundStored, contests.order] at committed
  obtain ⟨_, _, _, _, sum, global, merchant, authorised, _⟩ := committed
  exact ⟨authorised, sum, global, merchant⟩

/-- The admin alone can enforce the refund of a dispute exactly if it is the merchant itself, and
the refund can be counted. -/
theorem forced_refund_iff (deployed : Deployed host start) (actions : List Action)
    {dispute : DisputeRecord} {refund : RefundRecord} {payment : PaymentOrder}
    (contests : dispute.Contests (run (step host) start actions) refund payment)
    (isAdmin : (run (step host) start actions).gov.admin = some admin)
    (external : admin ≠ host.self) (nonempty : 0 < resolution.length)
    (short : resolution.length ≤ 256)
    (permitted : permits (.transfer payment.token payment.merchantAddress payment.payer
      refund.amount) = true)
    (funded : refund.amount ≤
      (run (step host) start actions).bank.balance payment.token payment.merchantAddress) :
    dispute.Enforced host (run (step host) start actions) admin permits resolution ↔
      payment.merchantAddress = admin ∧
        (run (step host) start actions).CanRefund refund payment := by
  have sound := sound_run deployed.sound actions
  constructor
  · rintro ⟨next, succeeded, _⟩
    obtain ⟨consents, counted⟩ := resolveDispute_needs contests succeeded.executes
    have other : payment.merchantAddress ≠ host.self := (sound.orders _ _ contests.order).1
    have authorised := consents.resolve_left other
    exact ⟨List.mem_singleton.mp authorised.2, counted⟩
  · rintro ⟨merchant, counted⟩
    have valid := deployed.valid_disputes actions dispute.disputeId dispute contests.stored
    have positive : 0 < refund.amount := sound.refunds _ _ contests.refundStored
    have authorised : (host.env [admin] permits).Authorised admin :=
      ⟨external, List.mem_singleton_self admin⟩
    have resolvable : Resolvable (host.env [admin] permits) (run (step host) start actions)
        dispute admin resolution :=
      ⟨contests.unpaused, (deployed.unlocked actions).not_locked admin, authorised, isAdmin,
        nonempty, short, contests.stored, contests.unresolved⟩
    obtain ⟨next, committed⟩ := resolvable.forces contests.refundStored contests.order counted
      positive.le (.inr (merchant ▸ authorised)) permitted funded
    have fits : (dispute.forcing admin resolution).Fits :=
      ⟨valid.2.trans (by decide), short.trans (by decide)⟩
    exact ⟨next, succeeds_iff.mpr ⟨fits, committed⟩,
      resolveDispute_paidOut contests.stored committed⟩

namespace Sample

def contestedRefund : RefundRecord := ⟨[2], [1], payer, 200, [], .rejected, 0⟩

def contestedPayment : PaymentOrder :=
  ⟨[1], shop, payer, coin, 500, 0, .completed, 0, 0, [], none, 0⟩

theorem complaint_contests :
    (complaint .escalated).Contests (world complaining) contestedRefund contestedPayment where
  unpaused := by decide +kernel
  stored := by decide +kernel
  unresolved := by decide
  refundStored := by decide +kernel
  rejected := rfl
  order := by decide +kernel

end Sample

theorem forced_refund_iff_sample :
    (Sample.complaint .escalated).Enforced Sample.host (Sample.world Sample.complaining)
        Sample.admin (fun _ => true) [89] ↔
      Sample.shop = Sample.admin ∧ (Sample.world Sample.complaining).CanRefund
        Sample.contestedRefund Sample.contestedPayment :=
  forced_refund_iff Sample.deployed_start (Sample.opening ++ Sample.complaining)
    Sample.complaint_contests (by decide +kernel) (by decide) (by decide) (by decide) rfl
    (by decide +kernel)

/-- The admin cannot take the refund from the shop, which holds more than enough. -/
theorem forced_refund_refused :
    ¬ ∀ host world, Reachable host world →
      ∀ (dispute : DisputeRecord) (refund : RefundRecord) (payment : PaymentOrder) admin permits
        (resolution : Text),
      dispute.Contests world refund payment → world.gov.admin = some admin → admin ≠ host.self →
      0 < resolution.length → resolution.length ≤ 256 →
      permits (.transfer payment.token payment.merchantAddress payment.payer refund.amount) = true →
      refund.amount ≤ world.bank.balance payment.token payment.merchantAddress →
        dispute.Enforced host world admin permits resolution := by
  intro enforced
  obtain ⟨next, succeeded, _⟩ := enforced Sample.host (Sample.world Sample.complaining)
    (Sample.reachable_world _) (Sample.complaint .escalated) _ _ Sample.admin (fun _ => true) [89]
    Sample.complaint_contests (by decide +kernel) (by decide) (by decide) (by decide) rfl
    (by decide +kernel)
  obtain ⟨merchant, _⟩ := resolveDispute_needs Sample.complaint_contests succeeded.executes
  exact absurd merchant (by decide)

end LumenFlow

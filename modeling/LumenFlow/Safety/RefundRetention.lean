import LumenFlow.Effect.Purges
import LumenFlow.Safety.RefundLife

/-!
# How long a refund is kept

A refund leaves the files in one of two ways, both of which take the admin: the clean-up of the
refunds removes the settled ones after the retention period, and the clean-up of the payments
removes those that an expired payment lists.  The first one removes all that it may, reports how
many, and leaves everything else alone.
-/

namespace LumenFlow

open Kit Contract

/-- The number of refunds on file. -/
def World.refundCount (world : World) : Nat := world.refundRecords.total fun _ => 1

/-- Why a refund may leave the files. -/
inductive Disposal (host : Host) (world : World) (id : Text) (refund : RefundRecord) :
    Action → Prop where
  | settled (auth : List Address) (permits : TokenCall → Bool) (admin : Address)
      (authorised : (host.env auth permits).Authorised admin)
      (entitled : world.getAdmin = some admin) (due : refund.Settled world.retentionCutoff)
      (listed : id ∈ world.listedRefundIds) :
      Disposal host world id refund (.invoke auth permits (.refund (.cleanupExpiredRefunds admin)))
  | withPayment (auth : List Address) (permits : TokenCall → Bool) (admin : Address)
      (batchSize : Option Nat) (orderId : Text) (payment : PaymentOrder)
      (authorised : (host.env auth permits).Authorised admin)
      (entitled : world.getAdmin = some admin)
      (stored : world.getPayment orderId = some payment)
      (expired : payment.Expired world.cleanupCutoff)
      (listed : id ∈ world.getOrderRefundIds orderId) :
      Disposal host world id refund
        (.invoke auth permits (.payment (.cleanupExpiredPayments admin batchSize)))

/-- A refund that an action takes from the files may leave them. -/
def RefundsRetained (host : Host) (world : World) (action : Action) : Prop :=
  ∀ id refund, world.getRefund id = some refund →
    (step host world action).getRefund id = none → Disposal host world id refund action

/-- The clean-up has removed the listed refunds that are due, reports their number, has written
nothing else, and has nothing left to do. -/
structure RefundsCleaned (env : Env) (admin : Address) (world : World) (removed : Nat)
    (next : World) : Prop where
  entitled : env.Authorised admin ∧ world.getAdmin = some admin
  records : ∀ id, next.getRefund id = (world.getRefund id).filter fun refund =>
    ¬ (id ∈ world.listedRefundIds ∧ refund.Settled world.retentionCutoff)
  reported : removed + next.refundCount = world.refundCount
  others : ∀ part : Part, part ≠ .refunds → part.read next = part.read world
  finished : ∀ again last, (cleanupExpiredRefunds admin).Commits env next again last →
    again = 0 ∧ last.refundRecords = next.refundRecords

section Cleanup

variable {env : Env} {world next : World} {admin : Address} {removed : Nat}

/-- Between two turns some refunds have been removed and counted. -/
def World.Discarding (before after : Nat × World) : Prop :=
  after.1 + after.2.refundCount = before.1 + before.2.refundCount

instance : IsPreorder (Nat × World) World.Discarding where
  refl _ := rfl
  trans _ _ _ head tail := tail.trans head

theorem removeExpiredRefund_discarding {cutoff result : Nat} {refundId : Text}
    (committed : (removeExpiredRefund cutoff removed refundId).Commits env world result next) :
    World.Discarding (removed, world) (result, next) := by
  simp [removeExpiredRefund] at committed
  rcases committed with ⟨⟨refund, stored, _⟩, _, rfl, rfl⟩ | ⟨_, rfl, rfl⟩
  · have found : world.refundRecords.get refundId = some refund := stored
    have weighed := Table.total_erase (fun _ => 1) world.refundRecords refundId
    rw [Table.weightAt, found, Option.map_some, Option.getD_some] at weighed
    change removed + 1 + (world.refundRecords.erase refundId).total _ =
      removed + world.refundRecords.total _
    omega
  · rfl

theorem cleanupExpiredRefunds_discarding
    (committed : (cleanupExpiredRefunds admin).Commits env world removed next) :
    World.Discarding (0, world) (removed, next) := by
  simp only [cleanupExpiredRefunds, Tx.commits_bind, Tx.exists_unit, commits_requireAdmin,
    Tx.commits_gets] at committed
  obtain ⟨_, ⟨_, rfl⟩, cutoff, _, ⟨rfl, rfl⟩, merchants, start, ⟨rfl, rfl⟩, discarding⟩ := committed
  apply Tx.fold_related _ discarding
  intro merchant _ value state between middle turn
  obtain ⟨paymentIds, reading, read, removing⟩ := Tx.commits_bind.mp turn
  obtain ⟨rfl, rfl⟩ := Tx.commits_gets.mp read
  apply Tx.fold_related _ removing
  intro paymentId _ value state between middle turn
  obtain ⟨refundIds, reading, read, removing⟩ := Tx.commits_bind.mp turn
  obtain ⟨rfl, rfl⟩ := Tx.commits_gets.mp read
  apply Tx.fold_related _ removing
  intro refundId _ value state between middle turn
  exact removeExpiredRefund_discarding turn

theorem cleanupExpiredRefunds_entitled
    (committed : (cleanupExpiredRefunds admin).Commits env world removed next) :
    env.Authorised admin ∧ world.getAdmin = some admin := by
  simp only [cleanupExpiredRefunds, Tx.commits_bind, Tx.exists_unit, commits_requireAdmin]
    at committed
  obtain ⟨_, ⟨entitled, _⟩, _⟩ := committed
  exact entitled

theorem cleanupExpiredRefunds_part
    (committed : (cleanupExpiredRefunds admin).Commits env world removed next) (part : Part)
    (other : part ≠ .refunds) : part.read next = part.read world := by
  have called : (Call.refund (.cleanupExpiredRefunds admin)).exec.Commits env world () next :=
    Tx.commits_discard.mpr ⟨_, committed⟩
  exact (Call.writes _).frame called part (by simp [Call.parts, RefundCall.parts, other])

theorem cleanupExpiredRefunds_scope
    (committed : (cleanupExpiredRefunds admin).Commits env world removed next) :
    next.listedRefundIds = world.listedRefundIds ∧
      next.retentionCutoff = world.retentionCutoff := by
  have same := cleanupExpiredRefunds_part committed
  have merchants : next.merchants.list = world.merchants.list := same .merchantList (by simp)
  have payments : next.payments.merchantIds = world.payments.merchantIds :=
    same .merchantIds (by simp)
  have refunds : next.refunds.orderRefundIds = world.refunds.orderRefundIds :=
    same .orderRefundIds (by simp)
  have period : next.config.refundRetentionPeriod = world.config.refundRetentionPeriod :=
    same .refundRetention (by simp)
  have clock : (next.timestamp, next.sequence) = (world.timestamp, world.sequence) :=
    same .clock (by simp)
  constructor
  · rw [World.listedRefundIds, World.listedRefundIds, merchants, payments, refunds]
  · have now : next.timestamp = world.timestamp := congrArg Prod.fst clock
    rw [World.retentionCutoff, World.retentionCutoff, now, World.getRefundRetentionPeriod,
      World.getRefundRetentionPeriod, period]

theorem cleanupExpiredRefunds_filter
    (committed : (cleanupExpiredRefunds admin).Commits env world removed next) (id : Text) :
    next.getRefund id = (world.getRefund id).filter fun refund =>
      ¬ (id ∈ world.listedRefundIds ∧ refund.Settled world.retentionCutoff) := by
  obtain ⟨gone, kept⟩ := cleanupExpiredRefunds_swept committed id
  by_cases due : world.refundRecords.Sweeps (RefundRecord.Settled world.retentionCutoff)
      world.listedRefundIds id
  · have swept := gone due
    obtain ⟨listed, refund, stored, settled⟩ := due
    have found : world.getRefund id = some refund := stored
    rw [show next.getRefund id = none from swept, found]
    have dropped : ¬ ¬ (id ∈ world.listedRefundIds ∧ refund.Settled world.retentionCutoff) :=
      not_not_intro ⟨listed, settled⟩
    simp only [Option.filter, dropped, decide_false, Bool.false_eq_true, if_false]
  · rw [show next.getRefund id = world.getRefund id from kept due]
    cases stored : world.getRefund id with
    | none => rfl
    | some refund =>
        have spared : ¬ (id ∈ world.listedRefundIds ∧ refund.Settled world.retentionCutoff) :=
          fun ⟨listed, settled⟩ => due ⟨listed, refund, stored, settled⟩
        simp only [Option.filter, spared, not_false_eq_true, decide_true, if_true]

theorem cleanupExpiredRefunds_cleaned
    (committed : (cleanupExpiredRefunds admin).Commits env world removed next) :
    RefundsCleaned env admin world removed next := by
  have reported := cleanupExpiredRefunds_discarding committed
  refine ⟨cleanupExpiredRefunds_entitled committed, cleanupExpiredRefunds_filter committed,
    reported.trans (Nat.zero_add _), cleanupExpiredRefunds_part committed, ?_⟩
  intro again last repeated
  obtain ⟨listed, cutoff⟩ := cleanupExpiredRefunds_scope committed
  have same : last.refundRecords = next.refundRecords := by
    apply (cleanupExpiredRefunds_swept repeated).eq_iff.mpr
    rintro id ⟨member, refund, stored, settled⟩
    rw [listed] at member
    rw [cutoff] at settled
    have found : next.getRefund id = some refund := stored
    rw [cleanupExpiredRefunds_filter committed, Option.filter_eq_some_iff] at found
    exact of_decide_eq_true found.2 ⟨member, settled⟩
  refine ⟨?_, same⟩
  have counted : again + last.refundCount = 0 + next.refundCount :=
    cleanupExpiredRefunds_discarding repeated
  rw [World.refundCount, same, ← World.refundCount] at counted
  omega

end Cleanup

section Steps

variable {host : Host} {world : World}

/-- A refund that the clean-up of the payments removes is listed by an expired payment. -/
theorem cleanupExpiredPayments_disposes {env : Env} {next : World} {admin : Address}
    {batchSize : Option Nat} {cleaned : Nat} {id : Text} {refund : RefundRecord}
    (committed : (cleanupExpiredPayments admin batchSize).Commits env world cleaned next)
    (stored : world.getRefund id = some refund) (gone : next.getRefund id = none) :
    (env.Authorised admin ∧ world.getAdmin = some admin) ∧
      ∃ orderId payment, world.getPayment orderId = some payment ∧
        payment.Expired world.cleanupCutoff ∧ id ∈ world.getOrderRefundIds orderId := by
  have purges := (cleanupExpiredPayments_sweeping committed).1
  have swept := cleanupExpiredPayments_swept committed
  have entitled : env.Authorised admin ∧ world.getAdmin = some admin := by
    simp only [cleanupExpiredPayments, Tx.commits_bind, Tx.exists_unit,
      commits_requireNotPaused, commits_requireAdminRateLimited] at committed
    obtain ⟨_, ⟨_, rfl⟩, _, ⟨⟨_, entitled⟩, _⟩, _⟩ := committed
    exact entitled
  refine ⟨entitled, ?_⟩
  by_contra unlisted
  have kept : next.getRefund id = world.getRefund id := by
    apply purges.kept
    intro orderId deleted member
    have due : world.orderRecords.Sweeps (PaymentOrder.Expired world.cleanupCutoff)
        world.listedPaymentIds orderId := by
      by_contra current
      exact deleted.1 (((swept orderId).2 current).symm.trans deleted.2)
    obtain ⟨_, payment, found, expired⟩ := due
    exact unlisted ⟨orderId, payment, found, expired, member⟩
  rw [stored, gone] at kept
  cases kept

theorem step_refundsRetained (host : Host) (world : World) (action : Action) :
    RefundsRetained host world action := by
  intro id refund stored gone
  rcases step_cases host world action with
    ⟨auth, permits, call, rfl, succeeded⟩ | ⟨_, _, _, _, same⟩
  · have committed := succeeded.executes
    generalize step host world (.invoke auth permits call) = next at gone committed
    have move := call.refundMove committed
    cases move with
    | kept same =>
        have found := getRefund_of_same same.symm stored
        cases found.symm.trans gone
    | opened new free opening written =>
        have found : next.refundRecords.get id = some refund :=
          written ▸ Table.get_put_free free stored
        cases found.symm.trans gone
    | decided old status before decision written =>
        change next.refundRecords.get id = none at gone
        rw [written, Table.get_put] at gone
        split at gone
        · cases gone
        · cases gone.symm.trans stored
    | cleaned cleans =>
        rcases cleans with ⟨admin, rfl⟩ | ⟨admin, batchSize, rfl⟩
        · obtain ⟨removed, cleaning⟩ := Tx.commits_discard.mp committed
          obtain ⟨authorised, entitled⟩ := cleanupExpiredRefunds_entitled cleaning
          rw [cleanupExpiredRefunds_filter cleaning, stored] at gone
          have disposable : id ∈ world.listedRefundIds ∧
              refund.Settled world.retentionCutoff := by simpa [Option.filter] using gone
          obtain ⟨listed, due⟩ := disposable
          exact .settled auth permits admin authorised entitled due listed
        · obtain ⟨cleaned, cleaning⟩ := Tx.commits_discard.mp committed
          obtain ⟨⟨authorised, entitled⟩, orderId, payment, order, expired, listed⟩ :=
            cleanupExpiredPayments_disposes cleaning stored gone
          exact .withPayment auth permits admin batchSize orderId payment authorised entitled order
            expired listed
  · rw [same] at gone
    cases stored.symm.trans gone

end Steps

/-- In every run a refund leaves the files only with the admin's authorisation, in a clean-up
that it is due for; and the clean-up of the refunds removes all that are due and listed, reports
their number, writes nothing else, and has then nothing left to do. -/
theorem refunds_retained (host : Host) (start : World) (actions : List Action) :
    Along (step host) (RefundsRetained host) start actions ∧
      ∀ env admin world removed next,
        (cleanupExpiredRefunds admin).Commits env world removed next →
          RefundsCleaned env admin world removed next :=
  ⟨along_of_forall (step_refundsRetained host) start actions,
    fun _ _ _ _ _ => cleanupExpiredRefunds_cleaned⟩

end LumenFlow

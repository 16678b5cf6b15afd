import LumenFlow.Effect.Frame
import LumenFlow.Kit.Sweep
import LumenFlow.Kit.Tally

/-!
# What the maintenance sweeps remove

The functions that drop expired payment requests, settled refunds and old payments go through
the indexes and remove exactly the listed records that are due.
-/

namespace LumenFlow

open Kit Contract

/-- The request has expired. -/
def PaymentRequest.Expired (now : Nat) (request : PaymentRequest) : Prop :=
  request.expiresAt < now

instance (now : Nat) (request : PaymentRequest) : Decidable (request.Expired now) :=
  inferInstanceAs (Decidable (_ < _))

/-- The refund is settled and was opened before the cutoff. -/
def RefundRecord.Settled (cutoff : Nat) (refund : RefundRecord) : Prop :=
  (refund.status = .completed ∨ refund.status = .rejected) ∧ refund.createdAt < cutoff

instance (cutoff : Nat) (refund : RefundRecord) : Decidable (refund.Settled cutoff) :=
  inferInstanceAs (Decidable (_ ∧ _))

/-- The payment was made before the cutoff. -/
def PaymentOrder.Expired (cutoff : Nat) (payment : PaymentOrder) : Prop :=
  payment.paidAt < cutoff

instance (cutoff : Nat) (payment : PaymentOrder) : Decidable (payment.Expired cutoff) :=
  inferInstanceAs (Decidable (_ < _))

namespace World

def requestRecords (world : World) : Table PaymentRequest.requestId := world.requests.records

def refundRecords (world : World) : Table RefundRecord.refundId := world.refunds.records

/-- The refunds that a clean-up looks at, merchant by merchant and payment by payment. -/
def listedRefundIds (world : World) : List Text :=
  world.merchants.list.flatMap fun merchant =>
    (world.payments.merchantIds merchant).flatMap world.refunds.orderRefundIds

/-- Settled refunds are kept for the retention period. -/
def retentionCutoff (world : World) : Nat := world.timestamp - world.getRefundRetentionPeriod

def orderRecords (world : World) : Table PaymentOrder.orderId := world.payments.orders

/-- The payments in the indexes of the listed merchants. -/
def listedPaymentIds (world : World) : List Text :=
  Index.listing world.payments.merchantIds world.merchants.list

/-- Payments are kept for the clean-up period. -/
def cleanupCutoff (world : World) : Nat := world.timestamp - world.getCleanupPeriod

end World

variable {env : Env} {world next : World}

theorem removeExpiredRequest_swept {now removed result : Nat} {requestId : Text}
    (committed : (removeExpiredRequest now removed requestId).Commits env world result next) :
    world.requests.records.Swept (PaymentRequest.Expired now) [requestId]
      next.requests.records := by
  obtain ⟨found, middle, reading, removing⟩ := Tx.commits_bind.mp committed
  obtain ⟨rfl, rfl⟩ := Tx.commits_gets.mp reading
  cases stored : middle.getPaymentRequest requestId with
  | none =>
      simp [stored] at removing
      obtain ⟨_, rfl⟩ := removing
      have gone : middle.requests.records.erase requestId = middle.requests.records := by
        refine Table.ext_get fun name => ?_
        rw [Table.get_erase]
        split
        · next same => rw [same, ← stored]
        · rfl
      change middle.requests.records.Swept _ _ (middle.requests.records.erase requestId)
      rw [gone]
      refine .skip fun request found => ?_
      rw [show middle.requests.records.get requestId = none from stored] at found
      cases found
  | some request =>
      simp [stored] at removing
      rcases removing with ⟨expired, _, _, rfl⟩ | ⟨current, _, rfl⟩
      · exact .erase stored expired
      · refine .skip fun other found => ?_
        obtain rfl := Option.some.inj (stored.symm.trans found)
        exact not_lt.mpr current

theorem cancelExpiredPaymentRequests_swept {admin : Address} {result : Nat}
    (committed : (cancelExpiredPaymentRequests admin).Commits env world result next) :
    world.requests.records.Swept (PaymentRequest.Expired world.timestamp) world.requests.ids
      next.requests.records := by
  simp [cancelExpiredPaymentRequests] at committed
  obtain ⟨_, removed⟩ := committed
  exact (Tx.fold_swept_names World.requestRecords (fun requestId _ _ _ _ _ _ turn =>
    ⟨removeExpiredRequest_swept turn, trivial⟩) trivial removed).1

theorem removeExpiredRefund_swept {cutoff removed result : Nat} {refundId : Text}
    (committed : (removeExpiredRefund cutoff removed refundId).Commits env world result next) :
    world.refunds.records.Swept (RefundRecord.Settled cutoff) [refundId] next.refunds.records := by
  simp [removeExpiredRefund] at committed
  rcases committed with ⟨⟨refund, stored, settled⟩, _, _, rfl⟩ | ⟨unsettled, _, rfl⟩
  · exact .erase stored settled
  · exact .skip fun refund stored settled =>
      absurd settled.2 (not_lt.mpr (unsettled refund stored settled.1))

theorem cleanupExpiredRefunds_swept {admin : Address} {result : Nat}
    (committed : (cleanupExpiredRefunds admin).Commits env world result next) :
    world.refunds.records.Swept (RefundRecord.Settled world.retentionCutoff)
      world.listedRefundIds next.refunds.records := by
  simp only [cleanupExpiredRefunds, Tx.commits_bind, Tx.exists_unit, commits_requireAdmin,
    Tx.commits_gets] at committed
  obtain ⟨_, ⟨_, rfl⟩, cutoff, _, ⟨rfl, rfl⟩, merchants, start, ⟨rfl, rfl⟩, removed⟩ := committed
  -- the indexes that the loops read are not written by any turn
  let Indexed (state : World) : Prop :=
    state.payments.merchantIds = start.payments.merchantIds ∧
      state.refunds.orderRefundIds = start.refunds.orderRefundIds
  have kept {env : Env} {state middle : World} {tx : Contract Nat} {value : Nat}
      [Writes tx [.refunds]]
      (turn : tx.Commits env state value middle) (indexed : Indexed state) : Indexed middle :=
    ⟨(same_part [.refunds] turn .merchantIds (by simp)).trans indexed.1,
      (same_part [.refunds] turn .orderRefundIds (by simp)).trans indexed.2⟩
  suffices swept : start.refunds.records.Swept (RefundRecord.Settled start.retentionCutoff)
      start.listedRefundIds next.refunds.records ∧ Indexed next from swept.1
  have initial : Indexed start := ⟨rfl, rfl⟩
  refine Tx.fold_swept World.refundRecords ?_ initial removed
  intro merchant _ env removed state between middle indexed turn
  obtain ⟨paymentIds, reading, read, removing⟩ := Tx.commits_bind.mp turn
  obtain ⟨rfl, rfl⟩ := Tx.commits_gets.mp read
  have listed : reading.getMerchantPaymentIds merchant = start.payments.merchantIds merchant :=
    congrFun indexed.1 merchant
  rw [listed] at removing
  refine Tx.fold_swept World.refundRecords ?_ indexed removing
  intro paymentId _ env removed state between middle indexed turn
  obtain ⟨refundIds, reading, read, removing⟩ := Tx.commits_bind.mp turn
  obtain ⟨rfl, rfl⟩ := Tx.commits_gets.mp read
  have listed : reading.getOrderRefundIds paymentId = start.refunds.orderRefundIds paymentId :=
    congrFun indexed.2 paymentId
  rw [listed] at removing
  exact Tx.fold_swept_names World.refundRecords (fun refundId _ _ _ _ _ indexed turn =>
    ⟨removeExpiredRefund_swept turn, kept turn indexed⟩) indexed removing

theorem removeExpiredPayment_swept {cutoff cleaned result : Nat} {id : Text}
    (committed : (removeExpiredPayment cutoff cleaned id).Commits env world result next) :
    world.payments.orders.Swept (PaymentOrder.Expired cutoff) [id] next.payments.orders := by
  simp [removeExpiredPayment] at committed
  rcases committed with ⟨⟨payment, stored, expired⟩, middle, removed, _, _, rfl⟩ | ⟨current, _, rfl⟩
  · have same : middle.payments.orders = world.payments.orders :=
      same_part [.refunds] removed .orders (by simp)
    change world.payments.orders.Swept _ _ (middle.payments.orders.erase id)
    rw [same]
    exact .erase stored expired
  · exact .skip fun payment stored => not_lt.mpr (current payment stored)

/-- The payments before the cutoff in the indexes of the listed merchants are removed, and no
other payment is. -/
theorem cleanupExpiredPayments_swept {admin : Address} {batchSize : Option Nat} {result : Nat}
    (committed : (cleanupExpiredPayments admin batchSize).Commits env world result next) :
    world.payments.orders.Swept (PaymentOrder.Expired world.cleanupCutoff)
      world.listedPaymentIds next.payments.orders := by
  simp only [cleanupExpiredPayments, Tx.commits_bind, Tx.exists_unit, commits_requireNotPaused,
    commits_requireAdminRateLimited, Tx.commits_gets] at committed
  obtain ⟨world, ⟨_, rfl⟩, _, ⟨_, cleared⟩, cutoff, _, ⟨rfl, rfl⟩, merchants, start, ⟨rfl, rfl⟩,
    cleaned⟩ := committed
  -- the indexes that the loops read are not written by any turn
  let Indexed (state : World) : Prop := state.payments.merchantIds = start.payments.merchantIds
  have initial : Indexed start := rfl
  suffices swept : start.payments.orders.Swept (PaymentOrder.Expired start.cleanupCutoff)
      start.listedPaymentIds next.payments.orders ∧ Indexed next by
    rw [cleared] at swept
    exact swept.1
  refine Tx.fold_swept World.orderRecords ?_ initial cleaned
  intro merchant _ env cleaned state between middle indexed turn
  obtain ⟨ids, reading, read, removing⟩ := Tx.commits_bind.mp turn
  obtain ⟨rfl, rfl⟩ := Tx.commits_gets.mp read
  have listed : reading.getMerchantPaymentIds merchant = start.payments.merchantIds merchant :=
    congrFun indexed merchant
  rw [listed] at removing
  exact Tx.fold_swept_names World.orderRecords (fun id _ _ _ _ _ indexed turn =>
    ⟨removeExpiredPayment_swept turn, (same_part [.refunds, .orderRefundIds, .orders] turn
      .merchantIds (by simp)).trans indexed⟩) indexed removing

end LumenFlow

import LumenFlow.Effect.Forgiveness
import LumenFlow.Safety.RefundIndex

/-!
# The clean-up of the payments

The clean-up is to remove the payments whose time has come, a batch at a time, each with
its refunds and its entries in the indexes.  It goes through the indexes of all merchants
whatever the batch is, and it leaves the indexes of the payments as they were.
-/

namespace LumenFlow

open Kit Contract

/-- What a clean-up reports: how many payments it has removed, and whether more are due. -/
structure CleanupResult where
  cleaned : Nat
  hasMore : Bool

/-- The clean-up with its report.  The flag is declared, and nothing sets it. -/
def cleanupReport (admin : Address) (batchSize : Option Nat) : Contract CleanupResult := do
  let cleaned ← cleanupExpiredPayments admin batchSize
  return ⟨cleaned, false⟩

/-- The number of payments that a call may remove. -/
def cleanupLimit : Option Nat → Nat
  | none => 100
  | some size => min (max size 1) 100

/-- Calls of the clean-up, one after another, up to one that reports that no more are due. -/
inductive CleanupLoop (env : Env) (admin : Address) (batchSize : Option Nat) :
    World → World → Prop
  | done {world result next} (committed :
      (cleanupReport admin batchSize).Commits env world result next)
      (last : result.hasMore = false) :
      CleanupLoop env admin batchSize world next
  | again {world result middle next} (committed :
      (cleanupReport admin batchSize).Commits env world result middle)
      (more : result.hasMore = true) (rest : CleanupLoop env admin batchSize middle next) :
      CleanupLoop env admin batchSize world next

/-- The call does what the clean-up is documented to do. -/
structure CleansUp (env : Env) (admin : Address) (batchSize : Option Nat) (world : World)
    (result : CleanupResult) (next : World) : Prop where
  payments : ∀ id, next.getPayment id = world.getPayment id ∨
    next.getPayment id = none ∧
      ∃ payment ∈ world.getPayment id, payment.Expired world.cleanupCutoff
  bounded : world.paymentCount ≤ next.paymentCount + cleanupLimit batchSize
  refunds : ∀ refundId, next.getRefund refundId =
    (world.getRefund refundId).filter fun refund => ¬ world.Deletes next refund.orderId
  refundIndexes : ∀ orderId, next.getOrderRefundIds orderId =
    if world.Deletes next orderId then [] else world.getOrderRefundIds orderId
  merchantIndexes : ∀ merchant, next.getMerchantPaymentIds merchant =
    (world.getMerchantPaymentIds merchant).filter fun id =>
      ¬ ∃ payment ∈ world.getPayment id, payment.merchantAddress = merchant ∧
        world.Deletes next id
  payerIndexes : ∀ payer, next.getPayerPaymentIds payer =
    (world.getPayerPaymentIds payer).filter fun id =>
      ¬ ∃ payment ∈ world.getPayment id, payment.payer = payer ∧ world.Deletes next id
  others : ∀ part ∉ [Part.orders, .refunds, .orderRefundIds, .merchantIds, .payerIds],
    part.read next = part.read world
  cleaned : result.cleaned + next.paymentCount = world.paymentCount
  hasMore : result.hasMore = true ↔
    ∃ id, ∃ payment ∈ next.getPayment id, payment.Expired world.cleanupCutoff
  drains : ∃ last, CleanupLoop env admin batchSize world last ∧
    ∀ id, ∀ payment ∈ last.getPayment id, ¬ payment.Expired world.cleanupCutoff

/-- The expired payments fit into the batch, and an index of a registered merchant lists each
of them, but neither the one of its own merchant nor the one of its payer.  The refunds that it
lists belong to expired payments. -/
structure CleanupFits (batchSize : Option Nat) (world : World) : Prop where
  few : (world.payments.orders.total fun payment =>
    if payment.Expired world.cleanupCutoff then 1 else 0) ≤ cleanupLimit batchSize
  listed : ∀ id, ∀ payment ∈ world.getPayment id, payment.Expired world.cleanupCutoff →
    id ∈ world.listedPaymentIds
  unindexed : ∀ id, ∀ payment ∈ world.getPayment id, payment.Expired world.cleanupCutoff →
    id ∉ world.getMerchantPaymentIds payment.merchantAddress ∧
      id ∉ world.getPayerPaymentIds payment.payer
  ownRefunds : ∀ id, ∀ payment ∈ world.getPayment id, payment.Expired world.cleanupCutoff →
    ∀ refundId ∈ world.getOrderRefundIds id, ∀ refund ∈ world.getRefund refundId,
      ∃ order ∈ world.getPayment refund.orderId, order.Expired world.cleanupCutoff

section Listings

variable {host : Host} {env : Env} {world next : World} {call : Call}

/-- Each stored refund is listed by its order. -/
def World.RefundsListed (world : World) : Prop :=
  ∀ id refund, world.getRefund id = some refund → id ∈ world.getOrderRefundIds refund.orderId

theorem World.Purges.listed (purges : world.Purges next) (listed : world.RefundsListed) :
    next.RefundsListed := by
  intro id refund stored
  rcases purges.refund_cases id with gone | same
  · rw [stored] at gone
    cases gone
  · have member := listed id refund (same.symm.trans stored)
    have spared : ¬ world.Deletes next refund.orderId := by
      intro deleted
      have gone := purges.dropped _ deleted id member
      rw [stored] at gone
      cases gone
    rw [purges.refundIds, if_neg spared]
    exact member

theorem World.RefundsListed.called (listed : world.RefundsListed)
    (committed : call.exec.Commits env world () next) : next.RefundsListed := by
  have quiet (silent : .orderRefundIds ∉ call.parts)
      (opens : ∀ caller refundId orderId amount reason,
        call ≠ .refund (.initiateRefund caller refundId orderId amount reason)) :
      next.RefundsListed := by
    intro id refund stored
    have writes := call.writes
    obtain ⟨old, before, order⟩ := (Call.effect committed).refund_kept opens stored
    have index : next.getOrderRefundIds = world.getOrderRefundIds :=
      same_part call.parts committed .orderRefundIds silent
    rw [index, order]
    exact listed id old before
  cases call with
  | payment call =>
      cases call with
      | cleanupExpiredPayments admin batchSize =>
          obtain ⟨_, cleaned⟩ := Tx.commits_discard.mp committed
          exact (cleanupExpiredPayments_sweeping cleaned).1.listed listed
      | _ => exact quiet (of_decide_eq_true rfl) (by simp)
  | refund call =>
      cases call with
      | initiateRefund caller refundId orderId amount reason =>
          simp [Call.exec, RefundCall.exec, Contract.initiateRefund] at committed
          obtain ⟨_, _, _, _, _, _, payment, _, _, _, _, _, _, _, _, rfl⟩ := committed
          intro id refund stored
          apply World.RefundsIndexed.mem_ids_opened.mpr
          rcases Table.get_put_cases stored with ⟨rfl, rfl⟩ | before
          · exact .inr ⟨rfl, rfl⟩
          · exact .inl (listed id refund before)
      | _ => exact quiet (of_decide_eq_true rfl) (by simp)
  | _ call => cases call <;> exact quiet (of_decide_eq_true rfl) (by simp)

theorem Deployed.refundsListed {start : World} (deployed : Deployed host start)
    (actions : List Action) : (run (step host) start actions).RefundsListed := by
  have stepwise : ∀ world action, World.RefundsListed world →
      (step host world action).RefundsListed := by
    intro world action listed
    rcases step_cases host world action with
      ⟨auth, permits, call, rfl, succeeded⟩ | ⟨_, bank, sequence, timestamp, same⟩
    · exact listed.called succeeded.executes
    · rw [same]
      exact listed
  exact run_invariant stepwise (fun id refund stored => deployed.refundsIndexed.listed id refund
    stored) actions

end Listings

section Reports

variable {host : Host} {env : Env} {world next : World} {admin : Address}
  {batchSize : Option Nat} {result : CleanupResult} {id : Text}

theorem cleanupReport_commits (committed :
    (cleanupReport admin batchSize).Commits env world result next) :
    (cleanupExpiredPayments admin batchSize).Commits env world result.cleaned next ∧
      result.hasMore = false := by
  obtain ⟨cleaned, middle, sweeping, reporting⟩ := Tx.commits_bind.mp committed
  obtain ⟨rfl, rfl⟩ := Tx.commits_pure.mp reporting
  exact ⟨sweeping, rfl⟩

/-- The deleted payments are the expired ones that the merchants list. -/
theorem deletes_iff
    (committed : (cleanupReport admin batchSize).Commits env world result next) :
    world.Deletes next id ↔ id ∈ world.listedPaymentIds ∧
      ∃ payment ∈ world.getPayment id, payment.Expired world.cleanupCutoff := by
  have swept := cleanupExpiredPayments_swept (cleanupReport_commits committed).1 id
  constructor
  · rintro ⟨stored, gone⟩
    by_contra kept
    exact stored ((swept.2 kept).symm.trans gone)
  · rintro ⟨listed, payment, stored, expired⟩
    refine ⟨?_, swept.1 ⟨listed, payment, stored, expired⟩⟩
    intro missing
    rw [Option.mem_def, missing] at stored
    cases stored

theorem expired_of_deletes {payment : PaymentOrder}
    (committed : (cleanupReport admin batchSize).Commits env world result next)
    (deleted : world.Deletes next id) (stored : payment ∈ world.getPayment id) :
    payment.Expired world.cleanupCutoff := by
  obtain ⟨_, other, found, expired⟩ := (deletes_iff committed).mp deleted
  rwa [Option.mem_unique stored found]

theorem getPayment_of_not_deletes
    (committed : (cleanupReport admin batchSize).Commits env world result next)
    (kept : ¬ world.Deletes next id) : next.getPayment id = world.getPayment id := by
  apply (cleanupExpiredPayments_swept (cleanupReport_commits committed).1 id).2
  rintro ⟨listed, payment, stored, expired⟩
  exact kept ((deletes_iff committed).mpr ⟨listed, payment, stored, expired⟩)

theorem cleanupReport_part
    (committed : (cleanupReport admin batchSize).Commits env world result next) (part : Part)
    (outside : part ∉ [Part.authFailures, .orders, .refunds, .orderRefundIds]) :
    part.read next = part.read world := by
  have called : (Call.payment (.cleanupExpiredPayments admin batchSize)).exec.Commits env world ()
      next := Tx.commits_discard.mpr ⟨_, (cleanupReport_commits committed).1⟩
  exact (Call.writes _).frame called part outside

theorem cleanupReport_unfailed
    (committed : (cleanupReport admin batchSize).Commits env world result next)
    (unfailed : Unfailed world) :
    Part.authFailures.read next = Part.authFailures.read world := by
  have called : (Call.payment (.cleanupExpiredPayments admin batchSize)).exec.Commits env world ()
      next := Tx.commits_discard.mpr ⟨_, (cleanupReport_commits committed).1⟩
  funext address
  have forgiven := unfailed.forgiven (Call.forgives _ _ _ _ _ called) address
  exact forgiven.trans (unfailed address).symm

theorem deletes_of_listed
    (committed : (cleanupReport admin batchSize).Commits env world result next)
    (listed : ∀ id, ∀ payment ∈ world.getPayment id, payment.Expired world.cleanupCutoff →
      id ∈ world.listedPaymentIds) :
    ∀ id, ∀ payment ∈ world.getPayment id, payment.Expired world.cleanupCutoff →
      world.Deletes next id := by
  intro id payment stored expired
  exact (deletes_iff committed).mpr ⟨listed id payment stored expired, payment, stored, expired⟩

theorem reported_eq
    (committed : (cleanupReport admin batchSize).Commits env world result next)
    (listed : ∀ id, ∀ payment ∈ world.getPayment id, payment.Expired world.cleanupCutoff →
      id ∈ world.listedPaymentIds) :
    (world.payments.orders.total fun payment =>
      if payment.Expired world.cleanupCutoff then 1 else 0) + next.paymentCount =
        world.paymentCount :=
  (cleanupExpiredPayments_swept (cleanupReport_commits committed).1).total listed

theorem CleansUp.fits (cleansUp : CleansUp env admin batchSize world result next)
    (committed : (cleanupReport admin batchSize).Commits env world result next) :
    CleanupFits batchSize world := by
  have listed : ∀ id, ∀ payment ∈ world.getPayment id,
      payment.Expired world.cleanupCutoff → id ∈ world.listedPaymentIds := by
    intro id payment stored expired
    by_contra unlisted
    have kept : ¬ world.Deletes next id := fun deleted =>
      unlisted ((deletes_iff committed).mp deleted).1
    have left : payment ∈ next.getPayment id := getPayment_of_not_deletes committed kept ▸ stored
    have more := cleansUp.hasMore.mpr ⟨id, payment, left, expired⟩
    rw [(cleanupReport_commits committed).2] at more
    cases more
  have deleted := deletes_of_listed committed listed
  refine ⟨?_, listed, ?_, ?_⟩
  · have bounded := cleansUp.bounded
    have reported := reported_eq committed listed
    omega
  · intro id payment stored expired
    have gone := deleted id payment stored expired
    constructor
    · intro member
      have same : next.getMerchantPaymentIds = world.getMerchantPaymentIds :=
        cleanupReport_part committed .merchantIds (by simp)
      rw [← same, cleansUp.merchantIndexes, List.mem_filter, decide_eq_true_iff] at member
      exact member.2 ⟨payment, stored, rfl, gone⟩
    · intro member
      have same : next.getPayerPaymentIds = world.getPayerPaymentIds :=
        cleanupReport_part committed .payerIds (by simp)
      rw [← same, cleansUp.payerIndexes, List.mem_filter, decide_eq_true_iff] at member
      exact member.2 ⟨payment, stored, rfl, gone⟩
  · intro id payment stored expired refundId member refund found
    have purges := (cleanupExpiredPayments_sweeping (cleanupReport_commits committed).1).1
    have dropped : next.getRefund refundId = none :=
      purges.dropped id (deleted id payment stored expired) refundId member
    rw [cleansUp.refunds, Option.mem_def.mp found, Option.filter_eq_none_iff] at dropped
    have owner : world.Deletes next refund.orderId := by
      simpa using dropped refund rfl
    exact ((deletes_iff committed).mp owner).2

namespace CleanupFits

theorem getRefund_eq (fits : CleanupFits batchSize world) (listed : world.RefundsListed)
    (committed : (cleanupReport admin batchSize).Commits env world result next)
    (refundId : Text) : next.getRefund refundId =
      (world.getRefund refundId).filter fun refund => ¬ world.Deletes next refund.orderId := by
  have purges := (cleanupExpiredPayments_sweeping (cleanupReport_commits committed).1).1
  cases found : world.getRefund refundId with
  | none =>
      rcases purges.refund_cases refundId with gone | same
      · exact gone
      · exact same.trans found
  | some refund =>
      by_cases owner : world.Deletes next refund.orderId
      · rw [purges.dropped _ owner refundId (listed refundId refund found)]
        simp [Option.filter, owner]
      · have unlisted : ∀ orderId, world.Deletes next orderId →
            refundId ∉ world.getOrderRefundIds orderId := by
          intro orderId gone member
          obtain ⟨_, payment, stored, expired⟩ := (deletes_iff committed).mp gone
          obtain ⟨order, kept, due⟩ :=
            fits.ownRefunds orderId payment stored expired refundId member refund found
          exact owner (deletes_of_listed committed fits.listed _ order kept due)
        rw [purges.kept refundId unlisted]
        exact found.trans (by simp [Option.filter, owner])

theorem filter_eq {who : PaymentOrder → Address} {owner : Address} {ids : List Text}
    (committed : (cleanupReport admin batchSize).Commits env world result next)
    (absent : ∀ id ∈ ids, ∀ payment ∈ world.getPayment id,
      payment.Expired world.cleanupCutoff → who payment ≠ owner) :
    (ids.filter fun id => ¬ ∃ payment ∈ world.getPayment id, who payment = owner ∧
      world.Deletes next id) = ids := by
  rw [List.filter_eq_self]
  intro id member
  rw [decide_eq_true_iff]
  rintro ⟨payment, stored, owned, gone⟩
  exact absent id member payment stored (expired_of_deletes committed gone stored) owned

theorem current (fits : CleanupFits batchSize world)
    (committed : (cleanupReport admin batchSize).Commits env world result next) :
    ∀ id, ∀ payment ∈ next.getPayment id, ¬ payment.Expired world.cleanupCutoff := by
  intro id payment stored expired
  have purges := (cleanupExpiredPayments_sweeping (cleanupReport_commits committed).1).1
  have earlier : payment ∈ world.getPayment id := purges.orders id payment stored
  have gone := (deletes_of_listed committed fits.listed id payment earlier expired).2
  rw [Option.mem_def, gone] at stored
  cases stored

/-- Where the expired payments fit into the batch and the indexes of the payments need no
change, the clean-up does what it should. -/
theorem cleansUp (fits : CleanupFits batchSize world) (listed : world.RefundsListed)
    (unfailed : Unfailed world)
    (committed : (cleanupReport admin batchSize).Commits env world result next) :
    CleansUp env admin batchSize world result next := by
  obtain ⟨cleaned, report⟩ := cleanupReport_commits committed
  obtain ⟨purges, counted⟩ := cleanupExpiredPayments_sweeping cleaned
  have left := fits.current committed
  constructor
  · intro id
    by_cases gone : world.Deletes next id
    · exact .inr ⟨gone.2, ((deletes_iff committed).mp gone).2⟩
    · exact .inl (getPayment_of_not_deletes committed gone)
  · have few := fits.few
    have reported := reported_eq committed fits.listed
    omega
  · exact fits.getRefund_eq listed committed
  · exact purges.refundIds
  · intro merchant
    have same : next.getMerchantPaymentIds = world.getMerchantPaymentIds :=
      cleanupReport_part committed .merchantIds (by simp)
    rw [same, filter_eq committed]
    rintro id member payment stored expired rfl
    exact (fits.unindexed id payment stored expired).1 member
  · intro payer
    have same : next.getPayerPaymentIds = world.getPayerPaymentIds :=
      cleanupReport_part committed .payerIds (by simp)
    rw [same, filter_eq committed]
    rintro id member payment stored expired rfl
    exact (fits.unindexed id payment stored expired).2 member
  · intro part outside
    by_cases failures : part = .authFailures
    · subst failures
      exact cleanupReport_unfailed committed unfailed
    · apply cleanupReport_part committed part
      simp only [List.mem_cons, not_or, List.not_mem_nil] at outside ⊢
      tauto
  · rw [counted, Nat.zero_add]
    rfl
  · rw [report]
    constructor
    · exact nofun
    · rintro ⟨id, payment, stored, expired⟩
      exact absurd expired (left id payment stored)
  · exact ⟨next, .done committed report, left⟩

end CleanupFits

end Reports

/-- A clean-up does what it is documented to do exactly where the expired payments fit into the
batch, some merchant's index lists each of them but the indexes of its own merchant and its
payer do not, and the refunds that they list are their own. -/
theorem cleans_up_iff {host : Host} {start next : World} {env : Env} {admin : Address}
    {batchSize : Option Nat} {result : CleanupResult} (deployed : Deployed host start)
    (actions : List Action)
    (committed : (cleanupReport admin batchSize).Commits env (run (step host) start actions)
      result next) :
    CleansUp env admin batchSize (run (step host) start actions) result next ↔
      CleanupFits batchSize (run (step host) start actions) := by
  constructor
  · intro cleansUp
    exact cleansUp.fits committed
  · intro fits
    exact fits.cleansUp (deployed.refundsListed actions) (deployed.unfailed actions) committed

namespace Sample

/-- Two payments, and after them the time that payments are kept. -/
def expiring : List Action := [
  invokedBy payer (.payment (.processPaymentWithNonce payer [1] shop coin 500 [] none 0)),
  invokedBy payer (.payment (.processPaymentWithNonce payer [2] shop coin 300 [] none 1)),
  .advance 1 10000000]

end Sample

/-- Before they expire the clean-up of the two payments does what it should; once they have, it
deletes both and leaves their identifiers in the indexes, where the condition does not want
them. -/
theorem cleans_up_iff_sample :
    (∃ result next,
      (cleanupReport Sample.admin none).Commits (Sample.host.env [Sample.admin] fun _ => true)
          (Sample.world (Sample.expiring.take 2)) result next ∧
        CleansUp (Sample.host.env [Sample.admin] fun _ => true) Sample.admin none
          (Sample.world (Sample.expiring.take 2)) result next) ∧
      ∃ result next,
        (cleanupReport Sample.admin none).Commits (Sample.host.env [Sample.admin] fun _ => true)
            (Sample.world Sample.expiring) result next ∧
          ¬ CleansUp (Sample.host.env [Sample.admin] fun _ => true) Sample.admin none
            (Sample.world Sample.expiring) result next := by
  have succeeds (actions : List Action) (some : ((cleanupReport Sample.admin none).valueOf
      (Sample.host.env [Sample.admin] fun _ => true) (Sample.world actions)).isSome = true) :
      ∃ result next, (cleanupReport Sample.admin none).Commits
        (Sample.host.env [Sample.admin] fun _ => true) (Sample.world actions) result next := by
    obtain ⟨result, valued⟩ := Option.isSome_iff_exists.mp some
    exact ⟨result, Tx.valueOf_eq_some.mp valued⟩
  constructor
  · obtain ⟨result, next, committed⟩ := succeeds (Sample.expiring.take 2) (by decide +kernel)
    refine ⟨result, next, committed, (cleans_up_iff Sample.deployed_start
      (Sample.opening ++ Sample.expiring.take 2) committed).mpr ?_⟩
    have cutoff : (Sample.world (Sample.expiring.take 2)).cleanupCutoff = 0 := by decide +kernel
    have current (payment : PaymentOrder) :
        ¬ payment.Expired (Sample.world (Sample.expiring.take 2)).cleanupCutoff := by
      rw [cutoff]
      exact Nat.not_lt_zero _
    exact {
      few := by decide +kernel
      listed := fun _ payment _ expired => absurd expired (current payment)
      unindexed := fun _ payment _ expired => absurd expired (current payment)
      ownRefunds := fun _ payment _ expired => absurd expired (current payment) }
  · obtain ⟨result, next, committed⟩ := succeeds Sample.expiring (by decide +kernel)
    refine ⟨result, next, committed, fun cleansUp => ?_⟩
    have fits := (cleans_up_iff Sample.deployed_start (Sample.opening ++ Sample.expiring)
      committed).mp cleansUp
    have stored : ((Sample.world Sample.expiring).getPayment [1]).any (fun payment =>
        payment.Expired (Sample.world Sample.expiring).cleanupCutoff ∧
          [1] ∈ (Sample.world Sample.expiring).getMerchantPaymentIds payment.merchantAddress) =
        true := by decide +kernel
    obtain ⟨payment, found, holds⟩ := (Option.any_eq_true _ _).mp stored
    obtain ⟨expired, listed⟩ := of_decide_eq_true holds
    exact (fits.unindexed [1] payment found expired).1 listed

/-- A batch of one payment is asked for, and both expired payments are removed. -/
theorem batch_exceeded : Reachable Sample.host (Sample.world Sample.expiring) ∧ ∃ next,
    (cleanupReport Sample.admin (some 1)).Commits (Sample.host.env [Sample.admin] fun _ => true)
        (Sample.world Sample.expiring) ⟨2, false⟩ next ∧
      ¬ CleansUp (Sample.host.env [Sample.admin] fun _ => true) Sample.admin (some 1)
        (Sample.world Sample.expiring) ⟨2, false⟩ next := by
  have reported : ((cleanupReport Sample.admin (some 1)).valueOf
      (Sample.host.env [Sample.admin] fun _ => true) (Sample.world Sample.expiring)).map
        (fun result => (result.cleaned, result.hasMore)) = some (2, false) := by
    decide +kernel
  obtain ⟨⟨cleaned, more⟩, valued, same⟩ := Option.map_eq_some_iff.mp reported
  obtain ⟨rfl, rfl⟩ := Prod.mk.inj same
  obtain ⟨next, committed⟩ := Tx.valueOf_eq_some.mp valued
  refine ⟨Sample.reachable_world _, next, committed, ?_⟩
  intro cleansUp
  have bounded := cleansUp.bounded
  have cleaned := cleansUp.cleaned
  have limit : cleanupLimit (some 1) = 1 := rfl
  change 2 + next.paymentCount = _ at cleaned
  omega

end LumenFlow

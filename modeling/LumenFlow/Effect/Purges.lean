import LumenFlow.Effect.Sweeps

/-!
# What goes with the payments that are removed

A clean-up of the payments removes the refunds that the index of a removed payment lists, and
the index.  What one turn removes and what the next ones remove add up.
-/

namespace LumenFlow

open Kit Contract

/-- The payment is stored before the call and not after it. -/
def World.Deletes (before after : World) (id : Text) : Prop :=
  before.getPayment id ≠ none ∧ after.getPayment id = none

instance (before after : World) (id : Text) : Decidable (before.Deletes after id) :=
  inferInstanceAs (Decidable (_ ∧ _))

/-- The number of stored payments. -/
def World.paymentCount (world : World) : Nat := world.payments.orders.total fun _ => 1

section Deletions

variable {env : Env} {before middle after world next : World} {id : Text}

/-- The second world is the first one without some payments, without the refunds that these
list and without their indexes. -/
structure World.Purges (before after : World) : Prop where
  orders : after.payments.orders.Sub before.payments.orders
  refundIds : ∀ orderId, after.getOrderRefundIds orderId =
    if before.Deletes after orderId then [] else before.getOrderRefundIds orderId
  dropped : ∀ orderId, before.Deletes after orderId →
    ∀ refundId ∈ before.getOrderRefundIds orderId, after.getRefund refundId = none
  kept : ∀ refundId, (∀ orderId, before.Deletes after orderId →
    refundId ∉ before.getOrderRefundIds orderId) →
      after.getRefund refundId = before.getRefund refundId

theorem World.not_deletes_self : ¬ world.Deletes world id :=
  fun deleted => deleted.1 deleted.2

namespace World.Purges

theorem refl (world : World) : world.Purges world where
  orders := .refl _
  refundIds _ := (if_neg not_deletes_self).symm
  dropped _ deleted := absurd deleted not_deletes_self
  kept _ _ := rfl

theorem absent (purges : before.Purges after) (missing : before.getPayment id = none) :
    after.getPayment id = none := by
  by_contra stored
  obtain ⟨payment, found⟩ := Option.ne_none_iff_exists'.mp stored
  have earlier : before.getPayment id = some payment := purges.orders id payment found
  rw [missing] at earlier
  cases earlier

theorem refund_cases (purges : before.Purges after) (refundId : Text) :
    after.getRefund refundId = none ∨ after.getRefund refundId = before.getRefund refundId := by
  by_cases listed : ∃ orderId, before.Deletes after orderId ∧
      refundId ∈ before.getOrderRefundIds orderId
  · obtain ⟨orderId, deleted, member⟩ := listed
    exact .inl (purges.dropped orderId deleted refundId member)
  · exact .inr (purges.kept refundId fun orderId deleted member =>
      listed ⟨orderId, deleted, member⟩)

theorem deletes_iff (head : before.Purges middle) (tail : middle.Purges after) :
    before.Deletes after id ↔ before.Deletes middle id ∨ middle.Deletes after id := by
  constructor
  · rintro ⟨stored, gone⟩
    by_cases there : middle.getPayment id = none
    · exact .inl ⟨stored, there⟩
    · exact .inr ⟨there, gone⟩
  · rintro (⟨stored, gone⟩ | ⟨there, gone⟩)
    · exact ⟨stored, tail.absent gone⟩
    · exact ⟨fun missing => there (head.absent missing), gone⟩

theorem refundIds_of_deletes (head : before.Purges middle) (later : middle.Deletes after id) :
    middle.getOrderRefundIds id = before.getOrderRefundIds id := by
  rw [head.refundIds, if_neg fun deleted : before.Deletes middle id => later.1 deleted.2]

theorem trans (head : before.Purges middle) (tail : middle.Purges after) :
    before.Purges after where
  orders := tail.orders.trans head.orders
  refundIds orderId := by
    rw [tail.refundIds, head.refundIds]
    by_cases later : middle.Deletes after orderId
    · rw [if_pos later, if_pos ((deletes_iff head tail).mpr (.inr later))]
    · have same : before.Deletes after orderId ↔ before.Deletes middle orderId :=
        (deletes_iff head tail).trans (or_iff_left later)
      rw [if_neg later]
      exact if_congr same.symm rfl rfl
  dropped orderId deleted refundId member := by
    rcases (deletes_iff head tail).mp deleted with earlier | later
    · rcases tail.refund_cases refundId with gone | same
      · exact gone
      · rw [same]
        exact head.dropped orderId earlier refundId member
    · exact tail.dropped orderId later refundId (head.refundIds_of_deletes later ▸ member)
  kept refundId unlisted := by
    have earlier : middle.getRefund refundId = before.getRefund refundId := by
      apply head.kept
      intro orderId deleted
      exact unlisted orderId ((deletes_iff head tail).mpr (.inl deleted))
    rw [← earlier]
    apply tail.kept
    intro orderId later
    rw [head.refundIds_of_deletes later]
    exact unlisted orderId ((deletes_iff head tail).mpr (.inr later))

instance : IsPreorder World World.Purges where
  refl := refl
  trans _ _ _ := trans

end World.Purges

theorem each_removeRefund_get {ids : List Text} {refundId : Text}
    (committed : (Tx.each (fun refundId => Contract.write (·.removeRefund refundId)) ids).Commits
      env world () next) :
    next.getRefund refundId = if refundId ∈ ids then none else world.getRefund refundId := by
  induction ids generalizing world with
  | nil =>
      obtain rfl := Tx.commits_each_nil.mp committed
      rfl
  | cons first rest inductionHypothesis =>
      obtain ⟨middle, head, tail⟩ := Tx.commits_each_cons.mp committed
      obtain rfl := Tx.commits_modify.mp head
      have erased : (world.removeRefund first).getRefund refundId =
          if refundId = first then none else world.getRefund refundId := Table.get_erase ..
      rw [inductionHypothesis tail, erased]
      by_cases here : refundId = first <;> by_cases later : refundId ∈ rest <;> simp [here, later]

theorem World.Purges.one {payment : PaymentOrder} (stored : world.getPayment id = some payment)
    (orders : next.payments.orders = world.payments.orders.erase id)
    (index : next.refunds.orderRefundIds = Function.update world.refunds.orderRefundIds id [])
    (records : ∀ refundId, next.getRefund refundId =
      if refundId ∈ world.getOrderRefundIds id then none else world.getRefund refundId) :
    world.Purges next := by
  have erased (other : Text) :
      next.getPayment other = if other = id then none else world.getPayment other := by
    change next.payments.orders.get other = _
    rw [orders]
    exact Table.get_erase ..
  have deletes (other : Text) : world.Deletes next other ↔ other = id := by
    unfold World.Deletes
    rw [erased]
    by_cases same : other = id
    · simp [same, stored]
    · simp [same]
  have ids (orderId : Text) : next.getOrderRefundIds orderId =
      if orderId = id then [] else world.getOrderRefundIds orderId := by
    change next.refunds.orderRefundIds orderId = _
    rw [index, Function.update_apply]
  constructor
  · rw [orders]
    exact Table.sub_erase world.payments.orders id
  · intro orderId
    rw [ids]
    exact if_congr (deletes orderId).symm rfl rfl
  · intro orderId deleted refundId member
    obtain rfl := (deletes orderId).mp deleted
    rw [records, if_pos member]
  · intro refundId unlisted
    rw [records, if_neg (unlisted id ((deletes id).mpr rfl))]

/-- Between two turns some payments have been removed and counted. -/
def World.Sweeping (before after : Nat × World) : Prop :=
  before.2.Purges after.2 ∧ after.1 + after.2.paymentCount = before.1 + before.2.paymentCount

instance : IsPreorder (Nat × World) World.Sweeping where
  refl _ := ⟨.refl _, rfl⟩
  trans _ _ _ head tail := ⟨head.1.trans tail.1, tail.2.trans head.2⟩

theorem removeExpiredPayment_sweeping {cutoff cleaned result : Nat}
    (committed : (removeExpiredPayment cutoff cleaned id).Commits env world result next) :
    World.Sweeping (cleaned, world) (result, next) := by
  simp only [removeExpiredPayment, Tx.commits_bind, Tx.commits_gets, Tx.commits_ite,
    Tx.commits_modify, commits_addU32, Tx.commits_pure, Tx.exists_unit] at committed
  obtain ⟨_, start, ⟨rfl, rfl⟩, ⟨⟨payment, stored, _⟩, _, reading, ⟨rfl, rfl⟩, emptied, removing,
    _, rfl, _, rfl, _, rfl, rfl⟩ | ⟨_, rfl, rfl⟩⟩ := committed
  · have same : emptied.payments.orders = reading.payments.orders :=
      same_part [.refunds] removing .orders (by simp)
    have index : emptied.refunds.orderRefundIds = reading.refunds.orderRefundIds :=
      same_part [.refunds] removing .orderRefundIds (by simp)
    have orders : ((emptied.removeOrderRefundIndex id).removePayment id).payments.orders =
        reading.payments.orders.erase id := congrArg (Table.erase · id) same
    constructor
    · apply World.Purges.one stored orders
      · exact congrArg (Function.update · id []) index
      · intro refundId
        have removed : emptied.getRefund refundId =
            if refundId ∈ reading.getOrderRefundIds id then none
            else reading.getRefund refundId := each_removeRefund_get removing
        exact removed
    · have found : reading.payments.orders.get id = some payment := stored
      have weighed := Table.total_erase (fun _ => 1) reading.payments.orders id
      rw [Table.weightAt, found, Option.map_some, Option.getD_some] at weighed
      change cleaned + 1 + ((emptied.removeOrderRefundIndex id).removePayment id).paymentCount =
        cleaned + reading.paymentCount
      rw [World.paymentCount, World.paymentCount, orders]
      omega
  · exact ⟨.refl _, rfl⟩

/-- The clean-up removes what its turns remove. -/
theorem cleanupExpiredPayments_sweeping {admin : Address} {batchSize : Option Nat} {cleaned : Nat}
    (committed : (cleanupExpiredPayments admin batchSize).Commits env world cleaned next) :
    World.Sweeping (0, world.clearAuthFailCount admin) (cleaned, next) := by
  simp only [cleanupExpiredPayments, Tx.commits_bind, Tx.exists_unit, commits_requireNotPaused,
    commits_requireAdminRateLimited, Tx.commits_gets] at committed
  obtain ⟨_, ⟨_, rfl⟩, _, ⟨_, rfl⟩, cutoff, _, ⟨rfl, rfl⟩, merchants, start, ⟨rfl, rfl⟩,
    sweeping⟩ := committed
  apply Tx.fold_related _ sweeping
  intro merchant _ value state between middle turn
  obtain ⟨ids, reading, read, removing⟩ := Tx.commits_bind.mp turn
  obtain ⟨rfl, rfl⟩ := Tx.commits_gets.mp read
  apply Tx.fold_related _ removing
  intro id _ value state between middle turn
  exact removeExpiredPayment_sweeping turn

end Deletions

end LumenFlow

import LumenFlow.Effect.Purges
import LumenFlow.Effect.Step

/-!
# The index of the refunds

Each order has an index of its refunds.  The clean-up of the refunds deletes records and leaves
their slots in the index, so a refund that takes a deleted identifier is listed where the old
one was.
-/

namespace LumenFlow

open Kit Contract

/-- Each stored refund is listed by its order, once and by no other order. -/
structure World.RefundsIndexed (world : World) : Prop where
  distinct : ∀ orderId, (world.getOrderRefundIds orderId).Nodup
  listed : ∀ id refund, world.getRefund id = some refund →
    id ∈ world.getOrderRefundIds refund.orderId
  own : ∀ orderId, ∀ id ∈ world.getOrderRefundIds orderId, ∀ refund,
    world.getRefund id = some refund → refund.orderId = orderId

/-- The refunds that somebody is shown for an order are those of the order, each once. -/
def World.ShowsRefunds (world : World) : Prop :=
  ∀ env caller orderId refunds next,
    (getRefundsForOrder caller orderId).Commits env world refunds next →
      (refunds.map RefundRecord.refundId).Nodup ∧
        ∀ refund, refund ∈ refunds ↔
          world.getRefund refund.refundId = some refund ∧ refund.orderId = orderId

/-- The index of the refunds is exact, and so are the lists that are made from it. -/
structure World.RefundsExact (world : World) : Prop where
  indexed : world.RefundsIndexed
  shown : world.ShowsRefunds

/-- A new refund takes an identifier that no index lists. -/
def TakesUnlistedId (world : World) : Call → Prop
  | .refund (.initiateRefund _ refundId ..) =>
      ∀ orderId, refundId ∉ world.getOrderRefundIds orderId
  | _ => True

section Records

variable {env : Env} {books after : Books} {call : Call} {id : Text} {refund : RefundRecord}

theorem Effect.refund_kept (effect : Effect env books call after)
    (opens : ∀ caller refundId orderId amount reason,
      call ≠ .refund (.initiateRefund caller refundId orderId amount reason))
    (stored : after.refunds.get id = some refund) :
    ∃ old, books.refunds.get id = some old ∧ refund.orderId = old.orderId := by
  have rewritten {old : RefundRecord} {status : RefundStatus}
      (before : books.refunds.get old.refundId = some old)
      (found : (books.refunds.put { old with status }).get id = some refund) :
      ∃ old, books.refunds.get id = some old ∧ refund.orderId = old.orderId := by
    rcases Table.get_put_cases found with ⟨rfl, rfl⟩ | kept
    · exact ⟨old, before, rfl⟩
    · exact ⟨refund, kept, rfl⟩
  cases effect with
  | paid =>
      rw [Books.settleAll_refunds] at stored
      exact ⟨refund, stored, rfl⟩
  | paymentsCleaned admin batchSize orders refunds ordersSub refundsSub =>
      exact ⟨refund, refundsSub _ _ stored, rfl⟩
  | refundsCleaned admin refunds sub => exact ⟨refund, sub _ _ stored, rfl⟩
  | refundOpened => exact absurd rfl (opens _ _ _ _ _)
  | refundDecided call old status before => exact rewritten before stored
  | refundExecuted old payment before => exact rewritten before stored
  | refundForced admin resolution dispute old payment raised unresolved before =>
      have key : old.refundId = dispute.refundId := Table.key_of_get before
      rw [← key] at before
      exact rewritten before stored
  | _ => exact ⟨refund, stored, rfl⟩

end Records

namespace World.RefundsIndexed

variable {env : Env} {world next : World} {call : Call} {orderId refundId : Text}

theorem kept (indexed : world.RefundsIndexed)
    (index : next.refunds.orderRefundIds = world.refunds.orderRefundIds)
    (records : ∀ id refund, next.getRefund id = some refund →
      ∃ old, world.getRefund id = some old ∧ refund.orderId = old.orderId) :
    next.RefundsIndexed := by
  have ids (orderId : Text) : next.getOrderRefundIds orderId = world.getOrderRefundIds orderId :=
    congrFun index orderId
  refine ⟨fun orderId => ids orderId ▸ indexed.distinct orderId, ?_, ?_⟩
  · intro id refund stored
    obtain ⟨old, before, order⟩ := records id refund stored
    rw [ids, order]
    exact indexed.listed id old before
  · intro orderId id member refund stored
    obtain ⟨old, before, order⟩ := records id refund stored
    rw [order]
    exact indexed.own orderId id (ids orderId ▸ member) old before

theorem ids_opened_self (refund : RefundRecord) :
    ((world.setRefund refund).addOrderRefundId refund.orderId refund.refundId).getOrderRefundIds
        refund.orderId =
      world.getOrderRefundIds refund.orderId ++ [refund.refundId] :=
  Function.update_self ..

theorem ids_opened_of_ne {refund : RefundRecord} (other : orderId ≠ refund.orderId) :
    ((world.setRefund refund).addOrderRefundId refund.orderId refund.refundId).getOrderRefundIds
        orderId =
      world.getOrderRefundIds orderId :=
  Function.update_of_ne other ..

theorem mem_ids_opened {refund : RefundRecord} {id : Text} :
    id ∈ ((world.setRefund refund).addOrderRefundId refund.orderId
        refund.refundId).getOrderRefundIds orderId ↔
      id ∈ world.getOrderRefundIds orderId ∨ orderId = refund.orderId ∧ id = refund.refundId := by
  by_cases same : orderId = refund.orderId
  · rw [same, ids_opened_self, List.mem_append, List.mem_singleton]
    simp only [true_and]
  · rw [ids_opened_of_ne same]
    simp only [same, false_and, or_false]

/-- Opening a refund keeps the index exact exactly if no order lists its identifier. -/
theorem opened_iff (indexed : world.RefundsIndexed) (refund : RefundRecord) :
    ((world.setRefund refund).addOrderRefundId refund.orderId refund.refundId).RefundsIndexed ↔
      ∀ orderId, refund.refundId ∉ world.getOrderRefundIds orderId := by
  constructor
  · intro after orderId member
    by_cases same : orderId = refund.orderId
    · have once := after.distinct refund.orderId
      rw [ids_opened_self, ← same] at once
      exact (List.nodup_append.mp once).2.2 _ member _ (List.mem_singleton_self _) rfl
    · rw [← ids_opened_of_ne same] at member
      exact same (after.own orderId _ member refund (Table.get_put_self ..)).symm
  · intro fresh
    have older {id : Text} {found : RefundRecord} (other : id ≠ refund.refundId)
        (stored : (world.refunds.records.put refund).get id = some found) :
        world.getRefund id = some found :=
      (Table.get_put_of_ne other).symm.trans stored
    have newer {found : RefundRecord}
        (stored : (world.refunds.records.put refund).get refund.refundId = some found) :
        refund = found :=
      Option.some.inj ((Table.get_put_self ..).symm.trans stored)
    refine ⟨fun orderId => ?_, fun id found stored => ?_, fun orderId id member found stored => ?_⟩
    · by_cases same : orderId = refund.orderId
      · rw [same, ids_opened_self, ← List.concat_eq_append]
        exact (indexed.distinct refund.orderId).concat (fresh refund.orderId)
      · rw [ids_opened_of_ne same]
        exact indexed.distinct orderId
    · by_cases new : id = refund.refundId
      · subst new
        rw [← newer stored]
        exact mem_ids_opened.mpr (.inr ⟨rfl, rfl⟩)
      · exact mem_ids_opened.mpr (.inl (indexed.listed id found (older new stored)))
    · rcases mem_ids_opened.mp member with before | ⟨rfl, rfl⟩
      · have other : id ≠ refund.refundId := by
          rintro rfl
          exact fresh orderId before
        exact indexed.own orderId id before found (older other stored)
      · rw [newer stored]

/-- Deleting all refunds that an order lists, with its index, keeps the other indexes exact. -/
theorem dropOrder (indexed : world.RefundsIndexed)
    (index : next.refunds.orderRefundIds =
      Function.update world.refunds.orderRefundIds orderId [])
    (records : ∀ id refund, next.getRefund id = some refund →
      id ∉ world.getOrderRefundIds orderId ∧ world.getRefund id = some refund) :
    next.RefundsIndexed := by
  have dropped : next.getOrderRefundIds orderId = [] :=
    (congrFun index orderId).trans (Function.update_self ..)
  have others {other : Text} (different : other ≠ orderId) :
      next.getOrderRefundIds other = world.getOrderRefundIds other :=
    (congrFun index other).trans (Function.update_of_ne different ..)
  refine ⟨fun other => ?_, fun id refund stored => ?_, fun other id member refund stored => ?_⟩
  · by_cases same : other = orderId
    · rw [same, dropped]
      exact List.nodup_nil
    · rw [others same]
      exact indexed.distinct other
  · obtain ⟨absent, before⟩ := records id refund stored
    have listed := indexed.listed id refund before
    rw [others fun same => absent (same ▸ listed)]
    exact listed
  · by_cases same : other = orderId
    · rw [same, dropped] at member
      cases member
    · rw [others same] at member
      exact indexed.own other id member refund (records id refund stored).2

end World.RefundsIndexed

section Cleanup

variable {env : Env} {world next : World}

theorem each_removeRefund {ids : List Text}
    (committed : (Tx.each (fun refundId => Contract.write (·.removeRefund refundId)) ids).Commits
      env world () next) :
    next.refunds.orderRefundIds = world.refunds.orderRefundIds ∧
      ∀ id refund, next.getRefund id = some refund →
        id ∉ ids ∧ world.getRefund id = some refund := by
  refine ⟨same_part [.refunds] committed .orderRefundIds (by simp), ?_⟩
  intro id refund stored
  rw [each_removeRefund_get committed] at stored
  split at stored
  · cases stored
  · next absent => exact ⟨absent, stored⟩

/-- The first state's exact index stays exact. -/
def StaysIndexed (before after : World) : Prop := before.RefundsIndexed → after.RefundsIndexed

instance : IsPreorder World StaysIndexed where
  refl _ indexed := indexed
  trans _ _ _ head tail indexed := tail (head indexed)

theorem removeExpiredPayment_indexed (cutoff cleaned : Nat) (id : Text) :
    Tx.Respects StaysIndexed (removeExpiredPayment cutoff cleaned id) := by
  intro env world result next committed indexed
  simp only [removeExpiredPayment, Tx.commits_bind, Tx.commits_gets, Tx.commits_ite,
    Tx.commits_modify, commits_addU32, Tx.commits_pure, Tx.exists_unit] at committed
  obtain ⟨_, _, ⟨rfl, rfl⟩, ⟨_, _, _, ⟨rfl, rfl⟩, emptied, removing, _, rfl, _, rfl, _, _, rfl⟩ |
    ⟨_, _, rfl⟩⟩ := committed
  · obtain ⟨index, records⟩ := each_removeRefund removing
    refine indexed.dropOrder ?_ records
    change Function.update emptied.refunds.orderRefundIds id [] = _
    rw [index]
  · exact indexed

theorem cleanupExpiredPayments_indexed {admin : Address} {batchSize : Option Nat} {result : Nat}
    (committed : (cleanupExpiredPayments admin batchSize).Commits env world result next)
    (indexed : world.RefundsIndexed) : next.RefundsIndexed := by
  simp only [cleanupExpiredPayments, Tx.commits_bind, Tx.exists_unit, commits_requireNotPaused,
    commits_requireAdminRateLimited, Tx.commits_gets] at committed
  obtain ⟨world, ⟨_, rfl⟩, _, ⟨_, cleared⟩, cutoff, _, ⟨rfl, rfl⟩, merchants, start, ⟨rfl, rfl⟩,
    cleaned⟩ := committed
  have stays : StaysIndexed start next := by
    refine Tx.respects_fold ?_ 0 env start result next cleaned
    intro cleaned merchant _
    refine Tx.respects_bind (Tx.respects_gets _) fun ids => ?_
    exact Tx.respects_fold (fun cleaned id _ => removeExpiredPayment_indexed _ cleaned id) cleaned
  apply stays
  rw [cleared]
  exact indexed.kept rfl fun id refund stored => ⟨refund, stored, rfl⟩

/-- A call keeps the index exact exactly if it opens no refund under a listed identifier. -/
theorem World.RefundsIndexed.called_iff {call : Call} (indexed : world.RefundsIndexed)
    (committed : call.exec.Commits env world () next) :
    next.RefundsIndexed ↔ TakesUnlistedId world call := by
  have quiet (silent : .orderRefundIds ∉ call.parts)
      (opens : ∀ caller refundId orderId amount reason,
        call ≠ .refund (.initiateRefund caller refundId orderId amount reason)) :
      next.RefundsIndexed := by
    have writes := call.writes
    exact indexed.kept (same_part call.parts committed .orderRefundIds silent)
      fun id refund stored => (Call.effect committed).refund_kept opens stored
  cases call with
  | payment call =>
      cases call with
      | cleanupExpiredPayments admin batchSize =>
          obtain ⟨_, cleaned⟩ := Tx.commits_discard.mp committed
          exact iff_of_true (cleanupExpiredPayments_indexed cleaned indexed) trivial
      | _ => exact iff_of_true (quiet (of_decide_eq_true rfl) (by simp)) trivial
  | refund call =>
      cases call with
      | initiateRefund caller refundId orderId amount reason =>
          simp [Call.exec, RefundCall.exec, Contract.initiateRefund] at committed
          obtain ⟨_, _, _, _, _, _, payment, _, _, _, _, _, _, _, _, rfl⟩ := committed
          exact indexed.opened_iff
            ⟨refundId, orderId, caller, amount, reason, .pending, world.timestamp⟩
      | _ => exact iff_of_true (quiet (of_decide_eq_true rfl) (by simp)) trivial
  | _ call =>
      cases call <;> exact iff_of_true (quiet (of_decide_eq_true rfl) (by simp)) trivial

theorem World.RefundsIndexed.shows (indexed : world.RefundsIndexed) : world.ShowsRefunds := by
  intro env caller orderId refunds next committed
  simp [getRefundsForOrder, requireParty] at committed
  obtain ⟨_, _, _, ⟨rfl, _⟩, rfl⟩ := committed
  constructor
  · rw [Table.map_key_filterMap_get]
    exact (indexed.distinct orderId).filter _
  · intro refund
    rw [List.mem_filterMap]
    constructor
    · rintro ⟨id, member, stored⟩
      obtain rfl := Table.key_of_get stored
      exact ⟨stored, indexed.own orderId _ member refund stored⟩
    · rintro ⟨stored, rfl⟩
      exact ⟨refund.refundId, indexed.listed _ refund stored, stored⟩

end Cleanup

section Runs

variable {host : Host} {start : World}

theorem Deployed.refundsIndexed (deployed : Deployed host start) : start.RefundsIndexed := by
  obtain ⟨bank, timestamp, sequence, _, _, rfl⟩ := deployed
  exact ⟨fun _ => List.nodup_nil, fun id refund stored => by simp [World.deployed] at stored,
    nofun⟩

theorem World.refundsExact_iff {world : World} : world.RefundsExact ↔ world.RefundsIndexed :=
  ⟨RefundsExact.indexed, fun indexed => ⟨indexed, indexed.shows⟩⟩

/-- The index of the refunds is exact throughout a run, exactly if each accepted call opens its
refund under an identifier that no index lists. -/
theorem refund_index_exact_iff (deployed : Deployed host start) (actions : List Action) :
    Throughout (step host) World.RefundsExact start actions ↔
      Along (step host) (AcceptsOnly host TakesUnlistedId) start actions := by
  have exactly : ∀ world action, True → World.RefundsExact world → True →
      ((step host world action).RefundsExact ↔ AcceptsOnly host TakesUnlistedId world action) := by
    intro world action _ now _
    rw [World.refundsExact_iff]
    cases action with
    | invoke auth permits call =>
        by_cases accepted : Accepted host world auth permits call
        · rw [now.indexed.called_iff accepted.succeeds.executes]
          exact ⟨fun met _ => met, fun met => met accepted⟩
        · rw [step_of_refused accepted]
          exact iff_of_true now.indexed fun accepts => absurd accepts accepted
    | tokens operation =>
        refine iff_of_true ?_ trivial
        simp only [step]
        split
        · exact now.indexed
        · exact now.indexed.kept rfl fun id refund stored => ⟨refund, stored, rfl⟩
    | advance ledgers seconds =>
        exact iff_of_true
          (now.indexed.kept rfl fun id refund stored => ⟨refund, stored, rfl⟩) trivial
  exact throughout_iff_along exactly (fun _ _ _ _ _ _ => trivial) trivial
    (World.refundsExact_iff.mpr deployed.refundsIndexed)
    (along_of_forall (fun _ _ => trivial) start actions)

end Runs

/-- A rejected refund is cleaned up, and its identifier used for a refund of another order. -/
def Sample.recycling : List Action := [
  invokedBy payer (.payment (.processPaymentWithNonce payer [1] shop coin 500 [] none 0)),
  invokedBy payer (.payment (.processPaymentWithNonce payer [2] shop coin 500 [] none 1)),
  invokedBy payer (.refund (.initiateRefund payer [7] [1] 200 [])),
  invokedBy shop (.refund (.rejectRefund shop [7])),
  invokedBy admin (.admin (.setRefundRetentionPeriod admin 0)),
  .advance 1 60,
  invokedBy admin (.refund (.cleanupExpiredRefunds admin)),
  invokedBy payer (.refund (.initiateRefund payer [7] [2] 100 []))]

/-- The first order then lists a refund of the second. -/
theorem refund_listed_elsewhere :
    ¬ Throughout (step Sample.host) World.RefundsExact Sample.start
      (Sample.opening ++ Sample.recycling) := by
  have written : [7] ∈ (Sample.world Sample.recycling).getOrderRefundIds [1] ∧
      ((Sample.world Sample.recycling).getRefund [7]).map RefundRecord.orderId = some [2] := by
    decide +kernel
  obtain ⟨refund, stored, order⟩ := Option.map_eq_some_iff.mp written.2
  intro throughout
  have indexed := (throughout _ [] (List.append_nil _).symm).indexed
  have own := indexed.own [1] [7] written.1 refund stored
  cases own.symm.trans order

theorem refund_index_exact_iff_sample :
    Throughout (step Sample.host) World.RefundsExact Sample.start
        (Sample.opening ++ Sample.recycling.take 7) ↔
      Along (step Sample.host) (AcceptsOnly Sample.host TakesUnlistedId) Sample.start
        (Sample.opening ++ Sample.recycling.take 7) :=
  refund_index_exact_iff Sample.deployed_start _

end LumenFlow

import Mathlib.Data.Nat.SuccPred
import LumenFlow.Safety.Disputes
import LumenFlow.Safety.Origins

/-!
# Settling disputes

An unresolved dispute can be resolved for the merchant at any time, and for the payer as long as
its refund and the payment are stored and their numbers fit.
-/

namespace LumenFlow

open Kit Contract

/-- The admin can resolve the dispute both ways.  Where the tokens are there, a forced refund
goes through. -/
structure DisputeRecord.Settleable (host : Host) (world : World) (dispute : DisputeRecord)
    (admin : Address) (auth : List Address) (permits : TokenCall → Bool) (resolution : Text) :
    Prop where
  dismissed : Accepted host world auth permits
    (.refund (.resolveDispute admin dispute.disputeId resolution false))
  passes : ∀ error, (Call.refund (.resolveDispute admin dispute.disputeId resolution
    true)).dispatch (host.env auth permits) world ≠ .error (.error error)
  forced : ∃ refund payment, world.refunds.records.get dispute.refundId = some refund ∧
    world.payments.orders.get refund.orderId = some payment ∧
    ((host.env auth permits).Authorised payment.merchantAddress →
      permits (.transfer payment.token payment.merchantAddress payment.payer refund.amount) = true →
      refund.amount ≤ world.bank.balance payment.token payment.merchantAddress →
        Accepted host world auth permits
          (.refund (.resolveDispute admin dispute.disputeId resolution true)))

/-- While nothing is paused, every unresolved dispute can be settled by the admin with every
valid text. -/
def World.DisputesSettleable (host : Host) (world : World) : Prop :=
  world.gov.paused = false → ∀ id dispute, world.disputes.get id = some dispute →
    dispute.status ≠ .resolved → ∀ admin auth permits resolution,
      world.gov.admin = some admin → (host.env auth permits).Authorised admin →
      0 < resolution.length → resolution.length ≤ 256 →
        dispute.Settleable host world admin auth permits resolution

/-- The refund of a dispute is stored, and so is the payment of the refund. -/
def World.Backs (world : World) (refundId : Text) : Prop :=
  ∃ refund, world.refunds.records.get refundId = some refund ∧
    world.payments.orders.get refund.orderId ≠ none

/-- Every unresolved dispute has its refund and its payment. -/
def World.Backed (world : World) : Prop :=
  ∀ id dispute, world.disputes.get id = some dispute → dispute.status ≠ .resolved →
    world.Backs dispute.refundId

/-- One more refund fits the counters, and so does the sum of what is refunded. -/
structure World.CanRefund (world : World) (refund : RefundRecord) (payment : PaymentOrder) :
    Prop where
  sum : InI128 (payment.refundedAmount + refund.amount)
  global : world.stats.global.totalRefunds < u32Max
  merchant : (world.stats.merchant payment.merchantAddress).totalRefunds < u32Max

/-- The payouts of the unresolved disputes fit the numbers that they are counted in. -/
def World.PayoutsFit (world : World) : Prop :=
  ∀ id dispute refund payment, world.disputes.get id = some dispute →
    dispute.status ≠ .resolved →
    world.refunds.records.get dispute.refundId = some refund →
    world.payments.orders.get refund.orderId = some payment → world.CanRefund refund payment

/-- The call deletes payments or refunds. -/
def Call.Deletes : Call → Prop
  | .payment (.archivePaymentRecord ..) | .payment (.cleanupExpiredPayments ..)
  | .refund (.cleanupExpiredRefunds ..) => True
  | _ => False

/-- An accepted call opens no dispute without a refund, and deletes neither the refund nor the
payment of a dispute that is not resolved. -/
def LeavesDisputed (host : Host) (world : World) : Action → Prop
  | .invoke auth permits call => Accepted host world auth permits call →
      (∀ caller disputeId orderId reason,
        call ≠ .refund (.initiateDispute caller disputeId orderId reason)) ∧
      (call.Deletes → ∀ id dispute, world.disputes.get id = some dispute →
        dispute.status ≠ .resolved → world.Backs dispute.refundId →
          (step host world (.invoke auth permits call)).Backs dispute.refundId)
  | .tokens _ | .advance .. => True

section Deletions

variable {env : Env} {books next : Books} {call : Call}

theorem Effect.stored (effect : Effect env books call next) (undeleted : ¬ call.Deletes) :
    (∀ id, books.orders.get id ≠ none → next.orders.get id ≠ none) ∧
      ∀ id, books.refunds.get id ≠ none → next.refunds.get id ≠ none := by
  cases effect with
  | paid call orders profiles transfers =>
      refine ⟨fun id stored free => stored (Table.get_eq_none_of_putAll free), fun id stored => ?_⟩
      rwa [Books.settleAll_refunds]
  | statusUpdated => exact ⟨fun _ => Table.put_ne_none _, fun _ => id⟩
  | archived => exact (undeleted trivial).elim
  | paymentsCleaned => exact (undeleted trivial).elim
  | refundsCleaned => exact (undeleted trivial).elim
  | refundOpened => exact ⟨fun _ => id, fun _ => Table.put_ne_none _⟩
  | refundDecided => exact ⟨fun _ => id, fun _ => Table.put_ne_none _⟩
  | refundExecuted => exact ⟨fun _ => Table.put_ne_none _, fun _ => Table.put_ne_none _⟩
  | refundForced => exact ⟨fun _ => Table.put_ne_none _, fun _ => Table.put_ne_none _⟩
  | multisigPaid => exact ⟨fun _ => Table.put_ne_none _, fun _ => id⟩
  | requestPaid => exact ⟨fun _ => Table.put_ne_none _, fun _ => id⟩
  | _ => exact ⟨fun _ => id, fun _ => id⟩

end Deletions

section Backed

variable {host : Host} {env : Env} {world next : World} {call : Call} {action : Action}
  {refundId : Text}

theorem World.Backs.called (backs : world.Backs refundId)
    (committed : call.exec.Commits env world () next) (undeleted : ¬ call.Deletes) :
    next.Backs refundId := by
  obtain ⟨refund, stored, order⟩ := backs
  have effect := Call.effect committed
  obtain ⟨orders, refunds⟩ := effect.stored undeleted
  have kept : next.refunds.records.get refundId ≠ none :=
    refunds refundId fun free => by cases free.symm.trans stored
  obtain ⟨later, found⟩ := Option.ne_none_iff_exists'.mp kept
  have same := effect.sameSubject stored found
  exact ⟨later, found, same.orderId ▸ orders _ order⟩

/-- What a run that leaves the disputed records alone keeps. -/
structure World.DisputesReady (world : World) : Prop where
  backed : world.Backed
  valid : world.disputes.All fun dispute => ValidId dispute.disputeId
  unlocked : Unlocked world

theorem Deployed.disputesReady {start : World} (deployed : Deployed host start) :
    start.DisputesReady where
  backed id dispute stored := by cases (deployed.no_disputes id).symm.trans stored
  valid id dispute stored := by cases (deployed.no_disputes id).symm.trans stored
  unlocked := deployed.unlocked []

theorem World.Backed.called (backed : world.Backed)
    (committed : call.exec.Commits env world () next)
    (attached : ∀ caller disputeId orderId reason,
      call ≠ .refund (.initiateDispute caller disputeId orderId reason))
    (leaves : call.Deletes → ∀ id dispute, world.disputes.get id = some dispute →
      dispute.status ≠ .resolved → world.Backs dispute.refundId → next.Backs dispute.refundId) :
    next.Backed := by
  have kept (id : Text) (dispute : DisputeRecord)
      (stored : world.disputes.get id = some dispute) (unresolved : dispute.status ≠ .resolved) :
      next.Backs dispute.refundId := by
    have backs := backed id dispute stored unresolved
    by_cases deletes : call.Deletes
    · exact leaves deletes id dispute stored unresolved backs
    · exact backs.called committed deletes
  intro id later stored unresolved
  cases Call.disputeMove committed with
  | kept _ same =>
      rw [same] at stored
      exact kept id later stored unresolved
  | raised _ _ dispute refund payment _ _ _ _ refundStored order written =>
      rw [written] at stored ⊢
      rcases Table.get_put_cases stored with ⟨_, rfl⟩ | before
      · refine ⟨refund, refundStored, fun free => ?_⟩
        cases free.symm.trans order
      · exact backed id later before unresolved
  | initiated => exact absurd rfl (attached _ _ _ _)
  | advanced _ dispute advanced before subject _ _ _ further written =>
      rw [written] at stored
      rcases Table.get_put_cases stored with ⟨_, rfl⟩ | found
      · rw [subject.refundId]
        apply kept dispute.disputeId dispute before
        intro resolved
        rw [resolved] at further
        exact absurd later.status.rank_le_resolved (not_le.mpr further)
      · exact kept id later found unresolved
  | resolved _ resolution force dispute _ _ written =>
      rw [written] at stored
      rcases Table.get_put_cases stored with ⟨_, rfl⟩ | found
      · exact absurd rfl unresolved
      · exact kept id later found unresolved

theorem valid_disputes_called
    (valid : world.disputes.All fun dispute => ValidId dispute.disputeId)
    (committed : call.exec.Commits env world () next) :
    next.disputes.All fun dispute => ValidId dispute.disputeId := by
  apply (Call.disputeMove committed).all valid (fun _ valid _ _ => valid) _
    (fun dispute _ _ valid => valid)
  intro dispute later valid subject _ _ _
  rwa [subject.disputeId]

theorem World.DisputesReady.step (ready : world.DisputesReady)
    (leaves : LeavesDisputed host world action) :
    (LumenFlow.step host world action).DisputesReady := by
  rcases step_cases host world action with
    ⟨auth, permits, call, rfl, succeeded⟩ | ⟨_, bank, sequence, timestamp, same⟩
  · have committed := succeeded.executes
    obtain ⟨attached, undeleted⟩ := leaves succeeded.accepted
    exact ⟨ready.backed.called committed attached undeleted,
      valid_disputes_called ready.valid committed, ready.unlocked.called committed⟩
  · rw [same]
    exact ⟨ready.backed, ready.valid, ready.unlocked⟩

end Backed

section Settle

variable {host : Host} {world : World} {dispute : DisputeRecord} {refund : RefundRecord}
  {payment : PaymentOrder} {admin : Address} {auth : List Address}
  {permits : TokenCall → Bool} {resolution : Text}

/-- What `resolve_dispute` checks whichever way it decides. -/
structure Resolvable (env : Env) (world : World) (dispute : DisputeRecord) (admin : Address)
    (resolution : Text) : Prop where
  unpaused : world.gov.paused = false
  unlocked : world.isAuthLockedOut admin = false
  authorised : env.Authorised admin
  isAdmin : world.gov.admin = some admin
  nonempty : 0 < resolution.length
  short : resolution.length ≤ 256
  stored : world.disputes.get dispute.disputeId = some dispute
  unresolved : dispute.status ≠ .resolved

theorem Resolvable.dismisses {env : Env}
    (resolvable : Resolvable env world dispute admin resolution) :
    ∃ next, (resolveDispute admin dispute.disputeId resolution false).Commits env world ()
      next := by
  obtain ⟨unpaused, unlocked, authorised, isAdmin, nonempty, short, stored, unresolved⟩ :=
    resolvable
  have filled : resolution ≠ [] := List.ne_nil_of_length_pos nonempty
  simp [resolveDispute, unpaused, unlocked, authorised, isAdmin, filled, short, stored,
    unresolved]

theorem Resolvable.forces {env : Env}
    (resolvable : Resolvable env world dispute admin resolution)
    (refundStored : world.refunds.records.get dispute.refundId = some refund)
    (order : world.payments.orders.get refund.orderId = some payment)
    (fits : world.CanRefund refund payment) (positive : 0 ≤ refund.amount)
    (authorised : payment.merchantAddress = env.host.self ∨ env.Authorised payment.merchantAddress)
    (permitted : env.permits (.transfer payment.token payment.merchantAddress payment.payer
      refund.amount) = true)
    (funded : refund.amount ≤ world.bank.balance payment.token payment.merchantAddress) :
    ∃ next, (resolveDispute admin dispute.disputeId resolution true).Commits env world ()
      next := by
  obtain ⟨unpaused, unlocked, adminAuthorised, isAdmin, nonempty, short, stored, unresolved⟩ :=
    resolvable
  have filled : resolution ≠ [] := List.ne_nil_of_length_pos nonempty
  have global : world.stats.global.totalRefunds < u32Max := fits.global
  have merchant : (world.stats.merchant payment.merchantAddress).totalRefunds < u32Max :=
    fits.merchant
  simp [resolveDispute, forceRefund, countGlobalRefund, countMerchantRefund, unpaused, unlocked,
    adminAuthorised, isAdmin, filled, short, stored, unresolved, refundStored, order, fits.sum,
    global, merchant, authorised, permitted, funded, positive]

/-- A forced resolution of a dispute that has its refund and payment fails at most in the host. -/
theorem Resolvable.passes {env : Env} {error : PaymentError}
    (resolvable : Resolvable env world dispute admin resolution)
    (backs : world.Backs dispute.refundId) :
    ¬ (resolveDispute admin dispute.disputeId resolution true).Fails env world
      (.error error) := by
  obtain ⟨refund, refundStored, order⟩ := backs
  obtain ⟨payment, order⟩ := Option.ne_none_iff_exists'.mp order
  obtain ⟨unpaused, unlocked, adminAuthorised, isAdmin, nonempty, short, stored, unresolved⟩ :=
    resolvable
  have filled : resolution ≠ [] := List.ne_nil_of_length_pos nonempty
  simp [resolveDispute, forceRefund, countGlobalRefund, countMerchantRefund, requireNotPaused,
    requireAdminRateLimited, tokenTransfer, tokenAuth, tokenPermits, unpaused, unlocked,
    adminAuthorised, isAdmin, filled, short, stored, unresolved, refundStored, order]

end Settle

section Runs

variable {host : Host} {start world : World}

theorem World.DisputesReady.settleable (ready : world.DisputesReady)
    (clean : world.books.Clean host.self) (fits : world.PayoutsFit) :
    world.DisputesSettleable host := by
  intro unpaused id dispute stored unresolved admin auth permits resolution isAdmin authorised
    nonempty short
  have backs := ready.backed id dispute stored unresolved
  have valid := ready.valid id dispute stored
  obtain rfl := Table.key_of_get stored
  have resolvable : Resolvable (host.env auth permits) world dispute admin resolution :=
    ⟨unpaused, ready.unlocked.not_locked admin, authorised, isAdmin, nonempty, short, stored,
      unresolved⟩
  have sized (force : Bool) :
      (Call.refund (.resolveDispute admin dispute.disputeId resolution force)).Fits :=
    ⟨valid.2.trans (by decide), short.trans (by decide)⟩
  obtain ⟨refund, refundStored, order⟩ := backs
  obtain ⟨payment, order⟩ := Option.ne_none_iff_exists'.mp order
  refine ⟨?_, ?_, refund, payment, refundStored, order, ?_⟩
  · obtain ⟨next, committed⟩ := resolvable.dismisses
    exact ⟨next, succeeds_iff.mpr ⟨sized false, committed⟩⟩
  · intro error refused
    rcases Tx.fails_bind.mp refused with trapped | ⟨_, _, fits, failed⟩
    · simp at trapped
    · simp at fits
      rw [fits.2] at failed
      exact resolvable.passes ⟨refund, refundStored, by simp [order]⟩ failed
  · intro merchant permitted funded
    have positive : 0 < refund.amount := clean.refunds _ _ refundStored
    have counted := fits _ _ _ _ stored unresolved refundStored order
    obtain ⟨next, committed⟩ := resolvable.forces refundStored order counted positive.le
      (.inr merchant) permitted funded
    exact ⟨next, succeeds_iff.mpr ⟨sized true, committed⟩⟩

/-- In a run that opens no dispute without a refund, deletes no record of an unresolved dispute
and keeps its numbers in range, every dispute can be settled both ways. -/
theorem disputes_settleable (deployed : Deployed host start) (actions : List Action)
    (leaves : Along (step host) (LeavesDisputed host) start actions)
    (fits : Throughout (step host) World.PayoutsFit start actions) :
    Throughout (step host) (World.DisputesSettleable host) start actions := by
  have ready : Throughout (step host) World.DisputesReady start actions :=
    throughout_of_along (fun _ _ before => before.step) deployed.disputesReady leaves
  intro before after split
  have clean := (sound_run deployed.sound before).toClean
  exact (ready before after split).settleable clean (fits before after split)

end Runs

/-- The payer disputes a payment as such, without a refund. -/
def Sample.flagging : List Action := [
  invokedBy payer (.payment (.processPaymentWithNonce payer [1] shop coin 500 [] none 0)),
  invokedBy payer (.refund (.initiateDispute payer [3] [1] [89]))]

/-- Such a dispute cannot be resolved for the payer. -/
theorem flagged_dispute_not_forced :
    ¬ Throughout (step Sample.host) (World.DisputesSettleable Sample.host) Sample.start
      (Sample.opening ++ Sample.flagging) := by
  have state : (Sample.world Sample.flagging).gov.paused = false ∧
      (Sample.world Sample.flagging).gov.admin = some Sample.admin ∧
      (Sample.world Sample.flagging).refunds.records.get [] = none ∧
      ((Sample.world Sample.flagging).disputes.get [3]).map
        (fun dispute => (dispute.refundId, dispute.status)) = some ([], .open) := by
    decide +kernel
  obtain ⟨unpaused, isAdmin, absent, opened⟩ := state
  obtain ⟨dispute, stored, same⟩ := Option.map_eq_some_iff.mp opened
  obtain ⟨refundId, isOpen⟩ := Prod.mk.inj same
  intro settleable
  have settles := settleable _ [] (List.append_nil _).symm unpaused [3] dispute stored
    (by simp [isOpen]) Sample.admin [Sample.admin] (fun _ => true) [89] isAdmin (by decide)
    (by decide) (by decide)
  obtain ⟨refund, _, found, _⟩ := settles.forced
  rw [refundId] at found
  cases absent.symm.trans found

section Sample

variable {world : World} {dispute : DisputeRecord}

instance (world : World) (refund : RefundRecord) (payment : PaymentOrder) :
    Decidable (world.CanRefund refund payment) :=
  decidable_of_iff (InI128 (payment.refundedAmount + refund.amount) ∧
      world.stats.global.totalRefunds < u32Max ∧
      (world.stats.merchant payment.merchantAddress).totalRefunds < u32Max)
    ⟨fun ⟨sum, global, merchant⟩ => ⟨sum, global, merchant⟩,
      fun fits => ⟨fits.sum, fits.global, fits.merchant⟩⟩

/-- There is at most the one dispute, and its payout fits. -/
def World.OnlyDispute (world : World) (dispute : DisputeRecord) : Prop :=
  (world.disputes = Table.empty ∨ world.disputes = Table.empty.put dispute) ∧
    ∀ refund ∈ world.refunds.records.get dispute.refundId,
      ∀ payment ∈ world.payments.orders.get refund.orderId, world.CanRefund refund payment

instance (world : World) (dispute : DisputeRecord) : Decidable (world.OnlyDispute dispute) :=
  inferInstanceAs (Decidable (_ ∧ _))

theorem World.OnlyDispute.payoutsFit (only : world.OnlyDispute dispute) : world.PayoutsFit := by
  intro id other refund payment stored _ refundStored order
  rcases only.1 with none | single
  · rw [none, Table.get_empty] at stored
    cases stored
  · rw [single] at stored
    rcases Table.get_put_cases stored with ⟨_, rfl⟩ | before
    · exact only.2 refund refundStored payment order
    · cases (Table.get_empty id).symm.trans before

/-- The payer disputes the rejection of a refund. -/
def Sample.complaining : List Action := [
  invokedBy payer (.payment (.processPaymentWithNonce payer [1] shop coin 500 [] none 0)),
  invokedBy payer (.refund (.initiateRefund payer [2] [1] 200 [])),
  invokedBy shop (.refund (.rejectRefund shop [2])),
  invokedBy payer (.refund (.raiseDispute payer [3] [2] [])),
  invokedBy admin (.refund (.escalateDispute admin [3] none))]

def Sample.complaint (status : DisputeStatus) : DisputeRecord :=
  ⟨[3], [1], [2], payer, [], status, none, none, 0⟩

theorem disputes_settleable_sample :
    Throughout (step Sample.host) (World.DisputesSettleable Sample.host) Sample.start
      (Sample.opening ++ Sample.complaining) := by
  have leaves : Along (step Sample.host) (LeavesDisputed Sample.host) Sample.start
      (Sample.opening ++ Sample.complaining) := by
    simp [Sample.opening, Sample.complaining, Sample.invokedBy, LeavesDisputed, Call.Deletes]
  let only (world : World) : Prop := world.OnlyDispute (Sample.complaint .open) ∨
    world.OnlyDispute (Sample.complaint .escalated)
  have initial : only Sample.start := by
    dsimp only [only]
    decide +kernel
  have next : Along (step Sample.host) (fun world action => only (step Sample.host world action))
      Sample.start (Sample.opening ++ Sample.complaining) := by
    dsimp only [only]
    decide +kernel
  have kept : ∀ world action, only world → only (step Sample.host world action) →
      only (step Sample.host world action) := fun _ _ _ still => still
  have throughout := throughout_of_along kept initial next
  apply disputes_settleable Sample.deployed_start _ leaves
  intro before after split
  exact (throughout before after split).elim World.OnlyDispute.payoutsFit
    World.OnlyDispute.payoutsFit

end Sample

end LumenFlow

import Mathlib.Data.Nat.SuccPred
import LumenFlow.Safety.Totals

/-!
# Cached and recounted statistics

`get_global_payment_stats` returns the cached counters, or counts the payments in a range of
time that the merchants list.  The two agree until a payment is refunded a second time, or
counted and not listed.
-/

namespace LumenFlow

open Kit Contract

/-- What a payment adds to the statistics of a range that it lies in. -/
def PaymentOrder.share (payment : PaymentOrder) : Totals where
  payments := 1
  volume := payment.amount
  refunds := if 0 < payment.refundedAmount then 1 else 0
  refundVolume := max 0 payment.refundedAmount

/-- The payment lies in the range. -/
def PaymentOrder.Within (dateStart dateEnd : Option Nat) (payment : PaymentOrder) : Prop :=
  dateStart.all (· ≤ payment.paidAt) ∧ dateEnd.all (payment.paidAt ≤ ·)

/-- The cached statistics have the same counters as those of every range with all payments. -/
def World.StatisticsAgree (host : Host) (world : World) : Prop :=
  ∀ auth permits admin dateStart dateEnd cached next,
    (getGlobalPaymentStats admin none none).Commits (host.env auth permits) world cached next →
    (∀ first ∈ dateStart, ∀ last ∈ dateEnd, first ≤ last) →
    (∀ id, ∀ payment ∈ world.getPayment id, payment.Within dateStart dateEnd) →
      ∃ counted, (getGlobalPaymentStats admin dateStart dateEnd).Commits (host.env auth permits)
        world counted next ∧ counted.totals = cached.totals

/-- The call deletes payments or sets what was refunded on them. -/
def Call.Rewrites : Call → Prop
  | .payment (.archivePaymentRecord ..) | .payment (.cleanupExpiredPayments ..)
  | .payment (.updatePaymentStatus ..) => True
  | _ => False

instance (call : Call) : Decidable call.Rewrites :=
  match call with
  | .payment (.archivePaymentRecord ..) | .payment (.cleanupExpiredPayments ..)
  | .payment (.updatePaymentStatus ..) => .isTrue trivial
  | .payment (.processPaymentWithSignature ..) | .payment (.processPaymentWithNonce ..)
  | .payment (.batchPayment ..) | .payment (.getPaymentById ..) | .payment (.getPaymentSummary ..)
  | .payment (.getMerchantPaymentHistory ..) | .payment (.getPayerPaymentHistory ..)
  | .payment (.getGlobalPaymentStats ..) | .payment (.getAccountPaymentCount ..)
  | .payment (.getPayerNonce ..) | .payment (.getMerchantNonce ..)
  | .admin _ | .merchant _ | .refund _ | .multisig _ | .subscription _ | .escrow _ => .isFalse id

/-- Nothing was refunded on the payment of the refund so far, and it is listed once. -/
def World.FirstRefund (world : World) (refundId : Text) : Prop :=
  ∀ refund ∈ world.getRefund refundId, ∀ payment ∈ world.getPayment refund.orderId,
    payment.refundedAmount = 0 ∧ world.listedPaymentIds.count refund.orderId = 1

/-- The refunds of the call are the first ones of their payments, and its payments are listed
by a merchant of the list.  A payment that is replaced looks the same. -/
def CountsOnce (world : World) : Call → Prop
  | .refund (.executeRefund refundId) => world.FirstRefund refundId
  | .refund (.resolveDispute _ disputeId _ true) =>
      ∀ dispute ∈ world.getDispute disputeId, world.FirstRefund dispute.refundId
  | .multisig (.executeMultisigPayment _ paymentId) =>
      ∀ multisig ∈ world.getMultisig paymentId,
        (world.getMerchantPaymentIds multisig.merchantAddress).length < maxPaymentIdsPerAccount ∧
          ∀ old ∈ world.getPayment paymentId,
            old.amount = multisig.amount ∧ old.refundedAmount ≤ 0
  | .multisig (.payPaymentRequest _ requestId) =>
      ∀ request ∈ world.getPaymentRequest requestId, request.merchant ∈ world.merchants.list
  | _ => True

instance (world : World) (refundId : Text) : Decidable (world.FirstRefund refundId) :=
  inferInstanceAs (Decidable (∀ _ ∈ _, ∀ _ ∈ _, _ ∧ _))

instance (world : World) (call : Call) : Decidable (CountsOnce world call) :=
  match call with
  | .refund (.executeRefund _) => inferInstanceAs (Decidable (World.FirstRefund _ _))
  | .refund (.resolveDispute _ _ _ true) =>
      inferInstanceAs (Decidable (∀ _ ∈ _, World.FirstRefund _ _))
  | .multisig (.executeMultisigPayment ..) =>
      inferInstanceAs (Decidable (∀ _ ∈ _, _ ∧ ∀ _ ∈ _, _ ∧ _))
  | .multisig (.payPaymentRequest ..) => inferInstanceAs (Decidable (∀ _ ∈ _, _ ∈ _))
  | .refund (.resolveDispute _ _ _ false)
  | .refund (.initiateRefund ..) | .refund (.approveRefund ..) | .refund (.rejectRefund ..)
  | .refund (.cleanupExpiredRefunds ..) | .refund (.raiseDispute ..)
  | .refund (.initiateDispute ..) | .refund (.markDisputeUnderReview ..)
  | .refund (.escalateDispute ..) | .refund (.getRefundsForOrder ..) | .refund (.getRefund ..)
  | .refund (.getDispute ..)
  | .multisig (.initiateMultisigPayment ..) | .multisig (.signMultisigPayment ..)
  | .multisig (.cancelMultisigPayment ..) | .multisig (.getMultisigPayment ..)
  | .multisig (.createPaymentRequest ..) | .multisig (.cancelPaymentRequest ..)
  | .multisig (.cancelExpiredPaymentRequests ..)
  | .admin _ | .merchant _ | .payment _ | .subscription _ | .escrow _ => .isTrue trivial

namespace PaymentOrder

variable {payment : PaymentOrder} {amount : Int} {version now : Nat}

theorem share_of_unrefunded (unrefunded : payment.refundedAmount ≤ 0) :
    payment.share = .ofPayment payment.amount := by
  have none : ¬ 0 < payment.refundedAmount := not_lt.mpr unrefunded
  simp [share, Totals.ofPayment, none, unrefunded]

theorem share_refundBy (first : payment.refundedAmount = 0) (positive : 0 < amount) :
    (payment.refundBy amount version).share = payment.share + .ofRefund amount := by
  ext <;> simp [share, refundBy, Totals.ofRefund, first, positive, positive.le]

end PaymentOrder

namespace Accounts

/-- The payments that the merchants list, counted anew. -/
def recount (merchants : List Address) (accounts : Accounts) : Totals :=
  accounts.merchantIds.tally merchants accounts.orders PaymentOrder.share

/-- The listed payments are stored, and as long as no counter has saturated their recount is
what the counters say. -/
structure Recounted (merchants : List Address) (accounts : Accounts) : Prop where
  strangers : ∀ stranger ∉ merchants, accounts.merchantIds stranger = []
  stored : ∀ id ∈ accounts.merchantIds.listing merchants, accounts.orders.get id ≠ none
  above : accounts.totals.Above
  agree : accounts.totals.Unsaturated → accounts.recount merchants = accounts.totals

namespace Recounted

variable {merchants : List Address} {accounts after : Accounts} {order payment : PaymentOrder}
  {amount : Int} {version : Nat}

theorem joined {merchant : Address} (recounted : accounts.Recounted merchants)
    (new : merchant ∉ merchants) : accounts.Recounted (merchants ++ [merchant]) := by
  have same : accounts.merchantIds.listing (merchants ++ [merchant]) =
      accounts.merchantIds.listing merchants := by
    simp [Index.listing, recounted.strangers merchant new]
  refine ⟨fun stranger apart => ?_, ?_, recounted.above, ?_⟩
  · exact recounted.strangers stranger fun member => apart (List.mem_append_left _ member)
  · rw [same]
    exact recounted.stored
  · rw [recount, Index.tally, same]
    exact recounted.agree

theorem filed (recounted : accounts.Recounted merchants) (distinct : merchants.Nodup)
    (known : order.merchantAddress ∈ merchants) (new : order.refundedAmount = 0)
    (positive : 0 < order.amount)
    (alike : ∀ old, accounts.orders.get order.orderId = some old → old.share = order.share)
    (orders : after.orders = accounts.orders.put order)
    (merchantIds : after.merchantIds =
      accounts.merchantIds.add true order.merchantAddress order.orderId)
    (totals : after.totals = accounts.totals.pay order.amount) : after.Recounted merchants := by
  refine ⟨fun stranger apart => ?_, fun id listed => ?_, ?_, fun unsaturated => ?_⟩
  · have different : stranger ≠ order.merchantAddress := by
      rintro rfl
      exact apart known
    rw [merchantIds, Index.add_of_ne different]
    exact recounted.strangers stranger apart
  · rw [orders]
    by_cases here : id = order.orderId
    · rw [here, Table.get_put_self]
      simp
    · refine Table.put_ne_none order (recounted.stored id ?_)
      rw [merchantIds] at listed
      obtain ⟨who, member, inside⟩ := List.mem_flatMap.mp listed
      exact List.mem_flatMap.mpr ⟨who, member, (Index.mem_add_of_ne here).mp inside⟩
  · rw [totals]
    exact ⟨Totals.saturatingAdd_lower recounted.above.volume positive,
      recounted.above.refundVolume⟩
  · rw [totals] at unsaturated
    have payAll : accounts.totals.payAll [order.amount] = accounts.totals.pay order.amount := rfl
    obtain ⟨exactly, before⟩ := recounted.above.payAll_exact
      (List.forall_mem_singleton.mpr positive) (payAll ▸ unsaturated)
    have share : order.share = .ofPayment order.amount :=
      PaymentOrder.share_of_unrefunded new.le
    -- the recount of the payments as they were, under the new identifier too
    have kept : accounts.merchantIds.tally merchants (accounts.orders.put order)
        PaymentOrder.share = accounts.recount merchants := by
      cases stored : accounts.orders.get order.orderId with
      | none =>
          apply Index.tally_put_of_unlisted
          intro listed
          exact recounted.stored _ listed stored
      | some old =>
          apply Index.tally_put_of_same
          rw [Table.weightAt, stored, ← alike old stored]
          rfl
    rw [recount, orders, merchantIds, Index.tally_add distinct known, kept,
      Table.weightAt_put_self, recounted.agree before, share, totals, ← payAll, exactly]
    simp

theorem payAll {orders : List PaymentOrder} (recounted : accounts.Recounted merchants)
    (distinct : merchants.Nodup) (apart : (orders.map PaymentOrder.orderId).Nodup)
    (fresh : ∀ order ∈ orders, accounts.orders.get order.orderId = none)
    (opened : ∀ order ∈ orders, order.merchantAddress ∈ merchants ∧ order.refundedAmount = 0 ∧
      0 < order.amount) : (accounts.payAll orders).Recounted merchants := by
  induction orders generalizing accounts with
  | nil => exact recounted
  | cons order rest inductionHypothesis =>
      obtain ⟨others, apart⟩ := List.nodup_cons.mp apart
      obtain ⟨free, fresh⟩ := List.forall_mem_cons.mp fresh
      obtain ⟨⟨known, new, positive⟩, opened⟩ := List.forall_mem_cons.mp opened
      refine inductionHypothesis (recounted.filed distinct known new positive ?_ rfl rfl rfl) apart
        ?_ opened
      · intro old stored
        cases free.symm.trans stored
      · intro other member
        have different : other.orderId ≠ order.orderId := by
          intro same
          exact others (same ▸ List.mem_map_of_mem member)
        change (accounts.orders.put order).get other.orderId = none
        rw [Table.get_put_of_ne different]
        exact fresh other member

theorem refund (recounted : accounts.Recounted merchants)
    (stored : accounts.orders.get payment.orderId = some payment)
    (first : payment.refundedAmount = 0)
    (once : (accounts.merchantIds.listing merchants).count payment.orderId = 1)
    (positive : 0 < amount) :
    (accounts.refund (payment.refundBy amount version) amount).Recounted merchants := by
  refine ⟨recounted.strangers, fun id listed => ?_, recounted.above.refund positive,
    fun unsaturated => ?_⟩
  · exact Table.put_ne_none (payment.refundBy amount version) (recounted.stored id listed)
  · obtain ⟨exactly, before⟩ := recounted.above.refund_exact positive unsaturated
    have written : (accounts.refund (payment.refundBy amount version) amount).recount merchants +
          (accounts.merchantIds.listing merchants).count payment.orderId •
            accounts.orders.weightAt PaymentOrder.share payment.orderId =
        accounts.recount merchants +
          (accounts.merchantIds.listing merchants).count payment.orderId •
            (payment.refundBy amount version).share := Index.tally_put
    have old : accounts.orders.weightAt PaymentOrder.share payment.orderId = payment.share := by
      rw [Table.weightAt, stored]
      rfl
    rw [once, old, one_nsmul, one_nsmul, PaymentOrder.share_refundBy first positive,
      recounted.agree before] at written
    have shifted : payment.share + (accounts.refund (payment.refundBy amount version)
          amount).recount merchants =
        payment.share + (accounts.totals + .ofRefund amount) :=
      calc payment.share + _ = _ + payment.share := add_comm _ _
        _ = accounts.totals + (payment.share + .ofRefund amount) := written
        _ = payment.share + (accounts.totals + .ofRefund amount) := add_left_comm _ _ _
    exact (Totals.add_left_cancel shifted).trans exactly.symm

end Recounted

end Accounts

section Moves

variable {env : Env} {host : Host} {world next : World} {call : Call} {after : Accounts}

/-- What a run keeps in which every call counts its payments and refunds once. -/
structure World.Recountable (host : Host) (world : World) : Prop where
  rostered : world.Rostered
  sound : world.books.Sound host.self
  payees : world.multisigs.All fun multisig => multisig.merchantAddress ∈ world.merchants.list
  fits : world.accounts.Fits
  recounted : world.accounts.Recounted world.merchants.list

theorem Effect.multisig_payees {books books' : Books} {merchants : List Address}
    (effect : Effect env books call books')
    (registered : ∀ merchant, books.Registered merchant → merchant ∈ merchants)
    (payees : books.multisigs.All fun multisig => multisig.merchantAddress ∈ merchants) :
    books'.multisigs.All fun multisig => multisig.merchantAddress ∈ merchants := by
  cases effect with
  | paid =>
      rw [Books.settleAll_multisigs]
      exact payees
  | multisigOpened call multisig free positive known =>
      exact payees.put (registered _ known)
  | multisigChanged call old multisig stored same =>
      have known : multisig.merchantAddress ∈ merchants := by
        rw [same.merchantAddress]
        exact payees _ old stored
      exact payees.put known
  | multisigPaid payer multisig stored =>
      have known := payees _ multisig stored
      exact payees.put known
  | _ => exact payees

theorem Accounts.Move.fits (move : Accounts.Move world call after) (fits : world.accounts.Fits) :
    after.Fits := by
  cases move with
  | kept | dismissed | statusUpdated | archived | cleaned => exact ⟨fits.payments, fits.refunds⟩
  | paid call orders listed distinct fresh opened kept => exact kept fits
  | refundExecuted _ _ _ _ room => exact ⟨fits.payments, room⟩
  | refundForced _ _ _ _ _ _ _ _ room => exact ⟨fits.payments, room⟩
  | multisigPaid _ _ _ room => exact ⟨room, fits.refunds⟩
  | requestPaid _ _ _ _ room => exact ⟨room, fits.refunds⟩

/-- A refund that is the first one of its payment keeps the recount. -/
theorem World.Recountable.refunded (recountable : world.Recountable host) {refundId : Text}
    {refund : RefundRecord} {payment : PaymentOrder} {version : Nat}
    (first : world.FirstRefund refundId)
    (found : world.refunds.records.get refundId = some refund)
    (stored : world.payments.orders.get refund.orderId = some payment) :
    (world.accounts.refund (payment.refundBy refund.amount version) refund.amount).Recounted
      world.merchants.list := by
  obtain ⟨unrefunded, once⟩ := first refund found payment stored
  have key : payment.orderId = refund.orderId := Table.key_of_get stored
  rw [← key] at stored once
  exact recountable.recounted.refund stored unrefunded once
    (recountable.sound.refunds _ refund found)

theorem Accounts.Move.recounted (move : Accounts.Move world call after)
    (rewrites : ¬ call.Rewrites) (once : CountsOnce world call)
    (recountable : world.Recountable host) : after.Recounted world.merchants.list := by
  have distinct := recountable.rostered.distinct
  have recounted := recountable.recounted
  cases move with
  | kept => exact recounted
  | dismissed => exact recounted
  | paid call orders listed apart fresh opened =>
      exact recounted.payAll distinct apart fresh fun order member =>
        ⟨recountable.rostered.mem_of_registered (opened order member).2.2,
          (opened order member).1.refundedAmount, (opened order member).2.1⟩
  | statusUpdated | archived | cleaned => exact absurd trivial rewrites
  | refundExecuted refund payment approved stored =>
      exact recountable.refunded once approved stored
  | refundForced admin resolution dispute refund payment raised rejected stored =>
      exact recountable.refunded (once dispute raised) rejected stored
  | multisigPaid payer multisig stored =>
      obtain ⟨room, same⟩ := once multisig stored
      have known : multisig.merchantAddress ∈ world.merchants.list :=
        recountable.payees _ multisig stored
      have positive : 0 < multisig.amount := (recountable.sound.multisigs _ multisig stored).2
      rw [decide_eq_true room]
      refine recounted.filed distinct known rfl positive ?_ rfl rfl rfl
      intro old replaced
      obtain ⟨amount, unrefunded⟩ := same old replaced
      have new : (multisig.order payer world.timestamp).refundedAmount ≤ 0 := le_refl (0 : Int)
      rw [PaymentOrder.share_of_unrefunded unrefunded, PaymentOrder.share_of_unrefunded new, amount]
      rfl
  | requestPaid payer request stored fresh =>
      have positive : 0 < request.amount := (recountable.sound.requests _ request stored).2
      refine recounted.filed distinct (once request stored) rfl positive ?_ rfl rfl rfl
      intro old replaced
      cases fresh.symm.trans replaced

theorem World.Recountable.step {action : Action} (recountable : world.Recountable host)
    (rewrites : AcceptsOnly host (fun _ call => ¬ call.Rewrites) world action)
    (once : AcceptsOnly host CountsOnce world action) :
    (LumenFlow.step host world action).Recountable host := by
  have sound := (step_change (admits_anyCall host world action)).sound recountable.sound
  have rostered : (LumenFlow.step host world action).Rostered :=
    recountable.rostered.step action
  rcases step_cases host world action with
    ⟨auth, permits, call, rfl, succeeded⟩ | ⟨_, bank, sequence, timestamp, same⟩
  · have move := Call.move succeeded.executes
    have roster := Call.rosterMove succeeded.executes recountable.rostered.legacy
    have recounted := move.recounted (rewrites succeeded.accepted) (once succeeded.accepted)
      recountable
    have payees := succeeded.effect.multisig_payees
      (fun _ => recountable.rostered.mem_of_registered) recountable.payees
    refine ⟨rostered, sound, fun id multisig stored => roster.mem_mono (payees id multisig stored),
      move.fits recountable.fits, ?_⟩
    exact roster.listed (Accounts.Recounted · _) recountable.rostered recounted fun _ =>
      recounted.joined
  · refine ⟨rostered, sound, ?_, ?_, ?_⟩
    · rw [same]
      exact recountable.payees
    · rw [same]
      exact recountable.fits
    · rw [same]
      exact recountable.recounted

theorem Deployed.recountable {start : World} (deployed : Deployed host start) :
    start.Recountable host := by
  have sound := deployed.sound
  have rostered := deployed.rostered_start
  obtain ⟨bank, timestamp, sequence, _, _, rfl⟩ := deployed
  refine ⟨rostered, sound, Table.all_empty _, ⟨Nat.zero_le _, Nat.zero_le _⟩, ?_⟩
  exact ⟨fun _ _ => rfl, (fun _ listed => nomatch listed), Totals.above_zero, fun _ => rfl⟩

end Moves

namespace Totals

variable {first second : Totals}

/-- The volumes are not negative. -/
structure Nonneg (totals : Totals) : Prop where
  volume : 0 ≤ totals.volume
  refundVolume : 0 ≤ totals.refundVolume

/-- The counters fit the integers that they are stored in. -/
structure Small (totals : Totals) : Prop where
  payments : totals.payments ≤ u32Max
  volume : totals.volume ≤ i128Max
  refunds : totals.refunds ≤ u32Max
  refundVolume : totals.refundVolume ≤ i128Max

theorem Nonneg.add (left : first.Nonneg) (right : second.Nonneg) : (first + second).Nonneg :=
  ⟨add_nonneg left.volume right.volume, add_nonneg left.refundVolume right.refundVolume⟩

theorem Nonneg.sum {counters : List Totals} (nonneg : ∀ totals ∈ counters, totals.Nonneg) :
    counters.sum.Nonneg := by
  induction counters with
  | nil => exact ⟨le_refl _, le_refl _⟩
  | cons head rest inductionHypothesis =>
      obtain ⟨here, later⟩ := List.forall_mem_cons.mp nonneg
      rw [List.sum_cons]
      exact here.add (inductionHypothesis later)

theorem Small.of_add (small : (first + second).Small) (nonneg : second.Nonneg) : first.Small where
  payments := (Nat.le_add_right _ _).trans small.payments
  volume := (le_add_of_nonneg_right nonneg.volume).trans small.volume
  refunds := (Nat.le_add_right _ _).trans small.refunds
  refundVolume := (le_add_of_nonneg_right nonneg.refundVolume).trans small.refundVolume

theorem saturatingAdd_of_le {volume amount : Int} (above : 0 ≤ volume) (nonneg : 0 ≤ amount)
    (below : volume + amount ≤ i128Max) : saturatingAdd volume amount = volume + amount := by
  have lower : i128Min ≤ 0 := by decide
  unfold saturatingAdd
  omega

end Totals

section Aggregation

variable {env : Env} {world : World} {dateStart dateEnd : Option Nat}

/-- What the payment under an identifier adds to the statistics. -/
def World.shareOf (world : World) : Text → Totals :=
  world.payments.orders.weightAt PaymentOrder.share

theorem World.shareOf_nonneg
    (positive : world.payments.orders.All fun payment => 0 < payment.amount) (id : Text) :
    (world.shareOf id).Nonneg := by
  unfold World.shareOf Table.weightAt
  cases stored : world.payments.orders.get id with
  | none => exact ⟨le_refl _, le_refl _⟩
  | some payment => exact ⟨(positive id payment stored).le, le_max_left _ _⟩

theorem addToRange_commits {id : Text} {stats : GlobalStats}
    (within : ∀ payment ∈ world.getPayment id, payment.Within dateStart dateEnd)
    (start : stats.totals.Nonneg) (share : (world.shareOf id).Nonneg)
    (small : (stats.totals + world.shareOf id).Small) :
    ∃ counted, (addToRange dateStart dateEnd stats id).Commits env world counted world ∧
      counted.totals = stats.totals + world.shareOf id := by
  cases stored : world.payments.orders.get id with
  | none =>
      have nothing : world.shareOf id = 0 := by
        rw [World.shareOf, Table.weightAt, stored]
        rfl
      refine ⟨stats, ?_, by rw [nothing, add_zero]⟩
      exact Tx.commits_bind.mpr ⟨none, world, Tx.commits_gets.mpr ⟨stored.symm, rfl⟩,
        Tx.commits_pure.mpr ⟨rfl, rfl⟩⟩
  | some payment =>
      have whole : world.shareOf id = payment.share := by
        rw [World.shareOf, Table.weightAt, stored]
        rfl
      rw [whole] at small share ⊢
      have inside := within payment stored
      have paid : stats.totalPayments + 1 ≤ u32Max := small.payments
      have volume : saturatingAdd stats.totalVolume payment.amount =
          stats.totalVolume + payment.amount :=
        Totals.saturatingAdd_of_le start.volume share.volume small.volume
      by_cases refunded : 0 < payment.refundedAmount
      · have unit : payment.share = ⟨1, payment.amount, 1, payment.refundedAmount⟩ := by
          simp [PaymentOrder.share, refunded, refunded.le]
        rw [unit] at small share ⊢
        have room : stats.totalRefunds < u32Max := small.refunds
        have refundVolume : saturatingAdd stats.totalRefundVolume payment.refundedAmount =
            stats.totalRefundVolume + payment.refundedAmount :=
          Totals.saturatingAdd_of_le start.refundVolume share.refundVolume small.refundVolume
        refine ⟨⟨stats.totalPayments + 1, stats.totalVolume + payment.amount,
          stats.totalRefunds + 1, stats.totalRefundVolume + payment.refundedAmount,
          stats.activeMerchants⟩, ?_, rfl⟩
        refine Tx.commits_bind.mpr ⟨some payment, world, Tx.commits_gets.mpr ⟨stored.symm, rfl⟩, ?_⟩
        refine Tx.commits_ite.mpr (.inl ⟨inside, ?_⟩)
        simp [countedPayment, refunded, paid, room, volume, refundVolume]
      · have unit : payment.share = ⟨1, payment.amount, 0, 0⟩ :=
          PaymentOrder.share_of_unrefunded (not_lt.mp refunded)
        rw [unit]
        refine ⟨⟨stats.totalPayments + 1, stats.totalVolume + payment.amount,
          stats.totalRefunds, stats.totalRefundVolume, stats.activeMerchants⟩, ?_, ?_⟩
        · refine Tx.commits_bind.mpr ⟨some payment, world,
            Tx.commits_gets.mpr ⟨stored.symm, rfl⟩, ?_⟩
          refine Tx.commits_ite.mpr (.inl ⟨inside, ?_⟩)
          simp [countedPayment, refunded, paid, volume]
        · ext
          · rfl
          · rfl
          · rfl
          · exact (add_zero stats.totalRefundVolume).symm

theorem foldRange_commits {ids : List Text} {stats : GlobalStats}
    (within : ∀ id, ∀ payment ∈ world.getPayment id, payment.Within dateStart dateEnd)
    (positive : world.payments.orders.All fun payment => 0 < payment.amount)
    (start : stats.totals.Nonneg) (small : (stats.totals + (ids.map world.shareOf).sum).Small) :
    ∃ counted, (Tx.fold (addToRange dateStart dateEnd) stats ids).Commits env world counted world ∧
      counted.totals = stats.totals + (ids.map world.shareOf).sum := by
  induction ids generalizing stats with
  | nil => exact ⟨stats, Tx.commits_fold_nil.mpr ⟨rfl, rfl⟩, (add_zero _).symm⟩
  | cons id rest inductionHypothesis =>
      have share := world.shareOf_nonneg positive id
      rw [List.map_cons, List.sum_cons, ← add_assoc] at small ⊢
      have others : (rest.map world.shareOf).sum.Nonneg := by
        apply Totals.Nonneg.sum
        intro totals member
        obtain ⟨other, _, rfl⟩ := List.mem_map.mp member
        exact world.shareOf_nonneg positive other
      obtain ⟨between, head, added⟩ :=
        addToRange_commits (within id) start share (small.of_add others)
      rw [← added] at small ⊢
      obtain ⟨counted, tail, total⟩ := inductionHypothesis (added ▸ start.add share) small
      exact ⟨counted, Tx.commits_fold_cons.mpr ⟨between, world, head, tail⟩, total⟩

/-- The payments of all merchants of a list are added. -/
theorem foldMerchants_commits {merchants : List Address} {stats : GlobalStats}
    (within : ∀ id, ∀ payment ∈ world.getPayment id, payment.Within dateStart dateEnd)
    (positive : world.payments.orders.All fun payment => 0 < payment.amount)
    (start : stats.totals.Nonneg)
    (small : (stats.totals +
      ((Index.listing world.payments.merchantIds merchants).map world.shareOf).sum).Small) :
    ∃ counted, (Tx.fold (fun stats merchant => do
        let ids ← read (·.getMerchantPaymentIds merchant)
        Tx.fold (addToRange dateStart dateEnd) stats ids) stats merchants).Commits env world
          counted world ∧
      counted.totals = stats.totals +
        ((Index.listing world.payments.merchantIds merchants).map world.shareOf).sum := by
  have nonneg (ids : List Text) : (ids.map world.shareOf).sum.Nonneg := by
    apply Totals.Nonneg.sum
    intro totals member
    obtain ⟨id, _, rfl⟩ := List.mem_map.mp member
    exact world.shareOf_nonneg positive id
  induction merchants generalizing stats with
  | nil => exact ⟨stats, Tx.commits_fold_nil.mpr ⟨rfl, rfl⟩, (add_zero _).symm⟩
  | cons merchant rest inductionHypothesis =>
      have split : Index.listing world.payments.merchantIds (merchant :: rest) =
          world.payments.merchantIds merchant ++
            Index.listing world.payments.merchantIds rest := List.flatMap_cons
      rw [split, List.map_append, List.sum_append, ← add_assoc] at small ⊢
      obtain ⟨between, head, added⟩ :=
        foldRange_commits within positive start (small.of_add (nonneg _))
      rw [← added] at small ⊢
      obtain ⟨counted, tail, total⟩ := inductionHypothesis (added ▸ start.add (nonneg _)) small
      refine ⟨counted, Tx.commits_fold_cons.mpr ⟨between, world, ?_, tail⟩, total⟩
      exact Tx.commits_bind.mpr ⟨_, world, Tx.commits_gets.mpr ⟨rfl, rfl⟩, head⟩

theorem World.Recountable.statisticsAgree {host : Host} (recountable : world.Recountable host)
    (unsaturated : world.accounts.totals.Unsaturated) : world.StatisticsAgree host := by
  intro auth permits admin dateStart dateEnd cached next committed ordered within
  by_cases unbounded : dateStart = none ∧ dateEnd = none
  · obtain ⟨rfl, rfl⟩ := unbounded
    exact ⟨cached, committed, rfl⟩
  · simp [getGlobalPaymentStats] at committed
    obtain ⟨⟨guard, rfl⟩, rfl⟩ := committed
    have admitted : (requireAdminRateLimited admin).Commits (host.env auth permits) world ()
        (world.clearAuthFailCount admin) := commits_requireAdminRateLimited.mpr ⟨guard, rfl⟩
    have valid : ¬ ∃ first ∈ dateStart, ∃ last ∈ dateEnd, last < first := by
      rintro ⟨first, isFirst, last, isLast, reversed⟩
      exact absurd (ordered first isFirst last isLast) (not_le.mpr reversed)
    have positive : world.payments.orders.All fun payment => 0 < payment.amount :=
      fun id payment stored => (recountable.sound.orders id payment stored).2
    have inside : ∀ id, ∀ payment ∈ (world.clearAuthFailCount admin).getPayment id,
        payment.Within dateStart dateEnd := within
    have recount : ((Index.listing world.payments.merchantIds world.merchants.list).map
        world.shareOf).sum = world.stats.global.totals := recountable.recounted.agree unsaturated
    have small : world.stats.global.totals.Small := ⟨recountable.fits.payments,
      unsaturated.volume.2.le, recountable.fits.refunds, unsaturated.refundVolume.2.le⟩
    rw [← recount] at small
    let zero : GlobalStats := ⟨0, 0, 0, 0, world.stats.global.activeMerchants⟩
    have start : zero.totals.Nonneg := ⟨le_refl _, le_refl _⟩
    have room : (zero.totals + ((Index.listing world.payments.merchantIds
        world.merchants.list).map (world.clearAuthFailCount admin).shareOf).sum).Small :=
      (zero_add (_ : Totals)).symm ▸ small
    obtain ⟨counted, folded, total⟩ := foldMerchants_commits inside positive start room
    refine ⟨counted, ?_, ?_⟩
    · refine Tx.commits_bind.mpr ⟨(), _, admitted, ?_⟩
      refine Tx.commits_bind.mpr ⟨(), _, Tx.commits_failIf.mpr ⟨valid, rfl⟩, ?_⟩
      refine Tx.commits_bind.mpr ⟨_, _, Tx.commits_gets.mpr ⟨rfl, rfl⟩, ?_⟩
      refine Tx.commits_ite.mpr (.inr ⟨unbounded, ?_⟩)
      exact Tx.commits_bind.mpr ⟨_, _, Tx.commits_gets.mpr ⟨rfl, rfl⟩, folded⟩
    · calc counted.totals = _ := total
        _ = 0 + world.stats.global.totals := congrArg (0 + ·) recount
        _ = world.stats.global.totals := zero_add _

end Aggregation

/-- In a run without calls that delete payments or set what was refunded on them, and in which
no global counter saturates, the cached statistics agree with a recount as long as every call
counts once what the merchants list. -/
theorem statistics_agree {host : Host} {start : World} (deployed : Deployed host start)
    {actions : List Action}
    (rewrites : Along (step host) (AcceptsOnly host fun _ call => ¬ call.Rewrites) start actions)
    (once : Along (step host) (AcceptsOnly host CountsOnce) start actions)
    (unsaturated : Throughout (step host) (fun world => world.accounts.totals.Unsaturated) start
      actions) :
    Throughout (step host) (World.StatisticsAgree host) start actions := by
  have kept : ∀ world action, World.Recountable host world →
      (AcceptsOnly host (fun _ call => ¬ call.Rewrites) world action ∧
        AcceptsOnly host CountsOnce world action) → (step host world action).Recountable host :=
    fun _ _ recountable both => recountable.step both.1 both.2
  have recountable := throughout_of_along kept deployed.recountable
    ((along_and start actions).mpr ⟨rewrites, once⟩)
  intro before after split
  exact (recountable before after split).statisticsAgree (unsaturated before after split)

theorem statistics_agree_sample :
    (Sample.world Sample.refunding).StatisticsAgree Sample.host := by
  have rewrites : Along (step Sample.host) (AcceptsOnly Sample.host fun _ call => ¬ call.Rewrites)
      Sample.start (Sample.opening ++ Sample.refunding) := by decide +kernel
  have agree := statistics_agree Sample.deployed_start rewrites (by decide +kernel)
    (by decide +kernel)
  exact agree (Sample.opening ++ Sample.refunding) [] (by simp)

/-- A second refund of 100 on the payment of 500. -/
def Sample.refundingAgain : List Action := refunding ++ [
  invokedBy payer (.refund (.initiateRefund payer [3] [1] 100 [])),
  invokedBy shop (.refund (.approveRefund shop [3])),
  invokedBy shop (.refund (.executeRefund [3]))]

/-- Two refunds of one payment are counted twice, and show once in the payment. -/
theorem second_refund_recounted_once :
    ¬ ∀ host start actions, Deployed host start →
      Along (step host) (AcceptsOnly host fun _ call => ¬ call.Rewrites) start actions →
      Throughout (step host) (fun world => world.accounts.totals.Unsaturated) start actions →
      Throughout (step host) (World.StatisticsAgree host) start actions := by
  intro agree
  let world := Sample.world Sample.refundingAgain
  let env := Sample.host.env [Sample.admin] fun _ => true
  have agrees : world.StatisticsAgree Sample.host := agree Sample.host Sample.start
    (Sample.opening ++ Sample.refundingAgain) Sample.deployed_start (by decide +kernel)
    (by decide +kernel) (Sample.opening ++ Sample.refundingAgain) [] (by simp)
  have cached : (getGlobalPaymentStats Sample.admin none none).valueOf env world =
      some ⟨1, 500, 2, 300, 2⟩ := by decide +kernel
  have recounted : (getGlobalPaymentStats Sample.admin (some 0) none).valueOf env world =
      some ⟨1, 500, 1, 300, 2⟩ := by decide +kernel
  obtain ⟨next, committed⟩ := Tx.valueOf_eq_some.mp cached
  obtain ⟨counted, again, same⟩ := agrees [Sample.admin] (fun _ => true) Sample.admin (some 0) none
    _ next committed (by simp) fun _ _ _ => ⟨by simp, by simp⟩
  have value := recounted.symm.trans (Tx.valueOf_eq_some.mpr ⟨next, again⟩)
  obtain rfl := Option.some.inj value
  revert same
  decide

end LumenFlow

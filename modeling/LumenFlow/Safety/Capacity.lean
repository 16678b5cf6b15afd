import LumenFlow.Effect.Limits

/-!
# The capacity of the indexes

An index holds a limited number of payments.  An account whose index is full is refused every
further payment, whether or not the payments that the index lists are still stored.
-/

namespace LumenFlow

open Kit Contract

/-- The indexes list stored payments only, and as many as an account has. -/
structure Accounts.Counted (accounts : Accounts) : Prop where
  merchants : accounts.orders.Counts PaymentOrder.merchantAddress accounts.merchantIds
  payers : accounts.orders.Counts PaymentOrder.payer accounts.payerIds

/-- When the turn of one of the payments comes, its merchant or its payer has as many stored
payments as the indexes have room for. -/
def Accounts.Crowded (accounts : Accounts) (terms : List PaymentTerms) : Prop :=
  ∃ earlier payment later, terms = earlier ++ payment :: later ∧
    (maxPaymentIdsPerAccount ≤
        accounts.orders.owned PaymentOrder.merchantAddress payment.merchantAddress +
          earlier.countP (fun other => other.merchantAddress = payment.merchantAddress) ∨
      maxPaymentIdsPerAccount ≤ accounts.orders.owned PaymentOrder.payer payment.payer +
        earlier.countP (fun other => other.payer = payment.payer))

/-- A call is refused for want of room only when an account has too many stored payments. -/
def World.RefusesCrowdedOnly (host : Host) (world : World) : Prop :=
  ∀ auth permits (call : Call),
    call.dispatch (host.env auth permits) world = .error (.error .paymentHistoryLimitExceeded) →
      world.accounts.Crowded (call.terms world.books)

/-- The call deletes no payment; a multisig payment is listed where nothing is stored under its
identifier, and not listed again where it replaces a payment between the same parties. -/
def KeepsCount (world : World) : Call → Prop
  | .payment (.archivePaymentRecord ..) => False
  | .payment (.cleanupExpiredPayments ..) =>
      ∀ id ∈ world.listedPaymentIds, ∀ payment ∈ world.getPayment id,
        ¬ payment.Expired world.cleanupCutoff
  | .multisig (.executeMultisigPayment payer paymentId) =>
      ∀ multisig ∈ world.getMultisig paymentId,
        match world.getPayment paymentId with
        | none =>
            (world.getMerchantPaymentIds multisig.merchantAddress).length <
                maxPaymentIdsPerAccount ∧
              (world.getPayerPaymentIds payer).length < maxPaymentIdsPerAccount
        | some old =>
            (old.merchantAddress = multisig.merchantAddress ∧
                maxPaymentIdsPerAccount ≤
                  (world.getMerchantPaymentIds multisig.merchantAddress).length) ∧
              old.payer = payer ∧
                maxPaymentIdsPerAccount ≤ (world.getPayerPaymentIds payer).length
  | _ => True

instance (world : World) (call : Call) : Decidable (KeepsCount world call) := by
  unfold KeepsCount
  split
  · infer_instance
  · infer_instance
  · have (multisig : MultisigPayment) (payer : Address) (stored : Option PaymentOrder) :
        Decidable (match stored with
          | none =>
              (world.getMerchantPaymentIds multisig.merchantAddress).length <
                  maxPaymentIdsPerAccount ∧
                (world.getPayerPaymentIds payer).length < maxPaymentIdsPerAccount
          | some old =>
              (old.merchantAddress = multisig.merchantAddress ∧
                  maxPaymentIdsPerAccount ≤
                    (world.getMerchantPaymentIds multisig.merchantAddress).length) ∧
                old.payer = payer ∧
                  maxPaymentIdsPerAccount ≤ (world.getPayerPaymentIds payer).length) := by
      cases stored <;> infer_instance
    infer_instance
  · infer_instance

namespace Accounts.Counted

variable {accounts : Accounts} {order old : PaymentOrder} {merchantRoom payerRoom : Bool}

theorem rewrite (counted : accounts.Counted)
    (stored : accounts.orders.get order.orderId = some old)
    (merchant : order.merchantAddress = old.merchantAddress) (payer : order.payer = old.payer) :
    Accounts.Counted { accounts with orders := accounts.orders.put order } :=
  ⟨counted.merchants.rewrite stored merchant, counted.payers.rewrite stored payer⟩

theorem counters (counted : accounts.Counted) (stats : Address → Totals) (totals : Totals) :
    Accounts.Counted { accounts with stats, totals } :=
  ⟨counted.merchants, counted.payers⟩

theorem refund {amount : Int} (counted : accounts.Counted)
    (stored : accounts.orders.get order.orderId = some old)
    (merchant : order.merchantAddress = old.merchantAddress) (payer : order.payer = old.payer) :
    (accounts.refund order amount).Counted :=
  (counted.rewrite stored merchant payer).counters _ _

theorem payAll {orders : List PaymentOrder} (counted : accounts.Counted)
    (distinct : (orders.map PaymentOrder.orderId).Nodup)
    (fresh : ∀ order ∈ orders, accounts.orders.get order.orderId = none) :
    (accounts.payAll orders).Counted :=
  ⟨by simpa using counted.merchants.putAll distinct fresh,
    by simpa using counted.payers.putAll distinct fresh⟩

theorem file_free_iff (counted : accounts.Counted)
    (free : accounts.orders.get order.orderId = none) :
    (accounts.file order merchantRoom payerRoom).Counted ↔
      merchantRoom = true ∧ payerRoom = true :=
  ⟨fun after => ⟨(counted.merchants.put_free_iff free).mp after.merchants,
      (counted.payers.put_free_iff free).mp after.payers⟩,
    fun ⟨merchant, payer⟩ => ⟨(counted.merchants.put_free_iff free).mpr merchant,
      (counted.payers.put_free_iff free).mpr payer⟩⟩

theorem file_stored_iff (counted : accounts.Counted)
    (stored : accounts.orders.get order.orderId = some old) :
    (accounts.file order merchantRoom payerRoom).Counted ↔
      (old.merchantAddress = order.merchantAddress ∧ merchantRoom = false) ∧
        old.payer = order.payer ∧ payerRoom = false :=
  ⟨fun after => ⟨(counted.merchants.put_stored_iff stored).mp after.merchants,
      (counted.payers.put_stored_iff stored).mp after.payers⟩,
    fun ⟨merchant, payer⟩ => ⟨(counted.merchants.put_stored_iff stored).mpr merchant,
      (counted.payers.put_stored_iff stored).mpr payer⟩⟩

theorem sub_iff {orders : Table PaymentOrder.orderId} (counted : accounts.Counted)
    (less : orders.Sub accounts.orders) :
    Accounts.Counted { accounts with orders } ↔ orders = accounts.orders := by
  constructor
  · intro after
    exact counted.merchants.eq_of_sub after.merchants less
  · rintro rfl
    exact counted

theorem countGlobally_iff {change : Totals → Totals} :
    (accounts.countGlobally change).Counted ↔ accounts.Counted :=
  ⟨fun counted => counted.counters _ _, fun counted => counted.counters _ _⟩

theorem crowded {terms : List PaymentTerms} (counted : accounts.Counted)
    (lacks : accounts.LacksRoom terms) : accounts.Crowded terms := by
  simp only [LacksRoom, counted.merchants.length, counted.payers.length] at lacks
  exact lacks

end Accounts.Counted

section Moves

variable {world : World} {call : Call} {after : Accounts}

theorem keepsCount_of_silent (silent : .orders ∉ call.parts) : KeepsCount world call := by
  rcases call with call | call | call | call | call | call | call <;> cases call <;>
    simp [Call.parts, PaymentCall.parts, MultisigCall.parts, KeepsCount] at silent ⊢

/-- A call keeps the indexes counting exactly if it meets the condition. -/
theorem Accounts.Move.counted_iff (move : Accounts.Move world call after)
    (counted : world.accounts.Counted) : after.Counted ↔ KeepsCount world call := by
  cases move with
  | kept call silent => exact iff_of_true counted (keepsCount_of_silent silent)
  | dismissed => exact iff_of_true counted trivial
  | paid call orders listed distinct fresh opened fits lists =>
      apply iff_of_true (counted.payAll distinct fresh)
      cases call <;> simp [PaymentCall.parts, KeepsCount] at lists ⊢
  | statusUpdated caller orderId refundedAmount expectedVersion payment stored =>
      have same : world.accounts.orders.get payment.orderId = some payment := Table.get_key stored
      exact iff_of_true (counted.rewrite same rfl rfl) trivial
  | archived admin orderId payment stored =>
      apply (counted.sub_iff (Table.sub_erase _ orderId)).trans
      refine iff_of_false (fun same => ?_) not_false
      have gone := Table.get_erase world.payments.orders orderId orderId
      rw [if_pos rfl, show world.payments.orders.erase orderId = world.payments.orders from same,
        stored] at gone
      cases gone
  | cleaned admin batchSize orders swept =>
      refine (counted.sub_iff swept.sub).trans (swept.eq_iff.trans ?_)
      simp only [Table.Sweeps, KeepsCount, World.getPayment, Option.mem_def, not_and, not_exists]
  | refundExecuted refund payment approved stored =>
      have same : world.accounts.orders.get payment.orderId = some payment := Table.get_key stored
      exact iff_of_true (counted.refund same rfl rfl) trivial
  | refundForced admin resolution dispute refund payment raised rejected stored =>
      have same : world.accounts.orders.get payment.orderId = some payment := Table.get_key stored
      exact iff_of_true (counted.refund same rfl rfl) trivial
  | multisigPaid payer multisig stored =>
      rw [Counted.countGlobally_iff]
      simp only [KeepsCount, World.getMultisig, stored, Option.mem_some_iff, forall_eq']
      let order := multisig.order payer world.timestamp
      cases found : world.accounts.orders.get order.orderId with
      | none =>
          have free : world.getPayment multisig.paymentId = none := found
          rw [counted.file_free_iff found, free]
          simp
      | some old =>
          have taken : world.getPayment multisig.paymentId = some old := found
          rw [counted.file_stored_iff found, taken]
          simp [order, MultisigPayment.order]
  | requestPaid payer request stored fresh =>
      let order := request.order payer world.timestamp
      have free : world.accounts.orders.get order.orderId = none := fresh
      rw [Counted.countGlobally_iff, counted.file_free_iff free]
      simp [KeepsCount]

end Moves

section Runs

variable {host : Host} {start : World}

theorem Deployed.counted (deployed : Deployed host start) : start.accounts.Counted := by
  obtain ⟨bank, timestamp, sequence, _, _, rfl⟩ := deployed
  exact ⟨⟨by simp [World.accounts, World.deployed], fun _ => rfl⟩,
    ⟨by simp [World.accounts, World.deployed], fun _ => rfl⟩⟩

theorem Accounts.Counted.refusesCrowdedOnly {world : World} (counted : world.accounts.Counted) :
    world.RefusesCrowdedOnly host :=
  fun _ _ call refused => counted.crowded (call.limit_explained refused)

/-- The indexes list as many stored payments as each account has, and nobody with fewer of them
than an index has room for is refused, throughout a run exactly if each accepted call keeps the
count. -/
theorem capacity_counts_stored_iff (deployed : Deployed host start) (actions : List Action) :
    Throughout (step host)
        (fun world => world.accounts.Counted ∧ world.RefusesCrowdedOnly host) start actions ↔
      Along (step host) (AcceptsOnly host KeepsCount) start actions := by
  have exactly : ∀ world action, True →
      world.accounts.Counted ∧ world.RefusesCrowdedOnly host → True →
      ((step host world action).accounts.Counted ∧
          (step host world action).RefusesCrowdedOnly host ↔
        AcceptsOnly host KeepsCount world action) := by
    intro world action _ ⟨counted, _⟩ _
    rw [and_iff_left_of_imp fun counted => counted.refusesCrowdedOnly]
    rcases step_accounts host world action with
      ⟨auth, permits, call, rfl, succeeded, move⟩ | ⟨accepts, same⟩
    · rw [move.counted_iff counted]
      exact ⟨fun met _ => met, fun met => met succeeded.accepted⟩
    · rw [same]
      exact iff_of_true counted (accepts _)
  have initial := deployed.counted
  exact throughout_iff_along exactly (fun _ _ _ _ _ _ => trivial) trivial
    ⟨initial, initial.refusesCrowdedOnly⟩ (along_of_forall (fun _ _ => trivial) start actions)

end Runs

/-- A payment is archived. -/
def Sample.archiving : List Action := [
  invokedBy payer (.payment (.processPaymentWithNonce payer [1] shop coin 500 [] none 0)),
  invokedBy admin (.payment (.archivePaymentRecord admin [1]))]

/-- The archived payment still takes its place in the index of the merchant. -/
theorem archived_payment_counts : ¬ ((Sample.world Sample.archiving).accounts.Counted ∧
    (Sample.world Sample.archiving).RefusesCrowdedOnly Sample.host) := by
  have written : (Sample.world Sample.archiving).payments.orders.get [1] = none ∧
      [1] ∈ (Sample.world Sample.archiving).payments.merchantIds Sample.shop := by
    decide +kernel
  rintro ⟨counted, _⟩
  obtain ⟨payment, stored⟩ := counted.merchants.stored Sample.shop [1] written.2
  cases written.1.symm.trans stored

theorem capacity_counts_stored_iff_sample :
    Throughout (step Sample.host)
      (fun world => world.accounts.Counted ∧ world.RefusesCrowdedOnly Sample.host) Sample.start
      (Sample.opening ++ Sample.archiving.take 1) := by
  apply (capacity_counts_stored_iff Sample.deployed_start _).mpr
  decide +kernel

end LumenFlow

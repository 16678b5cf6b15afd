import LumenFlow.Effect.Accounts

/-!
# Payments in the indexes

The history of a merchant or a payer shows the payments that its index lists.  A payment
that is not listed is not in the history, and one that is listed twice is there twice.
-/

namespace LumenFlow

open Kit Contract

/-- Each stored payment is listed once for its merchant and once for its payer. -/
structure Accounts.Complete (accounts : Accounts) : Prop where
  merchants : accounts.orders.Covers PaymentOrder.merchantAddress accounts.merchantIds
  payers : accounts.orders.Covers PaymentOrder.payer accounts.payerIds

/-- An index lists the payment once when it is added as long as there is room. -/
def ListsOnce (ids : List Text) (orderId : Text) : Prop :=
  ids.length < maxPaymentIdsPerAccount ∧ orderId ∉ ids ∨
    maxPaymentIdsPerAccount ≤ ids.length ∧ ids.count orderId = 1

instance (ids : List Text) (orderId : Text) : Decidable (ListsOnce ids orderId) :=
  inferInstanceAs (Decidable (_ ∨ _))

/-- The payments that the call creates are not listed yet for their merchants and payers; a
multisig payment may be listed once where the index is full. -/
def CreatesUnlisted (world : World) : Call → Prop
  | .multisig (.executeMultisigPayment payer paymentId) =>
      ∀ multisig ∈ world.getMultisig paymentId,
        ListsOnce (world.getMerchantPaymentIds multisig.merchantAddress) paymentId ∧
          ListsOnce (world.getPayerPaymentIds payer) paymentId
  | call => ∀ terms ∈ call.terms world.books,
      terms.orderId ∉ world.getMerchantPaymentIds terms.merchantAddress ∧
        terms.orderId ∉ world.getPayerPaymentIds terms.payer

instance (world : World) (call : Call) : Decidable (CreatesUnlisted world call) :=
  match call with
  | .multisig (.executeMultisigPayment ..) => inferInstanceAs (Decidable (∀ _ ∈ _, _ ∧ _))
  | .multisig (.initiateMultisigPayment ..) | .multisig (.signMultisigPayment ..)
  | .multisig (.cancelMultisigPayment ..) | .multisig (.getMultisigPayment ..)
  | .multisig (.createPaymentRequest ..) | .multisig (.payPaymentRequest ..)
  | .multisig (.cancelPaymentRequest ..) | .multisig (.cancelExpiredPaymentRequests ..)
  | .admin _ | .merchant _ | .payment _ | .refund _ | .subscription _ | .escrow _ =>
      inferInstanceAs (Decidable (∀ _ ∈ _, _ ∧ _))

theorem listsOnce_iff {ids : List Text} {orderId : Text} :
    (ids.count orderId + if decide (ids.length < maxPaymentIdsPerAccount) then 1 else 0) = 1 ↔
      ListsOnce ids orderId := by
  unfold ListsOnce
  by_cases room : ids.length < maxPaymentIdsPerAccount
  · simp [room, not_le.mpr room, List.count_eq_zero]
  · simp [room, not_lt.mp room]

namespace Accounts.Complete

variable {accounts : Accounts} {order : PaymentOrder} {merchantRoom payerRoom : Bool}

theorem lasting : Accounts.Lasting Accounts.Complete where
  sub complete less := ⟨complete.merchants.sub less, complete.payers.sub less⟩
  rewrite complete stored merchant payer :=
    ⟨complete.merchants.rewrite stored merchant, complete.payers.rewrite stored payer⟩
  counters _ _ complete := ⟨complete.merchants, complete.payers⟩

theorem file_iff (complete : accounts.Complete) :
    (accounts.file order merchantRoom payerRoom).Complete ↔
      (accounts.merchantIds order.merchantAddress).count order.orderId +
          (if merchantRoom then 1 else 0) = 1 ∧
        (accounts.payerIds order.payer).count order.orderId + (if payerRoom then 1 else 0) = 1 :=
  ⟨fun after => ⟨complete.merchants.put_iff.mp after.merchants,
      complete.payers.put_iff.mp after.payers⟩,
    fun ⟨merchant, payer⟩ => ⟨complete.merchants.put_iff.mpr merchant,
      complete.payers.put_iff.mpr payer⟩⟩

theorem payAll_iff {orders : List PaymentOrder} (complete : accounts.Complete)
    (distinct : (orders.map PaymentOrder.orderId).Nodup) :
    (accounts.payAll orders).Complete ↔ ∀ order ∈ orders,
      order.orderId ∉ accounts.merchantIds order.merchantAddress ∧
        order.orderId ∉ accounts.payerIds order.payer := by
  have merchants := complete.merchants.putAll_iff distinct
  have payers := complete.payers.putAll_iff distinct
  constructor
  · intro after order member
    exact ⟨merchants.mp (by simpa using after.merchants) order member,
      payers.mp (by simpa using after.payers) order member⟩
  · intro fresh
    exact ⟨by simpa using merchants.mpr fun order member => (fresh order member).1,
      by simpa using payers.mpr fun order member => (fresh order member).2⟩

theorem countGlobally_iff {change : Totals → Totals} :
    (accounts.countGlobally change).Complete ↔ accounts.Complete :=
  ⟨lasting.counters _ _, lasting.counters _ _⟩

end Accounts.Complete

section Moves

variable {world : World} {call : Call} {after : Accounts}

theorem createsUnlisted_of_nil (nothing : call.terms world.books = []) :
    CreatesUnlisted world call := by
  unfold CreatesUnlisted
  split
  · next payer paymentId =>
      intro multisig stored
      simp [Call.terms, World.books, Option.mem_def.mp stored] at nothing
  · simp [nothing]

/-- A call keeps the indexes complete exactly if it creates unlisted payments only. -/
theorem Accounts.Move.complete_iff (move : Accounts.Move world call after)
    (complete : world.accounts.Complete) : after.Complete ↔ CreatesUnlisted world call := by
  have lasts (nothing : call.terms world.books = []) :
      after.Complete ↔ CreatesUnlisted world call :=
    iff_of_true (move.lasting nothing Complete.lasting complete) (createsUnlisted_of_nil nothing)
  cases move with
  | kept call silent => exact lasts (Call.terms_of_silent silent)
  | paid call orders listed distinct =>
      rw [complete.payAll_iff distinct]
      simp [CreatesUnlisted, Call.terms, ← listed, PaymentOrder.terms, World.accounts]
  | multisigPaid payer multisig stored =>
      rw [Complete.countGlobally_iff, complete.file_iff]
      simp only [CreatesUnlisted, World.getMultisig, stored, Option.mem_some_iff, forall_eq',
        ← listsOnce_iff]
      rfl
  | requestPaid payer request stored =>
      rw [Complete.countGlobally_iff, complete.file_iff]
      simp [CreatesUnlisted, Call.terms, World.books, stored, PaymentOrder.terms,
        PaymentRequest.order, List.count_eq_zero, World.accounts]
  | _ => exact lasts rfl

end Moves

section Runs

variable {host : Host} {start : World}

theorem Deployed.complete (deployed : Deployed host start) : start.accounts.Complete := by
  obtain ⟨bank, timestamp, sequence, _, _, rfl⟩ := deployed
  exact ⟨fun _ _ stored => by simp [World.accounts, World.deployed] at stored,
    fun _ _ stored => by simp [World.accounts, World.deployed] at stored⟩

/-- Each stored payment is listed exactly once for its merchant and once for its payer
throughout a run, exactly if each accepted call creates unlisted payments only. -/
theorem indexes_complete_iff (deployed : Deployed host start) (actions : List Action) :
    Throughout (step host) (fun world => world.accounts.Complete) start actions ↔
      Along (step host) (AcceptsOnly host CreatesUnlisted) start actions := by
  have exactly : ∀ world action, True → world.accounts.Complete → True →
      ((step host world action).accounts.Complete ↔
        AcceptsOnly host CreatesUnlisted world action) := by
    intro world action _ complete _
    rcases step_accounts host world action with
      ⟨auth, permits, call, rfl, succeeded, move⟩ | ⟨accepts, same⟩
    · rw [move.complete_iff complete]
      exact ⟨fun met _ => met, fun met => met succeeded.accepted⟩
    · rw [same]
      exact iff_of_true complete (accepts _)
  exact throughout_iff_along exactly (fun _ _ _ _ _ _ => trivial) trivial deployed.complete
    (along_of_forall (fun _ _ => trivial) start actions)

end Runs

/-- A payment is archived and its identifier used for another one. -/
def Sample.reusing : List Action := [
  invokedBy payer (.payment (.processPaymentWithNonce payer [1] shop coin 500 [] none 0)),
  invokedBy admin (.payment (.archivePaymentRecord admin [1])),
  invokedBy payer (.payment (.processPaymentWithNonce payer [1] shop coin 300 [] none 1))]

/-- The merchant lists the second payment twice. -/
theorem payment_listed_twice : ¬ (Sample.world Sample.reusing).accounts.Complete := by
  have written : ((Sample.world Sample.reusing).payments.orders.get [1]).map
        PaymentOrder.merchantAddress = some Sample.shop ∧
      ((Sample.world Sample.reusing).payments.merchantIds Sample.shop).count [1] = 2 := by
    decide +kernel
  obtain ⟨payment, stored, merchant⟩ := Option.map_eq_some_iff.mp written.1
  intro complete
  have once := complete.merchants [1] payment stored
  rw [merchant] at once
  exact absurd (once.symm.trans written.2) (by decide)

theorem indexes_complete_iff_sample :
    Throughout (step Sample.host) (fun world => world.accounts.Complete) Sample.start
      (Sample.opening ++ Sample.reusing.take 2) := by
  apply (indexes_complete_iff Sample.deployed_start _).mpr
  decide +kernel

end LumenFlow

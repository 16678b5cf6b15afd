import LumenFlow.Effect.Accounts

/-!
# Whose payments a history shows

A history page resolves the identifiers of an index among all stored payments, and does not
look at whose payments it finds.  So a page shows only payments of its account as long as
nobody else comes to own a payment that the index lists.
-/

namespace LumenFlow

open Kit Contract

/-- A stored payment that an index lists is a payment of the account. -/
structure Accounts.Isolated (accounts : Accounts) : Prop where
  merchants : accounts.orders.Isolates PaymentOrder.merchantAddress accounts.merchantIds
  payers : accounts.orders.Isolates PaymentOrder.payer accounts.payerIds

/-- Every page of a history shows payments of the account only. -/
structure World.ShowsOwn (host : Host) (world : World) : Prop where
  merchants : ∀ auth permits merchant cursor limit filter sortField sortOrder page next,
    (getMerchantPaymentHistory merchant cursor limit filter sortField sortOrder).Commits
        (host.env auth permits) world page next →
      ∀ payment ∈ page.payments, payment.merchantAddress = merchant
  payers : ∀ auth permits payer cursor limit filter sortField sortOrder page next,
    (getPayerPaymentHistory payer cursor limit filter sortField sortOrder).Commits
        (host.env auth permits) world page next →
      ∀ payment ∈ page.payments, payment.payer = payer

/-- Sorting rearranges a list. -/
def Host.Sorts (host : Host) : Prop :=
  ∀ comparison payments, (host.sortUnstableBy comparison payments).Perm payments

/-- The payments that the call creates are in nobody else's index. -/
def CreatesApart (world : World) (call : Call) : Prop :=
  ∀ terms ∈ call.terms world.books,
    (∀ who, who ≠ terms.merchantAddress → terms.orderId ∉ world.getMerchantPaymentIds who) ∧
      ∀ who, who ≠ terms.payer → terms.orderId ∉ world.getPayerPaymentIds who

namespace Accounts.Isolated

variable {accounts : Accounts} {order : PaymentOrder} {merchantRoom payerRoom : Bool}

theorem lasting : Accounts.Lasting Accounts.Isolated where
  sub isolated less := ⟨isolated.merchants.sub less, isolated.payers.sub less⟩
  rewrite isolated stored merchant payer :=
    ⟨isolated.merchants.rewrite stored merchant, isolated.payers.rewrite stored payer⟩
  counters _ _ isolated := ⟨isolated.merchants, isolated.payers⟩

theorem file_iff (isolated : accounts.Isolated) :
    (accounts.file order merchantRoom payerRoom).Isolated ↔
      (∀ who, who ≠ order.merchantAddress → order.orderId ∉ accounts.merchantIds who) ∧
        ∀ who, who ≠ order.payer → order.orderId ∉ accounts.payerIds who :=
  ⟨fun after => ⟨isolated.merchants.put_iff.mp after.merchants,
      isolated.payers.put_iff.mp after.payers⟩,
    fun ⟨merchant, payer⟩ => ⟨isolated.merchants.put_iff.mpr merchant,
      isolated.payers.put_iff.mpr payer⟩⟩

theorem payAll_iff {orders : List PaymentOrder} (isolated : accounts.Isolated)
    (distinct : (orders.map PaymentOrder.orderId).Nodup) :
    (accounts.payAll orders).Isolated ↔ ∀ order ∈ orders,
      (∀ who, who ≠ order.merchantAddress → order.orderId ∉ accounts.merchantIds who) ∧
        ∀ who, who ≠ order.payer → order.orderId ∉ accounts.payerIds who := by
  have merchants := isolated.merchants.putAll_iff distinct
  have payers := isolated.payers.putAll_iff distinct
  constructor
  · intro after order member
    exact ⟨merchants.mp (by simpa using after.merchants) order member,
      payers.mp (by simpa using after.payers) order member⟩
  · intro apart
    exact ⟨by simpa using merchants.mpr fun order member => (apart order member).1,
      by simpa using payers.mpr fun order member => (apart order member).2⟩

theorem countGlobally_iff {change : Totals → Totals} :
    (accounts.countGlobally change).Isolated ↔ accounts.Isolated :=
  ⟨lasting.counters _ _, lasting.counters _ _⟩

end Accounts.Isolated

section Pages

variable {host : Host} {world : World}

theorem mem_buildPage (sorts : host.Sorts) {ids : List Text} {cursor : Option Text} {limit : Nat}
    {filter : Option PaymentFilter} {sortField : SortField} {sortOrder : SortOrder}
    {payment : PaymentOrder}
    (shown : payment ∈
      (buildPage host world ids cursor limit filter sortField sortOrder).payments) :
    ∃ id ∈ ids, world.payments.orders.get id = some payment := by
  have sorted := List.mem_of_mem_drop (List.mem_of_mem_take shown)
  have matching := (sorts _ _).mem_iff.mp sorted
  exact List.mem_filterMap.mp (List.mem_filter.mp matching).1

theorem Accounts.Isolated.showsOwn (isolated : world.accounts.Isolated) (sorts : host.Sorts) :
    world.ShowsOwn host where
  merchants auth permits merchant cursor limit filter sortField sortOrder page next committed := by
    simp [getMerchantPaymentHistory, Host.env] at committed
    obtain ⟨_, _, rfl, rfl⟩ := committed
    intro payment shown
    obtain ⟨id, listed, stored⟩ := mem_buildPage sorts shown
    exact isolated.merchants merchant id payment listed stored
  payers auth permits payer cursor limit filter sortField sortOrder page next committed := by
    simp [getPayerPaymentHistory, Host.env] at committed
    obtain ⟨_, _, rfl, rfl⟩ := committed
    intro payment shown
    obtain ⟨id, listed, stored⟩ := mem_buildPage sorts shown
    exact isolated.payers payer id payment listed stored

end Pages

section Moves

variable {world : World} {call : Call} {after : Accounts}

/-- A call keeps the histories apart exactly if nobody else lists what it creates. -/
theorem Accounts.Move.isolated_iff (move : Accounts.Move world call after)
    (isolated : world.accounts.Isolated) : after.Isolated ↔ CreatesApart world call := by
  have lasts (nothing : call.terms world.books = []) : after.Isolated ↔ CreatesApart world call :=
    iff_of_true (move.lasting nothing Isolated.lasting isolated) (by simp [CreatesApart, nothing])
  cases move with
  | kept call silent => exact lasts (Call.terms_of_silent silent)
  | paid call orders listed distinct =>
      rw [isolated.payAll_iff distinct]
      simp [CreatesApart, Call.terms, ← listed, PaymentOrder.terms, World.accounts]
  | multisigPaid payer multisig stored =>
      rw [Isolated.countGlobally_iff, isolated.file_iff]
      simp [CreatesApart, Call.terms, World.books, stored, PaymentOrder.terms,
        MultisigPayment.order, World.accounts]
  | requestPaid payer request stored =>
      rw [Isolated.countGlobally_iff, isolated.file_iff]
      simp [CreatesApart, Call.terms, World.books, stored, PaymentOrder.terms, PaymentRequest.order,
        World.accounts]
  | _ => exact lasts rfl

end Moves

section Runs

variable {host : Host} {start : World}

theorem Deployed.isolated (deployed : Deployed host start) : start.accounts.Isolated := by
  obtain ⟨bank, timestamp, sequence, _, _, rfl⟩ := deployed
  exact ⟨fun _ _ _ _ stored => by simp [World.accounts, World.deployed] at stored,
    fun _ _ _ _ stored => by simp [World.accounts, World.deployed] at stored⟩

/-- Each index resolves to payments of its account only, and each history page shows nothing
else, throughout a run exactly if nobody else lists the payments that its calls create. -/
theorem histories_isolated_iff (deployed : Deployed host start) (sorts : host.Sorts)
    (actions : List Action) :
    Throughout (step host) (fun world => world.accounts.Isolated ∧ world.ShowsOwn host) start
        actions ↔
      Along (step host) (AcceptsOnly host CreatesApart) start actions := by
  have exactly : ∀ world action, True →
      world.accounts.Isolated ∧ world.ShowsOwn host → True →
      ((step host world action).accounts.Isolated ∧ (step host world action).ShowsOwn host ↔
        AcceptsOnly host CreatesApart world action) := by
    intro world action _ ⟨isolated, _⟩ _
    rw [and_iff_left_of_imp fun isolated => isolated.showsOwn sorts]
    rcases step_accounts host world action with
      ⟨auth, permits, call, rfl, succeeded, move⟩ | ⟨accepts, same⟩
    · rw [move.isolated_iff isolated]
      exact ⟨fun met _ => met, fun met => met succeeded.accepted⟩
    · rw [same]
      exact iff_of_true isolated (accepts _)
  have initial := deployed.isolated
  exact throughout_iff_along exactly (fun _ _ _ _ _ _ => trivial) trivial
    ⟨initial, initial.showsOwn sorts⟩ (along_of_forall (fun _ _ => trivial) start actions)

end Runs

/-- A payment to one merchant is archived and its identifier used for another merchant. -/
def Sample.reassigning : List Action := [
  invokedBy payer (.payment (.processPaymentWithNonce payer [1] shop coin 500 [] none 0)),
  invokedBy admin (.payment (.archivePaymentRecord admin [1])),
  invokedBy payer (.payment (.processPaymentWithNonce payer [1] rival coin 300 [] none 1))]

/-- The history of the first merchant shows the payment to the second one. -/
theorem foreign_payment_shown : ¬ ((Sample.world Sample.reassigning).accounts.Isolated ∧
    (Sample.world Sample.reassigning).ShowsOwn Sample.host) := by
  rintro ⟨_, own⟩
  let page := buildPage Sample.host (Sample.world Sample.reassigning)
    ((Sample.world Sample.reassigning).getMerchantPaymentIds Sample.shop) none 10 none .date
    .ascending
  have shown : page.payments.map PaymentOrder.merchantAddress = [Sample.rival] := by
    decide +kernel
  obtain ⟨payment, rest, payments, merchant, _⟩ := List.map_eq_cons_iff.mp shown
  have authorised : (Sample.host.env [Sample.shop] fun _ => true).Authorised Sample.shop := by
    decide
  have shop := own.merchants [Sample.shop] (fun _ => true) Sample.shop none 10 none .date .ascending
    page (Sample.world Sample.reassigning)
    (by simpa [getMerchantPaymentHistory, maxPageLimit] using ⟨authorised, rfl⟩) payment
    (by simp [payments])
  exact absurd (merchant.symm.trans shop) (by decide)

theorem histories_isolated_iff_sample :
    ¬ Along (step Sample.host) (AcceptsOnly Sample.host CreatesApart) Sample.start
      (Sample.opening ++ Sample.reassigning) := by
  have written : ((Sample.world Sample.reassigning).payments.orders.get [1]).map
        PaymentOrder.merchantAddress = some Sample.rival ∧
      [1] ∈ (Sample.world Sample.reassigning).payments.merchantIds Sample.shop := by
    decide +kernel
  obtain ⟨payment, stored, merchant⟩ := Option.map_eq_some_iff.mp written.1
  intro apart
  have isolated := ((histories_isolated_iff Sample.deployed_start (fun _ _ => .refl _) _).mpr apart
    _ [] (List.append_nil _).symm).1
  have shop := isolated.merchants Sample.shop [1] payment written.2 stored
  exact absurd (merchant.symm.trans shop) (by decide)

end LumenFlow

import LumenFlow.Effect.Step
import LumenFlow.Effect.Sweeps
import LumenFlow.Effect.Totals

/-!
# Payments, their indexes and their counters

The stored payments with the indexes of the merchants and payers, and the counters that are
kept for each merchant and globally.  `Accounts.Move` lists what an accepted call can do to
them.
-/

namespace LumenFlow

open Kit Contract

structure Accounts where
  orders : Table PaymentOrder.orderId
  merchantIds : Index Address Text
  payerIds : Index Address Text
  stats : Address → Totals
  totals : Totals

def World.accounts (world : World) : Accounts where
  orders := world.payments.orders
  merchantIds := world.payments.merchantIds
  payerIds := world.payments.payerIds
  stats merchant := (world.stats.merchant merchant).totals
  totals := world.stats.global.totals

/-- The parts of the ledger that the accounts consist of. -/
def Part.ofAccounts : List Part := [.orders, .merchantIds, .payerIds, .merchantStats, .totals]

namespace Accounts

/-- Store a payment and list it in the two indexes, as far as they have room. -/
@[simps]
def file (accounts : Accounts) (order : PaymentOrder) (merchantRoom payerRoom : Bool) :
    Accounts where
  orders := accounts.orders.put order
  merchantIds := accounts.merchantIds.add merchantRoom order.merchantAddress order.orderId
  payerIds := accounts.payerIds.add payerRoom order.payer order.orderId
  stats := accounts.stats
  totals := accounts.totals

/-- Change the counters of a merchant. -/
@[simps]
def count (accounts : Accounts) (merchant : Address) (change : Totals → Totals) : Accounts :=
  { accounts with
    stats := Function.update accounts.stats merchant (change (accounts.stats merchant)) }

/-- Change the global counters. -/
@[simps]
def countGlobally (accounts : Accounts) (change : Totals → Totals) : Accounts :=
  { accounts with totals := change accounts.totals }

/-- Store, list and count a payment. -/
@[simps!]
def pay (accounts : Accounts) (order : PaymentOrder) : Accounts :=
  ((accounts.file order true true).count order.merchantAddress (·.pay order.amount)).countGlobally
    (·.pay order.amount)

/-- Store, list and count payments, one after the other. -/
def payAll (accounts : Accounts) (orders : List PaymentOrder) : Accounts :=
  orders.foldl pay accounts

/-- Write the payment back and count the refund. -/
@[simps!]
def refund (accounts : Accounts) (payment : PaymentOrder) (amount : Int) : Accounts :=
  ({ accounts with orders := accounts.orders.put payment }.count payment.merchantAddress
    (·.refund amount)).countGlobally (·.refund amount)

/-- The numbers of payments and refunds fit the `u32` that they are stored in. -/
structure Fits (accounts : Accounts) : Prop where
  payments : accounts.totals.payments ≤ u32Max
  refunds : accounts.totals.refunds ≤ u32Max

section PayAll

variable (accounts : Accounts) (order : PaymentOrder) (orders : List PaymentOrder)

@[simp]
theorem payAll_nil : accounts.payAll [] = accounts := rfl

@[simp]
theorem payAll_cons :
    accounts.payAll (order :: orders) = (accounts.pay order).payAll orders := rfl

@[simp]
theorem payAll_orders : (accounts.payAll orders).orders = accounts.orders.putAll orders := by
  induction orders generalizing accounts with
  | nil => rfl
  | cons order rest inductionHypothesis => exact inductionHypothesis (accounts.pay order)

@[simp]
theorem payAll_merchantIds : (accounts.payAll orders).merchantIds =
    accounts.merchantIds.addAll PaymentOrder.merchantAddress PaymentOrder.orderId orders := by
  induction orders generalizing accounts with
  | nil => rfl
  | cons order rest inductionHypothesis => exact inductionHypothesis (accounts.pay order)

@[simp]
theorem payAll_payerIds : (accounts.payAll orders).payerIds =
    accounts.payerIds.addAll PaymentOrder.payer PaymentOrder.orderId orders := by
  induction orders generalizing accounts with
  | nil => rfl
  | cons order rest inductionHypothesis => exact inductionHypothesis (accounts.pay order)

@[simp]
theorem payAll_totals : (accounts.payAll orders).totals =
    accounts.totals.payAll (orders.map PaymentOrder.amount) := by
  induction orders generalizing accounts with
  | nil => rfl
  | cons order rest inductionHypothesis => exact inductionHypothesis (accounts.pay order)

theorem payAll_stats (merchant : Address) : (accounts.payAll orders).stats merchant =
    (accounts.stats merchant).payAll ((orders.filter fun order =>
      order.merchantAddress = merchant).map PaymentOrder.amount) := by
  induction orders generalizing accounts with
  | nil => rfl
  | cons order rest inductionHypothesis =>
      rw [payAll_cons, inductionHypothesis, pay_stats]
      by_cases same : order.merchantAddress = merchant
      · subst same
        rw [Function.update_self, List.filter_cons_of_pos (by simp), List.map_cons,
          Totals.payAll_cons]
      · rw [Function.update_of_ne (Ne.symm same), List.filter_cons_of_neg (by simpa using same)]
        rfl

end PayAll

/-- The changes of the accounts that an accepted call can make. -/
inductive Move (world : World) : Call → Accounts → Prop where
  | kept (call : Call) (silent : .orders ∉ call.parts) : Move world call world.accounts
  | dismissed (admin : Address) (disputeId resolution : Text) :
      Move world (.refund (.resolveDispute admin disputeId resolution false)) world.accounts
  | paid (call : PaymentCall) (orders : List PaymentOrder)
      (listed : orders.map PaymentOrder.terms = call.terms)
      (distinct : (orders.map PaymentOrder.orderId).Nodup)
      (fresh : ∀ order ∈ orders, world.payments.orders.get order.orderId = none)
      (opened : ∀ order ∈ orders, order.IsNew world.timestamp ∧ 0 < order.amount ∧
        world.books.Registered order.merchantAddress)
      (fits : world.accounts.Fits → (world.accounts.payAll orders).Fits)
      (lists : .merchantIds ∈ call.parts) :
      Move world (.payment call) (world.accounts.payAll orders)
  | statusUpdated (caller : Address) (orderId : Text) (refundedAmount : Int)
      (expectedVersion : Option Nat) (payment : PaymentOrder)
      (stored : world.payments.orders.get orderId = some payment) :
      Move world (.payment (.updatePaymentStatus caller orderId refundedAmount expectedVersion))
        { world.accounts with
          orders := world.payments.orders.put (payment.refundedTo refundedAmount) }
  | archived (admin : Address) (orderId : Text) (payment : PaymentOrder)
      (stored : world.payments.orders.get orderId = some payment) :
      Move world (.payment (.archivePaymentRecord admin orderId))
        { world.accounts with orders := world.payments.orders.erase orderId }
  | cleaned (admin : Address) (batchSize : Option Nat) (orders : Table PaymentOrder.orderId)
      (swept : world.payments.orders.Swept (PaymentOrder.Expired world.cleanupCutoff)
        world.listedPaymentIds orders) :
      Move world (.payment (.cleanupExpiredPayments admin batchSize))
        { world.accounts with orders }
  | refundExecuted (refund : RefundRecord) (payment : PaymentOrder)
      (approved : world.refunds.records.get refund.refundId = some refund)
      (stored : world.payments.orders.get refund.orderId = some payment)
      (fits : world.accounts.totals.refunds + 1 ≤ u32Max) :
      Move world (.refund (.executeRefund refund.refundId))
        (world.accounts.refund (payment.refundBy refund.amount (payment.version + 1))
          refund.amount)
  | refundForced (admin : Address) (resolution : Text) (dispute : DisputeRecord)
      (refund : RefundRecord) (payment : PaymentOrder)
      (raised : world.disputes.get dispute.disputeId = some dispute)
      (rejected : world.refunds.records.get dispute.refundId = some refund)
      (stored : world.payments.orders.get refund.orderId = some payment)
      (fits : world.accounts.totals.refunds + 1 ≤ u32Max) :
      Move world (.refund (.resolveDispute admin dispute.disputeId resolution true))
        (world.accounts.refund (payment.refundBy refund.amount payment.version) refund.amount)
  | multisigPaid (payer : Address) (multisig : MultisigPayment)
      (stored : world.multisigs.get multisig.paymentId = some multisig)
      (fits : world.accounts.totals.payments + 1 ≤ u32Max) :
      Move world (.multisig (.executeMultisigPayment payer multisig.paymentId))
        ((world.accounts.file (multisig.order payer world.timestamp)
          (decide ((world.payments.merchantIds multisig.merchantAddress).length <
            maxPaymentIdsPerAccount))
          (decide ((world.payments.payerIds payer).length <
            maxPaymentIdsPerAccount))).countGlobally (·.pay multisig.amount))
  | requestPaid (payer : Address) (request : PaymentRequest)
      (stored : world.requests.records.get request.requestId = some request)
      (fresh : world.payments.orders.get request.requestId = none)
      (fits : world.accounts.totals.payments + 1 ≤ u32Max) :
      Move world (.multisig (.payPaymentRequest payer request.requestId))
        ((world.accounts.file (request.order payer world.timestamp) true true).countGlobally
          (·.pay request.amount))

end Accounts

section Parts

variable {env : Env} {world next : World}

theorem only_orders {Result : Type} {tx : Contract Result} (parts : List Part)
    [Writes tx parts] {result : Result} (committed : tx.Commits env world result next)
    (apart : ∀ part ∈ Part.ofAccounts, part ≠ .orders → part ∉ parts) :
    next.accounts = { world.accounts with orders := next.payments.orders } := by
  have same (part : Part) (inside : part ∈ Part.ofAccounts) (other : part ≠ .orders) :
      part.read next = part.read world :=
    same_part parts committed part (apart part inside other)
  have merchantIds : next.payments.merchantIds = world.payments.merchantIds :=
    same .merchantIds (by simp [Part.ofAccounts]) (by simp)
  have payerIds : next.payments.payerIds = world.payments.payerIds :=
    same .payerIds (by simp [Part.ofAccounts]) (by simp)
  have stats : next.stats.merchant = world.stats.merchant :=
    same .merchantStats (by simp [Part.ofAccounts]) (by simp)
  have totals : next.stats.global.totals = world.stats.global.totals :=
    same .totals (by simp [Part.ofAccounts]) (by simp)
  simp only [World.accounts, merchantIds, payerIds, stats, totals]

theorem same_accounts {Result : Type} {tx : Contract Result} (parts : List Part)
    [Writes tx parts] {result : Result} (committed : tx.Commits env world result next)
    (apart : ∀ part ∈ Part.ofAccounts, part ∉ parts) : next.accounts = world.accounts := by
  have orders : next.payments.orders = world.payments.orders :=
    same_part parts committed .orders (apart .orders (by simp [Part.ofAccounts]))
  rw [only_orders parts committed fun part inside _ => apart part inside, orders]
  rfl

theorem addMerchantPaymentId_accounts {merchant : Address} {orderId : Text}
    (committed : (addMerchantPaymentId merchant orderId).Commits env world () next) :
    next.accounts = { world.accounts with
      merchantIds := world.accounts.merchantIds.add true merchant orderId } := by
  simp [addMerchantPaymentId] at committed
  obtain ⟨_, rfl⟩ := committed
  rfl

theorem addPayerPaymentId_accounts {payer : Address} {orderId : Text}
    (committed : (addPayerPaymentId payer orderId).Commits env world () next) :
    next.accounts = { world.accounts with
      payerIds := world.accounts.payerIds.add true payer orderId } := by
  simp [addPayerPaymentId] at committed
  obtain ⟨_, rfl⟩ := committed
  rfl

theorem recordPayment_accounts {payment : PaymentOrder}
    (committed : (recordPayment payment).Commits env world () next) :
    next.accounts = world.accounts.file payment true true := by
  simp only [recordPayment, Tx.commits_bind, Tx.exists_unit, Tx.commits_modify,
    exists_eq_left] at committed
  obtain ⟨_, merchantIndex, payerIndex⟩ := committed
  rw [addPayerPaymentId_accounts payerIndex, addMerchantPaymentId_accounts merchantIndex]
  rfl

section BestEffort

variable {room : Prop} [Decidable room] {orderId : Text}

theorem addMerchantPaymentId_when_accounts {merchant : Address}
    (committed : (Tx.when room (addMerchantPaymentId merchant orderId)).Commits env world ()
      next) :
    next.accounts = { world.accounts with
      merchantIds := world.accounts.merchantIds.add (decide room) merchant orderId } := by
  rcases Tx.commits_when.mp committed with ⟨fits, appended⟩ | ⟨full, rfl⟩
  · rw [addMerchantPaymentId_accounts appended, decide_eq_true fits]
  · rw [decide_eq_false full]
    rfl

theorem addPayerPaymentId_when_accounts {payer : Address}
    (committed : (Tx.when room (addPayerPaymentId payer orderId)).Commits env world () next) :
    next.accounts = { world.accounts with
      payerIds := world.accounts.payerIds.add (decide room) payer orderId } := by
  rcases Tx.commits_when.mp committed with ⟨fits, appended⟩ | ⟨full, rfl⟩
  · rw [addPayerPaymentId_accounts appended, decide_eq_true fits]
  · rw [decide_eq_false full]
    rfl

end BestEffort

/-- An index that is full stays as it is. -/
theorem recordPaymentBestEffort_accounts {payment : PaymentOrder}
    (committed : (recordPaymentBestEffort payment).Commits env world () next) :
    next.accounts = world.accounts.file payment
      (decide ((world.payments.merchantIds payment.merchantAddress).length <
        maxPaymentIdsPerAccount))
      (decide ((world.payments.payerIds payment.payer).length < maxPaymentIdsPerAccount)) := by
  simp only [recordPaymentBestEffort, Tx.commits_bind, Tx.exists_unit, Tx.commits_modify,
    Tx.commits_gets, exists_eq_left] at committed
  obtain ⟨merchantIds, stored, ⟨rfl, rfl⟩, _, merchantIndex, payerIds, middle, ⟨rfl, rfl⟩,
    payerIndex⟩ := committed
  have samePayers : middle.getPayerPaymentIds payment.payer =
      world.payments.payerIds payment.payer :=
    congrFun (addMerchantPaymentId_when_accounts merchantIndex ▸ rfl :
      middle.accounts.payerIds = world.accounts.payerIds) payment.payer
  rw [samePayers] at payerIndex
  rw [addPayerPaymentId_when_accounts payerIndex, addMerchantPaymentId_when_accounts merchantIndex]
  rfl

theorem setMerchantStats_accounts (world : World) (merchant : Address) (stats : MerchantStats) :
    (world.setMerchantStats merchant stats).accounts =
      world.accounts.count merchant fun _ => stats.totals := by
  have updated : (fun other => (Function.update world.stats.merchant merchant stats other).totals) =
      Function.update (fun other => (world.stats.merchant other).totals) merchant stats.totals := by
    funext other
    exact Function.apply_update (fun _ => MerchantStats.totals) world.stats.merchant merchant stats
      other
  simp only [World.accounts, World.setMerchantStats, World.updateStats, updated, Accounts.count]

theorem countMerchantPayment_accounts {merchant : Address} {amount : Int}
    (committed : (countMerchantPayment merchant amount).Commits env world () next) :
    next.accounts = world.accounts.count merchant (·.pay amount) := by
  simp [countMerchantPayment] at committed
  obtain ⟨_, rfl⟩ := committed
  exact setMerchantStats_accounts world merchant _

theorem countMerchantRefund_accounts {merchant : Address} {amount : Int}
    (committed : (countMerchantRefund merchant amount).Commits env world () next) :
    next.accounts = world.accounts.count merchant (·.refund amount) := by
  simp [countMerchantRefund] at committed
  obtain ⟨_, rfl⟩ := committed
  exact setMerchantStats_accounts world merchant _

theorem countGlobalPayment_accounts {amount : Int}
    (committed : (countGlobalPayment amount).Commits env world () next) :
    next.accounts = world.accounts.countGlobally (·.pay amount) ∧
      world.accounts.totals.payments + 1 ≤ u32Max := by
  simp [countGlobalPayment, countedPayment] at committed
  obtain ⟨fits, rfl⟩ := committed
  exact ⟨rfl, fits⟩

theorem countGlobalRefund_accounts {amount : Int}
    (committed : (countGlobalRefund amount).Commits env world () next) :
    next.accounts = world.accounts.countGlobally (·.refund amount) ∧
      world.accounts.totals.refunds + 1 ≤ u32Max := by
  simp [countGlobalRefund] at committed
  obtain ⟨fits, rfl⟩ := committed
  exact ⟨rfl, fits⟩

end Parts

section Payments

variable {env : Env} {world next : World}

/-- What the two single payments do to the accounts once their checks have passed. -/
theorem SinglePhases.accounts {order : PaymentOrder} {received : Int}
    (phases : SinglePhases env world next order received) :
    order.IsNew world.timestamp ∧ next.accounts = world.accounts.pay order ∧
      world.accounts.totals.payments + 1 ≤ u32Max := by
  obtain ⟨merchant, start, paid, stored, counting, isNew, _, _, _, _, _, _, ready, transferred,
    recorded, merchantCounted, globallyCounted⟩ := phases
  obtain ⟨global, fits⟩ := countGlobalPayment_accounts globallyCounted
  have profiled (profile : Merchant) : (stored.setMerchant profile).accounts = stored.accounts :=
    rfl
  have unchanged : start.accounts = world.accounts := by
    rw [ready]
    rfl
  have moved : paid.accounts = start.accounts :=
    same_accounts [.tokens] transferred (by simp [Part.ofAccounts])
  have filed : stored.accounts = world.accounts.file order true true := by
    rw [recordPayment_accounts recorded, moved, unchanged]
  rw [countMerchantPayment_accounts merchantCounted, profiled, filed] at global fits
  exact ⟨isNew, global, fits⟩

theorem processPaymentWithSignature_accounts {payer : Address} {orderId : Text}
    {merchantAddress tokenAddress : Address} {amount : Int} {memo : Text}
    {tags : Option (List Text)} {nonce timestamp : Nat} {signature merchantPublicKey : Bytes}
    (committed : (processPaymentWithSignature payer orderId merchantAddress tokenAddress amount
      memo tags nonce timestamp signature merchantPublicKey).Commits env world () next) :
    ∃ order, order.terms = ⟨orderId, merchantAddress, payer, tokenAddress, amount⟩ ∧
      order.IsNew world.timestamp ∧ next.accounts = world.accounts.pay order ∧
      world.accounts.totals.payments + 1 ≤ u32Max := by
  obtain ⟨order, terms, phases⟩ := processPaymentWithSignature_phases committed
  exact ⟨order, terms, phases.accounts⟩

theorem processPaymentWithNonce_accounts {payer : Address} {orderId : Text}
    {merchantAddress tokenAddress : Address} {amount : Int} {memo : Text}
    {tags : Option (List Text)} {nonce : Nat}
    (committed : (processPaymentWithNonce payer orderId merchantAddress tokenAddress amount
      memo tags nonce).Commits env world () next) :
    ∃ order, order.terms = ⟨orderId, merchantAddress, payer, tokenAddress, amount⟩ ∧
      order.IsNew world.timestamp ∧ next.accounts = world.accounts.pay order ∧
      world.accounts.totals.payments + 1 ≤ u32Max := by
  obtain ⟨order, terms, phases⟩ := processPaymentWithNonce_phases committed
  exact ⟨order, terms, phases.accounts⟩

theorem SinglePaid.move {call : PaymentCall} {order filed : PaymentOrder}
    (paid : SinglePaid env world next order) (listed : call.terms = [filed.terms])
    (same : filed.terms = order.terms) (isNew : filed.IsNew world.timestamp)
    (accounts : next.accounts = world.accounts.pay filed)
    (fits : world.accounts.totals.payments + 1 ≤ u32Max) :
    Accounts.Move world (.payment call) next.accounts := by
  obtain ⟨orderId, merchantAddress, payer, token, amount⟩ := PaymentTerms.mk.inj same
  rw [accounts]
  refine .paid call [filed] listed.symm (by simp) ?_ ?_ (fun before => ⟨fits, before.refunds⟩) ?_
  · exact List.forall_mem_singleton.mpr (orderId ▸ paid.free)
  · refine List.forall_mem_singleton.mpr ⟨isNew, amount ▸ paid.positive, ?_⟩
    rw [merchantAddress]
    exact Books.registered_of_standing paid.welcome.active
  · cases call <;> simp [PaymentCall.terms, PaymentCall.parts] at listed ⊢

/-- The accounts as a batch leaves them before it writes the global statistics that it carries
along. -/
def World.carrying (world : World) (stats : GlobalStats) : Accounts :=
  { world.accounts with totals := stats.totals }

theorem storeBatchItem_accounts {payer : Address} {now : Nat} {stats result : GlobalStats}
    {item : BatchPaymentItem}
    (committed : (storeBatchItem payer now stats item).Commits env world result next) :
    next.carrying result = (world.carrying stats).pay (item.order payer now) ∧
      ((world.carrying stats).Fits → (next.carrying result).Fits) := by
  simp [storeBatchItem, countedPayment] at committed
  obtain ⟨middle, recorded, writing, written, merchantCounted, fits, rfl⟩ := committed
  have profiled : writing.accounts = middle.accounts := by
    rcases written with ⟨_, _, _, rfl⟩ | ⟨_, rfl⟩ <;> rfl
  have filed := recordPayment_accounts recorded
  have counted := countMerchantPayment_accounts merchantCounted
  rw [profiled, filed] at counted
  refine ⟨?_, fun before => ⟨fits, before.refunds⟩⟩
  rw [World.carrying, counted]
  rfl

theorem storeBatch_accounts {payer : Address} {now : Nat} {stats result : GlobalStats}
    {items : List BatchPaymentItem}
    (committed : (Tx.fold (storeBatchItem payer now) stats items).Commits env world result next) :
    next.carrying result = (world.carrying stats).payAll (items.map (·.order payer now)) ∧
      ((world.carrying stats).Fits → (next.carrying result).Fits) := by
  induction items generalizing stats world with
  | nil =>
      obtain ⟨rfl, rfl⟩ := Tx.commits_fold_nil.mp committed
      exact ⟨rfl, id⟩
  | cons item rest inductionHypothesis =>
      obtain ⟨between, middle, head, tail⟩ := Tx.commits_fold_cons.mp committed
      obtain ⟨paid, headFits⟩ := storeBatchItem_accounts head
      obtain ⟨paidAll, tailFits⟩ := inductionHypothesis tail
      rw [paidAll, paid]
      exact ⟨rfl, fun before => by
        have after := tailFits (headFits before)
        rwa [paidAll, paid] at after⟩

theorem batchPayment_move {payer : Address} {payments : List BatchPaymentItem}
    (committed : (batchPayment payer payments).Commits env world () next) :
    Accounts.Move world (.payment (.batchPayment payer payments)) next.accounts := by
  have paid := batchPayment_paid committed
  simp [batchPayment] at committed
  obtain ⟨_, _, _, _, validating, validated, _, grouping, grouped, paying, transferred, totals,
    storing, stored, rfl⟩ := committed
  have moved : paying.accounts = world.accounts := by
    rw [same_accounts [.tokens] transferred (by simp [Part.ofAccounts]),
      same_accounts [] grouped (by simp), same_accounts [.rateCounters] validated
        (by simp [Part.ofAccounts])]
  have clock : paying.timestamp = world.timestamp := by
    have transferring : paying.timestamp = grouping.timestamp :=
      congrArg Prod.fst (same_part [.tokens] transferred .clock (by simp))
    have computing : grouping.timestamp = validating.timestamp :=
      congrArg Prod.fst (same_part [] grouped .clock (by simp))
    have checking : validating.timestamp = world.timestamp :=
      congrArg Prod.fst (same_part [.rateCounters] validated .clock (by simp))
    rw [transferring, computing, checking]
  have start : paying.carrying paying.stats.global = world.accounts := moved
  obtain ⟨accounts, fits⟩ := storeBatch_accounts stored
  rw [start, clock] at accounts
  rw [start, accounts] at fits
  change Accounts.Move world _ (storing.carrying totals)
  rw [accounts]
  refine .paid (.batchPayment payer payments) _ ?_ ?_ ?_ ?_ fits (by simp [PaymentCall.parts])
  · simp [PaymentCall.terms, BatchPaymentItem.order, BatchPaymentItem.terms, PaymentOrder.terms]
  · rw [List.map_map]
    exact paid.distinct
  · intro order membership
    obtain ⟨item, listed, rfl⟩ := List.mem_map.mp membership
    exact (paid.validated item listed).free
  · intro order membership
    obtain ⟨item, listed, rfl⟩ := List.mem_map.mp membership
    have validated := paid.validated item listed
    exact ⟨⟨rfl, rfl, rfl, rfl⟩, validated.positive, validated.registered⟩

theorem Call.accounts_kept {call : Call} (silent : .orders ∉ call.parts)
    (committed : call.exec.Commits env world () next) : next.accounts = world.accounts := by
  have writes := call.writes
  refine same_accounts call.parts committed ?_
  rcases call with call | call | call | call | call | call | call <;> cases call <;>
    simp [Part.ofAccounts, Call.parts, AdminCall.parts, MerchantCall.parts, PaymentCall.parts,
      RefundCall.parts, MultisigCall.parts, SubscriptionCall.parts, EscrowCall.parts] at silent ⊢

theorem PaymentCall.move {call : PaymentCall} (writing : .orders ∈ (Call.payment call).parts)
    (committed : call.exec.Commits env world () next) :
    Accounts.Move world (.payment call) next.accounts := by
  cases call with
  | processPaymentWithSignature =>
      obtain ⟨order, terms, paid⟩ := processPaymentWithSignature_paid committed
      obtain ⟨filed, same, isNew, accounts, fits⟩ := processPaymentWithSignature_accounts committed
      exact paid.move (congrArg (fun term => [term]) same.symm) (same.trans terms.symm) isNew
        accounts fits
  | processPaymentWithNonce =>
      obtain ⟨order, terms, paid⟩ := processPaymentWithNonce_paid committed
      obtain ⟨filed, same, isNew, accounts, fits⟩ := processPaymentWithNonce_accounts committed
      exact paid.move (congrArg (fun term => [term]) same.symm) (same.trans terms.symm) isNew
        accounts fits
  | batchPayment => exact batchPayment_move committed
  | updatePaymentStatus caller orderId refundedAmount expectedVersion =>
      simp [PaymentCall.exec, Contract.updatePaymentStatus] at committed
      obtain ⟨_, payment, stored, _, _, rfl⟩ := committed
      exact .statusUpdated caller orderId refundedAmount expectedVersion payment stored
  | archivePaymentRecord admin orderId =>
      simp [PaymentCall.exec, Contract.archivePaymentRecord] at committed
      obtain ⟨_, _, found, rfl⟩ := committed
      obtain ⟨payment, stored⟩ := Option.ne_none_iff_exists'.mp found
      exact .archived admin orderId payment stored
  | cleanupExpiredPayments admin batchSize =>
      obtain ⟨_, cleaned⟩ := Tx.commits_discard.mp committed
      have writes := (PaymentCall.cleanupExpiredPayments admin batchSize).writes
      rw [only_orders (PaymentCall.cleanupExpiredPayments admin batchSize).parts committed
        (by simp [Part.ofAccounts, PaymentCall.parts])]
      exact .cleaned admin batchSize _ (cleanupExpiredPayments_swept cleaned)
  | _ => exact absurd writing (by simp [Call.parts, PaymentCall.parts])

end Payments

section Refunds

variable {env : Env} {world next : World}

theorem executeRefund_move {refundId : Text}
    (committed : (executeRefund refundId).Commits env world () next) :
    Accounts.Move world (.refund (.executeRefund refundId)) next.accounts := by
  simp [executeRefund] at committed
  obtain ⟨_, refund, approved, _, payment, stored, _, _, _, counting, merchantCounted, paying,
    globallyCounted, _, _, _, _, rfl⟩ := committed
  obtain rfl := Table.key_of_get approved
  have counted := countMerchantRefund_accounts merchantCounted
  obtain ⟨accounts, fits⟩ := countGlobalRefund_accounts globallyCounted
  rw [counted] at accounts fits
  change Accounts.Move world _ paying.accounts
  rw [accounts]
  exact .refundExecuted refund payment approved stored fits

theorem resolveDispute_move {admin : Address} {disputeId resolution : Text} {force : Bool}
    (committed : (resolveDispute admin disputeId resolution force).Commits env world () next) :
    Accounts.Move world (.refund (.resolveDispute admin disputeId resolution force))
      next.accounts := by
  cases force with
  | true =>
      simp [resolveDispute, forceRefund] at committed
      obtain ⟨_, _, _, dispute, raised, _, refund, rejected, payment, stored, _, counting,
        globallyCounted, paying, merchantCounted, _, _, _, _, rfl⟩ := committed
      obtain rfl := Table.key_of_get raised
      have counted := countMerchantRefund_accounts merchantCounted
      obtain ⟨accounts, fits⟩ := countGlobalRefund_accounts globallyCounted
      rw [accounts] at counted
      change Accounts.Move world _ paying.accounts
      rw [counted]
      exact .refundForced admin resolution dispute refund payment raised rejected stored fits
  | false =>
      simp [resolveDispute] at committed
      obtain ⟨_, _, _, dispute, _, _, rfl⟩ := committed
      exact .dismissed admin disputeId resolution

theorem RefundCall.move {call : RefundCall} (writing : .orders ∈ (Call.refund call).parts)
    (committed : call.exec.Commits env world () next) :
    Accounts.Move world (.refund call) next.accounts := by
  cases call with
  | executeRefund => exact executeRefund_move committed
  | resolveDispute => exact resolveDispute_move committed
  | _ => exact absurd writing (by simp [Call.parts, RefundCall.parts])

end Refunds

section Multisig

variable {env : Env} {world next : World}

theorem executeMultisigPayment_move {payer : Address} {paymentId : Text}
    (committed : (executeMultisigPayment payer paymentId).Commits env world () next) :
    Accounts.Move world (.multisig (.executeMultisigPayment payer paymentId)) next.accounts := by
  simp [executeMultisigPayment] at committed
  obtain ⟨_, _, multisig, stored, _, _, _, _, _, recording, recorded, counted⟩ := committed
  obtain rfl := Table.key_of_get stored
  obtain ⟨accounts, fits⟩ := countGlobalPayment_accounts counted
  rw [recordPaymentBestEffort_accounts recorded] at accounts fits
  rw [accounts]
  exact .multisigPaid payer multisig stored fits

theorem payPaymentRequest_move {payer : Address} {requestId : Text}
    (committed : (payPaymentRequest payer requestId).Commits env world () next) :
    Accounts.Move world (.multisig (.payPaymentRequest payer requestId)) next.accounts := by
  simp [payPaymentRequest] at committed
  obtain ⟨_, _, request, stored, _, fresh, _, recording, recorded, counting, counted, rfl⟩ :=
    committed
  obtain rfl := Table.key_of_get stored
  obtain ⟨accounts, fits⟩ := countGlobalPayment_accounts counted
  rw [recordPayment_accounts recorded] at accounts fits
  change Accounts.Move world _ counting.accounts
  rw [accounts]
  exact .requestPaid payer request stored fresh fits

theorem MultisigCall.move {call : MultisigCall} (writing : .orders ∈ (Call.multisig call).parts)
    (committed : call.exec.Commits env world () next) :
    Accounts.Move world (.multisig call) next.accounts := by
  cases call with
  | executeMultisigPayment => exact executeMultisigPayment_move committed
  | payPaymentRequest => exact payPaymentRequest_move committed
  | _ => exact absurd writing (by simp [Call.parts, MultisigCall.parts])

end Multisig

section Lasting

variable {world : World} {call : Call} {after : Accounts} {property : Accounts → Prop}

/-- The property does not depend on the counters, and lasts when payments are removed or written
back for the same parties. -/
structure Accounts.Lasting (property : Accounts → Prop) : Prop where
  sub : ∀ {accounts orders}, property accounts → orders.Sub accounts.orders →
    property { accounts with orders }
  rewrite : ∀ {accounts} {old payment : PaymentOrder}, property accounts →
    accounts.orders.get payment.orderId = some old →
    payment.merchantAddress = old.merchantAddress → payment.payer = old.payer →
    property { accounts with orders := accounts.orders.put payment }
  counters : ∀ {accounts} (stats totals), property accounts →
    property { accounts with stats, totals }

theorem Accounts.Lasting.refund {accounts : Accounts} {old payment : PaymentOrder} {amount : Int}
    (lasting : Accounts.Lasting property) (holds : property accounts)
    (stored : accounts.orders.get payment.orderId = some old)
    (merchant : payment.merchantAddress = old.merchantAddress) (payer : payment.payer = old.payer) :
    property (accounts.refund payment amount) :=
  have written := lasting.rewrite holds stored merchant payer
  lasting.counters _ _ (lasting.counters _ _ written)

theorem Call.terms_of_silent (silent : .orders ∉ call.parts) : call.terms world.books = [] := by
  rcases call with call | call | call | call | call | call | call <;> cases call <;>
    simp [Call.parts, PaymentCall.parts, MultisigCall.parts, Call.terms, PaymentCall.terms]
      at silent ⊢

theorem Accounts.Move.lasting (move : Accounts.Move world call after)
    (nothing : call.terms world.books = []) (lasting : Accounts.Lasting property)
    (holds : property world.accounts) : property after := by
  cases move with
  | kept => exact holds
  | dismissed => exact holds
  | paid call orders listed =>
      have none : orders = [] := List.map_eq_nil_iff.mp (listed.trans nothing)
      rw [none]
      exact holds
  | statusUpdated caller orderId refundedAmount expectedVersion payment stored =>
      have same : world.accounts.orders.get payment.orderId = some payment := Table.get_key stored
      exact lasting.rewrite holds same rfl rfl
  | archived admin orderId => exact lasting.sub holds (Table.sub_erase _ orderId)
  | cleaned admin batchSize orders swept => exact lasting.sub holds swept.sub
  | refundExecuted refund payment approved stored =>
      have same : world.accounts.orders.get payment.orderId = some payment := Table.get_key stored
      exact lasting.refund holds same rfl rfl
  | refundForced admin resolution dispute refund payment raised rejected stored =>
      have same : world.accounts.orders.get payment.orderId = some payment := Table.get_key stored
      exact lasting.refund holds same rfl rfl
  | multisigPaid payer multisig stored => simp [Call.terms, World.books, stored] at nothing
  | requestPaid payer request stored => simp [Call.terms, World.books, stored] at nothing

end Lasting

theorem Call.move {env : Env} {world next : World} {call : Call}
    (committed : call.exec.Commits env world () next) :
    Accounts.Move world call next.accounts := by
  by_cases writing : .orders ∈ call.parts
  · cases call with
    | payment call => exact PaymentCall.move writing committed
    | refund call => exact RefundCall.move writing committed
    | multisig call => exact MultisigCall.move writing committed
    | admin call | merchant call | subscription call | escrow call =>
        cases call <;> simp [Call.parts, AdminCall.parts, MerchantCall.parts,
          SubscriptionCall.parts, EscrowCall.parts] at writing
  · rw [Call.accounts_kept writing committed]
    exact .kept call writing

/-- An action is an accepted call that makes one of the moves, or nothing happens to the
accounts. -/
theorem step_accounts (host : Host) (world : World) (action : Action) :
    (∃ auth permits call, action = .invoke auth permits call ∧
        Succeeds host world auth permits call (step host world action) ∧
        Accounts.Move world call (step host world action).accounts) ∨
      (∀ allowed, AcceptsOnly host allowed world action) ∧
        (step host world action).accounts = world.accounts := by
  cases action with
  | invoke auth permits call =>
      by_cases accepted : Accepted host world auth permits call
      · exact .inl ⟨auth, permits, call, rfl, accepted.succeeds,
          Call.move accepted.succeeds.executes⟩
      · refine .inr ⟨fun _ now => absurd now accepted, ?_⟩
        rw [step_of_refused accepted]
  | tokens operation =>
      refine .inr ⟨fun _ => trivial, ?_⟩
      simp only [step]
      split <;> rfl
  | advance ledgers seconds => exact .inr ⟨fun _ => trivial, rfl⟩

end LumenFlow

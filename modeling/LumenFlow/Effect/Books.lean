import LumenFlow.Model.Call

/-!
# What a call can do to the books

The books are the tables of the world that say who owes what to whom, with the
token ledger, its log and the clock.  `Effect` lists every change of the books that a
committed call can make, each with the checks that the call has passed.  An
invariant of the books has to be proved for these changes only.
-/

namespace LumenFlow

open Kit

structure Books where
  merchants : Table Merchant.address
  orders : Table PaymentOrder.orderId
  refunds : Table RefundRecord.refundId
  disputes : Table DisputeRecord.disputeId
  multisigs : Table MultisigPayment.paymentId
  requests : Table PaymentRequest.requestId
  subscriptions : Table Subscription.subscriptionId
  escrows : Table EscrowRecord.orderId
  holds : Table EscrowHold.escrowId
  bank : TokenLedger Address Address
  transfers : List Transfer
  timestamp : Nat

def World.books (world : World) : Books where
  merchants := world.merchants.records
  orders := world.payments.orders
  refunds := world.refunds.records
  disputes := world.disputes
  multisigs := world.multisigs
  requests := world.requests.records
  subscriptions := world.subscriptions.records
  escrows := world.escrows.records
  holds := world.escrows.holds
  bank := world.bank
  transfers := world.transfers
  timestamp := world.timestamp

namespace Books

/-- Move tokens and note the movement. -/
@[simps]
def settle (books : Books) (transfer : Transfer) : Books :=
  { books with
    bank := books.bank.move transfer.token transfer.sender transfer.recipient transfer.amount
    transfers := transfer :: books.transfers }

/-- Move tokens for each transfer of a list, in order. -/
def settleAll (books : Books) (transfers : List Transfer) : Books :=
  transfers.foldl settle books

/-- Let the contract spend an amount for an owner. -/
@[simps]
def allow (books : Books) (token owner spender : Address) (amount : Int) : Books :=
  { books with bank := books.bank.setAllowance token owner spender amount }

@[simp]
theorem settleAll_nil (books : Books) : books.settleAll [] = books := rfl

@[simp]
theorem settleAll_cons (books : Books) (transfer : Transfer) (rest : List Transfer) :
    books.settleAll (transfer :: rest) = (books.settle transfer).settleAll rest := rfl

@[simp]
theorem settleAll_transfers (books : Books) (transfers : List Transfer) :
    (books.settleAll transfers).transfers = transfers.reverse ++ books.transfers := by
  induction transfers generalizing books with
  | nil => rfl
  | cons transfer rest inductionHypothesis => simp [inductionHypothesis]

theorem settleAll_eq (books : Books) (transfers : List Transfer) :
    books.settleAll transfers =
      { books with
        bank := (books.settleAll transfers).bank
        transfers := transfers.reverse ++ books.transfers } := by
  induction transfers generalizing books with
  | nil => rfl
  | cons transfer rest inductionHypothesis =>
      rw [settleAll_cons, inductionHypothesis]
      simp [settle]

@[simp]
theorem settleAll_timestamp (books : Books) (transfers : List Transfer) :
    (books.settleAll transfers).timestamp = books.timestamp := by
  rw [settleAll_eq]

@[simp]
theorem settleAll_merchants (books : Books) (transfers : List Transfer) :
    (books.settleAll transfers).merchants = books.merchants := by
  rw [settleAll_eq]

@[simp]
theorem settleAll_orders (books : Books) (transfers : List Transfer) :
    (books.settleAll transfers).orders = books.orders := by
  rw [settleAll_eq]

@[simp]
theorem settleAll_refunds (books : Books) (transfers : List Transfer) :
    (books.settleAll transfers).refunds = books.refunds := by
  rw [settleAll_eq]

@[simp]
theorem settleAll_disputes (books : Books) (transfers : List Transfer) :
    (books.settleAll transfers).disputes = books.disputes := by
  rw [settleAll_eq]

@[simp]
theorem settleAll_multisigs (books : Books) (transfers : List Transfer) :
    (books.settleAll transfers).multisigs = books.multisigs := by
  rw [settleAll_eq]

@[simp]
theorem settleAll_requests (books : Books) (transfers : List Transfer) :
    (books.settleAll transfers).requests = books.requests := by
  rw [settleAll_eq]

@[simp]
theorem settleAll_subscriptions (books : Books) (transfers : List Transfer) :
    (books.settleAll transfers).subscriptions = books.subscriptions := by
  rw [settleAll_eq]

@[simp]
theorem settleAll_escrows (books : Books) (transfers : List Transfer) :
    (books.settleAll transfers).escrows = books.escrows := by
  rw [settleAll_eq]

@[simp]
theorem settleAll_holds (books : Books) (transfers : List Transfer) :
    (books.settleAll transfers).holds = books.holds := by
  rw [settleAll_eq]

end Books

/-- A payment as it is first stored. -/
structure PaymentOrder.IsNew (order : PaymentOrder) (now : Nat) : Prop where
  version : order.version = 0
  status : order.status = .completed
  refundedAmount : order.refundedAmount = 0
  paidAt : order.paidAt = now

/-- The movement is neither a refund nor part of an escrow. -/
def Cause.IsCharge : Cause → Prop
  | .payment _ | .platformFee _ | .batchGroup | .multisig _ | .request _ | .subscription _ => True
  | _ => False

/-- Who pays whom what under an order identifier. -/
structure PaymentTerms where
  orderId : Text
  merchantAddress : Address
  payer : Address
  token : Address
  amount : Int
  deriving DecidableEq

def PaymentOrder.terms (order : PaymentOrder) : PaymentTerms :=
  ⟨order.orderId, order.merchantAddress, order.payer, order.token, order.amount⟩

def BatchPaymentItem.terms (payer : Address) (item : BatchPaymentItem) : PaymentTerms :=
  ⟨item.orderId, item.merchantAddress, payer, item.tokenAddress, item.amount⟩

def PaymentCall.terms : PaymentCall → List PaymentTerms
  | .processPaymentWithSignature payer orderId merchantAddress tokenAddress amount .. =>
      [⟨orderId, merchantAddress, payer, tokenAddress, amount⟩]
  | .processPaymentWithNonce payer orderId merchantAddress tokenAddress amount .. =>
      [⟨orderId, merchantAddress, payer, tokenAddress, amount⟩]
  | .batchPayment payer payments => payments.map (BatchPaymentItem.terms payer)
  | _ => []

/-- The identifiers of the payments that the call would store. -/
def Call.orderIds : Call → List Text
  | .payment call => call.terms.map PaymentTerms.orderId
  | .multisig (.executeMultisigPayment _ paymentId) => [paymentId]
  | .multisig (.payPaymentRequest _ requestId) => [requestId]
  | _ => []

/-- The payment after an amount was refunded. -/
def PaymentOrder.refundBy (payment : PaymentOrder) (amount : Int) (version : Nat) :
    PaymentOrder :=
  { payment with
    refundedAmount := payment.refundedAmount + amount
    version := version
    status := Contract.refundStatus (payment.refundedAmount + amount) payment.amount }

/-- The payout of a refund. -/
def RefundRecord.payout (refund : RefundRecord) (payment : PaymentOrder) : Transfer where
  cause := .refund refund.refundId refund.orderId
  token := payment.token
  sender := payment.merchantAddress
  recipient := payment.payer
  amount := refund.amount

/-- Pay a refund out: the payment and the refund are written, then the tokens move. -/
@[simps!]
def Books.payOut (books : Books) (refund : RefundRecord) (payment : PaymentOrder)
    (version : Nat) : Books :=
  { books with
    orders := books.orders.put (payment.refundBy refund.amount version)
    refunds := books.refunds.put { refund with status := .completed }
    }.settle (refund.payout payment)

/-- The payment that a multisig payment becomes. -/
def MultisigPayment.order (multisig : MultisigPayment) (payer : Address) (now : Nat) :
    PaymentOrder where
  orderId := multisig.paymentId
  merchantAddress := multisig.merchantAddress
  payer := payer
  token := multisig.token
  amount := multisig.amount
  version := 0
  status := .completed
  paidAt := now
  refundedAmount := 0
  memo := []
  tags := none
  platformFee := 0

/-- The payment that a payment request becomes. -/
def PaymentRequest.order (request : PaymentRequest) (payer : Address) (now : Nat) :
    PaymentOrder where
  orderId := request.requestId
  merchantAddress := request.merchant
  payer := payer
  token := request.token
  amount := request.amount
  version := 0
  status := .completed
  paidAt := now
  refundedAmount := 0
  memo := request.memo
  tags := none
  platformFee := 0

theorem MultisigPayment.order_isNew (multisig : MultisigPayment) (payer : Address) (now : Nat) :
    (multisig.order payer now).IsNew now :=
  ⟨rfl, rfl, rfl, rfl⟩

theorem PaymentRequest.order_isNew (request : PaymentRequest) (payer : Address) (now : Nat) :
    (request.order payer now).IsNew now :=
  ⟨rfl, rfl, rfl, rfl⟩

/-- The terms of the payments that a call would store. -/
def Call.terms (books : Books) : Call → List PaymentTerms
  | .payment call => call.terms
  | .multisig (.executeMultisigPayment payer paymentId) =>
      ((books.multisigs.get paymentId).map fun multisig =>
        (multisig.order payer books.timestamp).terms).toList
  | .multisig (.payPaymentRequest payer requestId) =>
      ((books.requests.get requestId).map fun request =>
        (request.order payer books.timestamp).terms).toList
  | _ => []

/-- A merchant has a profile under the address. -/
def Books.Registered (books : Books) (address : Address) : Prop :=
  ∃ profile, books.merchants.get address = some profile

/-- Whether the merchant under an address is active, if there is one. -/
def standing (merchants : Table Merchant.address) (address : Address) : Option Bool :=
  (merchants.get address).map Merchant.active

theorem standing_put (merchants : Table Merchant.address) (profile : Merchant)
    (address : Address) :
    standing (merchants.put profile) address =
      if address = profile.address then some profile.active else standing merchants address :=
  Table.map_get_put Merchant.active merchants profile address

theorem standing_putAll {merchants : Table Merchant.address} {profiles : List Merchant}
    (known : ∀ profile ∈ profiles, standing merchants profile.address = some profile.active)
    (address : Address) :
    standing (merchants.putAll profiles) address = standing merchants address := by
  induction profiles generalizing merchants with
  | nil => rfl
  | cons head rest inductionHypothesis =>
      obtain ⟨first, others⟩ := List.forall_mem_cons.mp known
      have same : ∀ other, standing (merchants.put head) other = standing merchants other := by
        intro other
        rw [standing_put]
        split
        · next here => rw [here, first]
        · rfl
      rw [Table.putAll_cons, inductionHypothesis, same]
      intro profile membership
      rw [same]
      exact others profile membership

theorem Books.registered_of_standing {books : Books} {address : Address} {active : Bool}
    (known : standing books.merchants address = some active) : books.Registered address := by
  obtain ⟨profile, found, _⟩ := Option.map_eq_some_iff.mp known
  exact ⟨profile, found⟩

/-- Two multisig payments are about the same payment. -/
structure MultisigPayment.SameTerms (first second : MultisigPayment) : Prop where
  merchantAddress : first.merchantAddress = second.merchantAddress
  token : first.token = second.token
  amount : first.amount = second.amount

/-- Whether and how an escrow may be settled: for the merchant from the unlock
time on, for the payer with its authorisation before that. -/
inductive EscrowRecord.Due (env : Env) (now : Nat) (escrow : EscrowRecord) :
    EscrowCall → EscrowStatus → Address → Prop where
  | release (late : escrow.unlockAt ≤ now) :
      escrow.Due env now (.releaseEscrow escrow.orderId) .released escrow.merchant
  | cancel (early : now < escrow.unlockAt) (authorised : env.Authorised escrow.payer) :
      escrow.Due env now (.cancelEscrowBeforeLock escrow.payer escrow.orderId) .cancelled
        escrow.payer

/-- Whether and how a hold may be settled: for the merchant by its arbiter or
from the timeout on, for the payer with its authorisation before that. -/
inductive EscrowHold.Due (env : Env) (now : Nat) (hold : EscrowHold) :
    EscrowCall → EscrowHoldStatus → Address → Prop where
  | release (caller : Address) (authorised : env.Authorised caller)
      (entitled : caller = hold.arbiter ∨ hold.timeoutAt ≤ now) :
      hold.Due env now (.escrowRelease caller hold.escrowId) .released hold.merchant
  | cancel (early : now < hold.timeoutAt) (authorised : env.Authorised hold.payer) :
      hold.Due env now (.escrowCancel hold.payer hold.escrowId) .cancelled hold.payer

/-- The changes of the books that a committed call can make. -/
inductive Effect (env : Env) (books : Books) : Call → Books → Prop where
  | quiet (call : Call) (silent : call.orderIds = []) : Effect env books call books
  | profiles (call : MerchantCall) (profiles : List Merchant)
      (known : ∀ profile ∈ profiles,
        env.Authorised profile.address ∨ books.Registered profile.address) :
      Effect env books (.merchant call)
        { books with merchants := books.merchants.putAll profiles }
  | paid (call : PaymentCall) (orders : List PaymentOrder) (profiles : List Merchant)
      (transfers : List Transfer)
      (listed : orders.map PaymentOrder.terms = call.terms)
      (distinct : (orders.map PaymentOrder.orderId).Nodup)
      (fresh : ∀ order ∈ orders, books.orders.get order.orderId = none)
      (opened : ∀ order ∈ orders,
        order.IsNew books.timestamp ∧ 0 < order.amount ∧ books.Registered order.merchantAddress)
      (known : ∀ profile ∈ profiles, books.Registered profile.address)
      (charged : ∀ transfer ∈ transfers,
        env.Authorised transfer.sender ∧ transfer.cause.IsCharge ∧ 0 ≤ transfer.amount) :
      Effect env books (.payment call)
        { books.settleAll transfers with
          orders := books.orders.putAll orders
          merchants := books.merchants.putAll profiles }
  | statusUpdated (caller : Address) (orderId : Text) (refundedAmount : Int)
      (expectedVersion : Option Nat) (payment : PaymentOrder)
      (stored : books.orders.get orderId = some payment) (authorised : env.Authorised caller) :
      Effect env books
        (.payment (.updatePaymentStatus caller orderId refundedAmount expectedVersion))
        { books with
          orders := books.orders.put { payment with
            refundedAmount
            version := min u32Max (payment.version + 1)
            status := Contract.refundStatus refundedAmount payment.amount } }
  | archived (admin : Address) (orderId : Text) :
      Effect env books (.payment (.archivePaymentRecord admin orderId))
        { books with orders := books.orders.erase orderId }
  | paymentsCleaned (admin : Address) (batchSize : Option Nat)
      (orders : Table PaymentOrder.orderId) (refunds : Table RefundRecord.refundId)
      (ordersSub : orders.Sub books.orders) (refundsSub : refunds.Sub books.refunds) :
      Effect env books (.payment (.cleanupExpiredPayments admin batchSize))
        { books with orders, refunds }
  | refundOpened (caller : Address) (refundId orderId : Text) (amount : Int) (reason : Text)
      (payment : PaymentOrder) (free : books.refunds.get refundId = none)
      (stored : books.orders.get orderId = some payment) (positive : 0 < amount)
      (bounded : payment.refundedAmount + amount ≤ payment.amount)
      (authorised : env.Authorised caller) :
      Effect env books (.refund (.initiateRefund caller refundId orderId amount reason))
        { books with
          refunds := books.refunds.put
            ⟨refundId, orderId, caller, amount, reason, .pending, books.timestamp⟩ }
  | refundDecided (call : RefundCall) (refund : RefundRecord) (status : RefundStatus)
      (stored : books.refunds.get refund.refundId = some refund)
      (pending : refund.status = .pending) (decision : status = .approved ∨ status = .rejected) :
      Effect env books (.refund call)
        { books with refunds := books.refunds.put { refund with status } }
  | refundExecuted (refund : RefundRecord) (payment : PaymentOrder)
      (stored : books.refunds.get refund.refundId = some refund)
      (approved : refund.status = .approved)
      (order : books.orders.get refund.orderId = some payment)
      (authorised : env.Authorised payment.merchantAddress) :
      Effect env books (.refund (.executeRefund refund.refundId))
        (books.payOut refund payment (payment.version + 1))
  | refundForced (admin : Address) (resolution : Text) (dispute : DisputeRecord)
      (refund : RefundRecord) (payment : PaymentOrder)
      (raised : books.disputes.get dispute.disputeId = some dispute)
      (unresolved : dispute.status ≠ .resolved)
      (stored : books.refunds.get dispute.refundId = some refund)
      (order : books.orders.get refund.orderId = some payment) :
      Effect env books (.refund (.resolveDispute admin dispute.disputeId resolution true))
        { books.payOut refund payment payment.version with
          disputes := books.disputes.put { dispute with
            status := .resolved
            outcome := some .payerFavor
            resolution := some resolution } }
  | refundsCleaned (admin : Address) (refunds : Table RefundRecord.refundId)
      (sub : refunds.Sub books.refunds) :
      Effect env books (.refund (.cleanupExpiredRefunds admin)) { books with refunds }
  | disputeWritten (call : RefundCall) (dispute : DisputeRecord)
      (kept : ∀ old, books.disputes.get dispute.disputeId = some old →
        old.status ≠ .resolved ∧ dispute.refundId = old.refundId ∧ dispute.orderId = old.orderId) :
      Effect env books (.refund call)
        { books with disputes := books.disputes.put dispute }
  | multisigOpened (call : MultisigCall) (multisig : MultisigPayment)
      (free : books.multisigs.get multisig.paymentId = none) (positive : 0 < multisig.amount)
      (registered : books.Registered multisig.merchantAddress)
      (silent : (Call.multisig call).orderIds = []) :
      Effect env books (.multisig call)
        { books with multisigs := books.multisigs.put multisig }
  | multisigChanged (call : MultisigCall) (old multisig : MultisigPayment)
      (stored : books.multisigs.get multisig.paymentId = some old)
      (same : multisig.SameTerms old) (silent : (Call.multisig call).orderIds = []) :
      Effect env books (.multisig call)
        { books with multisigs := books.multisigs.put multisig }
  | multisigPaid (payer : Address) (multisig : MultisigPayment)
      (stored : books.multisigs.get multisig.paymentId = some multisig)
      (pending : multisig.executed = false) (authorised : env.Authorised payer) :
      Effect env books (.multisig (.executeMultisigPayment payer multisig.paymentId))
        ({ books with
          multisigs := books.multisigs.put { multisig with executed := true }
          orders := books.orders.put (multisig.order payer books.timestamp)
          }.settle ⟨.multisig multisig.paymentId, multisig.token, payer,
            multisig.merchantAddress, multisig.amount⟩)
  | requestOpened (call : MultisigCall) (request : PaymentRequest)
      (positive : 0 < request.amount) (authorised : env.Authorised request.merchant)
      (silent : (Call.multisig call).orderIds = []) :
      Effect env books (.multisig call)
        { books with requests := books.requests.put request }
  | requestPaid (payer : Address) (request : PaymentRequest)
      (stored : books.requests.get request.requestId = some request)
      (fresh : books.orders.get request.requestId = none) (authorised : env.Authorised payer) :
      Effect env books (.multisig (.payPaymentRequest payer request.requestId))
        ({ books with
          orders := books.orders.put (request.order payer books.timestamp)
          requests := books.requests.erase request.requestId
          }.settle ⟨.request request.requestId, request.token, payer, request.merchant,
            request.amount⟩)
  | requestsDropped (call : MultisigCall) (requests : Table PaymentRequest.requestId)
      (sub : requests.Sub books.requests) (silent : (Call.multisig call).orderIds = []) :
      Effect env books (.multisig call) { books with requests }
  | subscribed (call : SubscriptionCall) (subscription : Subscription) (token : Address)
      (amount : Int) (authorised : env.Authorised subscription.subscriber) :
      Effect env books (.subscription call)
        ({ books with subscriptions := books.subscriptions.put subscription }.allow token
          subscription.subscriber env.host.self amount)
  | subscriptionEnded (call : SubscriptionCall) (old subscription : Subscription)
      (stored : books.subscriptions.get subscription.subscriptionId = some old)
      (same : subscription.subscriber = old.subscriber) :
      Effect env books (.subscription call)
        { books with subscriptions := books.subscriptions.put subscription }
  | allowanceRenewed (call : SubscriptionCall) (token owner : Address) (amount : Int)
      (authorised : env.Authorised owner) :
      Effect env books (.subscription call) (books.allow token owner env.host.self amount)
  | charged (call : SubscriptionCall) (old subscription : Subscription) (token : Address)
      (amount allowance : Int)
      (stored : books.subscriptions.get subscription.subscriptionId = some old)
      (same : subscription.subscriber = old.subscriber) (nonneg : 0 ≤ amount) :
      Effect env books (.subscription call)
        (({ books with subscriptions := books.subscriptions.put subscription }.settle
          ⟨.subscription subscription.subscriptionId, token, subscription.subscriber,
            subscription.merchant, amount⟩).allow token subscription.subscriber env.host.self
              allowance)
  | escrowOpened (call : EscrowCall) (escrow : EscrowRecord)
      (free : books.escrows.get escrow.orderId = none) (positive : 0 < escrow.amount)
      (locked : escrow.status = .locked) (authorised : env.Authorised escrow.payer)
      (registered : books.Registered escrow.merchant) (future : books.timestamp < escrow.unlockAt)
      (validId : Contract.ValidId escrow.orderId) :
      Effect env books (.escrow call)
        ({ books with escrows := books.escrows.put escrow }.settle
          ⟨.escrowDeposit escrow.orderId, escrow.token, escrow.payer, env.host.self,
            escrow.amount⟩)
  | escrowSettled (call : EscrowCall) (escrow : EscrowRecord) (status : EscrowStatus)
      (recipient : Address) (stored : books.escrows.get escrow.orderId = some escrow)
      (locked : escrow.status = .locked)
      (due : escrow.Due env books.timestamp call status recipient)
      (covered : escrow.amount ≤ books.bank.balance escrow.token env.host.self) :
      Effect env books (.escrow call)
        ({ books with escrows := books.escrows.put { escrow with status } }.settle
          ⟨.escrowSettlement escrow.orderId, escrow.token, env.host.self, recipient,
            escrow.amount⟩)
  | holdOpened (call : EscrowCall) (hold : EscrowHold)
      (free : books.holds.get hold.escrowId = none) (positive : 0 < hold.amount)
      (held : hold.status = .held) (authorised : env.Authorised hold.payer)
      (registered : books.Registered hold.merchant) (future : books.timestamp < hold.timeoutAt)
      (validId : Contract.ValidId hold.escrowId) :
      Effect env books (.escrow call)
        ({ books with holds := books.holds.put hold }.settle
          ⟨.holdDeposit hold.escrowId, hold.token, hold.payer, env.host.self, hold.amount⟩)
  | holdSettled (call : EscrowCall) (hold : EscrowHold) (status : EscrowHoldStatus)
      (recipient : Address) (stored : books.holds.get hold.escrowId = some hold)
      (held : hold.status = .held) (due : hold.Due env books.timestamp call status recipient)
      (covered : hold.amount ≤ books.bank.balance hold.token env.host.self) :
      Effect env books (.escrow call)
        ({ books with holds := books.holds.put { hold with status } }.settle
          ⟨.holdSettlement hold.escrowId, hold.token, env.host.self, recipient, hold.amount⟩)

end LumenFlow

import LumenFlow.Model.Helper

/-!
# Payments

The single payments with a merchant signature and with a payer nonce, the batch
payment, and the functions that change or delete stored payments.
-/

namespace LumenFlow

open Kit

namespace Contract

def maxBatchSize : Nat := 10
def maxSerializedPayloadBytes : Nat := 4096

/-! ## Signed payloads -/

/-- The message that a single payment has to be signed with:
`network_id || contract_address || nonce || order_id || amount || timestamp`. -/
def signaturePayload (host : Host) (nonce : Nat) (orderId : Text) (amount : Int)
    (timestamp : Nat) : Bytes :=
  host.networkId ++ (scvAddress host.self ++ (Wire.bigEndian 8 nonce ++ (scvString orderId ++
    (Wire.bigEndianI128 amount ++ Wire.bigEndian 8 timestamp))))

/-- The message that an item of a batch has to be signed with:
`network_id || contract_address || order_id || amount`. -/
def batchPayload (host : Host) (orderId : Text) (amount : Int) : Bytes :=
  host.networkId ++ (scvAddress host.self ++ (scvString orderId ++ Wire.bigEndianI128 amount))

/-! ## Parts that the payment functions share -/

/-- Transfer the amount less the platform fee to the merchant and the fee to its
recipient, if there is one.  The result is the fee. -/
def transferWithFee (payer : Address) (orderId : Text) (merchantAddress token : Address)
    (amount : Int) : Contract Int := do
  let feeBps ← read (·.getPlatformFeeBps)
  let platformFee ←
    if 0 < feeBps then do
      let scaled ← mulI128 amount feeBps
      pure (scaled.tdiv 10000)
    else
      pure 0
  let merchantAmount ← subI128 amount platformFee
  tokenTransfer (.payment orderId) token payer merchantAddress merchantAmount
  let feeRecipient ← read (·.getFeeRecipient)
  Tx.when (0 < platformFee) (Tx.whenSome feeRecipient fun recipient =>
    tokenTransfer (.platformFee orderId) token payer recipient platformFee)
  return platformFee

/-- Add one payment to the statistics of a merchant. -/
def countMerchantPayment (merchantAddress : Address) (amount : Int) : Contract Unit := do
  let stats ← read (·.getMerchantStats merchantAddress)
  let totalPayments ← addU32 stats.totalPayments 1
  write (·.setMerchantStats merchantAddress
    { stats with totalPayments, totalVolume := saturatingAdd stats.totalVolume amount })

/-- Add one payment to the global statistics. -/
def countedPayment (stats : GlobalStats) (amount : Int) : Contract GlobalStats := do
  let totalPayments ← addU32 stats.totalPayments 1
  return { stats with totalPayments, totalVolume := saturatingAdd stats.totalVolume amount }

def countGlobalPayment (amount : Int) : Contract Unit := do
  let stats ← countedPayment (← read (·.getGlobalStats)) amount
  write (·.setGlobalStats stats)

/-- Store a payment and add it to the indexes of its merchant and its payer. -/
def recordPayment (payment : PaymentOrder) : Contract Unit := do
  write (·.setPayment payment)
  addMerchantPaymentId payment.merchantAddress payment.orderId
  addPayerPaymentId payment.payer payment.orderId

/-- The payment under a free identifier and the active merchant it is for. -/
def openOrder (orderId : Text) (merchantAddress : Address) : Contract Merchant := do
  let existing ← read (·.getPayment orderId)
  failIf (existing.isSome = true) .paymentAlreadyExists
  let merchant ← okOr (← read (·.getMerchant merchantAddress)) .merchantNotFound
  failIf (merchant.active = false) .merchantInactive
  return merchant

def requireTokenAllowed (token : Address) : Contract Unit := do
  let allowed ← read (·.isTokenAllowed token)
  failIf (allowed = false) .tokenNotAllowed

/-- Count a payment against the rate limit of the current window. -/
def consumeRateLimit (merchantAddress : Address) : Contract Unit := do
  let windowStart ← read (·.currentWindowStart)
  let currentCount ← read (·.getRateLimitCounter merchantAddress windowStart)
  let rateLimit ← read (·.getRateLimitPerWindow)
  failIf (rateLimit ≤ currentCount) .rateLimitExceeded
  incrementRateLimitCounter merchantAddress windowStart

/-! ## Single payments -/

def processPaymentWithSignature (payer : Address) (orderId : Text)
    (merchantAddress tokenAddress : Address) (amount : Int) (memo : Text)
    (tags : Option (List Text)) (nonce timestamp : Nat) (signature merchantPublicKey : Bytes) :
    Contract Unit := do
  requireNotPaused
  requireAuth payer
  requirePositive amount
  requireValidId orderId
  validateTags tags
  requireValidMemo memo
  requireTokenAllowed tokenAddress
  let merchant ← openOrder orderId merchantAddress
  let expectedNonce ← read fun world => saturatingAddU64 (world.getMerchantNonce merchantAddress) 1
  failIf (nonce ≠ expectedNonce) .invalidNonce
  let now ← Contract.timestamp
  let expiryWindow ← read (·.getSignatureExpiryWindow)
  failIf (timestamp < now - expiryWindow) .signatureExpired
  requireTokenAllowed tokenAddress
  let env ← Tx.ask
  verifySignature merchantPublicKey
    (signaturePayload env.host nonce orderId amount timestamp) signature
  write (·.incrementMerchantNonce merchantAddress)
  consumeRateLimit merchantAddress
  let platformFee ← transferWithFee payer orderId merchantAddress tokenAddress amount
  let merchantAmount ← subI128 amount platformFee
  recordPayment
    { orderId, merchantAddress, payer, token := tokenAddress, amount, version := 0
      status := .completed, paidAt := now, refundedAmount := 0, memo, tags, platformFee }
  let totalReceived ← addI128 merchant.totalReceived merchantAmount
  write (·.setMerchant { merchant with totalReceived })
  countMerchantPayment merchantAddress amount
  countGlobalPayment amount

def processPaymentWithNonce (payer : Address) (orderId : Text)
    (merchantAddress tokenAddress : Address) (amount : Int) (memo : Text)
    (tags : Option (List Text)) (nonce : Nat) : Contract Unit := do
  requireNotPaused
  requireAuth payer
  requirePositive amount
  requireValidId orderId
  validateTags tags
  requireValidMemo memo
  let expected ← read (·.getNonce payer)
  failIf (nonce ≠ expected) .invalidNonce
  requireTokenAllowed tokenAddress
  let merchant ← openOrder orderId merchantAddress
  write (·.incrementNonce payer)
  let platformFee ← transferWithFee payer orderId merchantAddress tokenAddress amount
  let now ← Contract.timestamp
  recordPayment
    { orderId, merchantAddress, payer, token := tokenAddress, amount, version := 0
      status := .completed, paidAt := now, refundedAmount := 0, memo, tags, platformFee }
  let totalReceived ← addI128 merchant.totalReceived amount
  write (·.setMerchant { merchant with totalReceived })
  countMerchantPayment merchantAddress amount
  countGlobalPayment amount

/-! ## Batch payment -/

/-- Phase 1 for one item, given the identifiers of the items before it. -/
def validateBatchItem (seenIds : List Text) (item : BatchPaymentItem) :
    Contract (List Text) := do
  requirePositive item.amount
  requireValidId item.orderId
  validateTags item.tags
  failIf (item.orderId ∈ seenIds) .duplicateOrderId
  requireTokenAllowed item.tokenAddress
  let _merchant ← openOrder item.orderId item.merchantAddress
  consumeRateLimit item.merchantAddress
  let env ← Tx.ask
  let payload := batchPayload env.host item.orderId item.amount
  failIf (maxSerializedPayloadBytes < payload.length) .serializedPayloadTooLarge
  verifySignature item.merchantPublicKey payload item.signature
  return seenIds ++ [item.orderId]

/-- The amount that a batch owes one merchant in one token. -/
structure PaymentGroup where
  token : Address
  merchant : Address
  total : Int
  deriving DecidableEq

/-- The group is the one that the item belongs to. -/
def PaymentGroup.Takes (group : PaymentGroup) (item : BatchPaymentItem) : Prop :=
  group.token = item.tokenAddress ∧ group.merchant = item.merchantAddress

instance (group : PaymentGroup) (item : BatchPaymentItem) : Decidable (group.Takes item) :=
  inferInstanceAs (Decidable (_ ∧ _))

/-- Phase 2 for one item. -/
def addToGroups (groups : List PaymentGroup) (item : BatchPaymentItem) :
    Contract (List PaymentGroup) := do
  let updated := groups.map fun group =>
    if group.Takes item then { group with total := group.total + item.amount } else group
  trapUnless (∀ group ∈ updated, InI128 group.total)
  return if ∃ group ∈ groups, group.Takes item then updated
    else updated ++ [⟨item.tokenAddress, item.merchantAddress, item.amount⟩]

/-- Phase 4 for one item. -/
def storeBatchItem (payer : Address) (now : Nat) (globalStats : GlobalStats)
    (item : BatchPaymentItem) : Contract GlobalStats := do
  recordPayment
    { orderId := item.orderId, merchantAddress := item.merchantAddress, payer
      token := item.tokenAddress, amount := item.amount, version := 0, status := .completed
      paidAt := now, refundedAmount := 0, memo := item.memo, tags := item.tags, platformFee := 0 }
  Tx.whenSome (← read (·.getMerchant item.merchantAddress)) fun merchant => do
    let totalReceived ← addI128 merchant.totalReceived item.amount
    write (·.setMerchant { merchant with totalReceived })
  countMerchantPayment item.merchantAddress item.amount
  countedPayment globalStats item.amount

def batchPayment (payer : Address) (payments : List BatchPaymentItem) : Contract Unit := do
  requireNotPaused
  requireAuth payer
  failIf (maxBatchSize < payments.length) .batchSizeExceeded
  let _seenIds ← Tx.fold validateBatchItem [] payments
  let groups ← Tx.fold addToGroups [] payments
  Tx.each (fun group => tokenTransfer .batchGroup group.token payer group.merchant group.total)
    groups
  let now ← Contract.timestamp
  let globalStats ← Tx.fold (storeBatchItem payer now) (← read (·.getGlobalStats)) payments
  write (·.setGlobalStats globalStats)

/-! ## Stored payments -/

/-- The status that the amounts of a payment ask for once something was refunded. -/
def refundStatus (refundedAmount amount : Int) : PaymentStatus :=
  if amount ≤ refundedAmount then .fullyRefunded else .partiallyRefunded

def updatePaymentStatus (caller : Address) (orderId : Text) (refundedAmount : Int)
    (expectedVersion : Option Nat) : Contract Unit := do
  requireNotPaused
  let payment ← okOr (← read (·.getPayment orderId)) .paymentNotFound
  requireAdminOr caller payment.merchantAddress
  failIf (∃ version ∈ expectedVersion, payment.version ≠ version) .versionMismatch
  write (·.setPayment { payment with
    refundedAmount
    version := min u32Max (payment.version + 1)
    status := refundStatus refundedAmount payment.amount })

def archivePaymentRecord (admin : Address) (orderId : Text) : Contract Unit := do
  requireNotPaused
  requireAdminRateLimited admin
  let payment ← read (·.getPayment orderId)
  failIf (payment.isNone = true) .paymentNotFound
  write (·.removePayment orderId)

/-- Delete a payment that is older than the cutoff, with its refunds. -/
def removeExpiredPayment (cutoff cleaned : Nat) (id : Text) : Contract Nat := do
  let payment ← read (·.getPayment id)
  if ∃ found ∈ payment, found.paidAt < cutoff then do
    let refundIds ← read (·.getOrderRefundIds id)
    Tx.each (fun refundId => write (·.removeRefund refundId)) refundIds
    write (·.removeOrderRefundIndex id)
    write (·.removePayment id)
    addU32 cleaned 1
  else
    pure cleaned

def cleanupExpiredPayments (admin : Address) (_batchSize : Option Nat) : Contract Nat := do
  requireNotPaused
  requireAdminRateLimited admin
  let cutoff ← read fun world => world.timestamp - world.getCleanupPeriod
  let merchantList ← read (·.getMerchantList)
  Tx.fold (fun cleaned merchant => do
    let ids ← read (·.getMerchantPaymentIds merchant)
    Tx.fold (removeExpiredPayment cutoff) cleaned ids) 0 merchantList

end Contract

end LumenFlow

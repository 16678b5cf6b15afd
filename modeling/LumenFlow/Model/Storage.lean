import LumenFlow.Model.World

/-!
# Storage accessors

The readers and writers of `storage.rs`.  A reader gives the default that the
contract uses for an absent entry.  Writers that can fail or overflow are
functions of the contract, the others are updates of the world.
-/

namespace LumenFlow

open Kit

def minRefundAmountDefault : Int := 100
def maxPaymentIdsPerAccount : Nat := 10000
def defaultPlatformFeeBps : Nat := 0
def maxPlatformFeeBps : Nat := 10000
def defaultLargePaymentThreshold : Int := 10000000
def defaultRefundWindowSecs : Nat := 30 * 24 * 3600
def minRefundWindowSecs : Nat := 3600
def defaultRefundRetentionSecs : Nat := 90 * 24 * 3600
def defaultCleanupPeriodSecs : Nat := 30 * 24 * 3600
def currentStorageVersion : Nat := 1
def defaultMultisigExpiry : Nat := 7 * 24 * 3600
def defaultMaxMultisigSigners : Nat := 10
def defaultRateLimitPerWindow : Nat := 100
def rateLimitWindowLedgers : Nat := 300
def authMaxFailures : Nat := 10
def authFailureWindowLedgers : Nat := 100
def authLockoutLedgers : Nat := 1000
def commitmentTtlLedgers : Nat := 100
def defaultAdminAuditMaxEntries : Nat := 10000
def defaultSignatureExpiryWindowSecs : Nat := 5 * 60

namespace World

/-! ## Administration -/

@[simp]
abbrev getAdmin (world : World) : Option Address := world.gov.admin

@[simp]
abbrev setAdmin (world : World) (admin : Address) : World :=
  world.updateGov ({ · with admin := some admin })

@[simp]
abbrev getPaused (world : World) : Bool := world.gov.paused

@[simp]
abbrev setPaused (world : World) (paused : Bool) : World :=
  world.updateGov ({ · with paused })

@[simp]
abbrev setPauseReason (world : World) (reason : Text) : World :=
  world.updateGov ({ · with pauseReason := some reason })

@[simp]
abbrev clearPauseReason (world : World) : World :=
  world.updateGov ({ · with pauseReason := none })

@[simp]
abbrev getUnpauseLockUntil (world : World) : Option Nat := world.gov.unpauseLockUntil

@[simp]
abbrev setUnpauseLockUntil (world : World) (timestamp : Nat) : World :=
  world.updateGov ({ · with unpauseLockUntil := some timestamp })

@[simp]
abbrev clearUnpauseLockUntil (world : World) : World :=
  world.updateGov ({ · with unpauseLockUntil := none })

@[simp]
abbrev getPauseGuardians (world : World) : List Address := world.gov.pauseGuardians

@[simp]
abbrev setPauseGuardians (world : World) (guardians : List Address) : World :=
  world.updateGov ({ · with pauseGuardians := guardians })

@[simp]
abbrev getEarlyUnpauseApprovals (world : World) : List Address := world.gov.earlyUnpauseApprovals

@[simp]
abbrev setEarlyUnpauseApprovals (world : World) (approvals : List Address) : World :=
  world.updateGov ({ · with earlyUnpauseApprovals := approvals })

@[simp]
abbrev clearEarlyUnpauseApprovals (world : World) : World :=
  world.updateGov ({ · with earlyUnpauseApprovals := [] })

@[simp]
abbrev getAuthFailCount (world : World) (address : Address) : Nat × Nat :=
  world.gov.authFailCount address

@[simp]
abbrev setAuthFailCount (world : World) (address : Address) (count windowStart : Nat) : World :=
  world.updateGov fun gov =>
    { gov with authFailCount := Function.update gov.authFailCount address (count, windowStart) }

@[simp]
abbrev clearAuthFailCount (world : World) (address : Address) : World :=
  world.setAuthFailCount address 0 0

@[simp]
abbrev getAuthLockoutUntil (world : World) (address : Address) : Nat :=
  world.gov.authLockoutUntil address

@[simp]
abbrev setAuthLockoutUntil (world : World) (address : Address) (ledger : Nat) : World :=
  world.updateGov fun gov =>
    { gov with authLockoutUntil := Function.update gov.authLockoutUntil address ledger }

@[simp]
abbrev clearAuthLockout (world : World) (address : Address) : World :=
  world.updateGov fun gov =>
    { gov with
      authLockoutUntil := Function.update gov.authLockoutUntil address 0
      authFailCount := Function.update gov.authFailCount address (0, 0) }

def isAuthLockedOut (world : World) (address : Address) : Bool :=
  let limit := world.getAuthLockoutUntil address
  decide (0 < limit ∧ world.sequence < limit)

@[simp]
abbrev getAdminAuditCount (world : World) : Nat := world.gov.auditCount

@[simp]
abbrev getAdminAuditMaxEntries (world : World) : Nat :=
  world.gov.auditMaxEntries.getD defaultAdminAuditMaxEntries

@[simp]
abbrev getAdminAuditEntry (world : World) (index : Nat) : Option AdminAuditEntry :=
  world.gov.auditEntries index

/-- Entries from newest to oldest, until the limit is reached or an entry is
older than the range. -/
def queryAdminAuditLog (world : World) (fromLedger toLedger : Nat) :
    Nat → Nat → List AdminAuditEntry
  | 0, _ => []
  | _ + 1, 0 => []
  | index + 1, limit + 1 =>
      match world.getAdminAuditEntry index with
      | none => queryAdminAuditLog world fromLedger toLedger index (limit + 1)
      | some entry =>
          if entry.ledgerSequence < fromLedger then
            []
          else if entry.ledgerSequence ≤ toLedger then
            entry :: queryAdminAuditLog world fromLedger toLedger index limit
          else
            queryAdminAuditLog world fromLedger toLedger index (limit + 1)

@[simp]
abbrev getStoredVersion (world : World) : Option Text := world.gov.storedVersion

@[simp]
abbrev setStoredVersion (world : World) (version : Text) : World :=
  world.updateGov ({ · with storedVersion := some version })

@[simp]
abbrev getStorageVersion (world : World) : Nat := world.gov.storageVersion

@[simp]
abbrev setStorageVersion (world : World) (version : Nat) : World :=
  world.updateGov ({ · with storageVersion := version })

/-! ## Settings -/

@[simp]
abbrev getCleanupPeriod (world : World) : Nat :=
  world.config.cleanupPeriod.getD defaultCleanupPeriodSecs

@[simp]
abbrev setCleanupPeriod (world : World) (period : Nat) : World :=
  world.updateConfig ({ · with cleanupPeriod := some period })

@[simp]
abbrev getPlatformFeeBps (world : World) : Nat :=
  world.config.platformFeeBps.getD defaultPlatformFeeBps

@[simp]
abbrev setPlatformFeeBps (world : World) (feeBps : Nat) : World :=
  world.updateConfig ({ · with platformFeeBps := some feeBps })

@[simp]
abbrev getFeeRecipient (world : World) : Option Address := world.config.feeRecipient

@[simp]
abbrev setFeeRecipient (world : World) (recipient : Address) : World :=
  world.updateConfig ({ · with feeRecipient := some recipient })

@[simp]
abbrev getRefundWindow (world : World) : Nat :=
  world.config.refundWindow.getD defaultRefundWindowSecs

@[simp]
abbrev setRefundWindow (world : World) (windowSecs : Nat) : World :=
  world.updateConfig ({ · with refundWindow := some windowSecs })

@[simp]
abbrev getRefundRetentionPeriod (world : World) : Nat :=
  world.config.refundRetentionPeriod.getD defaultRefundRetentionSecs

@[simp]
abbrev setRefundRetentionPeriod (world : World) (period : Nat) : World :=
  world.updateConfig ({ · with refundRetentionPeriod := some period })

@[simp]
abbrev getLargePaymentThreshold (world : World) : Int :=
  world.config.largePaymentThreshold.getD defaultLargePaymentThreshold

@[simp]
abbrev setLargePaymentThreshold (world : World) (threshold : Int) : World :=
  world.updateConfig ({ · with largePaymentThreshold := some threshold })

@[simp]
abbrev getMinRefundAmount (world : World) : Int :=
  world.config.minRefundAmount.getD minRefundAmountDefault

@[simp]
abbrev setMinRefundAmount (world : World) (amount : Int) : World :=
  world.updateConfig ({ · with minRefundAmount := some amount })

@[simp]
abbrev getMultisigExpiryDuration (world : World) : Nat :=
  world.config.multisigExpiryDuration.getD defaultMultisigExpiry

@[simp]
abbrev setMultisigExpiryDuration (world : World) (duration : Nat) : World :=
  world.updateConfig ({ · with multisigExpiryDuration := some duration })

@[simp]
abbrev getMaxMultisigSigners (world : World) : Nat :=
  world.config.maxMultisigSigners.getD defaultMaxMultisigSigners

@[simp]
abbrev setMaxMultisigSigners (world : World) (limit : Nat) : World :=
  world.updateConfig ({ · with maxMultisigSigners := some limit })

@[simp]
abbrev getRateLimitPerWindow (world : World) : Nat :=
  world.config.rateLimitPerWindow.getD defaultRateLimitPerWindow

@[simp]
abbrev setRateLimitPerWindow (world : World) (limit : Nat) : World :=
  world.updateConfig ({ · with rateLimitPerWindow := some limit })

/-- The function writes the key of the refund window. -/
@[simp]
abbrev setPaymentRateWindow (world : World) (windowSecs : Nat) : World :=
  world.setRefundWindow windowSecs

@[simp]
abbrev getSignatureExpiryWindow (world : World) : Nat :=
  world.config.signatureExpiryWindow.getD defaultSignatureExpiryWindowSecs

@[simp]
abbrev setSignatureExpiryWindow (world : World) (windowSecs : Nat) : World :=
  world.updateConfig ({ · with signatureExpiryWindow := some windowSecs })

@[simp]
abbrev isTokenAllowed (world : World) (token : Address) : Bool := world.config.allowedTokens token

@[simp]
abbrev setTokenAllowed (world : World) (token : Address) (allowed : Bool) : World :=
  world.updateConfig fun config =>
    { config with allowedTokens := Function.update config.allowedTokens token allowed }

@[simp]
abbrev isIssuerAllowed (world : World) (issuer : Address) : Bool :=
  world.config.allowedIssuers issuer

@[simp]
abbrev setIssuerAllowed (world : World) (issuer : Address) (allowed : Bool) : World :=
  world.updateConfig fun config =>
    { config with allowedIssuers := Function.update config.allowedIssuers issuer allowed }

/-! ## Merchants and statistics -/

@[simp]
abbrev getMerchant (world : World) (address : Address) : Option Merchant :=
  world.merchants.records.get address

@[simp]
abbrev setMerchant (world : World) (merchant : Merchant) : World :=
  world.updateMerchants fun book => { book with records := book.records.put merchant }

@[simp]
abbrev getMerchantList (world : World) : List Address := world.merchants.list

@[simp]
abbrev addToMerchantList (world : World) (address : Address) : World :=
  world.updateMerchants fun book => { book with list := book.list ++ [address] }

@[simp]
abbrev getMerchantCommitment (world : World) (address : Address) : Option MerchantCommitment :=
  world.merchants.commitments.get address

@[simp]
abbrev setMerchantCommitment (world : World) (commitment : MerchantCommitment) : World :=
  world.updateMerchants fun book => { book with commitments := book.commitments.put commitment }

@[simp]
abbrev removeMerchantCommitment (world : World) (address : Address) : World :=
  world.updateMerchants fun book => { book with commitments := book.commitments.erase address }

@[simp]
abbrev getGlobalStats (world : World) : GlobalStats := world.stats.global

@[simp]
abbrev setGlobalStats (world : World) (stats : GlobalStats) : World :=
  world.updateStats ({ · with global := stats })

@[simp]
abbrev getMerchantStats (world : World) (merchant : Address) : MerchantStats :=
  world.stats.merchant merchant

@[simp]
abbrev setMerchantStats (world : World) (merchant : Address) (stats : MerchantStats) : World :=
  world.updateStats fun book =>
    { book with merchant := Function.update book.merchant merchant stats }

/-! ## Payments -/

@[simp]
abbrev getPayment (world : World) (orderId : Text) : Option PaymentOrder :=
  world.payments.orders.get orderId

@[simp]
abbrev setPayment (world : World) (payment : PaymentOrder) : World :=
  world.updatePayments fun book => { book with orders := book.orders.put payment }

@[simp]
abbrev removePayment (world : World) (orderId : Text) : World :=
  world.updatePayments fun book => { book with orders := book.orders.erase orderId }

@[simp]
abbrev getMerchantPaymentIds (world : World) (merchant : Address) : List Text :=
  world.payments.merchantIds merchant

@[simp]
abbrev getPayerPaymentIds (world : World) (payer : Address) : List Text :=
  world.payments.payerIds payer

@[simp]
abbrev getNonce (world : World) (payer : Address) : Nat := world.payments.nonces payer

@[simp]
abbrev incrementNonce (world : World) (payer : Address) : World :=
  world.updatePayments fun book =>
    { book with
      nonces := Function.update book.nonces payer (saturatingAddU64 (book.nonces payer) 1) }

@[simp]
abbrev getMerchantNonce (world : World) (merchant : Address) : Nat :=
  world.payments.merchantNonces merchant

@[simp]
abbrev incrementMerchantNonce (world : World) (merchant : Address) : World :=
  world.updatePayments fun book =>
    { book with
      merchantNonces := Function.update book.merchantNonces merchant
        (saturatingAddU64 (book.merchantNonces merchant) 1) }

/-- The ledger at which the current rate-limit window starts. -/
def currentWindowStart (world : World) : Nat :=
  world.sequence / rateLimitWindowLedgers * rateLimitWindowLedgers

@[simp]
abbrev getRateLimitCounter (world : World) (merchant : Address) (windowStart : Nat) : Nat :=
  world.payments.rateLimitCounters merchant windowStart

/-! ## Refunds, disputes and multisig payments -/

@[simp]
abbrev getRefund (world : World) (refundId : Text) : Option RefundRecord :=
  world.refunds.records.get refundId

@[simp]
abbrev setRefund (world : World) (refund : RefundRecord) : World :=
  world.updateRefunds fun book => { book with records := book.records.put refund }

@[simp]
abbrev removeRefund (world : World) (refundId : Text) : World :=
  world.updateRefunds fun book => { book with records := book.records.erase refundId }

@[simp]
abbrev getOrderRefundIds (world : World) (orderId : Text) : List Text :=
  world.refunds.orderRefundIds orderId

@[simp]
abbrev addOrderRefundId (world : World) (orderId refundId : Text) : World :=
  world.updateRefunds fun book =>
    { book with
      orderRefundIds := Function.update book.orderRefundIds orderId
        (book.orderRefundIds orderId ++ [refundId]) }

@[simp]
abbrev removeOrderRefundIndex (world : World) (orderId : Text) : World :=
  world.updateRefunds fun book =>
    { book with orderRefundIds := Function.update book.orderRefundIds orderId [] }

@[simp]
abbrev getDispute (world : World) (disputeId : Text) : Option DisputeRecord :=
  world.disputes.get disputeId

@[simp]
abbrev setDispute (world : World) (dispute : DisputeRecord) : World :=
  world.updateDisputes (·.put dispute)

@[simp]
abbrev getMultisig (world : World) (paymentId : Text) : Option MultisigPayment :=
  world.multisigs.get paymentId

@[simp]
abbrev setMultisig (world : World) (multisig : MultisigPayment) : World :=
  world.updateMultisigs (·.put multisig)

/-! ## Payment requests -/

@[simp]
abbrev getPaymentRequest (world : World) (requestId : Text) : Option PaymentRequest :=
  world.requests.records.get requestId

@[simp]
abbrev getPaymentRequestIds (world : World) : List Text := world.requests.ids

def setPaymentRequest (world : World) (request : PaymentRequest) : World :=
  world.updateRequests fun book =>
    { records := book.records.put request
      ids := if request.requestId ∈ book.ids then book.ids else book.ids ++ [request.requestId] }

def removePaymentRequest (world : World) (requestId : Text) : World :=
  world.updateRequests fun book =>
    { records := book.records.erase requestId
      ids := book.ids.filter (· ≠ requestId) }

/-! ## Subscriptions -/

@[simp]
abbrev getSubscriptionPlan (world : World) (planId : Text) : Option SubscriptionPlan :=
  world.subscriptions.plans.get planId

@[simp]
abbrev setSubscriptionPlan (world : World) (plan : SubscriptionPlan) : World :=
  world.updateSubscriptions fun book => { book with plans := book.plans.put plan }

@[simp]
abbrev getSubscription (world : World) (subscriptionId : Text) : Option Subscription :=
  world.subscriptions.records.get subscriptionId

@[simp]
abbrev setSubscription (world : World) (subscription : Subscription) : World :=
  world.updateSubscriptions fun book => { book with records := book.records.put subscription }

@[simp]
abbrev getSubscriptionReserve (world : World) (subscriber token : Address) : Int :=
  world.subscriptions.reserves subscriber token

/-- A reserve that is not positive is removed, and reads as zero. -/
@[simp]
abbrev setSubscriptionReserve (world : World) (subscriber token : Address) (amount : Int) : World :=
  world.updateSubscriptions fun book =>
    { book with
      reserves := Function.update book.reserves subscriber
        (Function.update (book.reserves subscriber) token (max 0 amount)) }

/-! ## Escrows -/

@[simp]
abbrev getEscrow (world : World) (orderId : Text) : Option EscrowRecord :=
  world.escrows.records.get orderId

@[simp]
abbrev setEscrow (world : World) (escrow : EscrowRecord) : World :=
  world.updateEscrows fun book => { book with records := book.records.put escrow }

@[simp]
abbrev getEscrowHold (world : World) (escrowId : Text) : Option EscrowHold :=
  world.escrows.holds.get escrowId

@[simp]
abbrev setEscrowHold (world : World) (hold : EscrowHold) : World :=
  world.updateEscrows fun book => { book with holds := book.holds.put hold }

/-! ## Migration of the verbose keys -/

/-- An entry under its old key replaces the entry under the new one. -/
def migrated {Value : Type} (old new : Option Value) : Option Value :=
  old.orElse fun _ => new

def migrateStorageKeys (world : World) : World :=
  let legacy := world.config.legacy
  ((world.updateMerchants fun book =>
      { book with list := legacy.merchantList.getD book.list }).updateGov fun gov =>
      { gov with storedVersion := migrated legacy.storedVersion gov.storedVersion }).updateConfig
    fun config =>
      { config with
        cleanupPeriod := migrated legacy.cleanupPeriod config.cleanupPeriod
        platformFeeBps := migrated legacy.platformFeeBps config.platformFeeBps
        refundWindow := migrated legacy.refundWindow config.refundWindow
        largePaymentThreshold := migrated legacy.largePaymentThreshold config.largePaymentThreshold
        minRefundAmount := migrated legacy.minRefundAmount config.minRefundAmount
        multisigExpiryDuration :=
          migrated legacy.multisigExpiryDuration config.multisigExpiryDuration
        feeRecipient := migrated legacy.feeRecipient config.feeRecipient
        legacy := ⟨none, none, none, none, none, none, none, none, none⟩ }

end World

/-! ## Writers that can fail -/

namespace Contract

/-- `append_admin_audit_entry` -/
def appendAdminAuditEntry (entry : AdminAuditEntry) : Contract Unit := do
  let limit ← read (·.getAdminAuditMaxEntries)
  let count ← read (·.getAdminAuditCount)
  Tx.when (limit ≤ count) (write (·.updateGov fun gov =>
    { gov with auditEntries := Function.update gov.auditEntries (count - limit) none }))
  write (·.updateGov fun gov =>
    { gov with auditEntries := Function.update gov.auditEntries entry.index (some entry) })
  let next ← addU32 count 1
  write (·.updateGov ({ · with auditCount := next }))

/-- `record_auth_failure`, which reports whether the failure sets a lockout. -/
def recordAuthFailure (address : Address) : Contract Bool := do
  let seq ← sequence
  let (count, windowStart) ← read (·.getAuthFailCount address)
  let windowEnd ← if windowStart = 0 then pure 0 else addU32 windowStart authFailureWindowLedgers
  let fresh := windowStart = 0 ∨ windowEnd ≤ seq
  let newCount ← if fresh then pure 1 else addU32 count 1
  let newWindow := if fresh then seq else windowStart
  write (·.setAuthFailCount address newCount newWindow)
  if authMaxFailures ≤ newCount then do
    let limit ← addU32 seq authLockoutLedgers
    write (·.setAuthLockoutUntil address limit)
    return true
  else
    return false

/-- `increment_rate_limit_counter` -/
def incrementRateLimitCounter (merchant : Address) (windowStart : Nat) : Contract Unit := do
  let count ← addU32 (← read (·.getRateLimitCounter merchant windowStart)) 1
  write (·.updatePayments fun book =>
    { book with
      rateLimitCounters := Function.update book.rateLimitCounters merchant
        (Function.update (book.rateLimitCounters merchant) windowStart count) })

/-- `add_merchant_payment_id` -/
def addMerchantPaymentId (merchant : Address) (orderId : Text) : Contract Unit := do
  let ids ← read (·.getMerchantPaymentIds merchant)
  failIf (maxPaymentIdsPerAccount ≤ ids.length) .paymentHistoryLimitExceeded
  write (·.updatePayments fun book =>
    { book with merchantIds := Function.update book.merchantIds merchant (ids ++ [orderId]) })

/-- `add_payer_payment_id` -/
def addPayerPaymentId (payer : Address) (orderId : Text) : Contract Unit := do
  let ids ← read (·.getPayerPaymentIds payer)
  failIf (maxPaymentIdsPerAccount ≤ ids.length) .paymentHistoryLimitExceeded
  write (·.updatePayments fun book =>
    { book with payerIds := Function.update book.payerIds payer (ids ++ [orderId]) })

end Contract

end LumenFlow

import LumenFlow.Model.Payments

/-!
# Refunds and disputes

The life of a refund from its initiation to its payout, the disputes about
rejected refunds and about payments, and the clean-up of settled refunds.
-/

namespace LumenFlow

open Kit

namespace Contract

def maxRefundsPerPayment : Nat := 10

/-! ## Refunds -/

def initiateRefund (caller : Address) (refundId orderId : Text) (amount : Int) (reason : Text) :
    Contract Unit := do
  requireNotPaused
  requireAuth caller
  requirePositive amount
  requireMinRefundAmount amount
  requireValidId refundId
  let existing ← read (·.getRefund refundId)
  failIf (existing.isSome = true) .refundAlreadyExists
  let payment ← okOr (← read (·.getPayment orderId)) .paymentNotFound
  let existingRefundIds ← read (·.getOrderRefundIds orderId)
  failIf (maxRefundsPerPayment ≤ existingRefundIds.length) .refundLimitExceeded
  failIf (caller ≠ payment.payer ∧ caller ≠ payment.merchantAddress) .unauthorized
  let now ← timestamp
  let refundWindow ← read (·.getRefundWindow)
  let windowEnd ← addU64 payment.paidAt refundWindow
  failIf (windowEnd < now) .refundWindowExpired
  let refunded ← addI128 payment.refundedAmount amount
  failIf (payment.amount < refunded) .refundExceedsOriginal
  let minRefund ← read (·.getMinRefundAmount)
  failIf (0 < minRefund ∧ amount < minRefund) .refundBelowMinimum
  write (·.setRefund
    { refundId, orderId, initiator := caller, amount, reason, status := .pending
      createdAt := now })
  write (·.addOrderRefundId orderId refundId)

/-- The decision of the merchant or the admin about a pending refund. -/
def decideRefund (caller : Address) (refundId : Text) (status : RefundStatus) :
    Contract Unit := do
  requireNotPaused
  let refund ← okOr (← read (·.getRefund refundId)) .refundNotFound
  let payment ← okOr (← read (·.getPayment refund.orderId)) .paymentNotFound
  requireAdminOr caller payment.merchantAddress
  failIf (refund.status ≠ .pending) .refundAlreadyCompleted
  write (·.setRefund { refund with status })

def approveRefund (caller : Address) (refundId : Text) : Contract Unit :=
  decideRefund caller refundId .approved

def rejectRefund (caller : Address) (refundId : Text) : Contract Unit :=
  decideRefund caller refundId .rejected

/-- Add one refund to the statistics of a merchant. -/
def countMerchantRefund (merchantAddress : Address) (amount : Int) : Contract Unit := do
  let stats ← read (·.getMerchantStats merchantAddress)
  let totalRefunds ← addU32 stats.totalRefunds 1
  write (·.setMerchantStats merchantAddress
    { stats with totalRefunds, totalRefundVolume := saturatingAdd stats.totalRefundVolume amount })

/-- Add one refund to the global statistics. -/
def countGlobalRefund (amount : Int) : Contract Unit := do
  let stats ← read (·.getGlobalStats)
  let totalRefunds ← addU32 stats.totalRefunds 1
  write (·.setGlobalStats
    { stats with totalRefunds, totalRefundVolume := saturatingAdd stats.totalRefundVolume amount })

def executeRefund (refundId : Text) : Contract Unit := do
  requireNotPaused
  let refund ← okOr (← read (·.getRefund refundId)) .refundNotFound
  failIf (refund.status ≠ .approved) .refundNotApproved
  let payment ← okOr (← read (·.getPayment refund.orderId)) .paymentNotFound
  requireAuth payment.merchantAddress
  let refundedAmount ← addI128 payment.refundedAmount refund.amount
  let version ← addU32 payment.version 1
  write (·.setPayment { payment with
    refundedAmount, version, status := refundStatus refundedAmount payment.amount })
  write (·.setRefund { refund with status := .completed })
  countMerchantRefund payment.merchantAddress refund.amount
  countGlobalRefund refund.amount
  tokenTransfer (.refund refundId refund.orderId) payment.token payment.merchantAddress
    payment.payer refund.amount

def removeExpiredRefund (cutoff removed : Nat) (refundId : Text) : Contract Nat := do
  let refund ← read (·.getRefund refundId)
  if ∃ found ∈ refund,
      (found.status = .completed ∨ found.status = .rejected) ∧ found.createdAt < cutoff then do
    write (·.removeRefund refundId)
    addU32 removed 1
  else
    pure removed

def cleanupExpiredRefunds (admin : Address) : Contract Nat := do
  requireAdmin admin
  let cutoff ← read fun world => world.timestamp - world.getRefundRetentionPeriod
  let merchantList ← read (·.getMerchantList)
  Tx.fold (fun removed merchant => do
    let paymentIds ← read (·.getMerchantPaymentIds merchant)
    Tx.fold (fun removed paymentId => do
      let refundIds ← read (·.getOrderRefundIds paymentId)
      Tx.fold (removeExpiredRefund cutoff) removed refundIds) removed paymentIds) 0 merchantList

/-! ## Disputes -/

def raiseDispute (caller : Address) (disputeId refundId reason : Text) : Contract Unit := do
  requireNotPaused
  requireAuth caller
  requireValidId disputeId
  failIf (256 < reason.length) .invalidInput
  let existing ← read (·.getDispute disputeId)
  failIf (existing.isSome = true) .disputeAlreadyExists
  let refund ← okOr (← read (·.getRefund refundId)) .refundNotFound
  failIf (refund.status ≠ .rejected) .disputeRefundNotRejected
  let payment ← okOr (← read (·.getPayment refund.orderId)) .paymentNotFound
  failIf (caller ≠ payment.payer) .unauthorized
  let now ← timestamp
  write (·.setDispute
    { disputeId, orderId := refund.orderId, refundId, initiator := caller, reason
      status := .open, outcome := none, resolution := none, createdAt := now })

/-- The payout that an admin forces when a dispute is resolved for the payer. -/
def forceRefund (refundId : Text) : Contract Unit := do
  let refund ← okOr (← read (·.getRefund refundId)) .refundNotFound
  let payment ← okOr (← read (·.getPayment refund.orderId)) .paymentNotFound
  let refundedAmount ← addI128 payment.refundedAmount refund.amount
  write (·.setPayment { payment with
    refundedAmount, status := refundStatus refundedAmount payment.amount })
  write (·.setRefund { refund with status := .completed })
  countGlobalRefund refund.amount
  countMerchantRefund payment.merchantAddress refund.amount
  tokenTransfer (.refund refundId refund.orderId) payment.token payment.merchantAddress
    payment.payer refund.amount

def resolveDispute (admin : Address) (disputeId resolution : Text) (force : Bool) :
    Contract Unit := do
  requireNotPaused
  requireAdminRateLimited admin
  failIf (resolution.length = 0 ∨ 256 < resolution.length) .invalidInput
  let dispute ← okOr (← read (·.getDispute disputeId)) .disputeNotFound
  failIf (dispute.status = .resolved) .disputeAlreadyResolved
  write (·.setDispute { dispute with
    status := .resolved
    outcome := some (if force = true then .payerFavor else .merchantFavor)
    resolution := some resolution })
  Tx.when (force = true) (forceRefund dispute.refundId)

def initiateDispute (caller : Address) (disputeId orderId reason : Text) : Contract Unit := do
  requireNotPaused
  requireAuth caller
  requireValidId disputeId
  failIf (reason.length = 0 ∨ 256 < reason.length) .invalidInput
  let existing ← read (·.getDispute disputeId)
  failIf (existing.isSome = true) .disputeAlreadyExists
  let payment ← okOr (← read (·.getPayment orderId)) .paymentNotFound
  failIf (caller ≠ payment.payer ∧ caller ≠ payment.merchantAddress) .unauthorized
  let now ← timestamp
  write (·.setDispute
    { disputeId, orderId, refundId := [], initiator := caller, reason
      status := .open, outcome := none, resolution := none, createdAt := now })

def markDisputeUnderReview (admin : Address) (disputeId : Text) : Contract Unit := do
  requireNotPaused
  requireAdminRateLimited admin
  let dispute ← okOr (← read (·.getDispute disputeId)) .disputeNotFound
  failIf (dispute.status ≠ .open) .disputeNotOpen
  write (·.setDispute { dispute with status := .underReview })

def escalateDispute (admin : Address) (disputeId : Text) (notes : Option Text) :
    Contract Unit := do
  requireNotPaused
  requireAdminRateLimited admin
  let dispute ← okOr (← read (·.getDispute disputeId)) .disputeNotFound
  failIf (dispute.status = .resolved) .disputeAlreadyResolved
  failIf (dispute.status = .escalated) .disputeAlreadyEscalated
  failIf (∃ text ∈ notes, 256 < text.length) .invalidInput
  write (·.setDispute { dispute with status := .escalated, resolution := notes })

/-! ## Queries -/

/-- The admin, the payer and the merchant of a payment may see it. -/
def requireParty (caller : Address) (payment : PaymentOrder) : Contract Unit := do
  let admin ← read (·.getAdmin)
  failIf (admin ≠ some caller ∧ caller ≠ payment.payer ∧ caller ≠ payment.merchantAddress)
    .unauthorized

def getPaymentById (caller : Address) (orderId : Text) : Contract PaymentOrder := do
  requireAuth caller
  let payment ← okOr (← read (·.getPayment orderId)) .paymentNotFound
  requireParty caller payment
  return payment

def getPaymentSummary (orderId : Text) : Contract PaymentSummary := do
  let payment ← okOr (← read (·.getPayment orderId)) .paymentNotFound
  return ⟨payment.orderId, payment.merchantAddress, payment.amount, payment.token,
    payment.status, payment.paidAt⟩

def getRefundsForOrder (caller : Address) (orderId : Text) : Contract (List RefundRecord) := do
  requireAuth caller
  let payment ← okOr (← read (·.getPayment orderId)) .paymentNotFound
  requireParty caller payment
  read fun world => (world.getOrderRefundIds orderId).filterMap world.getRefund

def getRefund (caller : Address) (refundId : Text) : Contract RefundRecord := do
  requireAuth caller
  let refund ← okOr (← read (·.getRefund refundId)) .refundNotFound
  let admin ← read (·.getAdmin)
  Tx.when (admin ≠ some caller ∧ caller ≠ refund.initiator) do
    let payment ← okOr (← read (·.getPayment refund.orderId)) .unauthorized
    failIf (caller ≠ payment.payer ∧ caller ≠ payment.merchantAddress) .unauthorized
  return refund

def getDispute (disputeId : Text) : Contract DisputeRecord := do
  okOr (← read (·.getDispute disputeId)) .disputeNotFound

end Contract

end LumenFlow

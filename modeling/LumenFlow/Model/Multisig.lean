import LumenFlow.Model.Payments

/-!
# Multisig payments and payment requests

Both become stored payments only when somebody pays them, under the identifier
that they were created with.
-/

namespace LumenFlow

open Kit

namespace Contract

/-! ## Multisig payments -/

def initiateMultisigPayment (initiator : Address) (paymentId : Text)
    (merchantAddress tokenAddress : Address) (amount : Int) (signers : List Address)
    (requiredSignatures : Nat) (expiresAt : Option Nat) : Contract Unit := do
  requireNotPaused
  requireAuth initiator
  requirePositive amount
  requireValidId paymentId
  failIf (signers.length = 0) .invalidInput
  failIf (requiredSignatures = 0) .invalidInput
  failIf (signers.length < requiredSignatures) .invalidInput
  let maxSigners ← read (·.getMaxMultisigSigners)
  failIf (maxSigners < signers.length) .tooManySigners
  requireTokenAllowed tokenAddress
  let existing ← read (·.getMultisig paymentId)
  failIf (existing.isSome = true) .paymentAlreadyExists
  let merchant ← okOr (← read (·.getMerchant merchantAddress)) .merchantNotFound
  failIf (merchant.active = false) .merchantInactive
  let now ← timestamp
  let duration ← read (·.getMultisigExpiryDuration)
  write (·.setMultisig
    { paymentId, initiator, merchantAddress, token := tokenAddress, amount, requiredSignatures
      signers, collected := [], executed := false, cancelled := false, createdAt := now
      expiresAt := some (expiresAt.getD (saturatingAddU64 now duration)) })

def signMultisigPayment (signer : Address) (paymentId : Text) (signature : Bytes) :
    Contract Unit := do
  requireNotPaused
  requireAuth signer
  let multisig ← okOr (← read (·.getMultisig paymentId)) .multisigNotFound
  failIf (multisig.executed = true) .multisigAlreadyExecuted
  failIf (multisig.cancelled = true) .multisigCancelled
  let now ← timestamp
  failIf (multisig.expiresAt.getD u64Max ≤ now) .multisigExpired
  failIf (signer ∉ multisig.signers) .unauthorized
  failIf (∃ entry ∈ multisig.collected, entry.signer = signer) .multisigAlreadySigned
  write (·.setMultisig { multisig with collected := multisig.collected ++ [⟨signer, signature⟩] })

def cancelMultisigPayment (caller : Address) (paymentId : Text) : Contract Unit := do
  requireAuth caller
  let multisig ← okOr (← read (·.getMultisig paymentId)) .multisigNotFound
  failIf (multisig.executed = true) .multisigAlreadyExecuted
  failIf (multisig.cancelled = true) .multisigAlreadyCancelled
  let admin ← read (·.getAdmin)
  failIf (admin ≠ some caller ∧ caller ≠ multisig.initiator) .unauthorized
  write (·.setMultisig { multisig with cancelled := true })

def getMultisigPayment (caller : Address) (paymentId : Text) : Contract MultisigPayment := do
  requireAuth caller
  let multisig ← okOr (← read (·.getMultisig paymentId)) .multisigNotFound
  let admin ← read (·.getAdmin)
  failIf (admin ≠ some caller ∧ caller ≠ multisig.initiator ∧ caller ∉ multisig.signers ∧
    caller ≠ multisig.merchantAddress) .unauthorized
  return multisig

/-- Store a payment and add it to each of its indexes that has room.  The two
errors are dropped, so a full index does not stop the payment. -/
def recordPaymentBestEffort (payment : PaymentOrder) : Contract Unit := do
  write (·.setPayment payment)
  let merchantIds ← read (·.getMerchantPaymentIds payment.merchantAddress)
  Tx.when (merchantIds.length < maxPaymentIdsPerAccount)
    (addMerchantPaymentId payment.merchantAddress payment.orderId)
  let payerIds ← read (·.getPayerPaymentIds payment.payer)
  Tx.when (payerIds.length < maxPaymentIdsPerAccount)
    (addPayerPaymentId payment.payer payment.orderId)

/-- The source does not look for a payment that is stored under the identifier. -/
def executeMultisigPayment (payer : Address) (paymentId : Text) : Contract Unit := do
  requireNotPaused
  requireAuth payer
  let multisig ← okOr (← read (·.getMultisig paymentId)) .multisigNotFound
  failIf (multisig.executed = true) .multisigAlreadyExecuted
  failIf (multisig.cancelled = true) .multisigAlreadyCancelled
  let now ← timestamp
  failIf (∃ limit ∈ multisig.expiresAt, limit < now) .paymentExpired
  failIf (multisig.collected.length < multisig.requiredSignatures) .insufficientSignatures
  tokenTransfer (.multisig paymentId) multisig.token payer multisig.merchantAddress multisig.amount
  write (·.setMultisig { multisig with executed := true })
  recordPaymentBestEffort
    { orderId := paymentId, merchantAddress := multisig.merchantAddress, payer
      token := multisig.token, amount := multisig.amount, version := 0, status := .completed
      paidAt := now, refundedAmount := 0, memo := [], tags := none, platformFee := 0 }
  countGlobalPayment multisig.amount

/-! ## Payment requests -/

def createPaymentRequest (merchant : Address) (requestId : Text) (token : Address)
    (amount : Int) (memo : Text) (ttl : Nat) : Contract Unit := do
  requireNotPaused
  requireAuth merchant
  requirePositive amount
  requireBoundedString requestId 1 64
  failIf (ttl = 0) .invalidTtl
  let now ← timestamp
  failIf (u64Max < now + ttl) .invalidTtl
  failIf (now + ttl ≤ now) .invalidTtl
  requireTokenAllowed token
  let existing ← read (·.getPaymentRequest requestId)
  failIf (existing.isSome = true) .paymentAlreadyExists
  write (·.setPaymentRequest ⟨requestId, merchant, token, amount, memo, now + ttl⟩)

/-- The removal of an expired request is rolled back by the error after it. -/
def payPaymentRequest (payer : Address) (requestId : Text) : Contract Unit := do
  requireNotPaused
  requireAuth payer
  let request ← okOr (← read (·.getPaymentRequest requestId)) .paymentNotFound
  let now ← timestamp
  Tx.when (request.expiresAt < now) do
    write (·.removePaymentRequest requestId)
    Tx.fail (.error .paymentExpired)
  let existing ← read (·.getPayment requestId)
  failIf (existing.isSome = true) .paymentAlreadyExists
  tokenTransfer (.request requestId) request.token payer request.merchant request.amount
  recordPayment
    { orderId := request.requestId, merchantAddress := request.merchant, payer
      token := request.token, amount := request.amount, version := 0, status := .completed
      paidAt := now, refundedAmount := 0, memo := request.memo, tags := none, platformFee := 0 }
  countGlobalPayment request.amount
  write (·.removePaymentRequest requestId)

def cancelPaymentRequest (caller : Address) (requestId : Text) : Contract Unit := do
  requireNotPaused
  requireAuth caller
  let request ← okOr (← read (·.getPaymentRequest requestId)) .paymentNotFound
  failIf (request.merchant ≠ caller) .unauthorized
  write (·.removePaymentRequest requestId)

/-- Drop an expired request, or the index slot of one that is gone. -/
def removeExpiredRequest (now removed : Nat) (requestId : Text) : Contract Nat := do
  match ← read (·.getPaymentRequest requestId) with
  | some request =>
      if request.expiresAt < now then do
        write (·.removePaymentRequest requestId)
        addU32 removed 1
      else
        pure removed
  | none => do
      write (·.removePaymentRequest requestId)
      pure removed

def cancelExpiredPaymentRequests (admin : Address) : Contract Nat := do
  requireAdmin admin
  let now ← timestamp
  let ids ← read (·.getPaymentRequestIds)
  Tx.fold (removeExpiredRequest now) 0 ids

end Contract

end LumenFlow

import LumenFlow.Kit.Run
import LumenFlow.Model.Admin
import LumenFlow.Model.Escrow
import LumenFlow.Model.History
import LumenFlow.Model.Merchants
import LumenFlow.Model.Multisig
import LumenFlow.Model.Refunds
import LumenFlow.Model.Subscriptions

/-!
# Calls and runs

Every public function of the contract is a call, with the arguments that its
types admit.  An action is a call by somebody, a token operation by a third
party, or the passing of time.  The host settles a call as a transaction: a
call that fails leaves the world as it was.
-/

namespace LumenFlow

open Kit

/-! ## Values of the argument types -/

def U32 (value : Nat) : Prop := value ≤ u32Max

instance (value : Nat) : Decidable (U32 value) := inferInstanceAs (Decidable (_ ≤ _))

def U64 (value : Nat) : Prop := value ≤ u64Max

instance (value : Nat) : Decidable (U64 value) := inferInstanceAs (Decidable (_ ≤ _))

/-- The length of a host object is a `u32`. -/
def Sized {Item : Type} (items : List Item) : Prop := items.length ≤ u32Max

instance {Item : Type} (items : List Item) : Decidable (Sized items) :=
  inferInstanceAs (Decidable (_ ≤ _))

def TagsFit (tags : Option (List Text)) : Prop :=
  ∀ list ∈ tags, Sized list ∧ ∀ tag ∈ list, Sized tag

instance (tags : Option (List Text)) : Decidable (TagsFit tags) :=
  inferInstanceAs (Decidable (∀ list ∈ tags, _ ∧ ∀ tag ∈ list, _))

def MerchantCategory.Fits : MerchantCategory → Prop
  | .custom name => Sized name
  | _ => True

instance (category : MerchantCategory) : Decidable category.Fits :=
  match category with
  | .custom name => inferInstanceAs (Decidable (Sized name))
  | .retail | .food | .services | .digital | .other => inferInstanceAs (Decidable True)

def BatchPaymentItem.Fits (item : BatchPaymentItem) : Prop :=
  Sized item.orderId ∧ InI128 item.amount ∧ Sized item.memo ∧ TagsFit item.tags ∧
    Sized item.signature ∧ Sized item.merchantPublicKey

instance (item : BatchPaymentItem) : Decidable item.Fits :=
  inferInstanceAs (Decidable (_ ∧ _))

def PaymentFilter.Fits (filter : PaymentFilter) : Prop :=
  (∀ date ∈ filter.dateStart, U64 date) ∧ (∀ date ∈ filter.dateEnd, U64 date) ∧
    (∀ amount ∈ filter.amountMin, InI128 amount) ∧ (∀ amount ∈ filter.amountMax, InI128 amount) ∧
    ∀ tag ∈ filter.tag, Sized tag

instance (filter : PaymentFilter) : Decidable filter.Fits :=
  inferInstanceAs (Decidable (_ ∧ _))

/-! ## Calls -/

/-- Calls of the administration functions. -/
inductive AdminCall where
  | setAdmin (admin : Address)
  | transferAdmin (currentAdmin newAdmin : Address)
  | resetAuthLockout (admin address : Address)
  | setPaymentCleanupPeriod (admin : Address) (period : Nat)
  | setPlatformFee (admin : Address) (feeBps : Nat) (feeRecipient : Address)
  | setPlatformFeeLogged (admin : Address) (feeBps : Nat)
  | setLargePaymentThreshold (admin : Address) (threshold : Int)
  | setMultisigExpiryDuration (admin : Address) (duration : Nat)
  | setMultisigExpiryDurationLogged (admin : Address) (durationSecs : Nat)
  | setMaxSigners (admin : Address) (maxSigners : Nat)
  | setRefundWindow (admin : Address) (windowSecs : Nat)
  | setRefundWindowLogged (admin : Address) (windowSecs : Nat)
  | setMinRefundAmount (admin : Address) (amount : Int)
  | setMinRefundAmountLogged (admin : Address) (minAmount : Int)
  | setSignatureExpiryWindow (admin : Address) (windowSecs : Nat)
  | setRateLimit (admin : Address) (limit : Nat)
  | setPaymentRateLimit (admin : Address) (limit : Nat)
  | setPaymentRateWindow (admin : Address) (windowSecs : Nat)
  | setRefundRetentionPeriod (admin : Address) (period : Nat)
  | pauseContract (admin : Address)
  | unpauseContract (admin : Address)
  | pauseWithReason (admin : Address) (reason : Text)
  | setPauseGuardians (admin : Address) (guardians : List Address)
  | approveEarlyUnpause (guardian : Address)
  | addAllowedToken (admin token : Address) (issuer : Option Address)
  | addAllowedTokenUnaudited (admin token : Address)
  | removeAllowedToken (admin token : Address)
  | removeAllowedTokenUnaudited (admin token : Address)
  | addAllowedIssuer (admin issuer : Address)
  | removeAllowedIssuer (admin issuer : Address)
  | getContractVersion
  | setContractVersion (admin : Address)
  | migrateStorageKeys (admin : Address)
  | assertVersionMatches (admin : Address)
  | upgrade (admin : Address) (newWasmHash : Bytes)
  | migrate (admin : Address)
  | checkUpgradeCompatibility
  | getAdminAuditLog (admin : Address) (fromLedger toLedger limit : Nat)

/-- The arguments are values of their types. -/
def AdminCall.Fits : AdminCall → Prop
  | .setPaymentCleanupPeriod _ period => U64 period
  | .setPlatformFee _ feeBps _ => U32 feeBps
  | .setPlatformFeeLogged _ feeBps => U32 feeBps
  | .setLargePaymentThreshold _ threshold => InI128 threshold
  | .setMultisigExpiryDuration _ duration => U64 duration
  | .setMultisigExpiryDurationLogged _ durationSecs => U64 durationSecs
  | .setMaxSigners _ maxSigners => U32 maxSigners
  | .setRefundWindow _ windowSecs => U64 windowSecs
  | .setRefundWindowLogged _ windowSecs => U64 windowSecs
  | .setMinRefundAmount _ amount => InI128 amount
  | .setMinRefundAmountLogged _ minAmount => InI128 minAmount
  | .setSignatureExpiryWindow _ windowSecs => U64 windowSecs
  | .setRateLimit _ limit => U32 limit
  | .setPaymentRateLimit _ limit => U32 limit
  | .setPaymentRateWindow _ windowSecs => U64 windowSecs
  | .setRefundRetentionPeriod _ period => U64 period
  | .pauseWithReason _ reason => Sized reason
  | .setPauseGuardians _ guardians => Sized guardians
  | .upgrade _ newWasmHash => newWasmHash.length = 32
  | .getAdminAuditLog _ fromLedger toLedger limit => U32 fromLedger ∧ U32 toLedger ∧ U32 limit
  | _ => True

instance (call : AdminCall) : Decidable call.Fits := by
  unfold AdminCall.Fits
  split <;> infer_instance

def AdminCall.exec : AdminCall → Contract Unit
  | .setAdmin admin => Contract.setAdmin admin
  | .transferAdmin currentAdmin newAdmin => Contract.transferAdmin currentAdmin newAdmin
  | .resetAuthLockout admin address => Contract.resetAuthLockout admin address
  | .setPaymentCleanupPeriod admin period => Contract.setPaymentCleanupPeriod admin period
  | .setPlatformFee admin feeBps feeRecipient => Contract.setPlatformFee admin feeBps feeRecipient
  | .setPlatformFeeLogged admin feeBps => Contract.setPlatformFeeLogged admin feeBps
  | .setLargePaymentThreshold admin threshold => Contract.setLargePaymentThreshold admin threshold
  | .setMultisigExpiryDuration admin duration => Contract.setMultisigExpiryDuration admin duration
  | .setMultisigExpiryDurationLogged admin durationSecs =>
      Contract.setMultisigExpiryDurationLogged admin durationSecs
  | .setMaxSigners admin maxSigners => Contract.setMaxSigners admin maxSigners
  | .setRefundWindow admin windowSecs => Contract.setRefundWindow admin windowSecs
  | .setRefundWindowLogged admin windowSecs => Contract.setRefundWindowLogged admin windowSecs
  | .setMinRefundAmount admin amount => Contract.setMinRefundAmount admin amount
  | .setMinRefundAmountLogged admin minAmount => Contract.setMinRefundAmountLogged admin minAmount
  | .setSignatureExpiryWindow admin windowSecs => Contract.setSignatureExpiryWindow admin windowSecs
  | .setRateLimit admin limit => Contract.setRateLimit admin limit
  | .setPaymentRateLimit admin limit => Contract.setPaymentRateLimit admin limit
  | .setPaymentRateWindow admin windowSecs => Contract.setPaymentRateWindow admin windowSecs
  | .setRefundRetentionPeriod admin period => Contract.setRefundRetentionPeriod admin period
  | .pauseContract admin => Contract.pauseContract admin
  | .unpauseContract admin => Contract.unpauseContract admin
  | .pauseWithReason admin reason => Contract.pauseWithReason admin reason
  | .setPauseGuardians admin guardians => Contract.setPauseGuardians admin guardians
  | .approveEarlyUnpause guardian => Contract.approveEarlyUnpause guardian
  | .addAllowedToken admin token issuer => Contract.addAllowedToken admin token issuer
  | .addAllowedTokenUnaudited admin token => Contract.addAllowedTokenUnaudited admin token
  | .removeAllowedToken admin token => Contract.removeAllowedToken admin token
  | .removeAllowedTokenUnaudited admin token => Contract.removeAllowedTokenUnaudited admin token
  | .addAllowedIssuer admin issuer => Contract.addAllowedIssuer admin issuer
  | .removeAllowedIssuer admin issuer => Contract.removeAllowedIssuer admin issuer
  | .getContractVersion => Tx.discard Contract.getContractVersion
  | .setContractVersion admin => Contract.setContractVersion admin
  | .migrateStorageKeys admin => Contract.migrateStorageKeys admin
  | .assertVersionMatches admin => Contract.assertVersionMatches admin
  | .upgrade admin newWasmHash => Contract.upgrade admin newWasmHash
  | .migrate admin => Tx.discard (Contract.migrate admin)
  | .checkUpgradeCompatibility => Tx.discard Contract.checkUpgradeCompatibility
  | .getAdminAuditLog admin fromLedger toLedger limit =>
      Tx.discard (Contract.getAdminAuditLog admin fromLedger toLedger limit)

/-- Calls of the merchant functions. -/
inductive MerchantCall where
  | commitMerchantRegistration (merchantAddress : Address) (commitmentHash : Bytes)
  | revealMerchantRegistration (merchantAddress : Address) (name description contactInfo : Text)
      (category : MerchantCategory) (nonce : Bytes)
  | registerMerchant (merchantAddress : Address) (name description contactInfo : Text)
      (category : MerchantCategory) (referralId : Option Address)
  | updateMerchant (merchantAddress : Address) (name description contactInfo : Text)
      (category : MerchantCategory)
  | deactivateMerchant (admin merchantAddress : Address)
  | reactivateMerchant (admin merchantAddress : Address)
  | verifyMerchant (admin merchantAddress : Address)
  | unverifyMerchant (admin merchantAddress : Address)
  | getMerchant (merchantAddress : Address)
  | isRegistered (merchantAddress : Address)
  | getMerchantStats (merchant : Address)
  | getMerchants (admin : Address) (cursor : Option Address) (limit : Nat)

/-- The arguments are values of their types. -/
def MerchantCall.Fits : MerchantCall → Prop
  | .commitMerchantRegistration _ commitmentHash => Sized commitmentHash
  | .revealMerchantRegistration _ name description contactInfo category nonce =>
      Sized name ∧ Sized description ∧ Sized contactInfo ∧ category.Fits ∧ Sized nonce
  | .registerMerchant _ name description contactInfo category _ =>
      Sized name ∧ Sized description ∧ Sized contactInfo ∧ category.Fits
  | .updateMerchant _ name description contactInfo category =>
      Sized name ∧ Sized description ∧ Sized contactInfo ∧ category.Fits
  | .getMerchants _ _ limit => U32 limit
  | _ => True

instance (call : MerchantCall) : Decidable call.Fits := by
  unfold MerchantCall.Fits
  split <;> infer_instance

def MerchantCall.exec : MerchantCall → Contract Unit
  | .commitMerchantRegistration merchantAddress commitmentHash =>
      Contract.commitMerchantRegistration merchantAddress commitmentHash
  | .revealMerchantRegistration merchantAddress name description contactInfo category nonce =>
      Contract.revealMerchantRegistration merchantAddress name description contactInfo category
        nonce
  | .registerMerchant merchantAddress name description contactInfo category referralId =>
      Contract.registerMerchant merchantAddress name description contactInfo category referralId
  | .updateMerchant merchantAddress name description contactInfo category =>
      Contract.updateMerchant merchantAddress name description contactInfo category
  | .deactivateMerchant admin merchantAddress => Contract.deactivateMerchant admin merchantAddress
  | .reactivateMerchant admin merchantAddress => Contract.reactivateMerchant admin merchantAddress
  | .verifyMerchant admin merchantAddress => Contract.verifyMerchant admin merchantAddress
  | .unverifyMerchant admin merchantAddress => Contract.unverifyMerchant admin merchantAddress
  | .getMerchant merchantAddress => Tx.discard (Contract.getMerchant merchantAddress)
  | .isRegistered merchantAddress => Tx.discard (Contract.isRegistered merchantAddress)
  | .getMerchantStats merchant => Tx.discard (Contract.getMerchantStats merchant)
  | .getMerchants admin cursor limit => Tx.discard (Contract.getMerchants admin cursor limit)

/-- Calls of the payment functions. -/
inductive PaymentCall where
  | processPaymentWithSignature (payer : Address) (orderId : Text)
      (merchantAddress tokenAddress : Address) (amount : Int) (memo : Text)
      (tags : Option (List Text)) (nonce timestamp : Nat) (signature merchantPublicKey : Bytes)
  | processPaymentWithNonce (payer : Address) (orderId : Text)
      (merchantAddress tokenAddress : Address) (amount : Int) (memo : Text)
      (tags : Option (List Text)) (nonce : Nat)
  | batchPayment (payer : Address) (payments : List BatchPaymentItem)
  | updatePaymentStatus (caller : Address) (orderId : Text) (refundedAmount : Int)
      (expectedVersion : Option Nat)
  | archivePaymentRecord (admin : Address) (orderId : Text)
  | cleanupExpiredPayments (admin : Address) (batchSize : Option Nat)
  | getPaymentById (caller : Address) (orderId : Text)
  | getPaymentSummary (orderId : Text)
  | getMerchantPaymentHistory (merchant : Address) (cursor : Option Text) (limit : Nat)
      (filter : Option PaymentFilter) (sortField : SortField) (sortOrder : SortOrder)
  | getPayerPaymentHistory (payer : Address) (cursor : Option Text) (limit : Nat)
      (filter : Option PaymentFilter) (sortField : SortField) (sortOrder : SortOrder)
  | getGlobalPaymentStats (admin : Address) (dateStart dateEnd : Option Nat)
  | getAccountPaymentCount (address : Address)
  | getPayerNonce (payer : Address)
  | getMerchantNonce (merchantAddress : Address)

/-- The arguments are values of their types. -/
def PaymentCall.Fits : PaymentCall → Prop
  | .processPaymentWithSignature _ orderId _ _ amount memo tags nonce timestamp signature
        merchantPublicKey =>
      Sized orderId ∧ InI128 amount ∧ Sized memo ∧ TagsFit tags ∧ U64 nonce ∧ U64 timestamp ∧ Sized
      signature ∧ Sized merchantPublicKey
  | .processPaymentWithNonce _ orderId _ _ amount memo tags nonce =>
      Sized orderId ∧ InI128 amount ∧ Sized memo ∧ TagsFit tags ∧ U64 nonce
  | .batchPayment _ payments => Sized payments ∧ ∀ item ∈ payments, item.Fits
  | .updatePaymentStatus _ orderId refundedAmount expectedVersion =>
      Sized orderId ∧ InI128 refundedAmount ∧ ∀ version ∈ expectedVersion, U32 version
  | .archivePaymentRecord _ orderId => Sized orderId
  | .cleanupExpiredPayments _ batchSize => ∀ size ∈ batchSize, U32 size
  | .getPaymentById _ orderId => Sized orderId
  | .getPaymentSummary orderId => Sized orderId
  | .getMerchantPaymentHistory _ cursor limit filter _ _ =>
      (∀ text ∈ cursor, Sized text) ∧ U32 limit ∧ ∀ fields ∈ filter, fields.Fits
  | .getPayerPaymentHistory _ cursor limit filter _ _ =>
      (∀ text ∈ cursor, Sized text) ∧ U32 limit ∧ ∀ fields ∈ filter, fields.Fits
  | .getGlobalPaymentStats _ dateStart dateEnd =>
      (∀ date ∈ dateStart, U64 date) ∧ ∀ date ∈ dateEnd, U64 date
  | _ => True

instance (call : PaymentCall) : Decidable call.Fits := by
  unfold PaymentCall.Fits
  split <;> infer_instance

def PaymentCall.exec : PaymentCall → Contract Unit
  | .processPaymentWithSignature payer orderId merchantAddress tokenAddress amount memo tags nonce
        timestamp signature merchantPublicKey =>
      Contract.processPaymentWithSignature payer orderId merchantAddress tokenAddress amount memo
        tags nonce timestamp signature merchantPublicKey
  | .processPaymentWithNonce payer orderId merchantAddress tokenAddress amount memo tags nonce =>
      Contract.processPaymentWithNonce payer orderId merchantAddress tokenAddress amount memo tags
        nonce
  | .batchPayment payer payments => Contract.batchPayment payer payments
  | .updatePaymentStatus caller orderId refundedAmount expectedVersion =>
      Contract.updatePaymentStatus caller orderId refundedAmount expectedVersion
  | .archivePaymentRecord admin orderId => Contract.archivePaymentRecord admin orderId
  | .cleanupExpiredPayments admin batchSize =>
      Tx.discard (Contract.cleanupExpiredPayments admin batchSize)
  | .getPaymentById caller orderId => Tx.discard (Contract.getPaymentById caller orderId)
  | .getPaymentSummary orderId => Tx.discard (Contract.getPaymentSummary orderId)
  | .getMerchantPaymentHistory merchant cursor limit filter sortField sortOrder =>
      Tx.discard (Contract.getMerchantPaymentHistory merchant cursor limit filter sortField
        sortOrder)
  | .getPayerPaymentHistory payer cursor limit filter sortField sortOrder =>
      Tx.discard (Contract.getPayerPaymentHistory payer cursor limit filter sortField sortOrder)
  | .getGlobalPaymentStats admin dateStart dateEnd =>
      Tx.discard (Contract.getGlobalPaymentStats admin dateStart dateEnd)
  | .getAccountPaymentCount address => Tx.discard (Contract.getAccountPaymentCount address)
  | .getPayerNonce payer => Tx.discard (Contract.getPayerNonce payer)
  | .getMerchantNonce merchantAddress => Tx.discard (Contract.getMerchantNonce merchantAddress)

/-- Calls of the refund and dispute functions. -/
inductive RefundCall where
  | initiateRefund (caller : Address) (refundId orderId : Text) (amount : Int) (reason : Text)
  | approveRefund (caller : Address) (refundId : Text)
  | rejectRefund (caller : Address) (refundId : Text)
  | executeRefund (refundId : Text)
  | cleanupExpiredRefunds (admin : Address)
  | raiseDispute (caller : Address) (disputeId refundId reason : Text)
  | resolveDispute (admin : Address) (disputeId resolution : Text) (force : Bool)
  | initiateDispute (caller : Address) (disputeId orderId reason : Text)
  | markDisputeUnderReview (admin : Address) (disputeId : Text)
  | escalateDispute (admin : Address) (disputeId : Text) (notes : Option Text)
  | getRefundsForOrder (caller : Address) (orderId : Text)
  | getRefund (caller : Address) (refundId : Text)
  | getDispute (disputeId : Text)

/-- The arguments are values of their types. -/
def RefundCall.Fits : RefundCall → Prop
  | .initiateRefund _ refundId orderId amount reason =>
      Sized refundId ∧ Sized orderId ∧ InI128 amount ∧ Sized reason
  | .approveRefund _ refundId => Sized refundId
  | .rejectRefund _ refundId => Sized refundId
  | .executeRefund refundId => Sized refundId
  | .raiseDispute _ disputeId refundId reason => Sized disputeId ∧ Sized refundId ∧ Sized reason
  | .resolveDispute _ disputeId resolution _ => Sized disputeId ∧ Sized resolution
  | .initiateDispute _ disputeId orderId reason => Sized disputeId ∧ Sized orderId ∧ Sized reason
  | .markDisputeUnderReview _ disputeId => Sized disputeId
  | .escalateDispute _ disputeId notes => Sized disputeId ∧ ∀ text ∈ notes, Sized text
  | .getRefundsForOrder _ orderId => Sized orderId
  | .getRefund _ refundId => Sized refundId
  | .getDispute disputeId => Sized disputeId
  | _ => True

instance (call : RefundCall) : Decidable call.Fits := by
  unfold RefundCall.Fits
  split <;> infer_instance

def RefundCall.exec : RefundCall → Contract Unit
  | .initiateRefund caller refundId orderId amount reason =>
      Contract.initiateRefund caller refundId orderId amount reason
  | .approveRefund caller refundId => Contract.approveRefund caller refundId
  | .rejectRefund caller refundId => Contract.rejectRefund caller refundId
  | .executeRefund refundId => Contract.executeRefund refundId
  | .cleanupExpiredRefunds admin => Tx.discard (Contract.cleanupExpiredRefunds admin)
  | .raiseDispute caller disputeId refundId reason =>
      Contract.raiseDispute caller disputeId refundId reason
  | .resolveDispute admin disputeId resolution force =>
      Contract.resolveDispute admin disputeId resolution force
  | .initiateDispute caller disputeId orderId reason =>
      Contract.initiateDispute caller disputeId orderId reason
  | .markDisputeUnderReview admin disputeId => Contract.markDisputeUnderReview admin disputeId
  | .escalateDispute admin disputeId notes => Contract.escalateDispute admin disputeId notes
  | .getRefundsForOrder caller orderId => Tx.discard (Contract.getRefundsForOrder caller orderId)
  | .getRefund caller refundId => Tx.discard (Contract.getRefund caller refundId)
  | .getDispute disputeId => Tx.discard (Contract.getDispute disputeId)

/-- Calls of the multisig and payment request functions. -/
inductive MultisigCall where
  | initiateMultisigPayment (initiator : Address) (paymentId : Text)
      (merchantAddress tokenAddress : Address) (amount : Int) (signers : List Address)
      (requiredSignatures : Nat) (expiresAt : Option Nat)
  | signMultisigPayment (signer : Address) (paymentId : Text) (signature : Bytes)
  | cancelMultisigPayment (caller : Address) (paymentId : Text)
  | getMultisigPayment (caller : Address) (paymentId : Text)
  | executeMultisigPayment (payer : Address) (paymentId : Text)
  | createPaymentRequest (merchant : Address) (requestId : Text) (token : Address) (amount : Int)
      (memo : Text) (ttl : Nat)
  | payPaymentRequest (payer : Address) (requestId : Text)
  | cancelPaymentRequest (caller : Address) (requestId : Text)
  | cancelExpiredPaymentRequests (admin : Address)

/-- The arguments are values of their types. -/
def MultisigCall.Fits : MultisigCall → Prop
  | .initiateMultisigPayment _ paymentId _ _ amount signers requiredSignatures expiresAt =>
      Sized paymentId ∧ InI128 amount ∧ Sized signers ∧ U32 requiredSignatures ∧ ∀ time ∈ expiresAt,
      U64 time
  | .signMultisigPayment _ paymentId signature => Sized paymentId ∧ Sized signature
  | .cancelMultisigPayment _ paymentId => Sized paymentId
  | .getMultisigPayment _ paymentId => Sized paymentId
  | .executeMultisigPayment _ paymentId => Sized paymentId
  | .createPaymentRequest _ requestId _ amount memo ttl =>
      Sized requestId ∧ InI128 amount ∧ Sized memo ∧ U64 ttl
  | .payPaymentRequest _ requestId => Sized requestId
  | .cancelPaymentRequest _ requestId => Sized requestId
  | _ => True

instance (call : MultisigCall) : Decidable call.Fits := by
  unfold MultisigCall.Fits
  split <;> infer_instance

def MultisigCall.exec : MultisigCall → Contract Unit
  | .initiateMultisigPayment initiator paymentId merchantAddress tokenAddress amount signers
        requiredSignatures expiresAt =>
      Contract.initiateMultisigPayment initiator paymentId merchantAddress tokenAddress amount
        signers requiredSignatures expiresAt
  | .signMultisigPayment signer paymentId signature =>
      Contract.signMultisigPayment signer paymentId signature
  | .cancelMultisigPayment caller paymentId => Contract.cancelMultisigPayment caller paymentId
  | .getMultisigPayment caller paymentId =>
      Tx.discard (Contract.getMultisigPayment caller paymentId)
  | .executeMultisigPayment payer paymentId => Contract.executeMultisigPayment payer paymentId
  | .createPaymentRequest merchant requestId token amount memo ttl =>
      Contract.createPaymentRequest merchant requestId token amount memo ttl
  | .payPaymentRequest payer requestId => Contract.payPaymentRequest payer requestId
  | .cancelPaymentRequest caller requestId => Contract.cancelPaymentRequest caller requestId
  | .cancelExpiredPaymentRequests admin => Tx.discard (Contract.cancelExpiredPaymentRequests admin)

/-- Calls of the subscription functions. -/
inductive SubscriptionCall where
  | createSubscriptionPlan (admin : Address) (planId : Text) (token : Address) (amount : Int)
      (intervalSecs maxCycles : Nat)
  | subscribe (merchant subscriber : Address) (planId subscriptionId : Text)
  | chargeSubscription (merchant : Address) (subscriptionId : Text)
  | cancelSubscription (caller : Address) (subscriptionId : Text)
  | renewSubscriptionAllowance (subscriber token : Address)
  | getSubscriptionPlan (planId : Text)
  | getSubscription (subscriptionId : Text)

/-- The arguments are values of their types. -/
def SubscriptionCall.Fits : SubscriptionCall → Prop
  | .createSubscriptionPlan _ planId _ amount intervalSecs maxCycles =>
      Sized planId ∧ InI128 amount ∧ U64 intervalSecs ∧ U32 maxCycles
  | .subscribe _ _ planId subscriptionId => Sized planId ∧ Sized subscriptionId
  | .chargeSubscription _ subscriptionId => Sized subscriptionId
  | .cancelSubscription _ subscriptionId => Sized subscriptionId
  | .getSubscriptionPlan planId => Sized planId
  | .getSubscription subscriptionId => Sized subscriptionId
  | _ => True

instance (call : SubscriptionCall) : Decidable call.Fits := by
  unfold SubscriptionCall.Fits
  split <;> infer_instance

def SubscriptionCall.exec : SubscriptionCall → Contract Unit
  | .createSubscriptionPlan admin planId token amount intervalSecs maxCycles =>
      Contract.createSubscriptionPlan admin planId token amount intervalSecs maxCycles
  | .subscribe merchant subscriber planId subscriptionId =>
      Contract.subscribe merchant subscriber planId subscriptionId
  | .chargeSubscription merchant subscriptionId =>
      Contract.chargeSubscription merchant subscriptionId
  | .cancelSubscription caller subscriptionId => Contract.cancelSubscription caller subscriptionId
  | .renewSubscriptionAllowance subscriber token =>
      Contract.renewSubscriptionAllowance subscriber token
  | .getSubscriptionPlan planId => Tx.discard (Contract.getSubscriptionPlan planId)
  | .getSubscription subscriptionId => Tx.discard (Contract.getSubscription subscriptionId)

/-- Calls of the escrow functions. -/
inductive EscrowCall where
  | createEscrow (payer merchant : Address) (amount : Int) (token : Address) (unlockAt : Nat)
      (orderId : Text)
  | releaseEscrow (orderId : Text)
  | cancelEscrowBeforeLock (payer : Address) (orderId : Text)
  | getEscrow (orderId : Text)
  | escrowHold (payer : Address) (escrowId : Text) (merchant token : Address) (amount : Int)
      (conditionHash : Bytes) (arbiter : Address) (timeoutAt : Nat)
  | escrowRelease (caller : Address) (escrowId : Text)
  | escrowCancel (caller : Address) (escrowId : Text)
  | getEscrowHold (escrowId : Text)

/-- The arguments are values of their types. -/
def EscrowCall.Fits : EscrowCall → Prop
  | .createEscrow _ _ amount _ unlockAt orderId => InI128 amount ∧ U64 unlockAt ∧ Sized orderId
  | .releaseEscrow orderId => Sized orderId
  | .cancelEscrowBeforeLock _ orderId => Sized orderId
  | .getEscrow orderId => Sized orderId
  | .escrowHold _ escrowId _ _ amount conditionHash _ timeoutAt =>
      Sized escrowId ∧ InI128 amount ∧ Sized conditionHash ∧ U64 timeoutAt
  | .escrowRelease _ escrowId => Sized escrowId
  | .escrowCancel _ escrowId => Sized escrowId
  | .getEscrowHold escrowId => Sized escrowId

instance (call : EscrowCall) : Decidable call.Fits := by
  unfold EscrowCall.Fits
  split <;> infer_instance

def EscrowCall.exec : EscrowCall → Contract Unit
  | .createEscrow payer merchant amount token unlockAt orderId =>
      Contract.createEscrow payer merchant amount token unlockAt orderId
  | .releaseEscrow orderId => Contract.releaseEscrow orderId
  | .cancelEscrowBeforeLock payer orderId => Contract.cancelEscrowBeforeLock payer orderId
  | .getEscrow orderId => Tx.discard (Contract.getEscrow orderId)
  | .escrowHold payer escrowId merchant token amount conditionHash arbiter timeoutAt =>
      Tx.discard (Contract.escrowHold payer escrowId merchant token amount conditionHash arbiter
        timeoutAt)
  | .escrowRelease caller escrowId => Contract.escrowRelease caller escrowId
  | .escrowCancel caller escrowId => Contract.escrowCancel caller escrowId
  | .getEscrowHold escrowId => Tx.discard (Contract.getEscrowHold escrowId)
/-- A call of a public function of the contract. -/
inductive Call where
  | admin (call : AdminCall)
  | merchant (call : MerchantCall)
  | payment (call : PaymentCall)
  | refund (call : RefundCall)
  | multisig (call : MultisigCall)
  | subscription (call : SubscriptionCall)
  | escrow (call : EscrowCall)

def Call.Fits : Call → Prop
  | .admin call => call.Fits
  | .merchant call => call.Fits
  | .payment call => call.Fits
  | .refund call => call.Fits
  | .multisig call => call.Fits
  | .subscription call => call.Fits
  | .escrow call => call.Fits

instance (call : Call) : Decidable call.Fits := by
  unfold Call.Fits
  split <;> infer_instance

def Call.exec : Call → Contract Unit
  | .admin call => call.exec
  | .merchant call => call.exec
  | .payment call => call.exec
  | .refund call => call.exec
  | .multisig call => call.exec
  | .subscription call => call.exec
  | .escrow call => call.exec

/-- The host runs a call only on values of its argument types. -/
def Call.dispatch (call : Call) : Contract Unit := do
  Contract.trapUnless call.Fits
  call.exec

/-! ## Actions -/

/-- A token operation that does not pass through the contract. -/
inductive TokenAction where
  | transfer (token sender recipient : Address) (amount : Int)
  | transferFrom (token spender owner recipient : Address) (amount : Int)
  | approve (token owner spender : Address) (amount : Int)
  | mint (token recipient : Address) (amount : Int)
  | burn (token owner : Address) (amount : Int)

/-- The address whose authorisation a token operation needs. -/
def TokenAction.authoriser : TokenAction → Option Address
  | .transfer _ sender _ _ => some sender
  | .transferFrom _ spender _ _ _ => some spender
  | .approve _ owner _ _ => some owner
  | .mint .. => none
  | .burn _ owner _ => some owner

/-- The ledger after a token operation, unless the token refuses it. -/
def TokenAction.apply (bank : TokenLedger Address Address) :
    TokenAction → Option (TokenLedger Address Address)
  | .transfer token sender recipient amount => bank.transfer token sender recipient amount
  | .transferFrom token spender owner recipient amount =>
      bank.transferFrom token spender owner recipient amount
  | .approve token owner spender amount => bank.approve token owner spender amount
  | .mint token recipient amount =>
      if 0 ≤ amount then some (bank.credit token recipient amount) else none
  | .burn token owner amount =>
      if 0 ≤ amount ∧ amount ≤ bank.balance token owner then
        some (bank.credit token owner (-amount))
      else
        none

inductive Action where
  /-- A call, with the addresses that authorise it and the answers of the token
  contracts. -/
  | invoke (auth : List Address) (permits : TokenCall → Bool) (call : Call)
  /-- A token operation by third parties. -/
  | tokens (operation : TokenAction)
  /-- A ledger closes: the sequence number and the clock move on. -/
  | advance (ledgers seconds : Nat)

/-- The environment that an invocation runs in. -/
def Host.env (host : Host) (auth : List Address) (permits : TokenCall → Bool) : Env :=
  ⟨host, auth, permits⟩

/-- Nobody but the contract acts for the contract's own address. -/
def step (host : Host) (world : World) : Action → World
  | .invoke auth permits call => Tx.settle call.dispatch (host.env auth permits) world
  | .tokens operation =>
      if operation.authoriser = some host.self then world
      else { world with bank := (operation.apply world.bank).getD world.bank }
  | .advance ledgers seconds =>
      { world with
        sequence := min u32Max (world.sequence + ledgers)
        timestamp := min u64Max (world.timestamp + seconds) }

/-- The action is an invocation that the contract commits. -/
def Succeeds (host : Host) (world : World) (auth : List Address) (permits : TokenCall → Bool)
    (call : Call) (next : World) : Prop :=
  call.dispatch.Commits (host.env auth permits) world () next

/-! ## Deployment -/

namespace World

/-- The contract after its deployment, over a bank that may hold anything but
funds or allowances of the contract. -/
def deployed (bank : TokenLedger Address Address) (timestamp sequence : Nat) : World where
  gov := ⟨none, false, none, none, [], [], fun _ => (0, 0), fun _ => 0, fun _ => none, 0, none,
    none, 0⟩
  config := ⟨none, none, none, none, none, none, none, none, none, none, none, fun _ => false,
    fun _ => false, ⟨none, none, none, none, none, none, none, none, none⟩⟩
  merchants := ⟨Table.empty, [], Table.empty⟩
  stats := ⟨fun _ => ⟨0, 0, 0, 0⟩, ⟨0, 0, 0, 0, 0⟩⟩
  payments := ⟨Table.empty, fun _ => [], fun _ => [], fun _ => 0, fun _ => 0, fun _ _ => 0⟩
  refunds := ⟨Table.empty, fun _ => []⟩
  disputes := Table.empty
  multisigs := Table.empty
  requests := ⟨Table.empty, []⟩
  subscriptions := ⟨Table.empty, Table.empty, fun _ _ => 0⟩
  escrows := ⟨Table.empty, Table.empty⟩
  bank := bank
  transfers := []
  timestamp := timestamp
  sequence := sequence

end World

/-- The contract starts without tokens and has granted no allowance. -/
def Deployed (host : Host) (world : World) : Prop :=
  ∃ bank timestamp sequence,
    (∀ token, bank.balance token host.self = 0) ∧
    (∀ token spender, bank.allowance token host.self spender = 0) ∧
    world = World.deployed bank timestamp sequence

/-- A world that a run from a deployment reaches. -/
def Reachable (host : Host) (world : World) : Prop :=
  ∃ start actions, Deployed host start ∧ world = run (step host) start actions

/-! ## A sample deployment

A contract with an admin, one allowed token and two active merchants, for
witnesses and counterexamples.
-/

namespace Sample

def contract : Address := .contract 0
def admin : Address := .account 1
def shop : Address := .account 2
def rival : Address := .account 3
def payer : Address := .account 4
def coin : Address := .contract 5

/-- A host on which no signature verifies. -/
def host : Host where
  self := contract
  networkId := List.replicate 32 0
  sha256 _ := List.replicate 32 0
  ed25519Verify _ _ _ := false
  sortUnstableBy _ payments := payments
  maxMemoLength := 256
  version := [49]

def bank : TokenLedger Address Address where
  balance token account :=
    if token = coin ∧ (account = payer ∨ account = shop ∨ account = rival) then 1000 else 0
  allowance _ _ _ := 0

/-- A call with the authorisation of one address, on token contracts that accept
every call. -/
def invokedBy (caller : Address) (call : Call) : Action := .invoke [caller] (fun _ => true) call

def opening : List Action := [
  invokedBy admin (.admin (.setAdmin admin)),
  invokedBy admin (.admin (.addAllowedTokenUnaudited admin coin)),
  invokedBy shop (.merchant (.registerMerchant shop [83] [] [] .retail none)),
  invokedBy rival (.merchant (.registerMerchant rival [82] [] [] .retail none))]

def start : World := World.deployed bank 0 0

theorem deployed_start : Deployed host start :=
  ⟨bank, 0, 0, fun _ => by simp [bank, host, contract, payer, shop, rival], fun _ _ => rfl, rfl⟩

/-- The world after the opening and some more actions. -/
def world (actions : List Action) : World :=
  run (step host) start (opening ++ actions)

theorem reachable_world (actions : List Action) : Reachable host (world actions) :=
  ⟨start, opening ++ actions, deployed_start, rfl⟩

end Sample

end LumenFlow

import LumenFlow.Effect.Accounts
import LumenFlow.Effect.Failures

/-!
# Refusals for want of room

A call ends with `PaymentHistoryLimitExceeded` only when the index of a merchant or a payer has
no room for one of the payments that it creates.
-/

namespace LumenFlow

open Kit Contract

/-- All outcomes of a failure except that an index is full. -/
@[reducible]
def Failure.besidesLimit : Failure → Bool
  | .error .paymentHistoryLimitExceeded => false
  | _ => true

/-- The function never fails because an index is full. -/
abbrev Unlimited {Result : Type} (tx : Contract Result) : Prop :=
  Tx.Raises Failure.besidesLimit tx

section Checks

instance (address : Address) : Unlimited (requireAuth address) := by
  unfold requireAuth; infer_instance

instance (first second : Nat) : Unlimited (addU32 first second) := by
  unfold addU32; infer_instance

instance (first second : Nat) : Unlimited (subU32 first second) := by
  unfold subU32; infer_instance

instance (first second : Nat) : Unlimited (addU64 first second) := by
  unfold addU64; infer_instance

instance (first second : Int) : Unlimited (addI128 first second) := by
  unfold addI128; infer_instance

instance (first second : Int) : Unlimited (subI128 first second) := by
  unfold subI128; infer_instance

instance (first second : Int) : Unlimited (mulI128 first second) := by
  unfold mulI128; infer_instance

instance : Unlimited timestamp := by
  unfold timestamp; infer_instance

instance : Unlimited Contract.sequence := by
  unfold Contract.sequence; infer_instance

instance : Unlimited currentContractAddress := by
  unfold currentContractAddress; infer_instance

instance (value : Text) (least most : Nat) :
    Unlimited (requireBoundedString value least most) := by
  unfold requireBoundedString; infer_instance

instance : Unlimited requireNotPaused := by
  unfold requireNotPaused; infer_instance

instance (caller : Address) : Unlimited (requireAdmin caller) := by
  unfold requireAdmin; infer_instance

set_option synthInstance.maxSize 400 in
instance (address : Address) : Unlimited (recordAuthFailure address) := by
  unfold recordAuthFailure; infer_instance

instance (caller : Address) : Unlimited (requireAdminRateLimited caller) := by
  unfold requireAdminRateLimited; infer_instance

instance (caller allowed : Address) : Unlimited (requireAdminOr caller allowed) := by
  unfold requireAdminOr; infer_instance

instance (amount : Int) : Unlimited (requirePositive amount) := by
  unfold requirePositive; infer_instance

instance (amount : Int) : Unlimited (requireMinRefundAmount amount) := by
  unfold requireMinRefundAmount; infer_instance

instance (limit : Nat) : Unlimited (requireValidLimit limit) := by
  unfold requireValidLimit; infer_instance

instance (publicKey payload signature : Bytes) :
    Unlimited (verifySignature publicKey payload signature) := by
  unfold verifySignature; infer_instance

instance (text : Text) : Unlimited (requireNonEmptyString text) := by
  unfold requireNonEmptyString; infer_instance

instance (id : Text) : Unlimited (requireValidId id) := by
  unfold requireValidId; infer_instance

instance (tags : Option (List Text)) : Unlimited (validateTags tags) := by
  unfold validateTags; infer_instance

instance (category : MerchantCategory) : Unlimited (validateMerchantCategory category) := by
  unfold validateMerchantCategory; infer_instance

instance (memo : Text) : Unlimited (requireValidMemo memo) := by
  unfold requireValidMemo; infer_instance

instance (token : Address) : Unlimited (requireTokenAllowed token) := by
  unfold requireTokenAllowed; infer_instance

instance (orderId : Text) (merchant : Address) : Unlimited (openOrder orderId merchant) := by
  unfold openOrder; infer_instance

instance (caller : Address) (payment : PaymentOrder) :
    Unlimited (requireParty caller payment) := by
  unfold requireParty; infer_instance

instance (stats : GlobalStats) (amount : Int) : Unlimited (countedPayment stats amount) := by
  unfold countedPayment; infer_instance

instance (groups : List PaymentGroup) (item : BatchPaymentItem) :
    Unlimited (addToGroups groups item) := by
  unfold addToGroups; infer_instance

instance (dateStart dateEnd : Option Nat) (stats : GlobalStats) (orderId : Text) :
    Unlimited (addToRange dateStart dateEnd stats orderId) := by
  unfold addToRange
  refine Tx.raises_bind inferInstance fun payment => ?_
  cases payment with
  | none => infer_instance
  | some payment => infer_instance

end Checks

section Writers

instance (cause : Cause) (token sender recipient : Address) (amount : Int) :
    Unlimited (tokenTransfer cause token sender recipient amount) := by
  unfold tokenTransfer tokenAuth tokenPermits; infer_instance

instance (cause : Cause) (token owner recipient : Address) (amount : Int) :
    Unlimited (tokenTransferFrom cause token owner recipient amount) := by
  unfold tokenTransferFrom tokenPermits; infer_instance

instance (token owner : Address) (amount : Int) : Unlimited (tokenApprove token owner amount) := by
  unfold tokenApprove tokenAuth tokenPermits; infer_instance

instance (entry : AdminAuditEntry) : Unlimited (appendAdminAuditEntry entry) := by
  unfold appendAdminAuditEntry; infer_instance

instance (action : AdminActionType) (caller : Address) (params : Text) :
    Unlimited (appendAudit action caller params) := by
  unfold appendAudit; infer_instance

instance (merchant : Address) (windowStart : Nat) :
    Unlimited (incrementRateLimitCounter merchant windowStart) := by
  unfold incrementRateLimitCounter; infer_instance

instance (merchant : Address) : Unlimited (consumeRateLimit merchant) := by
  unfold consumeRateLimit; infer_instance

instance (merchant : Address) (amount : Int) :
    Unlimited (countMerchantPayment merchant amount) := by
  unfold countMerchantPayment; infer_instance

instance (merchant : Address) (amount : Int) : Unlimited (countMerchantRefund merchant amount) := by
  unfold countMerchantRefund; infer_instance

instance (amount : Int) : Unlimited (countGlobalPayment amount) := by
  unfold countGlobalPayment; infer_instance

instance (amount : Int) : Unlimited (countGlobalRefund amount) := by
  unfold countGlobalRefund; infer_instance

instance : Unlimited addActiveMerchant := by
  unfold addActiveMerchant; infer_instance

instance (payer : Address) (orderId : Text) (merchant token : Address) (amount : Int) :
    Unlimited (transferWithFee payer orderId merchant token amount) := by
  unfold transferWithFee
  repeat with_reducible refine Tx.raises_bind inferInstance fun _ => ?_
  infer_instance

instance (seenIds : List Text) (item : BatchPaymentItem) :
    Unlimited (validateBatchItem seenIds item) := by
  unfold validateBatchItem
  repeat with_reducible refine Tx.raises_bind inferInstance fun _ => ?_
  infer_instance

instance (cutoff cleaned : Nat) (id : Text) :
    Unlimited (removeExpiredPayment cutoff cleaned id) := by
  unfold removeExpiredPayment; infer_instance

instance (caller : Address) (refundId : Text) (status : RefundStatus) :
    Unlimited (decideRefund caller refundId status) := by
  unfold decideRefund
  repeat with_reducible refine Tx.raises_bind inferInstance fun _ => ?_
  infer_instance

instance (refundId : Text) : Unlimited (forceRefund refundId) := by
  unfold forceRefund
  repeat with_reducible refine Tx.raises_bind inferInstance fun _ => ?_
  infer_instance

instance (cutoff removed : Nat) (refundId : Text) :
    Unlimited (removeExpiredRefund cutoff removed refundId) := by
  unfold removeExpiredRefund; infer_instance

instance (now removed : Nat) (requestId : Text) :
    Unlimited (removeExpiredRequest now removed requestId) := by
  unfold removeExpiredRequest
  refine Tx.raises_bind inferInstance fun request => ?_
  cases request with
  | none => infer_instance
  | some request => infer_instance

/-- The two errors of a full index are dropped. -/
instance (payment : PaymentOrder) : Unlimited (recordPaymentBestEffort payment) where
  among failed := by
    simp [recordPaymentBestEffort, addMerchantPaymentId, addPayerPaymentId] at failed
    omega

end Writers

section Calls

theorem AdminCall.unlimited (call : AdminCall) : Unlimited call.exec := by
  cases call <;>
    simp only [AdminCall.exec, Tx.discard_bind, Contract.setAdmin, Contract.transferAdmin,
      Contract.resetAuthLockout, Contract.setPaymentCleanupPeriod, Contract.setPlatformFee,
      Contract.setPlatformFeeLogged, Contract.setLargePaymentThreshold,
      Contract.setMultisigExpiryDuration, Contract.setMultisigExpiryDurationLogged,
      Contract.setMaxSigners, Contract.setRefundWindow, Contract.setRefundWindowLogged,
      Contract.setMinRefundAmount, Contract.setMinRefundAmountLogged,
      Contract.setSignatureExpiryWindow, Contract.setRateLimit, Contract.setPaymentRateLimit,
      Contract.setPaymentRateWindow, Contract.setRefundRetentionPeriod, Contract.pauseContract,
      Contract.unpauseContract, Contract.pauseWithReason, Contract.setPauseGuardians,
      Contract.approveEarlyUnpause, Contract.addAllowedToken, Contract.addAllowedTokenUnaudited,
      Contract.removeAllowedToken, Contract.removeAllowedTokenUnaudited,
      Contract.addAllowedIssuer, Contract.removeAllowedIssuer, Contract.getContractVersion,
      Contract.setContractVersion, Contract.assertVersionMatches, Contract.upgrade,
      Contract.migrate, Contract.checkUpgradeCompatibility, Contract.getAdminAuditLog,
      Contract.migrateStorageKeys] <;>
    (repeat with_reducible refine Tx.raises_bind inferInstance fun _ => ?_) <;>
    infer_instance

theorem MerchantCall.unlimited (call : MerchantCall) : Unlimited call.exec := by
  cases call <;>
    simp only [MerchantCall.exec, Tx.discard_bind, Contract.commitMerchantRegistration,
      Contract.revealMerchantRegistration, Contract.registerMerchant, Contract.updateMerchant,
      Contract.deactivateMerchant, Contract.reactivateMerchant, Contract.verifyMerchant,
      Contract.unverifyMerchant, Contract.getMerchant, Contract.isRegistered,
      Contract.getMerchantStats, Contract.getMerchants] <;>
    (repeat with_reducible refine Tx.raises_bind inferInstance fun _ => ?_) <;>
    infer_instance

theorem RefundCall.unlimited (call : RefundCall) : Unlimited call.exec := by
  cases call <;>
    simp only [RefundCall.exec, Tx.discard_bind, Contract.initiateRefund, Contract.approveRefund,
      Contract.rejectRefund, Contract.executeRefund, Contract.cleanupExpiredRefunds,
      Contract.raiseDispute, Contract.resolveDispute, Contract.initiateDispute,
      Contract.markDisputeUnderReview, Contract.escalateDispute, Contract.getRefundsForOrder,
      Contract.getRefund, Contract.getDispute] <;>
    (repeat with_reducible refine Tx.raises_bind inferInstance fun _ => ?_) <;>
    infer_instance

theorem SubscriptionCall.unlimited (call : SubscriptionCall) : Unlimited call.exec := by
  cases call <;>
    simp only [SubscriptionCall.exec, Tx.discard_bind, Contract.createSubscriptionPlan,
      Contract.subscribe, Contract.chargeSubscription, Contract.cancelSubscription,
      Contract.renewSubscriptionAllowance, Contract.getSubscriptionPlan,
      Contract.getSubscription] <;>
    (repeat with_reducible refine Tx.raises_bind inferInstance fun _ => ?_) <;>
    infer_instance

theorem EscrowCall.unlimited (call : EscrowCall) : Unlimited call.exec := by
  cases call <;>
    simp only [EscrowCall.exec, Tx.discard_bind, Contract.createEscrow, Contract.releaseEscrow,
      Contract.cancelEscrowBeforeLock, Contract.getEscrow, Contract.escrowHold,
      Contract.escrowRelease, Contract.escrowCancel, Contract.getEscrowHold] <;>
    (repeat with_reducible refine Tx.raises_bind inferInstance fun _ => ?_) <;>
    infer_instance

end Calls

/-- One of the payments finds the index of its merchant or its payer full, with the payments
before it listed already. -/
def Accounts.LacksRoom (accounts : Accounts) (terms : List PaymentTerms) : Prop :=
  ∃ earlier payment later, terms = earlier ++ payment :: later ∧
    (maxPaymentIdsPerAccount ≤ (accounts.merchantIds payment.merchantAddress).length +
        earlier.countP (fun other => other.merchantAddress = payment.merchantAddress) ∨
      maxPaymentIdsPerAccount ≤ (accounts.payerIds payment.payer).length +
        earlier.countP (fun other => other.payer = payment.payer))

namespace Accounts.LacksRoom

variable {accounts : Accounts} {rest : List PaymentTerms}

theorem first {terms : PaymentTerms}
    (full : maxPaymentIdsPerAccount ≤ (accounts.merchantIds terms.merchantAddress).length ∨
      maxPaymentIdsPerAccount ≤ (accounts.payerIds terms.payer).length) :
    accounts.LacksRoom (terms :: rest) :=
  ⟨[], terms, rest, rfl, full⟩

/-- The payments that lack room once the first one is listed lack it together with that one. -/
theorem later {order : PaymentOrder} (lacks : (accounts.pay order).LacksRoom rest) :
    accounts.LacksRoom (order.terms :: rest) := by
  obtain ⟨earlier, payment, later, rfl, full⟩ := lacks
  refine ⟨order.terms :: earlier, payment, later, rfl, ?_⟩
  rw [pay_merchantIds, pay_payerIds, Index.length_add, Index.length_add] at full
  simp only [List.countP_cons, PaymentOrder.terms, decide_eq_true_eq]
  omega

end Accounts.LacksRoom

section Refusals

variable {env : Env} {world : World}

/-- The failure of a call for which an index is full. -/
abbrev Failure.limit : Failure := .error .paymentHistoryLimitExceeded

/-- The parts that are written before a payment is recorded. -/
abbrev Part.beforePayments : List Part :=
  [.nonces, .merchantNonces, .rateCounters, .tokens, .requests, .requestIds]

theorem lacksRoom_bind {Value Result : Type} {first : Contract Value}
    {rest : Value → Contract Result} {terms : List PaymentTerms}
    [Unlimited first] [writes : Writes first Part.beforePayments]
    (tail : ∀ value, (rest value).Explains .limit (·.accounts.LacksRoom terms)) :
    (first >>= rest).Explains .limit (·.accounts.LacksRoom terms) := by
  refine Tx.explains_bind_rest Failure.besidesLimit rfl ?_ tail
  intro env state value next committed lacks
  have merchantIds : next.payments.merchantIds = state.payments.merchantIds :=
    same_part Part.beforePayments committed .merchantIds (by simp)
  have payerIds : next.payments.payerIds = state.payments.payerIds :=
    same_part Part.beforePayments committed .payerIds (by simp)
  simpa only [Accounts.LacksRoom, World.accounts, merchantIds, payerIds] using lacks

theorem recordPayment_limit {payment : PaymentOrder} {terms : PaymentTerms}
    {rest : List PaymentTerms} (same : payment.terms = terms) :
    (recordPayment payment).Explains .limit (·.accounts.LacksRoom (terms :: rest)) := by
  intro env world failed
  subst same
  simp [recordPayment, addMerchantPaymentId, addPayerPaymentId] at failed
  exact Accounts.LacksRoom.first (failed.imp id And.right)

theorem processPaymentWithSignature_limit {payer : Address} {orderId : Text}
    {merchantAddress tokenAddress : Address} {amount : Int} {memo : Text}
    {tags : Option (List Text)} {nonce timestamp : Nat} {signature merchantPublicKey : Bytes} :
    (processPaymentWithSignature payer orderId merchantAddress tokenAddress amount memo tags nonce
      timestamp signature merchantPublicKey).Explains .limit
      (·.accounts.LacksRoom [⟨orderId, merchantAddress, payer, tokenAddress, amount⟩]) := by
  unfold processPaymentWithSignature
  repeat with_reducible refine lacksRoom_bind fun _ => ?_
  exact Tx.explains_bind_first Failure.besidesLimit rfl (recordPayment_limit rfl)

theorem processPaymentWithNonce_limit {payer : Address} {orderId : Text}
    {merchantAddress tokenAddress : Address} {amount : Int} {memo : Text}
    {tags : Option (List Text)} {nonce : Nat} :
    (processPaymentWithNonce payer orderId merchantAddress tokenAddress amount memo tags
      nonce).Explains .limit
      (·.accounts.LacksRoom [⟨orderId, merchantAddress, payer, tokenAddress, amount⟩]) := by
  unfold processPaymentWithNonce
  repeat with_reducible refine lacksRoom_bind fun _ => ?_
  exact Tx.explains_bind_first Failure.besidesLimit rfl (recordPayment_limit rfl)

theorem storeBatchItem_limit {payer : Address} {now : Nat} {stats : GlobalStats}
    {item : BatchPaymentItem} {rest : List PaymentTerms} :
    (storeBatchItem payer now stats item).Explains .limit
      (·.accounts.LacksRoom (item.terms payer :: rest)) := by
  unfold storeBatchItem
  exact Tx.explains_bind_first Failure.besidesLimit rfl (recordPayment_limit rfl)

/-- Phase 4 of a batch: the payments before the one that is refused are recorded. -/
theorem storeBatch_limit {payer : Address} {now : Nat} {stats : GlobalStats}
    {items : List BatchPaymentItem} :
    (Tx.fold (storeBatchItem payer now) stats items).Explains .limit
      (·.accounts.LacksRoom (items.map (BatchPaymentItem.terms payer))) := by
  intro env world failed
  induction items generalizing world stats with
  | nil => exact (Tx.fails_pure.mp failed).elim
  | cons item rest inductionHypothesis =>
      rcases Tx.fails_bind.mp failed with head | ⟨between, middle, committed, tail⟩
      · exact storeBatchItem_limit head
      · have lacks : (middle.carrying between).LacksRoom
            (rest.map (BatchPaymentItem.terms payer)) := inductionHypothesis tail
        rw [(storeBatchItem_accounts committed).1] at lacks
        exact lacks.later

theorem batchPayment_limit {payer : Address} {payments : List BatchPaymentItem} :
    (batchPayment payer payments).Explains .limit
      (·.accounts.LacksRoom (payments.map (BatchPaymentItem.terms payer))) := by
  unfold batchPayment
  repeat with_reducible refine lacksRoom_bind fun _ => ?_
  exact Tx.explains_bind_first Failure.besidesLimit rfl storeBatch_limit

theorem payPaymentRequest_limit {payer : Address} {requestId : Text} :
    (payPaymentRequest payer requestId).Explains .limit fun world =>
      world.accounts.LacksRoom
        (Call.terms world.books (.multisig (.payPaymentRequest payer requestId))) := by
  intro env world called
  obtain ⟨_, _, notPaused, unpaused⟩ := Tx.fails_rest Failure.besidesLimit called rfl
  obtain ⟨_, _, authorised, entered⟩ := Tx.fails_rest Failure.besidesLimit unpaused rfl
  obtain ⟨_, _, looked, searched⟩ := Tx.fails_rest Failure.besidesLimit entered rfl
  obtain ⟨request, world, found, failed⟩ := Tx.fails_rest Failure.besidesLimit searched rfl
  simp at notPaused authorised looked found
  obtain ⟨_, rfl⟩ := notPaused
  obtain ⟨_, rfl⟩ := authorised
  obtain ⟨rfl, rfl⟩ := looked
  obtain ⟨found, rfl⟩ := found
  simp only [Call.terms, World.books, found, Option.map_some, Option.toList_some]
  let reason (state : World) := state.accounts.LacksRoom [(request.order payer 0).terms]
  suffices explained : Tx.Explains _ Failure.limit reason from explained failed
  repeat with_reducible refine lacksRoom_bind fun _ => ?_
  exact Tx.explains_bind_first Failure.besidesLimit rfl (recordPayment_limit rfl)

theorem PaymentCall.limit_explained (call : PaymentCall) :
    call.exec.Explains .limit (·.accounts.LacksRoom call.terms) := by
  cases call with
  | processPaymentWithSignature => exact processPaymentWithSignature_limit
  | processPaymentWithNonce => exact processPaymentWithNonce_limit
  | batchPayment => exact batchPayment_limit
  | _ =>
      refine @Tx.explains_of_raises _ _ _ _ Failure.besidesLimit _ _ _ ?_ rfl
      simp only [PaymentCall.exec, Tx.discard_bind, Contract.updatePaymentStatus,
        Contract.archivePaymentRecord, Contract.cleanupExpiredPayments, Contract.getPaymentById,
        Contract.getPaymentSummary, Contract.getMerchantPaymentHistory,
        Contract.getPayerPaymentHistory, Contract.getGlobalPaymentStats,
        Contract.getAccountPaymentCount, Contract.getPayerNonce, Contract.getMerchantNonce]
      repeat with_reducible refine Tx.raises_bind inferInstance fun _ => ?_
      infer_instance

theorem MultisigCall.limit_explained (call : MultisigCall) :
    call.exec.Explains .limit fun world =>
      world.accounts.LacksRoom (Call.terms world.books (.multisig call)) := by
  cases call with
  | payPaymentRequest => exact payPaymentRequest_limit
  | _ =>
      refine @Tx.explains_of_raises _ _ _ _ Failure.besidesLimit _ _ _ ?_ rfl
      simp only [MultisigCall.exec, Tx.discard_bind, Contract.initiateMultisigPayment,
        Contract.signMultisigPayment, Contract.cancelMultisigPayment, Contract.getMultisigPayment,
        Contract.executeMultisigPayment, Contract.createPaymentRequest,
        Contract.cancelPaymentRequest, Contract.cancelExpiredPaymentRequests]
      repeat with_reducible refine Tx.raises_bind inferInstance fun _ => ?_
      infer_instance

/-- A call ends with the error only when there is no room for the payments that it creates. -/
theorem Call.limit_explained (call : Call) :
    call.dispatch.Explains .limit fun world =>
      world.accounts.LacksRoom (call.terms world.books) := by
  intro env world dispatched
  obtain ⟨_, world, fits, failed⟩ := Tx.fails_rest Failure.besidesLimit dispatched rfl
  simp at fits
  obtain ⟨_, rfl⟩ := fits
  have never (unlimited : Unlimited call.exec) :
      world.accounts.LacksRoom (call.terms world.books) :=
    (Tx.not_fails_of_raises Failure.besidesLimit call.exec rfl failed).elim
  cases call with
  | admin call => exact never call.unlimited
  | merchant call => exact never call.unlimited
  | payment call => exact call.limit_explained failed
  | refund call => exact never call.unlimited
  | multisig call => exact call.limit_explained failed
  | subscription call => exact never call.unlimited
  | escrow call => exact never call.unlimited

end Refusals

end LumenFlow

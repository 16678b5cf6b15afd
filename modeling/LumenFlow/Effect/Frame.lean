import LumenFlow.Effect.Parts
import LumenFlow.Effect.Accepted

/-!
# The frame of every call

For each public function the parts of the ledger that it may write.  Everything that is
not listed is the same before and after the call.
-/

namespace LumenFlow

open Kit Contract

def AdminCall.parts : AdminCall → List Part
  | .setAdmin .. | .transferAdmin .. => [.admin, .audit]
  | .resetAuthLockout .. => [.authFailures, .lockouts]
  | .setPaymentCleanupPeriod .. => [.authFailures, .cleanupPeriod]
  | .setPlatformFee .. => [.authFailures, .platformFeeBps, .feeRecipient, .audit]
  | .setPlatformFeeLogged .. => [.platformFeeBps]
  | .setLargePaymentThreshold .. => [.authFailures, .largePaymentThreshold]
  | .setMultisigExpiryDuration .. => [.authFailures, .multisigExpiry]
  | .setMultisigExpiryDurationLogged .. => [.multisigExpiry]
  | .setMaxSigners .. => [.authFailures, .maxSigners]
  | .setRefundWindow .. => [.authFailures, .refundWindow]
  | .setRefundWindowLogged .. => [.refundWindow]
  | .setMinRefundAmount .. => [.authFailures, .minRefundAmount]
  | .setMinRefundAmountLogged .. => [.minRefundAmount]
  | .setSignatureExpiryWindow .. => [.authFailures, .signatureExpiry]
  | .setRateLimit .. => [.authFailures, .rateLimit]
  | .setPaymentRateLimit .. => [.rateLimit]
  -- the window of the rate limit is written under the key of the refund window
  | .setPaymentRateWindow .. => [.refundWindow]
  | .setRefundRetentionPeriod .. => [.refundRetention]
  | .pauseContract .. | .unpauseContract .. => [.authFailures, .pausing, .audit]
  | .pauseWithReason .. | .setPauseGuardians .. => [.authFailures, .pausing]
  | .approveEarlyUnpause .. => [.pausing]
  | .addAllowedToken .. | .removeAllowedToken .. => [.allowedTokens, .audit]
  | .addAllowedTokenUnaudited .. | .removeAllowedTokenUnaudited .. => [.allowedTokens]
  | .addAllowedIssuer .. | .removeAllowedIssuer .. => [.allowedIssuers]
  | .getContractVersion | .checkUpgradeCompatibility | .getAdminAuditLog .. => []
  | .setContractVersion .. => [.authFailures, .versions]
  | .migrateStorageKeys .. =>
      [.authFailures, .merchantList, .versions, .cleanupPeriod, .platformFeeBps, .refundWindow,
        .largePaymentThreshold, .minRefundAmount, .multisigExpiry, .feeRecipient, .legacy]
  | .assertVersionMatches .. | .upgrade .. => [.authFailures]
  | .migrate .. => [.versions]

def MerchantCall.parts : MerchantCall → List Part
  | .commitMerchantRegistration .. => [.commitments]
  | .revealMerchantRegistration .. => [.commitments, .profiles, .merchantList, .activeMerchants]
  | .registerMerchant .. => [.profiles, .merchantList, .activeMerchants]
  | .updateMerchant .. => [.profiles]
  | .deactivateMerchant .. | .reactivateMerchant .. =>
      [.authFailures, .profiles, .activeMerchants]
  | .verifyMerchant .. | .unverifyMerchant .. => [.authFailures, .profiles]
  | .getMerchants .. => [.authFailures]
  | .getMerchant .. | .isRegistered .. | .getMerchantStats .. => []

def PaymentCall.parts : PaymentCall → List Part
  | .processPaymentWithSignature .. =>
      [.merchantNonces, .rateCounters, .tokens, .orders, .merchantIds, .payerIds, .profiles,
        .merchantStats, .totals]
  | .processPaymentWithNonce .. =>
      [.nonces, .tokens, .orders, .merchantIds, .payerIds, .profiles, .merchantStats, .totals]
  | .batchPayment .. =>
      [.rateCounters, .tokens, .orders, .merchantIds, .payerIds, .profiles, .merchantStats,
        .totals]
  | .updatePaymentStatus .. => [.orders]
  | .archivePaymentRecord .. => [.authFailures, .orders]
  | .cleanupExpiredPayments .. => [.authFailures, .orders, .refunds, .orderRefundIds]
  | .getGlobalPaymentStats .. => [.authFailures]
  | .getPaymentById .. | .getPaymentSummary .. | .getMerchantPaymentHistory ..
  | .getPayerPaymentHistory .. | .getAccountPaymentCount .. | .getPayerNonce ..
  | .getMerchantNonce .. => []

def RefundCall.parts : RefundCall → List Part
  | .initiateRefund .. => [.refunds, .orderRefundIds]
  | .approveRefund .. | .rejectRefund .. | .cleanupExpiredRefunds .. => [.refunds]
  | .executeRefund .. => [.orders, .refunds, .merchantStats, .totals, .tokens]
  | .raiseDispute .. | .initiateDispute .. => [.disputes]
  | .resolveDispute .. =>
      [.authFailures, .disputes, .orders, .refunds, .merchantStats, .totals, .tokens]
  | .markDisputeUnderReview .. | .escalateDispute .. => [.authFailures, .disputes]
  | .getRefundsForOrder .. | .getRefund .. | .getDispute .. => []

def MultisigCall.parts : MultisigCall → List Part
  | .initiateMultisigPayment .. | .signMultisigPayment .. | .cancelMultisigPayment .. =>
      [.multisigs]
  | .getMultisigPayment .. => []
  | .executeMultisigPayment .. =>
      [.tokens, .multisigs, .orders, .merchantIds, .payerIds, .totals]
  | .createPaymentRequest .. | .cancelPaymentRequest .. | .cancelExpiredPaymentRequests .. =>
      [.requests, .requestIds]
  | .payPaymentRequest .. =>
      [.tokens, .requests, .requestIds, .orders, .merchantIds, .payerIds, .totals]

def SubscriptionCall.parts : SubscriptionCall → List Part
  | .createSubscriptionPlan .. => [.authFailures, .plans]
  | .subscribe .. | .chargeSubscription .. | .cancelSubscription .. =>
      [.subscriptions, .reserves, .tokens]
  | .renewSubscriptionAllowance .. => [.tokens]
  | .getSubscriptionPlan .. | .getSubscription .. => []

def EscrowCall.parts : EscrowCall → List Part
  | .createEscrow .. | .releaseEscrow .. | .cancelEscrowBeforeLock .. => [.escrows, .tokens]
  | .escrowHold .. | .escrowRelease .. | .escrowCancel .. => [.holds, .tokens]
  | .getEscrow .. | .getEscrowHold .. => []

def Call.parts : Call → List Part
  | .admin call => call.parts
  | .merchant call => call.parts
  | .payment call => call.parts
  | .refund call => call.parts
  | .multisig call => call.parts
  | .subscription call => call.parts
  | .escrow call => call.parts

section Calls

theorem AdminCall.writes (call : AdminCall) : Writes call.exec call.parts := by
  cases call with
  | migrateStorageKeys admin =>
      have listed : Listed .authFailures (AdminCall.migrateStorageKeys admin).parts :=
        ⟨by simp [AdminCall.parts]⟩
      refine Tx.writes_bind inferInstance fun _ => writes_modify fun world part outside => ?_
      cases part <;> first | rfl | exact absurd (by simp [AdminCall.parts]) outside
  | _ =>
      simp only [AdminCall.exec, AdminCall.parts, Tx.discard_bind, Contract.setAdmin,
        Contract.transferAdmin, Contract.resetAuthLockout, Contract.setPaymentCleanupPeriod,
        Contract.setPlatformFee, Contract.setPlatformFeeLogged, Contract.setLargePaymentThreshold,
        Contract.setMultisigExpiryDuration, Contract.setMultisigExpiryDurationLogged,
        Contract.setMaxSigners, Contract.setRefundWindow, Contract.setRefundWindowLogged,
        Contract.setMinRefundAmount, Contract.setMinRefundAmountLogged,
        Contract.setSignatureExpiryWindow, Contract.setRateLimit, Contract.setPaymentRateLimit,
        Contract.setPaymentRateWindow, Contract.setRefundRetentionPeriod, Contract.pauseContract,
        Contract.unpauseContract, Contract.pauseWithReason, Contract.setPauseGuardians,
        Contract.approveEarlyUnpause, Contract.addAllowedToken, Contract.addAllowedTokenUnaudited,
        Contract.removeAllowedToken, Contract.removeAllowedTokenUnaudited,
        Contract.addAllowedIssuer, Contract.removeAllowedIssuer, Contract.getContractVersion,
        Contract.setContractVersion, Contract.assertVersionMatches, Contract.upgrade,
        Contract.migrate, Contract.checkUpgradeCompatibility, Contract.getAdminAuditLog]
      repeat with_reducible refine Tx.writes_bind inferInstance fun _ => ?_
      infer_instance

theorem MerchantCall.writes (call : MerchantCall) : Writes call.exec call.parts := by
  cases call with
  | deactivateMerchant admin merchantAddress =>
      constructor
      intro env world result next committed part outside
      simp [MerchantCall.exec, Contract.deactivateMerchant] at committed
      obtain ⟨_, _, profile, _, rfl⟩ := committed
      cases part <;> first | rfl | exact absurd (by simp [MerchantCall.parts]) outside
  | _ =>
      simp only [MerchantCall.exec, MerchantCall.parts, Contract.commitMerchantRegistration,
        Contract.revealMerchantRegistration, Contract.registerMerchant, Contract.updateMerchant,
        Contract.reactivateMerchant, Contract.verifyMerchant, Contract.unverifyMerchant,
        Contract.getMerchant, Contract.isRegistered, Contract.getMerchantStats,
        Contract.getMerchants]
      repeat with_reducible refine Tx.writes_bind inferInstance fun _ => ?_
      infer_instance

theorem storeBatch_activeMerchants {payer : Address} {now : Nat} {items : List BatchPaymentItem}
    {env : Env} {world next : World} {stats result : GlobalStats}
    (committed : (Tx.fold (storeBatchItem payer now) stats items).Commits env world result next) :
    result.activeMerchants = stats.activeMerchants := by
  induction items generalizing stats world with
  | nil => rw [(Tx.commits_fold_nil.mp committed).1]
  | cons item rest inductionHypothesis =>
      obtain ⟨between, middle, head, tail⟩ := Tx.commits_fold_cons.mp committed
      rw [inductionHypothesis tail]
      simp [storeBatchItem, countedPayment] at head
      obtain ⟨_, _, _, _, _, _, _, _, _, rfl⟩ := head
      rfl

theorem batchPayment_activeMerchants {payer : Address} {payments : List BatchPaymentItem}
    {env : Env} {world next : World}
    (committed : (batchPayment payer payments).Commits env world () next) :
    next.stats.global.activeMerchants = world.stats.global.activeMerchants := by
  simp [batchPayment] at committed
  obtain ⟨_, _, _, _, validating, validated, _, grouping, grouped, paying, paid, totals,
    ⟨storing, stored, rfl⟩⟩ := committed
  calc totals.activeMerchants
      = paying.stats.global.activeMerchants := storeBatch_activeMerchants stored
    _ = grouping.stats.global.activeMerchants :=
        same_part [.tokens] paid .activeMerchants (by simp)
    _ = validating.stats.global.activeMerchants :=
        same_part [] grouped .activeMerchants (by simp)
    _ = world.stats.global.activeMerchants :=
        same_part [.rateCounters] validated .activeMerchants (by simp)

theorem PaymentCall.writes (call : PaymentCall) : Writes call.exec call.parts := by
  cases call with
  | batchPayment payer payments =>
      have writes : Writes (Contract.batchPayment payer payments)
          (.activeMerchants :: (PaymentCall.batchPayment payer payments).parts) := by
        simp only [PaymentCall.parts, Contract.batchPayment]
        repeat with_reducible refine Tx.writes_bind inferInstance fun _ => ?_
        infer_instance
      constructor
      intro env world result next committed part outside
      by_cases active : part = .activeMerchants
      · subst active
        exact batchPayment_activeMerchants committed
      · exact writes.frame committed part (by simp [active, outside])
  | _ =>
      simp only [PaymentCall.exec, PaymentCall.parts, Tx.discard_bind,
        Contract.processPaymentWithSignature, Contract.processPaymentWithNonce,
        Contract.updatePaymentStatus, Contract.archivePaymentRecord,
        Contract.cleanupExpiredPayments, Contract.getPaymentById, Contract.getPaymentSummary,
        Contract.getMerchantPaymentHistory, Contract.getPayerPaymentHistory,
        Contract.getGlobalPaymentStats, Contract.getAccountPaymentCount, Contract.getPayerNonce,
        Contract.getMerchantNonce]
      repeat with_reducible refine Tx.writes_bind inferInstance fun _ => ?_
      infer_instance

theorem RefundCall.writes (call : RefundCall) : Writes call.exec call.parts := by
  cases call <;>
    simp only [RefundCall.exec, RefundCall.parts, Tx.discard_bind, Contract.initiateRefund,
      Contract.approveRefund, Contract.rejectRefund, Contract.executeRefund,
      Contract.cleanupExpiredRefunds, Contract.raiseDispute, Contract.resolveDispute,
      Contract.initiateDispute, Contract.markDisputeUnderReview, Contract.escalateDispute,
      Contract.getRefundsForOrder, Contract.getRefund, Contract.getDispute] <;>
    (repeat with_reducible refine Tx.writes_bind inferInstance fun _ => ?_) <;>
    infer_instance

theorem MultisigCall.writes (call : MultisigCall) : Writes call.exec call.parts := by
  cases call <;>
    simp only [MultisigCall.exec, MultisigCall.parts, Tx.discard_bind,
      Contract.initiateMultisigPayment, Contract.signMultisigPayment,
      Contract.cancelMultisigPayment, Contract.getMultisigPayment,
      Contract.executeMultisigPayment, Contract.createPaymentRequest,
      Contract.payPaymentRequest, Contract.cancelPaymentRequest,
      Contract.cancelExpiredPaymentRequests] <;>
    (repeat with_reducible refine Tx.writes_bind inferInstance fun _ => ?_) <;>
    infer_instance

theorem SubscriptionCall.writes (call : SubscriptionCall) : Writes call.exec call.parts := by
  cases call <;>
    simp only [SubscriptionCall.exec, SubscriptionCall.parts, Tx.discard_bind,
      Contract.createSubscriptionPlan, Contract.subscribe, Contract.chargeSubscription,
      Contract.cancelSubscription, Contract.renewSubscriptionAllowance,
      Contract.getSubscriptionPlan, Contract.getSubscription] <;>
    (repeat with_reducible refine Tx.writes_bind inferInstance fun _ => ?_) <;>
    infer_instance

theorem EscrowCall.writes (call : EscrowCall) : Writes call.exec call.parts := by
  cases call <;>
    simp only [EscrowCall.exec, EscrowCall.parts, Tx.discard_bind, Contract.createEscrow,
      Contract.releaseEscrow, Contract.cancelEscrowBeforeLock, Contract.getEscrow,
      Contract.escrowHold, Contract.escrowRelease, Contract.escrowCancel,
      Contract.getEscrowHold] <;>
    (repeat with_reducible refine Tx.writes_bind inferInstance fun _ => ?_) <;>
    infer_instance

theorem Call.writes (call : Call) : Writes call.exec call.parts := by
  cases call with
  | admin call => exact call.writes
  | merchant call => exact call.writes
  | payment call => exact call.writes
  | refund call => exact call.writes
  | multisig call => exact call.writes
  | subscription call => exact call.writes
  | escrow call => exact call.writes

end Calls

theorem Call.clock_not_mem_parts (call : Call) : .clock ∉ call.parts := by
  rcases call with call | call | call | call | call | call | call <;> cases call <;>
    simp [Call.parts, AdminCall.parts, MerchantCall.parts, PaymentCall.parts, RefundCall.parts,
      MultisigCall.parts, SubscriptionCall.parts, EscrowCall.parts]

/-- The parts of the ledger that an action may write. -/
def Action.parts : Action → List Part
  | .invoke _ _ call => call.parts
  | .tokens _ => [.tokens]
  | .advance .. => [.clock]

/-- An action leaves the parts that it may not write as they were. -/
theorem step_part (host : Host) (world : World) {action : Action} {part : Part}
    (outside : part ∉ action.parts) : part.read (step host world action) = part.read world := by
  cases action with
  | invoke auth permits call =>
      rcases step_invoke_cases host world auth permits call with succeeded | ⟨_, same⟩
      · exact call.writes.frame succeeded.executes part outside
      · rw [same]
  | tokens operation =>
      simp only [step]
      split
      · rfl
      · cases part <;> first | rfl | exact absurd (by simp [Action.parts]) outside
  | advance ledgers seconds =>
      cases part <;> first | rfl | exact absurd (by simp [Action.parts]) outside

theorem step_timestamp (host : Host) {world : World} (action : Action)
    (clock : world.timestamp ≤ u64Max) :
    world.timestamp ≤ (step host world action).timestamp ∧
      (step host world action).timestamp ≤ u64Max := by
  have still (silent : .clock ∉ action.parts) :
      world.timestamp ≤ (step host world action).timestamp ∧
        (step host world action).timestamp ≤ u64Max := by
    have same : (step host world action).timestamp = world.timestamp :=
      congrArg Prod.fst (step_part host world silent)
    rw [same]
    exact ⟨le_refl _, clock⟩
  cases action with
  | invoke auth permits call => exact still call.clock_not_mem_parts
  | tokens operation => exact still (by simp [Action.parts])
  | advance ledgers seconds =>
      simp only [step]
      exact ⟨le_min clock (Nat.le_add_right _ _), min_le_left _ _⟩

theorem step_sequence (host : Host) {world : World} (action : Action)
    (clock : world.sequence ≤ u32Max) :
    world.sequence ≤ (step host world action).sequence ∧
      (step host world action).sequence ≤ u32Max := by
  have still (silent : .clock ∉ action.parts) :
      world.sequence ≤ (step host world action).sequence ∧
        (step host world action).sequence ≤ u32Max := by
    have same : (step host world action).sequence = world.sequence :=
      congrArg Prod.snd (step_part host world silent)
    rw [same]
    exact ⟨le_refl _, clock⟩
  cases action with
  | invoke auth permits call => exact still call.clock_not_mem_parts
  | tokens operation => exact still (by simp [Action.parts])
  | advance ledgers seconds =>
      simp only [step]
      exact ⟨le_min clock (Nat.le_add_right _ _), min_le_left _ _⟩

end LumenFlow

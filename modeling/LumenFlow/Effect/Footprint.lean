import LumenFlow.Effect.Step

/-!
# Which calls write what

The nonces, the multisig payments, the subscriptions, the allow list and the tokens are
each written by few functions of the contract.  The instances below derive, from the
way a function is built, that it keeps every view of the world that shows none
of the parts it writes.
-/

namespace LumenFlow

open Kit Contract

/-- The parts of the world that only few functions write. -/
structure Inner where
  nonces : Address → Nat
  merchantNonces : Address → Nat
  multisigs : Table MultisigPayment.paymentId
  subscriptions : SubscriptionBook
  allowedTokens : Address → Bool
  bank : TokenLedger Address Address
  transfers : List Transfer
  timestamp : Nat

def World.inner (world : World) : Inner where
  nonces := world.payments.nonces
  merchantNonces := world.payments.merchantNonces
  multisigs := world.multisigs
  subscriptions := world.subscriptions
  allowedTokens := world.config.allowedTokens
  bank := world.bank
  transfers := world.transfers
  timestamp := world.timestamp

section Views

variable {View : Type}

/-- The view shows nothing but inner parts. -/
class Narrow (view : World → View) : Prop where
  same : ∀ {before after : World}, after.inner = before.inner → view after = view before

/-- The view does not show the nonce of the payer. -/
class IgnoresNonce (view : World → View) (payer : Address) : Prop where
  same : ∀ world, view (World.incrementNonce world payer) = view world

/-- The view does not show the nonce of the merchant. -/
class IgnoresMerchantNonce (view : World → View) (merchant : Address) : Prop where
  same : ∀ world, view (World.incrementMerchantNonce world merchant) = view world

/-- The view does not show whether the token is allowed. -/
class IgnoresListing (view : World → View) (token : Address) : Prop where
  same : ∀ world allowed, view (World.setTokenAllowed world token allowed) = view world

/-- The view shows no multisig payments. -/
class IgnoresMultisigs (view : World → View) : Prop where
  same : ∀ world change, view (World.updateMultisigs world change) = view world

/-- The view shows no subscriptions and no allowances. -/
class IgnoresSubscriptions (view : World → View) : Prop where
  subscriptions : ∀ world change, view (World.updateSubscriptions world change) = view world
  allowance : ∀ world token owner spender amount,
    view (World.setAllowance world token owner spender amount) = view world
  charge : ∀ world subscriptionId token owner recipient amount,
    view (World.moveTokens world ⟨.subscription subscriptionId, token, owner, recipient, amount⟩) =
      view world

/-- The movement does not charge a subscription. -/
class OneOff (cause : Cause) : Prop where
  other : ∀ subscriptionId, cause ≠ .subscription subscriptionId

/-- The view shows no movements of tokens other than the charges of subscriptions. -/
class IgnoresTransfers (view : World → View) : Prop where
  same : ∀ world (transfer : Transfer), OneOff transfer.cause →
    view (World.moveTokens world transfer) = view world

end Views

section Updates

variable {View : Type} {view : World → View} [Narrow view]

theorem keeps_modify {change : World → World} (same : ∀ world, (change world).inner = world.inner) :
    Tx.Keeps view (Tx.modify change : Contract Unit) where
  kept committed := by
    rw [Tx.commits_modify.mp committed]
    exact Narrow.same (same _)

instance (change : World → Governance → Governance) :
    Tx.Keeps view (write fun world => world.updateGov (change world)) :=
  keeps_modify fun _ => rfl

instance (change : World → MerchantBook → MerchantBook) :
    Tx.Keeps view (write fun world => world.updateMerchants (change world)) :=
  keeps_modify fun _ => rfl

instance (change : World → StatsBook → StatsBook) :
    Tx.Keeps view (write fun world => world.updateStats (change world)) :=
  keeps_modify fun _ => rfl

instance (change : World → RefundBook → RefundBook) :
    Tx.Keeps view (write fun world => world.updateRefunds (change world)) :=
  keeps_modify fun _ => rfl

instance (change : World → Table DisputeRecord.disputeId → Table DisputeRecord.disputeId) :
    Tx.Keeps view (write fun world => world.updateDisputes (change world)) :=
  keeps_modify fun _ => rfl

instance (change : World → EscrowBook → EscrowBook) :
    Tx.Keeps view (write fun world => world.updateEscrows (change world)) :=
  keeps_modify fun _ => rfl

instance : Tx.Keeps view (write World.migrateStorageKeys) :=
  keeps_modify fun _ => rfl

instance (payment : PaymentOrder) : Tx.Keeps view (write (·.setPayment payment)) :=
  keeps_modify fun _ => rfl

instance (orderId : Text) : Tx.Keeps view (write (·.removePayment orderId)) :=
  keeps_modify fun _ => rfl

instance (request : PaymentRequest) : Tx.Keeps view (write (·.setPaymentRequest request)) :=
  keeps_modify fun _ => rfl

instance (requestId : Text) : Tx.Keeps view (write (·.removePaymentRequest requestId)) :=
  keeps_modify fun _ => rfl

/-! The settings are none of the inner parts. -/

instance (period : Nat) : Tx.Keeps view (write (·.setCleanupPeriod period)) :=
  keeps_modify fun _ => rfl

instance (feeBps : Nat) : Tx.Keeps view (write (·.setPlatformFeeBps feeBps)) :=
  keeps_modify fun _ => rfl

instance (recipient : Address) : Tx.Keeps view (write (·.setFeeRecipient recipient)) :=
  keeps_modify fun _ => rfl

instance (windowSecs : Nat) : Tx.Keeps view (write (·.setRefundWindow windowSecs)) :=
  keeps_modify fun _ => rfl

instance (period : Nat) : Tx.Keeps view (write (·.setRefundRetentionPeriod period)) :=
  keeps_modify fun _ => rfl

instance (threshold : Int) : Tx.Keeps view (write (·.setLargePaymentThreshold threshold)) :=
  keeps_modify fun _ => rfl

instance (amount : Int) : Tx.Keeps view (write (·.setMinRefundAmount amount)) :=
  keeps_modify fun _ => rfl

instance (duration : Nat) : Tx.Keeps view (write (·.setMultisigExpiryDuration duration)) :=
  keeps_modify fun _ => rfl

instance (limit : Nat) : Tx.Keeps view (write (·.setMaxMultisigSigners limit)) :=
  keeps_modify fun _ => rfl

instance (limit : Nat) : Tx.Keeps view (write (·.setRateLimitPerWindow limit)) :=
  keeps_modify fun _ => rfl

instance (windowSecs : Nat) : Tx.Keeps view (write (·.setSignatureExpiryWindow windowSecs)) :=
  keeps_modify fun _ => rfl

instance (issuer : Address) (allowed : Bool) :
    Tx.Keeps view (write (·.setIssuerAllowed issuer allowed)) :=
  keeps_modify fun _ => rfl

omit [Narrow view] in
instance (token : Address) (allowed : Bool) [IgnoresListing view token] :
    Tx.Keeps view (write (·.setTokenAllowed token allowed)) where
  kept committed := by
    rw [Tx.commits_modify.mp committed]
    exact IgnoresListing.same _ _

omit [Narrow view] in
instance (payer : Address) [IgnoresNonce view payer] :
    Tx.Keeps view (write (·.incrementNonce payer)) where
  kept committed := by
    rw [Tx.commits_modify.mp committed]
    exact IgnoresNonce.same _

omit [Narrow view] in
instance (merchant : Address) [IgnoresMerchantNonce view merchant] :
    Tx.Keeps view (write (·.incrementMerchantNonce merchant)) where
  kept committed := by
    rw [Tx.commits_modify.mp committed]
    exact IgnoresMerchantNonce.same _

omit [Narrow view] in
instance [IgnoresMultisigs view]
    (change : Table MultisigPayment.paymentId → Table MultisigPayment.paymentId) :
    Tx.Keeps view (write (·.updateMultisigs change)) where
  kept committed := by
    rw [Tx.commits_modify.mp committed]
    exact IgnoresMultisigs.same _ change

omit [Narrow view] in
instance [IgnoresSubscriptions view] (change : SubscriptionBook → SubscriptionBook) :
    Tx.Keeps view (write (·.updateSubscriptions change)) where
  kept committed := by
    rw [Tx.commits_modify.mp committed]
    exact IgnoresSubscriptions.subscriptions _ change

end Updates

section Tokens

instance (orderId : Text) : OneOff (.payment orderId) := ⟨nofun⟩
instance (orderId : Text) : OneOff (.platformFee orderId) := ⟨nofun⟩
instance : OneOff .batchGroup := ⟨nofun⟩
instance (paymentId : Text) : OneOff (.multisig paymentId) := ⟨nofun⟩
instance (requestId : Text) : OneOff (.request requestId) := ⟨nofun⟩
instance (refundId orderId : Text) : OneOff (.refund refundId orderId) := ⟨nofun⟩
instance (orderId : Text) : OneOff (.escrowDeposit orderId) := ⟨nofun⟩
instance (orderId : Text) : OneOff (.escrowSettlement orderId) := ⟨nofun⟩
instance (escrowId : Text) : OneOff (.holdDeposit escrowId) := ⟨nofun⟩
instance (escrowId : Text) : OneOff (.holdSettlement escrowId) := ⟨nofun⟩

variable {View : Type} {view : World → View}

instance [IgnoresTransfers view] (cause : Cause) [oneOff : OneOff cause]
    (token sender recipient : Address) (amount : Int) :
    Tx.Keeps view (tokenTransfer cause token sender recipient amount) where
  kept committed := by
    obtain ⟨_, _, _, _, rfl⟩ := commits_tokenTransfer.mp committed
    exact IgnoresTransfers.same _ _ oneOff

instance [IgnoresSubscriptions view] (subscriptionId : Text) (token owner recipient : Address)
    (amount : Int) :
    Tx.Keeps view (tokenTransferFrom (.subscription subscriptionId) token owner recipient
      amount) where
  kept committed := by
    obtain ⟨_, _, _, _, rfl⟩ := commits_tokenTransferFrom.mp committed
    exact (IgnoresSubscriptions.allowance _ _ _ _ _).trans
      (IgnoresSubscriptions.charge _ _ _ _ _ _)

instance [IgnoresSubscriptions view] (token owner : Address) (amount : Int) :
    Tx.Keeps view (tokenApprove token owner amount) where
  kept committed := by
    obtain ⟨_, _, _, rfl⟩ := commits_tokenApprove.mp committed
    exact IgnoresSubscriptions.allowance _ _ _ _ _

end Tokens

section Parts

variable {View : Type} {view : World → View}

/-! The checks only read, or write administration entries. -/

instance (address : Address) : Tx.Keeps view (requireAuth address) := by
  unfold requireAuth; infer_instance

instance (first second : Nat) : Tx.Keeps view (addU32 first second) := by
  unfold addU32; infer_instance

instance (first second : Nat) : Tx.Keeps view (subU32 first second) := by
  unfold subU32; infer_instance

instance (first second : Nat) : Tx.Keeps view (addU64 first second) := by
  unfold addU64; infer_instance

instance (first second : Int) : Tx.Keeps view (addI128 first second) := by
  unfold addI128; infer_instance

instance (first second : Int) : Tx.Keeps view (subI128 first second) := by
  unfold subI128; infer_instance

instance (first second : Int) : Tx.Keeps view (mulI128 first second) := by
  unfold mulI128; infer_instance

instance : Tx.Keeps view timestamp := by
  unfold timestamp; infer_instance

instance : Tx.Keeps view Contract.sequence := by
  unfold Contract.sequence; infer_instance

instance : Tx.Keeps view currentContractAddress := by
  unfold currentContractAddress; infer_instance

instance (value : Text) (least most : Nat) :
    Tx.Keeps view (requireBoundedString value least most) := by
  unfold requireBoundedString; infer_instance

instance : Tx.Keeps view requireNotPaused := by
  unfold requireNotPaused; infer_instance

instance (caller : Address) : Tx.Keeps view (requireAdmin caller) := by
  unfold requireAdmin; infer_instance

instance (caller allowed : Address) : Tx.Keeps view (requireAdminOr caller allowed) := by
  unfold requireAdminOr; infer_instance

instance (amount : Int) : Tx.Keeps view (requirePositive amount) := by
  unfold requirePositive; infer_instance

instance (amount : Int) : Tx.Keeps view (requireMinRefundAmount amount) := by
  unfold requireMinRefundAmount; infer_instance

instance (limit : Nat) : Tx.Keeps view (requireValidLimit limit) := by
  unfold requireValidLimit; infer_instance

instance (publicKey payload signature : Bytes) :
    Tx.Keeps view (verifySignature publicKey payload signature) := by
  unfold verifySignature; infer_instance

instance (text : Text) : Tx.Keeps view (requireNonEmptyString text) := by
  unfold requireNonEmptyString; infer_instance

instance (id : Text) : Tx.Keeps view (requireValidId id) := by
  unfold requireValidId; infer_instance

instance (tags : Option (List Text)) : Tx.Keeps view (validateTags tags) := by
  unfold validateTags; infer_instance

instance (category : MerchantCategory) : Tx.Keeps view (validateMerchantCategory category) := by
  unfold validateMerchantCategory; infer_instance

instance (memo : Text) : Tx.Keeps view (requireValidMemo memo) := by
  unfold requireValidMemo; infer_instance

variable [Narrow view]

set_option synthInstance.maxSize 400 in
instance (address : Address) : Tx.Keeps view (recordAuthFailure address) := by
  unfold recordAuthFailure; infer_instance

instance (caller : Address) : Tx.Keeps view (requireAdminRateLimited caller) := by
  unfold requireAdminRateLimited; infer_instance

instance (entry : AdminAuditEntry) : Tx.Keeps view (appendAdminAuditEntry entry) := by
  unfold appendAdminAuditEntry; infer_instance

instance (action : AdminActionType) (caller : Address) (params : Text) :
    Tx.Keeps view (appendAudit action caller params) := by
  unfold appendAudit; infer_instance

instance (merchant : Address) (orderId : Text) :
    Tx.Keeps view (addMerchantPaymentId merchant orderId) where
  kept committed := by
    simp [addMerchantPaymentId] at committed
    obtain ⟨_, rfl⟩ := committed
    exact Narrow.same rfl

instance (payer : Address) (orderId : Text) : Tx.Keeps view (addPayerPaymentId payer orderId) where
  kept committed := by
    simp [addPayerPaymentId] at committed
    obtain ⟨_, rfl⟩ := committed
    exact Narrow.same rfl

instance (merchant : Address) (windowStart : Nat) :
    Tx.Keeps view (incrementRateLimitCounter merchant windowStart) where
  kept committed := by
    simp [incrementRateLimitCounter] at committed
    obtain ⟨_, rfl⟩ := committed
    exact Narrow.same rfl

instance (token : Address) : Tx.Keeps view (requireTokenAllowed token) := by
  unfold requireTokenAllowed; infer_instance

instance (orderId : Text) (merchant : Address) : Tx.Keeps view (openOrder orderId merchant) := by
  unfold openOrder; infer_instance

instance (merchant : Address) : Tx.Keeps view (consumeRateLimit merchant) := by
  unfold consumeRateLimit; infer_instance

instance (merchant : Address) (amount : Int) :
    Tx.Keeps view (countMerchantPayment merchant amount) := by
  unfold countMerchantPayment; infer_instance

instance (stats : GlobalStats) (amount : Int) : Tx.Keeps view (countedPayment stats amount) := by
  unfold countedPayment; infer_instance

instance (amount : Int) : Tx.Keeps view (countGlobalPayment amount) := by
  unfold countGlobalPayment; infer_instance

instance (payment : PaymentOrder) : Tx.Keeps view (recordPayment payment) := by
  unfold recordPayment; infer_instance

instance (payment : PaymentOrder) : Tx.Keeps view (recordPaymentBestEffort payment) := by
  unfold recordPaymentBestEffort; infer_instance

instance [IgnoresTransfers view] (payer : Address) (orderId : Text) (merchant token : Address)
    (amount : Int) : Tx.Keeps view (transferWithFee payer orderId merchant token amount) := by
  unfold transferWithFee
  with_reducible refine Tx.keeps_bind inferInstance fun _ => ?_
  dsimp only
  split <;>
    (repeat with_reducible refine Tx.keeps_bind inferInstance fun _ => ?_) <;>
    infer_instance

instance (seenIds : List Text) (item : BatchPaymentItem) :
    Tx.Keeps view (validateBatchItem seenIds item) := by
  unfold validateBatchItem
  repeat with_reducible refine Tx.keeps_bind inferInstance fun _ => ?_
  infer_instance

instance (groups : List PaymentGroup) (item : BatchPaymentItem) :
    Tx.Keeps view (addToGroups groups item) := by
  unfold addToGroups; infer_instance

instance (payer : Address) (now : Nat) (stats : GlobalStats) (item : BatchPaymentItem) :
    Tx.Keeps view (storeBatchItem payer now stats item) := by
  unfold storeBatchItem; infer_instance

instance (cutoff cleaned : Nat) (id : Text) :
    Tx.Keeps view (removeExpiredPayment cutoff cleaned id) := by
  unfold removeExpiredPayment; infer_instance

instance (caller : Address) (refundId : Text) (status : RefundStatus) :
    Tx.Keeps view (decideRefund caller refundId status) := by
  unfold decideRefund
  repeat with_reducible refine Tx.keeps_bind inferInstance fun _ => ?_
  infer_instance

instance (merchant : Address) (amount : Int) :
    Tx.Keeps view (countMerchantRefund merchant amount) := by
  unfold countMerchantRefund; infer_instance

instance (amount : Int) : Tx.Keeps view (countGlobalRefund amount) := by
  unfold countGlobalRefund; infer_instance

instance [IgnoresTransfers view] (refundId : Text) : Tx.Keeps view (forceRefund refundId) := by
  unfold forceRefund
  repeat with_reducible refine Tx.keeps_bind inferInstance fun _ => ?_
  infer_instance

instance (cutoff removed : Nat) (refundId : Text) :
    Tx.Keeps view (removeExpiredRefund cutoff removed refundId) := by
  unfold removeExpiredRefund; infer_instance

instance (admin : Address) : Tx.Keeps view (cleanupExpiredRefunds admin) := by
  unfold cleanupExpiredRefunds
  repeat with_reducible refine Tx.keeps_bind inferInstance fun _ => ?_
  infer_instance

instance [IgnoresMultisigs view] (caller : Address) (paymentId : Text) :
    Tx.Keeps view (cancelMultisigPayment caller paymentId) := by
  unfold cancelMultisigPayment
  repeat with_reducible refine Tx.keeps_bind inferInstance fun _ => ?_
  infer_instance

instance (caller : Address) (payment : PaymentOrder) :
    Tx.Keeps view (requireParty caller payment) := by
  unfold requireParty; infer_instance

instance (dateStart dateEnd : Option Nat) (stats : GlobalStats) (orderId : Text) :
    Tx.Keeps view (addToRange dateStart dateEnd stats orderId) where
  kept committed := by
    obtain ⟨found, middle, reading, counted⟩ := Tx.commits_bind.mp committed
    obtain ⟨_, rfl⟩ := Tx.commits_gets.mp reading
    cases found with
    | none => rw [(Tx.commits_pure.mp counted).2]
    | some payment => exact Tx.Keeps.kept counted

instance : Tx.Keeps view addActiveMerchant := by
  unfold addActiveMerchant; infer_instance

instance (now removed : Nat) (requestId : Text) :
    Tx.Keeps view (removeExpiredRequest now removed requestId) where
  kept committed := by
    obtain ⟨found, middle, reading, removing⟩ := Tx.commits_bind.mp committed
    obtain ⟨_, rfl⟩ := Tx.commits_gets.mp reading
    cases found with
    | none =>
        simp at removing
        obtain ⟨_, rfl⟩ := removing
        exact Narrow.same rfl
    | some request =>
        simp at removing
        rcases removing with ⟨_, _, _, rfl⟩ | ⟨_, _, rfl⟩
        · exact Narrow.same rfl
        · rfl

end Parts

section Calls

variable {View : Type} {view : World → View} [Narrow view]

/-- The token whose place on the allow list the call sets. -/
def AdminCall.listedToken : AdminCall → Option Address
  | .addAllowedToken _ token _ => some token
  | .addAllowedTokenUnaudited _ token => some token
  | .removeAllowedToken _ token => some token
  | .removeAllowedTokenUnaudited _ token => some token
  | _ => none

theorem AdminCall.keeps (call : AdminCall)
    (tokens : ∀ token ∈ call.listedToken, IgnoresListing view token) :
    Tx.Keeps view call.exec := by
  cases call with
  | addAllowedToken admin token
  | addAllowedTokenUnaudited admin token
  | removeAllowedToken admin token
  | removeAllowedTokenUnaudited admin token =>
      have ignores := tokens token rfl
      simp only [AdminCall.exec, Contract.addAllowedToken, Contract.addAllowedTokenUnaudited,
        Contract.removeAllowedToken, Contract.removeAllowedTokenUnaudited]
      repeat with_reducible refine Tx.keeps_bind inferInstance fun _ => ?_
      infer_instance
  | _ =>
      simp only [AdminCall.exec, Tx.discard_bind, Contract.setAdmin, Contract.transferAdmin,
        Contract.resetAuthLockout, Contract.setPaymentCleanupPeriod, Contract.setPlatformFee,
        Contract.setPlatformFeeLogged, Contract.setLargePaymentThreshold,
        Contract.setMultisigExpiryDuration, Contract.setMultisigExpiryDurationLogged,
        Contract.setMaxSigners, Contract.setRefundWindow, Contract.setRefundWindowLogged,
        Contract.setMinRefundAmount, Contract.setMinRefundAmountLogged,
        Contract.setSignatureExpiryWindow, Contract.setRateLimit, Contract.setPaymentRateLimit,
        Contract.setPaymentRateWindow, Contract.setRefundRetentionPeriod, Contract.pauseContract,
        Contract.unpauseContract, Contract.pauseWithReason, Contract.setPauseGuardians,
        Contract.approveEarlyUnpause, Contract.addAllowedIssuer, Contract.removeAllowedIssuer,
        Contract.getContractVersion, Contract.setContractVersion, Contract.migrateStorageKeys,
        Contract.assertVersionMatches, Contract.upgrade, Contract.migrate,
        Contract.checkUpgradeCompatibility, Contract.getAdminAuditLog]
      repeat with_reducible refine Tx.keeps_bind inferInstance fun _ => ?_
      infer_instance

theorem MerchantCall.keeps (call : MerchantCall) : Tx.Keeps view call.exec := by
  cases call <;>
    simp only [MerchantCall.exec, Contract.commitMerchantRegistration,
      Contract.revealMerchantRegistration, Contract.registerMerchant, Contract.updateMerchant,
      Contract.deactivateMerchant, Contract.reactivateMerchant, Contract.verifyMerchant,
      Contract.unverifyMerchant, Contract.getMerchant, Contract.isRegistered,
      Contract.getMerchantStats, Contract.getMerchants] <;>
    (repeat with_reducible refine Tx.keeps_bind inferInstance fun _ => ?_) <;>
    infer_instance

/-- The payer whose nonce the call uses. -/
def PaymentCall.noncePayer : PaymentCall → Option Address
  | .processPaymentWithNonce payer .. => some payer
  | _ => none

/-- The merchant whose nonce the call uses. -/
def PaymentCall.nonceMerchant : PaymentCall → Option Address
  | .processPaymentWithSignature _ _ merchantAddress .. => some merchantAddress
  | _ => none

theorem PaymentCall.keeps [IgnoresTransfers view] (call : PaymentCall)
    (payers : ∀ payer ∈ call.noncePayer, IgnoresNonce view payer)
    (merchants : ∀ merchant ∈ call.nonceMerchant, IgnoresMerchantNonce view merchant) :
    Tx.Keeps view call.exec := by
  cases call with
  | processPaymentWithSignature payer orderId merchantAddress =>
      have ignores := merchants merchantAddress rfl
      simp only [PaymentCall.exec, Contract.processPaymentWithSignature]
      repeat with_reducible refine Tx.keeps_bind inferInstance fun _ => ?_
      infer_instance
  | processPaymentWithNonce payer =>
      have ignores := payers payer rfl
      simp only [PaymentCall.exec, Contract.processPaymentWithNonce]
      repeat with_reducible refine Tx.keeps_bind inferInstance fun _ => ?_
      infer_instance
  | _ =>
      simp only [PaymentCall.exec, Tx.discard_bind, Contract.batchPayment,
        Contract.updatePaymentStatus, Contract.archivePaymentRecord,
        Contract.cleanupExpiredPayments, Contract.getPaymentById, Contract.getPaymentSummary,
        Contract.getMerchantPaymentHistory, Contract.getPayerPaymentHistory,
        Contract.getGlobalPaymentStats,
        Contract.getAccountPaymentCount, Contract.getPayerNonce, Contract.getMerchantNonce]
      repeat with_reducible refine Tx.keeps_bind inferInstance fun _ => ?_
      infer_instance

theorem RefundCall.keeps [IgnoresTransfers view] (call : RefundCall) :
    Tx.Keeps view call.exec := by
  cases call <;>
    simp only [RefundCall.exec, Tx.discard_bind, Contract.initiateRefund, Contract.approveRefund,
      Contract.rejectRefund, Contract.executeRefund,
      Contract.raiseDispute, Contract.resolveDispute, Contract.initiateDispute,
      Contract.markDisputeUnderReview, Contract.escalateDispute, Contract.getRefundsForOrder,
      Contract.getRefund, Contract.getDispute] <;>
    (repeat with_reducible refine Tx.keeps_bind inferInstance fun _ => ?_) <;>
    infer_instance

theorem MultisigCall.keeps [IgnoresMultisigs view] [IgnoresTransfers view] (call : MultisigCall) :
    Tx.Keeps view call.exec := by
  cases call <;>
    simp only [MultisigCall.exec, Contract.initiateMultisigPayment, Contract.signMultisigPayment,
      Contract.getMultisigPayment,
      Contract.executeMultisigPayment, Contract.createPaymentRequest,
      Contract.payPaymentRequest, Contract.cancelPaymentRequest,
      Contract.cancelExpiredPaymentRequests] <;>
    (repeat with_reducible refine Tx.keeps_bind inferInstance fun _ => ?_) <;>
    infer_instance

theorem SubscriptionCall.keeps [IgnoresSubscriptions view] (call : SubscriptionCall) :
    Tx.Keeps view call.exec := by
  cases call <;>
    simp only [SubscriptionCall.exec, Contract.createSubscriptionPlan, Contract.subscribe,
      Contract.chargeSubscription, Contract.cancelSubscription,
      Contract.renewSubscriptionAllowance, Contract.getSubscriptionPlan,
      Contract.getSubscription] <;>
    (repeat with_reducible refine Tx.keeps_bind inferInstance fun _ => ?_) <;>
    infer_instance

theorem EscrowCall.keeps [IgnoresTransfers view] (call : EscrowCall) :
    Tx.Keeps view call.exec := by
  cases call <;>
    simp only [EscrowCall.exec, Tx.discard_bind, Contract.createEscrow, Contract.releaseEscrow,
      Contract.cancelEscrowBeforeLock, Contract.getEscrow, Contract.escrowHold,
      Contract.escrowRelease, Contract.escrowCancel, Contract.getEscrowHold] <;>
    (repeat with_reducible refine Tx.keeps_bind inferInstance fun _ => ?_) <;>
    infer_instance

/-- The view shows nothing of what the call writes. -/
def Call.Ignored (view : World → View) : Call → Prop
  | .admin call => ∀ token ∈ call.listedToken, IgnoresListing view token
  | .payment call =>
      (∀ payer ∈ call.noncePayer, IgnoresNonce view payer) ∧
        ∀ merchant ∈ call.nonceMerchant, IgnoresMerchantNonce view merchant
  | .multisig _ => IgnoresMultisigs view
  | .subscription _ => IgnoresSubscriptions view
  | _ => True

theorem Call.keeps [IgnoresTransfers view] (call : Call) (ignored : call.Ignored view) :
    Tx.Keeps view call.exec := by
  cases call with
  | admin call => exact call.keeps ignored
  | merchant call => exact call.keeps
  | payment call => exact call.keeps ignored.1 ignored.2
  | refund call => exact call.keeps
  | multisig call =>
      have : IgnoresMultisigs view := ignored
      exact call.keeps
  | subscription call =>
      have : IgnoresSubscriptions view := ignored
      exact call.keeps
  | escrow call => exact call.keeps

end Calls

variable {View : Type} {view : World → View} {host : Host} {world : World}

theorem step_keeps {auth : List Address} {permits : TokenCall → Bool} {call : Call}
    (keeps : Tx.Keeps view call.exec) :
    view (step host world (.invoke auth permits call)) = view world := by
  rcases step_invoke_cases host world auth permits call with succeeded | ⟨_, same⟩
  · exact keeps.kept succeeded.executes
  · rw [same]

end LumenFlow

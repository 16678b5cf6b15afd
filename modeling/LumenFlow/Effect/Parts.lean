import LumenFlow.Kit.Frame
import LumenFlow.Model.Call

/-!
# The parts of the ledger that a call writes

The world falls into parts, and every public function has a list of the parts that it may
write.  The instances derive the list of a function from the way it is built.
-/

namespace LumenFlow

open Kit Contract

inductive Part where
  | admin | pausing | authFailures | lockouts | audit | versions
  | cleanupPeriod | platformFeeBps | feeRecipient | refundWindow | refundRetention
  | largePaymentThreshold | minRefundAmount | multisigExpiry | maxSigners | rateLimit
  | signatureExpiry | allowedTokens | allowedIssuers | legacy
  | profiles | merchantList | commitments
  | merchantStats | totals | activeMerchants
  | orders | merchantIds | payerIds | nonces | merchantNonces | rateCounters
  | refunds | orderRefundIds | disputes | multisigs | requests | requestIds
  | plans | subscriptions | reserves | escrows | holds
  | tokens | clock
  deriving DecidableEq

/-- The pause and what lifts it. -/
structure Pausing where
  paused : Bool
  reason : Option Text
  lockUntil : Option Nat
  guardians : List Address
  approvals : List Address

def World.pausing (world : World) : Pausing where
  paused := world.gov.paused
  reason := world.gov.pauseReason
  lockUntil := world.gov.unpauseLockUntil
  guardians := world.gov.pauseGuardians
  approvals := world.gov.earlyUnpauseApprovals

/-- The global counters of payments and refunds. -/
structure Totals where
  payments : Nat
  volume : Int
  refunds : Nat
  refundVolume : Int
  deriving DecidableEq

def GlobalStats.totals (stats : GlobalStats) : Totals :=
  ⟨stats.totalPayments, stats.totalVolume, stats.totalRefunds, stats.totalRefundVolume⟩

namespace Part

def Content : Part → Type
  | admin => Option Address
  | pausing => Pausing
  | authFailures => Address → Nat × Nat
  | lockouts => Address → Nat
  | audit => (Nat → Option AdminAuditEntry) × Nat × Option Nat
  | versions => Option Text × Nat
  | cleanupPeriod | refundWindow | refundRetention | multisigExpiry | signatureExpiry => Option Nat
  | platformFeeBps | maxSigners | rateLimit => Option Nat
  | feeRecipient => Option Address
  | largePaymentThreshold | minRefundAmount => Option Int
  | allowedTokens | allowedIssuers => Address → Bool
  | legacy => LegacySymbols
  | profiles => Table Merchant.address
  | merchantList => List Address
  | commitments => Table MerchantCommitment.merchantAddress
  | merchantStats => Address → MerchantStats
  | totals => Totals
  | activeMerchants => Nat
  | orders => Table PaymentOrder.orderId
  | merchantIds | payerIds => Address → List Text
  | nonces | merchantNonces => Address → Nat
  | rateCounters => Address → Nat → Nat
  | refunds => Table RefundRecord.refundId
  | orderRefundIds => Text → List Text
  | disputes => Table DisputeRecord.disputeId
  | multisigs => Table MultisigPayment.paymentId
  | requests => Table PaymentRequest.requestId
  | requestIds => List Text
  | plans => Table SubscriptionPlan.planId
  | subscriptions => Table Subscription.subscriptionId
  | reserves => Address → Address → Int
  | escrows => Table EscrowRecord.orderId
  | holds => Table EscrowHold.escrowId
  | tokens => TokenLedger Address Address × List Transfer
  | clock => Nat × Nat

def read : ∀ part : Part, World → part.Content
  | admin, world => world.gov.admin
  | pausing, world => world.pausing
  | authFailures, world => world.gov.authFailCount
  | lockouts, world => world.gov.authLockoutUntil
  | audit, world => (world.gov.auditEntries, world.gov.auditCount, world.gov.auditMaxEntries)
  | versions, world => (world.gov.storedVersion, world.gov.storageVersion)
  | cleanupPeriod, world => world.config.cleanupPeriod
  | platformFeeBps, world => world.config.platformFeeBps
  | feeRecipient, world => world.config.feeRecipient
  | refundWindow, world => world.config.refundWindow
  | refundRetention, world => world.config.refundRetentionPeriod
  | largePaymentThreshold, world => world.config.largePaymentThreshold
  | minRefundAmount, world => world.config.minRefundAmount
  | multisigExpiry, world => world.config.multisigExpiryDuration
  | maxSigners, world => world.config.maxMultisigSigners
  | rateLimit, world => world.config.rateLimitPerWindow
  | signatureExpiry, world => world.config.signatureExpiryWindow
  | allowedTokens, world => world.config.allowedTokens
  | allowedIssuers, world => world.config.allowedIssuers
  | legacy, world => world.config.legacy
  | profiles, world => world.merchants.records
  | merchantList, world => world.merchants.list
  | commitments, world => world.merchants.commitments
  | merchantStats, world => world.stats.merchant
  | totals, world => world.stats.global.totals
  | activeMerchants, world => world.stats.global.activeMerchants
  | orders, world => world.payments.orders
  | merchantIds, world => world.payments.merchantIds
  | payerIds, world => world.payments.payerIds
  | nonces, world => world.payments.nonces
  | merchantNonces, world => world.payments.merchantNonces
  | rateCounters, world => world.payments.rateLimitCounters
  | refunds, world => world.refunds.records
  | orderRefundIds, world => world.refunds.orderRefundIds
  | disputes, world => world.disputes
  | multisigs, world => world.multisigs
  | requests, world => world.requests.records
  | requestIds, world => world.requests.ids
  | plans, world => world.subscriptions.plans
  | subscriptions, world => world.subscriptions.records
  | reserves, world => world.subscriptions.reserves
  | escrows, world => world.escrows.records
  | holds, world => world.escrows.holds
  | tokens, world => (world.bank, world.transfers)
  | clock, world => (world.timestamp, world.sequence)

end Part

/-- The function writes no part that is not listed. -/
abbrev Writes {Result : Type} (tx : Contract Result) (parts : List Part) : Prop :=
  Tx.Writes Part.read tx parts

/-- A part that a function may not write is the same after it. -/
theorem same_part {Result : Type} {tx : Contract Result} (parts : List Part)
    [writes : Writes tx parts] {env : Env} {world next : World} {result : Result}
    (committed : tx.Commits env world result next) (part : Part) (outside : part ∉ parts) :
    part.read next = part.read world :=
  writes.frame committed part outside

variable {parts : List Part}

theorem writes_modify {change : World → World}
    (same : ∀ world part, part ∉ parts → part.read (change world) = part.read world) :
    Writes (Tx.modify change : Contract Unit) parts where
  frame committed part outside := by
    rw [Tx.commits_modify.mp committed]
    exact same _ part outside

section Updates

/-! Each update writes one part, except that the global statistics are two. -/

instance (admin : Address) [Listed .admin parts] : Writes (write (·.setAdmin admin)) parts :=
  writes_modify fun _ part outside => by
    cases part <;> first | rfl | exact absurd Listed.mem outside

instance (paused : Bool) [Listed .pausing parts] : Writes (write (·.setPaused paused)) parts :=
  writes_modify fun _ part outside => by
    cases part <;> first | rfl | exact absurd Listed.mem outside

instance (reason : Text) [Listed .pausing parts] : Writes (write (·.setPauseReason reason)) parts :=
  writes_modify fun _ part outside => by
    cases part <;> first | rfl | exact absurd Listed.mem outside

instance [Listed .pausing parts] : Writes (write (·.clearPauseReason)) parts :=
  writes_modify fun _ part outside => by
    cases part <;> first | rfl | exact absurd Listed.mem outside

instance (timestamp : Nat) [Listed .pausing parts] :
    Writes (write (·.setUnpauseLockUntil timestamp)) parts :=
  writes_modify fun _ part outside => by
    cases part <;> first | rfl | exact absurd Listed.mem outside

instance [Listed .pausing parts] : Writes (write (·.clearUnpauseLockUntil)) parts :=
  writes_modify fun _ part outside => by
    cases part <;> first | rfl | exact absurd Listed.mem outside

instance (guardians : List Address) [Listed .pausing parts] :
    Writes (write (·.setPauseGuardians guardians)) parts :=
  writes_modify fun _ part outside => by
    cases part <;> first | rfl | exact absurd Listed.mem outside

instance (approvals : List Address) [Listed .pausing parts] :
    Writes (write (·.setEarlyUnpauseApprovals approvals)) parts :=
  writes_modify fun _ part outside => by
    cases part <;> first | rfl | exact absurd Listed.mem outside

instance [Listed .pausing parts] : Writes (write (·.clearEarlyUnpauseApprovals)) parts :=
  writes_modify fun _ part outside => by
    cases part <;> first | rfl | exact absurd Listed.mem outside

instance (address : Address) (count windowStart : Nat) [Listed .authFailures parts] :
    Writes (write (·.setAuthFailCount address count windowStart)) parts :=
  writes_modify fun _ part outside => by
    cases part <;> first | rfl | exact absurd Listed.mem outside

instance (address : Address) (ledger : Nat) [Listed .lockouts parts] :
    Writes (write (·.setAuthLockoutUntil address ledger)) parts :=
  writes_modify fun _ part outside => by
    cases part <;> first | rfl | exact absurd Listed.mem outside

instance (address : Address) [Listed .authFailures parts] [Listed .lockouts parts] :
    Writes (write (·.clearAuthLockout address)) parts :=
  writes_modify fun _ part outside => by
    cases part <;> first | rfl | exact absurd Listed.mem outside

instance (version : Text) [Listed .versions parts] :
    Writes (write (·.setStoredVersion version)) parts :=
  writes_modify fun _ part outside => by
    cases part <;> first | rfl | exact absurd Listed.mem outside

instance (version : Nat) [Listed .versions parts] :
    Writes (write (·.setStorageVersion version)) parts :=
  writes_modify fun _ part outside => by
    cases part <;> first | rfl | exact absurd Listed.mem outside

instance (period : Nat) [Listed .cleanupPeriod parts] :
    Writes (write (·.setCleanupPeriod period)) parts :=
  writes_modify fun _ part outside => by
    cases part <;> first | rfl | exact absurd Listed.mem outside

instance (feeBps : Nat) [Listed .platformFeeBps parts] :
    Writes (write (·.setPlatformFeeBps feeBps)) parts :=
  writes_modify fun _ part outside => by
    cases part <;> first | rfl | exact absurd Listed.mem outside

instance (recipient : Address) [Listed .feeRecipient parts] :
    Writes (write (·.setFeeRecipient recipient)) parts :=
  writes_modify fun _ part outside => by
    cases part <;> first | rfl | exact absurd Listed.mem outside

instance (windowSecs : Nat) [Listed .refundWindow parts] :
    Writes (write (·.setRefundWindow windowSecs)) parts :=
  writes_modify fun _ part outside => by
    cases part <;> first | rfl | exact absurd Listed.mem outside

instance (period : Nat) [Listed .refundRetention parts] :
    Writes (write (·.setRefundRetentionPeriod period)) parts :=
  writes_modify fun _ part outside => by
    cases part <;> first | rfl | exact absurd Listed.mem outside

instance (threshold : Int) [Listed .largePaymentThreshold parts] :
    Writes (write (·.setLargePaymentThreshold threshold)) parts :=
  writes_modify fun _ part outside => by
    cases part <;> first | rfl | exact absurd Listed.mem outside

instance (amount : Int) [Listed .minRefundAmount parts] :
    Writes (write (·.setMinRefundAmount amount)) parts :=
  writes_modify fun _ part outside => by
    cases part <;> first | rfl | exact absurd Listed.mem outside

instance (duration : Nat) [Listed .multisigExpiry parts] :
    Writes (write (·.setMultisigExpiryDuration duration)) parts :=
  writes_modify fun _ part outside => by
    cases part <;> first | rfl | exact absurd Listed.mem outside

instance (limit : Nat) [Listed .maxSigners parts] :
    Writes (write (·.setMaxMultisigSigners limit)) parts :=
  writes_modify fun _ part outside => by
    cases part <;> first | rfl | exact absurd Listed.mem outside

instance (limit : Nat) [Listed .rateLimit parts] :
    Writes (write (·.setRateLimitPerWindow limit)) parts :=
  writes_modify fun _ part outside => by
    cases part <;> first | rfl | exact absurd Listed.mem outside

instance (windowSecs : Nat) [Listed .signatureExpiry parts] :
    Writes (write (·.setSignatureExpiryWindow windowSecs)) parts :=
  writes_modify fun _ part outside => by
    cases part <;> first | rfl | exact absurd Listed.mem outside

instance (token : Address) (allowed : Bool) [Listed .allowedTokens parts] :
    Writes (write (·.setTokenAllowed token allowed)) parts :=
  writes_modify fun _ part outside => by
    cases part <;> first | rfl | exact absurd Listed.mem outside

instance (issuer : Address) (allowed : Bool) [Listed .allowedIssuers parts] :
    Writes (write (·.setIssuerAllowed issuer allowed)) parts :=
  writes_modify fun _ part outside => by
    cases part <;> first | rfl | exact absurd Listed.mem outside

instance (merchant : Merchant) [Listed .profiles parts] :
    Writes (write (·.setMerchant merchant)) parts :=
  writes_modify fun _ part outside => by
    cases part <;> first | rfl | exact absurd Listed.mem outside

instance (address : Address) [Listed .merchantList parts] :
    Writes (write (·.addToMerchantList address)) parts :=
  writes_modify fun _ part outside => by
    cases part <;> first | rfl | exact absurd Listed.mem outside

instance (commitment : MerchantCommitment) [Listed .commitments parts] :
    Writes (write (·.setMerchantCommitment commitment)) parts :=
  writes_modify fun _ part outside => by
    cases part <;> first | rfl | exact absurd Listed.mem outside

instance (address : Address) [Listed .commitments parts] :
    Writes (write (·.removeMerchantCommitment address)) parts :=
  writes_modify fun _ part outside => by
    cases part <;> first | rfl | exact absurd Listed.mem outside

instance (merchant : Address) (stats : MerchantStats) [Listed .merchantStats parts] :
    Writes (write (·.setMerchantStats merchant stats)) parts :=
  writes_modify fun _ part outside => by
    cases part <;> first | rfl | exact absurd Listed.mem outside

instance (stats : GlobalStats) [Listed .totals parts] [Listed .activeMerchants parts] :
    Writes (write (·.setGlobalStats stats)) parts :=
  writes_modify fun _ part outside => by
    cases part <;> first | rfl | exact absurd Listed.mem outside

instance (payment : PaymentOrder) [Listed .orders parts] :
    Writes (write (·.setPayment payment)) parts :=
  writes_modify fun _ part outside => by
    cases part <;> first | rfl | exact absurd Listed.mem outside

instance (orderId : Text) [Listed .orders parts] : Writes (write (·.removePayment orderId)) parts :=
  writes_modify fun _ part outside => by
    cases part <;> first | rfl | exact absurd Listed.mem outside

instance (payer : Address) [Listed .nonces parts] : Writes (write (·.incrementNonce payer)) parts :=
  writes_modify fun _ part outside => by
    cases part <;> first | rfl | exact absurd Listed.mem outside

instance (merchant : Address) [Listed .merchantNonces parts] :
    Writes (write (·.incrementMerchantNonce merchant)) parts :=
  writes_modify fun _ part outside => by
    cases part <;> first | rfl | exact absurd Listed.mem outside

instance (refund : RefundRecord) [Listed .refunds parts] :
    Writes (write (·.setRefund refund)) parts :=
  writes_modify fun _ part outside => by
    cases part <;> first | rfl | exact absurd Listed.mem outside

instance (refundId : Text) [Listed .refunds parts] :
    Writes (write (·.removeRefund refundId)) parts :=
  writes_modify fun _ part outside => by
    cases part <;> first | rfl | exact absurd Listed.mem outside

instance (orderId refundId : Text) [Listed .orderRefundIds parts] :
    Writes (write (·.addOrderRefundId orderId refundId)) parts :=
  writes_modify fun _ part outside => by
    cases part <;> first | rfl | exact absurd Listed.mem outside

instance (orderId : Text) [Listed .orderRefundIds parts] :
    Writes (write (·.removeOrderRefundIndex orderId)) parts :=
  writes_modify fun _ part outside => by
    cases part <;> first | rfl | exact absurd Listed.mem outside

instance (dispute : DisputeRecord) [Listed .disputes parts] :
    Writes (write (·.setDispute dispute)) parts :=
  writes_modify fun _ part outside => by
    cases part <;> first | rfl | exact absurd Listed.mem outside

instance (multisig : MultisigPayment) [Listed .multisigs parts] :
    Writes (write (·.setMultisig multisig)) parts :=
  writes_modify fun _ part outside => by
    cases part <;> first | rfl | exact absurd Listed.mem outside

instance (request : PaymentRequest) [Listed .requests parts] [Listed .requestIds parts] :
    Writes (write (·.setPaymentRequest request)) parts :=
  writes_modify fun _ part outside => by
    cases part <;> first | rfl | exact absurd Listed.mem outside

instance (requestId : Text) [Listed .requests parts] [Listed .requestIds parts] :
    Writes (write (·.removePaymentRequest requestId)) parts :=
  writes_modify fun _ part outside => by
    cases part <;> first | rfl | exact absurd Listed.mem outside

instance (plan : SubscriptionPlan) [Listed .plans parts] :
    Writes (write (·.setSubscriptionPlan plan)) parts :=
  writes_modify fun _ part outside => by
    cases part <;> first | rfl | exact absurd Listed.mem outside

instance (subscription : Subscription) [Listed .subscriptions parts] :
    Writes (write (·.setSubscription subscription)) parts :=
  writes_modify fun _ part outside => by
    cases part <;> first | rfl | exact absurd Listed.mem outside

instance (subscriber token : Address) (amount : Int) [Listed .reserves parts] :
    Writes (write (·.setSubscriptionReserve subscriber token amount)) parts :=
  writes_modify fun _ part outside => by
    cases part <;> first | rfl | exact absurd Listed.mem outside

instance (escrow : EscrowRecord) [Listed .escrows parts] :
    Writes (write (·.setEscrow escrow)) parts :=
  writes_modify fun _ part outside => by
    cases part <;> first | rfl | exact absurd Listed.mem outside

instance (hold : EscrowHold) [Listed .holds parts] : Writes (write (·.setEscrowHold hold)) parts :=
  writes_modify fun _ part outside => by
    cases part <;> first | rfl | exact absurd Listed.mem outside

end Updates

section Checks

/-! The checks write nothing, or the failure count of an admin. -/

instance (address : Address) : Writes (requireAuth address) parts := by
  unfold requireAuth; infer_instance

instance (first second : Nat) : Writes (addU32 first second) parts := by
  unfold addU32; infer_instance

instance (first second : Nat) : Writes (subU32 first second) parts := by
  unfold subU32; infer_instance

instance (first second : Nat) : Writes (addU64 first second) parts := by
  unfold addU64; infer_instance

instance (first second : Int) : Writes (addI128 first second) parts := by
  unfold addI128; infer_instance

instance (first second : Int) : Writes (subI128 first second) parts := by
  unfold subI128; infer_instance

instance (first second : Int) : Writes (mulI128 first second) parts := by
  unfold mulI128; infer_instance

instance : Writes timestamp parts := by
  unfold timestamp; infer_instance

instance : Writes Contract.sequence parts := by
  unfold Contract.sequence; infer_instance

instance : Writes currentContractAddress parts := by
  unfold currentContractAddress; infer_instance

instance (value : Text) (least most : Nat) :
    Writes (requireBoundedString value least most) parts := by
  unfold requireBoundedString; infer_instance

instance : Writes requireNotPaused parts := by
  unfold requireNotPaused; infer_instance

instance (caller : Address) : Writes (requireAdmin caller) parts := by
  unfold requireAdmin; infer_instance

instance (caller allowed : Address) : Writes (requireAdminOr caller allowed) parts := by
  unfold requireAdminOr; infer_instance

instance (amount : Int) : Writes (requirePositive amount) parts := by
  unfold requirePositive; infer_instance

instance (amount : Int) : Writes (requireMinRefundAmount amount) parts := by
  unfold requireMinRefundAmount; infer_instance

instance (limit : Nat) : Writes (requireValidLimit limit) parts := by
  unfold requireValidLimit; infer_instance

instance (publicKey payload signature : Bytes) :
    Writes (verifySignature publicKey payload signature) parts := by
  unfold verifySignature; infer_instance

instance (text : Text) : Writes (requireNonEmptyString text) parts := by
  unfold requireNonEmptyString; infer_instance

instance (id : Text) : Writes (requireValidId id) parts := by
  unfold requireValidId; infer_instance

instance (tags : Option (List Text)) : Writes (validateTags tags) parts := by
  unfold validateTags; infer_instance

instance (category : MerchantCategory) : Writes (validateMerchantCategory category) parts := by
  unfold validateMerchantCategory; infer_instance

instance (memo : Text) : Writes (requireValidMemo memo) parts := by
  unfold requireValidMemo; infer_instance

instance (token : Address) : Writes (requireTokenAllowed token) parts := by
  unfold requireTokenAllowed; infer_instance

instance (orderId : Text) (merchant : Address) : Writes (openOrder orderId merchant) parts := by
  unfold openOrder
  repeat with_reducible refine Tx.writes_bind inferInstance fun _ => ?_
  infer_instance

instance (caller : Address) (payment : PaymentOrder) :
    Writes (requireParty caller payment) parts := by
  unfold requireParty; infer_instance

instance (stats : GlobalStats) (amount : Int) : Writes (countedPayment stats amount) parts := by
  unfold countedPayment; infer_instance

instance (groups : List PaymentGroup) (item : BatchPaymentItem) :
    Writes (addToGroups groups item) parts := by
  unfold addToGroups; infer_instance

instance (caller : Address) [Listed .authFailures parts] :
    Writes (requireAdminRateLimited caller) parts where
  frame committed part outside := by
    obtain ⟨_, rfl⟩ := commits_requireAdminRateLimited.mp committed
    cases part <;> first | rfl | exact absurd Listed.mem outside

instance (dateStart dateEnd : Option Nat) (stats : GlobalStats) (orderId : Text) :
    Writes (addToRange dateStart dateEnd stats orderId) parts := by
  unfold addToRange
  refine Tx.writes_bind inferInstance fun found => ?_
  cases found with
  | none => infer_instance
  | some payment =>
      dsimp only
      infer_instance

end Checks

section Tokens

instance (cause : Cause) (token sender recipient : Address) (amount : Int) [Listed .tokens parts] :
    Writes (tokenTransfer cause token sender recipient amount) parts where
  frame committed part outside := by
    obtain ⟨_, _, _, _, rfl⟩ := commits_tokenTransfer.mp committed
    cases part <;> first | rfl | exact absurd Listed.mem outside

instance (cause : Cause) (token owner recipient : Address) (amount : Int) [Listed .tokens parts] :
    Writes (tokenTransferFrom cause token owner recipient amount) parts where
  frame committed part outside := by
    obtain ⟨_, _, _, _, rfl⟩ := commits_tokenTransferFrom.mp committed
    cases part <;> first | rfl | exact absurd Listed.mem outside

instance (token owner : Address) (amount : Int) [Listed .tokens parts] :
    Writes (tokenApprove token owner amount) parts where
  frame committed part outside := by
    obtain ⟨_, _, _, rfl⟩ := commits_tokenApprove.mp committed
    cases part <;> first | rfl | exact absurd Listed.mem outside

end Tokens

section Helpers

instance (entry : AdminAuditEntry) [Listed .audit parts] :
    Writes (appendAdminAuditEntry entry) parts where
  frame committed part outside := by
    simp [appendAdminAuditEntry] at committed
    rcases committed with ⟨_, ⟨_, rfl⟩ | ⟨_, rfl⟩, _, rfl⟩ <;>
      cases part <;> first | rfl | exact absurd Listed.mem outside

instance (action : AdminActionType) (caller : Address) (params : Text) [Listed .audit parts] :
    Writes (appendAudit action caller params) parts := by
  unfold appendAudit; infer_instance

instance (merchant : Address) (orderId : Text) [Listed .merchantIds parts] :
    Writes (addMerchantPaymentId merchant orderId) parts where
  frame committed part outside := by
    simp [addMerchantPaymentId] at committed
    obtain ⟨_, rfl⟩ := committed
    cases part <;> first | rfl | exact absurd Listed.mem outside

instance (payer : Address) (orderId : Text) [Listed .payerIds parts] :
    Writes (addPayerPaymentId payer orderId) parts where
  frame committed part outside := by
    simp [addPayerPaymentId] at committed
    obtain ⟨_, rfl⟩ := committed
    cases part <;> first | rfl | exact absurd Listed.mem outside

instance (merchant : Address) (windowStart : Nat) [Listed .rateCounters parts] :
    Writes (incrementRateLimitCounter merchant windowStart) parts where
  frame committed part outside := by
    simp [incrementRateLimitCounter] at committed
    obtain ⟨_, rfl⟩ := committed
    cases part <;> first | rfl | exact absurd Listed.mem outside

instance (merchant : Address) [Listed .rateCounters parts] :
    Writes (consumeRateLimit merchant) parts := by
  unfold consumeRateLimit
  repeat with_reducible refine Tx.writes_bind inferInstance fun _ => ?_
  infer_instance

instance (merchant : Address) (amount : Int) [Listed .merchantStats parts] :
    Writes (countMerchantPayment merchant amount) parts := by
  unfold countMerchantPayment; infer_instance

instance (merchant : Address) (amount : Int) [Listed .merchantStats parts] :
    Writes (countMerchantRefund merchant amount) parts := by
  unfold countMerchantRefund; infer_instance

instance (amount : Int) [Listed .totals parts] : Writes (countGlobalPayment amount) parts where
  frame committed part outside := by
    simp [countGlobalPayment, countedPayment] at committed
    obtain ⟨_, rfl⟩ := committed
    cases part <;> first | rfl | exact absurd Listed.mem outside

instance (amount : Int) [Listed .totals parts] : Writes (countGlobalRefund amount) parts where
  frame committed part outside := by
    simp [countGlobalRefund] at committed
    obtain ⟨_, rfl⟩ := committed
    cases part <;> first | rfl | exact absurd Listed.mem outside

instance [Listed .activeMerchants parts] : Writes addActiveMerchant parts where
  frame committed part outside := by
    simp [addActiveMerchant] at committed
    obtain ⟨_, rfl⟩ := committed
    cases part <;> first | rfl | exact absurd Listed.mem outside

instance (payment : PaymentOrder)
    [Listed .orders parts] [Listed .merchantIds parts] [Listed .payerIds parts] :
    Writes (recordPayment payment) parts := by
  unfold recordPayment; infer_instance

instance (payment : PaymentOrder)
    [Listed .orders parts] [Listed .merchantIds parts] [Listed .payerIds parts] :
    Writes (recordPaymentBestEffort payment) parts := by
  unfold recordPaymentBestEffort
  repeat with_reducible refine Tx.writes_bind inferInstance fun _ => ?_
  infer_instance

instance (payer : Address) (orderId : Text) (merchant token : Address) (amount : Int)
    [Listed .tokens parts] :
    Writes (transferWithFee payer orderId merchant token amount) parts := by
  unfold transferWithFee
  with_reducible refine Tx.writes_bind inferInstance fun _ => ?_
  dsimp only
  split <;>
    (repeat with_reducible refine Tx.writes_bind inferInstance fun _ => ?_) <;>
    infer_instance

instance (seenIds : List Text) (item : BatchPaymentItem) [Listed .rateCounters parts] :
    Writes (validateBatchItem seenIds item) parts := by
  unfold validateBatchItem
  repeat with_reducible refine Tx.writes_bind inferInstance fun _ => ?_
  infer_instance

instance (payer : Address) (now : Nat) (stats : GlobalStats) (item : BatchPaymentItem)
    [Listed .orders parts] [Listed .merchantIds parts] [Listed .payerIds parts]
    [Listed .profiles parts] [Listed .merchantStats parts] :
    Writes (storeBatchItem payer now stats item) parts := by
  unfold storeBatchItem
  repeat with_reducible refine Tx.writes_bind inferInstance fun _ => ?_
  infer_instance

instance (cutoff cleaned : Nat) (id : Text)
    [Listed .refunds parts] [Listed .orderRefundIds parts] [Listed .orders parts] :
    Writes (removeExpiredPayment cutoff cleaned id) parts := by
  unfold removeExpiredPayment
  repeat with_reducible refine Tx.writes_bind inferInstance fun _ => ?_
  infer_instance

instance (caller : Address) (refundId : Text) (status : RefundStatus) [Listed .refunds parts] :
    Writes (decideRefund caller refundId status) parts := by
  unfold decideRefund
  repeat with_reducible refine Tx.writes_bind inferInstance fun _ => ?_
  infer_instance

instance (refundId : Text)
    [Listed .orders parts] [Listed .refunds parts] [Listed .totals parts]
    [Listed .merchantStats parts] [Listed .tokens parts] :
    Writes (forceRefund refundId) parts := by
  unfold forceRefund
  repeat with_reducible refine Tx.writes_bind inferInstance fun _ => ?_
  infer_instance

instance (cutoff removed : Nat) (refundId : Text) [Listed .refunds parts] :
    Writes (removeExpiredRefund cutoff removed refundId) parts := by
  unfold removeExpiredRefund
  repeat with_reducible refine Tx.writes_bind inferInstance fun _ => ?_
  infer_instance

instance (now removed : Nat) (requestId : Text) [Listed .requests parts]
    [Listed .requestIds parts] :
    Writes (removeExpiredRequest now removed requestId) parts := by
  unfold removeExpiredRequest
  refine Tx.writes_bind inferInstance fun found => ?_
  cases found with
  | none => infer_instance
  | some request =>
      dsimp only
      infer_instance

end Helpers

end LumenFlow

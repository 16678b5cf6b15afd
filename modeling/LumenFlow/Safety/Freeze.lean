import LumenFlow.Effect.Failures
import LumenFlow.Effect.Sweeps
import LumenFlow.Safety.Pause

/-!
# What a pause freezes

While the contract is paused, the calls that check the flag fail with `ContractPaused` and most
of the others write no record.  Five calls write records without looking at the flag.
-/

namespace LumenFlow

open Kit Contract

/-- The stored records. -/
structure Records where
  merchants : Table Merchant.address
  payments : Table PaymentOrder.orderId
  refunds : Table RefundRecord.refundId
  disputes : Table DisputeRecord.disputeId
  multisigs : Table MultisigPayment.paymentId
  requests : Table PaymentRequest.requestId
  plans : Table SubscriptionPlan.planId
  subscriptions : Table Subscription.subscriptionId
  escrows : Table EscrowRecord.orderId
  holds : Table EscrowHold.escrowId

def World.records (world : World) : Records where
  merchants := world.merchants.records
  payments := world.payments.orders
  refunds := world.refunds.records
  disputes := world.disputes
  multisigs := world.multisigs
  requests := world.requests.records
  plans := world.subscriptions.plans
  subscriptions := world.subscriptions.records
  escrows := world.escrows.records
  holds := world.escrows.holds

/-- The call would change a record, and nothing in it looks at the pause flag. -/
def Call.Overlooks (world : World) : Call → Prop
  | .merchant (.updateMerchant merchantAddress name description contactInfo category) =>
      ∃ merchant, world.getMerchant merchantAddress = some merchant ∧
        { merchant with name, description, contactInfo, category } ≠ merchant
  | .merchant (.verifyMerchant _ merchantAddress) =>
      ∃ merchant, world.getMerchant merchantAddress = some merchant ∧ merchant.verified = false
  | .multisig (.cancelMultisigPayment ..) => True
  | .multisig (.cancelExpiredPaymentRequests _) =>
      ∃ requestId, world.requests.records.Sweeps (PaymentRequest.Expired world.timestamp)
        world.requests.ids requestId
  | .refund (.cleanupExpiredRefunds _) =>
      ∃ refundId, world.refunds.records.Sweeps (RefundRecord.Settled world.retentionCutoff)
        world.listedRefundIds refundId
  | _ => False

/-- The call mutates the state other than by pausing, unpausing and configuring the contract. -/
def Call.Mutates : Call → Prop
  | .admin _ => False
  | .merchant (.getMerchant _) | .merchant (.isRegistered _) | .merchant (.getMerchantStats _)
  | .merchant (.getMerchants ..) => False
  | .payment (.getPaymentById ..) | .payment (.getPaymentSummary _)
  | .payment (.getMerchantPaymentHistory ..) | .payment (.getPayerPaymentHistory ..)
  | .payment (.getGlobalPaymentStats ..) | .payment (.getAccountPaymentCount _)
  | .payment (.getPayerNonce _) | .payment (.getMerchantNonce _) => False
  | .refund (.getRefundsForOrder ..) | .refund (.getRefund ..) | .refund (.getDispute _) => False
  | .multisig (.getMultisigPayment ..) => False
  | .subscription (.getSubscriptionPlan _) | .subscription (.getSubscription ..) => False
  | .escrow (.getEscrow _) | .escrow (.getEscrowHold _) => False
  | _ => True

/-- The call mutates the state and nothing in it looks at the pause flag. -/
def Call.Unguarded : Call → Prop
  | .merchant (.updateMerchant ..) | .merchant (.verifyMerchant ..)
  | .multisig (.cancelMultisigPayment ..) | .multisig (.cancelExpiredPaymentRequests _)
  | .refund (.cleanupExpiredRefunds _) => True
  | _ => False

theorem Call.Overlooks.unguarded {world : World} {call : Call} (overlooks : call.Overlooks world) :
    call.Unguarded := by
  unfold Overlooks at overlooks
  split at overlooks
  all_goals trivial

/-- What a pause promises for a call: that it leaves every record alone, and that it is refused
for the pause if it mutates the state. -/
structure World.Freezes (host : Host) (world : World) (auth : List Address)
    (permits : TokenCall → Bool) (call : Call) : Prop where
  records : (step host world (.invoke auth permits call)).records = world.records
  refused : call.Mutates →
    call.exec.Fails (host.env auth permits) world (.error .contractPaused)

/-- The transaction fails with `ContractPaused` while the contract is paused. -/
class Guarded {Result : Type} (tx : Contract Result) : Prop where
  refused : ∀ {env world}, world.gov.paused = true → tx.Fails env world (.error .contractPaused)

instance {Result : Type} (rest : Unit → Contract Result) :
    Guarded (requireNotPaused >>= rest) where
  refused paused := Tx.fails_bind.mpr (.inl (fails_requireNotPaused.mpr ⟨paused, rfl⟩))

/-- All outcomes of a failure except that the contract is paused. -/
@[reducible]
def Failure.besidesPause : Failure → Bool
  | .error .contractPaused => false
  | _ => true

/-- The function never fails because the contract is paused. -/
abbrev Unpausing {Result : Type} (tx : Contract Result) : Prop :=
  Tx.Raises Failure.besidesPause tx

section Unpausing

instance (address : Address) : Unpausing (requireAuth address) := by
  unfold requireAuth; infer_instance

instance (first second : Nat) : Unpausing (addU32 first second) := by
  unfold addU32; infer_instance

instance (caller : Address) : Unpausing (requireAdmin caller) := by
  unfold requireAdmin; infer_instance

set_option synthInstance.maxSize 400 in
instance (address : Address) : Unpausing (recordAuthFailure address) := by
  unfold recordAuthFailure Contract.sequence; infer_instance

instance (caller : Address) : Unpausing (requireAdminRateLimited caller) := by
  unfold requireAdminRateLimited; infer_instance

instance (text : Text) : Unpausing (requireNonEmptyString text) := by
  unfold requireNonEmptyString; infer_instance

instance (category : MerchantCategory) : Unpausing (validateMerchantCategory category) := by
  unfold validateMerchantCategory; infer_instance

instance (now removed : Nat) (requestId : Text) :
    Unpausing (removeExpiredRequest now removed requestId) := by
  unfold removeExpiredRequest
  refine Tx.raises_bind inferInstance fun found => ?_
  cases found with
  | none => infer_instance
  | some request => infer_instance

instance (cutoff removed : Nat) (refundId : Text) :
    Unpausing (removeExpiredRefund cutoff removed refundId) := by
  unfold removeExpiredRefund; infer_instance

set_option synthInstance.maxSize 1000 in
theorem Call.Unguarded.unpausing {call : Call} (unguarded : call.Unguarded) :
    Unpausing call.exec := by
  unfold Unguarded at unguarded
  split at unguarded
  · simp only [Call.exec, MerchantCall.exec, Contract.updateMerchant]
    infer_instance
  · simp only [Call.exec, MerchantCall.exec, Contract.verifyMerchant]
    infer_instance
  · simp only [Call.exec, MultisigCall.exec, Contract.cancelMultisigPayment]
    infer_instance
  · simp only [Call.exec, MultisigCall.exec, Contract.cancelExpiredPaymentRequests, timestamp]
    infer_instance
  · simp only [Call.exec, RefundCall.exec, Contract.cleanupExpiredRefunds]
    infer_instance
  · exact unguarded.elim

end Unpausing

/-- The parts of the ledger that hold records. -/
def recordParts : List Part :=
  [.profiles, .orders, .refunds, .disputes, .multisigs, .requests, .plans, .subscriptions,
    .escrows, .holds]

theorem records_eq_iff {before after : World} :
    after.records = before.records ↔
      ∀ part ∈ recordParts, part.read after = part.read before := by
  constructor
  · intro same
    simp only [recordParts, List.forall_mem_cons]
    exact ⟨congrArg Records.merchants same, congrArg Records.payments same,
      congrArg Records.refunds same, congrArg Records.disputes same,
      congrArg Records.multisigs same, congrArg Records.requests same,
      congrArg Records.plans same, congrArg Records.subscriptions same,
      congrArg Records.escrows same, congrArg Records.holds same, by simp⟩
  · intro same
    simp only [recordParts, List.forall_mem_cons, Part.read] at same
    simp [World.records, same]

theorem records_eq_iff_part {before after : World} {part : Part} (member : part ∈ recordParts)
    (others : ∀ other ∈ recordParts, other ≠ part → other.read after = other.read before) :
    after.records = before.records ↔ part.read after = part.read before := by
  rw [records_eq_iff]
  refine ⟨fun same => same part member, fun same other otherMember => ?_⟩
  by_cases here : other = part
  · rw [here, same]
  · exact others other otherMember here

section Calls

variable {env : Env} {world next : World}

theorem setMerchant_records {merchantAddress : Address} {old : Merchant} (changed : Merchant)
    (found : world.getMerchant merchantAddress = some old)
    (address : changed.address = old.address) :
    (world.setMerchant changed).records = world.records ↔ changed = old := by
  have stored : world.merchants.records.get changed.address = some old := by
    rw [address, Table.key_of_get found]
    exact found
  rw [← Table.put_eq_self_iff stored]
  simp [World.records]

theorem updateMerchant_records {merchantAddress : Address} {name description contactInfo : Text}
    {category : MerchantCategory}
    (committed : (updateMerchant merchantAddress name description contactInfo category).Commits env
      world () next) :
    next.records = world.records ↔
      ¬ Call.Overlooks world
        (.merchant (.updateMerchant merchantAddress name description contactInfo category)) := by
  simp [updateMerchant] at committed
  obtain ⟨_, _, _, merchant, found, _, rfl⟩ := committed
  have written := setMerchant_records { merchant with name, description, contactInfo, category }
    found rfl
  simpa [Call.Overlooks, found] using written

theorem verifyMerchant_records {admin merchantAddress : Address}
    (committed : (verifyMerchant admin merchantAddress).Commits env world () next) :
    next.records = world.records ↔
      ¬ Call.Overlooks world (.merchant (.verifyMerchant admin merchantAddress)) := by
  simp [verifyMerchant] at committed
  obtain ⟨_, merchant, found, rfl⟩ := committed
  have written := setMerchant_records { merchant with verified := true } found rfl
  have same : { merchant with verified := true } = merchant ↔ merchant.verified = true := by
    constructor
    · intro same
      rw [← same]
    · intro verified
      rw [← verified]
  rw [same] at written
  simpa [Call.Overlooks, found, World.records] using written

theorem cancelMultisigPayment_records {caller : Address} {paymentId : Text}
    (committed : (cancelMultisigPayment caller paymentId).Commits env world () next) :
    next.records ≠ world.records := by
  simp [cancelMultisigPayment] at committed
  obtain ⟨_, multisig, found, _, active, _, rfl⟩ := committed
  obtain rfl := Table.key_of_get found
  intro same
  have tables : world.multisigs.put { multisig with cancelled := true } = world.multisigs :=
    congrArg Records.multisigs same
  have stored : world.multisigs.get { multisig with cancelled := true }.paymentId = some multisig :=
    found
  have cancelled := (Table.put_eq_self_iff stored).mp tables
  rw [← cancelled] at active
  cases active

theorem cancelExpiredPaymentRequests_records {admin : Address}
    (committed : (MultisigCall.cancelExpiredPaymentRequests admin).exec.Commits env world ()
      next) :
    next.records = world.records ↔
      ¬ Call.Overlooks world (.multisig (.cancelExpiredPaymentRequests admin)) := by
  have others : ∀ other ∈ recordParts, other ≠ .requests → other.read next = other.read world := by
    intro other member different
    apply (MultisigCall.writes _).frame committed other
    intro listed
    obtain rfl : other = .requestIds := by simpa [MultisigCall.parts, different] using listed
    simp [recordParts] at member
  obtain ⟨_, removed⟩ := Tx.commits_discard.mp committed
  rw [records_eq_iff_part (by simp [recordParts]) others, Call.Overlooks, not_exists]
  exact (cancelExpiredPaymentRequests_swept removed).eq_iff

theorem cleanupExpiredRefunds_records {admin : Address}
    (committed : (RefundCall.cleanupExpiredRefunds admin).exec.Commits env world () next) :
    next.records = world.records ↔
      ¬ Call.Overlooks world (.refund (.cleanupExpiredRefunds admin)) := by
  have others : ∀ other ∈ recordParts, other ≠ .refunds → other.read next = other.read world :=
    fun other _ different =>
      (RefundCall.writes _).frame committed other (by simpa [RefundCall.parts] using different)
  obtain ⟨_, removed⟩ := Tx.commits_discard.mp committed
  rw [records_eq_iff_part (by simp [recordParts]) others, Call.Overlooks, not_exists]
  exact (cleanupExpiredRefunds_swept removed).eq_iff

theorem silent_records_iff {call : Call} (committed : call.exec.Commits env world () next)
    (silent : ∀ part ∈ recordParts, part ∉ call.parts) (harmless : ¬ call.Unguarded) :
    next.records = world.records ↔ ¬ call.Overlooks world := by
  apply iff_of_true (records_eq_iff.mpr _) (mt Call.Overlooks.unguarded harmless)
  intro part member
  exact call.writes.frame committed part (silent part member)

theorem Call.silent_of_not_mutates {call : Call} (reads : ¬ call.Mutates) :
    ∀ part ∈ recordParts, part ∉ call.parts := by
  cases call with
  | admin call => cases call <;> simp [recordParts, Call.parts, AdminCall.parts]
  | merchant call =>
      cases call <;> first
        | exact absurd trivial reads
        | simp [recordParts, Call.parts, MerchantCall.parts]
  | payment call =>
      cases call <;> first
        | exact absurd trivial reads
        | simp [recordParts, Call.parts, PaymentCall.parts]
  | refund call =>
      cases call <;> first
        | exact absurd trivial reads
        | simp [recordParts, Call.parts, RefundCall.parts]
  | multisig call =>
      cases call <;> first
        | exact absurd trivial reads
        | simp [recordParts, Call.parts, MultisigCall.parts]
  | subscription call =>
      cases call <;> first
        | exact absurd trivial reads
        | simp [recordParts, Call.parts, SubscriptionCall.parts]
  | escrow call =>
      cases call <;> first
        | exact absurd trivial reads
        | simp [recordParts, Call.parts, EscrowCall.parts]

theorem MerchantCall.guarded {call : MerchantCall} (mutates : (Call.merchant call).Mutates)
    (attentive : ¬ (Call.merchant call).Unguarded) : Guarded (Call.merchant call).exec := by
  cases call with
  | updateMerchant | verifyMerchant => exact absurd trivial attentive
  | getMerchant | isRegistered | getMerchantStats | getMerchants => exact mutates.elim
  | _ =>
      simp only [Call.exec, MerchantCall.exec, Contract.commitMerchantRegistration,
        Contract.revealMerchantRegistration, Contract.registerMerchant,
        Contract.deactivateMerchant, Contract.reactivateMerchant, Contract.unverifyMerchant]
      infer_instance

theorem PaymentCall.guarded {call : PaymentCall} (mutates : (Call.payment call).Mutates) :
    Guarded (Call.payment call).exec := by
  cases call with
  | getPaymentById | getPaymentSummary | getMerchantPaymentHistory | getPayerPaymentHistory
  | getGlobalPaymentStats | getAccountPaymentCount | getPayerNonce | getMerchantNonce =>
      exact mutates.elim
  | _ =>
      simp only [Call.exec, PaymentCall.exec, Tx.discard_bind,
        Contract.processPaymentWithSignature, Contract.processPaymentWithNonce,
        Contract.batchPayment, Contract.updatePaymentStatus, Contract.archivePaymentRecord,
        Contract.cleanupExpiredPayments]
      infer_instance

theorem RefundCall.guarded {call : RefundCall} (mutates : (Call.refund call).Mutates)
    (attentive : ¬ (Call.refund call).Unguarded) : Guarded (Call.refund call).exec := by
  cases call with
  | cleanupExpiredRefunds => exact absurd trivial attentive
  | getRefundsForOrder | getRefund | getDispute => exact mutates.elim
  | _ =>
      simp only [Call.exec, RefundCall.exec, Contract.initiateRefund, Contract.approveRefund,
        Contract.rejectRefund, Contract.decideRefund, Contract.executeRefund,
        Contract.raiseDispute, Contract.resolveDispute, Contract.initiateDispute,
        Contract.markDisputeUnderReview, Contract.escalateDispute]
      infer_instance

theorem MultisigCall.guarded {call : MultisigCall} (mutates : (Call.multisig call).Mutates)
    (attentive : ¬ (Call.multisig call).Unguarded) : Guarded (Call.multisig call).exec := by
  cases call with
  | cancelMultisigPayment | cancelExpiredPaymentRequests => exact absurd trivial attentive
  | getMultisigPayment => exact mutates.elim
  | _ =>
      simp only [Call.exec, MultisigCall.exec, Contract.initiateMultisigPayment,
        Contract.signMultisigPayment, Contract.executeMultisigPayment,
        Contract.createPaymentRequest, Contract.payPaymentRequest,
        Contract.cancelPaymentRequest]
      infer_instance

theorem SubscriptionCall.guarded {call : SubscriptionCall}
    (mutates : (Call.subscription call).Mutates) : Guarded (Call.subscription call).exec := by
  cases call with
  | getSubscriptionPlan | getSubscription => exact mutates.elim
  | _ =>
      simp only [Call.exec, SubscriptionCall.exec, Contract.createSubscriptionPlan,
        Contract.subscribe, Contract.chargeSubscription, Contract.cancelSubscription,
        Contract.renewSubscriptionAllowance]
      infer_instance

theorem EscrowCall.guarded {call : EscrowCall} (mutates : (Call.escrow call).Mutates) :
    Guarded (Call.escrow call).exec := by
  cases call with
  | getEscrow | getEscrowHold => exact mutates.elim
  | _ =>
      simp only [Call.exec, EscrowCall.exec, Tx.discard_bind, Contract.createEscrow,
        Contract.releaseEscrow, Contract.cancelEscrowBeforeLock, Contract.escrowHold,
        Contract.escrowRelease, Contract.escrowCancel]
      infer_instance

/-- All other calls that mutate the state check the pause before anything else. -/
theorem Call.guarded {call : Call} (mutates : call.Mutates) (attentive : ¬ call.Unguarded) :
    Guarded call.exec := by
  cases call with
  | admin => exact mutates.elim
  | merchant => exact MerchantCall.guarded mutates attentive
  | payment => exact PaymentCall.guarded mutates
  | refund => exact RefundCall.guarded mutates attentive
  | multisig => exact MultisigCall.guarded mutates attentive
  | subscription => exact SubscriptionCall.guarded mutates
  | escrow => exact EscrowCall.guarded mutates

theorem Call.Unguarded.mutates {call : Call} (unguarded : call.Unguarded) : call.Mutates := by
  unfold Unguarded at unguarded
  split at unguarded
  all_goals trivial

/-- What the functions without a guard change. -/
theorem Call.Unguarded.records_iff {call : Call} (unguarded : call.Unguarded)
    (committed : call.exec.Commits env world () next) :
    next.records = world.records ↔ ¬ call.Overlooks world := by
  unfold Unguarded at unguarded
  split at unguarded
  · exact updateMerchant_records committed
  · exact verifyMerchant_records committed
  · exact iff_of_false (cancelMultisigPayment_records committed) fun harmless => harmless trivial
  · exact cancelExpiredPaymentRequests_records committed
  · exact cleanupExpiredRefunds_records committed
  · exact unguarded.elim

/-- While the contract is paused, an accepted call leaves the records alone unless it is
one of those that overlook the pause. -/
theorem Call.records_iff {call : Call} (committed : call.exec.Commits env world () next)
    (paused : world.gov.paused = true) : next.records = world.records ↔ ¬ call.Overlooks world := by
  by_cases unguarded : call.Unguarded
  · exact unguarded.records_iff committed
  · by_cases mutates : call.Mutates
    · have guarded := Call.guarded mutates unguarded
      exact (Tx.Fails.not_commits (guarded.refused paused) committed).elim
    · exact silent_records_iff committed (Call.silent_of_not_mutates mutates) unguarded

end Calls

section Freeze

variable {host : Host} {world : World} {auth : List Address} {permits : TokenCall → Bool}
  {call : Call}

theorem World.records_kept_iff (paused : world.gov.paused = true) :
    (step host world (.invoke auth permits call)).records = world.records ↔
      (Accepted host world auth permits call → ¬ call.Overlooks world) := by
  by_cases accepted : Accepted host world auth permits call
  · rw [Call.records_iff accepted.succeeds.executes paused]
    simp [accepted]
  · rw [step_of_refused accepted]
    simp [accepted]

end Freeze

/-- While the contract is paused, a call of anybody leaves every record alone and is refused for
the pause if it mutates the state, unless it is one of the five functions without a guard.  Of
these the records stay as they are unless the call is accepted and overlooks the pause. -/
theorem pause_freezes_records_iff {host : Host} {world : World}
    (paused : world.gov.paused = true) (auth : List Address) (permits : TokenCall → Bool)
    (call : Call) :
    (world.Freezes host auth permits call ↔ ¬ call.Unguarded) ∧
      ((step host world (.invoke auth permits call)).records = world.records ↔
        (Accepted host world auth permits call → ¬ call.Overlooks world)) := by
  refine ⟨⟨fun freezes unguarded => ?_, fun attentive => ?_⟩, World.records_kept_iff paused⟩
  · have unpausing := unguarded.unpausing
    exact Tx.not_fails_of_raises Failure.besidesPause call.exec rfl
      (freezes.refused unguarded.mutates)
  · refine ⟨(World.records_kept_iff paused).mpr fun _ => mt Call.Overlooks.unguarded attentive, ?_⟩
    intro mutates
    exact (Call.guarded mutates attentive).refused paused

theorem pause_freezes_records_iff_sample :
    (Sample.world [Sample.pausing]).Freezes Sample.host [Sample.payer] (fun _ => true)
      (.payment (.processPaymentWithNonce Sample.payer [1] Sample.shop Sample.coin 500 [] none
        0)) := by
  have paused : (Sample.world [Sample.pausing]).gov.paused = true := by decide +kernel
  exact (pause_freezes_records_iff paused [Sample.payer] (fun _ => true) _).1.mpr id

namespace Sample

/-- The shop changes its profile. -/
def newProfile : Call := .merchant (.updateMerchant shop [84] [] [] .retail)

end Sample

/-- A merchant changes its profile while the contract is paused. -/
theorem paused_profile_changes :
    ¬ ∀ host world, Reachable host world → world.gov.paused = true → ∀ auth permits call,
      (step host world (.invoke auth permits call)).records = world.records := by
  intro freezes
  have paused : (Sample.world [Sample.pausing]).gov.paused = true := by decide +kernel
  have same := freezes Sample.host _ (Sample.reachable_world [Sample.pausing]) paused
    [Sample.shop] (fun _ => true) Sample.newProfile
  have names := congrArg
    (fun records : Records => (records.merchants.get Sample.shop).map Merchant.name) same
  revert names
  decide +kernel

end LumenFlow

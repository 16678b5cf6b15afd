import LumenFlow.Effect.Footprint

/-!
# A paused contract moves no tokens

Every function that reaches a token contract checks the pause flag first.  The
functions that run while the contract is paused change records and settings only.
-/

namespace LumenFlow

open Kit Contract

/-- The tokens of everybody, their allowances, and the movements that the
contract has made. -/
def World.tokens (world : World) : TokenLedger Address Address × List Transfer :=
  (world.bank, world.transfers)

instance : Narrow World.tokens :=
  ⟨fun same => Prod.ext (congrArg Inner.bank same) (congrArg Inner.transfers same)⟩

instance (token : Address) : IgnoresListing World.tokens token := ⟨fun _ _ => rfl⟩

instance : IgnoresMultisigs World.tokens := ⟨fun _ _ => rfl⟩

/-- While the contract is paused, the transaction moves no tokens. -/
class Freezes {Result : Type} (tx : Contract Result) : Prop where
  frozen : ∀ {env world result next}, tx.Commits env world result next →
    world.gov.paused = true → next.tokens = world.tokens

section Freezes

variable {Result : Type}

/-- A transaction that checks the pause flag first fails while the contract is paused. -/
instance (rest : Unit → Contract Result) : Freezes (requireNotPaused >>= rest) where
  frozen committed paused := by
    obtain ⟨_, _, guard, _⟩ := Tx.commits_bind.mp committed
    obtain ⟨unpaused, _⟩ := commits_requireNotPaused.mp guard
    rw [paused] at unpaused
    cases unpaused

instance (tx : Contract Result) [keeps : Tx.Keeps World.tokens tx] : Freezes tx where
  frozen committed _ := keeps.kept committed

end Freezes

theorem PaymentCall.freezes (call : PaymentCall) : Freezes call.exec := by
  cases call <;>
    simp only [PaymentCall.exec, Tx.discard_bind, Contract.processPaymentWithSignature,
      Contract.processPaymentWithNonce, Contract.batchPayment, Contract.updatePaymentStatus,
      Contract.archivePaymentRecord, Contract.cleanupExpiredPayments, Contract.getPaymentById,
      Contract.getPaymentSummary, Contract.getMerchantPaymentHistory,
      Contract.getPayerPaymentHistory, Contract.getGlobalPaymentStats,
      Contract.getAccountPaymentCount, Contract.getPayerNonce, Contract.getMerchantNonce] <;>
    infer_instance

theorem RefundCall.freezes (call : RefundCall) : Freezes call.exec := by
  cases call <;>
    simp only [RefundCall.exec, Tx.discard_bind, Contract.initiateRefund, Contract.approveRefund,
      Contract.rejectRefund, Contract.decideRefund, Contract.executeRefund,
      Contract.raiseDispute, Contract.resolveDispute,
      Contract.initiateDispute, Contract.markDisputeUnderReview, Contract.escalateDispute,
      Contract.getRefundsForOrder, Contract.getRefund, Contract.getDispute] <;>
    infer_instance

theorem MultisigCall.freezes (call : MultisigCall) : Freezes call.exec := by
  cases call <;>
    simp only [MultisigCall.exec, Tx.discard_bind, Contract.initiateMultisigPayment,
      Contract.signMultisigPayment, Contract.getMultisigPayment,
      Contract.executeMultisigPayment, Contract.createPaymentRequest, Contract.payPaymentRequest,
      Contract.cancelPaymentRequest, Contract.cancelExpiredPaymentRequests] <;>
    infer_instance

theorem SubscriptionCall.freezes (call : SubscriptionCall) : Freezes call.exec := by
  cases call <;>
    simp only [SubscriptionCall.exec, Contract.createSubscriptionPlan, Contract.subscribe,
      Contract.chargeSubscription, Contract.cancelSubscription,
      Contract.renewSubscriptionAllowance, Contract.getSubscriptionPlan,
      Contract.getSubscription] <;>
    infer_instance

theorem EscrowCall.freezes (call : EscrowCall) : Freezes call.exec := by
  cases call <;>
    simp only [EscrowCall.exec, Tx.discard_bind, Contract.createEscrow, Contract.releaseEscrow,
      Contract.cancelEscrowBeforeLock, Contract.getEscrow, Contract.escrowHold,
      Contract.escrowRelease, Contract.escrowCancel, Contract.getEscrowHold] <;>
    infer_instance

theorem Call.freezes (call : Call) : Freezes call.exec := by
  cases call with
  | admin call =>
      have keeps : Tx.Keeps World.tokens call.exec := call.keeps fun _ _ => inferInstance
      exact inferInstanceAs (Freezes call.exec)
  | merchant call =>
      have keeps : Tx.Keeps World.tokens call.exec := call.keeps
      exact inferInstanceAs (Freezes call.exec)
  | payment call => exact call.freezes
  | refund call => exact call.freezes
  | multisig call => exact call.freezes
  | subscription call => exact call.freezes
  | escrow call => exact call.freezes

/-- While the contract is paused, no call of anybody moves tokens or changes an
allowance. -/
theorem paused_freezes_tokens {host : Host} {world : World} (paused : world.gov.paused = true)
    (auth : List Address) (permits : TokenCall → Bool) (call : Call) :
    (step host world (.invoke auth permits call)).bank = world.bank ∧
      (step host world (.invoke auth permits call)).transfers = world.transfers := by
  suffices same : (step host world (.invoke auth permits call)).tokens = world.tokens from
    ⟨congrArg Prod.fst same, congrArg Prod.snd same⟩
  rcases step_invoke_cases host world auth permits call with succeeded | ⟨_, same⟩
  · exact call.freezes.frozen succeeded.executes paused
  · rw [same]

namespace Sample

def pausing : Action := invokedBy admin (.admin (.pauseContract admin))

end Sample

theorem paused_freezes_tokens_sample :
    (step Sample.host (Sample.world [Sample.pausing]) (Sample.invokedBy Sample.payer
      (.payment (.processPaymentWithNonce Sample.payer [1] Sample.shop Sample.coin 500 [] none
        0)))).bank.balance Sample.coin Sample.payer = 1000 := by
  have paused : (Sample.world [Sample.pausing]).gov.paused = true := by decide +kernel
  have funded :
      (Sample.world [Sample.pausing]).bank.balance Sample.coin Sample.payer = 1000 := by
    decide +kernel
  unfold Sample.invokedBy
  rw [(paused_freezes_tokens paused [Sample.payer] (fun _ => true) _).1]
  exact funded

end LumenFlow

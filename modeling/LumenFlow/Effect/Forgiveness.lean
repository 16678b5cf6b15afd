import LumenFlow.Effect.Frame

/-!
# The counts of failures

A failure is counted by a call that fails, and a call that fails writes nothing.  The calls
that succeed clear counts, so no count is ever kept.
-/

namespace LumenFlow

open Kit Contract

/-- The failures of each address are those of before or none. -/
def Forgives (before after : World) : Prop :=
  ∀ address, after.getAuthFailCount address = before.getAuthFailCount address ∨
    after.getAuthFailCount address = (0, 0)

instance : IsPreorder World Forgives where
  refl _ _ := .inl rfl
  trans _ _ _ head tail address := by
    rcases tail address with same | cleared
    · rw [same]
      exact head address
    · exact .inr cleared

/-- No failure is counted. -/
def Unfailed (world : World) : Prop := ∀ address, world.getAuthFailCount address = (0, 0)

theorem Unfailed.forgiven {before after : World} (unfailed : Unfailed before)
    (forgives : Forgives before after) : Unfailed after :=
  fun address => (forgives address).elim (·.trans (unfailed address)) id

section Functions

variable {First Result : Type} {first : Contract First} {rest : First → Contract Result}
  {tx : Contract Result} {caller : Address}

theorem forgives_of_writes (parts : List Part) [writes : Writes tx parts]
    (outside : .authFailures ∉ parts) : Tx.Respects Forgives tx := by
  intro env world result next committed address
  exact .inl (congrFun (writes.frame committed .authFailures outside) address)

theorem forgives_clear (world : World) (address : Address) :
    Forgives world (world.clearAuthFailCount address) := by
  intro other
  by_cases same : other = address
  · exact .inr (by simp [World.updateGov, same])
  · exact .inl (by simp [World.updateGov, same])

theorem forgives_check (caller : Address) :
    Tx.Respects Forgives (requireAdminRateLimited caller) := by
  intro env world result next committed
  rw [(commits_requireAdminRateLimited.mp committed).2]
  exact forgives_clear world caller

/-- The parts that are written after the check of an administrator. -/
abbrev Part.administered : List Part := [.pausing, .lockouts, .audit, .versions, .cleanupPeriod,
  .platformFeeBps, .feeRecipient, .refundWindow, .largePaymentThreshold, .minRefundAmount,
  .multisigExpiry, .maxSigners, .rateLimit, .signatureExpiry, .profiles, .activeMerchants,
  .orders, .refunds, .orderRefundIds, .disputes, .merchantStats, .totals, .tokens, .plans]

theorem forgives_administered [Writes tx Part.administered] : Tx.Respects Forgives tx :=
  forgives_of_writes Part.administered (by simp)

theorem forgives_check_bind {rest : Unit → Contract Result}
    (tail : ∀ value, Tx.Respects Forgives (rest value)) :
    Tx.Respects Forgives (requireAdminRateLimited caller >>= rest) :=
  Tx.respects_bind (forgives_check caller) tail

theorem forgives_bind [Writes first Part.administered]
    (tail : ∀ value, Tx.Respects Forgives (rest value)) : Tx.Respects Forgives (first >>= rest) :=
  Tx.respects_bind forgives_administered tail

end Functions

theorem AdminCall.forgives (call : AdminCall) (checked : .authFailures ∈ call.parts) :
    Tx.Respects Forgives call.exec := by
  cases call with
  | migrateStorageKeys admin =>
      apply forgives_check_bind
      intro _ env world result next committed
      rw [Tx.commits_modify.mp committed]
      exact fun _ => .inl rfl
  | resetAuthLockout caller address =>
      apply forgives_check_bind
      intro _ env world result next committed
      rw [Tx.commits_modify.mp committed]
      exact forgives_clear world address
  | _ =>
      simp [AdminCall.parts] at checked
      all_goals
        simp only [AdminCall.exec, Contract.setPaymentCleanupPeriod, Contract.setPlatformFee,
          Contract.setLargePaymentThreshold, Contract.setMultisigExpiryDuration,
          Contract.setMaxSigners, Contract.setRefundWindow, Contract.setMinRefundAmount,
          Contract.setSignatureExpiryWindow, Contract.setRateLimit, Contract.pauseContract,
          Contract.unpauseContract, Contract.pauseWithReason, Contract.setPauseGuardians,
          Contract.setContractVersion, Contract.assertVersionMatches, Contract.upgrade]
        repeat with_reducible first
          | apply forgives_check_bind; intro _
          | apply forgives_bind; intro _
        first
          | exact forgives_check _
          | exact forgives_administered

theorem MerchantCall.forgives (call : MerchantCall) (checked : .authFailures ∈ call.parts) :
    Tx.Respects Forgives call.exec := by
  cases call <;> simp [MerchantCall.parts] at checked
  all_goals
    simp only [MerchantCall.exec, Tx.discard_bind, Contract.deactivateMerchant,
      Contract.reactivateMerchant, Contract.verifyMerchant, Contract.unverifyMerchant,
      Contract.getMerchants]
    repeat with_reducible first
      | apply forgives_check_bind; intro _
      | apply forgives_bind; intro _
    exact forgives_administered

theorem PaymentCall.forgives (call : PaymentCall) (checked : .authFailures ∈ call.parts) :
    Tx.Respects Forgives call.exec := by
  cases call <;> simp [PaymentCall.parts] at checked
  all_goals
    simp only [PaymentCall.exec, Tx.discard_bind, Contract.archivePaymentRecord,
      Contract.cleanupExpiredPayments, Contract.getGlobalPaymentStats]
    repeat with_reducible first
      | apply forgives_check_bind; intro _
      | apply forgives_bind; intro _
    first
      | exact forgives_administered
      | exact forgives_of_writes [.orders, .refunds, .orderRefundIds] (by simp)

theorem RefundCall.forgives (call : RefundCall) (checked : .authFailures ∈ call.parts) :
    Tx.Respects Forgives call.exec := by
  cases call <;> simp [RefundCall.parts] at checked
  all_goals
    simp only [RefundCall.exec, Contract.resolveDispute, Contract.markDisputeUnderReview,
      Contract.escalateDispute]
    repeat with_reducible first
      | apply forgives_check_bind; intro _
      | apply forgives_bind; intro _
    exact forgives_administered

theorem SubscriptionCall.forgives (call : SubscriptionCall)
    (checked : .authFailures ∈ call.parts) : Tx.Respects Forgives call.exec := by
  cases call <;> simp [SubscriptionCall.parts] at checked
  simp only [SubscriptionCall.exec, Contract.createSubscriptionPlan]
  repeat with_reducible first
    | apply forgives_check_bind; intro _
    | apply forgives_bind; intro _
  exact forgives_administered

theorem Call.forgives (call : Call) : Tx.Respects Forgives call.exec := by
  by_cases checked : .authFailures ∈ call.parts
  · cases call with
    | admin call => exact call.forgives checked
    | merchant call => exact call.forgives checked
    | payment call => exact call.forgives checked
    | refund call => exact call.forgives checked
    | subscription call => exact call.forgives checked
    | multisig call => cases call <;> simp [Call.parts, MultisigCall.parts] at checked
    | escrow call => cases call <;> simp [Call.parts, EscrowCall.parts] at checked
  · have writes := call.writes
    exact forgives_of_writes call.parts checked

theorem Deployed.unfailed {host : Host} {start : World} (deployed : Deployed host start)
    (actions : List Action) : Unfailed (run (step host) start actions) := by
  have stepwise : ∀ world action, Unfailed world → Unfailed (step host world action) := by
    intro world action unfailed
    rcases step_cases host world action with
      ⟨auth, permits, call, rfl, succeeded⟩ | ⟨_, bank, sequence, timestamp, same⟩
    · exact unfailed.forgiven (call.forgives _ _ _ _ succeeded.executes)
    · rw [same]
      exact unfailed
  have initial : Unfailed start := by
    obtain ⟨bank, timestamp, sequence, _, _, rfl⟩ := deployed
    exact fun _ => rfl
  exact run_invariant stepwise initial actions

end LumenFlow

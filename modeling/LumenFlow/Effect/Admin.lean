import LumenFlow.Effect.Books

/-!
# Calls that leave the books alone

Writing an administration entry, a setting, a statistic or an index does not
change the books.  The administration calls write nothing else.
-/

namespace LumenFlow

open Kit Contract

/-- The function never changes the books. -/
abbrev Quiet {Result : Type} (tx : Contract Result) : Prop := Tx.Keeps World.books tx

theorem quiet_books {Result : Type} {tx : Contract Result} [quiet : Quiet tx] {env : Env}
    {world next : World} {result : Result} (committed : tx.Commits env world result next) :
    next.books = world.books :=
  quiet.kept committed

section Updates

instance (change : World → Governance → Governance) :
    Quiet (Tx.modify fun world => world.updateGov (change world)) where
  kept committed := by rw [Tx.commits_modify.mp committed]; rfl

instance (change : World → Config → Config) :
    Quiet (Tx.modify fun world => world.updateConfig (change world)) where
  kept committed := by rw [Tx.commits_modify.mp committed]; rfl

instance (change : World → StatsBook → StatsBook) :
    Quiet (Tx.modify fun world => world.updateStats (change world)) where
  kept committed := by rw [Tx.commits_modify.mp committed]; rfl

instance : Quiet (Tx.modify World.migrateStorageKeys) where
  kept committed := by rw [Tx.commits_modify.mp committed]; rfl

end Updates

section Helpers

instance (address : Address) : Quiet (requireAuth address) := by
  unfold requireAuth; infer_instance

instance (first second : Nat) : Quiet (addU32 first second) := by
  unfold addU32; infer_instance

instance (first second : Nat) : Quiet (addU64 first second) := by
  unfold addU64; infer_instance

instance : Quiet timestamp := by
  unfold timestamp; infer_instance

instance : Quiet Contract.sequence := by
  unfold Contract.sequence; infer_instance

instance (caller : Address) : Quiet (requireAdmin caller) := by
  unfold requireAdmin; infer_instance

set_option synthInstance.maxSize 400 in
instance (address : Address) : Quiet (recordAuthFailure address) := by
  unfold recordAuthFailure; infer_instance

instance (caller : Address) : Quiet (requireAdminRateLimited caller) := by
  unfold requireAdminRateLimited; infer_instance

instance (amount : Int) : Quiet (requirePositive amount) := by
  unfold requirePositive; infer_instance

instance (text : Text) : Quiet (requireNonEmptyString text) := by
  unfold requireNonEmptyString; infer_instance

instance (limit : Nat) : Quiet (requireValidLimit limit) := by
  unfold requireValidLimit; infer_instance

instance (entry : AdminAuditEntry) : Quiet (appendAdminAuditEntry entry) := by
  unfold appendAdminAuditEntry; infer_instance

instance (action : AdminActionType) (caller : Address) (params : Text) :
    Quiet (appendAudit action caller params) := by
  unfold appendAudit; infer_instance

instance (stats : GlobalStats) (amount : Int) : Quiet (countedPayment stats amount) := by
  unfold countedPayment; infer_instance

end Helpers

set_option synthInstance.maxSize 1000 in
theorem AdminCall.quiet (call : AdminCall) : Quiet call.exec := by
  cases call <;>
    simp only [AdminCall.exec, Contract.setAdmin, Contract.transferAdmin,
      Contract.resetAuthLockout, Contract.setPaymentCleanupPeriod, Contract.setPlatformFee,
      Contract.setPlatformFeeLogged, Contract.setLargePaymentThreshold,
      Contract.setMultisigExpiryDuration, Contract.setMultisigExpiryDurationLogged,
      Contract.setMaxSigners, Contract.setRefundWindow, Contract.setRefundWindowLogged,
      Contract.setMinRefundAmount, Contract.setMinRefundAmountLogged,
      Contract.setSignatureExpiryWindow, Contract.setRateLimit, Contract.setPaymentRateLimit,
      Contract.setPaymentRateWindow, Contract.setRefundRetentionPeriod, Contract.pauseContract,
      Contract.unpauseContract, Contract.pauseWithReason, Contract.setPauseGuardians,
      Contract.approveEarlyUnpause, Contract.addAllowedToken, Contract.addAllowedTokenUnaudited,
      Contract.removeAllowedToken, Contract.removeAllowedTokenUnaudited,
      Contract.addAllowedIssuer, Contract.removeAllowedIssuer, Contract.getContractVersion,
      Contract.setContractVersion, Contract.migrateStorageKeys, Contract.assertVersionMatches,
      Contract.upgrade, Contract.migrate, Contract.checkUpgradeCompatibility,
      Contract.getAdminAuditLog] <;>
    infer_instance

theorem AdminCall.effect {env : Env} {world next : World} {call : AdminCall}
    (committed : call.exec.Commits env world () next) :
    Effect env world.books (.admin call) next.books := by
  rw [call.quiet.kept committed]
  exact .quiet _ rfl

end LumenFlow

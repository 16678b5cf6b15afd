import LumenFlow.Model.Helper

/-!
# Administration

Initialisation and transfer of the admin, the settings, the allow lists, the
emergency pause and the version entries.  Where the source defines a function
twice, the second definition carries the word `Unaudited` or `Logged`.
-/

namespace LumenFlow

open Kit

namespace Contract

def pauseTimelockSecs : Nat := 7 * 24 * 3600
def earlyUnpauseThreshold : Nat := 3

/-! ## Admin -/

def appendAudit (action : AdminActionType) (caller : Address) (params : Text) :
    Contract Unit := do
  let index ← read (·.getAdminAuditCount)
  let now ← timestamp
  let seq ← sequence
  appendAdminAuditEntry ⟨index, action, caller, params, now, seq⟩

def setAdmin (admin : Address) : Contract Unit := do
  let current ← read (·.getAdmin)
  failIf (current.isSome = true) .adminAlreadySet
  requireAuth admin
  write (·.setAdmin admin)
  appendAudit .setAdmin admin []

def transferAdmin (currentAdmin newAdmin : Address) : Contract Unit := do
  requireAdmin currentAdmin
  failIf (newAdmin = currentAdmin) .invalidAdminAddress
  failIf ((scvAddress newAdmin).all (· = 0) = true) .invalidAdminAddress
  write (·.setAdmin newAdmin)
  appendAudit .transferAdmin currentAdmin []

def resetAuthLockout (admin address : Address) : Contract Unit := do
  requireAdminRateLimited admin
  write (·.clearAuthLockout address)

/-! ## Settings -/

def setPaymentCleanupPeriod (admin : Address) (period : Nat) : Contract Unit := do
  requireAdminRateLimited admin
  write (·.setCleanupPeriod period)

def setPlatformFee (admin : Address) (feeBps : Nat) (feeRecipient : Address) :
    Contract Unit := do
  requireAdminRateLimited admin
  failIf (maxPlatformFeeBps < feeBps) .invalidInput
  write (·.setPlatformFeeBps feeBps)
  write (·.setFeeRecipient feeRecipient)
  appendAudit .setPlatformFee admin []

/-- The second definition of `set_platform_fee`. -/
def setPlatformFeeLogged (admin : Address) (feeBps : Nat) : Contract Unit := do
  requireAdmin admin
  write (·.setPlatformFeeBps feeBps)

def setLargePaymentThreshold (admin : Address) (threshold : Int) : Contract Unit := do
  requireAdminRateLimited admin
  requirePositive threshold
  write (·.setLargePaymentThreshold threshold)

def setMultisigExpiryDuration (admin : Address) (duration : Nat) : Contract Unit := do
  requireAdminRateLimited admin
  failIf (duration = 0) .invalidInput
  write (·.setMultisigExpiryDuration duration)

/-- The second definition of `set_multisig_expiry_duration`. -/
def setMultisigExpiryDurationLogged (admin : Address) (durationSecs : Nat) : Contract Unit := do
  requireAdmin admin
  write (·.setMultisigExpiryDuration durationSecs)

def setMaxSigners (admin : Address) (maxSigners : Nat) : Contract Unit := do
  requireAdminRateLimited admin
  failIf (maxSigners = 0) .invalidInput
  write (·.setMaxMultisigSigners maxSigners)

def setRefundWindow (admin : Address) (windowSecs : Nat) : Contract Unit := do
  requireAdminRateLimited admin
  failIf (windowSecs < minRefundWindowSecs) .invalidInput
  write (·.setRefundWindow windowSecs)

/-- The second definition of `set_refund_window`. -/
def setRefundWindowLogged (admin : Address) (windowSecs : Nat) : Contract Unit := do
  requireAdmin admin
  write (·.setRefundWindow windowSecs)

def setMinRefundAmount (admin : Address) (amount : Int) : Contract Unit := do
  requireAdminRateLimited admin
  requirePositive amount
  write (·.setMinRefundAmount amount)

/-- The second definition of `set_min_refund_amount`. -/
def setMinRefundAmountLogged (admin : Address) (minAmount : Int) : Contract Unit := do
  requireAdmin admin
  requirePositive minAmount
  write (·.setMinRefundAmount minAmount)

def setSignatureExpiryWindow (admin : Address) (windowSecs : Nat) : Contract Unit := do
  requireAdminRateLimited admin
  failIf (windowSecs = 0) .invalidInput
  write (·.setSignatureExpiryWindow windowSecs)

def setRateLimit (admin : Address) (limit : Nat) : Contract Unit := do
  requireAdminRateLimited admin
  failIf (limit = 0) .invalidInput
  write (·.setRateLimitPerWindow limit)

def setPaymentRateLimit (admin : Address) (limit : Nat) : Contract Unit := do
  requireAdmin admin
  failIf (limit = 0) .invalidInput
  write (·.setRateLimitPerWindow limit)

def setPaymentRateWindow (admin : Address) (windowSecs : Nat) : Contract Unit := do
  requireAdmin admin
  failIf (windowSecs = 0) .invalidInput
  write (·.setPaymentRateWindow windowSecs)

def setRefundRetentionPeriod (admin : Address) (period : Nat) : Contract Unit := do
  requireAdmin admin
  write (·.setRefundRetentionPeriod period)

/-! ## Emergency pause -/

def pauseContract (admin : Address) : Contract Unit := do
  requireAdminRateLimited admin
  write (·.setPaused true)
  appendAudit .pauseContract admin []

def unpauseContract (admin : Address) : Contract Unit := do
  requireAdminRateLimited admin
  let lock ← read (·.getUnpauseLockUntil)
  let now ← timestamp
  failIf (∃ limit ∈ lock, now < limit) .timelockActive
  write (·.clearUnpauseLockUntil)
  write (·.clearPauseReason)
  write (·.clearEarlyUnpauseApprovals)
  write (·.setPaused false)
  appendAudit .unpauseContract admin []

def pauseWithReason (admin : Address) (reason : Text) : Contract Unit := do
  requireAdminRateLimited admin
  requireNonEmptyString reason
  write (·.setPaused true)
  write (·.setPauseReason reason)
  let lockUntil ← addU64 (← timestamp) pauseTimelockSecs
  write (·.setUnpauseLockUntil lockUntil)
  write (·.clearEarlyUnpauseApprovals)

def setPauseGuardians (admin : Address) (guardians : List Address) : Contract Unit := do
  requireAdminRateLimited admin
  failIf (guardians.length ≠ 5) .invalidInput
  write (·.setPauseGuardians guardians)

def approveEarlyUnpause (guardian : Address) : Contract Unit := do
  requireAuth guardian
  let guardians ← read (·.getPauseGuardians)
  failIf (guardian ∉ guardians) .notAPauseGuardian
  let approvals ← read (·.getEarlyUnpauseApprovals)
  failIf (guardian ∈ approvals) .alreadyApprovedUnpause
  let approved := approvals ++ [guardian]
  write (·.setEarlyUnpauseApprovals approved)
  Tx.when (earlyUnpauseThreshold ≤ approved.length) do
    write (·.setPaused false)
    write (·.clearUnpauseLockUntil)
    write (·.clearPauseReason)
    write (·.clearEarlyUnpauseApprovals)

/-! ## Allow lists -/

def addAllowedToken (admin token : Address) (issuer : Option Address) : Contract Unit := do
  requireAdmin admin
  Tx.whenSome issuer fun issuer => do
    let allowed ← read (·.isIssuerAllowed issuer)
    failIf (allowed = false) .invalidIssuer
  write (·.setTokenAllowed token true)
  appendAudit .addAllowedToken admin []

/-- The second definition of `add_allowed_token`. -/
def addAllowedTokenUnaudited (admin token : Address) : Contract Unit := do
  requireAdmin admin
  write (·.setTokenAllowed token true)

def removeAllowedToken (admin token : Address) : Contract Unit := do
  requireAdmin admin
  write (·.setTokenAllowed token false)
  appendAudit .removeAllowedToken admin []

/-- The second definition of `remove_allowed_token`. -/
def removeAllowedTokenUnaudited (admin token : Address) : Contract Unit := do
  requireAdmin admin
  write (·.setTokenAllowed token false)

def addAllowedIssuer (admin issuer : Address) : Contract Unit := do
  requireAdmin admin
  write (·.setIssuerAllowed issuer true)

def removeAllowedIssuer (admin issuer : Address) : Contract Unit := do
  requireAdmin admin
  write (·.setIssuerAllowed issuer false)

/-! ## Versions -/

def getContractVersion : Contract Text := do
  let env ← Tx.ask
  return env.host.version

def setContractVersion (admin : Address) : Contract Unit := do
  requireAdminRateLimited admin
  let env ← Tx.ask
  write (·.setStoredVersion env.host.version)

def migrateStorageKeys (admin : Address) : Contract Unit := do
  requireAdminRateLimited admin
  write World.migrateStorageKeys

def assertVersionMatches (admin : Address) : Contract Unit := do
  requireAdminRateLimited admin
  let env ← Tx.ask
  let stored ← read (·.getStoredVersion)
  failIf (∃ version ∈ stored, version ≠ env.host.version) .versionMismatch

/-- The code of the contract changes, its entries do not. -/
def upgrade (admin : Address) (_newWasmHash : Bytes) : Contract Unit :=
  requireAdminRateLimited admin

def migrate (admin : Address) : Contract Nat := do
  requireAdmin admin
  let onChain ← read (·.getStorageVersion)
  failIf (currentStorageVersion < onChain) .storageVersionTooNew
  write (·.setStorageVersion currentStorageVersion)
  return currentStorageVersion

def checkUpgradeCompatibility : Contract Nat := do
  let onChain ← read (·.getStorageVersion)
  failIf (currentStorageVersion < onChain) .storageVersionTooNew
  failIf (onChain < currentStorageVersion) .storageMigrationRequired
  return currentStorageVersion

def getAdminAuditLog (admin : Address) (fromLedger toLedger limit : Nat) :
    Contract (List AdminAuditEntry) := do
  requireAdmin admin
  failIf (toLedger < fromLedger ∨ limit = 0) .invalidInput
  read fun world =>
    world.queryAdminAuditLog fromLedger toLedger world.getAdminAuditCount (min limit 100)

end Contract

end LumenFlow

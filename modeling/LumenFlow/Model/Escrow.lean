import LumenFlow.Model.Payments

/-!
# Escrows

Two ways to deposit tokens with the contract: an escrow that opens at a time,
and a hold that an arbiter may release before its timeout.
-/

namespace LumenFlow

open Kit

namespace Contract

/-! ## Time-locked escrow -/

def createEscrow (payer merchant : Address) (amount : Int) (token : Address) (unlockAt : Nat)
    (orderId : Text) : Contract Unit := do
  requireNotPaused
  requireAuth payer
  requirePositive amount
  requireValidId orderId
  let now ← timestamp
  failIf (unlockAt ≤ now) .invalidInput
  requireTokenAllowed token
  let existing ← read (·.getEscrow orderId)
  failIf (existing.isSome = true) .escrowAlreadyExists
  let profile ← okOr (← read (·.getMerchant merchant)) .merchantNotFound
  failIf (profile.active = false) .merchantInactive
  let self ← currentContractAddress
  tokenTransfer (.escrowDeposit orderId) token payer self amount
  write (·.setEscrow
    { orderId, payer, merchant, token, amount, unlockAt, status := .locked, createdAt := now })

def releaseEscrow (orderId : Text) : Contract Unit := do
  requireNotPaused
  let escrow ← okOr (← read (·.getEscrow orderId)) .escrowNotFound
  failIf (escrow.status ≠ .locked) .escrowAlreadyFinalised
  let now ← timestamp
  failIf (now < escrow.unlockAt) .escrowNotUnlocked
  write (·.setEscrow { escrow with status := .released })
  let self ← currentContractAddress
  tokenTransfer (.escrowSettlement orderId) escrow.token self escrow.merchant escrow.amount

def cancelEscrowBeforeLock (payer : Address) (orderId : Text) : Contract Unit := do
  requireNotPaused
  requireAuth payer
  let escrow ← okOr (← read (·.getEscrow orderId)) .escrowNotFound
  failIf (escrow.status ≠ .locked) .escrowAlreadyFinalised
  failIf (escrow.payer ≠ payer) .escrowUnauthorised
  let now ← timestamp
  failIf (escrow.unlockAt ≤ now) .escrowLockExpired
  write (·.setEscrow { escrow with status := .cancelled })
  let self ← currentContractAddress
  tokenTransfer (.escrowSettlement orderId) escrow.token self escrow.payer escrow.amount

def getEscrow (orderId : Text) : Contract EscrowRecord := do
  okOr (← read (·.getEscrow orderId)) .escrowNotFound

/-! ## Conditional escrow -/

def escrowHold (payer : Address) (escrowId : Text) (merchant token : Address) (amount : Int)
    (conditionHash : Bytes) (arbiter : Address) (timeoutAt : Nat) : Contract EscrowHold := do
  requireNotPaused
  requireAuth payer
  requirePositive amount
  requireValidId escrowId
  failIf (conditionHash.length ≠ 32) .invalidInput
  let now ← timestamp
  failIf (timeoutAt ≤ now) .invalidInput
  requireTokenAllowed token
  let existing ← read (·.getEscrowHold escrowId)
  failIf (existing.isSome = true) .escrowAlreadyExists
  let profile ← okOr (← read (·.getMerchant merchant)) .merchantNotFound
  failIf (profile.active = false) .merchantInactive
  let self ← currentContractAddress
  tokenTransfer (.holdDeposit escrowId) token payer self amount
  let hold : EscrowHold :=
    { escrowId, payer, merchant, token, amount, conditionHash, arbiter, timeoutAt
      status := .held, createdAt := now }
  write (·.setEscrowHold hold)
  return hold

def escrowRelease (caller : Address) (escrowId : Text) : Contract Unit := do
  requireNotPaused
  requireAuth caller
  let hold ← okOr (← read (·.getEscrowHold escrowId)) .escrowNotFound
  failIf (hold.status ≠ .held) .escrowAlreadyFinalised
  let now ← timestamp
  failIf (hold.arbiter ≠ caller ∧ now < hold.timeoutAt) .escrowNotUnlocked
  write (·.setEscrowHold { hold with status := .released })
  let self ← currentContractAddress
  tokenTransfer (.holdSettlement escrowId) hold.token self hold.merchant hold.amount

def escrowCancel (caller : Address) (escrowId : Text) : Contract Unit := do
  requireNotPaused
  requireAuth caller
  let hold ← okOr (← read (·.getEscrowHold escrowId)) .escrowNotFound
  failIf (hold.status ≠ .held) .escrowAlreadyFinalised
  failIf (hold.payer ≠ caller) .escrowUnauthorised
  let now ← timestamp
  failIf (hold.timeoutAt ≤ now) .escrowLockExpired
  write (·.setEscrowHold { hold with status := .cancelled })
  let self ← currentContractAddress
  tokenTransfer (.holdSettlement escrowId) hold.token self hold.payer hold.amount

def getEscrowHold (escrowId : Text) : Contract EscrowHold := do
  okOr (← read (·.getEscrowHold escrowId)) .escrowNotFound

end Contract

end LumenFlow

import LumenFlow.Model.Payments

/-!
# Subscriptions

Plans, subscriptions and their charges.  The contract spends the allowance that
a subscriber grants it, and keeps the sum it may still charge as a reserve.
-/

namespace LumenFlow

open Kit

namespace Contract

def createSubscriptionPlan (admin : Address) (planId : Text) (token : Address) (amount : Int)
    (intervalSecs maxCycles : Nat) : Contract Unit := do
  requireNotPaused
  requireAdminRateLimited admin
  requireValidId planId
  requirePositive amount
  failIf (intervalSecs = 0 ∨ maxCycles = 0) .invalidInput
  requireTokenAllowed token
  let existing ← read (·.getSubscriptionPlan planId)
  failIf (existing.isSome = true) .subscriptionPlanAlreadyExists
  let now ← timestamp
  write (·.setSubscriptionPlan ⟨planId, token, amount, intervalSecs, maxCycles, now⟩)

def subscribe (merchant subscriber : Address) (planId subscriptionId : Text) :
    Contract Unit := do
  requireNotPaused
  requireAuth subscriber
  requireValidId subscriptionId
  let plan ← okOr (← read (·.getSubscriptionPlan planId)) .subscriptionPlanNotFound
  let existing ← read (·.getSubscription subscriptionId)
  failIf (existing.isSome = true) .subscriptionAlreadyExists
  let profile ← okOr (← read (·.getMerchant merchant)) .merchantNotFound
  failIf (profile.active = false) .merchantInactive
  let now ← timestamp
  write (·.setSubscription
    { subscriptionId, planId, merchant, subscriber, status := .active, cyclesCharged := 0
      lastChargedAt := now, createdAt := now })
  let total := saturatingMul plan.amount plan.maxCycles
  let reserved ← read (·.getSubscriptionReserve subscriber plan.token)
  let reserve := saturatingAdd reserved total
  write (·.setSubscriptionReserve subscriber plan.token reserve)
  tokenApprove plan.token subscriber reserve

def chargeSubscription (merchant : Address) (subscriptionId : Text) : Contract Unit := do
  requireNotPaused
  requireAuth merchant
  let subscription ← okOr (← read (·.getSubscription subscriptionId)) .subscriptionNotFound
  failIf (merchant ≠ subscription.merchant) .unauthorized
  failIf (subscription.status = .cancelled) .subscriptionNotActive
  let plan ← okOr (← read (·.getSubscriptionPlan subscription.planId)) .subscriptionPlanNotFound
  requireTokenAllowed plan.token
  let profile ← okOr (← read (·.getMerchant subscription.merchant)) .merchantNotFound
  failIf (profile.active = false) .merchantInactive
  failIf (plan.maxCycles ≤ subscription.cyclesCharged) .subscriptionMaxCyclesReached
  let now ← timestamp
  failIf (now < saturatingAddU64 subscription.lastChargedAt plan.intervalSecs)
    .subscriptionIntervalNotElapsed
  let cyclesCharged ← addU32 subscription.cyclesCharged 1
  write (·.setSubscription { subscription with
    cyclesCharged
    lastChargedAt := now
    status := if plan.maxCycles ≤ cyclesCharged then .completed else subscription.status })
  let reserved ← read (·.getSubscriptionReserve subscription.subscriber plan.token)
  write (·.setSubscriptionReserve subscription.subscriber plan.token
    (saturatingSub reserved plan.amount))
  tokenTransferFrom (.subscription subscriptionId) plan.token subscription.subscriber
    subscription.merchant plan.amount

def cancelSubscription (caller : Address) (subscriptionId : Text) : Contract Unit := do
  requireNotPaused
  requireAuth caller
  let subscription ← okOr (← read (·.getSubscription subscriptionId)) .subscriptionNotFound
  failIf (caller ≠ subscription.merchant ∧ caller ≠ subscription.subscriber) .unauthorized
  failIf (subscription.status ≠ .active) .subscriptionNotActive
  let plan ← okOr (← read (·.getSubscriptionPlan subscription.planId)) .subscriptionPlanNotFound
  write (·.setSubscription { subscription with status := .cancelled })
  let cyclesLeft ← subU32 plan.maxCycles subscription.cyclesCharged
  let remaining := saturatingMul plan.amount cyclesLeft
  let reserved ← read (·.getSubscriptionReserve subscription.subscriber plan.token)
  let reserve := saturatingSub reserved remaining
  write (·.setSubscriptionReserve subscription.subscriber plan.token reserve)
  Tx.when (caller = subscription.subscriber)
    (tokenApprove plan.token subscription.subscriber reserve)

def renewSubscriptionAllowance (subscriber token : Address) : Contract Unit := do
  requireNotPaused
  requireAuth subscriber
  let reserve ← read (·.getSubscriptionReserve subscriber token)
  tokenApprove token subscriber reserve

def getSubscriptionPlan (planId : Text) : Contract SubscriptionPlan := do
  okOr (← read (·.getSubscriptionPlan planId)) .subscriptionPlanNotFound

def getSubscription (subscriptionId : Text) : Contract Subscription := do
  okOr (← read (·.getSubscription subscriptionId)) .subscriptionNotFound

end Contract

end LumenFlow

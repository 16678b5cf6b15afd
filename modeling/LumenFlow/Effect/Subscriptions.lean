import LumenFlow.Effect.Books

/-!
# Effects of the subscription calls
-/

namespace LumenFlow

open Kit Contract

variable {env : Env} {world next : World}

theorem subscribe_effect {merchant subscriber : Address} {planId subscriptionId : Text}
    (committed : (subscribe merchant subscriber planId subscriptionId).Commits env world ()
      next) :
    Effect env world.books
      (.subscription (.subscribe merchant subscriber planId subscriptionId)) next.books := by
  simp [subscribe] at committed
  obtain ⟨_, authorised, _, plan, _, _, _, _, _, _, _, _, rfl⟩ := committed
  exact .subscribed _ ⟨subscriptionId, planId, merchant, subscriber, .active, 0,
    world.timestamp, world.timestamp⟩ plan.token _ authorised

theorem chargeSubscription_effect {merchant : Address} {subscriptionId : Text}
    (committed : (chargeSubscription merchant subscriptionId).Commits env world () next) :
    Effect env world.books
      (.subscription (.chargeSubscription merchant subscriptionId)) next.books := by
  simp [chargeSubscription, requireTokenAllowed] at committed
  obtain ⟨_, _, old, stored, _, _, plan, _, _, _, _, _, _, _, _, _, nonneg, _, _, rfl⟩ := committed
  obtain rfl := Table.key_of_get stored
  let charged : Subscription :=
    { old with
      cyclesCharged := old.cyclesCharged + 1
      lastChargedAt := world.timestamp
      status := if plan.maxCycles ≤ old.cyclesCharged + 1 then .completed else old.status }
  exact .charged _ old charged plan.token plan.amount _ stored rfl nonneg

theorem cancelSubscription_effect {caller : Address} {subscriptionId : Text}
    (committed : (cancelSubscription caller subscriptionId).Commits env world () next) :
    Effect env world.books
      (.subscription (.cancelSubscription caller subscriptionId)) next.books := by
  simp [cancelSubscription] at committed
  obtain ⟨_, authorised, old, stored, _, _, plan, _, _, approved | silent⟩ := committed
  · obtain ⟨owner, _, _, _, rfl⟩ := approved
    exact .subscribed _ { old with status := .cancelled } plan.token _ (owner ▸ authorised)
  · obtain ⟨_, rfl⟩ := silent
    obtain rfl := Table.key_of_get stored
    exact .subscriptionEnded _ old { old with status := .cancelled } stored rfl

theorem SubscriptionCall.effect {call : SubscriptionCall}
    (committed : call.exec.Commits env world () next) :
    Effect env world.books (.subscription call) next.books := by
  cases call with
  | createSubscriptionPlan =>
      simp [SubscriptionCall.exec, Contract.createSubscriptionPlan, requireTokenAllowed]
        at committed
      obtain ⟨_, _, _, _, _, _, _, rfl⟩ := committed
      exact .quiet _ rfl
  | subscribe => exact subscribe_effect committed
  | chargeSubscription => exact chargeSubscription_effect committed
  | cancelSubscription => exact cancelSubscription_effect committed
  | renewSubscriptionAllowance subscriber token =>
      simp [SubscriptionCall.exec, Contract.renewSubscriptionAllowance] at committed
      obtain ⟨_, authorised, _, _, _, rfl⟩ := committed
      exact .allowanceRenewed _ token subscriber _ authorised
  | getSubscriptionPlan =>
      simp [SubscriptionCall.exec, Contract.getSubscriptionPlan] at committed
      obtain ⟨_, _, rfl⟩ := committed
      exact .quiet _ rfl
  | getSubscription =>
      simp [SubscriptionCall.exec, Contract.getSubscription] at committed
      obtain ⟨_, _, rfl⟩ := committed
      exact .quiet _ rfl

end LumenFlow

import Mathlib.Tactic.Ring
import LumenFlow.Safety.Subscriptions

/-!
# Reserves and allowances

All subscriptions of a subscriber in a token share one allowance.  The reserve is what
the contract may still charge for them, and the allowance never falls below it.
-/

namespace LumenFlow

open Kit Contract

section Outstanding

/-- What a subscription may still be charged, if it is an active one of the subscriber in
the token. -/
def outstanding (plans : Table SubscriptionPlan.planId) (subscriber token : Address)
    (subscription : Subscription) : Int :=
  match plans.get subscription.planId with
  | some plan =>
      if subscription.subscriber = subscriber ∧ subscription.status = .active ∧
          plan.token = token then
        plan.amount * (plan.maxCycles - subscription.cyclesCharged)
      else 0
  | none => 0

variable {plans : Table SubscriptionPlan.planId} {subscription : Subscription}
  {plan : SubscriptionPlan} {subscriber token : Address}

theorem outstanding_active (planned : plans.get subscription.planId = some plan)
    (active : subscription.status = .active) :
    outstanding plans subscription.subscriber plan.token subscription =
      plan.amount * (plan.maxCycles - subscription.cyclesCharged) := by
  simp [outstanding, planned, active]

theorem outstanding_ended (ended : subscription.status ≠ .active) :
    outstanding plans subscriber token subscription = 0 := by
  unfold outstanding
  split
  · simp [ended]
  · rfl

theorem outstanding_elsewhere (planned : plans.get subscription.planId = some plan)
    (elsewhere : ¬ (subscriber = subscription.subscriber ∧ token = plan.token)) :
    outstanding plans subscriber token subscription = 0 := by
  simp only [outstanding, planned]
  refine if_neg fun ⟨owner, _, held⟩ => elsewhere ⟨owner.symm, held.symm⟩

theorem outstanding_nonneg (regular : subscription.Regular plans)
    (positive : plans.All fun plan => 0 < plan.amount ∧ 0 < plan.maxCycles) :
    0 ≤ outstanding plans subscriber token subscription := by
  obtain ⟨plan, planned, within, _⟩ := regular
  have amount := (positive _ _ planned).1
  simp only [outstanding, planned]
  split_ifs
  · exact Int.mul_nonneg amount.le (by omega)
  · rfl

theorem outstanding_charged (planned : plans.get subscription.planId = some plan)
    (active : subscription.status = .active)
    (cyclesLeft : subscription.cyclesCharged < plan.maxCycles) (now : Nat) :
    outstanding plans subscription.subscriber plan.token (subscription.charged plan now) +
        plan.amount =
      outstanding plans subscription.subscriber plan.token subscription := by
  have rest : plan.amount * (plan.maxCycles - subscription.cyclesCharged) =
      plan.amount * (plan.maxCycles - (subscription.cyclesCharged + 1)) + plan.amount := by ring
  rw [outstanding_active planned active, rest]
  by_cases last : plan.maxCycles ≤ subscription.cyclesCharged + 1
  · have none : (plan.maxCycles : Int) - (subscription.cyclesCharged + 1) = 0 := by omega
    have ended : (subscription.charged plan now).status ≠ .active := by
      simp [Subscription.charged, last]
    rw [outstanding_ended ended, none, mul_zero]
  · have still : (subscription.charged plan now).status = .active := by
      simp [Subscription.charged, last, active]
    have same : plans.get (subscription.charged plan now).planId = some plan := planned
    have left := outstanding_active same still
    simp only [Subscription.charged, Nat.cast_add, Nat.cast_one] at left ⊢
    rw [left]

end Outstanding

section Covered

/-- The reserves are what is outstanding, and the allowances cover them. -/
structure Billing.Covered (billing : Billing) : Prop where
  sound : billing.book.Sound
  reserved : ∀ subscriber token, billing.book.reserves subscriber token =
    billing.book.records.total (outstanding billing.book.plans subscriber token)
  small : ∀ subscriber token, billing.book.reserves subscriber token ≤ i128Max
  covered : ∀ subscriber token,
    billing.book.reserves subscriber token ≤ billing.allowance token subscriber

variable {billing : Billing} {subscription : Subscription} {plan : SubscriptionPlan}

theorem Billing.Covered.outstanding_le (covered : billing.Covered)
    (stored : billing.book.records.get subscription.subscriptionId = some subscription)
    (subscriber token : Address) :
    outstanding billing.book.plans subscriber token subscription ≤
      billing.book.reserves subscriber token := by
  rw [covered.reserved]
  refine Table.weight_le_total (fun name record found => ?_) stored
  exact outstanding_nonneg (covered.sound.records _ _ found) covered.sound.plans

theorem Billing.Covered.reserve_nonneg (covered : billing.Covered) (subscriber token : Address) :
    0 ≤ billing.book.reserves subscriber token := by
  rw [covered.reserved]
  apply Table.total_nonneg
  intro name record found
  exact outstanding_nonneg (covered.sound.records _ _ found) covered.sound.plans

theorem weightAt_elsewhere (planned : billing.book.plans.get subscription.planId = some plan)
    (same : ∀ old, billing.book.records.get subscription.subscriptionId = some old →
      old.subscriber = subscription.subscriber ∧ old.planId = subscription.planId)
    {subscriber token : Address}
    (elsewhere : ¬ (subscriber = subscription.subscriber ∧ token = plan.token)) :
    billing.book.records.weightAt (outstanding billing.book.plans subscriber token)
      subscription.subscriptionId = 0 := by
  unfold Table.weightAt
  cases found : billing.book.records.get subscription.subscriptionId with
  | none => rfl
  | some old =>
      obtain ⟨owner, planId⟩ := same old found
      have oldPlanned : billing.book.plans.get old.planId = some plan := planId ▸ planned
      exact outstanding_elsewhere oldPlanned (owner ▸ elsewhere)

/-- A reserve that moves with what is outstanding on a written subscription stays right. -/
theorem Billing.Covered.put (covered : billing.Covered) (subscription : Subscription)
    (regular : subscription.Regular billing.book.plans)
    (planned : billing.book.plans.get subscription.planId = some plan)
    (same : ∀ old, billing.book.records.get subscription.subscriptionId = some old →
      old.subscriber = subscription.subscriber ∧ old.planId = subscription.planId)
    {reserve : Int} (nonneg : 0 ≤ reserve) (small : reserve ≤ i128Max)
    (moved : reserve + billing.book.records.weightAt
        (outstanding billing.book.plans subscription.subscriber plan.token)
        subscription.subscriptionId =
      billing.book.reserves subscription.subscriber plan.token +
        outstanding billing.book.plans subscription.subscriber plan.token subscription)
    {next : Billing}
    (book : next.book =
      ((billing.putRecord subscription).setReserve subscription.subscriber plan.token reserve).book)
    (enough : reserve ≤ next.allowance plan.token subscription.subscriber)
    (others : ∀ subscriber token, ¬ (subscriber = subscription.subscriber ∧ token = plan.token) →
      billing.allowance token subscriber ≤ next.allowance token subscriber) :
    next.Covered := by
  have reserves : ∀ subscriber token, next.book.reserves subscriber token =
      if subscriber = subscription.subscriber ∧ token = plan.token then reserve
      else billing.book.reserves subscriber token := by
    intro subscriber token
    rw [book, Billing.reserves_setReserve, max_eq_right nonneg]
    rfl
  have plans : next.book.plans = billing.book.plans := by rw [book]; rfl
  have records : next.book.records = billing.book.records.put subscription := by rw [book]; rfl
  refine ⟨?_, fun subscriber token => ?_, fun subscriber token => ?_, fun subscriber token => ?_⟩
  · refine ⟨plans ▸ covered.sound.plans, ?_⟩
    rw [plans, records]
    exact covered.sound.records.put regular
  · rw [reserves, plans, records]
    have written := Table.total_put (outstanding billing.book.plans subscriber token)
      billing.book.records subscription
    have before := covered.reserved subscriber token
    split_ifs with here
    · obtain ⟨rfl, rfl⟩ := here
      omega
    · rw [weightAt_elsewhere planned same here, outstanding_elsewhere planned here] at written
      omega
  · rw [reserves]
    split_ifs
    · exact small
    · exact covered.small _ _
  · rw [reserves]
    split_ifs with here
    · obtain ⟨rfl, rfl⟩ := here
      exact enough
    · exact (covered.covered _ _).trans (others _ _ here)

end Covered

section Changes

variable {env : Env} {world : World} {next : Billing} {call : Call}

/-- A subscription that the call starts does not saturate the reserve. -/
def Unsaturated (world : World) : Call → Prop
  | .subscription (.subscribe _ subscriber planId _) =>
      ∀ plan ∈ world.subscriptions.plans.get planId,
        InI128 (plan.amount * plan.maxCycles) ∧
          InI128 (world.getSubscriptionReserve subscriber plan.token +
            plan.amount * plan.maxCycles)
  | _ => True

instance (world : World) (call : Call) : Decidable (Unsaturated world call) := by
  unfold Unsaturated
  split <;> infer_instance

theorem Billing.Covered.afterStart {billing : Billing} (covered : billing.Covered)
    {merchant subscriber : Address} {planId subscriptionId : Text} {plan : SubscriptionPlan}
    (planned : billing.book.plans.get planId = some plan)
    (free : billing.book.records.get subscriptionId = none)
    (product : InI128 (plan.amount * plan.maxCycles))
    (sum : InI128 (billing.book.reserves subscriber plan.token + plan.amount * plan.maxCycles)) :
    (billing.afterStart (startedSubscription world merchant subscriber planId subscriptionId)
      plan).Covered := by
  obtain ⟨amount, cycles⟩ := covered.sound.plans _ _ planned
  have raised : raisedReserve billing subscriber plan =
      billing.book.reserves subscriber plan.token + plan.amount * plan.maxCycles := by
    rw [raisedReserve, saturatingMul_eq product, saturatingAdd_eq sum]
  have nonneg : 0 ≤ raisedReserve billing subscriber plan := by
    rw [raised]
    exact Int.add_nonneg (covered.reserve_nonneg _ _) (Int.mul_nonneg amount.le (by omega))
  let subscription := startedSubscription world merchant subscriber planId subscriptionId
  have regular : subscription.Regular billing.book.plans := by
    refine ⟨plan, planned, Nat.zero_le _, nofun, fun all => ?_⟩
    change 0 = plan.maxCycles at all
    omega
  refine covered.put subscription regular planned ?_ nonneg (raised ▸ sum.2) ?_ rfl ?_ ?_
  · intro old found
    exact nomatch free.symm.trans found
  · have absent : billing.book.records.weightAt
        (outstanding billing.book.plans subscriber plan.token) subscriptionId = 0 := by
      simp [Table.weightAt, free]
    have left : outstanding billing.book.plans subscriber plan.token subscription =
        plan.amount * (plan.maxCycles - (0 : Nat)) := outstanding_active planned rfl
    change raisedReserve billing subscriber plan + billing.book.records.weightAt
        (outstanding billing.book.plans subscriber plan.token) subscriptionId =
      billing.book.reserves subscriber plan.token +
        outstanding billing.book.plans subscriber plan.token subscription
    rw [absent, left, raised]
    simp
  · rw [Billing.afterStart, Billing.allowance_allow, if_pos ⟨rfl, rfl⟩]
    exact le_refl _
  · intro other token elsewhere
    rw [Billing.afterStart, Billing.allowance_allow, if_neg fun same => elsewhere same.symm]
    exact le_refl _

theorem Billing.Covered.afterCharge {billing : Billing} (covered : billing.Covered)
    {subscription : Subscription} {plan : SubscriptionPlan} (now : Nat)
    (stored : billing.book.records.get subscription.subscriptionId = some subscription)
    (planned : billing.book.plans.get subscription.planId = some plan)
    (active : subscription.status = .active)
    (cyclesLeft : subscription.cyclesCharged < plan.maxCycles)
    (regular : (subscription.charged plan now).Regular billing.book.plans) :
    (billing.afterCharge subscription plan now).Covered := by
  have progress := outstanding_charged planned active cyclesLeft now
  have left : 0 ≤ outstanding billing.book.plans subscription.subscriber plan.token
      (subscription.charged plan now) := outstanding_nonneg regular covered.sound.plans
  have part := covered.outstanding_le stored subscription.subscriber plan.token
  have small := covered.small subscription.subscriber plan.token
  have amount := (covered.sound.plans _ _ planned).1
  have lowered : saturatingSub (billing.book.reserves subscription.subscriber plan.token)
      plan.amount = billing.book.reserves subscription.subscriber plan.token - plan.amount :=
    saturatingSub_eq (inI128_of_le (by omega) (by omega) small)
  have book : (billing.afterCharge subscription plan now).book =
      ((billing.putRecord (subscription.charged plan now)).setReserve subscription.subscriber
        plan.token
        (billing.book.reserves subscription.subscriber plan.token - plan.amount)).book := by
    rw [← lowered]
    rfl
  refine covered.put (subscription.charged plan now) regular planned ?_ (by omega) (by omega) ?_
    book ?_ ?_
  · intro old found
    obtain rfl := Option.some.inj (stored.symm.trans found)
    exact ⟨rfl, rfl⟩
  · have weight : billing.book.records.weightAt
        (outstanding billing.book.plans subscription.subscriber plan.token)
        subscription.subscriptionId =
          outstanding billing.book.plans subscription.subscriber plan.token subscription := by
      simp [Table.weightAt, stored]
    change billing.book.reserves subscription.subscriber plan.token - plan.amount +
        billing.book.records.weightAt
          (outstanding billing.book.plans subscription.subscriber plan.token)
          subscription.subscriptionId =
      billing.book.reserves subscription.subscriber plan.token +
        outstanding billing.book.plans subscription.subscriber plan.token
          (subscription.charged plan now)
    omega
  · have enough := covered.covered subscription.subscriber plan.token
    rw [Billing.afterCharge, Billing.allowance_allow, if_pos ⟨rfl, rfl⟩]
    omega
  · intro other token elsewhere
    rw [Billing.afterCharge, Billing.allowance_allow, if_neg fun same => elsewhere same.symm]
    exact le_refl _

theorem Billing.Covered.loweredReserve_eq {billing : Billing} (covered : billing.Covered)
    {subscription : Subscription} {plan : SubscriptionPlan}
    (stored : billing.book.records.get subscription.subscriptionId = some subscription)
    (planned : billing.book.plans.get subscription.planId = some plan)
    (active : subscription.status = .active)
    (within : subscription.cyclesCharged ≤ plan.maxCycles) :
    loweredReserve billing subscription plan =
      billing.book.reserves subscription.subscriber plan.token -
        outstanding billing.book.plans subscription.subscriber plan.token subscription := by
  have left := outstanding_active planned active
  have nonneg : 0 ≤ outstanding billing.book.plans subscription.subscriber plan.token
      subscription :=
    outstanding_nonneg (covered.sound.records _ _ stored) covered.sound.plans
  have part := covered.outstanding_le stored subscription.subscriber plan.token
  have small := covered.small subscription.subscriber plan.token
  have product : saturatingMul plan.amount (plan.maxCycles - subscription.cyclesCharged : Nat) =
      outstanding billing.book.plans subscription.subscriber plan.token subscription := by
    rw [Nat.cast_sub within, saturatingMul_eq (left ▸ inI128_of_le nonneg part small), left]
  rw [loweredReserve, product]
  exact saturatingSub_eq (inI128_of_le (by omega) (by omega) small)

theorem Billing.Covered.afterEnd {billing next : Billing} (covered : billing.Covered)
    {subscription : Subscription} {plan : SubscriptionPlan}
    (stored : billing.book.records.get subscription.subscriptionId = some subscription)
    (planned : billing.book.plans.get subscription.planId = some plan)
    (active : subscription.status = .active)
    (within : subscription.cyclesCharged ≤ plan.maxCycles)
    (book : next.book = (billing.afterEnd subscription plan).book)
    (enough : loweredReserve billing subscription plan ≤
      next.allowance plan.token subscription.subscriber)
    (others : ∀ subscriber token, ¬ (subscriber = subscription.subscriber ∧ token = plan.token) →
      billing.allowance token subscriber ≤ next.allowance token subscriber) :
    next.Covered := by
  have lowered := covered.loweredReserve_eq stored planned active within
  have regular := covered.sound.records _ _ stored
  have nonneg : 0 ≤ outstanding billing.book.plans subscription.subscriber plan.token
      subscription := outstanding_nonneg regular covered.sound.plans
  have part := covered.outstanding_le stored subscription.subscriber plan.token
  have small := covered.small subscription.subscriber plan.token
  let ended : Subscription := { subscription with status := .cancelled }
  refine covered.put ended (regular.cancelled active) planned ?_ (by omega) (by omega) ?_ book
    enough others
  · intro old found
    obtain rfl := Option.some.inj (stored.symm.trans found)
    exact ⟨rfl, rfl⟩
  · have weight : billing.book.records.weightAt
        (outstanding billing.book.plans subscription.subscriber plan.token)
        subscription.subscriptionId =
          outstanding billing.book.plans subscription.subscriber plan.token subscription := by
      simp [Table.weightAt, stored]
    have none : outstanding billing.book.plans subscription.subscriber plan.token ended = 0 :=
      outstanding_ended (by simp [ended])
    change loweredReserve billing subscription plan + billing.book.records.weightAt
        (outstanding billing.book.plans subscription.subscriber plan.token)
        subscription.subscriptionId =
      billing.book.reserves subscription.subscriber plan.token +
        outstanding billing.book.plans subscription.subscriber plan.token ended
    omega

/-- Every change by a call that does not saturate a reserve keeps the reserves covered. -/
theorem BillingChange.covered
    (change : BillingChange env world (world.billing env.host.self) call next)
    (covered : (world.billing env.host.self).Covered) (unsaturated : Unsaturated world call) :
    next.Covered := by
  have sound := change.sound covered.sound
  cases change with
  | kept => exact covered
  | planned admin plan free positive cycles =>
      refine ⟨sound, fun subscriber token => ?_, covered.small, covered.covered⟩
      refine (covered.reserved subscriber token).trans (Table.total_congr ?_)
      intro name subscription stored
      obtain ⟨old, planned, _⟩ := covered.sound.records name subscription stored
      have different : subscription.planId ≠ plan.planId := by
        intro same
        rw [same] at planned
        exact nomatch planned.symm.trans free
      simp only [outstanding, Billing.update_book, Table.get_put_of_ne different]
  | started merchant subscriber planId subscriptionId plan planned free =>
      obtain ⟨product, sum⟩ := unsaturated plan planned
      exact covered.afterStart planned free product sum
  | charged subscription plan stored chargeable =>
      have active := chargeable.isActive (covered.sound.records _ _ stored)
      have regular := sound.records subscription.subscriptionId
        (subscription.charged plan world.timestamp) (Table.get_put_self _ _)
      exact covered.afterCharge world.timestamp stored chargeable.planned active
        chargeable.cyclesLeft regular
  | ended caller subscription plan stored active planned within =>
      have lowered := covered.loweredReserve_eq stored planned active within
      have nonneg : 0 ≤ outstanding (world.billing env.host.self).book.plans
          subscription.subscriber plan.token subscription :=
        outstanding_nonneg (covered.sound.records _ _ stored) covered.sound.plans
      have before := covered.covered subscription.subscriber plan.token
      refine covered.afterEnd stored planned active within rfl ?_ fun _ _ _ => le_refl _
      change _ ≤ (world.billing env.host.self).allowance plan.token subscription.subscriber
      omega
  | endedBySubscriber caller subscription plan stored active planned within =>
      refine covered.afterEnd stored planned active within rfl ?_ fun other token elsewhere => ?_
      · rw [Billing.allowance_allow, if_pos ⟨rfl, rfl⟩]
      · rw [Billing.allowance_allow, if_neg fun same => elsewhere same.symm]
        exact le_refl _
  | renewed subscriber token =>
      refine ⟨sound, covered.reserved, covered.small, fun other otherToken => ?_⟩
      rw [Billing.allowance_allow]
      split_ifs with here
      · obtain ⟨rfl, rfl⟩ := here
        exact le_refl _
      · exact covered.covered other otherToken

end Changes

section Steps

variable {host : Host} {world : World}

/-- No allowance to the contract is granted past the contract. -/
def KeepsAllowances (host : Host) : Action → Prop
  | .tokens (.approve _ _ spender _) => spender ≠ host.self
  | _ => True

instance (host : Host) (action : Action) : Decidable (KeepsAllowances host action) := by
  unfold KeepsAllowances
  split <;> infer_instance

theorem TokenAction.allowance_same {self : Address} {operation : TokenAction}
    {bank next : TokenLedger Address Address} (foreign : operation.authoriser ≠ some self)
    (silent : ∀ token owner amount, operation ≠ .approve token owner self amount)
    (applied : operation.apply bank = some next) (token owner : Address) :
    next.allowance token owner self = bank.allowance token owner self := by
  cases operation with
  | transfer =>
      obtain ⟨_, _, rfl⟩ := TokenLedger.transfer_eq_some.mp applied
      rfl
  | transferFrom held spender =>
      have other : self ≠ spender := fun same => foreign (congrArg some same.symm)
      obtain ⟨_, _, _, rfl⟩ := TokenLedger.transferFrom_eq_some.mp applied
      rw [TokenLedger.allowance_setAllowance, if_neg (by simp [other])]
      rfl
  | approve held holder spender amount =>
      have other : self ≠ spender := by
        rintro rfl
        exact silent held holder amount rfl
      obtain ⟨_, rfl⟩ := TokenLedger.approve_eq_some.mp applied
      rw [TokenLedger.allowance_setAllowance, if_neg (by simp [other])]
  | mint =>
      simp only [TokenAction.apply, Option.ite_none_right_eq_some, Option.some.injEq] at applied
      obtain ⟨_, rfl⟩ := applied
      rfl
  | burn =>
      simp only [TokenAction.apply, Option.ite_none_right_eq_some, Option.some.injEq] at applied
      obtain ⟨_, rfl⟩ := applied
      rfl

theorem step_tokens_billing {operation : TokenAction}
    (keeps : KeepsAllowances host (.tokens operation)) :
    (step host world (.tokens operation)).billing host.self = world.billing host.self := by
  simp only [step]
  split
  · rfl
  · next foreign =>
      refine Billing.ext rfl (funext fun token => funext fun owner => ?_) rfl
      cases applied : operation.apply world.bank with
      | none => rfl
      | some bank =>
          have silent : ∀ token owner amount,
              operation ≠ .approve token owner host.self amount := by
            rintro token owner amount rfl
            exact keeps rfl
          exact operation.allowance_same foreign silent applied token owner

theorem step_covered {action : Action} (covered : (world.billing host.self).Covered)
    (keeps : KeepsAllowances host action)
    (unsaturated : AcceptsOnly host Unsaturated world action) :
    ((step host world action).billing host.self).Covered := by
  cases action with
  | invoke auth permits call =>
      by_cases accepted : Accepted host world auth permits call
      · exact accepted.succeeds.billingChange.covered covered (unsaturated accepted)
      · rw [step_of_refused accepted]
        exact covered
  | tokens operation =>
      rw [step_tokens_billing keeps]
      exact covered
  | advance => exact covered

end Steps

section Runs

variable {host : Host} {start : World} {actions : List Action}

theorem run_covered (deployed : Deployed host start)
    (granted : ∀ token owner, 0 ≤ start.bank.allowance token owner host.self)
    (keeps : Along (step host) (fun _ => KeepsAllowances host) start actions)
    (unsaturated : Along (step host) (AcceptsOnly host Unsaturated) start actions) :
    ((run (step host) start actions).billing host.self).Covered := by
  have initial : (start.billing host.self).Covered := by
    obtain ⟨bank, timestamp, sequence, _, _, rfl⟩ := deployed
    exact ⟨⟨Table.all_empty _, Table.all_empty _⟩, fun _ _ => rfl,
      fun _ _ => (by decide : (0 : Int) ≤ i128Max), fun owner token => granted token owner⟩
  have stepwise : ∀ world action, (World.billing host.self world).Covered →
      KeepsAllowances host action ∧ AcceptsOnly host Unsaturated world action →
      ((step host world action).billing host.self).Covered :=
    fun _ _ covered admitted => step_covered covered admitted.1 admitted.2
  exact run_invariant_along stepwise initial ((along_and start actions).mpr ⟨keeps, unsaturated⟩)

/-- The allowance covers the next charge of every chargeable subscription. -/
theorem Billing.Covered.amount_le {world : World} {env : Env} {merchant : Address}
    {subscription : Subscription} {plan : SubscriptionPlan}
    (covered : (world.billing env.host.self).Covered)
    (stored : world.subscriptions.records.get subscription.subscriptionId = some subscription)
    (chargeable : subscription.Chargeable env world merchant plan) :
    0 ≤ plan.amount ∧
      plan.amount ≤ world.bank.allowance plan.token subscription.subscriber env.host.self := by
  have active := chargeable.isActive (covered.sound.records _ _ stored)
  have left := outstanding_active chargeable.planned active
  have amount := (covered.sound.plans _ _ chargeable.planned).1
  have cyclesLeft := chargeable.cyclesLeft
  have once : plan.amount ≤ plan.amount * (plan.maxCycles - subscription.cyclesCharged) :=
    le_mul_of_one_le_right amount.le (by omega)
  refine ⟨amount.le, ?_⟩
  calc plan.amount
      ≤ outstanding world.subscriptions.plans subscription.subscriber plan.token subscription := by
        rw [left]
        exact once
    _ ≤ world.getSubscriptionReserve subscription.subscriber plan.token :=
        covered.outstanding_le stored _ _
    _ ≤ world.bank.allowance plan.token subscription.subscriber env.host.self :=
        covered.covered _ _

/-- In every run in which allowances to the contract are granted through the contract only
and no reserve saturates, the reserve of a subscriber in a token is what is outstanding on
the active subscriptions, the allowance covers it, and a charge that passes its own checks
can only fail at the token contract's permission or the subscriber's balance. -/
theorem reserves_cover_charges (deployed : Deployed host start)
    (granted : ∀ token owner, 0 ≤ start.bank.allowance token owner host.self)
    (keeps : Along (step host) (fun _ => KeepsAllowances host) start actions)
    (unsaturated : Along (step host) (AcceptsOnly host Unsaturated) start actions) :
    (∀ subscriber token,
      (run (step host) start actions).getSubscriptionReserve subscriber token =
        (run (step host) start actions).subscriptions.records.total
          (outstanding (run (step host) start actions).subscriptions.plans subscriber token)) ∧
    (∀ subscriber token,
      (run (step host) start actions).getSubscriptionReserve subscriber token ≤
        (run (step host) start actions).bank.allowance token subscriber host.self) ∧
    ∀ auth permits merchant subscription plan,
      (run (step host) start actions).subscriptions.records.get subscription.subscriptionId =
          some subscription →
      Sized subscription.subscriptionId →
      subscription.Chargeable (host.env auth permits) (run (step host) start actions) merchant
          plan →
      (Accepted host (run (step host) start actions) auth permits
          (.subscription (.chargeSubscription merchant subscription.subscriptionId)) ↔
        permits (.transferFrom plan.token host.self subscription.subscriber
            subscription.merchant plan.amount) = true ∧
          plan.amount ≤
            (run (step host) start actions).bank.balance plan.token subscription.subscriber) := by
  have covered := run_covered deployed granted keeps unsaturated
  refine ⟨covered.reserved, covered.covered, ?_⟩
  intro auth permits merchant subscription plan stored sized chargeable
  constructor
  · intro accepted
    obtain ⟨other, otherPlan, found, checks, permitted, _, funded, _⟩ :=
      chargeSubscription_commits_iff.mp ⟨_, accepted.succeeds.executes⟩
    obtain rfl := Option.some.inj (stored.symm.trans found)
    obtain rfl := Option.some.inj (chargeable.planned.symm.trans checks.planned)
    exact ⟨permitted, funded⟩
  · rintro ⟨permitted, funded⟩
    obtain ⟨nonneg, allowed⟩ := Billing.Covered.amount_le covered stored chargeable
    obtain ⟨next, committed⟩ := chargeSubscription_commits_iff.mpr
      ⟨subscription, plan, stored, chargeable, permitted, nonneg, funded, allowed⟩
    exact ⟨next, succeeds_iff.mpr ⟨sized, committed⟩⟩

end Runs

theorem reserves_cover_charges_sample :
    500 ≤ (run (step Sample.host) Sample.start Sample.billing).bank.allowance Sample.coin
      Sample.payer Sample.contract := by
  have reserve : (run (step Sample.host) Sample.start Sample.billing).getSubscriptionReserve
      Sample.payer Sample.coin = 500 := by
    decide +kernel
  have keeps : Along (step Sample.host) (fun _ => KeepsAllowances Sample.host) Sample.start
      Sample.billing := by
    decide +kernel
  have unsaturated : Along (step Sample.host) (AcceptsOnly Sample.host Unsaturated) Sample.start
      Sample.billing := by
    decide +kernel
  have covered :=
    reserves_cover_charges Sample.deployed_start (fun _ _ => le_refl 0) keeps unsaturated
  rw [← reserve]
  exact covered.2.1 Sample.payer Sample.coin

end LumenFlow

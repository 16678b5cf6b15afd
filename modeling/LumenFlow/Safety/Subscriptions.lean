import LumenFlow.Effect.Accepted

/-!
# Billing

Plans, subscriptions and reserves, together with what the contract may spend for the
subscribers and what it has charged them.  Only the subscription calls change these.
-/

namespace LumenFlow

open Kit Contract

/-- The subscription book, the allowances granted to the contract, by token and owner,
and the charges of subscriptions, latest first. -/
@[ext]
structure Billing where
  book : SubscriptionBook
  allowance : Address → Address → Int
  charges : List Transfer

/-- The subscription that a transfer charges. -/
def Transfer.subscription (transfer : Transfer) : Option Text :=
  match transfer.cause with
  | .subscription subscriptionId => some subscriptionId
  | _ => none

def World.billing (self : Address) (world : World) : Billing where
  book := world.subscriptions
  allowance token owner := world.bank.allowance token owner self
  charges := world.transfers.filter (·.subscription.isSome)

namespace Billing

/-- Change the subscription book. -/
@[simps]
def update (billing : Billing) (change : SubscriptionBook → SubscriptionBook) : Billing :=
  { billing with book := change billing.book }

abbrev putPlan (billing : Billing) (plan : SubscriptionPlan) : Billing :=
  billing.update fun book => { book with plans := book.plans.put plan }

abbrev putRecord (billing : Billing) (subscription : Subscription) : Billing :=
  billing.update fun book => { book with records := book.records.put subscription }

/-- Set the reserve of a subscriber in a token. -/
abbrev setReserve (billing : Billing) (subscriber token : Address) (amount : Int) : Billing :=
  billing.update fun book =>
    { book with
      reserves := Function.update book.reserves subscriber
        (Function.update (book.reserves subscriber) token (max 0 amount)) }

/-- Set what the contract may spend for an owner. -/
@[simps]
def allow (billing : Billing) (token owner : Address) (amount : Int) : Billing :=
  { billing with
    allowance := Function.update billing.allowance token
      (Function.update (billing.allowance token) owner amount) }

@[simps]
def charge (billing : Billing) (transfer : Transfer) : Billing :=
  { billing with charges := transfer :: billing.charges }

theorem reserves_setReserve (billing : Billing) (subscriber token other otherToken : Address)
    (amount : Int) :
    (billing.setReserve subscriber token amount).book.reserves other otherToken =
      if other = subscriber ∧ otherToken = token then max 0 amount
      else billing.book.reserves other otherToken := by
  by_cases same : other = subscriber
  · subst same
    simp [Function.update_apply]
  · simp [same]

theorem allowance_allow (billing : Billing) (token owner otherToken other : Address)
    (amount : Int) :
    (billing.allow token owner amount).allowance otherToken other =
      if otherToken = token ∧ other = owner then amount
      else billing.allowance otherToken other := by
  by_cases same : otherToken = token
  · subst same
    simp [Function.update_apply]
  · simp [same]

end Billing

section View

variable {self : Address} {world : World}

@[simp]
theorem billing_updateSubscriptions (change : SubscriptionBook → SubscriptionBook) :
    (world.updateSubscriptions change).billing self = (world.billing self).update change := rfl

@[simp]
theorem billing_setAllowance (token owner : Address) (amount : Int) :
    (world.setAllowance token owner self amount).billing self =
      (world.billing self).allow token owner amount := by
  refine Billing.ext rfl (funext fun otherToken => funext fun other => ?_) rfl
  rw [Billing.allowance_allow]
  simp [World.billing, TokenLedger.allowance_setAllowance]

@[simp]
theorem billing_moveTokens (subscriptionId : Text) (token owner recipient : Address)
    (amount : Int) :
    (world.moveTokens ⟨.subscription subscriptionId, token, owner, recipient, amount⟩).billing
        self =
      (world.billing self).charge
        ⟨.subscription subscriptionId, token, owner, recipient, amount⟩ := rfl

instance : Narrow (World.billing self) where
  same {before after} equal :=
    have books : after.subscriptions = before.subscriptions := congrArg Inner.subscriptions equal
    have banks : after.bank = before.bank := congrArg Inner.bank equal
    have moves : after.transfers = before.transfers := congrArg Inner.transfers equal
    by simp only [World.billing, books, banks, moves]

instance (payer : Address) : IgnoresNonce (World.billing self) payer := ⟨fun _ => rfl⟩

instance (merchant : Address) : IgnoresMerchantNonce (World.billing self) merchant :=
  ⟨fun _ => rfl⟩

instance (token : Address) : IgnoresListing (World.billing self) token := ⟨fun _ _ => rfl⟩

instance : IgnoresMultisigs (World.billing self) := ⟨fun _ _ => rfl⟩

instance : IgnoresTransfers (World.billing self) where
  same world transfer oneOff := by
    have silent : transfer.subscription = none := by
      unfold Transfer.subscription
      split
      · next subscriptionId named => exact absurd named (oneOff.other subscriptionId)
      · rfl
    refine Billing.ext rfl rfl ?_
    simp [World.billing, silent]

end View

section Specs

variable {env : Env} {world next : World}

/-- The subscription after a charge. -/
def Subscription.charged (subscription : Subscription) (plan : SubscriptionPlan) (now : Nat) :
    Subscription :=
  { subscription with
    cyclesCharged := subscription.cyclesCharged + 1
    lastChargedAt := now
    status :=
      if plan.maxCycles ≤ subscription.cyclesCharged + 1 then .completed else subscription.status }

/-- The transfer that a charge makes. -/
def Subscription.chargeTransfer (subscription : Subscription) (plan : SubscriptionPlan) :
    Transfer where
  cause := .subscription subscription.subscriptionId
  token := plan.token
  sender := subscription.subscriber
  recipient := subscription.merchant
  amount := plan.amount

/-- The checks that a charge makes itself. -/
structure Subscription.Chargeable (env : Env) (world : World) (merchant : Address)
    (subscription : Subscription) (plan : SubscriptionPlan) : Prop where
  unpaused : world.gov.paused = false
  authorised : env.Authorised merchant
  payee : merchant = subscription.merchant
  standing : subscription.status ≠ .cancelled
  planned : world.subscriptions.plans.get subscription.planId = some plan
  allowed : world.config.allowedTokens plan.token = true
  active : ∃ profile, world.merchants.records.get subscription.merchant = some profile ∧
    profile.active = true
  cyclesLeft : subscription.cyclesCharged < plan.maxCycles
  due : saturatingAddU64 subscription.lastChargedAt plan.intervalSecs ≤ world.timestamp
  counted : subscription.cyclesCharged + 1 ≤ u32Max

/-- The billing after a charge. -/
def Billing.afterCharge (billing : Billing) (subscription : Subscription)
    (plan : SubscriptionPlan) (now : Nat) : Billing :=
  (((billing.putRecord (subscription.charged plan now)).setReserve subscription.subscriber
    plan.token (saturatingSub (billing.book.reserves subscription.subscriber plan.token)
      plan.amount)).charge (subscription.chargeTransfer plan)).allow plan.token
        subscription.subscriber
        (billing.allowance plan.token subscription.subscriber - plan.amount)

/-- A charge makes its own checks, and then the token contract looks at the permission,
the balance and the allowance. -/
theorem chargeSubscription_commits_iff {merchant : Address} {subscriptionId : Text} :
    (∃ next, (chargeSubscription merchant subscriptionId).Commits env world () next) ↔
      ∃ subscription plan, world.subscriptions.records.get subscriptionId = some subscription ∧
        subscription.Chargeable env world merchant plan ∧
        env.permits (.transferFrom plan.token env.host.self subscription.subscriber
          subscription.merchant plan.amount) = true ∧
        0 ≤ plan.amount ∧
        plan.amount ≤ world.bank.balance plan.token subscription.subscriber ∧
        plan.amount ≤ world.bank.allowance plan.token subscription.subscriber env.host.self := by
  simp [chargeSubscription, requireTokenAllowed]
  constructor
  · rintro ⟨unpaused, authorised, subscription, stored, payee, standing, plan, planned, allowed,
      profile, found, active, cyclesLeft, due, counted, permitted, nonneg, funded, covered⟩
    exact ⟨subscription, stored, plan, ⟨unpaused, authorised, payee, standing, planned, allowed,
      ⟨profile, found, active⟩, cyclesLeft, due, counted⟩, permitted, nonneg, funded, covered⟩
  · rintro ⟨subscription, stored, plan, checks, permitted, nonneg, funded, covered⟩
    obtain ⟨profile, found, active⟩ := checks.active
    exact ⟨checks.unpaused, checks.authorised, subscription, stored, checks.payee,
      checks.standing, plan, checks.planned, checks.allowed, profile, found, active,
      checks.cyclesLeft, checks.due, checks.counted, permitted, nonneg, funded, covered⟩

theorem chargeSubscription_billing {merchant : Address} {subscriptionId : Text}
    (committed : (chargeSubscription merchant subscriptionId).Commits env world () next) :
    ∃ subscription plan, world.subscriptions.records.get subscriptionId = some subscription ∧
      subscription.Chargeable env world merchant plan ∧
      plan.amount ≤ world.bank.allowance plan.token subscription.subscriber env.host.self ∧
      next.billing env.host.self =
        (world.billing env.host.self).afterCharge subscription plan world.timestamp := by
  simp [chargeSubscription, requireTokenAllowed] at committed
  obtain ⟨unpaused, authorised, subscription, stored, payee, standing, plan, planned, allowed,
    profile, found, active, cyclesLeft, due, counted, _, _, _, covered, rfl⟩ := committed
  obtain rfl := Table.key_of_get stored
  refine ⟨subscription, plan, stored, ⟨unpaused, authorised, payee, standing, planned, allowed,
    ⟨profile, found, active⟩, cyclesLeft, due, counted⟩, covered, ?_⟩
  simp
  rfl

/-- A subscription as its subscriber starts it. -/
def startedSubscription (world : World) (merchant subscriber : Address)
    (planId subscriptionId : Text) : Subscription where
  subscriptionId := subscriptionId
  planId := planId
  merchant := merchant
  subscriber := subscriber
  status := .active
  cyclesCharged := 0
  lastChargedAt := world.timestamp
  createdAt := world.timestamp

/-- The reserve of a subscriber who takes another subscription. -/
def raisedReserve (billing : Billing) (subscriber : Address) (plan : SubscriptionPlan) : Int :=
  saturatingAdd (billing.book.reserves subscriber plan.token)
    (saturatingMul plan.amount plan.maxCycles)

/-- The billing after a subscription was taken. -/
def Billing.afterStart (billing : Billing) (subscription : Subscription)
    (plan : SubscriptionPlan) : Billing :=
  ((billing.putRecord subscription).setReserve subscription.subscriber plan.token
    (raisedReserve billing subscription.subscriber plan)).allow plan.token subscription.subscriber
      (raisedReserve billing subscription.subscriber plan)

theorem subscribe_billing {merchant subscriber : Address} {planId subscriptionId : Text}
    (committed : (subscribe merchant subscriber planId subscriptionId).Commits env world ()
      next) :
    ∃ plan, world.subscriptions.plans.get planId = some plan ∧
      world.subscriptions.records.get subscriptionId = none ∧
      0 ≤ raisedReserve (world.billing env.host.self) subscriber plan ∧
      next.billing env.host.self = (world.billing env.host.self).afterStart
        (startedSubscription world merchant subscriber planId subscriptionId) plan := by
  simp [subscribe] at committed
  obtain ⟨_, _, _, plan, planned, free, _, _, _, _, _, nonneg, rfl⟩ := committed
  refine ⟨plan, planned, free, nonneg, ?_⟩
  simp
  rfl

/-- The reserve of a subscriber after the end of a subscription. -/
def loweredReserve (billing : Billing) (subscription : Subscription) (plan : SubscriptionPlan) :
    Int :=
  saturatingSub (billing.book.reserves subscription.subscriber plan.token)
    (saturatingMul plan.amount (plan.maxCycles - subscription.cyclesCharged : Nat))

/-- The billing after the end of a subscription. -/
def Billing.afterEnd (billing : Billing) (subscription : Subscription)
    (plan : SubscriptionPlan) : Billing :=
  (billing.putRecord { subscription with status := .cancelled }).setReserve
    subscription.subscriber plan.token (loweredReserve billing subscription plan)

theorem cancelSubscription_billing {caller : Address} {subscriptionId : Text}
    (committed : (cancelSubscription caller subscriptionId).Commits env world () next) :
    ∃ subscription plan, world.subscriptions.records.get subscriptionId = some subscription ∧
      subscription.status = .active ∧
      world.subscriptions.plans.get subscription.planId = some plan ∧
      subscription.cyclesCharged ≤ plan.maxCycles ∧
      (next.billing env.host.self =
          (world.billing env.host.self).afterEnd subscription plan ∨
        next.billing env.host.self =
          ((world.billing env.host.self).afterEnd subscription plan).allow plan.token
            subscription.subscriber (loweredReserve (world.billing env.host.self) subscription
              plan)) := by
  simp [cancelSubscription] at committed
  obtain ⟨_, _, subscription, stored, _, active, plan, planned, within, approved | silent⟩ :=
    committed
  · obtain ⟨rfl, _, _, _, rfl⟩ := approved
    refine ⟨subscription, plan, stored, active, planned, within, .inr ?_⟩
    simp
    rfl
  · obtain ⟨_, rfl⟩ := silent
    exact ⟨subscription, plan, stored, active, planned, within, .inl rfl⟩

end Specs

section Changes

/-- The subscription that the call starts or charges. -/
def Call.billed : Call → Option Text
  | .subscription (.subscribe _ _ _ subscriptionId) => some subscriptionId
  | .subscription (.chargeSubscription _ subscriptionId) => some subscriptionId
  | _ => none

/-- The changes that a committed call can make to the billing. -/
inductive BillingChange (env : Env) (world : World) (billing : Billing) :
    Call → Billing → Prop where
  | kept (call : Call) (other : call.billed = none) :
      BillingChange env world billing call billing
  | planned (admin : Address) (plan : SubscriptionPlan)
      (free : billing.book.plans.get plan.planId = none) (positive : 0 < plan.amount)
      (cycles : 0 < plan.maxCycles) :
      BillingChange env world billing
        (.subscription (.createSubscriptionPlan admin plan.planId plan.token plan.amount
          plan.intervalSecs plan.maxCycles))
        (billing.putPlan plan)
  | started (merchant subscriber : Address) (planId subscriptionId : Text)
      (plan : SubscriptionPlan) (planned : billing.book.plans.get planId = some plan)
      (free : billing.book.records.get subscriptionId = none)
      (nonneg : 0 ≤ raisedReserve billing subscriber plan) :
      BillingChange env world billing
        (.subscription (.subscribe merchant subscriber planId subscriptionId))
        (billing.afterStart
          (startedSubscription world merchant subscriber planId subscriptionId) plan)
  | charged (subscription : Subscription) (plan : SubscriptionPlan)
      (stored : billing.book.records.get subscription.subscriptionId = some subscription)
      (chargeable : subscription.Chargeable env world subscription.merchant plan)
      (covered : plan.amount ≤ billing.allowance plan.token subscription.subscriber) :
      BillingChange env world billing
        (.subscription (.chargeSubscription subscription.merchant subscription.subscriptionId))
        (billing.afterCharge subscription plan world.timestamp)
  | ended (caller : Address) (subscription : Subscription) (plan : SubscriptionPlan)
      (stored : billing.book.records.get subscription.subscriptionId = some subscription)
      (active : subscription.status = .active)
      (planned : billing.book.plans.get subscription.planId = some plan)
      (within : subscription.cyclesCharged ≤ plan.maxCycles) :
      BillingChange env world billing
        (.subscription (.cancelSubscription caller subscription.subscriptionId))
        (billing.afterEnd subscription plan)
  | endedBySubscriber (caller : Address) (subscription : Subscription) (plan : SubscriptionPlan)
      (stored : billing.book.records.get subscription.subscriptionId = some subscription)
      (active : subscription.status = .active)
      (planned : billing.book.plans.get subscription.planId = some plan)
      (within : subscription.cyclesCharged ≤ plan.maxCycles) :
      BillingChange env world billing
        (.subscription (.cancelSubscription caller subscription.subscriptionId))
        ((billing.afterEnd subscription plan).allow plan.token subscription.subscriber
          (loweredReserve billing subscription plan))
  | renewed (subscriber token : Address) :
      BillingChange env world billing
        (.subscription (.renewSubscriptionAllowance subscriber token))
        (billing.allow token subscriber (billing.book.reserves subscriber token))

variable {host : Host} {env : Env} {world next : World}

theorem SubscriptionCall.billingChange {call : SubscriptionCall}
    (committed : call.exec.Commits env world () next) :
    BillingChange env world (world.billing env.host.self) (.subscription call)
      (next.billing env.host.self) := by
  cases call with
  | createSubscriptionPlan admin planId token amount intervalSecs maxCycles =>
      simp [SubscriptionCall.exec, Contract.createSubscriptionPlan, requireTokenAllowed]
        at committed
      obtain ⟨_, _, _, positive, ⟨_, cycles⟩, _, free, rfl⟩ := committed
      exact .planned admin ⟨planId, token, amount, intervalSecs, maxCycles, world.timestamp⟩ free
        positive (Nat.pos_of_ne_zero cycles)
  | subscribe merchant subscriber planId subscriptionId =>
      obtain ⟨plan, planned, free, nonneg, billing⟩ := subscribe_billing committed
      rw [billing]
      exact .started merchant subscriber planId subscriptionId plan planned free nonneg
  | chargeSubscription merchant subscriptionId =>
      obtain ⟨subscription, plan, stored, chargeable, covered, billing⟩ :=
        chargeSubscription_billing committed
      rw [billing]
      obtain rfl := Table.key_of_get stored
      obtain rfl := chargeable.payee
      exact .charged subscription plan stored chargeable covered
  | cancelSubscription caller subscriptionId =>
      obtain ⟨subscription, plan, stored, active, planned, within, silent | approved⟩ :=
        cancelSubscription_billing committed
      · rw [silent]
        obtain rfl := Table.key_of_get stored
        exact .ended caller subscription plan stored active planned within
      · rw [approved]
        obtain rfl := Table.key_of_get stored
        exact .endedBySubscriber caller subscription plan stored active planned within
  | renewSubscriptionAllowance subscriber token =>
      simp [SubscriptionCall.exec, Contract.renewSubscriptionAllowance] at committed
      obtain ⟨_, _, _, _, _, rfl⟩ := committed
      rw [billing_setAllowance]
      exact .renewed subscriber token
  | getSubscriptionPlan =>
      simp [SubscriptionCall.exec, Contract.getSubscriptionPlan] at committed
      obtain ⟨_, _, rfl⟩ := committed
      exact .kept _ rfl
  | getSubscription =>
      simp [SubscriptionCall.exec, Contract.getSubscription] at committed
      obtain ⟨_, _, rfl⟩ := committed
      exact .kept _ rfl

theorem Call.billingChange {call : Call} (committed : call.exec.Commits env world () next) :
    BillingChange env world (world.billing env.host.self) call (next.billing env.host.self) := by
  have quiet (ignored : call.Ignored (World.billing env.host.self)) (other : call.billed = none) :
      BillingChange env world (world.billing env.host.self) call (next.billing env.host.self) := by
    rw [(call.keeps ignored).kept committed]
    exact .kept call other
  cases call with
  | subscription => exact SubscriptionCall.billingChange committed
  | admin => exact quiet (fun _ _ => inferInstance) rfl
  | payment => exact quiet ⟨fun _ _ => inferInstance, fun _ _ => inferInstance⟩ rfl
  | multisig => exact quiet (inferInstanceAs (IgnoresMultisigs _)) rfl
  | _ => exact quiet trivial rfl

end Changes

section Sound

/-- The subscription is to a stored plan, has not been charged more often than the plan
says, and is completed when it has been charged that often. -/
def Subscription.Regular (plans : Table SubscriptionPlan.planId) (subscription : Subscription) :
    Prop :=
  ∃ plan, plans.get subscription.planId = some plan ∧
    subscription.cyclesCharged ≤ plan.maxCycles ∧
    (subscription.status = .completed ↔ subscription.cyclesCharged = plan.maxCycles)

structure SubscriptionBook.Sound (book : SubscriptionBook) : Prop where
  plans : book.plans.All fun plan => 0 < plan.amount ∧ 0 < plan.maxCycles
  records : book.records.All (Subscription.Regular book.plans)

variable {env : Env} {world : World} {billing next : Billing} {call : Call}

theorem Subscription.Chargeable.isActive {merchant : Address} {subscription : Subscription}
    {plan : SubscriptionPlan} (chargeable : subscription.Chargeable env world merchant plan)
    (regular : subscription.Regular world.subscriptions.plans) : subscription.status = .active := by
  obtain ⟨other, planned, _, completed⟩ := regular
  obtain rfl := Option.some.inj (chargeable.planned.symm.trans planned)
  have cyclesLeft := chargeable.cyclesLeft
  cases status : subscription.status with
  | active => rfl
  | cancelled => exact absurd status chargeable.standing
  | completed =>
      have all := completed.mp status
      omega

theorem Subscription.Regular.cancelled {plans : Table SubscriptionPlan.planId}
    {subscription : Subscription} (regular : subscription.Regular plans)
    (active : subscription.status = .active) :
    Subscription.Regular plans { subscription with status := .cancelled } := by
  obtain ⟨plan, planned, within, completed⟩ := regular
  refine ⟨plan, planned, within, nofun, fun all => ?_⟩
  rw [completed.mpr all] at active
  cases active

theorem BillingChange.sound (change : BillingChange env world (world.billing env.host.self) call
    next) (sound : world.subscriptions.Sound) : next.book.Sound := by
  cases change with
  | kept => exact sound
  | planned admin plan free positive cycles =>
      refine ⟨sound.plans.put ⟨positive, cycles⟩, fun name subscription stored => ?_⟩
      obtain ⟨old, planned, regular⟩ := sound.records name subscription stored
      exact ⟨old, Table.get_put_free free planned, regular⟩
  | started merchant subscriber planId subscriptionId plan planned free nonneg =>
      refine ⟨sound.plans, sound.records.put ⟨plan, planned, Nat.zero_le _, nofun, ?_⟩⟩
      intro all
      have cycles := (sound.plans _ _ planned).2
      change 0 = plan.maxCycles at all
      omega
  | charged subscription plan stored chargeable covered =>
      have cyclesLeft := chargeable.cyclesLeft
      have active := chargeable.isActive (sound.records _ _ stored)
      refine ⟨sound.plans, sound.records.put ⟨plan, chargeable.planned, cyclesLeft, ?_⟩⟩
      simp only [Subscription.charged, active]
      split_ifs with last
      · simp
        omega
      · simp
        omega
  | ended caller subscription plan stored active =>
      have regular := sound.records _ _ stored
      exact ⟨sound.plans, sound.records.put (regular.cancelled active)⟩
  | endedBySubscriber caller subscription plan stored active =>
      have regular := sound.records _ _ stored
      exact ⟨sound.plans, sound.records.put (regular.cancelled active)⟩
  | renewed => exact sound

end Sound

section Steps

variable {host : Host} {world : World}

theorem Succeeds.billingChange {auth : List Address} {permits : TokenCall → Bool} {call : Call}
    {next : World} (succeeded : Succeeds host world auth permits call next) :
    BillingChange (host.env auth permits) world (world.billing host.self) call
      (next.billing host.self) :=
  Call.billingChange succeeded.executes

theorem step_bookSound {action : Action} (sound : world.subscriptions.Sound) :
    (step host world action).subscriptions.Sound := by
  rcases step_cases host world action with
    ⟨auth, permits, call, rfl, succeeded⟩ | ⟨_, _, _, _, same⟩
  · exact succeeded.billingChange.sound sound
  · rw [same]
    exact sound

theorem Deployed.bookSound {start : World} (deployed : Deployed host start) :
    start.subscriptions.Sound := by
  obtain ⟨_, _, _, _, _, rfl⟩ := deployed
  exact ⟨Table.all_empty _, Table.all_empty _⟩

end Steps

namespace Sample

/-- The payer takes two subscriptions to one plan, and the first is charged. -/
def billing : List Action := opening ++ [
  invokedBy admin (.subscription (.createSubscriptionPlan admin [1] coin 100 10 3)),
  invokedBy payer (.subscription (.subscribe shop payer [1] [1])),
  invokedBy payer (.subscription (.subscribe shop payer [1] [2])),
  .advance 1 20,
  invokedBy shop (.subscription (.chargeSubscription shop [1]))]

end Sample

end LumenFlow

import LumenFlow.Effect.Frame
import LumenFlow.Safety.Allowances
import LumenFlow.Safety.Solvency

/-!
# Collecting a subscription

The merchant of an active subscription can collect it to its end: one charge for each interval,
without another signature of the subscriber, until the plan's last cycle.  Allowances are taken
not to expire in the meantime.
-/

namespace LumenFlow

open Kit Contract

/-- What a subscription needs besides money and time. -/
structure Subscription.Collectable (world : World) (subscription : Subscription)
    (plan : SubscriptionPlan) : Prop where
  stored : world.subscriptions.records.get subscription.subscriptionId = some subscription
  planned : world.subscriptions.plans.get subscription.planId = some plan
  standing : subscription.status ≠ .cancelled
  unpaused : world.gov.paused = false
  allowed : world.config.allowedTokens plan.token = true
  active : ∃ profile, world.merchants.records.get subscription.merchant = some profile ∧
    profile.active = true

/-- The merchant waits and then charges the subscription. -/
def Subscription.billingCycle (subscription : Subscription) (permits : TokenCall → Bool)
    (wait : Nat × Nat) : List Action := [
  .advance wait.1 wait.2,
  .invoke [subscription.merchant] permits
    (.subscription (.chargeSubscription subscription.merchant subscription.subscriptionId))]

/-- One cycle after the other. -/
def Subscription.collection (subscription : Subscription) (permits : TokenCall → Bool)
    (waits : List (Nat × Nat)) : List Action :=
  waits.flatMap (subscription.billingCycle permits)

/-- Every call among the actions is accepted. -/
def Accepts (host : Host) (world : World) : Action → Prop
  | .invoke auth permits call => Accepted host world auth permits call
  | .tokens _ | .advance .. => True

/-! ## Times and sizes -/

/-- No subscription has been charged in the future, and its numbers are of their types. -/
structure SubscriptionBook.InTime (book : SubscriptionBook) (now : Nat) : Prop where
  records : book.records.All fun subscription =>
    Sized subscription.subscriptionId ∧ subscription.lastChargedAt ≤ now
  plans : book.plans.All fun plan => plan.maxCycles ≤ u32Max

section InTime

variable {host : Host} {env : Env} {world : World} {next : Billing} {call : Call} {now later : Nat}
  {book : SubscriptionBook}

theorem SubscriptionBook.InTime.mono (inTime : book.InTime now) (passed : now ≤ later) :
    book.InTime later := by
  refine ⟨?_, inTime.plans⟩
  intro name subscription stored
  obtain ⟨sized, past⟩ := inTime.records name subscription stored
  exact ⟨sized, past.trans passed⟩

theorem BillingChange.inTime
    (change : BillingChange env world (world.billing env.host.self) call next)
    (fits : call.Fits) (inTime : world.subscriptions.InTime world.timestamp) :
    next.book.InTime world.timestamp := by
  cases change with
  | kept => exact inTime
  | planned admin plan => exact ⟨inTime.records, inTime.plans.put fits.2.2.2⟩
  | started merchant subscriber planId subscriptionId plan =>
      exact ⟨inTime.records.put ⟨fits.2, le_refl _⟩, inTime.plans⟩
  | charged subscription plan stored =>
      have before := inTime.records _ _ stored
      exact ⟨inTime.records.put ⟨before.1, le_refl _⟩, inTime.plans⟩
  | ended caller subscription plan stored =>
      have before := inTime.records _ _ stored
      exact ⟨inTime.records.put before, inTime.plans⟩
  | endedBySubscriber caller subscription plan stored =>
      have before := inTime.records _ _ stored
      exact ⟨inTime.records.put before, inTime.plans⟩
  | renewed => exact inTime

theorem step_inTime {action : Action} (clock : world.timestamp ≤ u64Max)
    (inTime : world.subscriptions.InTime world.timestamp) :
    (step host world action).subscriptions.InTime (step host world action).timestamp := by
  apply SubscriptionBook.InTime.mono _ (step_timestamp host action clock).1
  rcases step_cases host world action with
    ⟨auth, permits, call, rfl, succeeded⟩ | ⟨_, _, _, _, same⟩
  · exact succeeded.billingChange.inTime (succeeds_iff.mp succeeded).1 inTime
  · rw [same]
    exact inTime

theorem run_inTime {start : World} (deployed : Deployed host start)
    (clock : start.timestamp ≤ u64Max) (actions : List Action) :
    (run (step host) start actions).timestamp ≤ u64Max ∧
      (run (step host) start actions).subscriptions.InTime
        (run (step host) start actions).timestamp := by
  have initial : start.subscriptions.InTime start.timestamp := by
    obtain ⟨_, _, _, _, _, rfl⟩ := deployed
    exact ⟨Table.all_empty _, Table.all_empty _⟩
  have stepwise : ∀ world action,
      World.timestamp world ≤ u64Max ∧ world.subscriptions.InTime world.timestamp →
        (step host world action).timestamp ≤ u64Max ∧
          (step host world action).subscriptions.InTime (step host world action).timestamp :=
    fun _ action kept =>
      ⟨(step_timestamp host action kept.1).2, step_inTime kept.1 kept.2⟩
  exact run_invariant stepwise ⟨clock, initial⟩ actions

end InTime

/-! ## One charge -/

section Charge

variable {host : Host} {env : Env} {world next : World} {subscription : Subscription}
  {plan : SubscriptionPlan} {permits : TokenCall → Bool}

theorem chargeSubscription_rest {merchant : Address}
    (stored : world.subscriptions.records.get subscription.subscriptionId = some subscription)
    (planned : world.subscriptions.plans.get subscription.planId = some plan)
    (committed : (chargeSubscription merchant subscription.subscriptionId).Commits env world ()
      next) :
    next.gov = world.gov ∧ next.config = world.config ∧ next.merchants = world.merchants ∧
      next.timestamp = world.timestamp ∧
      next.bank.balance = (world.bank.move plan.token subscription.subscriber
        subscription.merchant plan.amount).balance := by
  simp [chargeSubscription, requireTokenAllowed] at committed
  obtain ⟨_, _, old, found, _, _, other, read, _, _, _, _, _, _, _, _, _, _, _, rfl⟩ := committed
  obtain rfl := Option.some.inj (stored.symm.trans found)
  obtain rfl := Option.some.inj (planned.symm.trans read)
  exact ⟨rfl, rfl, rfl, rfl, rfl⟩

theorem Subscription.Collectable.chargeable (collectable : subscription.Collectable world plan)
    (authorised : env.Authorised subscription.merchant)
    (cyclesLeft : subscription.cyclesCharged < plan.maxCycles)
    (counted : plan.maxCycles ≤ u32Max)
    (due : subscription.lastChargedAt + plan.intervalSecs ≤ world.timestamp) :
    subscription.Chargeable env world subscription.merchant plan where
  unpaused := collectable.unpaused
  authorised := authorised
  payee := rfl
  standing := collectable.standing
  planned := collectable.planned
  allowed := collectable.allowed
  active := collectable.active
  cyclesLeft := cyclesLeft
  due := (min_le_right _ _).trans due
  counted := by omega

/-- A charge that is due and funded succeeds and leaves the subscription collectable. -/
theorem Subscription.Collectable.charge (collectable : subscription.Collectable world plan)
    (covered : (world.billing host.self).Covered)
    (inTime : world.subscriptions.InTime world.timestamp)
    (other : subscription.merchant ≠ host.self)
    (permitted : permits (.transferFrom plan.token host.self subscription.subscriber
      subscription.merchant plan.amount) = true)
    (cyclesLeft : subscription.cyclesCharged < plan.maxCycles)
    (due : subscription.lastChargedAt + plan.intervalSecs ≤ world.timestamp)
    (funded : plan.amount ≤ world.bank.balance plan.token subscription.subscriber) :
    ∃ next, Succeeds host world [subscription.merchant] permits
        (.subscription (.chargeSubscription subscription.merchant subscription.subscriptionId))
        next ∧
      (subscription.charged plan world.timestamp).Collectable next plan ∧
      next.timestamp = world.timestamp ∧
      next.bank.balance = (world.bank.move plan.token subscription.subscriber
        subscription.merchant plan.amount).balance := by
  have authorised : (host.env [subscription.merchant] permits).Authorised subscription.merchant :=
    ⟨other, List.mem_singleton_self _⟩
  have chargeable := collectable.chargeable authorised cyclesLeft
    (inTime.plans _ _ collectable.planned) due
  obtain ⟨nonneg, granted⟩ := Billing.Covered.amount_le covered collectable.stored chargeable
  obtain ⟨next, committed⟩ := chargeSubscription_commits_iff.mpr
    ⟨subscription, plan, collectable.stored, chargeable, permitted, nonneg, funded, granted⟩
  obtain ⟨gov, config, merchants, clock, bank⟩ :=
    chargeSubscription_rest collectable.stored collectable.planned committed
  obtain ⟨found, foundPlan, stored, checks, _, billing⟩ := chargeSubscription_billing committed
  obtain rfl := Option.some.inj (collectable.stored.symm.trans stored)
  obtain rfl := Option.some.inj (collectable.planned.symm.trans checks.planned)
  have book : next.subscriptions =
      ((world.billing host.self).afterCharge subscription plan world.timestamp).book :=
    congrArg Billing.book billing
  refine ⟨next, succeeds_iff.mpr ⟨(inTime.records _ _ stored).1, committed⟩, ?_, clock, bank⟩
  constructor
  · rw [book]
    exact Table.get_put_self _ _
  · rw [book]
    exact collectable.planned
  · simp only [Subscription.charged]
    split
    · simp
    · exact collectable.standing
  · rw [gov]
    exact collectable.unpaused
  · rw [config]
    exact collectable.allowed
  · rw [merchants]
    exact collectable.active

end Charge

/-! ## The whole collection -/

section Collection

variable {host : Host} {world : World} {subscription : Subscription} {plan : SubscriptionPlan}
  {permits : TokenCall → Bool} {wait : Nat × Nat} {waits : List (Nat × Nat)}

/-- The balances after charges that take an amount. -/
def Collected (subscription : Subscription) (plan : SubscriptionPlan) (amount : Int)
    (before after : World) : Prop :=
  ∀ token account, after.bank.balance token account =
    before.bank.balance token account +
      (if token = plan.token ∧ account = subscription.merchant then amount else 0) -
      (if token = plan.token ∧ account = subscription.subscriber then amount else 0)

/-- What the run of a collection keeps. -/
structure Subscription.Ready (host : Host) (world : World) (subscription : Subscription)
    (plan : SubscriptionPlan) : Prop extends subscription.Collectable world plan where
  covered : (world.billing host.self).Covered
  inTime : world.subscriptions.InTime world.timestamp

theorem Subscription.Ready.advance (ready : subscription.Ready host world plan)
    (clock : world.timestamp + wait.2 ≤ u64Max) :
    subscription.Ready host (step host world (.advance wait.1 wait.2)) plan where
  stored := ready.stored
  planned := ready.planned
  standing := ready.standing
  unpaused := ready.unpaused
  allowed := ready.allowed
  active := ready.active
  covered := ready.covered
  inTime := by
    apply SubscriptionBook.InTime.mono ready.inTime
    exact le_min ((Nat.le_add_right _ _).trans clock) (Nat.le_add_right _ _)

theorem Subscription.Ready.cycle (ready : subscription.Ready host world plan)
    (other : subscription.merchant ≠ host.self)
    (permitted : permits (.transferFrom plan.token host.self subscription.subscriber
      subscription.merchant plan.amount) = true)
    (long : plan.intervalSecs ≤ wait.2) (clock : world.timestamp + wait.2 ≤ u64Max)
    (cyclesLeft : subscription.cyclesCharged < plan.maxCycles)
    (funded : plan.amount ≤ world.bank.balance plan.token subscription.subscriber) :
    Along (step host) (Accepts host) world (subscription.billingCycle permits wait) ∧
      (run (step host) world (subscription.billingCycle permits wait)).timestamp =
        world.timestamp + wait.2 ∧
      (subscription.charged plan (world.timestamp + wait.2)).Ready host
        (run (step host) world (subscription.billingCycle permits wait)) plan ∧
      Collected subscription plan plan.amount world
        (run (step host) world (subscription.billingCycle permits wait)) := by
  have waited := ready.advance clock
  have now : (step host world (.advance wait.1 wait.2)).timestamp = world.timestamp + wait.2 :=
    min_eq_right clock
  have due : subscription.lastChargedAt + plan.intervalSecs ≤
      (step host world (.advance wait.1 wait.2)).timestamp := by
    have past := (ready.inTime.records _ _ ready.stored).2
    omega
  obtain ⟨next, succeeded, collectable, still, balance⟩ := waited.charge waited.covered
    waited.inTime other permitted cyclesLeft due funded
  have ends : run (step host) world (subscription.billingCycle permits wait) = next :=
    succeeded.step_eq
  have covered : (next.billing host.self).Covered :=
    succeeded.billingChange.covered waited.covered trivial
  have inTime : next.subscriptions.InTime next.timestamp := by
    rw [still]
    exact succeeded.billingChange.inTime (succeeds_iff.mp succeeded).1 waited.inTime
  rw [ends, ← now]
  refine ⟨⟨trivial, succeeded.accepted, trivial⟩, still, ⟨collectable, covered, inTime⟩, ?_⟩
  intro token account
  rw [balance, TokenLedger.balance_move]
  rfl

/-- Charges taken one after another add up. -/
theorem Collected.trans {first second : Int} {middle last : World} {later : Subscription}
    (merchant : later.merchant = subscription.merchant)
    (subscriber : later.subscriber = subscription.subscriber)
    (before : Collected subscription plan first world middle)
    (after : Collected later plan second middle last) :
    Collected subscription plan (first + second) world last := by
  intro token account
  rw [after, before, merchant, subscriber]
  split_ifs <;> ring

theorem Subscription.Ready.collect (ready : subscription.Ready host world plan)
    (other : subscription.merchant ≠ host.self)
    (permitted : permits (.transferFrom plan.token host.self subscription.subscriber
      subscription.merchant plan.amount) = true)
    (long : ∀ wait ∈ waits, plan.intervalSecs ≤ wait.2)
    (clock : world.timestamp + (waits.map Prod.snd).sum ≤ u64Max)
    (few : subscription.cyclesCharged + waits.length ≤ plan.maxCycles)
    (funded : plan.amount * waits.length ≤
      world.bank.balance plan.token subscription.subscriber) :
    Along (step host) (Accepts host) world (subscription.collection permits waits) ∧
      (∃ record : Subscription, record.subscriptionId = subscription.subscriptionId ∧
        record.Ready host (run (step host) world (subscription.collection permits waits)) plan ∧
        record.cyclesCharged = subscription.cyclesCharged + waits.length) ∧
      Collected subscription plan (plan.amount * waits.length) world
        (run (step host) world (subscription.collection permits waits)) := by
  induction waits generalizing world subscription with
  | nil => exact ⟨trivial, ⟨subscription, rfl, ready, rfl⟩, fun token account => by
      simp [Subscription.collection]⟩
  | cons wait waits inductionHypothesis =>
      rw [List.map_cons, List.sum_cons] at clock
      rw [List.length_cons] at few funded
      push_cast at funded
      have amount := (ready.covered.sound.plans _ _ ready.planned).1
      have rest : 0 ≤ plan.amount * (waits.length : Int) :=
        Int.mul_nonneg amount.le (Int.natCast_nonneg _)
      rw [mul_add, mul_one] at funded
      obtain ⟨accepted, now, next, paid⟩ := ready.cycle other permitted
        (long wait (List.mem_cons_self ..)) (by omega) (by omega) (by omega)
      have left : plan.amount * waits.length ≤
          (run (step host) world (subscription.billingCycle permits wait)).bank.balance plan.token
            subscription.subscriber := by
        rw [paid]
        split_ifs <;> simp at * <;> omega
      obtain ⟨later, ⟨record, named, stands, count⟩, collected⟩ := inductionHypothesis next other
        permitted (fun wait member => long wait (List.mem_cons_of_mem _ member))
        (by rw [now]; omega) (by simp only [Subscription.charged]; omega) left
      have split : subscription.collection permits (wait :: waits) =
          subscription.billingCycle permits wait ++ subscription.collection permits waits :=
        List.flatMap_cons ..
      rw [split, along_append, run_append]
      refine ⟨⟨accepted, later⟩, ⟨record, named, stands, ?_⟩, ?_⟩
      · rw [count]
        simp only [Subscription.charged, List.length_cons]
        omega
      · have whole := paid.trans rfl rfl collected
        rw [List.length_cons]
        push_cast
        rwa [mul_add, mul_one, add_comm]

/-- In every run in which allowances to the contract are granted through the contract only and no
reserve saturates, a subscription that is not cancelled can be collected: each charge that the
merchant makes after another interval is accepted as long as cycles are left and the subscriber
has the money, and the last cycle completes the subscription. -/
theorem subscription_collectable {start : World} {actions : List Action}
    (deployed : Deployed host start) (time : start.timestamp ≤ u64Max)
    (granted : ∀ token owner, 0 ≤ start.bank.allowance token owner host.self)
    (keeps : Along (step host) (fun _ => KeepsAllowances host) start actions)
    (unsaturated : Along (step host) (AcceptsOnly host Unsaturated) start actions)
    (collectable : subscription.Collectable (run (step host) start actions) plan)
    (permitted : permits (.transferFrom plan.token host.self subscription.subscriber
      subscription.merchant plan.amount) = true)
    (long : ∀ wait ∈ waits, plan.intervalSecs ≤ wait.2)
    (clock : (run (step host) start actions).timestamp + (waits.map Prod.snd).sum ≤ u64Max)
    (few : subscription.cyclesCharged + waits.length ≤ plan.maxCycles)
    (funded : plan.amount * waits.length ≤
      (run (step host) start actions).bank.balance plan.token subscription.subscriber) :
    Along (step host) (Accepts host) (run (step host) start actions)
        (subscription.collection permits waits) ∧
      (∃ record, (run (step host) start
            (actions ++ subscription.collection permits waits)).subscriptions.records.get
          subscription.subscriptionId = some record ∧
        record.cyclesCharged = subscription.cyclesCharged + waits.length ∧
        record.status = (if record.cyclesCharged = plan.maxCycles then .completed else .active)) ∧
      Collected subscription plan (plan.amount * waits.length) (run (step host) start actions)
        (run (step host) start (actions ++ subscription.collection permits waits)) := by
  have ready : subscription.Ready host (run (step host) start actions) plan :=
    ⟨collectable, run_covered deployed granted keeps unsaturated,
      (run_inTime deployed time actions).2⟩
  obtain ⟨profile, registered, _⟩ := collectable.active
  have other : subscription.merchant ≠ host.self :=
    Books.ne_self_of_registered (sound_run deployed.sound actions).merchants ⟨profile, registered⟩
  obtain ⟨accepted, ⟨record, named, stands, count⟩, collected⟩ :=
    ready.collect other permitted long clock few funded
  rw [run_append]
  refine ⟨accepted, ⟨record, named ▸ stands.stored, count, ?_⟩, collected⟩
  obtain ⟨found, planned, _, completed⟩ := stands.covered.sound.records _ _ stands.stored
  obtain rfl := Option.some.inj (stands.planned.symm.trans planned)
  split_ifs with all
  · exact completed.mpr all
  · cases status : record.status with
    | active => rfl
    | cancelled => exact absurd status stands.standing
    | completed => exact absurd (completed.mp status) all

end Collection

namespace Sample

def monthly : SubscriptionPlan := ⟨[1], coin, 100, 10, 3, 0⟩

def subscribed : Subscription := ⟨[1], [1], shop, payer, .active, 1, 20, 0⟩

def waits : List (Nat × Nat) := [(1, 10), (2, 15)]

def consent (_ : TokenCall) : Bool := true

end Sample

theorem subscription_collectable_sample : ∃ record,
    (run (step Sample.host) Sample.start (Sample.billing ++
        Sample.subscribed.collection Sample.consent Sample.waits)).subscriptions.records.get
      [1] = some record ∧ record.cyclesCharged = 1 + 2 ∧
      record.status = if record.cyclesCharged = 3 then .completed else .active := by
  have keeps : Along (step Sample.host) (fun _ => KeepsAllowances Sample.host) Sample.start
      Sample.billing := by
    decide +kernel
  have unsaturated : Along (step Sample.host) (AcceptsOnly Sample.host Unsaturated) Sample.start
      Sample.billing := by
    decide +kernel
  have trades : ((run (step Sample.host) Sample.start Sample.billing).merchants.records.get
      Sample.shop).any (·.active) = true := by
    decide +kernel
  have collectable : Sample.subscribed.Collectable
      (run (step Sample.host) Sample.start Sample.billing) Sample.monthly :=
    ⟨by decide +kernel, by decide +kernel, nofun, by decide +kernel, by decide +kernel,
      (Option.any_eq_true _ _).mp trades⟩
  have permitted : Sample.consent (.transferFrom Sample.monthly.token Sample.host.self
      Sample.subscribed.subscriber Sample.subscribed.merchant Sample.monthly.amount) = true := rfl
  have long : ∀ wait ∈ Sample.waits, Sample.monthly.intervalSecs ≤ wait.2 := by
    decide
  exact (subscription_collectable Sample.deployed_start (Nat.zero_le _) (fun _ _ => le_refl 0) keeps
    unsaturated collectable permitted long (by decide +kernel) (by decide)
    (by decide +kernel)).2.1

end LumenFlow

import Mathlib.Data.List.Chain
import LumenFlow.Kit.Journal
import LumenFlow.Safety.Subscriptions

/-!
# How often a subscription is charged

The calls that start and charge one subscription, over a whole run, agree with its cycle
counter, its times and the transfers made on its account.
-/

namespace LumenFlow

open Kit Contract

section Events

/-- A start or a charge of a subscription, with its time. -/
inductive BillingEvent where
  | started (time : Nat)
  | charged (time : Nat)
  deriving DecidableEq

/-- What the call does to the subscription. -/
def Call.billingEvents (subscriptionId : Text) (world : World) (_auth : List Address) :
    Call → List BillingEvent
  | .subscription (.subscribe _ _ _ named) =>
      if named = subscriptionId then [.started world.timestamp] else []
  | .subscription (.chargeSubscription _ named) =>
      if named = subscriptionId then [.charged world.timestamp] else []
  | _ => []

theorem billingEvents_of_billed_ne {subscriptionId : Text} {world : World} {auth : List Address}
    {call : Call} (other : call.billed ≠ some subscriptionId) :
    call.billingEvents subscriptionId world auth = [] := by
  unfold Call.billingEvents
  split
  · exact if_neg fun same => other (congrArg some same)
  · exact if_neg fun same => other (congrArg some same)
  · rfl

/-- Two times are an interval apart, unless the sum of the first and the interval is no
`u64` value. -/
def Spaced (intervalSecs first second : Nat) : Prop :=
  first + intervalSecs ≤ u64Max → first + intervalSecs ≤ second

theorem spaced_of_due {intervalSecs first second : Nat}
    (due : saturatingAddU64 first intervalSecs ≤ second) : Spaced intervalSecs first second := by
  intro fits
  rwa [saturatingAddU64, min_eq_right fits] at due

/-- The charges of one subscription, latest first. -/
def chargesOf (subscriptionId : Text) (transfers : List Transfer) : List Transfer :=
  about Transfer.subscription subscriptionId transfers

theorem chargesOf_billing (self : Address) (world : World) (subscriptionId : Text) :
    chargesOf subscriptionId (world.billing self).charges =
      chargesOf subscriptionId world.transfers := by
  simp only [chargesOf, about, World.billing, List.filter_filter]
  apply List.filter_congr
  intro transfer _
  cases transfer.subscription <;> simp

end Events

section Records

/-- The start and the charges that the book knows of agree with what has happened. -/
structure Subscription.Billed (subscription : Subscription) (plan : SubscriptionPlan)
    (charges : List Transfer) (past : List BillingEvent) (times : List Nat) : Prop where
  events : past = .started subscription.createdAt :: times.map .charged
  count : times.length = subscription.cyclesCharged
  spaced : (subscription.createdAt :: times).IsChain (Spaced plan.intervalSecs)
  last : (subscription.createdAt :: times).getLast? = some subscription.lastChargedAt
  moved : chargesOf subscription.subscriptionId charges =
    List.replicate subscription.cyclesCharged (subscription.chargeTransfer plan)

/-- What has happened about a subscription agrees with the book. -/
def Billing.Records (billing : Billing) (subscriptionId : Text) (past : List BillingEvent) :
    Prop :=
  match billing.book.records.get subscriptionId with
  | none => past = [] ∧ chargesOf subscriptionId billing.charges = []
  | some subscription => ∃ plan times,
      billing.book.plans.get subscription.planId = some plan ∧
        subscription.Billed plan billing.charges past times

variable {subscription : Subscription} {plan : SubscriptionPlan} {charges : List Transfer}
  {past : List BillingEvent} {times : List Nat}

theorem Subscription.Billed.charged (billed : subscription.Billed plan charges past times)
    {now : Nat} (due : saturatingAddU64 subscription.lastChargedAt plan.intervalSecs ≤ now) :
    (subscription.charged plan now).Billed plan (subscription.chargeTransfer plan :: charges)
      (past ++ [.charged now]) (times ++ [now]) where
  events := by rw [billed.events]; simp [Subscription.charged]
  count := by rw [List.length_append, billed.count]; rfl
  spaced := by
    rw [← List.cons_append]
    apply billed.spaced.append (List.isChain_singleton now)
    intro first isLast second isHead
    obtain rfl := Option.some.inj (billed.last.symm.trans isLast)
    obtain rfl := Option.some.inj isHead
    exact spaced_of_due due
  last := by rw [← List.cons_append, List.getLast?_append]; rfl
  moved := by
    have named : (subscription.chargeTransfer plan).subscription =
        some subscription.subscriptionId := rfl
    have before := billed.moved
    unfold chargesOf at before ⊢
    exact (about_cons_of_topic named).trans (congrArg _ before)

theorem Billing.Records.of_same {billing next : Billing} {subscriptionId : Text}
    (records : billing.Records subscriptionId past)
    (book : next.book.records.get subscriptionId = billing.book.records.get subscriptionId)
    (plans : ∀ planId plan, billing.book.plans.get planId = some plan →
      next.book.plans.get planId = some plan)
    (charges : chargesOf subscriptionId next.charges = chargesOf subscriptionId billing.charges) :
    next.Records subscriptionId past := by
  unfold Billing.Records at records ⊢
  rw [book, charges]
  split at records
  · exact records
  · next subscription found =>
      obtain ⟨plan, times, planned, billed⟩ := records
      have key : subscription.subscriptionId = subscriptionId := Table.key_of_get found
      refine ⟨plan, times, plans _ _ planned, billed.events, billed.count, billed.spaced,
        billed.last, ?_⟩
      rw [key, charges, ← key]
      exact billed.moved

end Records

section Changes

variable {env : Env} {world : World} {billing next : Billing} {call : Call}
  {subscriptionId : Text} {past : List BillingEvent}

theorem Billing.Records.stored {subscription : Subscription} (records : billing.Records
    subscription.subscriptionId past)
    (stored : billing.book.records.get subscription.subscriptionId = some subscription) :
    ∃ plan times, billing.book.plans.get subscription.planId = some plan ∧
      subscription.Billed plan billing.charges past times := by
  unfold Billing.Records at records
  rwa [stored] at records

theorem Billing.Records.free (records : billing.Records subscriptionId past)
    (free : billing.book.records.get subscriptionId = none) :
    past = [] ∧ chargesOf subscriptionId billing.charges = [] := by
  unfold Billing.Records at records
  rwa [free] at records

theorem Billing.records_of_put (subscription : Subscription) {plan : SubscriptionPlan}
    {times : List Nat}
    (book : next.book.records.get subscription.subscriptionId = some subscription)
    (planned : next.book.plans.get subscription.planId = some plan)
    (billed : subscription.Billed plan next.charges past times) :
    next.Records subscription.subscriptionId past := by
  unfold Billing.Records
  rw [book]
  exact ⟨plan, times, planned, billed⟩

theorem Billing.Records.afterEnd {subscription : Subscription} {plan : SubscriptionPlan}
    (records : billing.Records subscriptionId past)
    (stored : billing.book.records.get subscription.subscriptionId = some subscription) :
    (billing.afterEnd subscription plan).Records subscriptionId past := by
  by_cases same : subscriptionId = subscription.subscriptionId
  · subst same
    obtain ⟨other, times, planned, billed⟩ := records.stored stored
    let ended : Subscription := { subscription with status := .cancelled }
    have continues : ended.Billed other billing.charges past times :=
      ⟨billed.events, billed.count, billed.spaced, billed.last, billed.moved⟩
    exact Billing.records_of_put ended (Table.get_put_self _ _) planned continues
  · exact records.of_same (Table.get_put_of_ne same) (fun _ _ => id) rfl

theorem BillingChange.records
    (change : BillingChange env world (world.billing env.host.self) call next)
    (records : (world.billing env.host.self).Records subscriptionId past) (auth : List Address) :
    next.Records subscriptionId (past ++ call.billingEvents subscriptionId world auth) := by
  cases change with
  | kept call other =>
      rw [billingEvents_of_billed_ne (by simp [other]), List.append_nil]
      exact records
  | planned admin plan free positive cycles =>
      simp only [Call.billingEvents, List.append_nil]
      exact records.of_same rfl (fun planId old planned => Table.get_put_free free planned) rfl
  | started merchant subscriber planId named plan planned free =>
      by_cases same : subscriptionId = named
      · subst same
        obtain ⟨rfl, unmoved⟩ := records.free free
        let begun := startedSubscription world merchant subscriber planId subscriptionId
        have billed : begun.Billed plan (world.billing env.host.self).charges
            [.started world.timestamp] [] :=
          ⟨rfl, rfl, List.isChain_singleton _, rfl, unmoved⟩
        simp only [Call.billingEvents, if_pos, List.nil_append]
        exact Billing.records_of_put begun (Table.get_put_self _ _) planned billed
      · simp only [Call.billingEvents, if_neg (Ne.symm same), List.append_nil]
        exact records.of_same (Table.get_put_of_ne same) (fun _ _ => id) rfl
  | charged subscription plan stored chargeable =>
      by_cases same : subscriptionId = subscription.subscriptionId
      · subst same
        obtain ⟨other, times, planned, billed⟩ := records.stored stored
        obtain rfl := Option.some.inj (planned.symm.trans chargeable.planned)
        simp only [Call.billingEvents, if_pos]
        exact Billing.records_of_put (subscription.charged other world.timestamp)
          (Table.get_put_self _ _) planned (billed.charged chargeable.due)
      · simp only [Call.billingEvents, if_neg (Ne.symm same), List.append_nil]
        refine records.of_same (Table.get_put_of_ne same) (fun _ _ => id) ?_
        exact about_cons_of_ne fun equal => same (Option.some.inj equal).symm
  | ended caller subscription plan stored =>
      simp only [Call.billingEvents, List.append_nil]
      exact records.afterEnd stored
  | endedBySubscriber caller subscription plan stored =>
      simp only [Call.billingEvents, List.append_nil]
      exact (records.afterEnd stored).of_same rfl (fun _ _ => id) rfl
  | renewed =>
      simp only [Call.billingEvents, List.append_nil]
      exact records.of_same rfl (fun _ _ => id) rfl

end Changes

section Steps

variable {host : Host} {world : World} {subscriptionId : Text} {past : List BillingEvent}

theorem step_records {action : Action}
    (records : (world.billing host.self).Records subscriptionId past) :
    ((step host world action).billing host.self).Records subscriptionId
      (past ++ noteAccepted host (Call.billingEvents subscriptionId) world action) := by
  rcases step_cases host world action with
    ⟨auth, permits, call, rfl, succeeded⟩ | ⟨quiet, _, _, _, same⟩
  · rw [noteAccepted_of_accepted succeeded.accepted]
    exact succeeded.billingChange.records records auth
  · rw [quiet, List.append_nil, same]
    exact records

/-- The subscription was cancelled or charged for the last time. -/
def SubscriptionBook.Ended (book : SubscriptionBook) (subscriptionId : Text) : Prop :=
  ∃ subscription, book.records.get subscriptionId = some subscription ∧
    subscription.status ≠ .active

theorem SubscriptionBook.Ended.of_get {book next : SubscriptionBook}
    (ended : book.Ended subscriptionId)
    (same : next.records.get subscriptionId = book.records.get subscriptionId) :
    next.Ended subscriptionId := by
  obtain ⟨subscription, stored, inactive⟩ := ended
  exact ⟨subscription, same.trans stored, inactive⟩

/-- A subscription that has ended is neither started nor charged again, and stays ended. -/
theorem BillingChange.ended_stays {env : Env} {call : Call} {next : Billing}
    (change : BillingChange env world (world.billing env.host.self) call next)
    (sound : world.subscriptions.Sound) (ended : world.subscriptions.Ended subscriptionId) :
    next.book.Ended subscriptionId ∧ call.billed ≠ some subscriptionId := by
  obtain ⟨old, found, inactive⟩ := ended
  have ended : world.subscriptions.Ended subscriptionId := ⟨old, found, inactive⟩
  have other (subscription : Subscription) (active : subscription.status = .active)
      (stored : world.subscriptions.records.get subscription.subscriptionId =
        some subscription) : subscriptionId ≠ subscription.subscriptionId := by
    rintro rfl
    obtain rfl := Option.some.inj (found.symm.trans stored)
    exact inactive active
  cases change with
  | kept call silent => exact ⟨ended, by simp [silent]⟩
  | planned => exact ⟨ended, nofun⟩
  | started merchant subscriber planId named plan planned free =>
      have different : subscriptionId ≠ named := by
        rintro rfl
        exact nomatch found.symm.trans free
      exact ⟨ended.of_get (Table.get_put_of_ne different),
        fun same => different (Option.some.inj same).symm⟩
  | charged subscription plan stored chargeable =>
      have different := other subscription (chargeable.isActive (sound.records _ _ stored)) stored
      exact ⟨ended.of_get (Table.get_put_of_ne different),
        fun same => different (Option.some.inj same).symm⟩
  | ended caller subscription plan stored active =>
      exact ⟨ended.of_get (Table.get_put_of_ne (other subscription active stored)), nofun⟩
  | endedBySubscriber caller subscription plan stored active =>
      exact ⟨ended.of_get (Table.get_put_of_ne (other subscription active stored)), nofun⟩
  | renewed => exact ⟨ended, nofun⟩

theorem step_ended {action : Action} (sound : world.subscriptions.Sound)
    (ended : world.subscriptions.Ended subscriptionId) :
    (step host world action).subscriptions.Ended subscriptionId ∧
      noteAccepted host (Call.billingEvents subscriptionId) world action = [] := by
  rcases step_cases host world action with
    ⟨auth, permits, call, rfl, succeeded⟩ | ⟨quiet, _, _, _, same⟩
  · obtain ⟨later, other⟩ := succeeded.billingChange.ended_stays sound ended
    rw [noteAccepted_of_accepted succeeded.accepted]
    exact ⟨later, billingEvents_of_billed_ne other⟩
  · rw [quiet, same]
    exact ⟨ended, rfl⟩

end Steps

section Runs

variable {host : Host} {start : World} {actions : List Action}

theorem run_bookSound (deployed : Deployed host start) (actions : List Action) :
    (run (step host) start actions).subscriptions.Sound := by
  have stepwise : ∀ world action, (World.subscriptions world).Sound →
      (step host world action).subscriptions.Sound := fun _ _ => step_bookSound
  exact run_invariant stepwise deployed.bookSound actions

theorem run_records (deployed : Deployed host start) (subscriptionId : Text)
    (actions : List Action) :
    ((run (step host) start actions).billing host.self).Records subscriptionId
      (acceptedEntries host (Call.billingEvents subscriptionId) start actions) := by
  have initial : (start.billing host.self).Records subscriptionId [] := by
    obtain ⟨_, _, _, _, _, rfl⟩ := deployed
    exact ⟨rfl, rfl⟩
  have stepwise : ∀ world past action,
      (World.billing host.self world).Records subscriptionId past →
      ((step host world action).billing host.self).Records subscriptionId
        (past ++ noteAccepted host (Call.billingEvents subscriptionId) world action) :=
    fun _ _ _ => step_records
  exact history_invariant stepwise initial actions

theorem run_ended {subscriptionId : Text} (sound : start.subscriptions.Sound)
    (ended : start.subscriptions.Ended subscriptionId) (actions : List Action) :
    acceptedEntries host (Call.billingEvents subscriptionId) start actions = [] := by
  let Over (world : World) (past : List BillingEvent) : Prop :=
    world.subscriptions.Sound ∧ world.subscriptions.Ended subscriptionId ∧ past = []
  have stepwise : ∀ world past action, Over world past →
      Over (step host world action)
        (past ++ noteAccepted host (Call.billingEvents subscriptionId) world action) := by
    rintro world past action ⟨sound, ended, rfl⟩
    obtain ⟨later, quiet⟩ := step_ended sound ended
    exact ⟨step_bookSound sound, later, quiet⟩
  have inactive : Over (run (step host) start actions)
      (acceptedEntries host (Call.billingEvents subscriptionId) start actions) :=
    history_invariant stepwise ⟨sound, ended, rfl⟩ actions
  exact inactive.2.2

/-- The accepted calls about a stored subscription are its start and as many charges as its
counter says, at most the plan's number, an interval apart, each with one transfer of the
plan's amount.  It is completed when no charge is left, and none succeeds after its end. -/
theorem charges_bounded (deployed : Deployed host start) (actions : List Action) :
    (∀ subscriptionId subscription,
      (run (step host) start actions).subscriptions.records.get subscriptionId =
          some subscription →
      ∃ plan times,
        (run (step host) start actions).subscriptions.plans.get subscription.planId =
            some plan ∧
          acceptedEntries host (Call.billingEvents subscriptionId) start actions =
            .started subscription.createdAt :: times.map .charged ∧
          times.length = subscription.cyclesCharged ∧
          subscription.cyclesCharged ≤ plan.maxCycles ∧
          (subscription.createdAt :: times).IsChain (Spaced plan.intervalSecs) ∧
          chargesOf subscriptionId (run (step host) start actions).transfers =
            List.replicate subscription.cyclesCharged (subscription.chargeTransfer plan) ∧
          ((chargesOf subscriptionId (run (step host) start actions).transfers).map
            (·.amount)).sum = plan.amount * subscription.cyclesCharged ∧
          (subscription.status = .completed ↔ subscription.cyclesCharged = plan.maxCycles)) ∧
    ∀ before after subscriptionId, actions = before ++ after →
      (run (step host) start before).subscriptions.Ended subscriptionId →
      acceptedEntries host (Call.billingEvents subscriptionId) (run (step host) start before)
        after = [] := by
  constructor
  · intro subscriptionId subscription stored
    obtain rfl := Table.key_of_get stored
    obtain ⟨plan, times, planned, billed⟩ :=
      (run_records deployed subscription.subscriptionId actions).stored stored
    obtain ⟨other, found, within, completed⟩ :=
      (run_bookSound deployed actions).records _ _ stored
    obtain rfl := Option.some.inj (planned.symm.trans found)
    have moved := billed.moved
    rw [chargesOf_billing] at moved
    refine ⟨plan, times, planned, billed.events, billed.count, within, billed.spaced, moved,
      ?_, completed⟩
    rw [moved]
    simp [Subscription.chargeTransfer, mul_comm]
  · intro before after subscriptionId _ ended
    exact run_ended (run_bookSound deployed before) ended after

end Runs

theorem charges_bounded_sample : ∃ times : List Nat,
    acceptedEntries Sample.host (Call.billingEvents [1]) Sample.start Sample.billing =
      .started 0 :: times.map .charged ∧ times.length = 1 := by
  have stored :
      (run (step Sample.host) Sample.start Sample.billing).subscriptions.records.get [1] =
        some ⟨[1], [1], Sample.shop, Sample.payer, .active, 1, 20, 0⟩ := by
    decide +kernel
  obtain ⟨_, times, _, events, count, _⟩ :=
    (charges_bounded Sample.deployed_start Sample.billing).1 _ _ stored
  exact ⟨times, events, count⟩

end LumenFlow

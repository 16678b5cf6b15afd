import LumenFlow.Effect.Roster

/-!
# The number of active merchants

The statistics count the active merchants.  Registrations and reactivations add
to the count, and start with a merchant that is not active.  A deactivation takes
one off, whether or not its merchant was active before.
-/

namespace LumenFlow

open Kit Contract

/-- What a merchant adds to the number of active ones. -/
def Merchant.activity (profile : Merchant) : Nat := if profile.active then 1 else 0

/-- How many of the stored merchants are active. -/
def World.activeCount (world : World) : Nat :=
  world.merchants.records.total Merchant.activity

/-- The statistics have the number of active merchants. -/
def World.ActiveExact (world : World) : Prop :=
  world.getGlobalStats.activeMerchants = world.activeCount

/-- A deactivation finds its merchant active, or no merchant at all is active. -/
def Call.DeactivatesActive (world : World) : Call → Prop
  | .merchant (.deactivateMerchant _ named) =>
      world.standing named = some true ∨ world.activeCount = 0
  | _ => True

/-- What a committed call does to the number in the statistics and to the standings. -/
inductive ActiveMove (world next : World) : Call → Prop where
  | kept (call : Call)
      (other : ∀ admin merchant, call ≠ .merchant (.deactivateMerchant admin merchant))
      (count : next.stats.global.activeMerchants = world.stats.global.activeMerchants)
      (standings : ∀ address, next.standing address = world.standing address) :
      ActiveMove world next call
  | raised (call : Call)
      (other : ∀ admin merchant, call ≠ .merchant (.deactivateMerchant admin merchant))
      (merchant : Address) (idle : world.standing merchant ≠ some true)
      (count : next.stats.global.activeMerchants = world.stats.global.activeMerchants + 1)
      (standings : ∀ address, next.standing address =
        if merchant = address then some true else world.standing address) :
      ActiveMove world next call
  | lowered (admin merchant : Address)
      (count : next.stats.global.activeMerchants = world.stats.global.activeMerchants - 1)
      (standings : ∀ address, next.standing address =
        if merchant = address then some false else world.standing address) :
      ActiveMove world next (.merchant (.deactivateMerchant admin merchant))

/-- What a standing adds to the number of active merchants. -/
def activity (standing : Option Bool) : Nat := if standing = some true then 1 else 0

section Moves

variable {env : Env} {world next : World} {call : Call} {merchant : Address}

theorem Call.standing_given {flag : Bool} (committed : call.exec.Commits env world () next)
    (decides : ∀ address, call.standings address world [] =
      if merchant = address then [flag] else []) (address : Address) :
    next.standing address = if merchant = address then some flag else world.standing address := by
  rw [Call.standing_spec address [] committed, decides]
  split <;> rfl

theorem registerMerchant_count {name description contactInfo : Text}
    {category : MerchantCategory} {referralId : Option Address}
    (committed : (Contract.registerMerchant merchant name description contactInfo category
      referralId).Commits env world () next) :
    next.stats.global.activeMerchants = world.stats.global.activeMerchants + 1 := by
  cases referralId with
  | none =>
      simp [Contract.registerMerchant, addActiveMerchant] at committed
      obtain ⟨_, _, _, _, _, _, rfl⟩ := committed
      rfl
  | some referral =>
      simp [Contract.registerMerchant, addActiveMerchant] at committed
      obtain ⟨_, _, _, _, _, _, _, referrer, found, _, rfl⟩ := committed
      rfl

theorem Call.activeMove (committed : call.exec.Commits env world () next) :
    ActiveMove world next call := by
  have kept (silent : .activeMerchants ∉ call.parts)
      (undecided : ∀ address, call.standings address world [] = []) :
      ActiveMove world next call := by
    refine .kept call ?_ (call.writes.frame committed .activeMerchants silent) ?_
    · rintro admin merchant rfl
      exact silent (by simp [Call.parts, MerchantCall.parts])
    · intro address
      rw [Call.standing_spec address [] committed, undecided]
      rfl
  cases call with
  | merchant call =>
      cases call with
      | revealMerchantRegistration merchant name description contactInfo category nonce =>
          have unknown := standing_of_registration committed (.inl ⟨_, _, _, _, _, rfl⟩)
          refine .raised _ (by simp) merchant (by simp [unknown]) ?_
            (Call.standing_given committed fun _ => rfl)
          simp [Call.exec, MerchantCall.exec, Contract.revealMerchantRegistration,
            addActiveMerchant] at committed
          obtain ⟨_, _, _, _, _, _, _, _, _, _, rfl⟩ := committed
          rfl
      | registerMerchant merchant name description contactInfo category referralId =>
          have unknown := standing_of_registration committed (.inr ⟨_, _, _, _, _, rfl⟩)
          exact .raised _ (by simp) merchant (by simp [unknown]) (registerMerchant_count committed)
            (Call.standing_given committed fun _ => rfl)
      | deactivateMerchant admin merchant =>
          refine .lowered admin merchant ?_ (Call.standing_given committed fun _ => rfl)
          simp [Call.exec, MerchantCall.exec, Contract.deactivateMerchant] at committed
          obtain ⟨_, _, profile, found, rfl⟩ := committed
          rfl
      | reactivateMerchant admin merchant =>
          have standings : ∀ address, next.standing address =
              if merchant = address then some true else world.standing address :=
            Call.standing_given committed fun _ => rfl
          simp [Call.exec, MerchantCall.exec, Contract.reactivateMerchant, addActiveMerchant]
            at committed
          obtain ⟨_, _, profile, found, inactive, _, rfl⟩ := committed
          have idle : world.standing merchant = some false := by
            simp [World.standing, standing, found, inactive]
          exact .raised _ (by simp) merchant (by simp [idle]) rfl standings
      | _ => exact kept (by simp [Call.parts, MerchantCall.parts]) fun _ => rfl
  | admin call => exact kept (by cases call <;> simp [Call.parts, AdminCall.parts]) fun _ => rfl
  | payment call => exact kept (by cases call <;> simp [Call.parts, PaymentCall.parts]) fun _ => rfl
  | refund call => exact kept (by cases call <;> simp [Call.parts, RefundCall.parts]) fun _ => rfl
  | multisig call =>
      exact kept (by cases call <;> simp [Call.parts, MultisigCall.parts]) fun _ => rfl
  | subscription call =>
      exact kept (by cases call <;> simp [Call.parts, SubscriptionCall.parts]) fun _ => rfl
  | escrow call => exact kept (by cases call <;> simp [Call.parts, EscrowCall.parts]) fun _ => rfl

theorem weightAt_activity (world : World) (address : Address) :
    world.merchants.records.weightAt Merchant.activity address =
      activity (world.standing address) := by
  simp only [Table.weightAt, World.standing, standing]
  cases world.merchants.records.get address with
  | none => rfl
  | some profile => simp [Merchant.activity, activity]

theorem activeCount_except
    (others : ∀ address, merchant ≠ address → next.standing address = world.standing address) :
    next.activeCount + activity (world.standing merchant) =
      world.activeCount + activity (next.standing merchant) := by
  rw [← weightAt_activity, ← weightAt_activity]
  apply Table.total_except
  intro address different
  rw [weightAt_activity, weightAt_activity, others address different.symm]

theorem activeCount_congr
    (same : ∀ address, next.standing address = world.standing address) :
    next.activeCount = world.activeCount := by
  apply Table.total_congr_weightAt
  intro address
  rw [weightAt_activity, weightAt_activity, same address]

theorem deactivatesActive_of_other
    (other : ∀ admin merchant, call ≠ .merchant (.deactivateMerchant admin merchant)) :
    call.DeactivatesActive world := by
  unfold Call.DeactivatesActive
  split
  · next admin merchant => exact absurd rfl (other admin merchant)
  · trivial

/-- A committed call keeps an exact number exactly if it does not deactivate a merchant
that is not active, unless there is none to take off. -/
theorem ActiveMove.exact_iff (move : ActiveMove world next call) (exact : world.ActiveExact) :
    next.ActiveExact ↔ call.DeactivatesActive world := by
  have before : world.stats.global.activeMerchants = world.activeCount := exact
  have after : next.ActiveExact ↔ next.stats.global.activeMerchants = next.activeCount := Iff.rfl
  rw [after]
  cases move with
  | kept _ other count standings =>
      rw [count, activeCount_congr standings]
      exact iff_of_true before (deactivatesActive_of_other other)
  | raised _ other merchant idle count standings =>
      have sums := activeCount_except fun address different =>
        (standings address).trans (if_neg different)
      have was : activity (world.standing merchant) = 0 := if_neg idle
      have is : activity (some true) = 1 := rfl
      rw [standings merchant, if_pos rfl, was, is] at sums
      exact iff_of_true (by omega) (deactivatesActive_of_other other)
  | lowered admin merchant count standings =>
      have sums := activeCount_except fun address different =>
        (standings address).trans (if_neg different)
      have is : activity (some false) = 0 := rfl
      rw [standings merchant, if_pos rfl, is] at sums
      by_cases active : world.standing merchant = some true
      · have was : activity (world.standing merchant) = 1 := if_pos active
        exact iff_of_true (by omega) (.inl active)
      · have was : activity (world.standing merchant) = 0 := if_neg active
        rw [Call.DeactivatesActive, or_iff_right active]
        omega

end Moves

section Runs

variable {host : Host} {start : World}

/-- The number of active merchants is right throughout a run exactly if each accepted
deactivation finds its merchant active, or no merchant active. -/
theorem active_merchants_iff (deployed : Deployed host start) (actions : List Action) :
    Throughout (step host) World.ActiveExact start actions ↔
      Along (step host) (AcceptsOnly host fun world call => call.DeactivatesActive world) start
        actions := by
  have exactly : ∀ world action, True → world.ActiveExact → True →
      ((step host world action).ActiveExact ↔
        AcceptsOnly host (fun world call => call.DeactivatesActive world) world action) := by
    intro world action _ exact _
    cases action with
    | invoke auth permits call =>
        by_cases accepted : Accepted host world auth permits call
        · have turn := (Call.activeMove accepted.succeeds.executes).exact_iff exact
          simpa [AcceptsOnly, accepted] using turn
        · rw [step_of_refused accepted]
          simp [AcceptsOnly, accepted, exact]
    | tokens operation =>
        have same : (step host world (.tokens operation)).ActiveExact := by
          simp only [step]
          split <;> exact exact
        exact iff_of_true same trivial
    | advance => exact iff_of_true exact trivial
  have initial : start.ActiveExact := by
    obtain ⟨bank, timestamp, sequence, _, _, rfl⟩ := deployed
    rfl
  exact throughout_iff_along exactly (fun _ _ _ _ _ _ => trivial) trivial initial
    (along_of_forall (fun _ _ => trivial) _ _)

end Runs

namespace Sample

/-- The administrator deactivates one of the two merchants, and then once more. -/
def deactivations : List Action := opening ++ [
  invokedBy admin (.merchant (.deactivateMerchant admin shop)),
  invokedBy admin (.merchant (.deactivateMerchant admin shop))]

end Sample

theorem active_merchants_iff_sample :
    Throughout (step Sample.host) World.ActiveExact Sample.start Sample.deactivations ↔
      Along (step Sample.host) (AcceptsOnly Sample.host fun world call =>
        call.DeactivatesActive world) Sample.start Sample.deactivations :=
  active_merchants_iff Sample.deployed_start Sample.deactivations

/-- The statistics have no active merchant, and the second one is still active. -/
theorem active_merchant_uncounted :
    Deployed Sample.host Sample.start ∧
      (run (step Sample.host) Sample.start Sample.deactivations).getGlobalStats.activeMerchants =
        0 ∧
      (run (step Sample.host) Sample.start Sample.deactivations).activeCount = 1 ∧
      ¬ Throughout (step Sample.host) World.ActiveExact Sample.start Sample.deactivations := by
  have counted : (run (step Sample.host) Sample.start
      Sample.deactivations).getGlobalStats.activeMerchants = 0 := by decide +kernel
  have active : (run (step Sample.host) Sample.start Sample.deactivations).activeCount = 1 := by
    decide +kernel
  refine ⟨Sample.deployed_start, counted, active, ?_⟩
  intro throughout
  have exact := throughout Sample.deactivations [] (List.append_nil _).symm
  exact absurd (counted.symm.trans (exact.trans active)) (by decide)

end LumenFlow

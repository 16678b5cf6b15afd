import LumenFlow.Effect.Frame
import LumenFlow.Effect.Standing

/-!
# The list of the merchants

A merchant is listed when it is registered, and it stays listed and registered.
-/

namespace LumenFlow

open Kit Contract

variable {env : Env} {world next : World} {call : Call} {merchant : Address} {flag : Bool}

theorem standing_of_registration
    (committed : call.exec.Commits env world () next)
    (registers : (∃ name description contactInfo category nonce, call =
        .merchant (.revealMerchantRegistration merchant name description contactInfo category
          nonce)) ∨
      ∃ name description contactInfo category referralId, call =
        .merchant (.registerMerchant merchant name description contactInfo category referralId)) :
    world.standing merchant = none := by
  have unknown (free : world.getMerchant merchant = none) : world.standing merchant = none := by
    change (world.getMerchant merchant).map Merchant.active = none
    rw [free]
    rfl
  rcases registers with ⟨name, description, contactInfo, category, nonce, rfl⟩ |
    ⟨name, description, contactInfo, category, referralId, rfl⟩
  · simp [Call.exec, MerchantCall.exec, Contract.revealMerchantRegistration] at committed
    exact unknown committed.2.2.2.2.1
  · simp [Call.exec, MerchantCall.exec, Contract.registerMerchant] at committed
    exact unknown committed.2.2.2.2.1

theorem Call.standing_changes (committed : call.exec.Commits env world () next)
    (known : world.standing merchant = some flag) :
    next.standing merchant = some flag ∨
      (∃ admin, call = .merchant (.deactivateMerchant admin merchant) ∧
        next.standing merchant = some false) ∨
      ∃ admin, call = .merchant (.reactivateMerchant admin merchant) := by
  have decided := Call.standing_spec merchant [] committed
  have silent (undecided : call.standings merchant world [] = []) :
      next.standing merchant = some flag := by
    rw [decided, undecided, ← known]
    rfl
  cases call with
  | merchant call =>
      cases call with
      | revealMerchantRegistration named =>
          refine .inl (silent (if_neg fun same => ?_))
          subst same
          cases (standing_of_registration committed (.inl ⟨_, _, _, _, _, rfl⟩)).symm.trans known
      | registerMerchant named =>
          refine .inl (silent (if_neg fun same => ?_))
          subst same
          cases (standing_of_registration committed (.inr ⟨_, _, _, _, _, rfl⟩)).symm.trans known
      | deactivateMerchant admin named =>
          by_cases same : named = merchant
          · subst same
            refine .inr (.inl ⟨admin, rfl, ?_⟩)
            simpa [Call.standings] using decided
          · exact .inl (silent (if_neg same))
      | reactivateMerchant admin named =>
          by_cases same : named = merchant
          · exact .inr (.inr ⟨admin, by rw [same]⟩)
          · exact .inl (silent (if_neg same))
      | _ => exact .inl (silent rfl)
  | _ => exact .inl (silent rfl)

theorem Call.merchantList_cases (call : Call) :
    .merchantList ∉ call.parts ∨
      (∃ merchant name description contactInfo category nonce, call = .merchant
        (.revealMerchantRegistration merchant name description contactInfo category nonce)) ∨
      (∃ merchant name description contactInfo category referralId, call = .merchant
        (.registerMerchant merchant name description contactInfo category referralId)) ∨
      ∃ admin, call = .admin (.migrateStorageKeys admin) := by
  cases call with
  | admin call =>
      cases call with
      | migrateStorageKeys admin => exact .inr (.inr (.inr ⟨admin, rfl⟩))
      | _ => exact .inl (of_decide_eq_true rfl)
  | merchant call =>
      cases call with
      | revealMerchantRegistration => exact .inr (.inl ⟨_, _, _, _, _, _, rfl⟩)
      | registerMerchant => exact .inr (.inr (.inl ⟨_, _, _, _, _, _, rfl⟩))
      | _ => exact .inl (of_decide_eq_true rfl)
  | _ call => cases call <;> exact .inl (of_decide_eq_true rfl)

/-- What an accepted call does to the merchants and their list. -/
inductive RosterMove (world next : World) : Prop where
  | kept (list : next.merchants.list = world.merchants.list)
      (known : ∀ address, next.standing address = none ↔ world.standing address = none)
  | joined (merchant : Address) (new : world.standing merchant = none)
      (list : next.merchants.list = world.merchants.list ++ [merchant])
      (known : ∀ address, next.standing address = none ↔
        address ≠ merchant ∧ world.standing address = none)

/-- The merchants are listed, each once. -/
structure World.Rostered (world : World) : Prop where
  legacy : world.config.legacy.merchantList = none
  distinct : world.merchants.list.Nodup
  listed : ∀ address, address ∈ world.merchants.list ↔ world.standing address ≠ none

/-- What holds of the listed merchants, and with each newcomer too, holds after the call. -/
theorem RosterMove.listed (move : RosterMove world next) (property : List Address → Prop)
    (rostered : world.Rostered) (now : property world.merchants.list)
    (joins : ∀ merchant, merchant ∉ world.merchants.list →
      property (world.merchants.list ++ [merchant])) : property next.merchants.list := by
  cases move with
  | kept list => rwa [list]
  | joined merchant new list =>
      rw [list]
      exact joins merchant fun member => (rostered.listed merchant).mp member new

theorem Call.unknown_kept (committed : call.exec.Commits env world () next)
    (reveals : ∀ name description contactInfo category nonce, call ≠ .merchant
      (.revealMerchantRegistration merchant name description contactInfo category nonce))
    (registers : ∀ name description contactInfo category referralId, call ≠ .merchant
      (.registerMerchant merchant name description contactInfo category referralId)) :
    next.standing merchant = none ↔ world.standing merchant = none := by
  constructor
  · intro unknown
    cases known : world.standing merchant with
    | none => rfl
    | some flag =>
        rcases Call.standing_changes committed known with kept | ⟨_, _, still⟩ | ⟨admin, rfl⟩
        · cases unknown.symm.trans kept
        · cases unknown.symm.trans still
        · have decided := Call.standing_spec merchant [] committed
          simp [Call.standings, unknown] at decided
  · intro unknown
    have decided := Call.standing_spec merchant [] committed
    have silent (undecided : call.standings merchant world [] = []) :
        next.standing merchant = none := by
      rw [decided, undecided, unknown]
      rfl
    have missing {named : Address} {profile : Merchant}
        (stored : world.merchants.records.get named = some profile) : named ≠ merchant := by
      rintro rfl
      cases (Option.map_eq_none_iff.mp unknown).symm.trans stored
    cases call with
    | merchant call =>
        cases call with
        | revealMerchantRegistration named =>
            refine silent (if_neg fun same => ?_)
            subst same
            exact reveals _ _ _ _ _ rfl
        | registerMerchant named =>
            refine silent (if_neg fun same => ?_)
            subst same
            exact registers _ _ _ _ _ rfl
        | deactivateMerchant admin named =>
            simp [Call.exec, MerchantCall.exec, Contract.deactivateMerchant] at committed
            obtain ⟨_, _, profile, found, _⟩ := committed
            exact silent (if_neg (missing found))
        | reactivateMerchant admin named =>
            simp [Call.exec, MerchantCall.exec, Contract.reactivateMerchant] at committed
            obtain ⟨_, _, profile, found, _⟩ := committed
            exact silent (if_neg (missing found))
        | _ => exact silent rfl
    | _ => exact silent rfl

theorem Call.joined_known {named : Address} (committed : call.exec.Commits env world () next)
    (decides : ∀ address, call.standings address world [] = if named = address then [true] else [])
    (address : Address) :
    next.standing address = none ↔ address ≠ named ∧ world.standing address = none := by
  rw [Call.standing_spec address [] committed, decides]
  by_cases same : named = address
  · simp [same]
  · simp [same, Ne.symm same]

/-- The merchants that a call registers. -/
def Call.registrations : Call → List Address
  | .merchant (.revealMerchantRegistration merchant ..)
  | .merchant (.registerMerchant merchant ..) => [merchant]
  | _ => []

theorem Call.merchantList_spec (committed : call.exec.Commits env world () next)
    (legacy : world.config.legacy.merchantList = none) :
    next.merchants.list = world.merchants.list ++ call.registrations := by
  rcases call.merchantList_cases with
    silent | ⟨named, name, description, contactInfo, category, nonce, rfl⟩ |
    ⟨named, name, description, contactInfo, category, referralId, rfl⟩ | ⟨admin, rfl⟩
  · have none : call.registrations = [] := by
      cases call with
      | merchant call =>
          cases call with
          | revealMerchantRegistration => simp [Call.parts, MerchantCall.parts] at silent
          | registerMerchant => simp [Call.parts, MerchantCall.parts] at silent
          | _ => rfl
      | _ => rfl
    have writes := call.writes
    rw [none, List.append_nil]
    exact same_part call.parts committed .merchantList silent
  · simp [Call.exec, MerchantCall.exec, Contract.revealMerchantRegistration, addActiveMerchant]
      at committed
    obtain ⟨_, _, _, _, _, _, _, _, _, _, rfl⟩ := committed
    rfl
  · cases referralId with
    | none =>
        simp [Call.exec, MerchantCall.exec, Contract.registerMerchant, addActiveMerchant]
          at committed
        obtain ⟨_, _, _, _, _, _, rfl⟩ := committed
        rfl
    | some referral =>
        simp [Call.exec, MerchantCall.exec, Contract.registerMerchant, addActiveMerchant]
          at committed
        obtain ⟨_, _, _, _, _, _, _, _, _, _, rfl⟩ := committed
        rfl
  · simp [Call.exec, AdminCall.exec, Contract.migrateStorageKeys] at committed
    obtain ⟨_, rfl⟩ := committed
    simp [World.migrateStorageKeys, legacy, Call.registrations]

theorem Call.rosterMove (committed : call.exec.Commits env world () next)
    (legacy : world.config.legacy.merchantList = none) : RosterMove world next := by
  have list := Call.merchantList_spec committed legacy
  rcases call.merchantList_cases with
    silent | ⟨named, name, description, contactInfo, category, nonce, rfl⟩ |
    ⟨named, name, description, contactInfo, category, referralId, rfl⟩ | ⟨admin, rfl⟩
  · have writes := call.writes
    refine .kept (same_part call.parts committed .merchantList silent) fun address => ?_
    refine Call.unknown_kept committed ?_ ?_
    · rintro _ _ _ _ _ rfl
      simp [Call.parts, MerchantCall.parts] at silent
    · rintro _ _ _ _ _ rfl
      simp [Call.parts, MerchantCall.parts] at silent
  · have new := standing_of_registration committed (.inl ⟨_, _, _, _, _, rfl⟩)
    exact .joined named new list (Call.joined_known committed fun _ => rfl)
  · have new := standing_of_registration committed (.inr ⟨_, _, _, _, _, rfl⟩)
    exact .joined named new list (Call.joined_known committed fun _ => rfl)
  · exact .kept (list.trans (List.append_nil _)) fun address =>
      Call.unknown_kept committed (by simp) (by simp)

/-- Nothing but a migration writes the entries under the old keys. -/
theorem Call.legacy_kept (committed : call.exec.Commits env world () next)
    (legacy : world.config.legacy.merchantList = none) :
    next.config.legacy.merchantList = none := by
  have quiet (silent : .legacy ∉ call.parts) : next.config.legacy.merchantList = none := by
    have writes := call.writes
    have same : next.config.legacy = world.config.legacy :=
      same_part call.parts committed .legacy silent
    rw [same, legacy]
  rcases call with call | call | call | call | call | call | call
  · cases call with
    | migrateStorageKeys admin =>
        simp [Call.exec, AdminCall.exec, Contract.migrateStorageKeys] at committed
        obtain ⟨_, rfl⟩ := committed
        rfl
    | _ => exact quiet (by simp [Call.parts, AdminCall.parts])
  · exact quiet (by cases call <;> simp [Call.parts, MerchantCall.parts])
  · exact quiet (by cases call <;> simp [Call.parts, PaymentCall.parts])
  · exact quiet (by cases call <;> simp [Call.parts, RefundCall.parts])
  · exact quiet (by cases call <;> simp [Call.parts, MultisigCall.parts])
  · exact quiet (by cases call <;> simp [Call.parts, SubscriptionCall.parts])
  · exact quiet (by cases call <;> simp [Call.parts, EscrowCall.parts])

theorem World.Rostered.called (rostered : world.Rostered)
    (committed : call.exec.Commits env world () next) : next.Rostered := by
  refine ⟨Call.legacy_kept committed rostered.legacy, ?_, ?_⟩
  · cases Call.rosterMove committed rostered.legacy with
    | kept list =>
        rw [list]
        exact rostered.distinct
    | joined merchant new list =>
        rw [list, ← List.concat_eq_append]
        exact rostered.distinct.concat fun member => (rostered.listed merchant).mp member new
  · intro address
    cases Call.rosterMove committed rostered.legacy with
    | kept list known => rw [list, rostered.listed, not_iff_not, known]
    | joined merchant new list known =>
        rw [list, List.mem_append, List.mem_singleton, rostered.listed, ne_eq, ne_eq, known]
        tauto

theorem World.Rostered.mem_of_registered (rostered : world.Rostered)
    (registered : world.books.Registered merchant) : merchant ∈ world.merchants.list := by
  obtain ⟨profile, found⟩ := registered
  rw [rostered.listed]
  intro unknown
  cases (Option.map_eq_none_iff.mp unknown).symm.trans found

section Runs

variable {host : Host} {start : World}

theorem World.Rostered.step (rostered : world.Rostered) (action : Action) :
    (LumenFlow.step host world action).Rostered := by
  rcases step_cases host world action with
    ⟨auth, permits, call, rfl, succeeded⟩ | ⟨_, bank, sequence, timestamp, same⟩
  · exact rostered.called succeeded.executes
  · rw [same]
    exact ⟨rostered.legacy, rostered.distinct, rostered.listed⟩

theorem Deployed.rostered_start (deployed : Deployed host start) : start.Rostered := by
  obtain ⟨bank, timestamp, sequence, _, _, rfl⟩ := deployed
  refine ⟨rfl, List.nodup_nil, fun address => ?_⟩
  simp [World.standing, standing, World.deployed]

theorem Deployed.rostered (deployed : Deployed host start) (actions : List Action) :
    (run (LumenFlow.step host) start actions).Rostered :=
  run_invariant (fun _ action rostered => rostered.step action) deployed.rostered_start actions

theorem Deployed.merchantList_eq (deployed : Deployed host start) (actions : List Action) :
    (run (LumenFlow.step host) start actions).merchants.list =
      acceptedEntries host (fun _ _ call => call.registrations) start actions := by
  let Listed (world : World) (past : List Address) : Prop :=
    world.Rostered ∧ world.merchants.list = past
  have stepwise : ∀ world past action, Listed world past →
      Listed (LumenFlow.step host world action)
        (past ++ noteAccepted host (fun _ _ call => call.registrations) world action) := by
    rintro world past action ⟨rostered, list⟩
    refine ⟨rostered.step action, ?_⟩
    rcases step_cases host world action with
      ⟨auth, permits, call, rfl, succeeded⟩ | ⟨silent, bank, sequence, timestamp, same⟩
    · rw [noteAccepted_of_accepted succeeded.accepted, ← list]
      exact Call.merchantList_spec succeeded.executes rostered.legacy
    · rw [silent, same, List.append_nil]
      exact list
  have initial : Listed start [] := by
    refine ⟨deployed.rostered_start, ?_⟩
    obtain ⟨bank, timestamp, sequence, _, _, rfl⟩ := deployed
    rfl
  exact (history_invariant stepwise initial actions).2

end Runs

end LumenFlow

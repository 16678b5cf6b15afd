import LumenFlow.Router.Contract

/-!
# Availability of the router

Once a slot has been activated, `route_call` should never trap.  `set_active_slot` checks that
its slot is configured; `set_canary_weight` does not check the two contracts that a weight sends
calls to.  The router stays available exactly in the runs in which the admin makes this check.
-/

namespace LumenFlow

open Kit

namespace Router

/-- The address is one that an admin has configured. -/
def Configured (router : Storage) (address : Address) : Prop :=
  some address ∈ [router.blueContract, router.greenContract, router.stableContract,
    router.canaryContract]

/-- At every ledger `route_call` returns a configured contract. -/
def Available (router : Storage) : Prop :=
  ∀ env, ∃ address next, routeCall.Commits env router address next ∧ Configured router address

/-- From every successful `set_active_slot` of the run on, the router is available. -/
def StaysAvailable (inputs : List Input) : Prop :=
  ∀ before env caller slot next during after,
    inputs = before ++ ⟨env, .setActiveSlot caller slot⟩ :: (during ++ after) →
    (setActiveSlot caller slot).Commits env (run Storage.take .fresh before) () next →
    Available (run Storage.take next during)

/-- The contracts to which a weight sends calls are there. -/
def CanaryReady (router : Storage) (weight : Nat) : Prop :=
  0 < weight → router.canaryContract.isSome = true ∧
    (weight < 100 → router.stableContract.isSome = true)

instance (router : Storage) (weight : Nat) : Decidable (CanaryReady router weight) :=
  inferInstanceAs (Decidable (_ → _ ∧ (_ → _)))

/-- What the admin has to check before the call, since the router does not. -/
def Careful (router : Storage) : Input → Prop
  | ⟨env, .setActiveSlot caller slot⟩ =>
      Admitted env router caller → (router.contractOf slot).isSome = true →
        CanaryReady router (getCanaryWeight router)
  | ⟨env, .setCanaryWeight caller weight⟩ =>
      router.activeSlot.isSome = true → Admitted env router caller → weight ≤ 100 →
        CanaryReady router weight
  | _ => True

instance (router : Storage) : DecidablePred (Careful router)
  | ⟨_, .setActiveSlot _ _⟩ => inferInstanceAs (Decidable (_ → _ → _))
  | ⟨_, .setCanaryWeight _ _⟩ => inferInstanceAs (Decidable (_ → _ → _ → _))
  | ⟨_, .setAdmin _⟩ | ⟨_, .setBlueContract _ _⟩ | ⟨_, .setGreenContract _ _⟩
  | ⟨_, .setStableContract _ _⟩ | ⟨_, .setCanaryContract _ _⟩ | ⟨_, .routeCall⟩
  | ⟨_, .getActiveSlot⟩ | ⟨_, .getBlueContract⟩ | ⟨_, .getGreenContract⟩
  | ⟨_, .getCanaryWeight⟩ | ⟨_, .getStableContract⟩ | ⟨_, .getCanaryContract⟩ =>
      inferInstanceAs (Decidable True)

/-- What the setters keep: the active slot is configured and the weight is a percentage. -/
structure Sound (router : Storage) : Prop where
  slot_configured : ∀ slot, router.activeSlot = some slot →
    (router.contractOf slot).isSome = true
  percentage : getCanaryWeight router ≤ 100

/-! ## Routing -/

/-- The contract that `route_call` takes, if it is configured. -/
def Storage.routed (router : Storage) (sequence : Nat) : Option Address :=
  if 0 < getCanaryWeight router then
    if sequence % 100 < getCanaryWeight router then router.canaryContract
    else router.stableContract
  else router.contractOf (getActiveSlot router)

section Routing

variable {router next : Storage} {env : Env} {address : Address} {slot : Slot}

theorem routeCall_eq_forward (env : Env) (router : Storage) : ∃ missing event,
    routeCall env router = forward (router.routed env.sequence) missing event env router := by
  by_cases weighted : 0 < getCanaryWeight router
  · by_cases canary : env.sequence % 100 < getCanaryWeight router
    · refine ⟨.canaryNotConfigured, .routedToCanary env.sequence, ?_⟩
      simp [routeCall, bind, Tx.gets, Tx.ask, Storage.routed, weighted, canary]
    · refine ⟨.stableNotConfigured, .routedToStable env.sequence, ?_⟩
      simp [routeCall, bind, Tx.gets, Tx.ask, Storage.routed, weighted, canary]
  · cases slot : getActiveSlot router with
    | blue =>
        refine ⟨.blueNotConfigured, .routedToBlue env.sequence, ?_⟩
        simp [routeCall, bind, Tx.gets, Tx.ask, Storage.routed, weighted, slot, Storage.contractOf]
    | green =>
        refine ⟨.greenNotConfigured, .routedToGreen env.sequence, ?_⟩
        simp [routeCall, bind, Tx.gets, Tx.ask, Storage.routed, weighted, slot, Storage.contractOf]

theorem routeCall_returns_iff :
    (∃ next, routeCall.Commits env router address next) ↔
      router.routed env.sequence = some address := by
  obtain ⟨missing, event, same⟩ := routeCall_eq_forward env router
  simp only [Tx.Commits, same]
  constructor
  · rintro ⟨next, committed⟩
    exact (commits_forward.mp committed).1
  · intro routed
    exact ⟨_, commits_forward.mpr ⟨routed, rfl⟩⟩

/-- `route_call` changes nothing but the events. -/
theorem routeCall_publishes (committed : routeCall.Commits env router address next) :
    ∃ event, next = { router with events := router.events ++ [event] } := by
  obtain ⟨missing, event, same⟩ := routeCall_eq_forward env router
  rw [Tx.Commits, same] at committed
  exact ⟨event, (commits_forward.mp committed).2⟩

theorem configured_of_routed {sequence : Nat} (routed : router.routed sequence = some address) :
    Configured router address := by
  unfold Storage.routed at routed
  split_ifs at routed
  · simp [Configured, routed]
  · simp [Configured, routed]
  · cases slot : getActiveSlot router <;>
      simp_all [Configured, Storage.contractOf]

theorem available_iff_routed :
    Available router ↔ ∀ sequence, (router.routed sequence).isSome = true := by
  constructor
  · intro available sequence
    obtain ⟨address, next, committed, _⟩ := available ⟨sequence, fun _ => false⟩
    exact Option.isSome_of_eq_some (routeCall_returns_iff.mp ⟨next, committed⟩)
  · intro routed env
    obtain ⟨address, found⟩ := Option.isSome_iff_exists.mp (routed env.sequence)
    obtain ⟨next, committed⟩ := routeCall_returns_iff.mpr found
    exact ⟨address, next, committed, configured_of_routed found⟩

theorem available_iff (sound : Sound router) (active : router.activeSlot.isSome = true) :
    Available router ↔ CanaryReady router (getCanaryWeight router) := by
  rw [available_iff_routed]
  constructor
  · intro routed weighted
    refine ⟨?_, fun partly => ?_⟩
    · -- the first ledgers of every hundred go to the canary
      simpa [Storage.routed, weighted] using routed 0
    · -- and the last one does not, below a weight of 100
      have stays : ¬ 99 % 100 < getCanaryWeight router := by omega
      simpa [Storage.routed, weighted, stays] using routed 99
  · intro ready sequence
    unfold Storage.routed
    split_ifs with weighted canary
    · exact (ready weighted).1
    · apply (ready weighted).2
      omega
    · obtain ⟨slot, active⟩ := Option.isSome_iff_exists.mp active
      rw [show getActiveSlot router = slot by simp [getActiveSlot, active]]
      exact sound.slot_configured slot active

end Routing

/-! ## One operation -/

/-- An operation that keeps the slot and the weight, and every contract that is configured. -/
structure Extends (router next : Storage) : Prop where
  activeSlot : next.activeSlot = router.activeSlot
  weight : getCanaryWeight next = getCanaryWeight router
  slots : ∀ slot, (router.contractOf slot).isSome = true → (next.contractOf slot).isSome = true
  stable : router.stableContract.isSome = true → next.stableContract.isSome = true
  canary : router.canaryContract.isSome = true → next.canaryContract.isSome = true

theorem Extends.refl (router : Storage) : Extends router router :=
  ⟨rfl, rfl, fun _ => id, id, id⟩

/-- What an operation can do to the router. -/
inductive Outcome (router : Storage) : Input → Storage → Prop where
  | activated {env : Env} {caller : Address} {slot : Slot} (admitted : Admitted env router caller)
      (configured : (router.contractOf slot).isSome = true) :
      Outcome router ⟨env, .setActiveSlot caller slot⟩ { router with
        activeSlot := some slot, events := router.events ++ [.blueGreenCutover slot] }
  | weighted {env : Env} {caller : Address} {weight : Nat} (admitted : Admitted env router caller)
      (percentage : weight ≤ 100) :
      Outcome router ⟨env, .setCanaryWeight caller weight⟩
        { router with canaryWeight := some weight }
  | extended {input : Input} {next : Storage} (careful : Careful router input)
      (extends_ : Extends router next) : Outcome router input next

section Steps

variable {router next : Storage} {env : Env} {caller : Address} {input : Input} {slot : Slot}

theorem extends_configure {change : Storage → Storage} (adds : Extends router (change router)) :
    Extends router ((configure caller change).settle env router) := by
  rcases Tx.settle_cases (configure caller change) env router with
    ⟨_, committed⟩ | ⟨_, same⟩
  · rw [(commits_configure.mp committed).2]
    exact adds
  · rw [same]
    exact .refl router

theorem extends_reader {Result : Type} (view : Storage → Result) :
    Extends router ((Tx.gets view : Routine Result).discard.settle env router) :=
  .refl router

theorem setAdmin_writes {admin : Address} {result : Unit}
    (committed : (setAdmin admin).Commits env router result next) :
    next = { router with admin := some admin } := by
  simp only [setAdmin, Tx.commits_bind, Tx.commits_gets, Tx.commits_whenSome,
    commits_requireAuth, Tx.commits_modify] at committed
  obtain ⟨_, _, ⟨_, rfl⟩, _, _, authorised, rfl⟩ := committed
  rcases authorised with ⟨_, _, _, rfl⟩ | ⟨_, rfl⟩ <;> rfl

theorem extends_setAdmin (router : Storage) (env : Env) (admin : Address) :
    Extends router ((setAdmin admin).settle env router) := by
  rcases Tx.settle_cases (setAdmin admin) env router with ⟨_, committed⟩ | ⟨_, same⟩
  · rw [setAdmin_writes committed]
    refine ⟨rfl, rfl, ?_, id, id⟩
    intro slot
    cases slot <;> exact id
  · rw [same]
    exact .refl router

theorem extends_routeCall (router : Storage) (env : Env) :
    Extends router (routeCall.discard.settle env router) := by
  rcases Tx.settle_cases routeCall.discard env router with ⟨_, committed⟩ | ⟨_, same⟩
  · obtain ⟨address, returned⟩ := Tx.commits_discard.mp committed
    obtain ⟨event, next⟩ := routeCall_publishes returned
    rw [next]
    refine ⟨rfl, rfl, ?_, id, id⟩
    intro slot
    cases slot <;> exact id
  · rw [same]
    exact .refl router

theorem outcome_setActiveSlot (router : Storage) (env : Env) (caller : Address) (slot : Slot) :
    Outcome router ⟨env, .setActiveSlot caller slot⟩
      ((setActiveSlot caller slot).settle env router) := by
  rcases Tx.settle_cases (setActiveSlot caller slot) env router with
    ⟨_, committed⟩ | ⟨aborted, same⟩
  · obtain ⟨admitted, configured, next⟩ := commits_setActiveSlot.mp committed
    rw [next]
    exact .activated admitted configured
  · rw [same]
    apply Outcome.extended ?_ (.refl router)
    intro admitted configured
    exact absurd (commits_setActiveSlot.mpr ⟨admitted, configured, rfl⟩) (aborted () _)

theorem outcome_setCanaryWeight (router : Storage) (env : Env) (caller : Address) (weight : Nat) :
    Outcome router ⟨env, .setCanaryWeight caller weight⟩
      ((setCanaryWeight caller weight).settle env router) := by
  rcases Tx.settle_cases (setCanaryWeight caller weight) env router with
    ⟨_, committed⟩ | ⟨aborted, same⟩
  · obtain ⟨admitted, percentage, next⟩ := commits_setCanaryWeight.mp committed
    rw [next]
    exact .weighted admitted percentage
  · rw [same]
    apply Outcome.extended ?_ (.refl router)
    intro _ admitted percentage
    exact absurd (commits_setCanaryWeight.mpr ⟨admitted, percentage, rfl⟩) (aborted () _)

theorem outcome (router : Storage) (input : Input) :
    Outcome router input (router.take input) := by
  obtain ⟨env, op⟩ := input
  cases op with
  | setActiveSlot caller slot => exact outcome_setActiveSlot router env caller slot
  | setCanaryWeight caller weight => exact outcome_setCanaryWeight router env caller weight
  | setAdmin admin => exact .extended trivial (extends_setAdmin router env admin)
  | setBlueContract caller blueId =>
      refine .extended trivial ?_
      apply extends_configure
      refine ⟨rfl, rfl, ?_, id, id⟩
      intro slot
      cases slot <;> simp [Storage.contractOf]
  | setGreenContract caller greenId =>
      refine .extended trivial ?_
      apply extends_configure
      refine ⟨rfl, rfl, ?_, id, id⟩
      intro slot
      cases slot <;> simp [Storage.contractOf]
  | setStableContract caller stableId =>
      exact .extended trivial (extends_configure ⟨rfl, rfl, fun _ => id, fun _ => rfl, id⟩)
  | setCanaryContract caller canaryId =>
      exact .extended trivial (extends_configure ⟨rfl, rfl, fun _ => id, id, fun _ => rfl⟩)
  | routeCall => exact .extended trivial (extends_routeCall router env)
  | getActiveSlot => exact .extended trivial (extends_reader _)
  | getBlueContract => exact .extended trivial (extends_reader _)
  | getGreenContract => exact .extended trivial (extends_reader _)
  | getCanaryWeight => exact .extended trivial (extends_reader _)
  | getStableContract => exact .extended trivial (extends_reader _)
  | getCanaryContract => exact .extended trivial (extends_reader _)

theorem Sound.kept (sound : Sound router) (outcome : Outcome router input next) : Sound next := by
  cases outcome with
  | @activated env caller slot admitted configured =>
      refine ⟨?_, sound.percentage⟩
      rintro other ⟨⟩
      cases slot <;> exact configured
  | @weighted env caller weight admitted percentage =>
      refine ⟨fun slot active => ?_, percentage⟩
      have configured := sound.slot_configured slot active
      cases slot <;> exact configured
  | extended careful extends_ =>
      refine ⟨fun slot active => ?_, extends_.weight ▸ sound.percentage⟩
      exact extends_.slots slot (sound.slot_configured slot (extends_.activeSlot ▸ active))

theorem Outcome.stays_active (outcome : Outcome router input next)
    (active : router.activeSlot.isSome = true) : next.activeSlot.isSome = true := by
  cases outcome with
  | activated => rfl
  | weighted => exact active
  | extended careful extends_ => rwa [extends_.activeSlot]

theorem Outcome.activates (outcome : Outcome router input next)
    (inactive : router.activeSlot.isSome ≠ true) (active : next.activeSlot.isSome = true) :
    ∃ env caller slot, input = ⟨env, .setActiveSlot caller slot⟩ ∧
      (setActiveSlot caller slot).Commits env router () next := by
  cases outcome with
  | activated admitted configured =>
      exact ⟨_, _, _, rfl, commits_setActiveSlot.mpr ⟨admitted, configured, rfl⟩⟩
  | weighted => exact absurd active inactive
  | extended careful extends_ => exact absurd (extends_.activeSlot ▸ active) inactive

/-- The router is available, once a slot is active. -/
def Served (router : Storage) : Prop := router.activeSlot.isSome = true → Available router

theorem CanaryReady.mono (ready : CanaryReady router (getCanaryWeight router))
    (extends_ : Extends router next) : CanaryReady next (getCanaryWeight next) := by
  rw [extends_.weight]
  intro weighted
  obtain ⟨canary, stable⟩ := ready weighted
  exact ⟨extends_.canary canary, fun partly => extends_.stable (stable partly)⟩

/-- One operation keeps the router served exactly if the admin has made the check. -/
theorem Outcome.served_iff (outcome : Outcome router input next) (sound : Sound router)
    (served : Served router) : Served next ↔ Careful router input := by
  have nextSound := sound.kept outcome
  cases outcome with
  | activated admitted configured =>
      have active := available_iff nextSound rfl
      constructor
      · intro serves _ _
        exact active.mp (serves rfl)
      · intro careful _
        exact active.mpr (careful admitted configured)
  | weighted admitted percentage =>
      constructor
      · intro serves active _ _
        exact (available_iff nextSound active).mp (serves active)
      · intro careful active
        exact (available_iff nextSound active).mpr (careful active admitted percentage)
  | extended careful extends_ =>
      refine iff_of_true (fun nextActive => ?_) careful
      have active : router.activeSlot.isSome = true := extends_.activeSlot ▸ nextActive
      apply (available_iff nextSound nextActive).mpr
      exact ((available_iff sound active).mp (served active)).mono extends_

end Steps

/-! ## Runs -/

theorem sound_fresh : Sound .fresh := ⟨nofun, Nat.zero_le 100⟩

theorem run_active {router : Storage} (active : router.activeSlot.isSome = true)
    (inputs : List Input) : (run Storage.take router inputs).activeSlot.isSome = true :=
  run_invariant (fun router input => (outcome router input).stays_active) active inputs

theorem activation_split (inputs : List Input)
    (active : (run Storage.take .fresh inputs).activeSlot.isSome = true) :
    ∃ before env caller slot next during,
      inputs = before ++ ⟨env, .setActiveSlot caller slot⟩ :: during ∧
      (setActiveSlot caller slot).Commits env (run Storage.take .fresh before) () next ∧
      run Storage.take .fresh inputs = run Storage.take next during := by
  rcases throughout_or_exit Storage.take (·.activeSlot.isSome ≠ true) inputs
      (by decide : Storage.fresh.activeSlot.isSome ≠ true) with
    inactive | ⟨before, input, during, rfl, inactive, activates⟩
  · exact absurd active (inactive inputs [] (List.append_nil _).symm)
  · obtain ⟨env, caller, slot, rfl, committed⟩ := (outcome _ input).activates
      (inactive before [] (List.append_nil _).symm) (not_not.mp activates)
    refine ⟨before, env, caller, slot, _, during, rfl, committed, ?_⟩
    rw [run_append, run_cons]

theorem staysAvailable_iff_throughout (inputs : List Input) :
    StaysAvailable inputs ↔ Throughout Storage.take Served .fresh inputs := by
  constructor
  · intro stays prior after split active
    obtain ⟨before, env, caller, slot, next, during, rfl, committed, same⟩ :=
      activation_split prior active
    rw [same]
    apply stays before env caller slot next during after _ committed
    rw [split, List.append_assoc, List.cons_append]
  · intro throughout before env caller slot next during after split committed
    have same : run Storage.take .fresh (before ++ ⟨env, .setActiveSlot caller slot⟩ :: during) =
        run Storage.take next during := by
      rw [run_append, run_cons]
      exact congrArg (run Storage.take · during) (Tx.settle_of_commits committed)
    have activated : next.activeSlot.isSome = true := by
      rw [(commits_setActiveSlot.mp committed).2.2]
      rfl
    rw [← same]
    apply throughout _ after (by rw [split, List.append_assoc, List.cons_append])
    rw [same]
    exact run_active activated during

/-- The router stays available exactly if the admin checks, for every `set_active_slot` and, while
a slot is active, for every `set_canary_weight`, that the weight finds its contracts. -/
theorem staysAvailable_iff_careful (inputs : List Input) :
    StaysAvailable inputs ↔ Along Storage.take Careful .fresh inputs := by
  rw [staysAvailable_iff_throughout]
  have every : Along Storage.take (fun _ _ => True) .fresh inputs :=
    along_of_forall (fun _ _ => trivial) _ inputs
  refine throughout_iff_along ?_ ?_ sound_fresh nofun every
  · intro router input sound served _
    exact (outcome router input).served_iff sound served
  · intro router input sound _ _ _
    exact sound.kept (outcome router input)

namespace Sample

def admin : Address := .account 1
def env : Env := ⟨0, fun address => address = admin⟩

/-- The admin turns the evaluation weight on without a canary contract. -/
def unprepared : List Input :=
  [⟨env, .setAdmin admin⟩, ⟨env, .setBlueContract admin (.contract 2)⟩,
    ⟨env, .setActiveSlot admin .blue⟩, ⟨env, .setCanaryWeight admin 5⟩]

end Sample

theorem unprepared_canary_traps : ¬ StaysAvailable Sample.unprepared := by
  rw [staysAvailable_iff_throughout]
  intro throughout
  obtain ⟨address, next, committed, _⟩ :=
    throughout Sample.unprepared [] rfl rfl Sample.env
  cases committed

end Router

end LumenFlow

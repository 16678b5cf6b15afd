import LumenFlow.Router.Availability
import Mathlib.Data.Nat.Periodic

/-!
# The rollout of a canary

The weight is the share of the ledgers at which `route_call` returns the canary, and nobody but
the admin can change it.
-/

namespace LumenFlow

open Kit

namespace Router

/-- All that the router stores, without the events. -/
def Storage.settings (router : Storage) : Storage := { router with events := [] }

section Settings

variable {router : Storage} {admin : Address} {env : Env} {input : Input}

theorem not_admitted {caller : Address} (administered : router.admin = some admin)
    (refused : env.authorized admin = false) : ¬Admitted env router caller := by
  rintro ⟨authorised, isAdmin⟩
  obtain rfl := Option.some.inj (administered.symm.trans isAdmin)
  exact absurd (refused.symm.trans authorised) Bool.false_ne_true

theorem settings_configure {caller : Address} {change : Storage → Storage}
    (administered : router.admin = some admin) (refused : env.authorized admin = false) :
    (configure caller change).settle env router = router := by
  rcases Tx.settle_cases (configure caller change) env router with ⟨_, committed⟩ | ⟨_, same⟩
  · exact absurd (commits_configure.mp committed).1 (not_admitted administered refused)
  · exact same

/-- What the admin has not authorised changes no settings. -/
theorem settings_take (administered : router.admin = some admin)
    (refused : input.env.authorized admin = false) :
    (router.take input).settings = router.settings := by
  obtain ⟨env, op⟩ := input
  cases op with
  | setAdmin newAdmin =>
      change ((setAdmin newAdmin).settle env router).settings = _
      rcases Tx.settle_cases (setAdmin newAdmin) env router with ⟨_, committed⟩ | ⟨_, same⟩
      · simp only [setAdmin, Tx.commits_bind, Tx.commits_gets, Tx.commits_whenSome,
          commits_requireAuth, Tx.commits_modify] at committed
        obtain ⟨_, _, ⟨rfl, rfl⟩, _, _, ⟨current, here, authorised, _⟩ | ⟨absent, _⟩, _⟩ :=
          committed
        · obtain rfl := Option.some.inj (administered.symm.trans here)
          exact absurd (refused.symm.trans authorised) Bool.false_ne_true
        · exact absurd (administered.symm.trans absent) (Option.some_ne_none admin)
      · rw [same]
  | setActiveSlot caller slot =>
      change ((setActiveSlot caller slot).settle env router).settings = _
      rcases Tx.settle_cases (setActiveSlot caller slot) env router with
        ⟨_, committed⟩ | ⟨_, same⟩
      · exact absurd (commits_setActiveSlot.mp committed).1 (not_admitted administered refused)
      · rw [same]
  | setCanaryWeight caller weight =>
      change ((setCanaryWeight caller weight).settle env router).settings = _
      rcases Tx.settle_cases (setCanaryWeight caller weight) env router with
        ⟨_, committed⟩ | ⟨_, same⟩
      · exact absurd (commits_setCanaryWeight.mp committed).1 (not_admitted administered refused)
      · rw [same]
  | routeCall =>
      change (routeCall.discard.settle env router).settings = _
      rcases Tx.settle_cases routeCall.discard env router with ⟨_, committed⟩ | ⟨_, same⟩
      · obtain ⟨address, returned⟩ := Tx.commits_discard.mp committed
        obtain ⟨event, next⟩ := routeCall_publishes returned
        rw [next]
        rfl
      · rw [same]
  | setBlueContract | setGreenContract | setStableContract | setCanaryContract =>
      exact congrArg Storage.settings (settings_configure administered refused)
  | _ => rfl

theorem settings_run (administered : router.admin = some admin) {inputs : List Input}
    (refused : ∀ input ∈ inputs, input.env.authorized admin = false) :
    (run Storage.take router inputs).settings = router.settings := by
  induction inputs generalizing router with
  | nil => rfl
  | cons input rest inductionHypothesis =>
      obtain ⟨first, others⟩ := List.forall_mem_cons.mp refused
      have same := settings_take administered first
      have stays : (router.take input).admin = some admin :=
        (congrArg Storage.admin same).trans administered
      exact (inductionHypothesis stays others).trans same

end Settings

/-- The ledgers from a start on, a hundred of them, at which the address is returned. -/
def share (routers : Nat → Storage) (auth : Address → Bool) (start : Nat) (address : Address) :
    Finset Nat :=
  (Finset.Ico start (start + 100)).filter fun sequence =>
    routeCall.valueOf ⟨sequence, auth⟩ (routers sequence) = some address

section Shares

theorem card_below (start : Nat) {weight : Nat} (percentage : weight ≤ 100) :
    ((Finset.Ico start (start + 100)).filter fun sequence => sequence % 100 < weight).card =
      weight := by
  have periodic : Function.Periodic (fun sequence => sequence % 100 < weight) 100 := by
    intro sequence
    simp only [Nat.add_mod_right]
  rw [Nat.filter_Ico_card_eq_of_periodic start 100 _ periodic, Nat.count_eq_card_filter_range]
  have same : (Finset.range 100).filter (fun sequence => sequence % 100 < weight) =
      Finset.range weight := by
    ext sequence
    simp only [Finset.mem_filter, Finset.mem_range]
    omega
  rw [same, Finset.card_range]

/-- Of every hundred ledgers the weight says at how many the canary is returned, and at the others
the stable contract is, whatever is tried meanwhile without the admin. -/
theorem canary_share (inputs : List Input) {admin canary stable : Address}
    (administered : (run Storage.take .fresh inputs).admin = some admin)
    (weighted : 0 < getCanaryWeight (run Storage.take .fresh inputs))
    (hasCanary : (run Storage.take .fresh inputs).canaryContract = some canary)
    (hasStable : (run Storage.take .fresh inputs).stableContract = some stable)
    (apart : canary ≠ stable) (start : Nat) (meanwhile : Nat → List Input)
    (refused : ∀ sequence, ∀ input ∈ meanwhile sequence, input.env.authorized admin = false)
    (auth : Address → Bool) :
    let routers sequence := run Storage.take (run Storage.take .fresh inputs) (meanwhile sequence)
    let weight := getCanaryWeight (run Storage.take .fresh inputs)
    (share routers auth start canary).card = weight ∧
      (share routers auth start stable).card = 100 - weight ∧
      Disjoint (share routers auth start canary) (share routers auth start stable) := by
  intro routers weight
  have percentage : weight ≤ 100 :=
    (run_invariant (fun _ input sound => sound.kept (outcome _ input)) sound_fresh
      inputs : Sound _).percentage
  have returns (sequence : Nat) (address : Address) :
      routeCall.valueOf ⟨sequence, auth⟩ (routers sequence) = some address ↔
        (if sequence % 100 < weight then canary else stable) = address := by
    have same := settings_run administered (refused sequence)
    have routed := congrArg (fun router => router.routed sequence) same
    change (routers sequence).routed sequence = (run Storage.take .fresh inputs).routed sequence
      at routed
    rw [Tx.valueOf_eq_some, routeCall_returns_iff, routed, Storage.routed, if_pos weighted,
      hasCanary, hasStable, ← apply_ite some, Option.some.injEq]
  have toCanary : share routers auth start canary =
      (Finset.Ico start (start + 100)).filter fun sequence => sequence % 100 < weight := by
    apply Finset.filter_congr
    intro sequence _
    rw [returns]
    simp [apart.symm]
  have toStable : share routers auth start stable =
      (Finset.Ico start (start + 100)).filter fun sequence => ¬sequence % 100 < weight := by
    apply Finset.filter_congr
    intro sequence _
    rw [returns]
    simp [apart]
  have whole : ((Finset.Ico start (start + 100)).filter fun sequence =>
        sequence % 100 < weight).card +
      ((Finset.Ico start (start + 100)).filter fun sequence => ¬sequence % 100 < weight).card =
        (Finset.Ico start (start + 100)).card :=
    Finset.card_filter_add_card_filter_not _
  rw [toCanary, toStable]
  rw [card_below start percentage, Nat.card_Ico] at whole
  refine ⟨card_below start percentage, by omega, ?_⟩
  exact Finset.disjoint_filter_filter_not _ _ _

/-- A tenth of the ledgers for the canary. -/
def Sample.prepared : List Input :=
  [⟨Sample.env, .setAdmin Sample.admin⟩,
    ⟨Sample.env, .setStableContract Sample.admin (.contract 2)⟩,
    ⟨Sample.env, .setCanaryContract Sample.admin (.contract 3)⟩,
    ⟨Sample.env, .setCanaryWeight Sample.admin 10⟩]

/-- An intruder wants all calls for the canary. -/
def Sample.intrusion : List Input :=
  [⟨⟨7, fun address => address = .account 9⟩, .setCanaryWeight (.account 9) 100⟩]

theorem canary_share_sample :
    (share (fun _ => run Storage.take (run Storage.take .fresh Sample.prepared) Sample.intrusion)
      (fun _ => false) 1234 (.contract 3)).card = 10 :=
  (canary_share Sample.prepared (rfl : _ = some Sample.admin) (by decide) rfl rfl (by decide) 1234
    (fun _ => Sample.intrusion) (fun _ => by decide) fun _ => false).1

end Shares

end Router

end LumenFlow

import LumenFlow.Effect.Failures
import LumenFlow.Effect.Frame

/-!
# The lockout of failed admin calls

The rate-limited check counts its failures in the call that it fails, and the host discards
what that call has written.  So nothing is ever counted, and nobody is locked out.
-/

namespace LumenFlow

open Kit Contract

/-- The address that a call passes to the rate-limited check. -/
def AdminCall.checked : AdminCall → Option Address
  | .resetAuthLockout caller _ | .setPaymentCleanupPeriod caller _ | .setPlatformFee caller ..
  | .setLargePaymentThreshold caller _ | .setMultisigExpiryDuration caller _
  | .setMaxSigners caller _ | .setRefundWindow caller _ | .setMinRefundAmount caller _
  | .setSignatureExpiryWindow caller _ | .setRateLimit caller _ | .pauseContract caller
  | .unpauseContract caller | .pauseWithReason caller _ | .setPauseGuardians caller _
  | .setContractVersion caller | .migrateStorageKeys caller | .assertVersionMatches caller
  | .upgrade caller _ => some caller
  | _ => none

def Call.checked : Call → Option Address
  | .admin call => call.checked
  | .merchant (.deactivateMerchant caller _) | .merchant (.reactivateMerchant caller _)
  | .merchant (.verifyMerchant caller _) | .merchant (.unverifyMerchant caller _)
  | .merchant (.getMerchants caller ..)
  | .payment (.archivePaymentRecord caller _) | .payment (.cleanupExpiredPayments caller _)
  | .payment (.getGlobalPaymentStats caller ..)
  | .refund (.resolveDispute caller ..) | .refund (.markDisputeUnderReview caller _)
  | .refund (.escalateDispute caller ..)
  | .subscription (.createSubscriptionPlan caller ..) => some caller
  | _ => none

/-- What the check of the address fails with, when the action gets there and ends with it. -/
def checkFailure (host : Host) (address : Address) (world : World) : Action → Option Failure
  | .invoke auth permits call =>
      if call.checked = some address ∧ call.dispatch.failure (host.env auth permits) world =
          (requireAdminRateLimited address).failure (host.env auth permits) world then
        (requireAdminRateLimited address).failure (host.env auth permits) world
      else
        none
  | .tokens _ | .advance .. => none

/-- The call resets the failure count of the address, as its own success does. -/
def Call.Clears (address : Address) : Call → Prop
  | .admin (.resetAuthLockout caller other) => caller = address ∨ other = address
  | call => call.checked = some address

instance (address : Address) (call : Call) : Decidable (call.Clears address) := by
  unfold Call.Clears
  split <;> infer_instance

def ClearsFailures (host : Host) (address : Address) (world : World) : Action → Prop
  | .invoke auth permits call => Accepted host world auth permits call ∧ call.Clears address
  | .tokens _ | .advance .. => False

instance (host : Host) (address : Address) (world : World) (action : Action) :
    Decidable (ClearsFailures host address world action) :=
  match action with
  | .invoke .. => inferInstanceAs (Decidable (_ ∧ _))
  | .tokens _ | .advance .. => .isFalse id

/-- The address fails at the check ten times in a hundred ledgers, and nothing in between
resets its count. -/
structure TenFailures (host : Host) (address : Address) (start : World) (actions : List Action) :
    Prop where
  failures : authMaxFailures ≤ (history (step host)
    (fun world action => (checkFailure host address world action).toList) start actions).length
  ledgers : (run (step host) start actions).sequence < start.sequence + authFailureWindowLedgers
  uninterrupted :
    Along (step host) (fun world action => ¬ ClearsFailures host address world action) start
      actions

/-- The address is locked out, and for the next thousand ledgers the calls that check it are
refused, at the check because of the lockout. -/
structure LockedOut (host : Host) (address : Address) (world : World) : Prop where
  locked : world.isAuthLockedOut address = true
  refused : ∀ actions auth permits call,
    (run (step host) world actions).sequence < world.sequence + authLockoutLedgers →
    call.checked = some address →
    ¬ Accepted host (run (step host) world actions) auth permits call ∧
      ∀ failure ∈ checkFailure host address (run (step host) world actions)
        (.invoke auth permits call), failure = .error .authLockedOut

/-- No lockout is stored. -/
def Unlocked (world : World) : Prop :=
  ∀ address, world.gov.authLockoutUntil address = 0

variable {host : Host} {env : Env} {world next : World} {address : Address} {failure : Failure}

theorem recordAuthFailure_fails (failed : (recordAuthFailure address).Fails env world failure) :
    failure = .trap := by
  simp [recordAuthFailure] at failed
  tauto

namespace Unlocked

theorem not_locked (unlocked : Unlocked world) (address : Address) :
    world.isAuthLockedOut address = false := by
  simp [World.isAuthLockedOut, unlocked address]

theorem check_fails (unlocked : Unlocked world)
    (failed : (requireAdminRateLimited address).Fails env world failure) :
    failure = .trap ∨ failure = .error .unauthorized := by
  simp [requireAdminRateLimited, unlocked.not_locked] at failed
  rcases failed with ⟨_, trapped⟩ | ⟨_, _, trapped | ⟨_, refused⟩⟩
  · exact .inl trapped
  · exact .inl (recordAuthFailure_fails trapped)
  · exact .inr refused

theorem called {call : Call} (committed : call.exec.Commits env world () next)
    (unlocked : Unlocked world) : Unlocked next := by
  by_cases writing : .lockouts ∈ call.parts
  · have resets : ∃ admin address, call = .admin (.resetAuthLockout admin address) := by
      rcases call with call | call | call | call | call | call | call <;> cases call <;>
        simp [Call.parts, AdminCall.parts, MerchantCall.parts, PaymentCall.parts,
          RefundCall.parts, MultisigCall.parts, SubscriptionCall.parts, EscrowCall.parts] at writing
      exact ⟨_, _, rfl⟩
    obtain ⟨admin, address, rfl⟩ := resets
    simp [Call.exec, AdminCall.exec, Contract.resetAuthLockout] at committed
    obtain ⟨_, rfl⟩ := committed
    intro other
    simp [World.updateGov, Function.update_apply, unlocked other]
  · have same : next.gov.authLockoutUntil = world.gov.authLockoutUntil :=
      call.writes.frame committed .lockouts writing
    rw [Unlocked, same]
    exact unlocked

end Unlocked

theorem Deployed.unlocked {start : World} (deployed : Deployed host start)
    (actions : List Action) : Unlocked (run (step host) start actions) := by
  have stepwise : ∀ world action, Unlocked world → Unlocked (step host world action) := by
    intro world action unlocked
    rcases step_cases host world action with
      ⟨auth, permits, call, rfl, succeeded⟩ | ⟨_, bank, sequence, timestamp, same⟩
    · exact unlocked.called succeeded.executes
    · rw [same]
      exact unlocked
  have initial : Unlocked start := by
    obtain ⟨bank, timestamp, sequence, _, _, rfl⟩ := deployed
    exact fun _ => rfl
  exact run_invariant stepwise initial actions

/-- Whatever has failed before, no address is locked out, and no check says that one is. -/
theorem never_locked_out {start : World} (deployed : Deployed host start) (actions : List Action)
    (address : Address) :
    (run (step host) start actions).isAuthLockedOut address = false ∧
      ∀ action, checkFailure host address (run (step host) start actions) action ≠
        some (.error .authLockedOut) := by
  have unlocked := deployed.unlocked actions
  refine ⟨unlocked.not_locked address, fun action locked => ?_⟩
  unfold checkFailure at locked
  split at locked
  · split at locked
    · have failed := unlocked.check_fails (Tx.failure_eq_some_iff.mp locked)
      simp at failed
    · cases locked
  · cases locked
  · cases locked

namespace Sample

/-- An address that is not the admin asks for an admin function. -/
def probing : Action := invokedBy rival (.admin (.setMaxSigners rival 5))

end Sample

theorem never_locked_out_sample :
    (run (step Sample.host) Sample.start
      (Sample.opening ++ List.replicate 10 Sample.probing)).isAuthLockedOut Sample.rival = false :=
  (never_locked_out Sample.deployed_start _ Sample.rival).1

/-- Ten failures in a row lock nobody out. -/
theorem ten_failures_lock_nobody_out :
    ¬ ∀ host start before actions address, Deployed host start →
      TenFailures host address (run (step host) start before) actions →
      LockedOut host address (run (step host) (run (step host) start before) actions) := by
  intro locks
  have failed : TenFailures Sample.host Sample.rival (Sample.world [])
      (List.replicate 10 Sample.probing) := {
    failures := by decide +kernel
    ledgers := by decide +kernel
    uninterrupted := by decide +kernel }
  have locked := (locks Sample.host Sample.start Sample.opening _ Sample.rival
    Sample.deployed_start failed).locked
  revert locked
  decide +kernel

end LumenFlow

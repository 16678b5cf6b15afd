import LumenFlow.Effect.Frame

/-!
# The pause and what lifts it

Five calls change whether the contract is paused, until when it is locked, who its guardians
are, or which of them have approved an early end of the pause.
-/

namespace LumenFlow

open Kit Contract

namespace Pausing

/-- The contract runs again, and everything that the pause has left is cleared. -/
def lift (pausing : Pausing) : Pausing :=
  { pausing with paused := false, reason := none, lockUntil := none, approvals := [] }

/-- The changes of the pause that a committed call can make. -/
inductive Move (env : Env) (now : Nat) (before : Pausing) : Call → Pausing → Prop where
  | kept (call : Call) (quiet : .pausing ∉ call.parts) : Move env now before call before
  | paused (admin : Address) :
      Move env now before (.admin (.pauseContract admin)) { before with paused := true }
  | locked (admin : Address) (reason : Text) (fits : now + pauseTimelockSecs ≤ u64Max) :
      Move env now before (.admin (.pauseWithReason admin reason))
        { before with
          paused := true
          reason := some reason
          lockUntil := some (now + pauseTimelockSecs)
          approvals := [] }
  | unpaused (admin : Address) (elapsed : ∀ limit ∈ before.lockUntil, limit ≤ now) :
      Move env now before (.admin (.unpauseContract admin)) before.lift
  | guardiansSet (admin : Address) (guardians : List Address) :
      Move env now before (.admin (.setPauseGuardians admin guardians)) { before with guardians }
  | approved (guardian : Address) (authorised : env.Authorised guardian)
      (registered : guardian ∈ before.guardians) (first : guardian ∉ before.approvals)
      (pending : before.approvals.length + 1 < earlyUnpauseThreshold) :
      Move env now before (.admin (.approveEarlyUnpause guardian))
        { before with approvals := before.approvals ++ [guardian] }
  | quorum (guardian : Address) (authorised : env.Authorised guardian)
      (registered : guardian ∈ before.guardians) (first : guardian ∉ before.approvals)
      (enough : earlyUnpauseThreshold ≤ before.approvals.length + 1) :
      Move env now before (.admin (.approveEarlyUnpause guardian)) before.lift

end Pausing

variable {env : Env} {world next : World}

theorem AdminCall.pausing_move {call : AdminCall}
    (committed : call.exec.Commits env world () next) :
    world.pausing.Move env world.timestamp (.admin call) next.pausing := by
  have quiet (other : .pausing ∉ call.parts) :
      world.pausing.Move env world.timestamp (.admin call) next.pausing := by
    have same : next.pausing = world.pausing := call.writes.frame committed .pausing other
    rw [same]
    exact .kept _ other
  cases call with
  | pauseContract admin =>
      simp [AdminCall.exec, Contract.pauseContract] at committed
      obtain ⟨_, audited⟩ := committed
      have same : next.pausing = _ := same_part [.audit] audited .pausing (by simp)
      rw [same]
      exact .paused admin
  | unpauseContract admin =>
      simp [AdminCall.exec, Contract.unpauseContract] at committed
      obtain ⟨_, elapsed, audited⟩ := committed
      have same : next.pausing = _ := same_part [.audit] audited .pausing (by simp)
      rw [same]
      exact .unpaused admin elapsed
  | pauseWithReason admin reason =>
      simp only [AdminCall.exec, Contract.pauseWithReason, Tx.commits_bind, Tx.exists_unit,
        Tx.commits_modify, commits_requireAdminRateLimited, commits_requireNonEmptyString,
        commits_timestamp, commits_addU64] at committed
      obtain ⟨_, ⟨_, rfl⟩, _, ⟨_, rfl⟩, _, rfl, _, rfl, _, _, ⟨rfl, rfl⟩, lockUntil, _,
        ⟨fits, rfl, rfl⟩, _, rfl, rfl⟩ := committed
      exact .locked admin reason fits
  | setPauseGuardians admin guardians =>
      simp [AdminCall.exec, Contract.setPauseGuardians] at committed
      obtain ⟨_, _, rfl⟩ := committed
      exact .guardiansSet admin guardians
  | approveEarlyUnpause guardian =>
      simp [AdminCall.exec, Contract.approveEarlyUnpause] at committed
      obtain ⟨authorised, registered, first, ⟨enough, rfl⟩ | ⟨pending, rfl⟩⟩ := committed
      · exact .quorum guardian authorised registered first enough
      · exact .approved guardian authorised registered first pending
  | _ => exact quiet (by simp [AdminCall.parts])

theorem Call.pausing_move {call : Call} (committed : call.exec.Commits env world () next) :
    world.pausing.Move env world.timestamp call next.pausing := by
  have quiet (other : .pausing ∉ call.parts) :
      world.pausing.Move env world.timestamp call next.pausing := by
    have same : next.pausing = world.pausing := call.writes.frame committed .pausing other
    rw [same]
    exact .kept _ other
  cases call with
  | admin call => exact AdminCall.pausing_move committed
  | merchant call => exact quiet (by cases call <;> simp [Call.parts, MerchantCall.parts])
  | payment call => exact quiet (by cases call <;> simp [Call.parts, PaymentCall.parts])
  | refund call => exact quiet (by cases call <;> simp [Call.parts, RefundCall.parts])
  | multisig call => exact quiet (by cases call <;> simp [Call.parts, MultisigCall.parts])
  | subscription call => exact quiet (by cases call <;> simp [Call.parts, SubscriptionCall.parts])
  | escrow call => exact quiet (by cases call <;> simp [Call.parts, EscrowCall.parts])

/-- An action moves the pause by an accepted call, or leaves it alone. -/
theorem step_pausing (host : Host) (world : World) (action : Action) :
    (∃ auth permits call, action = .invoke auth permits call ∧
        Accepted host world auth permits call ∧
        world.pausing.Move (host.env auth permits) world.timestamp call
          (step host world action).pausing) ∨
      (∀ {Entry : Type} (entries : World → List Address → Call → List Entry),
          noteAccepted host entries world action = []) ∧
        (step host world action).pausing = world.pausing := by
  rcases step_cases host world action with
    ⟨auth, permits, call, rfl, succeeded⟩ | ⟨silent, bank, sequence, timestamp, same⟩
  · exact .inl ⟨auth, permits, call, rfl, succeeded.accepted,
      Call.pausing_move succeeded.executes⟩
  · refine .inr ⟨silent, ?_⟩
    rw [same]
    rfl

end LumenFlow

import LumenFlow.Effect.Pausing
import LumenFlow.Safety.AuditLog

/-!
# What the audit log says about the pause

Two calls start a pause and two end it.  The plain ones record that they do,
`pause_with_reason` and the last approval of the guardians do not.
-/

namespace LumenFlow

open Kit Contract

/-- The entries that say that the contract was paused or unpaused. -/
def pauseEntries (entries : List AdminAuditEntry) : List AdminAuditEntry :=
  entries.filter fun entry => entry.action = .pauseContract ∨ entry.action = .unpauseContract

/-- The last of these entries says that the contract was paused. -/
def pausedBy (entries : List AdminAuditEntry) : Bool :=
  match (pauseEntries entries).getLast? with
  | some entry => decide (entry.action = .pauseContract)
  | none => false

/-- The entry of a change of the flag. -/
def pauseAction (paused : Bool) : AdminActionType :=
  if paused then .pauseContract else .unpauseContract

/-- Who acts in a call that can start or end a pause. -/
def Call.pauseActor : Call → Option Address
  | .admin (.pauseContract caller) | .admin (.pauseWithReason caller _)
  | .admin (.unpauseContract caller) => some caller
  | .admin (.approveEarlyUnpause guardian) => some guardian
  | _ => none

/-- If the action pauses or unpauses the contract, then it is a call that appends one entry
that says so, with the address that acts in the call. -/
def ChangeAudited (host : Host) (world : World) (action : Action) : Prop :=
  (step host world action).getPaused ≠ world.getPaused →
    ∃ auth permits call entry, action = .invoke auth permits call ∧
      pauseEntries (auditNote host world action) = [entry] ∧
      entry.action = pauseAction (step host world action).getPaused ∧
      call.pauseActor = some entry.caller

/-- The entries that a run appends tell when the contract was paused. -/
structure PauseAudited (host : Host) (start : World) (actions : List Action) : Prop where
  changes : Along (step host) (ChangeAudited host) start actions
  flag : ∀ before after, actions = before ++ after →
    (run (step host) start before).getPaused = pausedBy (auditedIn host start before)

/-- The action is an accepted pause with a reason of a contract that runs, or an accepted
approval that ends a pause. -/
def PausesUnaudited (host : Host) (world : World) : Action → Prop
  | .invoke auth permits (.admin (.pauseWithReason admin reason)) =>
      Accepted host world auth permits (.admin (.pauseWithReason admin reason)) ∧
        world.getPaused = false
  | .invoke auth permits (.admin (.approveEarlyUnpause guardian)) =>
      Accepted host world auth permits (.admin (.approveEarlyUnpause guardian)) ∧
        world.getPaused = true ∧
        earlyUnpauseThreshold ≤ world.getEarlyUnpauseApprovals.length + 1
  | _ => False

section PauseLog

variable {host : Host} {start world : World} {action : Action} {actions : List Action}
  {past entries : List AdminAuditEntry} {entry : AdminAuditEntry} {auth : List Address}
  {permits : TokenCall → Bool} {call : Call}

theorem pausedBy_append_nil (other : pauseEntries entries = []) :
    pausedBy (past ++ entries) = pausedBy past := by
  unfold pausedBy
  rw [pauseEntries, List.filter_append, ← pauseEntries, ← pauseEntries, other, List.append_nil]

theorem pausedBy_append_single {paused : Bool} (single : pauseEntries entries = [entry])
    (named : entry.action = pauseAction paused) : pausedBy (past ++ entries) = paused := by
  unfold pausedBy
  rw [pauseEntries, List.filter_append, ← pauseEntries, ← pauseEntries, single,
    List.getLast?_append]
  cases paused <;> simp [named, pauseAction]

theorem pauseEntries_of_quiet (quiet : .pausing ∉ call.parts) :
    pauseEntries (call.auditEntry world).toList = [] := by
  cases call with
  | admin call =>
      cases call with
      | pauseContract admin => simp [Call.parts, AdminCall.parts] at quiet
      | unpauseContract admin => simp [Call.parts, AdminCall.parts] at quiet
      | _ => rfl
  | _ => rfl

/-- Unless it pauses or unpauses in silence, an action keeps the entries and the flag in
agreement. -/
theorem pause_turn (agrees : world.getPaused = pausedBy past)
    (audible : ¬ PausesUnaudited host world action) :
    ChangeAudited host world action ∧
      (step host world action).getPaused = pausedBy (past ++ auditNote host world action) := by
  have unchanged (same : (step host world action).getPaused = world.getPaused)
      (other : pauseEntries (auditNote host world action) = []) :
      ChangeAudited host world action ∧
        (step host world action).getPaused =
          pausedBy (past ++ auditNote host world action) := by
    apply And.intro (fun changes => absurd same changes)
    rw [same, agrees, pausedBy_append_nil other]
  have audited {auth : List Address} {permits : TokenCall → Bool} {call : Call} {paused : Bool}
      {caller : Address} (invoked : action = .invoke auth permits call)
      (after : (step host world action).getPaused = paused)
      (noted : auditNote host world action = [world.auditEntry (pauseAction paused) caller])
      (acts : call.pauseActor = some caller) :
      ChangeAudited host world action ∧
        (step host world action).getPaused =
          pausedBy (past ++ auditNote host world action) := by
    have single : pauseEntries (auditNote host world action) =
        [world.auditEntry (pauseAction paused) caller] := by
      rw [noted]
      cases paused <;> rfl
    have shown : pausedBy (past ++ auditNote host world action) = paused :=
      pausedBy_append_single single rfl
    refine ⟨fun _ => ⟨auth, permits, call, _, invoked, single, ?_, acts⟩, after.trans shown.symm⟩
    rw [after]
    rfl
  rcases step_pausing host world action with
    ⟨auth, permits, call, rfl, accepted, move⟩ | ⟨silent, same⟩
  · have noted : auditNote host world (.invoke auth permits call) =
        (call.auditEntry world).toList := noteAccepted_of_accepted accepted
    generalize settled : (step host world (.invoke auth permits call)).pausing = pausing at move
    have paused : (step host world (.invoke auth permits call)).getPaused = pausing.paused := by
      rw [← settled]
      rfl
    cases move with
    | kept call quiet =>
        exact unchanged paused (by rw [noted]; exact pauseEntries_of_quiet quiet)
    | paused admin => exact audited rfl paused noted rfl
    | unpaused admin elapsed => exact audited rfl paused noted rfl
    | locked admin reason fits =>
        have already : world.getPaused = true := by
          simpa [PausesUnaudited, accepted] using audible
        exact unchanged (paused.trans already.symm) (by rw [noted]; rfl)
    | guardiansSet admin guardians => exact unchanged paused (by rw [noted]; rfl)
    | approved guardian => exact unchanged paused (by rw [noted]; rfl)
    | quorum guardian authorised registered first enough =>
        have running : world.getPaused = false := by
          by_contra on
          exact audible ⟨accepted, by simpa using on, enough⟩
        exact unchanged (paused.trans running.symm) (by rw [noted]; rfl)
  · have same : (step host world action).getPaused = world.getPaused :=
      congrArg Pausing.paused same
    exact unchanged same (by rw [auditNote, silent]; rfl)

theorem pauseWithReason_paused {admin : Address} {reason : Text}
    (accepted : Accepted host world auth permits (.admin (.pauseWithReason admin reason))) :
    (step host world (.invoke auth permits (.admin (.pauseWithReason admin reason)))).getPaused =
      true := by
  have move := Call.pausing_move accepted.succeeds.executes
  generalize settled : (step host world (.invoke auth permits
    (.admin (.pauseWithReason admin reason)))).pausing = pausing at move
  have paused := congrArg Pausing.paused settled
  cases move with
  | kept call quiet => simp [Call.parts, AdminCall.parts] at quiet
  | locked => exact paused

theorem approveEarlyUnpause_unpaused {guardian : Address}
    (accepted : Accepted host world auth permits (.admin (.approveEarlyUnpause guardian)))
    (enough : earlyUnpauseThreshold ≤ world.getEarlyUnpauseApprovals.length + 1) :
    (step host world (.invoke auth permits (.admin (.approveEarlyUnpause guardian)))).getPaused =
      false := by
  have move := Call.pausing_move accepted.succeeds.executes
  generalize settled : (step host world (.invoke auth permits
    (.admin (.approveEarlyUnpause guardian)))).pausing = pausing at move
  have paused := congrArg Pausing.paused settled
  cases move with
  | kept call quiet => simp [Call.parts, AdminCall.parts] at quiet
  | approved _ _ _ _ pending => exact absurd enough (Nat.not_le.mpr pending)
  | quorum => exact paused

theorem not_changeAudited_of_changes
    (changes : (step host world action).getPaused ≠ world.getPaused)
    (silent : pauseEntries (auditNote host world action) = []) :
    ¬ ChangeAudited host world action := by
  intro audited
  obtain ⟨_, _, _, entry, _, single, _⟩ := audited changes
  rw [silent] at single
  exact List.cons_ne_nil entry [] single.symm

theorem not_changeAudited (unaudited : PausesUnaudited host world action) :
    ¬ ChangeAudited host world action := by
  unfold PausesUnaudited at unaudited
  split at unaudited
  · obtain ⟨accepted, running⟩ := unaudited
    apply not_changeAudited_of_changes
    · rw [pauseWithReason_paused accepted, running]
      exact Bool.true_eq_false_eq_False
    · rw [auditNote, noteAccepted_of_accepted accepted]
      rfl
  · obtain ⟨accepted, paused, enough⟩ := unaudited
    apply not_changeAudited_of_changes
    · rw [approveEarlyUnpause_unpaused accepted enough, paused]
      exact Bool.false_ne_true
    · rw [auditNote, noteAccepted_of_accepted accepted]
      rfl
  · exact unaudited.elim

/-- The log of a run tells its pauses exactly if no accepted call pauses or unpauses the
contract in silence. -/
theorem pauseAudited_iff (host : Host) (start : World) (actions : List Action)
    (running : start.getPaused = false) :
    PauseAudited host start actions ↔
      Along (step host) (fun world action => ¬ PausesUnaudited host world action) start
        actions := by
  constructor
  · intro audited
    apply along_mono _ audited.changes
    intro world action changes unaudited
    exact not_changeAudited unaudited changes
  · intro audible
    have stepwise : ∀ world past action, World.getPaused world = pausedBy past →
        ¬ PausesUnaudited host world action →
          (step host world action).getPaused =
            pausedBy (past ++ auditNote host world action) := by
      intro world past action agrees audible
      exact (pause_turn agrees audible).2
    have agrees : ∀ before after, actions = before ++ after →
        (run (step host) start before).getPaused = pausedBy (auditedIn host start before) := by
      intro before after split
      rw [split, along_append] at audible
      exact history_invariant_along stepwise running audible.1
    refine ⟨?_, agrees⟩
    rw [along_iff_split] at audible ⊢
    intro before action after split
    exact (pause_turn (agrees before _ split) (audible before action after split)).1

end PauseLog

namespace Sample

/-- The administrator pauses with a reason. -/
def silentPause : List Action := [
  invokedBy admin (.admin (.setAdmin admin)),
  invokedBy admin (.admin (.pauseWithReason admin [1]))]

end Sample

theorem pauseAudited_iff_sample :
    PauseAudited Sample.host Sample.start Sample.audited ↔
      Along (step Sample.host) (fun world action => ¬ PausesUnaudited Sample.host world action)
        Sample.start Sample.audited :=
  pauseAudited_iff Sample.host Sample.start Sample.audited rfl

/-- The contract is paused, and no entry of the log says so. -/
theorem pause_without_entry :
    Deployed Sample.host Sample.start ∧
      (run (step Sample.host) Sample.start Sample.silentPause).getPaused = true ∧
      ¬ PauseAudited Sample.host Sample.start Sample.silentPause := by
  refine ⟨Sample.deployed_start, by decide +kernel, ?_⟩
  intro audited
  have flag := audited.flag Sample.silentPause [] (List.append_nil _).symm
  exact absurd flag (by decide +kernel)

end LumenFlow

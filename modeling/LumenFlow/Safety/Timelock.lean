import LumenFlow.Effect.Pausing

/-!
# How a pause ends

A pause with a reason is locked for a week.  Before that only the guardians can end it,
three of them, each by its own approval.
-/

namespace LumenFlow

open Kit Contract

section Approvals

/-- The guardian that approves an early end of the pause by the call. -/
def Call.earlyApprovals (_world : World) (_auth : List Address) : Call → List Address
  | .admin (.approveEarlyUnpause guardian) => [guardian]
  | _ => []

/-- In the run the address approves an early end of the pause, as a guardian of that
moment and with its own authorisation. -/
def ApprovedIn (host : Host) (start : World) (actions : List Action) (guardian : Address) : Prop :=
  ∃ before auth permits after,
    actions = before ++ .invoke auth permits (.admin (.approveEarlyUnpause guardian)) :: after ∧
      Accepted host (run (step host) start before) auth permits
        (.admin (.approveEarlyUnpause guardian)) ∧
      guardian ∈ (run (step host) start before).getPauseGuardians ∧
      (host.env auth permits).Authorised guardian

/-- The approvals that a run accepts, in order. -/
abbrev approvalsIn (host : Host) (start : World) (actions : List Action) : List Address :=
  acceptedEntries host Call.earlyApprovals start actions

variable {host : Host} {world start : World} {auth : List Address}
  {permits : TokenCall → Bool} {guardian : Address} {actions : List Action}

theorem Accepted.approver
    (accepted : Accepted host world auth permits (.admin (.approveEarlyUnpause guardian))) :
    guardian ∈ world.getPauseGuardians ∧ (host.env auth permits).Authorised guardian := by
  have move := Call.pausing_move accepted.succeeds.executes
  generalize World.pausing (step _ _ _) = after at move
  cases move with
  | kept _ quiet => simp [Call.parts, AdminCall.parts] at quiet
  | approved _ authorised registered => exact ⟨registered, authorised⟩
  | quorum _ authorised registered => exact ⟨registered, authorised⟩

theorem mem_approvalsIn_iff :
    guardian ∈ approvalsIn host start actions ↔ ApprovedIn host start actions guardian := by
  rw [approvalsIn, mem_acceptedEntries_iff]
  constructor
  · rintro ⟨before, auth, permits, call, after, split, accepted, noted⟩
    unfold Call.earlyApprovals at noted
    split at noted
    · obtain rfl := List.mem_singleton.mp noted
      exact ⟨before, auth, permits, after, split, accepted, accepted.approver⟩
    · cases noted
  · rintro ⟨before, auth, permits, after, split, accepted, _⟩
    exact ⟨before, auth, permits, _, after, split, accepted, List.mem_singleton_self guardian⟩

end Approvals

section Timelock

/-- The pause is locked until a time, and the pending approvals are distinct and noted. -/
structure Pausing.Locked (earliest : Nat) (pausing : Pausing) (past : List Address) : Prop where
  locked : ∃ limit ∈ pausing.lockUntil, earliest ≤ limit
  distinct : pausing.approvals.Nodup
  noted : ∀ guardian ∈ pausing.approvals, guardian ∈ past

variable {env : Env} {host : Host} {world : World} {before after : Pausing} {since now : Nat}
  {past : List Address} {call : Call}

theorem Pausing.Locked.move (locked : before.Locked (since + pauseTimelockSecs) past)
    (started : since ≤ now) (move : before.Move env now call after) (paused : after.paused = true)
    (auth : List Address) :
    after.Locked (since + pauseTimelockSecs) (past ++ call.earlyApprovals world auth) := by
  have noted : ∀ guardian ∈ before.approvals, guardian ∈ past ++ call.earlyApprovals world auth :=
    fun guardian pending => List.mem_append_left _ (locked.noted guardian pending)
  cases move with
  | kept => exact ⟨locked.locked, locked.distinct, noted⟩
  | paused => exact ⟨locked.locked, locked.distinct, noted⟩
  | guardiansSet => exact ⟨locked.locked, locked.distinct, noted⟩
  | locked admin reason =>
      exact ⟨⟨_, rfl, Nat.add_le_add_right started _⟩, List.nodup_nil, by simp⟩
  | approved guardian _ _ first _ =>
      refine ⟨locked.locked, ?_, ?_⟩
      · simpa using locked.distinct.concat first
      · intro approver pending
        rcases List.mem_append.mp pending with earlier | here
        · exact noted approver earlier
        · exact List.mem_append_right _ here
  | unpaused => cases paused
  | quorum => cases paused

theorem Pausing.Move.locks {admin : Address} {reason : Text}
    (move : before.Move env now (.admin (.pauseWithReason admin reason)) after) :
    now ≤ u64Max ∧ after.paused = true ∧ after.Locked (now + pauseTimelockSecs) [] := by
  cases move with
  | kept _ quiet => simp [Call.parts, AdminCall.parts] at quiet
  | locked _ _ fits =>
      exact ⟨(Nat.le_add_right _ _).trans fits, rfl, ⟨_, rfl, le_refl _⟩, List.nodup_nil, by simp⟩

/-- A week or the guardians end the pause. -/
theorem Pausing.Locked.exit (locked : before.Locked (since + pauseTimelockSecs) past)
    (move : before.Move env now call after) (held : before.paused = true)
    (lifted : after.paused = false) :
    since + pauseTimelockSecs ≤ now ∨
      ∃ guardian, call = .admin (.approveEarlyUnpause guardian) ∧
        (before.approvals ++ [guardian]).Nodup ∧
        earlyUnpauseThreshold ≤ (before.approvals ++ [guardian]).length := by
  cases move with
  | kept => exact absurd (held.symm.trans lifted) (by simp)
  | paused => cases lifted
  | guardiansSet => exact absurd (held.symm.trans lifted) (by simp)
  | locked => cases lifted
  | approved => exact absurd (held.symm.trans lifted) (by simp)
  | unpaused admin elapsed =>
      obtain ⟨limit, lock, later⟩ := locked.locked
      exact .inl (later.trans (elapsed limit lock))
  | quorum guardian _ _ first enough =>
      exact .inr ⟨guardian, rfl, by simpa using locked.distinct.concat first,
        by simpa using enough⟩

/-- A run that stays paused keeps the lock, and the pending approvals are its own. -/
theorem locked_run {start : World} {actions : List Action} (clock : start.timestamp ≤ u64Max)
    (started : since ≤ start.timestamp)
    (locked : start.pausing.Locked (since + pauseTimelockSecs) [])
    (held : Throughout (step host) (fun world => world.gov.paused = true) start actions) :
    since ≤ (run (step host) start actions).timestamp ∧
      (run (step host) start actions).pausing.Locked (since + pauseTimelockSecs)
        (approvalsIn host start actions) := by
  let Held (world : World) (past : List Address) : Prop :=
    world.timestamp ≤ u64Max ∧ since ≤ world.timestamp ∧
      world.pausing.Locked (since + pauseTimelockSecs) past
  have stepwise : ∀ world past action, Held world past →
      (world.gov.paused = true ∧ (step host world action).gov.paused = true) →
      Held (step host world action)
        (past ++ noteAccepted host Call.earlyApprovals world action) := by
    rintro world past action ⟨clock, started, locked⟩ ⟨_, paused⟩
    obtain ⟨later, nextClock⟩ := step_timestamp host action clock
    refine ⟨nextClock, started.trans later, ?_⟩
    rcases step_pausing host world action with
      ⟨auth, permits, call, rfl, accepted, move⟩ | ⟨silent, same⟩
    · rw [noteAccepted_of_accepted accepted]
      exact locked.move started move paused auth
    · rw [silent, List.append_nil, same]
      exact locked
  exact (history_invariant_along stepwise ⟨clock, started, locked⟩ held.along).2

end Timelock

/-- The run ends with an approval, and since its start three distinct guardians have
approved. -/
def EndsByGuardians (host : Host) (start : World) (during : List Action) (last : Action) : Prop :=
  ∃ auth permits guardian, last = .invoke auth permits (.admin (.approveEarlyUnpause guardian)) ∧
    ∃ approvers : List Address, approvers.Nodup ∧ earlyUnpauseThreshold ≤ approvers.length ∧
      ∀ approver ∈ approvers, ApprovedIn host start (during ++ [last]) approver

/-- After an accepted pause with a reason the contract stays paused, and the first action
that ends the pause comes a week later or is made by the guardians. -/
theorem unpause_timelock {host : Host} {world : World} {auth : List Address}
    {permits : TokenCall → Bool} {admin : Address} {reason : Text}
    (accepted : Accepted host world auth permits (.admin (.pauseWithReason admin reason)))
    (actions : List Action) :
    let start := step host world (.invoke auth permits (.admin (.pauseWithReason admin reason)))
    Throughout (step host) (fun world => world.gov.paused = true) start actions ∨
      ∃ during last after, actions = during ++ last :: after ∧
        Throughout (step host) (fun world => world.gov.paused = true) start during ∧
        (step host (run (step host) start during) last).gov.paused = false ∧
        (world.timestamp + pauseTimelockSecs ≤ (run (step host) start during).timestamp ∨
          EndsByGuardians host start during last) := by
  intro start
  obtain ⟨clock, paused, locked⟩ := (Call.pausing_move accepted.succeeds.executes).locks
  obtain ⟨later, startClock⟩ := step_timestamp host
    (.invoke auth permits (.admin (.pauseWithReason admin reason))) clock
  rcases throughout_or_exit (step host) (fun world => world.gov.paused = true) actions paused with
    held | ⟨during, last, after, split, held, lifted⟩
  · exact .inl held
  · have lifted : (step host (run (step host) start during) last).gov.paused = false := by
      simpa using lifted
    refine .inr ⟨during, last, after, split, held, lifted, ?_⟩
    have still : (run (step host) start during).gov.paused = true := held during [] (by simp)
    obtain ⟨started, locked⟩ := locked_run startClock later locked held
    rcases step_pausing host (run (step host) start during) last with
      ⟨auth, permits, call, rfl, accepted, move⟩ | ⟨_, same⟩
    · rcases locked.exit move still lifted with elapsed | ⟨guardian, rfl, distinct, enough⟩
      · exact .inl elapsed
      · refine .inr ⟨auth, permits, guardian, rfl, _, distinct, enough, fun approver member => ?_⟩
        rw [← mem_approvalsIn_iff, approvalsIn, acceptedEntries, history_append]
        rcases List.mem_append.mp member with earlier | here
        · exact List.mem_append_left _ (locked.noted approver earlier)
        · apply List.mem_append_right _
          rw [history_cons, noteAccepted_of_accepted accepted]
          exact List.mem_append_left _ here
    · have unchanged : (step host (run (step host) start during) last).gov.paused =
          (run (step host) start during).gov.paused := congrArg Pausing.paused same
      rw [unchanged, still] at lifted
      cases lifted

namespace Sample

def locking : Call := .admin (.pauseWithReason admin [82])
def unpausing : Action := invokedBy admin (.admin (.unpauseContract admin))

end Sample

/-- The admin cannot end the pause at once. -/
theorem unpause_timelock_sample :
    (run (step Sample.host) (Sample.world [])
      [Sample.invokedBy Sample.admin Sample.locking, Sample.unpausing]).gov.paused = true := by
  have accepted : Accepted Sample.host (Sample.world []) [Sample.admin] (fun _ => true)
      Sample.locking := by decide +kernel
  rcases unpause_timelock accepted [Sample.unpausing] with
    held | ⟨during, last, after, split, _, _, elapsed | ⟨_, _, guardian, approving, _⟩⟩
  · exact held [Sample.unpausing] [] rfl
  · obtain ⟨rfl, rest⟩ | ⟨rest, rfl, ends⟩ := List.cons_eq_append_iff.mp split
    · revert elapsed
      decide +kernel
    · simp at ends
  · obtain ⟨rfl, rest⟩ | ⟨rest, rfl, ends⟩ := List.cons_eq_append_iff.mp split
    · rw [approving] at rest
      simp [Sample.unpausing, Sample.invokedBy] at rest
    · simp at ends

section Quorum

/-- The call pauses the contract. -/
def Call.Pauses : Call → Prop
  | .admin (.pauseContract _) | .admin (.pauseWithReason ..) => True
  | _ => False

/-- No approval from before the pausing call is pending after it. -/
def Call.DropsApprovals (world : World) : Call → Prop
  | .admin (.pauseWithReason ..) => True
  | _ => world.gov.earlyUnpauseApprovals = []

/-- The action is an accepted call that pauses the contract. -/
def PausedBy (host : Host) (world : World) : Action → Prop
  | .invoke auth permits call => Accepted host world auth permits call ∧ call.Pauses
  | .tokens _ | .advance .. => False

/-- Three distinct guardians of the state that the run ends in have approved in the run or
by the last action. -/
def CurrentQuorum (host : Host) (start : World) (since : List Action) (last : Action) : Prop :=
  ∃ approvers : List Address, approvers.Nodup ∧ earlyUnpauseThreshold ≤ approvers.length ∧
    ∀ approver ∈ approvers, approver ∈ (run (step host) start since).getPauseGuardians ∧
      ApprovedIn host start (since ++ [last]) approver

variable {env : Env} {host : Host} {world : World} {before after : Pausing} {now : Nat}
  {call : Call}

/-- The pending approvals are distinct and fewer than a quorum. -/
structure Pausing.Pending (pausing : Pausing) : Prop where
  distinct : pausing.approvals.Nodup
  few : pausing.approvals.length < earlyUnpauseThreshold

theorem Pausing.Pending.move (pending : before.Pending) (move : before.Move env now call after) :
    after.Pending := by
  have none : ([] : List Address).length < earlyUnpauseThreshold := Nat.succ_pos 2
  cases move with
  | kept => exact pending
  | paused => exact ⟨pending.distinct, pending.few⟩
  | guardiansSet => exact ⟨pending.distinct, pending.few⟩
  | locked => exact ⟨List.nodup_nil, none⟩
  | approved guardian _ _ first few =>
      exact ⟨by simpa using pending.distinct.concat first, by simpa using few⟩
  | unpaused => exact ⟨List.nodup_nil, none⟩
  | quorum => exact ⟨List.nodup_nil, none⟩

theorem Deployed.pending {start : World} (deployed : Deployed host start) (actions : List Action) :
    (run (step host) start actions).pausing.Pending := by
  have stepwise : ∀ world action, (World.pausing world).Pending →
      (step host world action).pausing.Pending := by
    intro world action pending
    rcases step_pausing host world action with ⟨_, _, _, rfl, _, move⟩ | ⟨_, same⟩
    · exact pending.move move
    · rwa [same]
  have initial : start.pausing.Pending := by
    obtain ⟨bank, timestamp, sequence, _, _, rfl⟩ := deployed
    exact ⟨List.nodup_nil, Nat.succ_pos 2⟩
  exact run_invariant stepwise initial actions

theorem Pausing.Move.collects (move : before.Move env now call after) (other : ¬ call.Pauses)
    (world : World) (auth : List Address) :
    after.paused = false ∨ after.paused = before.paused ∧
      after.approvals = before.approvals ++ call.earlyApprovals world auth := by
  cases move with
  | kept call quiet =>
      have silent : call.earlyApprovals world auth = [] := by
        unfold Call.earlyApprovals
        split
        · simp [Call.parts, AdminCall.parts] at quiet
        · rfl
      exact .inr ⟨rfl, by rw [silent, List.append_nil]⟩
  | paused => exact absurd trivial other
  | locked => exact absurd trivial other
  | unpaused => exact .inl rfl
  | quorum => exact .inl rfl
  | guardiansSet => exact .inr ⟨rfl, (List.append_nil _).symm⟩
  | approved => exact .inr ⟨rfl, rfl⟩

/-- Without a pausing call the contract is unpaused, or it has been paused throughout and
its pending approvals are those from the start and the ones of the run. -/
theorem approvals_since {start : World} {since : List Action}
    (latest : Along (step host) (fun world action => ¬ PausedBy host world action) start since) :
    (run (step host) start since).gov.paused = false ∨
      start.gov.paused = true ∧ (run (step host) start since).gov.earlyUnpauseApprovals =
        start.gov.earlyUnpauseApprovals ++ approvalsIn host start since := by
  let Collected (world : World) (past : List Address) : Prop :=
    world.pausing.paused = false ∨ start.pausing.paused = true ∧
      world.pausing.approvals = start.pausing.approvals ++ past
  have stepwise : ∀ world past action, Collected world past → ¬ PausedBy host world action →
      Collected (step host world action)
        (past ++ noteAccepted host Call.earlyApprovals world action) := by
    intro world past action collected other
    rcases step_pausing host world action with
      ⟨auth, permits, call, rfl, accepted, move⟩ | ⟨silent, same⟩
    · rw [noteAccepted_of_accepted accepted]
      rcases move.collects (fun pauses => other ⟨accepted, pauses⟩) world auth with
        lifted | ⟨paused, approvals⟩
      · exact .inl lifted
      · rcases collected with off | ⟨held, listed⟩
        · exact .inl (paused.trans off)
        · exact .inr ⟨held, by rw [approvals, listed, List.append_assoc]⟩
    · rw [silent, List.append_nil]
      change (World.pausing _).paused = false ∨ _
      rw [same]
      exact collected
  have initial : Collected start [] := by
    cases held : start.pausing.paused with
    | false => exact .inl held
    | true => exact .inr ⟨held, (List.append_nil _).symm⟩
  exact history_invariant_along stepwise initial latest

theorem Pausing.Move.drops (move : world.pausing.Move env now call after) (pauses : call.Pauses) :
    after.approvals = [] ↔ call.DropsApprovals world := by
  cases move with
  | kept call quiet =>
      unfold Call.Pauses at pauses
      split at pauses
      · simp [Call.parts, AdminCall.parts] at quiet
      · simp [Call.parts, AdminCall.parts] at quiet
      · exact pauses.elim
  | paused => exact Iff.rfl
  | locked => exact iff_of_true rfl trivial
  | unpaused | quorum | guardiansSet | approved => exact pauses.elim

theorem Pausing.Move.quorum_of_lifted {guardian : Address}
    (move : before.Move env now (.admin (.approveEarlyUnpause guardian)) after)
    (pending : before.Pending) (held : before.paused = true) (lifted : after.paused = false) :
    before.approvals.length + 1 = earlyUnpauseThreshold ∧ guardian ∉ before.approvals ∧
      guardian ∈ before.guardians := by
  cases move with
  | kept => exact absurd (held.symm.trans lifted) (by simp)
  | approved => exact absurd (held.symm.trans lifted) (by simp)
  | quorum _ _ registered first enough =>
      exact ⟨le_antisymm pending.few enough, first, registered⟩

/-- Three current guardians have approved in a run exactly if the run itself has collected
all pending approvals, each from a current guardian. -/
theorem currentQuorum_iff {start : World} {since : List Action} {auth : List Address}
    {permits : TokenCall → Bool} {guardian : Address}
    (accepted : Accepted host (run (step host) start since) auth permits
      (.admin (.approveEarlyUnpause guardian)))
    (collected : (run (step host) start since).gov.earlyUnpauseApprovals =
      start.gov.earlyUnpauseApprovals ++ approvalsIn host start since)
    (distinct : (run (step host) start since).gov.earlyUnpauseApprovals.Nodup)
    (enough : (run (step host) start since).gov.earlyUnpauseApprovals.length + 1 =
      earlyUnpauseThreshold)
    (first : guardian ∉ (run (step host) start since).gov.earlyUnpauseApprovals) :
    CurrentQuorum host start since
        (.invoke auth permits (.admin (.approveEarlyUnpause guardian))) ↔
      start.gov.earlyUnpauseApprovals = [] ∧
        ∀ approver ∈ (run (step host) start since).getEarlyUnpauseApprovals,
          approver ∈ (run (step host) start since).getPauseGuardians := by
  have approved (approver : Address) :
      ApprovedIn host start
          (since ++ [.invoke auth permits (.admin (.approveEarlyUnpause guardian))]) approver ↔
        approver ∈ approvalsIn host start since ++ [guardian] := by
    rw [← mem_approvalsIn_iff, approvalsIn, acceptedEntries, history_append, history_cons,
      noteAccepted_of_accepted accepted]
    rfl
  simp only [CurrentQuorum, approved]
  have size := congrArg List.length collected
  rw [List.length_append] at size
  constructor
  · rintro ⟨approvers, apart, many, counted⟩
    have within : approvers.Subperm (approvalsIn host start since ++ [guardian]) :=
      List.subperm_of_subset apart fun approver member => (counted approver member).2
    have fits := within.length_le
    rw [List.length_append, List.length_singleton] at fits
    have fresh : start.gov.earlyUnpauseApprovals = [] := List.eq_nil_of_length_eq_zero (by omega)
    refine ⟨fresh, fun approver pending => (counted approver ?_).1⟩
    have all : approvers.Perm (approvalsIn host start since ++ [guardian]) :=
      within.perm_of_length_le (by rw [List.length_append, List.length_singleton]; omega)
    rw [World.getEarlyUnpauseApprovals, collected, fresh, List.nil_append] at pending
    exact all.mem_iff.mpr (List.mem_append_left _ pending)
  · rintro ⟨fresh, current⟩
    rw [fresh, List.nil_append] at collected
    refine ⟨approvalsIn host start since ++ [guardian], ?_, ?_, ?_⟩
    · rw [← collected]
      simpa using distinct.concat first
    · rw [← collected, List.length_append, List.length_singleton]
      exact enough.ge
    · intro approver member
      refine ⟨?_, member⟩
      rcases List.mem_append.mp member with earlier | last
      · exact current approver (by rwa [World.getEarlyUnpauseApprovals, collected])
      · obtain rfl := List.mem_singleton.mp last
        exact accepted.approver.1

end Quorum

/-- When the guardians end a pause, three current guardians have approved since the last
pausing call exactly if that call has left no older approval pending and the two pending
approvers are still guardians. -/
theorem early_unpause_quorum_iff {host : Host} {start : World} (deployed : Deployed host start)
    {actions : List Action} {auth : List Address} {permits : TokenCall → Bool}
    {guardian : Address} (held : (run (step host) start actions).gov.paused = true)
    (lifted : (step host (run (step host) start actions)
      (.invoke auth permits (.admin (.approveEarlyUnpause guardian)))).gov.paused = false) :
    ∃ before pauser pausePermits pause since,
      actions = before ++ .invoke pauser pausePermits pause :: since ∧ pause.Pauses ∧
      Accepted host (run (step host) start before) pauser pausePermits pause ∧
      Along (step host) (fun world action => ¬ PausedBy host world action)
        (step host (run (step host) start before) (.invoke pauser pausePermits pause)) since ∧
      (CurrentQuorum host
          (step host (run (step host) start before) (.invoke pauser pausePermits pause)) since
          (.invoke auth permits (.admin (.approveEarlyUnpause guardian))) ↔
        pause.DropsApprovals (run (step host) start before) ∧
          ∀ approver ∈ (run (step host) start actions).getEarlyUnpauseApprovals,
            approver ∈ (run (step host) start actions).getPauseGuardians) := by
  have accepted : Accepted host (run (step host) start actions) auth permits
      (.admin (.approveEarlyUnpause guardian)) := by
    rcases step_invoke_cases host _ auth permits _ with succeeded | ⟨_, same⟩
    · exact succeeded.accepted
    · rw [same, held] at lifted
      cases lifted
  have pending := deployed.pending actions
  obtain ⟨enough, first, _⟩ :=
    (Call.pausing_move accepted.succeeds.executes).quorum_of_lifted pending held lifted
  rcases last_split (step host) (PausedBy host) start actions with
    never | ⟨before, action, since, split, pausedBy, latest⟩
  · rcases approvals_since never with running | ⟨paused, _⟩
    · exact absurd (held.symm.trans running) (by simp)
    · obtain ⟨bank, timestamp, sequence, _, _, rfl⟩ := deployed
      cases paused
  · cases action with
    | invoke pauser pausePermits pause =>
        obtain ⟨pausing, pauses⟩ := pausedBy
        have rest : run (step host) start actions = run (step host)
            (step host (run (step host) start before) (.invoke pauser pausePermits pause))
            since := by
          rw [split, run_append, run_cons]
        refine ⟨before, pauser, pausePermits, pause, since, split, pauses, pausing, latest, ?_⟩
        have drops := (Call.pausing_move pausing.succeeds.executes).drops pauses
        rw [rest] at accepted pending enough first held ⊢
        rw [← drops]
        rcases approvals_since latest with running | ⟨_, collected⟩
        · exact absurd (held.symm.trans running) (by simp)
        · exact currentQuorum_iff accepted collected pending.distinct enough first
    | tokens => exact pausedBy.elim
    | advance => exact pausedBy.elim

namespace Sample

def guardian (index : Nat) : Address := .account (10 + index)

def appointing : Action :=
  invokedBy admin (.admin (.setPauseGuardians admin ((List.range 5).map guardian)))

def voting (index : Nat) : Action :=
  invokedBy (guardian index) (.admin (.approveEarlyUnpause (guardian index)))

def halting : Action := invokedBy admin (.admin (.pauseContract admin))

def lockedPause : List Action :=
  opening ++ [appointing, invokedBy admin locking, voting 0, voting 1]

end Sample

theorem early_unpause_quorum_sample :
    ∃ before pauser permits pause since,
      Sample.lockedPause = before ++ .invoke pauser permits pause :: since ∧ pause.Pauses ∧
      Accepted Sample.host (run (step Sample.host) Sample.start before) pauser permits pause := by
  have held : (run (step Sample.host) Sample.start Sample.lockedPause).gov.paused = true := by
    decide +kernel
  have lifted : (step Sample.host (run (step Sample.host) Sample.start Sample.lockedPause)
      (Sample.voting 2)).gov.paused = false := by
    decide +kernel
  obtain ⟨before, pauser, permits, pause, since, split, pauses, accepted, _⟩ :=
    early_unpause_quorum_iff Sample.deployed_start held lifted
  exact ⟨before, pauser, permits, pause, since, split, pauses, accepted⟩

/-- Two approvals from before the pause count: the third one ends it at once. -/
theorem stale_approvals_lift_pause :
    let before := Sample.world [Sample.appointing, Sample.voting 0, Sample.voting 1]
    let paused := step Sample.host before Sample.halting
    Accepted Sample.host before [Sample.admin] (fun _ => true)
        (.admin (.pauseContract Sample.admin)) ∧
      paused.gov.paused = true ∧
      (step Sample.host paused (Sample.voting 2)).gov.paused = false ∧
      ¬ CurrentQuorum Sample.host paused [] (Sample.voting 2) := by
  intro before paused
  refine ⟨by decide +kernel, by decide +kernel, by decide +kernel, ?_⟩
  rintro ⟨approvers, apart, many, counted⟩
  have only : approvalsIn Sample.host paused [Sample.voting 2] = [Sample.guardian 2] := by
    decide +kernel
  have within : approvers.Subperm [Sample.guardian 2] := by
    apply List.subperm_of_subset apart
    intro approver member
    rw [← only]
    exact mem_approvalsIn_iff.mpr (counted approver member).2
  exact absurd (many.trans within.length_le) (by decide)

end LumenFlow

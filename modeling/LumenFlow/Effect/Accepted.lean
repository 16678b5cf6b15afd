import LumenFlow.Kit.History
import LumenFlow.Effect.Footprint

/-!
# Accepted calls

What the calls that a run accepts leave behind, in the order in which the
contract accepted them.
-/

namespace LumenFlow

open Kit

/-- The contract commits the call. -/
def Accepted (host : Host) (world : World) (auth : List Address) (permits : TokenCall → Bool)
    (call : Call) : Prop :=
  ∃ next, Succeeds host world auth permits call next

instance (host : Host) (world : World) (auth : List Address) (permits : TokenCall → Bool)
    (call : Call) : Decidable (Accepted host world auth permits call) :=
  match outcome : call.dispatch (host.env auth permits) world with
  | .ok (_, next) => isTrue ⟨next, outcome⟩
  | .error _ => isFalse fun ⟨_, committed⟩ => nomatch outcome.symm.trans committed

section Accepted

variable {Entry : Type}

/-- The entries of a call count only when the contract accepts it. -/
def noteAccepted (host : Host) (entries : World → List Address → Call → List Entry)
    (world : World) : Action → List Entry
  | .invoke auth permits call =>
      if Accepted host world auth permits call then entries world auth call else []
  | .tokens _ | .advance .. => []

/-- A call that the contract accepts meets the condition. -/
def AcceptsOnly (host : Host) (allowed : World → Call → Prop) (world : World) : Action → Prop
  | .invoke auth permits call => Accepted host world auth permits call → allowed world call
  | .tokens _ | .advance .. => True

instance (host : Host) (allowed : World → Call → Prop)
    [∀ world call, Decidable (allowed world call)] (world : World) (action : Action) :
    Decidable (AcceptsOnly host allowed world action) :=
  match action with
  | .invoke .. => inferInstanceAs (Decidable (_ → _))
  | .tokens _ | .advance .. => .isTrue trivial

/-- The entries of the calls that a run accepts. -/
def acceptedEntries (host : Host) (entries : World → List Address → Call → List Entry)
    (start : World) (actions : List Action) : List Entry :=
  history (step host) (noteAccepted host entries) start actions

variable {host : Host} {entries : World → List Address → Call → List Entry} {world : World}
  {auth : List Address} {permits : TokenCall → Bool} {call : Call} {entry : Entry}

theorem Succeeds.accepted {next : World} (succeeded : Succeeds host world auth permits call next) :
    Accepted host world auth permits call :=
  ⟨next, succeeded⟩

theorem Accepted.succeeds (accepted : Accepted host world auth permits call) :
    Succeeds host world auth permits call (step host world (.invoke auth permits call)) := by
  obtain ⟨next, succeeded⟩ := accepted
  rwa [succeeded.step_eq]

theorem noteAccepted_of_accepted (accepted : Accepted host world auth permits call) :
    noteAccepted host entries world (.invoke auth permits call) = entries world auth call :=
  if_pos accepted

theorem noteAccepted_of_refused (refused : ¬ Accepted host world auth permits call) :
    noteAccepted host entries world (.invoke auth permits call) = [] :=
  if_neg refused

theorem step_of_refused (refused : ¬ Accepted host world auth permits call) :
    step host world (.invoke auth permits call) = world :=
  step_eq_of_not_succeeds fun _ succeeded => refused succeeded.accepted

/-- An action is a call that succeeds, or it notes nothing and touches nothing but the
tokens and the clock. -/
theorem step_cases (host : Host) (world : World) (action : Action) :
    (∃ auth permits call, action = .invoke auth permits call ∧
        Succeeds host world auth permits call (step host world action)) ∨
      (∀ {Entry : Type} (entries : World → List Address → Call → List Entry),
          noteAccepted host entries world action = []) ∧
        ∃ bank sequence timestamp,
          step host world action = { world with bank, sequence, timestamp } := by
  cases action with
  | invoke auth permits call =>
      by_cases accepted : Accepted host world auth permits call
      · exact .inl ⟨auth, permits, call, rfl, accepted.succeeds⟩
      · exact .inr ⟨fun _ => noteAccepted_of_refused accepted,
          world.bank, world.sequence, world.timestamp, step_of_refused accepted⟩
  | tokens operation =>
      refine .inr ⟨fun _ => rfl, ?_⟩
      simp only [step]
      split
      · exact ⟨world.bank, world.sequence, world.timestamp, rfl⟩
      · exact ⟨_, world.sequence, world.timestamp, rfl⟩
  | advance ledgers seconds => exact .inr ⟨fun _ => rfl, world.bank, _, _, rfl⟩

theorem mem_noteAccepted_iff {action : Action} :
    entry ∈ noteAccepted host entries world action ↔
      ∃ auth permits call, action = .invoke auth permits call ∧
        Accepted host world auth permits call ∧ entry ∈ entries world auth call := by
  constructor
  · intro noted
    cases action with
    | invoke auth permits call =>
        by_cases accepted : Accepted host world auth permits call
        · rw [noteAccepted_of_accepted accepted] at noted
          exact ⟨auth, permits, call, rfl, accepted, noted⟩
        · rw [noteAccepted_of_refused accepted] at noted
          cases noted
    | tokens => cases noted
    | advance => cases noted
  · rintro ⟨auth, permits, call, rfl, accepted, noted⟩
    rwa [noteAccepted_of_accepted accepted]

theorem mem_acceptedEntries_iff {start : World} {actions : List Action} :
    entry ∈ acceptedEntries host entries start actions ↔
      ∃ before auth permits call after, actions = before ++ .invoke auth permits call :: after ∧
        Accepted host (run (step host) start before) auth permits call ∧
        entry ∈ entries (run (step host) start before) auth call := by
  rw [acceptedEntries, mem_history_iff]
  constructor
  · rintro ⟨before, action, after, split, noted⟩
    obtain ⟨auth, permits, call, rfl, accepted, listed⟩ := mem_noteAccepted_iff.mp noted
    exact ⟨before, auth, permits, call, after, split, accepted, listed⟩
  · rintro ⟨before, auth, permits, call, after, split, accepted, listed⟩
    exact ⟨before, _, after, split,
      mem_noteAccepted_iff.mpr ⟨auth, permits, call, rfl, accepted, listed⟩⟩

/-- A view that each accepted call sets to the last of its entries, or leaves alone when it
has none, shows the last entry of every run. -/
theorem acceptedEntries_view {Value : Type} {view : World → Value} {render : Entry → Value}
    (host : Host)
    (outside : ∀ world bank sequence timestamp,
      view { world with bank, sequence, timestamp } = view world)
    (called : ∀ {env : Env} {world next : World} {call : Call} (auth : List Address),
      call.exec.Commits env world () next →
        view next = ((entries world auth call).getLast?.map render).getD (view world))
    (start : World) (actions : List Action) :
    view (run (step host) start actions) =
      ((acceptedEntries host entries start actions).getLast?.map render).getD (view start) := by
  have registers : Registers (step host) (noteAccepted host entries) view render := by
    intro world action
    rcases step_cases host world action with
      ⟨auth, permits, call, rfl, succeeded⟩ | ⟨silent, bank, sequence, timestamp, same⟩
    · rw [noteAccepted_of_accepted succeeded.accepted]
      exact called auth succeeded.executes
    · rw [silent, same]
      exact outside world bank sequence timestamp
  exact registers.view_run start actions

end Accepted

end LumenFlow

import LumenFlow.Kit.Run

/-!
# Versioned cells

A cell of a machine may hold a record with a version.  When every input that changes the
record raises its version, a reader that finds the version it has once read knows that
nothing has changed since, as long as the cell was never empty in between.
-/

namespace Kit

variable {State Input Record : Type}

/-- The input keeps the record of the cell or raises its version, unless the cell is empty
before or after it. -/
def Raises (step : State → Input → State) (cell : State → Option Record)
    (version : Record → Nat) (state : State) (input : Input) : Prop :=
  ∀ first last, cell state = some first → cell (step state input) = some last →
    first = last ∨ version first < version last

/-- The cell holds a record. -/
def Filled (cell : State → Option Record) (state : State) : Prop :=
  ∃ record, cell state = some record

variable {step : State → Input → State} {cell : State → Option Record} {version : Record → Nat}
  {start : State} {inputs : List Input} {first last : Record}

theorem version_le_run (raises : Along step (Raises step cell version) start inputs)
    (filled : Throughout step (Filled cell) start inputs) (before : cell start = some first)
    (after : cell (run step start inputs) = some last) : version first ≤ version last := by
  induction inputs generalizing start first with
  | nil =>
      obtain rfl := Option.some.inj (before.symm.trans after)
      exact Nat.le_refl _
  | cons input rest inductionHypothesis =>
      obtain ⟨middle, stored⟩ := filled.tail.here
      have later := inductionHypothesis raises.2 filled.tail stored after
      rcases raises.1 first middle before stored with rfl | raised
      · exact later
      · omega

/-- A record whose version is found again was not changed in between. -/
theorem unchanged_of_same_version (raises : Along step (Raises step cell version) start inputs)
    (filled : Throughout step (Filled cell) start inputs) (before : cell start = some first)
    (after : cell (run step start inputs) = some last) (same : version last = version first) :
    Throughout step (fun state => cell state = some first) start inputs := by
  induction inputs generalizing start with
  | nil => exact throughout_nil before
  | cons input rest inductionHypothesis =>
      obtain ⟨middle, stored⟩ := filled.tail.here
      have later := version_le_run raises.2 filled.tail stored after
      rcases raises.1 first middle before stored with rfl | raised
      · exact .cons before (inductionHypothesis raises.2 filled.tail stored after)
      · omega

end Kit

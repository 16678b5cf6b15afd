import Mathlib.Logic.Function.Iterate
import LumenFlow.Kit.Run

/-!
# Histories

A run notes entries as it goes along: each input may add some, depending on the
state in which it arrives.  An invariant may then speak about a state together
with the entries noted so far, which is how a statement about all that a run
has done is proved by looking at one input at a time.
-/

namespace Kit

variable {State Input Entry : Type}

/-- What the inputs of a run note, in order. -/
def history (step : State → Input → State) (note : State → Input → List Entry) :
    State → List Input → List Entry
  | _, [] => []
  | state, input :: rest => note state input ++ history step note (step state input) rest

section History

variable {step : State → Input → State} {note : State → Input → List Entry} {start : State}
  {condition : State → Input → Prop}

@[simp]
theorem history_nil (start : State) : history step note start [] = [] := rfl

@[simp]
theorem history_cons (start : State) (input : Input) (rest : List Input) :
    history step note start (input :: rest) =
      note start input ++ history step note (step start input) rest := rfl

theorem history_append (start : State) (first second : List Input) :
    history step note start (first ++ second) =
      history step note start first ++ history step note (run step start first) second := by
  induction first generalizing start with
  | nil => rfl
  | cons input rest inductionHypothesis =>
      simp only [List.cons_append, history_cons, run_cons, inductionHypothesis, List.append_assoc]

theorem mem_history_iff {entry : Entry} {inputs : List Input} :
    entry ∈ history step note start inputs ↔
      ∃ before input after, inputs = before ++ input :: after ∧
        entry ∈ note (run step start before) input := by
  induction inputs generalizing start with
  | nil => simp
  | cons head rest inductionHypothesis =>
      rw [history_cons, List.mem_append, inductionHypothesis]
      constructor
      · rintro (now | ⟨before, input, after, rfl, later⟩)
        · exact ⟨[], head, rest, rfl, now⟩
        · exact ⟨head :: before, input, after, rfl, later⟩
      · rintro ⟨before, input, after, split, noted⟩
        cases before with
        | nil =>
            obtain ⟨rfl, rfl⟩ := List.cons.inj split
            exact .inl noted
        | cons first before =>
            obtain ⟨rfl, rfl⟩ := List.cons.inj split
            exact .inr ⟨before, input, after, rfl, noted⟩

theorem history_eq_nil_iff {inputs : List Input} :
    history step note start inputs = [] ↔
      Along step (fun state input => note state input = []) start inputs := by
  induction inputs generalizing start with
  | nil => simp
  | cons head rest inductionHypothesis =>
      rw [history_cons, List.append_eq_nil_iff, inductionHypothesis, along_cons]

/-- An invariant of the state and of what was noted so far, kept by every admitted
input, holds after every admitted run. -/
theorem history_invariant_along {invariant : State → List Entry → Prop}
    (kept : ∀ state past input, invariant state past → condition state input →
      invariant (step state input) (past ++ note state input))
    (initial : invariant start []) {inputs : List Input}
    (along : Along step condition start inputs) :
    invariant (run step start inputs) (history step note start inputs) := by
  suffices general : ∀ past, invariant start past →
      invariant (run step start inputs) (past ++ history step note start inputs) by
    simpa using general [] initial
  clear initial
  induction inputs generalizing start with
  | nil => exact fun past now => by simpa using now
  | cons input rest inductionHypothesis =>
      intro past now
      have later := inductionHypothesis along.2 _ (kept start past input now along.1)
      rwa [List.append_assoc] at later

theorem history_invariant {invariant : State → List Entry → Prop}
    (kept : ∀ state past input, invariant state past →
      invariant (step state input) (past ++ note state input))
    (initial : invariant start []) (inputs : List Input) :
    invariant (run step start inputs) (history step note start inputs) := by
  have everywhere : Along step (fun _ _ => True) start inputs :=
    (along_iff_split start inputs).mpr fun _ _ _ _ => trivial
  exact history_invariant_along (fun state past input now _ => kept state past input now) initial
    everywhere

end History

section Issues

variable {Counter : Type} {step : State → Input → State} {note : State → Input → List Entry}
  {counter : State → Counter} {label : Counter → Entry} {bump : Counter → Counter}

/-- A machine issues labels by a counter: an input notes nothing and leaves the
counter alone, or it notes the label of the counter and bumps it. -/
def Issues (step : State → Input → State) (note : State → Input → List Entry)
    (counter : State → Counter) (label : Counter → Entry) (bump : Counter → Counter) : Prop :=
  ∀ state input,
    (note state input = [] ∧ counter (step state input) = counter state) ∨
      (note state input = [label (counter state)] ∧
        counter (step state input) = bump (counter state))

/-- The labels come in the order of the counter, none left out and none repeated. -/
theorem Issues.history_eq (issues : Issues step note counter label bump) (start : State)
    (inputs : List Input) :
    history step note start inputs =
      (List.range (history step note start inputs).length).map fun index =>
        label (bump^[index] (counter start)) := by
  let Numbered (state : State) (past : List Entry) : Prop :=
    past = (List.range past.length).map (fun index => label (bump^[index] (counter start))) ∧
      counter state = bump^[past.length] (counter start)
  have numbered : Numbered (run step start inputs) (history step note start inputs) := by
    refine history_invariant ?_ ⟨rfl, rfl⟩ inputs
    rintro state past input ⟨labels, count⟩
    rcases issues state input with ⟨silent, same⟩ | ⟨noted, bumped⟩
    · rw [silent, List.append_nil]
      exact ⟨labels, same.trans count⟩
    · rw [noted]
      refine ⟨?_, ?_⟩
      · rw [List.length_append, List.length_singleton, List.range_succ, List.map_append, ← labels,
          count]
        rfl
      · rw [bumped, count, List.length_append, List.length_singleton,
          Function.iterate_succ_apply']
  exact numbered.1

end Issues

section Registers

variable {Value : Type} {step : State → Input → State} {note : State → Input → List Entry}
  {view : State → Value} {render : Entry → Value}

/-- What an input notes last is shown by the view; an input that notes nothing leaves the
view alone. -/
def Registers (step : State → Input → State) (note : State → Input → List Entry)
    (view : State → Value) (render : Entry → Value) : Prop :=
  ∀ state input,
    view (step state input) = ((note state input).getLast?.map render).getD (view state)

/-- After a run the view shows the last entry of the history. -/
theorem Registers.view_run (registers : Registers step note view render) (start : State)
    (inputs : List Input) :
    view (run step start inputs) =
      ((history step note start inputs).getLast?.map render).getD (view start) := by
  let Shown (state : State) (past : List Entry) : Prop :=
    view state = (past.getLast?.map render).getD (view start)
  have stepwise : ∀ state past input, Shown state past →
      Shown (step state input) (past ++ note state input) := by
    intro state past input shown
    change view (step state input) = _
    rw [registers state input, List.getLast?_append]
    cases (note state input).getLast? with
    | none => exact shown
    | some entry => rfl
  exact history_invariant stepwise (rfl : Shown start []) inputs

end Registers

end Kit

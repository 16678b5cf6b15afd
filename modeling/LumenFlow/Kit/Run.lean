import Mathlib.Data.List.Basic

/-!
# Runs of a state machine

A machine is a total step function: an input that the machine refuses leaves
its state as it was.  A run folds the step over a list of inputs.  `Along`
says that each input of a run meets a condition in the state in which it
arrives, which is how a theorem restricts the runs it is about.
-/

namespace Kit

variable {State Input : Type}

/-- The state after a list of inputs. -/
def run (step : State → Input → State) (start : State) (inputs : List Input) : State :=
  inputs.foldl step start

/-- Each input meets the condition in the state in which it arrives. -/
def Along (step : State → Input → State) (condition : State → Input → Prop) :
    State → List Input → Prop
  | _, [] => True
  | state, input :: rest =>
      condition state input ∧ Along step condition (step state input) rest

/-- Every state of a run, its two ends included, has a property. -/
def Throughout (step : State → Input → State) (property : State → Prop) (start : State)
    (inputs : List Input) : Prop :=
  ∀ before after, inputs = before ++ after → property (run step start before)

section Run

variable {step : State → Input → State} {condition weaker : State → Input → Prop}

@[simp]
theorem run_nil (start : State) : run step start [] = start := rfl

@[simp]
theorem run_cons (start : State) (input : Input) (rest : List Input) :
    run step start (input :: rest) = run step (step start input) rest := rfl

theorem run_append (start : State) (first second : List Input) :
    run step start (first ++ second) = run step (run step start first) second :=
  List.foldl_append ..

@[simp]
theorem along_nil (start : State) : Along step condition start [] := trivial

@[simp]
theorem along_cons (start : State) (input : Input) (rest : List Input) :
    Along step condition start (input :: rest) ↔
      condition start input ∧ Along step condition (step start input) rest := Iff.rfl

theorem along_append (start : State) (first second : List Input) :
    Along step condition start (first ++ second) ↔
      Along step condition start first ∧
        Along step condition (run step start first) second := by
  induction first generalizing start with
  | nil => simp
  | cons input rest inductionHypothesis =>
      simp only [List.cons_append, along_cons, run_cons, inductionHypothesis, and_assoc]

theorem Along.during {start : State} {before during after : List Input}
    (along : Along step condition start (before ++ (during ++ after))) :
    Along step condition (run step start before) during :=
  ((along_append _ during after).mp ((along_append start before _).mp along).2).1

instance decidableAlong [∀ state input, Decidable (condition state input)] (start : State) :
    ∀ inputs : List Input, Decidable (Along step condition start inputs)
  | [] => .isTrue trivial
  | input :: rest =>
      have : Decidable (Along step condition (step start input) rest) := decidableAlong _ rest
      inferInstanceAs (Decidable (_ ∧ _))

theorem along_iff_split (start : State) (inputs : List Input) :
    Along step condition start inputs ↔
      ∀ before input after, inputs = before ++ input :: after →
        condition (run step start before) input := by
  induction inputs generalizing start with
  | nil => simp
  | cons head rest inductionHypothesis =>
      rw [along_cons, inductionHypothesis]
      constructor
      · rintro ⟨now, later⟩ before input after split
        cases before with
        | nil =>
            obtain ⟨rfl, rfl⟩ := List.cons.inj split
            exact now
        | cons first before =>
            obtain ⟨rfl, rest_split⟩ := List.cons.inj split
            exact later before input after rest_split
      · intro every
        refine ⟨every [] head rest rfl, ?_⟩
        intro before input after split
        exact every (head :: before) input after (by rw [split, List.cons_append])

section Throughout

variable {property : State → Prop} {start : State} {input : Input} {inputs : List Input}

theorem Throughout.here (throughout : Throughout step property start inputs) : property start :=
  throughout [] inputs rfl

theorem Throughout.tail (throughout : Throughout step property start (input :: inputs)) :
    Throughout step property (step start input) inputs :=
  fun before after split => throughout (input :: before) after (by rw [split, List.cons_append])

theorem Throughout.after_input {before after : List Input}
    (throughout : Throughout step property start inputs)
    (split : inputs = before ++ input :: after) :
    property (step (run step start before) input) := by
  have later := throughout (before ++ [input]) after (by simp [split])
  rwa [run_append] at later

theorem Throughout.cons (now : property start)
    (later : Throughout step property (step start input) inputs) :
    Throughout step property start (input :: inputs) := by
  intro before after split
  cases before with
  | nil => exact now
  | cons head rest =>
      obtain ⟨rfl, ends⟩ := List.cons.inj split
      exact later rest after ends

theorem throughout_nil (now : property start) : Throughout step property start [] := by
  intro before after split
  obtain ⟨rfl, _⟩ := List.append_eq_nil_iff.mp split.symm
  exact now

theorem throughout_single (now : property start) (next : property (step start input)) :
    Throughout step property start [input] :=
  .cons now (throughout_nil next)

theorem throughout_cons_iff : Throughout step property start (input :: inputs) ↔
    property start ∧ Throughout step property (step start input) inputs :=
  ⟨fun throughout => ⟨throughout.here, throughout.tail⟩, fun ⟨now, later⟩ => .cons now later⟩

instance decidableThroughout [DecidablePred property] (start : State) :
    ∀ inputs : List Input, Decidable (Throughout step property start inputs)
  | [] => decidable_of_iff (property start) ⟨throughout_nil, Throughout.here⟩
  | input :: rest =>
      have : Decidable (Throughout step property (step start input) rest) :=
        decidableThroughout _ rest
      decidable_of_iff _ throughout_cons_iff.symm

/-- A run that starts with a property keeps it, or there is a first input that ends it. -/
theorem throughout_or_exit (step : State → Input → State) (property : State → Prop) {start : State}
    (inputs : List Input) (now : property start) :
    Throughout step property start inputs ∨
      ∃ during input after, inputs = during ++ input :: after ∧
        Throughout step property start during ∧
        ¬ property (step (run step start during) input) := by
  induction inputs generalizing start with
  | nil => exact .inl (throughout_nil now)
  | cons head rest inductionHypothesis =>
      by_cases next : property (step start head)
      · rcases inductionHypothesis next with later | ⟨during, input, after, split, held, ends⟩
        · exact .inl (.cons now later)
        · exact .inr ⟨head :: during, input, after, by rw [split, List.cons_append],
            .cons now held, ends⟩
      · exact .inr ⟨[], head, rest, rfl, throughout_nil now, next⟩

theorem Throughout.along (throughout : Throughout step property start inputs) :
    Along step (fun state input => property state ∧ property (step state input)) start inputs := by
  rw [along_iff_split]
  intro before input after split
  exact ⟨throughout before (input :: after) split, throughout.after_input split⟩

end Throughout

/-- In a run no input meets a condition, or there is a last one that does. -/
theorem last_split (step : State → Input → State) (condition : State → Input → Prop)
    (start : State) (inputs : List Input) :
    Along step (fun state input => ¬ condition state input) start inputs ∨
      ∃ before input after, inputs = before ++ input :: after ∧
        condition (run step start before) input ∧
        Along step (fun state input => ¬ condition state input)
          (step (run step start before) input) after := by
  induction inputs generalizing start with
  | nil => exact .inl trivial
  | cons head rest inductionHypothesis =>
      rcases inductionHypothesis (step start head) with
        none | ⟨before, input, after, split, met, rest⟩
      · by_cases here : condition start head
        · exact .inr ⟨[], head, rest, rfl, here, none⟩
        · exact .inl ⟨here, none⟩
      · exact .inr ⟨head :: before, input, after, by rw [split, List.cons_append], met, rest⟩

theorem along_of_forall (every : ∀ state input, condition state input) (start : State)
    (inputs : List Input) : Along step condition start inputs := by
  induction inputs generalizing start with
  | nil => trivial
  | cons input rest inductionHypothesis => exact ⟨every start input, inductionHypothesis _⟩

theorem along_mono {start : State} {inputs : List Input}
    (implies : ∀ state input, condition state input → weaker state input)
    (along : Along step condition start inputs) : Along step weaker start inputs := by
  induction inputs generalizing start with
  | nil => trivial
  | cons input rest inductionHypothesis =>
      exact ⟨implies _ _ along.1, inductionHypothesis along.2⟩

theorem along_and (start : State) (inputs : List Input) :
    Along step (fun state input => condition state input ∧ weaker state input) start inputs ↔
      Along step condition start inputs ∧ Along step weaker start inputs := by
  induction inputs generalizing start with
  | nil => simp
  | cons input rest inductionHypothesis =>
      simp only [along_cons, inductionHypothesis]
      exact and_and_and_comm

/-- An invariant that every admitted input keeps holds after every admitted run. -/
theorem run_invariant_along {invariant : State → Prop}
    (kept : ∀ state input, invariant state → condition state input →
      invariant (step state input))
    {start : State} {inputs : List Input} (initial : invariant start)
    (along : Along step condition start inputs) : invariant (run step start inputs) := by
  induction inputs generalizing start with
  | nil => exact initial
  | cons input rest inductionHypothesis =>
      exact inductionHypothesis (kept start input initial along.1) along.2

theorem throughout_of_along {invariant : State → Prop}
    (kept : ∀ state input, invariant state → condition state input →
      invariant (step state input))
    {start : State} {inputs : List Input} (initial : invariant start)
    (along : Along step condition start inputs) : Throughout step invariant start inputs := by
  intro before after split
  subst split
  exact run_invariant_along kept initial ((along_append start before after).mp along).1

/-- A property that an input keeps exactly if it meets a condition holds throughout a run
exactly if each input meets the condition.  The equivalence may rest on an invariant of the
runs that meet it, and on what the inputs are admitted for. -/
theorem throughout_iff_along {property invariant : State → Prop}
    {admitted : State → Input → Prop}
    (exactly : ∀ state input, invariant state → property state → admitted state input →
      (property (step state input) ↔ condition state input))
    (kept : ∀ state input, invariant state → property state → admitted state input →
      condition state input → invariant (step state input))
    {start : State} {inputs : List Input} (initial : invariant start) (now : property start)
    (admission : Along step admitted start inputs) :
    Throughout step property start inputs ↔ Along step condition start inputs := by
  induction inputs generalizing start with
  | nil => exact ⟨fun _ => trivial, fun _ => throughout_nil now⟩
  | cons input rest inductionHypothesis =>
      obtain ⟨here, later⟩ := admission
      have turn := exactly start input initial now here
      constructor
      · intro throughout
        have met := turn.mp throughout.tail.here
        exact ⟨met, (inductionHypothesis (kept start input initial now here met)
          throughout.tail.here later).mp throughout.tail⟩
      · rintro ⟨met, along⟩
        have next := turn.mpr met
        exact .cons now ((inductionHypothesis (kept start input initial now here met) next
          later).mpr along)

theorem run_invariant {invariant : State → Prop}
    (kept : ∀ state input, invariant state → invariant (step state input))
    {start : State} (initial : invariant start) (inputs : List Input) :
    invariant (run step start inputs) := by
  induction inputs generalizing start with
  | nil => exact initial
  | cons input rest inductionHypothesis =>
      exact inductionHypothesis (kept start input initial)

end Run

end Kit

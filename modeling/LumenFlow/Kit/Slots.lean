import Mathlib.Data.List.Induction
import LumenFlow.Kit.History

/-!
# Entries that take a slot

A machine notes an entry only while the slot of the entry is free, and the entry takes
the slot.  Such an entry is noted twice only after an input has freed its slot.
-/

namespace Kit

variable {State Input Entry : Type}

/-- An input notes distinct entries whose slots are free, and takes these slots. -/
structure TakesSlots (step : State → Input → State) (note : State → Input → List Entry)
    (taken : Entry → State → Prop) : Prop where
  distinct : ∀ state input, (note state input).Nodup
  free : ∀ state input, ∀ entry ∈ note state input, ¬ taken entry state
  takes : ∀ state input, ∀ entry ∈ note state input, taken entry (step state input)

/-- The run has noted the entry and has freed its slot since. -/
def Freed (step : State → Input → State) (note : State → Input → List Entry)
    (taken : Entry → State → Prop) (start : State) (inputs : List Input) (entry : Entry) : Prop :=
  ∃ before input after, inputs = before ++ input :: after ∧
    entry ∈ history step note start before ∧
    taken entry (run step start before) ∧ ¬ taken entry (step (run step start before) input)

variable {step : State → Input → State} {note : State → Input → List Entry}
  {taken : Entry → State → Prop} {start : State} {inputs : List Input} {entry : Entry}

theorem Freed.append (freed : Freed step note taken start inputs entry) (rest : List Input) :
    Freed step note taken start (inputs ++ rest) entry := by
  obtain ⟨before, input, after, rfl, noted⟩ := freed
  exact ⟨before, input, after ++ rest, by simp, noted⟩

theorem TakesSlots.freed (takes : TakesSlots step note taken)
    (noted : entry ∈ history step note start inputs)
    (vacant : ¬ taken entry (run step start inputs)) :
    Freed step note taken start inputs entry := by
  induction inputs using List.reverseRecOn with
  | nil => simp at noted
  | append_singleton rest input inductionHypothesis =>
      rw [run_append] at vacant
      rw [history_append, List.mem_append] at noted
      rcases noted with earlier | now
      · by_cases held : taken entry (run step start rest)
        · exact ⟨rest, input, [], rfl, earlier, held, vacant⟩
        · exact (inductionHypothesis earlier held).append [input]
      · rw [history_cons, history_nil, List.append_nil] at now
        exact absurd (takes.takes _ input entry now) vacant

/-- No entry is noted twice exactly if none is noted after its slot was freed. -/
theorem TakesSlots.nodup_iff (takes : TakesSlots step note taken) (start : State)
    (inputs : List Input) :
    (history step note start inputs).Nodup ↔
      ∀ before input after, inputs = before ++ input :: after →
        ∀ entry ∈ note (run step start before) input,
          ¬ Freed step note taken start before entry := by
  constructor
  · rintro distinct before input after rfl entry now ⟨earlier, _, later, rfl, noted, _⟩
    rw [history_append, history_cons, history_append, List.append_assoc] at distinct
    have apart := (List.nodup_append.mp distinct).2.2
    exact apart entry noted entry (by simp [now]) rfl
  · intro unfreed
    induction inputs using List.reverseRecOn with
    | nil => simp
    | append_singleton rest input inductionHypothesis =>
        rw [history_append, history_cons, history_nil, List.append_nil]
        refine List.nodup_append.mpr ⟨?_, takes.distinct _ input, ?_⟩
        · refine inductionHypothesis fun before other after split => ?_
          exact unfreed before other (after ++ [input]) (by rw [split]; simp)
        · rintro entry earlier _ now rfl
          have vacant := takes.free _ input entry now
          exact unfreed rest input [] rfl entry now (takes.freed earlier vacant)

end Kit

import Mathlib.Data.List.Forall2

/-!
# Threading a state through a list

Each item is worked on in the state that those before it have left, and the whole fails when one
of them does.
-/

namespace Kit

variable {State Item Other Result : Type}

def threaded (work : State → Item → Option (State × Result)) :
    State → List Item → Option (State × List Result)
  | state, [] => some (state, [])
  | state, item :: rest =>
      match work state item with
      | none => none
      | some (next, result) =>
          match threaded work next rest with
          | none => none
          | some (last, results) => some (last, result :: results)

section Threading

variable {work : State → Item → Option (State × Result)} {state last : State} {item : Item}
  {rest items : List Item} {results : List Result}

theorem threaded_cons_eq_some : threaded work state (item :: rest) = some (last, results) ↔
    ∃ next result later, work state item = some (next, result) ∧
      threaded work next rest = some (last, later) ∧ results = result :: later := by
  constructor
  · intro worked
    simp only [threaded] at worked
    split at worked
    · cases worked
    · next next result first =>
        split at worked
        · cases worked
        · next ends later second =>
            obtain ⟨rfl, rfl⟩ := Prod.mk.inj (Option.some.inj worked)
            exact ⟨next, result, later, first, second, rfl⟩
  · rintro ⟨next, result, later, first, second, rfl⟩
    simp only [threaded, first, second]

/-- A condition that lets every item be worked on, and that holds again afterwards, lets all of them
be worked on. -/
theorem threaded_total {ready : State → Prop}
    (works : ∀ state item, ready state →
      ∃ next result, work state item = some (next, result) ∧ ready next)
    (start : ready state) (items : List Item) :
    ∃ last results, threaded work state items = some (last, results) ∧ ready last := by
  induction items generalizing state with
  | nil => exact ⟨state, [], rfl, start⟩
  | cons item rest inductionHypothesis =>
      obtain ⟨next, result, first, goesOn⟩ := works state item start
      obtain ⟨last, results, second, ends⟩ := inductionHypothesis goesOn
      exact ⟨last, result :: results, threaded_cons_eq_some.mpr
        ⟨next, result, results, first, second, rfl⟩, ends⟩

theorem threaded_all {property : Item → Result → Prop}
    (single : ∀ state item next result, work state item = some (next, result) →
      property item result)
    (worked : threaded work state items = some (last, results)) :
    List.Forall₂ property items results := by
  induction items generalizing state results with
  | nil =>
      obtain ⟨rfl, rfl⟩ := Prod.mk.inj (Option.some.inj worked)
      exact .nil
  | cons item rest inductionHypothesis =>
      obtain ⟨next, result, later, first, second, rfl⟩ := threaded_cons_eq_some.mp worked
      exact .cons (single _ _ _ _ first) (inductionHypothesis second)

theorem threaded_congr {alike : Item → Other → Prop} {others : List Other}
    {second : State → Other → Option (State × Result)}
    (agree : ∀ state item other, alike item other → work state item = second state other)
    (related : List.Forall₂ alike items others) (state : State) :
    threaded work state items = threaded second state others := by
  induction related generalizing state with
  | nil => rfl
  | cons head tail inductionHypothesis =>
      simp only [threaded, agree state _ _ head, inductionHypothesis]

end Threading

end Kit

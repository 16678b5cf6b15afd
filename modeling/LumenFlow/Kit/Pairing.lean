import Mathlib.Data.List.Forall2

/-!
# Lists related entry by entry

What a machine has done for a list of requests is a list of results, each related to its request.
The relation may change with the state of the machine.
-/

namespace Kit

variable {α β γ : Type} {related after : α → β → Prop} {left : List α} {right : List β}

theorem exists_of_forall₂ (all : List.Forall₂ related left right) {first : α}
    (member : first ∈ left) : ∃ second, related first second := by
  induction all with
  | nil => cases member
  | cons head tail inductionHypothesis =>
      rcases List.mem_cons.mp member with rfl | later
      · exact ⟨_, head⟩
      · exact inductionHypothesis later

theorem forall₂_set {index : Nat} {old new : β} (all : List.Forall₂ related left right)
    (found : right[index]? = some old)
    (kept : ∀ first second, related first second → after first second)
    (turn : ∀ first, related first old → after first new) :
    List.Forall₂ after left (right.set index new) := by
  induction all generalizing index with
  | nil => exact .nil
  | cons head tail inductionHypothesis =>
      cases index with
      | zero =>
          obtain rfl := Option.some.inj found
          exact .cons (turn _ head) (tail.imp kept)
      | succ index => exact .cons (kept _ _ head) (inductionHypothesis found)

/-- Results of results are related to the requests. -/
theorem forall₂_trans {next : β → γ → Prop} {whole : α → γ → Prop}
    (compose : ∀ first second third, related first second → next second third →
      whole first third)
    {last : List γ} (before : List.Forall₂ related left right)
    (later : List.Forall₂ next right last) : List.Forall₂ whole left last := by
  induction before generalizing last with
  | nil =>
      cases later
      exact .nil
  | cons head tail inductionHypothesis =>
      cases later with
      | cons here rest => exact .cons (compose _ _ _ head here) (inductionHypothesis rest)

end Kit

import Mathlib.Algebra.Ring.Nat
import Mathlib.Data.List.Basic

/-!
# Fields between separators

A text of fields is read back by splitting it at the separators.  This gives the fields if none of
them contains the separator, and more fields than were written otherwise.  A last field without the
separator can be split off whatever stands before it.
-/

namespace Kit

variable {Item : Type} [BEq Item]

theorem length_splitOn (separator : Item) (text : List Item) :
    (text.splitOn separator).length = text.count separator + 1 := by
  induction text with
  | nil => rfl
  | cons head tail inductionHypothesis =>
      rw [List.splitOn_cons_eq_if_modifyHead, List.count_cons]
      split
      · rw [List.length_cons, inductionHypothesis]
      · rw [List.length_modifyHead, inductionHypothesis, Nat.add_zero]

variable [LawfulBEq Item] {separator : Item}

theorem count_intercalate (first : List Item) (fields : List (List Item)) :
    ([separator].intercalate (first :: fields)).count separator =
      ((first :: fields).map (List.count separator)).sum + fields.length := by
  induction fields generalizing first with
  | nil =>
      rw [List.intercalate_singleton]
      rfl
  | cons second rest inductionHypothesis =>
      rw [List.intercalate_cons_cons, List.count_append, List.count_append, inductionHypothesis]
      simp only [List.count_cons_self, List.count_nil, List.map_cons, List.sum_cons,
        List.length_cons]
      omega

theorem notMem_of_mem_splitOn {text field : List Item} (member : field ∈ text.splitOn separator) :
    separator ∉ field := by
  induction text generalizing field with
  | nil =>
      rw [List.mem_singleton.mp member]
      exact List.not_mem_nil
  | cons head tail inductionHypothesis =>
      rw [List.splitOn_cons_eq_if_modifyHead] at member
      split at member
      · rcases List.mem_cons.mp member with rfl | later
        · exact List.not_mem_nil
        · exact inductionHypothesis later
      · next distinct =>
          obtain ⟨first, rest, split⟩ :=
            List.exists_cons_of_ne_nil (List.splitOn_ne_nil separator tail)
          rw [split, List.modifyHead_cons] at member
          rcases List.mem_cons.mp member with rfl | later
          · rw [List.mem_cons, not_or]
            exact ⟨fun same => distinct (beq_iff_eq.mpr same.symm),
              inductionHypothesis (by rw [split]; exact List.mem_cons_self)⟩
          · exact inductionHypothesis (by rw [split]; exact List.mem_cons_of_mem _ later)

/-- A last field without separators is determined, and so is what stands before it. -/
theorem append_field_cancel {before before' last last' : List Item}
    (plain : separator ∉ last) (plain' : separator ∉ last')
    (same : before ++ separator :: last = before' ++ separator :: last') :
    before = before' ∧ last = last' := by
  have split : before.splitOn separator ++ [last] = before'.splitOn separator ++ [last'] := by
    rw [← List.splitOn_eq_singleton plain, ← List.splitOn_eq_singleton plain',
      ← List.splitOn_append_cons_self, ← List.splitOn_append_cons_self, same]
  obtain ⟨front, back⟩ := List.append_inj' split rfl
  refine ⟨?_, List.singleton_inj.mp back⟩
  calc before = [separator].intercalate (before.splitOn separator) :=
        (List.intercalate_splitOn separator).symm
    _ = [separator].intercalate (before'.splitOn separator) := by rw [front]
    _ = before' := List.intercalate_splitOn separator

omit [BEq Item] [LawfulBEq Item] in
theorem append_field_ne {before front last after : List Item} {mark : Item}
    (distinct : mark ≠ separator) (unmarked : mark ∉ last) (plain : separator ∉ after) :
    front ++ separator :: last ≠ before ++ mark :: after := by
  intro same
  rcases List.append_eq_append_iff.mp same with ⟨between, _, split⟩ | ⟨between, _, split⟩
  · have member : mark ∈ separator :: last := by simp [split]
    rcases List.mem_cons.mp member with equal | inside
    · exact distinct equal
    · exact unmarked inside
  · have member : separator ∈ mark :: after := by simp [split]
    rcases List.mem_cons.mp member with equal | inside
    · exact distinct equal.symm
    · exact plain inside

end Kit

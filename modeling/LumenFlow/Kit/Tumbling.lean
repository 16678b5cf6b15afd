import Mathlib.Data.List.Induction
import Mathlib.Tactic.Common

/-!
# Counters over tumbling windows

A counter keeps a number of events and the time of the first of them.  An event counts
with the others until the window that began with the first one is over, and otherwise
begins a window of its own.  Such a counter never counts more events than some window
of its width holds.  It counts fewer when the window begins anew in their midst.
-/

namespace Kit.Tumbling

/-- The number of events in the current window and the time of the first one.  At time zero
there is no window. -/
structure Counter where
  count : Nat
  start : Nat
  deriving DecidableEq

/-- An event at this time begins a window. -/
def Counter.Fresh (width : Nat) (counter : Counter) (now : Nat) : Prop :=
  counter.start = 0 ∨ counter.start + width ≤ now

instance (width : Nat) (counter : Counter) (now : Nat) : Decidable (counter.Fresh width now) :=
  inferInstanceAs (Decidable (_ ∨ _))

/-- Count an event. -/
def Counter.bump (width : Nat) (counter : Counter) (now : Nat) : Counter :=
  if counter.Fresh width now then ⟨1, now⟩ else ⟨counter.count + 1, counter.start⟩

/-- The counter after events at these times. -/
def tally (width : Nat) (times : List Nat) : Counter :=
  times.foldl (Counter.bump width) ⟨0, 0⟩

/-- None of the last events begins a window. -/
def Unbroken (width last : Nat) (times : List Nat) : Prop :=
  ∀ before now after, times = before ++ now :: after → after.length < last →
    ¬ (tally width before).Fresh width now

section Tally

variable {width count last now : Nat} {times : List Nat}

@[simp]
theorem tally_nil : tally width [] = ⟨0, 0⟩ := rfl

@[simp]
theorem tally_concat : tally width (times ++ [now]) = (tally width times).bump width now := by
  simp [tally]

theorem unbroken_zero : Unbroken width 0 times := by
  intro before now after _ short
  omega

theorem unbroken_concat : Unbroken width (last + 1) (times ++ [now]) ↔
    ¬ (tally width times).Fresh width now ∧ Unbroken width last times := by
  constructor
  · intro unbroken
    apply And.intro (unbroken times now [] rfl (Nat.succ_pos last))
    intro before earlier after split short
    exact unbroken before earlier (after ++ [now]) (by simp [split]) (by simpa using short)
  · rintro ⟨continues, unbroken⟩ before earlier after split short
    rcases List.eq_nil_or_concat after with rfl | ⟨rest, final, rfl⟩
    · obtain ⟨rfl, same⟩ := List.append_inj' split rfl
      rw [← (List.cons.inj same).1]
      exact continues
    · rw [List.concat_eq_append] at split short
      have split : times ++ [now] = (before ++ earlier :: rest) ++ [final] := by simpa using split
      obtain ⟨rfl, _⟩ := List.append_inj' split rfl
      exact unbroken before earlier rest rfl (by simpa using short)

/-- The counter reaches a number exactly if there are as many events and none of the last
ones but the first begins a window. -/
theorem le_count_iff : last + 1 ≤ (tally width times).count ↔
    last + 1 ≤ times.length ∧ Unbroken width last times := by
  induction times using List.reverseRecOn generalizing last with
  | nil => simp
  | append_singleton times now inductionHypothesis =>
      rw [tally_concat, List.length_append, List.length_singleton, Counter.bump]
      cases last with
      | zero =>
          have one : 0 + 1 ≤ (if (tally width times).Fresh width now then (⟨1, now⟩ : Counter)
              else ⟨(tally width times).count + 1, (tally width times).start⟩).count := by
            split <;> simp
          exact iff_of_true one ⟨by omega, unbroken_zero⟩
      | succ last =>
          rw [unbroken_concat]
          by_cases fresh : (tally width times).Fresh width now
          · simp [fresh]
          · rw [if_neg fresh, Nat.succ_le_succ_iff, inductionHypothesis, Nat.succ_le_succ_iff]
            exact and_congr_right fun _ => (and_iff_right fresh).symm

/-- The window begins with an event, and at least as many events as are counted come since. -/
theorem count_le_countP (sorted : times.Pairwise (· ≤ ·)) :
    (times = [] ∨ (tally width times).start ∈ times) ∧
      (tally width times).count ≤ times.countP ((tally width times).start ≤ ·) := by
  induction times using List.reverseRecOn with
  | nil => simp
  | append_singleton times now inductionHypothesis =>
      obtain ⟨ordered, _, latest⟩ := List.pairwise_append.mp sorted
      obtain ⟨begins, counted⟩ := inductionHypothesis ordered
      rw [tally_concat, Counter.bump]
      by_cases fresh : (tally width times).Fresh width now
      · simp [fresh]
      · obtain ⟨started, _⟩ := not_or.mp fresh
        have member : (tally width times).start ∈ times := by
          rcases begins with rfl | member
          · exact absurd rfl started
          · exact member
        have before : (tally width times).start ≤ now := latest _ member now (by simp)
        rw [if_neg fresh, List.countP_append]
        apply And.intro (.inr (List.mem_append_left _ member))
        simpa [before] using counted

theorem count_le_recent (positive : 0 < width) (sorted : (times ++ [now]).Pairwise (· ≤ ·)) :
    (tally width (times ++ [now])).count ≤ (times ++ [now]).countP (now < · + width) := by
  have counted : (tally width (times ++ [now])).count ≤
      (times ++ [now]).countP ((tally width (times ++ [now])).start ≤ ·) :=
    (count_le_countP sorted).2
  have within : now < (tally width (times ++ [now])).start + width := by
    rw [tally_concat, Counter.bump]
    by_cases fresh : (tally width times).Fresh width now
    · simp [fresh, positive]
    · rw [if_neg fresh]
      exact Nat.not_le.mp (not_or.mp fresh).2
  apply Nat.le_trans counted
  apply List.countP_mono_left
  intro time _ since
  simp only [decide_eq_true_eq] at since ⊢
  omega

theorem le_count_iff_of_recent
    (recent : last + 1 ≤ times.countP (now < · + width)) :
    last + 1 ≤ (tally width times).count ↔ Unbroken width last times := by
  have long : last + 1 ≤ times.length := Nat.le_trans recent List.countP_le_length
  rw [le_count_iff, and_iff_right long]

end Tally

end Kit.Tumbling

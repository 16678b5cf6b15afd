import Mathlib.Data.List.Basic
import Mathlib.Logic.Function.Basic

/-!
# A numbered log with a retention limit

Entries are numbered in the order in which they come, and an entry that comes when the
log is full takes the place of the oldest one.  A scan goes from the newest entry back and
stops at the first one before its range, which loses nothing when the keys of the entries
never decrease.
-/

namespace Kit.Retention

variable {Entry : Type}

/-- Write the entry with the next number, after dropping the oldest one of a full log. -/
def append (limit : Nat) (entries : Nat → Option Entry) (count : Nat) (entry : Entry) :
    Nat → Option Entry :=
  Function.update
    (if limit ≤ count then Function.update entries (count - limit) none else entries) count
    (some entry)

/-- Of all entries so far, the newest ones are stored under their numbers, and no others. -/
def Retains (limit : Nat) (past : List Entry) (entries : Nat → Option Entry) : Prop :=
  ∀ index, entries index = if past.length - limit ≤ index then past[index]? else none

/-- The stored entries below a number, from the newest to the oldest. -/
def newest (entries : Nat → Option Entry) : Nat → List Entry
  | 0 => []
  | index + 1 => (entries index).toList ++ newest entries index

/-- From the newest entry back, the entries whose key is in the range, until the limit is
reached or the key of an entry is before the range. -/
def scan (key : Entry → Nat) (entries : Nat → Option Entry) (low high : Nat) :
    Nat → Nat → List Entry
  | 0, _ => []
  | _ + 1, 0 => []
  | index + 1, limit + 1 =>
      match entries index with
      | none => scan key entries low high index (limit + 1)
      | some entry =>
          if key entry < low then
            []
          else if key entry ≤ high then
            entry :: scan key entries low high index limit
          else
            scan key entries low high index (limit + 1)

/-- Higher numbers do not have lower keys. -/
def Ordered (key : Entry → Nat) (entries : Nat → Option Entry) : Prop :=
  ∀ older newer first second, older < newer → entries older = some first →
    entries newer = some second → key first ≤ key second

section Retention

variable {limit count : Nat} {past : List Entry} {entries : Nat → Option Entry} {entry : Entry}
  {key : Entry → Nat} {low high : Nat}

theorem retains_nil : Retains limit ([] : List Entry) fun _ => none := by
  intro index
  simp

theorem Retains.append (retains : Retains limit past entries) (positive : 0 < limit)
    (entry : Entry) :
    Retains limit (past ++ [entry]) (append limit entries past.length entry) := by
  intro index
  rw [List.length_append, List.length_singleton]
  by_cases here : index = past.length
  · subst here
    rw [Retention.append, Function.update_self, if_pos (by omega), List.getElem?_concat_length]
  · have stored : (past ++ [entry])[index]? = past[index]? := by
      by_cases old : index < past.length
      · exact List.getElem?_append_left old
      · rw [List.getElem?_eq_none (by simp; omega), List.getElem?_eq_none (by omega)]
    rw [Retention.append, Function.update_of_ne here, stored]
    by_cases full : limit ≤ past.length
    · rw [if_pos full]
      by_cases oldest : index = past.length - limit
      · rw [oldest, Function.update_self, if_neg (by omega)]
      · rw [Function.update_of_ne oldest, retains index]
        exact if_congr (by omega) rfl rfl
    · rw [if_neg full, retains index]
      exact if_congr (by omega) rfl rfl

theorem Retains.newest_take (retains : Retains limit past entries) (bounded : count ≤ past.length) :
    newest entries count = ((past.take count).drop (past.length - limit)).reverse := by
  induction count with
  | zero => simp [newest]
  | succ index inductionHypothesis =>
      have inside : index < past.length := bounded
      have earlier := inductionHypothesis (Nat.le_of_lt inside)
      rw [newest, earlier, retains index, List.take_succ_eq_append_getElem inside]
      by_cases kept : past.length - limit ≤ index
      · rw [if_pos kept, List.drop_append_of_le_length (by rw [List.length_take]; omega),
          List.getElem?_eq_getElem inside, List.reverse_append]
        rfl
      · rw [if_neg kept, List.drop_eq_nil_of_le (by rw [List.length_take]; omega),
          List.drop_eq_nil_of_le (by simp; omega)]
        rfl

theorem Retains.newest_eq (retains : Retains limit past entries) :
    newest entries past.length = (past.drop (past.length - limit)).reverse := by
  rw [retains.newest_take (Nat.le_refl _), List.take_length]

theorem Retains.ordered (retains : Retains limit past entries)
    (sorted : past.Pairwise fun first second => key first ≤ key second) :
    Ordered key entries := by
  have among : ∀ {index : Nat} {stored : Entry}, entries index = some stored →
      past[index]? = some stored := by
    intro index stored found
    rw [retains index] at found
    split at found
    · exact found
    · simp at found
  intro older newer first second before foundFirst foundSecond
  obtain ⟨olderInside, rfl⟩ := List.getElem?_eq_some_iff.mp (among foundFirst)
  obtain ⟨newerInside, rfl⟩ := List.getElem?_eq_some_iff.mp (among foundSecond)
  exact List.pairwise_iff_getElem.mp sorted older newer olderInside newerInside before

theorem mem_newest (member : entry ∈ newest entries count) :
    ∃ index, index < count ∧ entries index = some entry := by
  induction count with
  | zero => simp [newest] at member
  | succ top inductionHypothesis =>
      rcases List.mem_append.mp member with here | earlier
      · exact ⟨top, Nat.lt_succ_self top, Option.mem_toList.mp here⟩
      · obtain ⟨index, below, found⟩ := inductionHypothesis earlier
        exact ⟨index, Nat.lt_succ_of_lt below, found⟩

/-- The scan finds the newest entries of its range, up to the limit. -/
theorem scan_eq (ordered : Ordered key entries) (low high count limit : Nat) :
    scan key entries low high count limit =
      ((newest entries count).filter fun entry => low ≤ key entry ∧ key entry ≤ high).take
        limit := by
  induction count generalizing limit with
  | zero => simp [scan, newest]
  | succ top inductionHypothesis =>
      cases limit with
      | zero => simp [scan]
      | succ limit =>
          rw [scan, newest]
          cases found : entries top with
          | none => exact inductionHypothesis (limit + 1)
          | some entry =>
              simp only [Option.toList_some, List.singleton_append, List.filter_cons]
              by_cases before : key entry < low
              · -- every older entry is before the range, too
                have none : (newest entries top).filter
                    (fun entry => low ≤ key entry ∧ key entry ≤ high) = [] := by
                  rw [List.filter_eq_nil_iff]
                  intro older member
                  obtain ⟨index, below, stored⟩ := mem_newest member
                  have keys := ordered index top older entry below stored found
                  simp
                  omega
                rw [if_pos before, if_neg (by simp; omega), none, List.take_nil]
              · rw [if_neg before]
                by_cases inside : key entry ≤ high
                · have within : low ≤ key entry ∧ key entry ≤ high := ⟨by omega, inside⟩
                  simp [inside, within, inductionHypothesis]
                · simp [inside, inductionHypothesis]

end Retention

end Kit.Retention

import Mathlib.Data.List.Sort
import Mathlib.Logic.Equiv.Basic
import LumenFlow.Kit.Paging

/-!
# Sorted lists with ties

A list that is sorted by a rank may have the items of one rank in any order.  What stands at a
position is certain only where no other item has the same rank, and so is what a page shows.
-/

namespace Kit

variable {Item Rank Key : Type} [LinearOrder Rank] {rank : Item → Rank}
  {items list first second : List Item} {item : Item}

/-- The list has the items in an order of their ranks. -/
structure Arranges (rank : Item → Rank) (items list : List Item) : Prop where
  perm : list.Perm items
  sorted : list.Pairwise fun first second => rank first ≤ rank second

/-- No other item has the rank of the item. -/
def Alone (rank : Item → Rank) (items : List Item) (item : Item) : Prop :=
  ∀ other ∈ items, rank other = rank item → other = item

namespace Arranges

section Positions

theorem countP_lt_le (sorted : list.Pairwise fun first second => rank first ≤ rank second)
    {index : Nat} (found : list[index]? = some item) :
    list.countP (fun other => rank other < rank item) ≤ index := by
  induction list generalizing index with
  | nil => cases found
  | cons head rest inductionHypothesis =>
      obtain ⟨least, restSorted⟩ := List.pairwise_cons.mp sorted
      cases index with
      | zero =>
          obtain rfl := Option.some.inj found
          rw [List.countP_eq_zero.mpr]
          intro other member
          rcases List.mem_cons.mp member with rfl | later
          · simp
          · simpa using least other later
      | succ index =>
          have below := inductionHypothesis restSorted found
          rw [List.countP_cons]
          split <;> omega

theorem lt_countP_le (sorted : list.Pairwise fun first second => rank first ≤ rank second)
    {index : Nat} (found : list[index]? = some item) :
    index < list.countP (fun other => rank other ≤ rank item) := by
  induction list generalizing index with
  | nil => cases found
  | cons head rest inductionHypothesis =>
      obtain ⟨least, restSorted⟩ := List.pairwise_cons.mp sorted
      cases index with
      | zero =>
          obtain rfl := Option.some.inj found
          rw [List.countP_cons_of_pos (by simp)]
          exact Nat.succ_pos _
      | succ index =>
          have above := inductionHypothesis restSorted found
          have here : rank head ≤ rank item := least item (List.mem_of_getElem? found)
          rw [List.countP_cons_of_pos (by simpa using here)]
          omega

theorem rank_le (one : Arranges rank items first) (other : Arranges rank items second)
    {index : Nat} {opposite : Item} (found : first[index]? = some item)
    (there : second[index]? = some opposite) : rank item ≤ rank opposite := by
  by_contra less
  have upper := countP_lt_le one.sorted found
  have lower := lt_countP_le other.sorted there
  have within : second.countP (fun other => rank other ≤ rank opposite) ≤
      second.countP (fun other => rank other < rank item) := by
    refine List.countP_mono_left fun other _ least => ?_
    simp only [decide_eq_true_eq] at least ⊢
    exact least.trans_lt (not_le.mp less)
  rw [(one.perm.trans other.perm.symm).countP_eq] at upper
  omega

theorem getElem?_eq (one : Arranges rank items first) (other : Arranges rank items second)
    (alone : Alone rank items item) {index : Nat} (found : first[index]? = some item) :
    second[index]? = some item := by
  have bound : index < second.length := by
    rw [(other.perm.trans one.perm.symm).length_eq]
    exact (List.getElem?_eq_some_iff.mp found).1
  have there : second[index]? = some second[index] := List.getElem?_eq_getElem bound
  have tied : rank second[index] = rank item :=
    le_antisymm (rank_le other one there found) (rank_le one other found there)
  have member : second[index] ∈ items := other.perm.mem_iff.mp (List.getElem_mem bound)
  rw [there, alone _ member tied]

end Positions

section Pages

variable [DecidableEq Key] {key : Item → Key} {cursor : Option Key} {limit : Nat}

theorem findIdx?_eq (one : Arranges rank items first) (other : Arranges rank items second)
    {name : Key} (named : ∀ item ∈ items, key item = name → Alone rank items item) :
    first.findIdx? (key · = name) = second.findIdx? (key · = name) := by
  have transfers {front back : List Item} (one : Arranges rank items front)
      (other : Arranges rank items back) {index : Nat} (bound : index < front.length)
      (there : index < back.length) (here : key front[index] = name) : key back[index] = name := by
    have member : front[index] ∈ items := one.perm.mem_iff.mp (List.getElem_mem bound)
    have kept := one.getElem?_eq other (named _ member here) (List.getElem?_eq_getElem bound)
    obtain ⟨_, same⟩ := List.getElem?_eq_some_iff.mp kept
    rw [same, here]
  have tests : first.map (fun item => decide (key item = name)) =
      second.map fun item => decide (key item = name) := by
    refine List.ext_getElem ?_ fun index bound there => ?_
    · rw [List.length_map, List.length_map, (one.perm.trans other.perm.symm).length_eq]
    · rw [List.length_map] at bound there
      rw [List.getElem_map, List.getElem_map, decide_eq_decide]
      exact ⟨transfers one other bound there, transfers other one there bound⟩
  have found (list : List Item) : list.findIdx? (key · = name) =
      (list.map fun item => decide (key item = name)).findIdx? id := by
    rw [List.findIdx?_map]
    rfl
  rw [found, found, tests]

theorem startIndex_eq (one : Arranges rank items first) (other : Arranges rank items second)
    (named : ∀ item ∈ items, cursor = some (key item) → Alone rank items item) :
    Paging.startIndex key cursor first = Paging.startIndex key cursor second := by
  cases cursor with
  | none => rfl
  | some name =>
      have same := one.findIdx?_eq other fun item member here =>
        named item member (congrArg some here.symm)
      simp only [Paging.startIndex, same]

/-- A page that starts after an item without a tie, and shows no item with a tie, is the same in
every arrangement. -/
theorem take_after_eq (one : Arranges rank items first) (other : Arranges rank items second)
    (named : ∀ item ∈ items, cursor = some (key item) → Alone rank items item)
    (shown : ∀ item ∈ (Paging.after key cursor first).take limit, Alone rank items item) :
    (Paging.after key cursor second).take limit = (Paging.after key cursor first).take limit := by
  have start := one.startIndex_eq other named
  have long : first.length = second.length := (one.perm.trans other.perm.symm).length_eq
  have same : ∀ index < ((Paging.after key cursor first).take limit).length,
      ((Paging.after key cursor second).take limit)[index]? =
        ((Paging.after key cursor first).take limit)[index]? := by
    intro index bound
    have here := List.getElem?_eq_getElem bound
    have alone := shown _ (List.getElem_mem bound)
    rw [here]
    have inside : index < limit := by
      rw [List.length_take] at bound
      omega
    rw [List.getElem?_take_of_lt inside] at here ⊢
    simp only [Paging.after, List.getElem?_drop, ← start] at here ⊢
    exact one.getElem?_eq other alone here
  refine List.ext_getElem? fun index => ?_
  by_cases bound : index < ((Paging.after key cursor first).take limit).length
  · exact same index bound
  · have ends : ((Paging.after key cursor second).take limit).length =
        ((Paging.after key cursor first).take limit).length := by
      simp only [List.length_take, Paging.after, List.length_drop, start, long]
    rw [List.getElem?_eq_none (by omega), List.getElem?_eq_none (by omega)]

/-! ## Exchanging tied items -/

variable [DecidableEq Item] {one other : Item}

theorem mem_map_swap (inside : one ∈ items) (otherInside : other ∈ items) :
    item ∈ items.map (Equiv.swap one other) ↔ item ∈ items := by
  have closed {item : Item} (member : item ∈ items) : Equiv.swap one other item ∈ items := by
    rw [Equiv.swap_apply_def]
    split_ifs
    · exact otherInside
    · exact inside
    · exact member
  constructor
  · intro moved
    obtain ⟨source, member, rfl⟩ := List.mem_map.mp moved
    exact closed member
  · intro member
    exact List.mem_map.mpr ⟨_, closed member, Equiv.swap_apply_self ..⟩

theorem swap (arranged : Arranges rank items list) (distinct : items.Nodup)
    (inside : one ∈ items) (otherInside : other ∈ items) (tied : rank other = rank one) :
    Arranges rank items (list.map (Equiv.swap one other)) := by
  have same (item : Item) : rank (Equiv.swap one other item) = rank item := by
    rw [Equiv.swap_apply_def]
    split_ifs with first second
    · rw [first, tied]
    · rw [second, tied]
    · rfl
  have listed := arranged.perm.nodup_iff.mpr distinct
  constructor
  · refine List.Perm.trans ?_ arranged.perm
    refine (List.perm_ext_iff_of_nodup (listed.map (Equiv.injective _)) listed).mpr fun item => ?_
    exact mem_map_swap (arranged.perm.mem_iff.mpr inside) (arranged.perm.mem_iff.mpr otherInside)
  · rw [List.pairwise_map]
    simpa only [same] using arranged.sorted

end Pages

section Certain

variable [DecidableEq Key] [DecidableEq Item] {key : Item → Key} {cursor : Option Key}
  {limit : Nat} {other : Item}

theorem next_ne (distinct : list.Nodup) (different : other ≠ item) {here there : Nat}
    (found : list[here]? = some item) (foundThere : list[there]? = some other) :
    list[there + 1]?.map (Equiv.swap item other) ≠ list[here + 1]? := by
  have unique {first second : Nat} {twice : Item} (one : list[first]? = some twice)
      (again : list[second]? = some twice) : first = second :=
    (List.getElem?_inj (List.getElem?_eq_some_iff.mp one).1 distinct).mp (one.trans again.symm)
  have apart : here ≠ there := by
    rintro rfl
    exact different (Option.some.inj (foundThere.symm.trans found))
  have bound := (List.getElem?_eq_some_iff.mp found).1
  have boundThere := (List.getElem?_eq_some_iff.mp foundThere).1
  intro same
  cases behind : list[there + 1]? with
  | none =>
      rw [behind, Option.map_none] at same
      have last := List.getElem?_eq_none_iff.mp behind
      have lastHere := List.getElem?_eq_none_iff.mp same.symm
      omega
  | some following =>
      rw [behind, Option.map_some, Equiv.swap_apply_def] at same
      split_ifs at same with first second
      · rw [first] at behind
        have back := unique behind found
        have forth := unique same.symm foundThere
        omega
      · rw [second] at behind
        have stays := unique behind foundThere
        omega
      · have again := unique same.symm behind
        omega

/-- If all arrangements show the same page after a cursor, the item of the cursor has no tie. -/
theorem alone_of_cursor (distinct : (items.map key).Nodup) (positive : 1 ≤ limit)
    (arranged : Arranges rank items list)
    (fixed : ∀ other, Arranges rank items other →
      (Paging.after key cursor other).take limit = (Paging.after key cursor list).take limit)
    (member : item ∈ items) (named : cursor = some (key item)) : Alone rank items item := by
  intro other otherMember tied
  by_contra different
  have single : items.Nodup := List.Nodup.of_map key distinct
  have swapped := arranged.swap single member otherMember tied
  obtain ⟨here, found⟩ := List.mem_iff_getElem?.mp (arranged.perm.mem_iff.mpr member)
  obtain ⟨there, foundThere⟩ := List.mem_iff_getElem?.mp (arranged.perm.mem_iff.mpr otherMember)
  have moved : (list.map (Equiv.swap item other))[there]? = some item := by
    rw [List.getElem?_map, foundThere, Option.map_some, Equiv.swap_apply_right]
  have keys {other : List Item} (arranges : Arranges rank items other) : (other.map key).Nodup :=
    (arranges.perm.map key).nodup_iff.mpr distinct
  have pages := fixed _ swapped
  rw [named, Paging.after_getElem (keys swapped) moved, Paging.after_getElem (keys arranged) found]
    at pages
  have heads := congrArg (·[0]?) pages
  simp only [List.getElem?_take_of_lt positive, List.getElem?_drop, List.getElem?_map,
    Nat.add_zero] at heads
  exact next_ne (arranged.perm.nodup_iff.mpr single) different found foundThere heads

/-- If all arrangements show the same page, no item on it has a tie. -/
theorem alone_of_shown (distinct : (items.map key).Nodup) (positive : 1 ≤ limit)
    (arranged : Arranges rank items list)
    (fixed : ∀ other, Arranges rank items other →
      (Paging.after key cursor other).take limit = (Paging.after key cursor list).take limit)
    (shown : item ∈ (Paging.after key cursor list).take limit) : Alone rank items item := by
  intro other otherMember tied
  by_contra different
  have single : items.Nodup := List.Nodup.of_map key distinct
  have member : item ∈ items := by
    refine arranged.perm.mem_iff.mp ?_
    exact (List.drop_sublist _ _).subset ((List.take_sublist _ _).subset shown)
  have unnamed {tiedItem opposite : Item} (inside : tiedItem ∈ items)
      (oppositeInside : opposite ∈ items) (equal : rank opposite = rank tiedItem)
      (apart : opposite ≠ tiedItem) : cursor ≠ some (key tiedItem) := fun named =>
    apart (alone_of_cursor distinct positive arranged fixed inside named opposite oppositeInside
      equal)
  have notItem := unnamed member otherMember tied different
  have notOther := unnamed otherMember member tied.symm (Ne.symm different)
  have kept (moved : Item) : cursor = some (key (Equiv.swap item other moved)) ↔
      cursor = some (key moved) := by
    rw [Equiv.swap_apply_def]
    split_ifs with first second
    · rw [first]
      exact iff_of_false notOther notItem
    · rw [second]
      exact iff_of_false notItem notOther
    · exact Iff.rfl
  have pages := fixed _ (arranged.swap single member otherMember tied)
  rw [Paging.after_map kept, ← List.map_take] at pages
  obtain ⟨index, found⟩ := List.mem_iff_getElem?.mp shown
  have changed := congrArg (·[index]?) pages
  simp only [List.getElem?_map, found, Option.map_some, Equiv.swap_apply_left] at changed
  exact different (Option.some.inj changed)

end Certain

end Arranges

end Kit

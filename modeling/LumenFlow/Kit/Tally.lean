import Mathlib.Algebra.BigOperators.Group.List.Basic
import Mathlib.Data.List.Count
import Mathlib.Tactic.Abel
import LumenFlow.Kit.Index
import LumenFlow.Kit.Transaction

/-!
# Sums over lists

How the sum of a list of weights changes when one of its names gets another weight, when an
index lists one more key, how a sum over records splits by their owners, and what a loop adds
up.
-/

namespace Kit

variable {Name Weight : Type} [DecidableEq Name] [AddCommMonoid Weight]

section Sum

variable {names : List Name} {name : Name} {weight other : Name → Weight}

theorem sum_update_add (distinct : names.Nodup) (member : name ∈ names) (more : Weight) :
    (names.map (Function.update weight name (weight name + more))).sum =
      (names.map weight).sum + more := by
  induction names with
  | nil => cases member
  | cons head rest inductionHypothesis =>
      obtain ⟨apart, distinct⟩ := List.nodup_cons.mp distinct
      rw [List.map_cons, List.sum_cons, List.map_cons, List.sum_cons]
      rcases List.mem_cons.mp member with rfl | member
      · have kept : rest.map (Function.update weight name (weight name + more)) =
            rest.map weight := by
          refine List.map_congr_left fun listed inside => Function.update_of_ne ?_ _ _
          rintro rfl
          exact apart inside
        rw [Function.update_self, kept, add_right_comm]
      · have different : head ≠ name := by
          rintro rfl
          exact apart member
        rw [Function.update_of_ne different, inductionHypothesis distinct member, add_assoc]

theorem sum_add_count_nsmul [BEq Name] [LawfulBEq Name]
    (same : ∀ listed ∈ names, listed ≠ name → other listed = weight listed) :
    (names.map other).sum + names.count name • weight name =
      (names.map weight).sum + names.count name • other name := by
  induction names with
  | nil => simp
  | cons head rest inductionHypothesis =>
      obtain ⟨here, later⟩ := List.forall_mem_cons.mp same
      have tail := inductionHypothesis later
      simp only [List.map_cons, List.sum_cons]
      by_cases equal : head = name
      · subst equal
        rw [List.count_cons_self, succ_nsmul, succ_nsmul]
        calc other head + (rest.map other).sum + (rest.count head • weight head + weight head)
            = (rest.map other).sum + rest.count head • weight head +
                (other head + weight head) := by abel
          _ = (rest.map weight).sum + rest.count head • other head +
                (other head + weight head) := by rw [tail]
          _ = weight head + (rest.map weight).sum +
                (rest.count head • other head + other head) := by abel
      · rw [List.count_cons_of_ne equal, here equal, add_assoc, tail, ← add_assoc]

end Sum

theorem sum_by_owner {Owner Record : Type} [DecidableEq Owner] {owners : List Owner}
    {records : List Record} {owner : Record → Owner} {weight : Record → Weight}
    (distinct : owners.Nodup) (known : ∀ record ∈ records, owner record ∈ owners) :
    (owners.map fun who =>
        ((records.filter fun record => owner record = who).map weight).sum).sum =
      (records.map weight).sum := by
  induction records with
  | nil => simp
  | cons record rest inductionHypothesis =>
      obtain ⟨here, later⟩ := List.forall_mem_cons.mp known
      have split : (fun who => (((record :: rest).filter fun other =>
            owner other = who).map weight).sum) =
          Function.update (fun who => ((rest.filter fun other =>
            owner other = who).map weight).sum) (owner record)
            (((rest.filter fun other => owner other = owner record).map weight).sum +
              weight record) := by
        funext who
        by_cases same : who = owner record
        · subst same
          rw [Function.update_self, List.filter_cons_of_pos (by simp), List.map_cons,
            List.sum_cons, add_comm]
        · rw [Function.update_of_ne same, List.filter_cons_of_neg (by simpa using Ne.symm same)]
      rw [split, sum_update_add distinct here, inductionHypothesis later, List.map_cons,
        List.sum_cons, add_comm]

section Listing

variable {Owner Key : Type} [DecidableEq Owner] {owners : List Owner} {owner : Owner}
  {index : Index Owner Key} {name : Key} {weight : Key → Weight}

/-- What the owners of a list have listed, one after the other. -/
def Index.listing (index : Index Owner Key) (owners : List Owner) : List Key :=
  owners.flatMap index

omit [DecidableEq Owner] in
theorem Index.sum_listing (index : Index Owner Key) :
    ((index.listing owners).map weight).sum =
      (owners.map fun who => ((index who).map weight).sum).sum := by
  rw [Index.listing, List.map_flatMap, List.flatMap_def, List.sum_flatten, List.map_map]
  rfl

theorem Index.sum_listing_add (distinct : owners.Nodup) (member : owner ∈ owners) :
    (((index.add true owner name).listing owners).map weight).sum =
      ((index.listing owners).map weight).sum + weight name := by
  have more : (fun who => ((index.add true owner name who).map weight).sum) =
      Function.update (fun who => ((index who).map weight).sum) owner
        (((index owner).map weight).sum + weight name) := by
    funext who
    by_cases same : who = owner
    · subst same
      rw [Function.update_self, Index.add_self]
      simp
    · rw [Function.update_of_ne same, Index.add_of_ne same]
  rw [Index.sum_listing, Index.sum_listing, more, sum_update_add distinct member]

end Listing

section Tally

variable {Owner Key Record : Type} [DecidableEq Key] {key : Record → Key}
  {table : Table key} {index : Index Owner Key} {owners : List Owner} {owner : Owner}
  {record : Record} {weight : Record → Weight}

/-- What the records weigh that the owners of a list have listed, each as often as it is
listed. -/
def Index.tally (index : Index Owner Key) (owners : List Owner) (table : Table key)
    (weight : Record → Weight) : Weight :=
  ((index.listing owners).map (table.weightAt weight)).sum

theorem Table.weightAt_put_of_ne {name : Key} (different : name ≠ key record) :
    (table.put record).weightAt weight name = table.weightAt weight name := by
  rw [weightAt, weightAt, get_put_of_ne different]

theorem Table.weightAt_put_self :
    (table.put record).weightAt weight (key record) = weight record := by
  rw [weightAt, get_put_self]
  rfl

/-- A record that is written over another one replaces its weight as often as it is listed. -/
theorem Index.tally_put [BEq Key] [LawfulBEq Key] :
    index.tally owners (table.put record) weight +
        (index.listing owners).count (key record) • table.weightAt weight (key record) =
      index.tally owners table weight +
        (index.listing owners).count (key record) • weight record := by
  have others : ∀ listed ∈ index.listing owners, listed ≠ key record →
      (table.put record).weightAt weight listed = table.weightAt weight listed :=
    fun listed _ different => Table.weightAt_put_of_ne different
  have moved := sum_add_count_nsmul others
  rwa [Table.weightAt_put_self] at moved

theorem Index.tally_put_of_unlisted (unlisted : key record ∉ index.listing owners) :
    index.tally owners (table.put record) weight = index.tally owners table weight := by
  refine congrArg List.sum (List.map_congr_left fun listed member => ?_)
  refine Table.weightAt_put_of_ne ?_
  rintro rfl
  exact unlisted member

theorem Index.tally_put_of_same (same : table.weightAt weight (key record) = weight record) :
    index.tally owners (table.put record) weight = index.tally owners table weight := by
  refine congrArg List.sum (List.map_congr_left fun listed _ => ?_)
  by_cases here : listed = key record
  · rw [here, Table.weightAt_put_self, same]
  · exact Table.weightAt_put_of_ne here

theorem Index.tally_add [DecidableEq Owner] {name : Key} (distinct : owners.Nodup)
    (member : owner ∈ owners) :
    (index.add true owner name).tally owners table weight =
      index.tally owners table weight + table.weightAt weight name :=
  sum_listing_add distinct member

theorem Index.tally_add_tally {first second both : Record → Weight}
    (together : ∀ record, first record + second record = both record) :
    index.tally owners table first + index.tally owners table second =
      index.tally owners table both := by
  have each : ∀ name, table.weightAt first name + table.weightAt second name =
      table.weightAt both name := by
    intro name
    unfold Table.weightAt
    cases table.get name with
    | none => exact add_zero 0
    | some record => exact together record
  rw [Index.tally, Index.tally, ← List.sum_map_add]
  simp only [each]
  rfl

end Tally

section Loops

variable {Env State Error Value Item Total : Type} [AddMonoid Total]
  {body : Value → Item → Tx Env State Error Value} {weight : Item → Total} {env : Env}
  {state : State}

/-- A loop whose body adds the weight of its item to a total as long as the total fits adds the
weights of all items as long as they fit together. -/
theorem Tx.commits_fold_sum (image : Total → Value) (sound fits : Total → Prop)
    (shrinks : ∀ first second, fits (first + second) → fits first)
    (kept : ∀ total item, sound total → sound (total + weight item))
    (turn : ∀ total item value next, sound total → fits total →
      ((body (image total) item).Commits env state value next ↔
        fits (total + weight item) ∧ value = image (total + weight item) ∧ next = state))
    {items : List Item} {total : Total} {value : Value} {next : State} (start : sound total)
    (room : fits total) :
    (fold body (image total) items).Commits env state value next ↔
      fits (total + (items.map weight).sum) ∧ value = image (total + (items.map weight).sum) ∧
        next = state := by
  induction items generalizing total with
  | nil => simp [room]
  | cons item rest inductionHypothesis =>
      have later := inductionHypothesis (kept total item start)
      rw [commits_fold_cons, List.map_cons, List.sum_cons, ← add_assoc]
      constructor
      · rintro ⟨between, middle, head, tail⟩
        obtain ⟨fits, rfl, rfl⟩ := (turn total item _ _ start room).mp head
        exact (later fits).mp tail
      · intro committed
        have here := shrinks _ _ committed.1
        exact ⟨_, state, (turn total item _ _ start room).mpr ⟨here, rfl, rfl⟩,
          (later here).mpr committed⟩

end Loops

end Kit

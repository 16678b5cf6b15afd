import Mathlib.Data.List.Count
import LumenFlow.Kit.Table

/-!
# Indexes of a table by owner

An index lists for each owner the keys of the records that it owns.  A new record is stored
and its key appended, unless the index of its owner is full.  Three properties relate an
index to its table: `Covers` that it lists each record once, `Isolates` that it lists no
record of somebody else, `Counts` that it lists stored records only and as many as there are.
-/

namespace Kit

variable {Owner Key Record : Type}

/-- The keys that each owner has. -/
abbrev Index (Owner Key : Type) := Owner → List Key

namespace Index

variable [DecidableEq Owner]

/-- Append the key to the list of the owner when there is room for it. -/
def add (index : Index Owner Key) (room : Bool) (owner : Owner) (name : Key) : Index Owner Key :=
  if room then Function.update index owner (index owner ++ [name]) else index

variable {index : Index Owner Key} {room : Bool} {owner who : Owner} {name other : Key}

theorem add_of_ne (different : who ≠ owner) : index.add room owner name who = index who := by
  unfold add
  split
  · exact Function.update_of_ne different _ _
  · rfl

theorem add_self :
    index.add room owner name owner = index owner ++ if room then [name] else [] := by
  cases room <;> simp [add]

theorem length_add_self : (index.add room owner name owner).length =
    (index owner).length + if room then 1 else 0 := by
  rw [add_self]
  cases room <;> simp

theorem length_add : (index.add true owner name who).length =
    (index who).length + if owner = who then 1 else 0 := by
  by_cases same : owner = who
  · subst same
    simp [length_add_self]
  · simp [add_of_ne (Ne.symm same), same]

/-- List each record under its owner. -/
def addAll (index : Index Owner Key) (owner : Record → Owner) (key : Record → Key)
    (records : List Record) : Index Owner Key :=
  records.foldl (fun index record => index.add true (owner record) (key record)) index

@[simp]
theorem addAll_nil (index : Index Owner Key) (owner : Record → Owner) (key : Record → Key) :
    index.addAll owner key [] = index := rfl

@[simp]
theorem addAll_cons (index : Index Owner Key) (owner : Record → Owner) (key : Record → Key)
    (record : Record) (rest : List Record) :
    index.addAll owner key (record :: rest) =
      (index.add true (owner record) (key record)).addAll owner key rest := rfl

theorem mem_add_of_ne (different : other ≠ name) :
    other ∈ index.add room owner name who ↔ other ∈ index who := by
  by_cases same : who = owner
  · subst same
    rw [add_self]
    cases room <;> simp [different]
  · rw [add_of_ne same]

variable [BEq Key] [LawfulBEq Key]

theorem count_add_of_ne (different : other ≠ name) :
    (index.add room owner name who).count other = (index who).count other := by
  by_cases same : who = owner
  · subst same
    rw [add_self, List.count_append]
    cases room <;> simp [Ne.symm different]
  · rw [add_of_ne same]

theorem count_add_self : (index.add room owner name owner).count name =
    (index owner).count name + if room then 1 else 0 := by
  rw [add_self]
  cases room <;> simp

section AddAll

variable {owner : Record → Owner} {key : Record → Key} {records : List Record} {record : Record}

theorem count_addAll_of_not_mem (others : other ∉ records.map key) :
    (index.addAll owner key records who).count other = (index who).count other := by
  induction records generalizing index with
  | nil => rfl
  | cons record rest inductionHypothesis =>
      obtain ⟨different, others⟩ := not_or.mp (mt List.mem_cons.mpr others)
      rw [addAll_cons, inductionHypothesis others, count_add_of_ne different]

theorem count_addAll_self (distinct : (records.map key).Nodup) (member : record ∈ records) :
    (index.addAll owner key records (owner record)).count (key record) =
      (index (owner record)).count (key record) + 1 := by
  induction records generalizing index with
  | nil => cases member
  | cons head rest inductionHypothesis =>
      obtain ⟨others, distinct⟩ := List.nodup_cons.mp distinct
      rw [addAll_cons]
      rcases List.mem_cons.mp member with rfl | member
      · rw [count_addAll_of_not_mem others, count_add_self]
        rfl
      · have different : key record ≠ key head := by
          intro same
          exact others (same ▸ List.mem_map_of_mem member)
        rw [inductionHypothesis distinct member, count_add_of_ne different]

theorem mem_addAll_of_ne (distinct : (records.map key).Nodup) (member : record ∈ records)
    (different : who ≠ owner record) :
    key record ∈ index.addAll owner key records who ↔ key record ∈ index who := by
  induction records generalizing index with
  | nil => cases member
  | cons head rest inductionHypothesis =>
      obtain ⟨others, distinct⟩ := List.nodup_cons.mp distinct
      rw [addAll_cons]
      rcases List.mem_cons.mp member with rfl | member
      · rw [← List.count_pos_iff, count_addAll_of_not_mem others, List.count_pos_iff,
          add_of_ne different]
      · have apart : key record ≠ key head := by
          intro same
          exact others (same ▸ List.mem_map_of_mem member)
        rw [inductionHypothesis distinct member, mem_add_of_ne apart]

end AddAll

end Index

namespace Table

variable [DecidableEq Key] {key : Record → Key}
  {table smaller : Table key} {owner : Record → Owner} {index : Index Owner Key}
  {record old : Record} {room : Bool}

section Covers

variable [BEq Key]

/-- Each stored record is listed once by its owner. -/
def Covers (table : Table key) (owner : Record → Owner) (index : Index Owner Key) : Prop :=
  ∀ name record, table.get name = some record → (index (owner record)).count name = 1

theorem Covers.sub (covers : table.Covers owner index) (sub : smaller.Sub table) :
    smaller.Covers owner index :=
  fun name record stored => covers name record (sub name record stored)

theorem Covers.rewrite (covers : table.Covers owner index)
    (stored : table.get (key record) = some old) (same : owner record = owner old) :
    (table.put record).Covers owner index := by
  intro name other found
  rw [get_put] at found
  split at found
  · next here =>
      obtain rfl := Option.some.inj found
      rw [here, same]
      exact covers _ old stored
  · exact covers name other found

variable [LawfulBEq Key] [DecidableEq Owner]

theorem Covers.put_iff (covers : table.Covers owner index) :
    (table.put record).Covers owner (index.add room (owner record) (key record)) ↔
      (index (owner record)).count (key record) + (if room then 1 else 0) = 1 := by
  constructor
  · intro after
    rw [← Index.count_add_self]
    exact after _ record (get_put_self table record)
  · intro once name other found
    rw [get_put] at found
    split at found
    · next here =>
        obtain rfl := Option.some.inj found
        rw [here, Index.count_add_self]
        exact once
    · next different =>
        rw [Index.count_add_of_ne different]
        exact covers name other found

/-- Storing and listing new records keeps the index covering exactly if their owners did not
list them before. -/
theorem Covers.putAll_iff {records : List Record} (covers : table.Covers owner index)
    (distinct : (records.map key).Nodup) :
    (table.putAll records).Covers owner (index.addAll owner key records) ↔
      ∀ record ∈ records, key record ∉ index (owner record) := by
  constructor
  · intro after record member
    have once := after _ record (get_putAll_of_mem distinct member)
    rw [Index.count_addAll_self distinct member] at once
    exact List.count_eq_zero.mp (by omega)
  · intro fresh name other found
    rcases get_putAll_cases found with member | ⟨absent, stored⟩
    · obtain rfl := key_of_get found
      rw [Index.count_addAll_self distinct member, List.count_eq_zero.mpr (fresh other member)]
    · have others : name ∉ records.map key := by simpa using absent
      rw [Index.count_addAll_of_not_mem others]
      exact covers name other stored

end Covers

section Isolates

/-- Nobody lists a stored record of somebody else. -/
def Isolates (table : Table key) (owner : Record → Owner) (index : Index Owner Key) : Prop :=
  ∀ who name record, name ∈ index who → table.get name = some record → owner record = who

theorem Isolates.sub (isolates : table.Isolates owner index) (sub : smaller.Sub table) :
    smaller.Isolates owner index :=
  fun who name record listed stored => isolates who name record listed (sub name record stored)

theorem Isolates.rewrite (isolates : table.Isolates owner index)
    (stored : table.get (key record) = some old) (same : owner record = owner old) :
    (table.put record).Isolates owner index := by
  intro who name other listed found
  rw [get_put] at found
  split at found
  · next here =>
      obtain rfl := Option.some.inj found
      rw [same]
      exact isolates who _ old (here ▸ listed) stored
  · exact isolates who name other listed found

variable [DecidableEq Owner]

theorem Isolates.put_iff (isolates : table.Isolates owner index) :
    (table.put record).Isolates owner (index.add room (owner record) (key record)) ↔
      ∀ who, who ≠ owner record → key record ∉ index who := by
  constructor
  · intro after who different listed
    refine different (after who _ record ?_ (get_put_self table record)).symm
    rwa [Index.add_of_ne different]
  · intro apart who name other listed found
    rw [get_put] at found
    split at found
    · next here =>
        obtain rfl := Option.some.inj found
        by_contra different
        rw [Index.add_of_ne (Ne.symm different), here] at listed
        exact apart who (Ne.symm different) listed
    · next different =>
        exact isolates who name other ((Index.mem_add_of_ne different).mp listed) found

/-- Storing and listing new records keeps the index isolating exactly if nobody else lists
them. -/
theorem Isolates.putAll_iff {records : List Record} (isolates : table.Isolates owner index)
    (distinct : (records.map key).Nodup) :
    (table.putAll records).Isolates owner (index.addAll owner key records) ↔
      ∀ record ∈ records, ∀ who, who ≠ owner record → key record ∉ index who := by
  constructor
  · intro after record member who different listed
    refine different (after who _ record ?_ (get_putAll_of_mem distinct member)).symm
    exact (Index.mem_addAll_of_ne distinct member different).mpr listed
  · intro apart who name other listed found
    rcases get_putAll_cases found with member | ⟨absent, stored⟩
    · obtain rfl := key_of_get found
      by_contra different
      have earlier := (Index.mem_addAll_of_ne distinct member (Ne.symm different)).mp listed
      exact apart other member who (Ne.symm different) earlier
    · have others : name ∉ records.map key := by simpa using absent
      rw [← List.count_pos_iff, Index.count_addAll_of_not_mem others, List.count_pos_iff] at listed
      exact isolates who name other listed stored

end Isolates

section Counts

variable [DecidableEq Owner]

/-- The number of stored records of an owner. -/
def owned (table : Table key) (owner : Record → Owner) (who : Owner) : Nat :=
  table.total fun record => if owner record = who then 1 else 0

/-- Everybody lists stored records only, and as many as it owns. -/
structure Counts (table : Table key) (owner : Record → Owner) (index : Index Owner Key) :
    Prop where
  stored : ∀ who, ∀ name ∈ index who, ∃ record, table.get name = some record
  length : ∀ who, (index who).length = table.owned owner who

theorem owned_put_of_free (free : table.get (key record) = none) (who : Owner) :
    (table.put record).owned owner who =
      (if owner record = who then 1 else 0) + table.owned owner who :=
  total_put_of_free free

theorem owned_put_of_stored (owner : Record → Owner)
    (stored : table.get (key record) = some old) (who : Owner) :
    (table.put record).owned owner who + (if owner old = who then 1 else 0) =
      table.owned owner who + if owner record = who then 1 else 0 := by
  have moved := total_put (fun record => if owner record = who then 1 else 0) table record
  simpa [owned, weightAt, stored] using moved

theorem owned_erase (owner : Record → Owner) (stored : table.get (key old) = some old)
    (who : Owner) :
    (table.erase (key old)).owned owner who + (if owner old = who then 1 else 0) =
      table.owned owner who := by
  have moved := total_erase (fun record => if owner record = who then 1 else 0) table (key old)
  simpa [owned, weightAt, stored] using moved

/-- A record that is stored under a free key keeps the index counting exactly if it is
listed. -/
theorem Counts.put_free_iff (counts : table.Counts owner index)
    (free : table.get (key record) = none) :
    (table.put record).Counts owner (index.add room (owner record) (key record)) ↔
      room = true := by
  constructor
  · intro after
    have grown := after.length (owner record)
    rw [Index.length_add_self, counts.length, owned_put_of_free free] at grown
    simp at grown
    by_contra full
    simp [full] at grown
  · rintro rfl
    refine ⟨fun who name listed => ?_, fun who => ?_⟩
    · by_cases same : name = key record
      · exact ⟨record, same ▸ get_put_self table record⟩
      · rw [get_put_of_ne same]
        exact counts.stored who name ((Index.mem_add_of_ne same).mp listed)
    · rw [owned_put_of_free free]
      by_cases same : who = owner record
      · subst same
        rw [Index.length_add_self, counts.length]
        simp [add_comm]
      · rw [Index.add_of_ne same, counts.length]
        simp [Ne.symm same]

theorem Counts.putAll {records : List Record} (counts : table.Counts owner index)
    (distinct : (records.map key).Nodup)
    (fresh : ∀ record ∈ records, table.get (key record) = none) :
    (table.putAll records).Counts owner (index.addAll owner key records) := by
  induction records generalizing table index with
  | nil => exact counts
  | cons record rest inductionHypothesis =>
      obtain ⟨others, distinct⟩ := List.nodup_cons.mp distinct
      obtain ⟨free, fresh⟩ := List.forall_mem_cons.mp fresh
      rw [putAll_cons, Index.addAll_cons]
      refine inductionHypothesis ((counts.put_free_iff free).mpr rfl) distinct ?_
      intro other member
      have different : key other ≠ key record := by
        intro same
        exact others (same ▸ List.mem_map_of_mem member)
      rw [get_put_of_ne different]
      exact fresh other member

/-- A record that is stored over another one keeps the index counting exactly if the owner is
the same and the index is full. -/
theorem Counts.put_stored_iff (counts : table.Counts owner index)
    (stored : table.get (key record) = some old) :
    (table.put record).Counts owner (index.add room (owner record) (key record)) ↔
      owner old = owner record ∧ room = false := by
  constructor
  · intro after
    have same : owner old = owner record := by
      by_contra different
      have kept := after.length (owner old)
      have moved := owned_put_of_stored owner stored (owner old)
      rw [Index.add_of_ne different, counts.length] at kept
      simp [Ne.symm different] at moved
      omega
    have grown := after.length (owner record)
    have moved := owned_put_of_stored owner stored (owner record)
    rw [Index.length_add_self, counts.length] at grown
    simp only [same, if_true] at moved
    refine ⟨same, ?_⟩
    cases room
    · rfl
    · simp only [if_true] at grown
      omega
  · rintro ⟨same, rfl⟩
    refine ⟨fun who name listed => ?_, fun who => ?_⟩
    · by_cases here : name = key record
      · exact ⟨record, here ▸ get_put_self table record⟩
      · rw [get_put_of_ne here]
        exact counts.stored who name listed
    · have moved := owned_put_of_stored owner stored who
      rw [same] at moved
      rw [← Nat.add_right_cancel moved.symm]
      exact counts.length who

theorem Counts.rewrite (counts : table.Counts owner index)
    (stored : table.get (key record) = some old) (same : owner record = owner old) :
    (table.put record).Counts owner index :=
  (counts.put_stored_iff stored).mpr ⟨same.symm, rfl⟩

theorem Counts.eq_of_sub (counts : table.Counts owner index)
    (others : smaller.Counts owner index) (sub : smaller.Sub table) : smaller = table := by
  apply ext_get
  intro name
  match found : smaller.get name, stored : table.get name with
  | some record, _ => rw [← stored, sub name record found]
  | none, none => rfl
  | none, some old =>
    -- The lost record would still be counted by the index of its owner.
    have named : name = key old := (key_of_get stored).symm
    have less : smaller.Sub (table.erase name) := by
      intro other record held
      have different : other ≠ name := by
        rintro rfl
        rw [found] at held
        cases held
      rw [get_erase, if_neg different]
      exact sub other record held
    have shrunk : smaller.owned owner (owner old) ≤ (table.erase name).owned owner (owner old) :=
      total_le_of_sub _ less
    subst named
    have lost := owned_erase owner stored (owner old)
    have before := counts.length (owner old)
    have after := others.length (owner old)
    simp only [if_true] at lost
    omega

end Counts

end Table

end Kit

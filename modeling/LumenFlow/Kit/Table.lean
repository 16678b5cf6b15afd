import Mathlib.Data.Finmap
import Mathlib.Algebra.BigOperators.Group.Multiset.Basic
import Mathlib.Algebra.Order.BigOperators.Group.Multiset

/-!
# Tables of keyed records

A table stores each record under the key that the record itself carries, as a
contract does that writes a record under its own identifier.  A record under a
foreign key cannot be built.  `total` sums a weight over the stored records;
`total_put` says how writing one record changes the sum.
-/

namespace Kit

variable {Key Record : Type}

/-- A finite map from keys to records in which each record carries its key. -/
structure Table (key : Record → Key) [DecidableEq Key] where
  entries : Finmap fun _ : Key => Record
  keyed : ∀ name record, entries.lookup name = some record → key record = name

namespace Table

variable [DecidableEq Key] {key : Record → Key}

/-- The table without records. -/
def empty : Table key where
  entries := ∅
  keyed := by simp

/-- The record stored under a key. -/
def get (table : Table key) (name : Key) : Option Record :=
  table.entries.lookup name

/-- Store a record under its key, in place of any record that was there. -/
def put (table : Table key) (record : Record) : Table key where
  entries := table.entries.insert (key record) record
  keyed := by
    intro name stored found
    by_cases same : name = key record
    · subst same
      rw [Finmap.lookup_insert] at found
      rw [Option.some.inj found]
    · rw [Finmap.lookup_insert_of_ne _ same] at found
      exact table.keyed name stored found

/-- Remove the record stored under a key. -/
def erase (table : Table key) (name : Key) : Table key where
  entries := table.entries.erase name
  keyed := by
    intro other stored found
    by_cases same : other = name
    · subst same
      simp at found
    · rw [Finmap.lookup_erase_ne same] at found
      exact table.keyed other stored found

theorem ext_get {first second : Table key} (same : ∀ name, first.get name = second.get name) :
    first = second := by
  obtain ⟨entries, keyed⟩ := first
  obtain ⟨others, otherKeyed⟩ := second
  obtain rfl : entries = others := Finmap.ext_lookup same
  rfl

instance [DecidableEq Record] : DecidableEq (Table key) := fun first second =>
  decidable_of_iff (first.entries = second.entries)
    ⟨fun same => by cases first; cases second; cases same; rfl, fun same => same ▸ rfl⟩

theorem key_of_get {table : Table key} {name : Key} {record : Record}
    (found : table.get name = some record) : key record = name :=
  table.keyed name record found

theorem get_key {table : Table key} {name : Key} {record : Record}
    (found : table.get name = some record) : table.get (key record) = some record := by
  rwa [key_of_get found]

theorem map_key_filterMap_get (table : Table key) (names : List Key) :
    (names.filterMap table.get).map key = names.filter fun name => (table.get name).isSome := by
  induction names with
  | nil => rfl
  | cons name rest inductionHypothesis =>
      cases stored : table.get name with
      | none => simp [stored, inductionHypothesis]
      | some record => simp [stored, inductionHypothesis, key_of_get stored]

@[simp]
theorem get_empty (name : Key) : (empty : Table key).get name = none := by
  simp [get, empty]

theorem get_put (table : Table key) (record : Record) (name : Key) :
    (table.put record).get name = if name = key record then some record else table.get name := by
  by_cases same : name = key record
  · subst same
    simp [get, put]
  · simp [get, put, same, Finmap.lookup_insert_of_ne]

@[simp]
theorem get_put_self (table : Table key) (record : Record) :
    (table.put record).get (key record) = some record := by
  simp [get_put]

theorem get_put_of_key {table : Table key} {record : Record} {name : Key}
    (named : key record = name) : (table.put record).get name = some record := by
  rw [← named]
  exact get_put_self table record

theorem get_put_of_ne {table : Table key} {record : Record} {name : Key}
    (different : name ≠ key record) : (table.put record).get name = table.get name := by
  simp [get_put, different]

theorem get_put_cases {table : Table key} {record other : Record} {name : Key}
    (found : (table.put record).get name = some other) :
    name = key record ∧ other = record ∨ table.get name = some other := by
  rw [get_put] at found
  split at found
  · next same => exact .inl ⟨same, (Option.some.inj found).symm⟩
  · exact .inr found

theorem map_get_put {Field : Type} (field : Record → Field) (table : Table key) (record : Record)
    (name : Key) : ((table.put record).get name).map field =
      if name = key record then some (field record) else (table.get name).map field := by
  rw [get_put]
  split <;> rfl

theorem map_get_rewrite {Field : Type} {field : Record → Field} {table : Table key}
    {old : Record} {named : Key} (record : Record) (found : table.get named = some old)
    (same : key record = key old) (kept : field record = field old) (name : Key) :
    ((table.put record).get name).map field = (table.get name).map field := by
  rw [map_get_put]
  split
  · next here => rw [here, same, key_of_get found, found, kept, Option.map_some]
  · rfl

theorem put_ne_none {table : Table key} {name : Key} (record : Record)
    (stored : table.get name ≠ none) : (table.put record).get name ≠ none := by
  rw [get_put]
  split
  · simp
  · exact stored

theorem get_put_free {table : Table key} {record old : Record} {name : Key}
    (free : table.get (key record) = none) (stored : table.get name = some old) :
    (table.put record).get name = some old := by
  have other : name ≠ key record := by
    rintro rfl
    exact nomatch free.symm.trans stored
  exact (get_put_of_ne other).trans stored

theorem eq_of_put_free {table : Table key} {record first last : Record} {name : Key}
    (free : table.get (key record) = none) (before : table.get name = some first)
    (after : (table.put record).get name = some last) : first = last :=
  Option.some.inj ((get_put_free free before).symm.trans after)

/-- Writing a stored record again leaves the other stored records where they are. -/
theorem get_rewrite_cases {table : Table key} {old first : Record} {name : Key}
    (changed : Record) (stored : table.get (key old) = some old) (same : key changed = key old)
    (before : table.get name = some first) :
    (table.put changed).get name = some first ∨
      first = old ∧ (table.put changed).get name = some changed := by
  by_cases here : name = key changed
  · subst here
    rw [same] at before
    exact .inr ⟨Option.some.inj (before.symm.trans stored), get_put_self table changed⟩
  · exact .inl ((get_put_of_ne here).trans before)

theorem put_eq_self_iff {table : Table key} {record old : Record}
    (stored : table.get (key record) = some old) : table.put record = table ↔ record = old := by
  constructor
  · intro same
    have written := get_put_self table record
    rw [same, stored] at written
    exact (Option.some.inj written).symm
  · rintro rfl
    refine ext_get fun name => ?_
    rw [get_put]
    split
    · next here => rw [here, stored]
    · rfl

theorem get_erase (table : Table key) (name other : Key) :
    (table.erase name).get other = if other = name then none else table.get other := by
  by_cases same : other = name
  · subst same
    simp [get, erase]
  · simp [get, erase, same, Finmap.lookup_erase_ne]

/-- Every stored record has the property. -/
def All (property : Record → Prop) (table : Table key) : Prop :=
  ∀ name record, table.get name = some record → property record

theorem all_empty (property : Record → Prop) : (empty : Table key).All property := by
  intro name record found
  simp at found

theorem All.put {property : Record → Prop} {table : Table key} {record : Record}
    (every : table.All property) (holds : property record) :
    (table.put record).All property := by
  intro name stored found
  rw [get_put] at found
  split at found
  · rw [← Option.some.inj found]
    exact holds
  · exact every name stored found

theorem All.erase {property : Record → Prop} {table : Table key} (every : table.All property)
    (name : Key) : (table.erase name).All property := by
  intro other stored found
  rw [get_erase] at found
  split at found
  · simp at found
  · exact every other stored found

/-- Store the records of a list, in order. -/
def putAll (table : Table key) (records : List Record) : Table key :=
  records.foldl put table

@[simp]
theorem putAll_nil (table : Table key) : table.putAll [] = table := rfl

@[simp]
theorem putAll_cons (table : Table key) (record : Record) (rest : List Record) :
    table.putAll (record :: rest) = (table.put record).putAll rest := rfl

theorem putAll_append (table : Table key) (first second : List Record) :
    table.putAll (first ++ second) = (table.putAll first).putAll second :=
  List.foldl_append ..

/-- What a table holds after storing a list comes from the list or was there before. -/
theorem get_putAll_cases {table : Table key} {records : List Record} {name : Key}
    {record : Record} (found : (table.putAll records).get name = some record) :
    record ∈ records ∨
      (∀ other ∈ records, key other ≠ name) ∧ table.get name = some record := by
  induction records generalizing table with
  | nil => exact .inr ⟨by simp, found⟩
  | cons head rest inductionHypothesis =>
      rcases inductionHypothesis found with listed | ⟨absent, stored⟩
      · exact .inl (by simp [listed])
      · rw [get_put] at stored
        split at stored
        · exact .inl (by simp [Option.some.inj stored])
        · next different =>
            exact .inr ⟨List.forall_mem_cons.mpr ⟨Ne.symm different, absent⟩, stored⟩

theorem get_putAll_of_not_mem {table : Table key} {records : List Record} {name : Key}
    (others : name ∉ records.map key) : (table.putAll records).get name = table.get name := by
  induction records generalizing table with
  | nil => rfl
  | cons head rest inductionHypothesis =>
      obtain ⟨different, others⟩ := not_or.mp (mt List.mem_cons.mpr others)
      rw [putAll_cons, inductionHypothesis others, get_put_of_ne different]

theorem get_putAll_of_mem {table : Table key} {records : List Record} {record : Record}
    (distinct : (records.map key).Nodup) (member : record ∈ records) :
    (table.putAll records).get (key record) = some record := by
  induction records generalizing table with
  | nil => cases member
  | cons head rest inductionHypothesis =>
      obtain ⟨others, distinct⟩ := List.nodup_cons.mp distinct
      rcases List.mem_cons.mp member with rfl | member
      · rw [putAll_cons, get_putAll_of_not_mem others, get_put_self]
      · exact inductionHypothesis distinct member

theorem get_eq_none_of_putAll {table : Table key} {records : List Record} {name : Key}
    (free : (table.putAll records).get name = none) : table.get name = none := by
  induction records generalizing table with
  | nil => exact free
  | cons head rest inductionHypothesis =>
      have before := inductionHypothesis free
      rw [get_put] at before
      split at before
      · simp at before
      · exact before

theorem absent_of_putAll {table : Table key} {records : List Record} {name : Key}
    (free : (table.putAll records).get name = none) : ∀ record ∈ records, key record ≠ name := by
  induction records generalizing table with
  | nil => simp
  | cons head rest inductionHypothesis =>
      refine List.forall_mem_cons.mpr ⟨?_, inductionHypothesis free⟩
      rintro rfl
      have before : (table.put head).get (key head) = none := get_eq_none_of_putAll free
      rw [get_put_self] at before
      cases before

theorem All.putAll {property : Record → Prop} {table : Table key} {records : List Record}
    (every : table.All property) (holds : ∀ record ∈ records, property record) :
    (table.putAll records).All property := by
  intro name record found
  rcases get_putAll_cases found with listed | ⟨_, stored⟩
  · exact holds record listed
  · exact every name record stored

/-- Every record of the first table is stored in the second. -/
def Sub (small large : Table key) : Prop :=
  ∀ name record, small.get name = some record → large.get name = some record

theorem Sub.refl (table : Table key) : table.Sub table := fun _ _ found => found

theorem Sub.trans {first second third : Table key} (head : first.Sub second)
    (tail : second.Sub third) : first.Sub third :=
  fun name record found => tail name record (head name record found)

theorem sub_erase (table : Table key) (name : Key) : (table.erase name).Sub table := by
  intro other record found
  rw [get_erase] at found
  split at found
  · simp at found
  · exact found

theorem All.sub {property : Record → Prop} {small large : Table key} (every : large.All property)
    (sub : small.Sub large) : small.All property :=
  fun name record found => every name record (sub name record found)

section Total

variable {Weight : Type} [AddCommMonoid Weight]

/-- The sum of a weight over all stored records. -/
def total (weight : Record → Weight) (table : Table key) : Weight :=
  (table.entries.entries.map fun entry => weight entry.2).sum

/-- The weight stored under a key: nothing when the key is free. -/
def weightAt (weight : Record → Weight) (table : Table key) (name : Key) : Weight :=
  ((table.get name).map weight).getD 0

@[simp]
theorem total_empty (weight : Record → Weight) : (empty : Table key).total weight = 0 := rfl

theorem total_put_of_free {weight : Record → Weight} {table : Table key} {record : Record}
    (free : table.get (key record) = none) :
    (table.put record).total weight = weight record + table.total weight := by
  have fresh : key record ∉ table.entries := Finmap.lookup_eq_none.mp free
  simp [total, put, Finmap.entries_insert_of_notMem fresh]

theorem total_erase (weight : Record → Weight) (table : Table key) (name : Key) :
    (table.erase name).total weight + table.weightAt weight name = table.total weight := by
  cases found : table.get name with
  | none =>
      have absent : table.erase name = table := by
        have same : table.entries.erase name = table.entries := by
          apply Finmap.ext_lookup
          intro other
          by_cases equal : other = name
          · subst equal
            simpa [get] using found.symm
          · exact Finmap.lookup_erase_ne equal
        cases table
        simpa [erase] using same
      simp [absent, weightAt, found]
  | some record =>
      have named : key record = name := key_of_get found
      have restored : (table.erase name).put record = table := by
        have same : (table.entries.erase name).insert (key record) record = table.entries := by
          apply Finmap.ext_lookup
          intro other
          by_cases equal : other = name
          · subst equal
            rw [named, Finmap.lookup_insert]
            exact found.symm
          · rw [Finmap.lookup_insert_of_ne _ (named ▸ equal), Finmap.lookup_erase_ne equal]
        cases table
        simpa [erase, put] using same
      have free : (table.erase name).get (key record) = none := by simp [get_erase, named]
      have added : ((table.erase name).put record).total weight =
          weight record + (table.erase name).total weight := total_put_of_free free
      rw [restored] at added
      rw [added, weightAt, found, add_comm]
      rfl

theorem total_put (weight : Record → Weight) (table : Table key) (record : Record) :
    (table.put record).total weight + table.weightAt weight (key record) =
      table.total weight + weight record := by
  have overwritten : table.put record = (table.erase (key record)).put record := by
    have same : table.entries.insert (key record) record =
        (table.entries.erase (key record)).insert (key record) record := by
      apply Finmap.ext_lookup
      intro other
      by_cases equal : other = key record
      · subst equal
        simp
      · rw [Finmap.lookup_insert_of_ne _ equal, Finmap.lookup_insert_of_ne _ equal,
          Finmap.lookup_erase_ne equal]
    simpa [put, erase] using same
  have free : (table.erase (key record)).get (key record) = none := by simp [get_erase]
  rw [overwritten, total_put_of_free free, add_assoc, total_erase, add_comm]

theorem total_congr {weight other : Record → Weight} {table : Table key}
    (agree : table.All fun record => weight record = other record) :
    table.total weight = table.total other := by
  unfold total
  refine congrArg Multiset.sum (Multiset.map_congr rfl fun entry membership => ?_)
  have stored : table.get entry.1 = some entry.2 := Finmap.mem_lookup_iff.mpr membership
  exact agree entry.1 entry.2 stored

theorem total_add (weight other : Record → Weight) (table : Table key) :
    (table.total fun record => weight record + other record) =
      table.total weight + table.total other :=
  Multiset.sum_map_add

theorem total_eq_sum (weight : Record → Weight) {table : Table key} {names : List Key}
    (distinct : names.Nodup) (covered : ∀ name, table.get name ≠ none → name ∈ names) :
    table.total weight = (names.map (table.weightAt weight)).sum := by
  induction names generalizing table with
  | nil =>
      have none : table = empty := by
        apply ext_get
        intro name
        have absent := mt (covered name) List.not_mem_nil
        rw [not_not.mp absent, get_empty]
      rw [none, total_empty, List.map_nil, List.sum_nil]
  | cons head rest inductionHypothesis =>
      obtain ⟨fresh, distinct⟩ := List.nodup_cons.mp distinct
      have others : ∀ name, (table.erase head).get name ≠ none → name ∈ rest := by
        intro name stored
        rw [get_erase] at stored
        by_cases same : name = head
        · simp [same] at stored
        · rw [if_neg same] at stored
          exact (List.mem_cons.mp (covered name stored)).resolve_left same
      have kept : ∀ name ∈ rest, (table.erase head).weightAt weight name =
          table.weightAt weight name := by
        intro name member
        have different : name ≠ head := ne_of_mem_of_not_mem member fresh
        rw [weightAt, get_erase, if_neg different, weightAt]
      rw [← total_erase weight table head, inductionHypothesis distinct others,
        List.map_congr_left kept, List.map_cons, List.sum_cons, add_comm]

theorem total_congr_weightAt {weight : Record → Weight} {first second : Table key}
    (same : ∀ name, first.weightAt weight name = second.weightAt weight name) :
    first.total weight = second.total weight := by
  let names := (first.entries.keys ∪ second.entries.keys).toList
  have distinct : names.Nodup := Finset.nodup_toList _
  have covers : ∀ {table : Table key} {name : Key}, table.get name ≠ none →
      name ∈ table.entries.keys := by
    intro table name stored
    rw [Finmap.mem_keys]
    by_contra absent
    exact stored (Finmap.lookup_eq_none.mpr absent)
  rw [total_eq_sum weight distinct fun name stored =>
      Finset.mem_toList.mpr (Finset.mem_union_left _ (covers stored)),
    total_eq_sum weight distinct fun name stored =>
      Finset.mem_toList.mpr (Finset.mem_union_right _ (covers stored)),
    List.map_congr_left fun name _ => same name]

/-- Where the weights differ under one key only, the sums differ as much. -/
theorem total_except {weight : Record → Weight} {first second : Table key} {name : Key}
    (same : ∀ other, other ≠ name →
      first.weightAt weight other = second.weightAt weight other) :
    first.total weight + second.weightAt weight name =
      second.total weight + first.weightAt weight name := by
  have rest : (first.erase name).total weight = (second.erase name).total weight := by
    apply total_congr_weightAt
    intro other
    by_cases here : other = name
    · simp [weightAt, get_erase, here]
    · simpa [weightAt, get_erase, here] using same other here
  rw [← total_erase weight first name, ← total_erase weight second name, rest, add_right_comm]

end Total

section Order

variable {Weight : Type} [AddCommMonoid Weight] [PartialOrder Weight] [IsOrderedAddMonoid Weight]
  {weight : Record → Weight} {table : Table key}

theorem total_nonneg (nonneg : table.All fun record => 0 ≤ weight record) :
    0 ≤ table.total weight := by
  apply Multiset.sum_nonneg
  intro value membership
  obtain ⟨entry, entryMembership, rfl⟩ := Multiset.mem_map.mp membership
  have stored : table.get entry.1 = some entry.2 := Finmap.mem_lookup_iff.mpr entryMembership
  exact nonneg entry.1 entry.2 stored

theorem weight_le_total (nonneg : table.All fun record => 0 ≤ weight record) {name : Key}
    {record : Record} (found : table.get name = some record) :
    weight record ≤ table.total weight := by
  have split := total_erase weight table name
  have single : table.weightAt weight name = weight record := by simp [weightAt, found]
  rw [← split, single]
  exact le_add_of_nonneg_left (total_nonneg (nonneg.erase name))

theorem total_le_of_sub {small large : Table key} (weight : Record → Nat) (sub : small.Sub large) :
    small.total weight ≤ large.total weight := by
  have within : small.entries.entries ≤ large.entries.entries := by
    refine (Multiset.le_iff_subset small.entries.nodup_entries).mpr fun entry member => ?_
    exact Finmap.mem_lookup_iff.mp (sub entry.1 entry.2 (Finmap.mem_lookup_iff.mpr member))
  obtain ⟨rest, split⟩ := Multiset.le_iff_exists_add.mp
    (Multiset.map_le_map within)
  unfold total
  rw [split, Multiset.sum_add]
  exact Nat.le_add_right _ _

end Order

end Table

end Kit

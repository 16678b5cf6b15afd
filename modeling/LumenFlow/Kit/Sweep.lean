import LumenFlow.Kit.Table
import LumenFlow.Kit.Transaction

/-!
# Sweeps over a table

A sweep goes through a list of names and removes the records under them that are due.
Its steps compose: sweeping one list after another is sweeping the two lists together,
since what the first sweep removes is no longer there for the second.
-/

namespace Kit

variable {Key Record : Type} [DecidableEq Key] {key : Record → Key}

namespace Table

/-- The record under the name is on the list and due. -/
def Sweeps (table : Table key) (due : Record → Prop) (names : List Key) (name : Key) : Prop :=
  name ∈ names ∧ ∃ record, table.get name = some record ∧ due record

/-- The second table is the first one without the listed records that are due. -/
def Swept (due : Record → Prop) (names : List Key) (before after : Table key) : Prop :=
  ∀ name, (before.Sweeps due names name → after.get name = none) ∧
    (¬ before.Sweeps due names name → after.get name = before.get name)

variable {due : Record → Prop} {names others : List Key} {first second third : Table key}

theorem Swept.refl (due : Record → Prop) (table : Table key) : table.Swept due [] table :=
  fun _ => ⟨fun swept => by simp [Sweeps] at swept, fun _ => rfl⟩

theorem Swept.trans (head : first.Swept due names second) (tail : second.Swept due others third) :
    first.Swept due (names ++ others) third := by
  intro name
  by_cases now : first.Sweeps due names name
  · have gone : second.get name = none := (head name).1 now
    have quiet : ¬ second.Sweeps due others name := by
      rintro ⟨_, record, stored, _⟩
      rw [gone] at stored
      cases stored
    have listed : first.Sweeps due (names ++ others) name :=
      ⟨List.mem_append_left _ now.1, now.2⟩
    exact ⟨fun _ => ((tail name).2 quiet).trans gone, fun absent => absurd listed absent⟩
  · have same : second.get name = first.get name := (head name).2 now
    have later : second.Sweeps due others name ↔ first.Sweeps due (names ++ others) name := by
      unfold Sweeps at now ⊢
      rw [same, List.mem_append]
      constructor
      · rintro ⟨listed, isDue⟩
        exact ⟨.inr listed, isDue⟩
      · rintro ⟨listed | listed, isDue⟩
        · exact absurd ⟨listed, isDue⟩ now
        · exact ⟨listed, isDue⟩
    rw [← later, ← same]
    exact tail name

theorem Swept.erase {record : Record} {name : Key} (stored : first.get name = some record)
    (isDue : due record) : first.Swept due [name] (first.erase name) := by
  intro other
  rw [get_erase]
  by_cases same : other = name
  · subst same
    simp [Sweeps, stored, isDue]
  · simp [Sweeps, same]

theorem Swept.skip {name : Key} (nothing : ∀ record, first.get name = some record → ¬ due record) :
    first.Swept due [name] first := by
  intro other
  refine ⟨fun ⟨listed, record, stored, isDue⟩ => ?_, fun _ => rfl⟩
  obtain rfl := List.mem_singleton.mp listed
  exact absurd isDue (nothing record stored)

theorem Swept.sub (swept : first.Swept due names second) : second.Sub first := by
  intro name record stored
  by_cases now : first.Sweeps due names name
  · rw [(swept name).1 now] at stored
    cases stored
  · rwa [(swept name).2 now] at stored

theorem Swept.eq_iff (swept : first.Swept due names second) :
    second = first ↔ ∀ name, ¬ first.Sweeps due names name := by
  constructor
  · rintro rfl name now
    have gone := (swept name).1 now
    obtain ⟨_, record, stored, _⟩ := now
    rw [gone] at stored
    cases stored
  · intro nothing
    exact ext_get fun name => (swept name).2 (nothing name)

/-- A sweep of all records that are due leaves as many records as are not due. -/
theorem Swept.total [DecidablePred due] (swept : first.Swept due names second)
    (listed : ∀ name record, first.get name = some record → due record → name ∈ names) :
    (first.total fun record => if due record then 1 else 0) + (second.total fun _ => 1) =
      first.total fun _ => 1 := by
  have left : second.All fun record => ¬ due record := by
    intro name record stored isDue
    have before : first.get name = some record := swept.sub name record stored
    rw [(swept name).1 ⟨listed name record before isDue, record, before, isDue⟩] at stored
    cases stored
  have same : ∀ name, second.weightAt (fun record => if due record then 0 else 1) name =
      first.weightAt (fun record => if due record then 0 else 1) name := by
    intro name
    by_cases now : first.Sweeps due names name
    · obtain ⟨_, record, stored, isDue⟩ := id now
      simp [weightAt, (swept name).1 now, stored, isDue]
    · rw [weightAt, (swept name).2 now, weightAt]
  have counted : (second.total fun _ => 1) =
      first.total fun record => if due record then 0 else 1 := by
    rw [← total_congr_weightAt same]
    exact total_congr fun name record stored => (if_neg (left name record stored)).symm
  rw [counted, ← total_add]
  apply total_congr
  intro name record _
  by_cases isDue : due record <;> simp [isDue]

end Table

namespace Tx

variable {Env State Error Value Item : Type} {due : Record → Prop}

/-- A loop sweeps the names of all its items when each turn sweeps those of its item. -/
theorem fold_swept (table : State → Table key)
    {body : Value → Item → Tx Env State Error Value} {names : Item → List Key}
    {invariant : State → Prop} {items : List Item}
    (turn : ∀ item ∈ items, ∀ env value state between middle, invariant state →
      (body value item).Commits env state between middle →
        (table state).Swept due (names item) (table middle) ∧ invariant middle)
    {env : Env} {value result : Value} {state next : State} (initial : invariant state)
    (committed : (fold body value items).Commits env state result next) :
    (table state).Swept due (items.flatMap names) (table next) ∧ invariant next := by
  induction items generalizing value state with
  | nil =>
      obtain ⟨_, rfl⟩ := commits_fold_nil.mp committed
      exact ⟨.refl due _, initial⟩
  | cons item rest inductionHypothesis =>
      obtain ⟨between, middle, head, tail⟩ := commits_fold_cons.mp committed
      obtain ⟨here, others⟩ := List.forall_mem_cons.mp turn
      obtain ⟨headSwept, kept⟩ := here env value state between middle initial head
      obtain ⟨tailSwept, ends⟩ := inductionHypothesis others kept tail
      exact ⟨headSwept.trans tailSwept, ends⟩

theorem fold_swept_names (table : State → Table key)
    {body : Value → Key → Tx Env State Error Value} {invariant : State → Prop} {names : List Key}
    (turn : ∀ name env value state between middle, invariant state →
      (body value name).Commits env state between middle →
        (table state).Swept due [name] (table middle) ∧ invariant middle)
    {env : Env} {value result : Value} {state next : State} (initial : invariant state)
    (committed : (fold body value names).Commits env state result next) :
    (table state).Swept due names (table next) ∧ invariant next := by
  have swept := fold_swept table (fun name _ => turn name) initial committed
  rwa [List.flatMap_singleton'] at swept

end Tx

end Kit

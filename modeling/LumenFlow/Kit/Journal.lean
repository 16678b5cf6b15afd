import LumenFlow.Kit.Table

/-!
# Journals

A journal lists entries, latest first, and an entry may be about one subject.
A journal agrees with a table whose records say which entries about them there
should be.  Agreement is kept by writing one entry for each change of a record, and
entries about no subject do not matter.
-/

namespace Kit

variable {Entry Subject : Type} [DecidableEq Subject]

/-- The entries about a subject. -/
def about (topic : Entry → Option Subject) (subject : Subject) (journal : List Entry) :
    List Entry :=
  journal.filter fun entry => topic entry = some subject

/-- The entries about each subject are the expected ones. -/
def Agrees (topic : Entry → Option Subject) (journal : List Entry)
    (expected : Subject → List Entry) : Prop :=
  ∀ subject, about topic subject journal = expected subject

section Journal

variable {topic : Entry → Option Subject} {journal silent : List Entry} {entry : Entry}
  {subject : Subject} {before after : Subject → List Entry}

theorem about_cons_of_topic (same : topic entry = some subject) :
    about topic subject (entry :: journal) = entry :: about topic subject journal :=
  List.filter_cons_of_pos (by simp [same])

theorem about_cons_of_ne (different : topic entry ≠ some subject) :
    about topic subject (entry :: journal) = about topic subject journal :=
  List.filter_cons_of_neg (by simp [different])

theorem Agrees.cons_silent (agrees : Agrees topic journal before) (quiet : topic entry = none) :
    Agrees topic (entry :: journal) before := by
  intro subject
  rw [about_cons_of_ne (by simp [quiet])]
  exact agrees subject

theorem Agrees.append_silent (agrees : Agrees topic journal before)
    (quiet : ∀ entry ∈ silent, topic entry = none) : Agrees topic (silent ++ journal) before := by
  induction silent with
  | nil => exact agrees
  | cons entry rest inductionHypothesis =>
      obtain ⟨head, tail⟩ := List.forall_mem_cons.mp quiet
      exact (inductionHypothesis tail).cons_silent head

/-- An entry is written for the one subject whose expected entries change. -/
theorem Agrees.note (agrees : Agrees topic journal before) (named : topic entry = some subject)
    (here : after subject = entry :: before subject)
    (elsewhere : ∀ other, other ≠ subject → after other = before other) :
    Agrees topic (entry :: journal) after := by
  intro other
  by_cases same : other = subject
  · subst same
    rw [about_cons_of_topic named, here, agrees other]
  · have different : topic entry ≠ some other := by
      rw [named]
      exact fun equal => same (Option.some.inj equal).symm
    rw [about_cons_of_ne different, elsewhere other same, agrees other]

end Journal

/-- The entries that the record under a name asks for. -/
def Table.noted {Record : Type} {key : Record → Subject} (entries : Record → List Entry)
    (table : Table key) (name : Subject) : List Entry :=
  (table.get name).elim [] entries

section Records

variable {Record : Type} {key : Record → Subject} {entries : Record → List Entry}
  {table : Table key} {topic : Entry → Option Subject} {journal : List Entry} {entry : Entry}
  {record old : Record}

theorem Table.noted_of_get {name : Subject} (found : table.get name = some record) :
    table.noted entries name = entries record := by
  simp [noted, found]

theorem Table.noted_of_free {name : Subject} (free : table.get name = none) :
    table.noted entries name = [] := by
  simp [noted, free]

theorem Table.noted_put (record : Record) (name : Subject) :
    (table.put record).noted entries name =
      if name = key record then entries record else table.noted entries name := by
  simp only [noted, Table.get_put]
  split <;> rfl

theorem agrees_empty : Agrees topic [] ((Table.empty : Table key).noted entries) :=
  fun name => (Table.noted_of_free (Table.get_empty name)).symm

theorem Agrees.put_silent (agrees : Agrees topic journal (table.noted entries))
    (free : table.get (key record) = none) (nothing : entries record = []) :
    Agrees topic journal ((table.put record).noted entries) := by
  intro name
  rw [Table.noted_put, agrees name]
  split
  · next named => rw [named, nothing, Table.noted_of_free free]
  · rfl

/-- A record that asks for one entry more than the one it replaces needs that entry. -/
theorem Agrees.put_note (agrees : Agrees topic journal (table.noted entries))
    (stored : table.get (key record) = some old) (named : topic entry = some (key record))
    (more : entries record = entry :: entries old) :
    Agrees topic (entry :: journal) ((table.put record).noted entries) := by
  refine agrees.note named ?_ fun other different => ?_
  · rw [Table.noted_put, if_pos rfl, more, Table.noted_of_get stored]
  · rw [Table.noted_put, if_neg different]

end Records

end Kit

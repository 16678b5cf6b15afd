import LumenFlow.Kit.Transaction

/-!
# Frames of transactions

The state of a machine has parts, each with a reader.  A transaction writes at
most the parts of a list when every successful run leaves all other parts as they
were.  The instances derive this from the way a transaction is built: an update
needs its part on the list, and everything else passes the list on.
-/

namespace Kit

/-- The part is on the list. -/
class Listed {Part : Type} (part : Part) (parts : List Part) : Prop where
  mem : part ∈ parts

section Listed

variable {Part : Type} {part other : Part} {parts : List Part}

instance : Listed part (part :: parts) := ⟨by simp⟩

instance [listed : Listed part parts] : Listed part (other :: parts) :=
  ⟨List.mem_cons_of_mem other listed.mem⟩

end Listed

namespace Tx

variable {Env State Error Result Value Item Part : Type} {Content : Part → Type}

/-- No successful run of the transaction changes a part that is not listed. -/
class Writes (read : ∀ part, State → Content part) (tx : Tx Env State Error Result)
    (parts : List Part) : Prop where
  frame : ∀ {env state result next}, tx.Commits env state result next →
    ∀ part, part ∉ parts → read part next = read part state

section Writes

variable {read : ∀ part, State → Content part} {parts : List Part} {failure : Error}

instance (result : Result) : Writes read (pure result : Tx Env State Error Result) parts where
  frame committed _ _ := by rw [(commits_pure.mp committed).2]

instance (first : Tx Env State Error Value) (rest : Value → Tx Env State Error Result)
    [head : Writes read first parts] [tail : ∀ value, Writes read (rest value) parts] :
    Writes read (first >>= rest) parts where
  frame committed part outside := by
    obtain ⟨value, middle, firstRun, restRun⟩ := commits_bind.mp committed
    rw [(tail value).frame restRun part outside, head.frame firstRun part outside]

/-- The rule for one step of a long transaction, whose instance would be too large
to be found at once. -/
theorem writes_bind {first : Tx Env State Error Value}
    {rest : Value → Tx Env State Error Result} (head : Writes read first parts)
    (tail : ∀ value, Writes read (rest value) parts) : Writes read (first >>= rest) parts :=
  inferInstance

instance : Writes read (fail failure : Tx Env State Error Result) parts where
  frame committed := (commits_fail.mp committed).elim

instance : Writes read (ask : Tx Env State Error Env) parts where
  frame committed _ _ := by rw [(commits_ask.mp committed).2]

instance (view : State → Value) : Writes read (gets view : Tx Env State Error Value) parts where
  frame committed _ _ := by rw [(commits_gets.mp committed).2]

instance (condition : Prop) [Decidable condition] :
    Writes read (failIf condition failure : Tx Env State Error Unit) parts where
  frame committed _ _ := by rw [(commits_failIf.mp committed).2]

instance (condition : Prop) [Decidable condition] :
    Writes read (require condition failure : Tx Env State Error Unit) parts where
  frame committed _ _ := by rw [(commits_require.mp committed).2]

instance (value : Option Value) :
    Writes read (okOr value failure : Tx Env State Error Value) parts where
  frame committed _ _ := by rw [(commits_okOr.mp committed).2]

instance (condition : Prop) [Decidable condition] (first second : Tx Env State Error Result)
    [head : Writes read first parts] [tail : Writes read second parts] :
    Writes read (if condition then first else second) parts where
  frame committed part outside := by
    rcases commits_ite.mp committed with ⟨_, taken⟩ | ⟨_, taken⟩
    · exact head.frame taken part outside
    · exact tail.frame taken part outside

instance (condition : Prop) [Decidable condition] (body : Tx Env State Error Unit)
    [inner : Writes read body parts] : Writes read (when condition body) parts where
  frame committed part outside := by
    rcases commits_when.mp committed with ⟨_, taken⟩ | ⟨_, rfl⟩
    · exact inner.frame taken part outside
    · rfl

instance (value : Option Value) (body : Value → Tx Env State Error Unit)
    [inner : ∀ found, Writes read (body found) parts] :
    Writes read (whenSome value body) parts where
  frame committed part outside := by
    rcases commits_whenSome.mp committed with ⟨found, _, taken⟩ | ⟨_, rfl⟩
    · exact (inner found).frame taken part outside
    · rfl

instance (tx : Tx Env State Error Value) [inner : Writes read tx parts] :
    Writes read tx.discard parts where
  frame committed part outside := by
    obtain ⟨_, run⟩ := commits_discard.mp committed
    exact inner.frame run part outside

/-- A transaction that writes no part which the view reads keeps the view. -/
theorem Writes.keeps {View : Type} {view : State → View} {tx : Tx Env State Error Result}
    (writes : Writes read tx parts) (shown : List Part)
    (reads : ∀ before after, (∀ part ∈ shown, read part after = read part before) →
      view after = view before)
    (apart : ∀ part ∈ shown, part ∉ parts) : Keeps view tx where
  kept committed := reads _ _ fun part inside => writes.frame committed part (apart part inside)

theorem Writes.keeps_part {tx : Tx Env State Error Result} (writes : Writes read tx parts)
    {part : Part} (apart : part ∉ parts) : Keeps (read part) tx where
  kept committed := writes.frame committed part apart

instance (body : Item → Tx Env State Error Unit) (items : List Item)
    [inner : ∀ item, Writes read (body item) parts] : Writes read (each body items) parts where
  frame {env state result next} committed part outside := by
    have keeps : ∀ item, Keeps (read part) (body item) := fun item =>
      (inner item).keeps_part outside
    exact view_same (read part) committed

instance (body : Value → Item → Tx Env State Error Value) (value : Value) (items : List Item)
    [inner : ∀ value item, Writes read (body value item) parts] :
    Writes read (fold body value items) parts where
  frame {env state result next} committed part outside := by
    have keeps : ∀ value item, Keeps (read part) (body value item) := fun value item =>
      (inner value item).keeps_part outside
    exact view_same (read part) committed

end Writes

end Tx

end Kit

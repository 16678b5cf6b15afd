import Mathlib.Order.Defs.Unbundled
import Mathlib.Tactic.Common

/-!
# Transactions

A transaction reads an environment and a state.  It either fails with an error
or returns a result together with the next state.  The host commits it as a
whole: `settle` keeps the old state whenever the transaction fails.

`Commits` is the relation the proofs work with.  Its rules decompose a
transaction into its checks and its state change, one rule for each way of
building a transaction.
-/

namespace Kit

/-- A computation that is rolled back as a whole when it fails. -/
def Tx (Env State Error Result : Type) : Type :=
  Env → State → Except Error (Result × State)

namespace Tx

variable {Env State Error Result Next Value Item : Type}

instance : Monad (Tx Env State Error) where
  pure result := fun _ state => .ok (result, state)
  bind first next := fun env state =>
    match first env state with
    | .error failure => .error failure
    | .ok (result, middle) => next result env middle

/-- Abort with an error. -/
def fail (failure : Error) : Tx Env State Error Result :=
  fun _ _ => .error failure

/-- Read the environment. -/
def ask : Tx Env State Error Env :=
  fun env state => .ok (env, state)

/-- Read a part of the state. -/
def gets (view : State → Value) : Tx Env State Error Value :=
  fun _ state => .ok (view state, state)

/-- Replace the state. -/
def modify (change : State → State) : Tx Env State Error Unit :=
  fun _ state => .ok ((), change state)

/-- Abort when a condition holds. -/
def failIf (condition : Prop) [Decidable condition] (failure : Error) :
    Tx Env State Error Unit :=
  if condition then fail failure else pure ()

/-- Abort unless a condition holds. -/
def require (condition : Prop) [Decidable condition] (failure : Error) :
    Tx Env State Error Unit :=
  if condition then pure () else fail failure

/-- Take the value of an option, aborting when it is absent. -/
def okOr (value : Option Value) (failure : Error) : Tx Env State Error Value :=
  match value with
  | some found => pure found
  | none => fail failure

/-- Run a transaction only when a condition holds. -/
def when (condition : Prop) [Decidable condition] (body : Tx Env State Error Unit) :
    Tx Env State Error Unit :=
  if condition then body else pure ()

/-- Run a transaction for the value of an option, if there is one. -/
def whenSome (value : Option Value) (body : Value → Tx Env State Error Unit) :
    Tx Env State Error Unit :=
  match value with
  | some found => body found
  | none => pure ()

/-- Run a transaction for each item of a list, in order. -/
def each (body : Item → Tx Env State Error Unit) : List Item → Tx Env State Error Unit
  | [] => pure ()
  | item :: rest => do
      body item
      each body rest

/-- Run a transaction for each item of a list, in order, passing a value along. -/
def fold (body : Value → Item → Tx Env State Error Value) :
    Value → List Item → Tx Env State Error Value
  | value, [] => pure value
  | value, item :: rest => do
      let next ← body value item
      fold body next rest

/-- Run a transaction for its effect. -/
def discard (tx : Tx Env State Error Result) : Tx Env State Error Unit := do
  let _ ← tx
  pure ()

/-- The state after the host has committed or rolled back a transaction. -/
def settle (tx : Tx Env State Error Result) (env : Env) (state : State) : State :=
  match tx env state with
  | .ok (_, next) => next
  | .error _ => state

/-- The transaction succeeds with the given result and next state. -/
def Commits (tx : Tx Env State Error Result) (env : Env) (state : State)
    (result : Result) (next : State) : Prop :=
  tx env state = .ok (result, next)

/-- The transaction fails. -/
def Aborts (tx : Tx Env State Error Result) (env : Env) (state : State) : Prop :=
  ∀ result next, ¬ tx.Commits env state result next

/-- What the transaction returns when it succeeds. -/
def valueOf (tx : Tx Env State Error Result) (env : Env) (state : State) : Option Result :=
  (tx env state).toOption.map Prod.fst

section Rules

@[simp]
theorem exists_unit {property : Unit → Prop} : (∃ value, property value) ↔ property () :=
  ⟨fun ⟨_, holds⟩ => holds, fun holds => ⟨(), holds⟩⟩

variable {env : Env} {state next : State} {failure : Error}

theorem commits_deterministic {tx : Tx Env State Error Result}
    {result other : Result} {otherNext : State}
    (first : tx.Commits env state result next)
    (second : tx.Commits env state other otherNext) :
    result = other ∧ next = otherNext := by
  unfold Commits at first second
  rw [first] at second
  cases second
  exact ⟨rfl, rfl⟩

theorem valueOf_eq_some {tx : Tx Env State Error Result} {result : Result} :
    tx.valueOf env state = some result ↔ ∃ next, tx.Commits env state result next := by
  unfold valueOf Commits
  cases tx env state with
  | ok pair => simp [Except.toOption, Prod.ext_iff]
  | error failure => simp [Except.toOption]

theorem settle_of_commits {tx : Tx Env State Error Result} {result : Result}
    (committed : tx.Commits env state result next) : tx.settle env state = next := by
  unfold Commits at committed
  simp [settle, committed]

theorem settle_of_aborts {tx : Tx Env State Error Result}
    (aborted : tx.Aborts env state) : tx.settle env state = state := by
  unfold settle
  split
  · next result reached found => exact absurd found (aborted result reached)
  · rfl

theorem settle_cases (tx : Tx Env State Error Result) (env : Env) (state : State) :
    (∃ result, tx.Commits env state result (tx.settle env state)) ∨
      tx.Aborts env state ∧ tx.settle env state = state := by
  by_cases committed : ∃ result next, tx.Commits env state result next
  · obtain ⟨result, next, found⟩ := committed
    exact .inl ⟨result, settle_of_commits found ▸ found⟩
  · have aborted : tx.Aborts env state := fun result next found =>
      committed ⟨result, next, found⟩
    exact .inr ⟨aborted, settle_of_aborts aborted⟩

@[simp]
theorem commits_pure {value result : Result} :
    (pure value : Tx Env State Error Result).Commits env state result next ↔
      result = value ∧ next = state := by
  simp only [Commits, pure, Except.ok.injEq, Prod.mk.injEq]
  exact ⟨fun h => ⟨h.1.symm, h.2.symm⟩, fun h => ⟨h.1.symm, h.2.symm⟩⟩

@[simp]
theorem commits_bind {first : Tx Env State Error Value}
    {rest : Value → Tx Env State Error Result} {result : Result} :
    (first >>= rest).Commits env state result next ↔
      ∃ value middle, first.Commits env state value middle ∧
        (rest value).Commits env middle result next := by
  simp only [Commits, bind]
  cases outcome : first env state with
  | error failure => simp
  | ok pair =>
      obtain ⟨value, middle⟩ := pair
      constructor
      · intro finished
        exact ⟨value, middle, rfl, finished⟩
      · rintro ⟨_, _, ⟨⟩, finished⟩
        exact finished

@[simp]
theorem commits_fail {result : Result} :
    (fail failure : Tx Env State Error Result).Commits env state result next ↔ False := by
  simp [Commits, fail]

@[simp]
theorem commits_ask {result : Env} :
    (ask : Tx Env State Error Env).Commits env state result next ↔
      result = env ∧ next = state := by
  simp only [Commits, ask, Except.ok.injEq, Prod.mk.injEq]
  exact ⟨fun h => ⟨h.1.symm, h.2.symm⟩, fun h => ⟨h.1.symm, h.2.symm⟩⟩

@[simp]
theorem commits_gets {view : State → Value} {result : Value} :
    (gets view : Tx Env State Error Value).Commits env state result next ↔
      result = view state ∧ next = state := by
  simp only [Commits, gets, Except.ok.injEq, Prod.mk.injEq]
  exact ⟨fun h => ⟨h.1.symm, h.2.symm⟩, fun h => ⟨h.1.symm, h.2.symm⟩⟩

@[simp]
theorem commits_modify {change : State → State} {result : Unit} :
    (modify change : Tx Env State Error Unit).Commits env state result next ↔
      next = change state := by
  simp only [Commits, modify, Except.ok.injEq, Prod.mk.injEq, true_and]
  exact eq_comm

@[simp]
theorem commits_failIf {condition : Prop} [Decidable condition] {result : Unit} :
    (failIf condition failure : Tx Env State Error Unit).Commits env state result next ↔
      ¬ condition ∧ next = state := by
  unfold failIf
  split <;> simp [*]

@[simp]
theorem commits_require {condition : Prop} [Decidable condition] {result : Unit} :
    (require condition failure : Tx Env State Error Unit).Commits env state result next ↔
      condition ∧ next = state := by
  unfold require
  split <;> simp [*]

@[simp]
theorem commits_okOr {value : Option Value} {result : Value} :
    (okOr value failure : Tx Env State Error Value).Commits env state result next ↔
      value = some result ∧ next = state := by
  cases value with
  | none => simp [okOr]
  | some found => simp [okOr, eq_comm]

@[simp]
theorem commits_when {condition : Prop} [Decidable condition]
    {body : Tx Env State Error Unit} {result : Unit} :
    (when condition body).Commits env state result next ↔
      (condition ∧ body.Commits env state result next) ∨ (¬ condition ∧ next = state) := by
  unfold when
  split <;> simp [*]

@[simp]
theorem commits_whenSome {value : Option Value}
    {body : Value → Tx Env State Error Unit} {result : Unit} :
    (whenSome value body).Commits env state result next ↔
      (∃ found, value = some found ∧ (body found).Commits env state result next) ∨
        (value = none ∧ next = state) := by
  cases value with
  | none => simp [whenSome]
  | some found => simp [whenSome]

@[simp]
theorem commits_discard {tx : Tx Env State Error Value} {result : Unit} :
    tx.discard.Commits env state result next ↔ ∃ value, tx.Commits env state value next := by
  simp [discard]

@[simp]
theorem commits_ite {condition : Prop} [Decidable condition]
    {first second : Tx Env State Error Result} {result : Result} :
    (if condition then first else second).Commits env state result next ↔
      (condition ∧ first.Commits env state result next) ∨
        (¬ condition ∧ second.Commits env state result next) := by
  split <;> simp [*]

@[simp]
theorem commits_each_nil {body : Item → Tx Env State Error Unit} {result : Unit} :
    (each body []).Commits env state result next ↔ next = state := by
  simp [each]

@[simp]
theorem commits_each_cons {body : Item → Tx Env State Error Unit}
    {item : Item} {rest : List Item} {result : Unit} :
    (each body (item :: rest)).Commits env state result next ↔
      ∃ middle, (body item).Commits env state () middle ∧
        (each body rest).Commits env middle result next := by
  simp [each]

@[simp]
theorem commits_fold_nil {body : Value → Item → Tx Env State Error Value}
    {value result : Value} :
    (fold body value []).Commits env state result next ↔ result = value ∧ next = state := by
  simp [fold]

@[simp]
theorem commits_fold_cons {body : Value → Item → Tx Env State Error Value}
    {item : Item} {rest : List Item} {value result : Value} :
    (fold body value (item :: rest)).Commits env state result next ↔
      ∃ between middle, (body value item).Commits env state between middle ∧
        (fold body between rest).Commits env middle result next := by
  simp [fold]

theorem discard_bind {first : Tx Env State Error Value}
    {rest : Value → Tx Env State Error Result} :
    (first >>= rest).discard = first >>= fun value => (rest value).discard := by
  funext env state
  simp only [discard, bind]
  cases first env state <;> rfl

theorem fold_map {Source : Type} {body : Value → Item → Tx Env State Error Value}
    (image : Source → Item) (value : Value) (items : List Source) :
    fold body value (items.map image) =
      fold (fun value item => body value (image item)) value items := by
  induction items generalizing value with
  | nil => rfl
  | cons item rest inductionHypothesis =>
      simp only [List.map_cons, fold, inductionHypothesis]

/-- A loop commits as another one does if its body does so for each item. -/
theorem commits_fold_mono {body other : Value → Item → Tx Env State Error Value}
    {items : List Item} {value result : Value}
    (implies : ∀ item ∈ items, ∀ value state between middle,
      (body value item).Commits env state between middle →
        (other value item).Commits env state between middle)
    (committed : (fold body value items).Commits env state result next) :
    (fold other value items).Commits env state result next := by
  induction items generalizing value state with
  | nil => exact committed
  | cons item rest inductionHypothesis =>
      obtain ⟨between, middle, head, tail⟩ := commits_fold_cons.mp committed
      obtain ⟨implied, restImplied⟩ := List.forall_mem_cons.mp implies
      exact commits_fold_cons.mpr
        ⟨between, middle, implied _ _ _ _ head, inductionHypothesis restImplied tail⟩

end Rules

/-- Every successful run of the transaction relates its two states. -/
def Respects (relation : State → State → Prop) (tx : Tx Env State Error Result) : Prop :=
  ∀ env state result next, tx.Commits env state result next → relation state next

section Respects

variable {relation : State → State → Prop} [IsPreorder State relation]

theorem respects_gets (view : State → Value) :
    Respects relation (gets view : Tx Env State Error Value) := by
  intro env state result next committed
  obtain ⟨_, rfl⟩ := commits_gets.mp committed
  exact refl_of relation _

theorem respects_bind {first : Tx Env State Error Value}
    {rest : Value → Tx Env State Error Result} (head : Respects relation first)
    (tail : ∀ value, Respects relation (rest value)) : Respects relation (first >>= rest) := by
  intro env state result next committed
  obtain ⟨value, middle, firstRun, restRun⟩ := commits_bind.mp committed
  exact trans_of relation (head env state value middle firstRun)
    (tail value env middle result next restRun)

theorem respects_each {body : Item → Tx Env State Error Unit} {items : List Item}
    (step : ∀ item ∈ items, Respects relation (body item)) :
    Respects relation (each body items) := by
  induction items with
  | nil =>
      intro env state result next committed
      rw [commits_each_nil.mp committed]
      exact refl_of relation state
  | cons item rest inductionHypothesis =>
      obtain ⟨head, tail⟩ := List.forall_mem_cons.mp step
      exact respects_bind head fun _ => inductionHypothesis tail

theorem respects_fold {body : Value → Item → Tx Env State Error Value} {items : List Item}
    (step : ∀ value, ∀ item ∈ items, Respects relation (body value item)) (value : Value) :
    Respects relation (fold body value items) := by
  induction items generalizing value with
  | nil =>
      intro env state result next committed
      rw [(commits_fold_nil.mp committed).2]
      exact refl_of relation state
  | cons item rest inductionHypothesis =>
      refine respects_bind (step value item (by simp)) fun between => ?_
      exact inductionHypothesis
        (fun value other membership => step value other (by simp [membership])) between

end Respects

/-- A loop relates its value and its state to those before it as its turns do. -/
theorem fold_related {relation : Value × State → Value × State → Prop}
    [IsPreorder (Value × State) relation] {body : Value → Item → Tx Env State Error Value}
    {items : List Item}
    (turn : ∀ item ∈ items, ∀ value state between middle,
      (body value item).Commits env state between middle →
        relation (value, state) (between, middle))
    {value result : Value} (committed : (fold body value items).Commits env state result next) :
    relation (value, state) (result, next) := by
  induction items generalizing value state with
  | nil =>
      obtain ⟨rfl, rfl⟩ := commits_fold_nil.mp committed
      exact refl_of relation _
  | cons item rest inductionHypothesis =>
      obtain ⟨between, middle, head, tail⟩ := commits_fold_cons.mp committed
      obtain ⟨here, others⟩ := List.forall_mem_cons.mp turn
      exact trans_of relation (here value state between middle head)
        (inductionHypothesis others tail)

/-- No successful run of the transaction changes what the view shows.  The
instances derive this from the way a transaction is built. -/
class Keeps (view : State → Value) (tx : Tx Env State Error Result) : Prop where
  kept : ∀ {env state result next}, tx.Commits env state result next → view next = view state

section Keeps

variable {View : Type} {view : State → View} {failure : Error}

theorem view_same (view : State → View) {tx : Tx Env State Error Result} [keeps : Keeps view tx]
    {env : Env} {state next : State} {result : Result}
    (committed : tx.Commits env state result next) : view next = view state :=
  keeps.kept committed

instance (result : Result) : Keeps view (pure result : Tx Env State Error Result) where
  kept committed := by rw [(commits_pure.mp committed).2]

instance (first : Tx Env State Error Value) (rest : Value → Tx Env State Error Result)
    [head : Keeps view first] [tail : ∀ value, Keeps view (rest value)] :
    Keeps view (first >>= rest) where
  kept committed := by
    obtain ⟨value, middle, firstRun, restRun⟩ := commits_bind.mp committed
    rw [(tail value).kept restRun, head.kept firstRun]

/-- The rule for one step of a long transaction, whose instance would be too large
to be found at once. -/
theorem keeps_bind {first : Tx Env State Error Value} {rest : Value → Tx Env State Error Result}
    (head : Keeps view first) (tail : ∀ value, Keeps view (rest value)) :
    Keeps view (first >>= rest) :=
  inferInstance

instance : Keeps view (fail failure : Tx Env State Error Result) where
  kept committed := (commits_fail.mp committed).elim

instance : Keeps view (ask : Tx Env State Error Env) where
  kept committed := by rw [(commits_ask.mp committed).2]

instance (other : State → Value) : Keeps view (gets other : Tx Env State Error Value) where
  kept committed := by rw [(commits_gets.mp committed).2]

instance (condition : Prop) [Decidable condition] :
    Keeps view (failIf condition failure : Tx Env State Error Unit) where
  kept committed := by rw [(commits_failIf.mp committed).2]

instance (condition : Prop) [Decidable condition] :
    Keeps view (require condition failure : Tx Env State Error Unit) where
  kept committed := by rw [(commits_require.mp committed).2]

instance (value : Option Value) : Keeps view (okOr value failure : Tx Env State Error Value) where
  kept committed := by rw [(commits_okOr.mp committed).2]

instance (condition : Prop) [Decidable condition] (first second : Tx Env State Error Result)
    [head : Keeps view first] [tail : Keeps view second] :
    Keeps view (if condition then first else second) where
  kept committed := by
    rcases commits_ite.mp committed with ⟨_, taken⟩ | ⟨_, taken⟩
    · exact head.kept taken
    · exact tail.kept taken

instance (condition : Prop) [Decidable condition] (body : Tx Env State Error Unit)
    [inner : Keeps view body] : Keeps view (when condition body) where
  kept committed := by
    rcases commits_when.mp committed with ⟨_, taken⟩ | ⟨_, rfl⟩
    · exact inner.kept taken
    · rfl

instance (value : Option Value) (body : Value → Tx Env State Error Unit)
    [inner : ∀ found, Keeps view (body found)] : Keeps view (whenSome value body) where
  kept committed := by
    rcases commits_whenSome.mp committed with ⟨found, _, taken⟩ | ⟨_, rfl⟩
    · exact (inner found).kept taken
    · rfl

/-- The view shows the same before and after. -/
def SameView (view : State → View) (before after : State) : Prop := view after = view before

instance : IsPreorder State (SameView view) where
  refl _ := rfl
  trans _ _ _ head tail := Eq.trans tail head

instance (body : Item → Tx Env State Error Unit) (items : List Item)
    [inner : ∀ item, Keeps view (body item)] : Keeps view (each body items) where
  kept {env state result next} committed := by
    have loop : Respects (SameView view) (each body items) :=
      respects_each fun item _ _ _ _ _ run => (inner item).kept run
    exact loop env state result next committed

instance (body : Value → Item → Tx Env State Error Value) (value : Value) (items : List Item)
    [inner : ∀ value item, Keeps view (body value item)] : Keeps view (fold body value items) where
  kept {env state result next} committed := by
    have loop : Respects (SameView view) (fold body value items) :=
      respects_fold (fun value item _ _ _ _ _ run => (inner value item).kept run) value
    exact loop env state result next committed

instance (tx : Tx Env State Error Value) [inner : Keeps view tx] : Keeps view tx.discard where
  kept committed := by
    obtain ⟨_, run⟩ := commits_discard.mp committed
    exact inner.kept run

end Keeps

end Tx

end Kit

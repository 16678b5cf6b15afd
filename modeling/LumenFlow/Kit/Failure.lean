import LumenFlow.Kit.Transaction

/-!
# Failing transactions

The rules by which a transaction fails with an error, one for each way of building a
transaction.  A sequence fails where its first failing step does, so it fails only with what
its steps fail with.
-/

namespace Kit

namespace Tx

variable {Env State Error Result Value Item : Type}

/-- The transaction fails with the error. -/
def Fails (tx : Tx Env State Error Result) (env : Env) (state : State) (failure : Error) : Prop :=
  tx env state = .error failure

/-- What the transaction fails with, if it fails. -/
def failure (tx : Tx Env State Error Result) (env : Env) (state : State) : Option Error :=
  match tx env state with
  | .ok _ => none
  | .error failure => some failure

section Rules

variable {env : Env} {state : State} {failure other : Error}

theorem failure_eq_some_iff {tx : Tx Env State Error Result} :
    tx.failure env state = some failure ↔ tx.Fails env state failure := by
  unfold Tx.failure Fails
  split <;> simp [*]

theorem Fails.not_commits {tx : Tx Env State Error Result} {result : Result} {next : State}
    (failed : tx.Fails env state failure) : ¬ tx.Commits env state result next := by
  unfold Fails at failed
  simp [Commits, failed]

@[simp]
theorem fails_pure {result : Result} :
    (pure result : Tx Env State Error Result).Fails env state failure ↔ False := by
  simp [Fails, pure]

@[simp]
theorem fails_bind {first : Tx Env State Error Value}
    {rest : Value → Tx Env State Error Result} :
    (first >>= rest).Fails env state failure ↔
      first.Fails env state failure ∨
        ∃ value middle, first.Commits env state value middle ∧
          (rest value).Fails env middle failure := by
  simp only [Fails, Commits, bind]
  cases outcome : first env state with
  | error cause => simp
  | ok pair =>
      obtain ⟨value, middle⟩ := pair
      constructor
      · exact fun failed => .inr ⟨value, middle, rfl, failed⟩
      · rintro (⟨⟨⟩⟩ | ⟨_, _, ⟨⟩, failed⟩)
        exact failed

@[simp]
theorem fails_fail :
    (fail other : Tx Env State Error Result).Fails env state failure ↔ failure = other := by
  simp only [Fails, fail, Except.error.injEq]
  exact eq_comm

@[simp]
theorem fails_ask : (ask : Tx Env State Error Env).Fails env state failure ↔ False := by
  simp [Fails, ask]

@[simp]
theorem fails_gets {view : State → Value} :
    (gets view : Tx Env State Error Value).Fails env state failure ↔ False := by
  simp [Fails, gets]

@[simp]
theorem fails_modify {change : State → State} :
    (modify change : Tx Env State Error Unit).Fails env state failure ↔ False := by
  simp [Fails, modify]

@[simp]
theorem fails_failIf {condition : Prop} [Decidable condition] :
    (failIf condition other : Tx Env State Error Unit).Fails env state failure ↔
      condition ∧ failure = other := by
  unfold failIf
  split <;> simp [*]

@[simp]
theorem fails_require {condition : Prop} [Decidable condition] :
    (require condition other : Tx Env State Error Unit).Fails env state failure ↔
      ¬ condition ∧ failure = other := by
  unfold require
  split <;> simp [*]

@[simp]
theorem fails_okOr {value : Option Value} :
    (okOr value other : Tx Env State Error Value).Fails env state failure ↔
      value = none ∧ failure = other := by
  cases value with
  | none => simp [okOr]
  | some found => simp [okOr]

@[simp]
theorem fails_when {condition : Prop} [Decidable condition] {body : Tx Env State Error Unit} :
    (when condition body).Fails env state failure ↔
      condition ∧ body.Fails env state failure := by
  unfold when
  split <;> simp [*]

@[simp]
theorem fails_whenSome {value : Option Value} {body : Value → Tx Env State Error Unit} :
    (whenSome value body).Fails env state failure ↔
      ∃ found, value = some found ∧ (body found).Fails env state failure := by
  cases value with
  | none => simp [whenSome]
  | some found => simp [whenSome]

@[simp]
theorem fails_discard {tx : Tx Env State Error Value} :
    tx.discard.Fails env state failure ↔ tx.Fails env state failure := by
  simp [discard]

@[simp]
theorem fails_ite {condition : Prop} [Decidable condition]
    {first second : Tx Env State Error Result} :
    (if condition then first else second).Fails env state failure ↔
      (condition ∧ first.Fails env state failure) ∨
        (¬ condition ∧ second.Fails env state failure) := by
  split <;> simp [*]

end Rules

/-- The value is true once its reducible definitions are unfolded. -/
class Evaluates (value : Bool) : Prop where
  holds : value = true

instance : Evaluates true := ⟨rfl⟩

/-- Whatever the transaction fails with is among the possible failures.  The instances derive
this from the way a transaction is built. -/
class Raises (possible : Error → Bool) (tx : Tx Env State Error Result) : Prop where
  among : ∀ {env state failure}, tx.Fails env state failure → possible failure = true

section Raises

variable {possible : Error → Bool} {failure : Error}

instance (result : Result) : Raises possible (pure result : Tx Env State Error Result) where
  among failed := (fails_pure.mp failed).elim

instance (first : Tx Env State Error Value) (rest : Value → Tx Env State Error Result)
    [head : Raises possible first] [tail : ∀ value, Raises possible (rest value)] :
    Raises possible (first >>= rest) where
  among failed := by
    rcases fails_bind.mp failed with failed | ⟨value, middle, _, failed⟩
    · exact head.among failed
    · exact (tail value).among failed

/-- The rule for one step of a long transaction, whose instance would be too large
to be found at once. -/
theorem raises_bind {first : Tx Env State Error Value}
    {rest : Value → Tx Env State Error Result} (head : Raises possible first)
    (tail : ∀ value, Raises possible (rest value)) : Raises possible (first >>= rest) :=
  inferInstance

instance [listed : Evaluates (possible failure)] :
    Raises possible (fail failure : Tx Env State Error Result) where
  among failed := by rw [fails_fail.mp failed, listed.holds]

instance : Raises possible (ask : Tx Env State Error Env) where
  among failed := (fails_ask.mp failed).elim

instance (view : State → Value) : Raises possible (gets view : Tx Env State Error Value) where
  among failed := (fails_gets.mp failed).elim

instance (change : State → State) :
    Raises possible (modify change : Tx Env State Error Unit) where
  among failed := (fails_modify.mp failed).elim

instance (condition : Prop) [Decidable condition] [listed : Evaluates (possible failure)] :
    Raises possible (failIf condition failure : Tx Env State Error Unit) where
  among failed := by rw [(fails_failIf.mp failed).2, listed.holds]

instance (condition : Prop) [Decidable condition] [listed : Evaluates (possible failure)] :
    Raises possible (require condition failure : Tx Env State Error Unit) where
  among failed := by rw [(fails_require.mp failed).2, listed.holds]

instance (value : Option Value) [listed : Evaluates (possible failure)] :
    Raises possible (okOr value failure : Tx Env State Error Value) where
  among failed := by rw [(fails_okOr.mp failed).2, listed.holds]

instance (condition : Prop) [Decidable condition] (first second : Tx Env State Error Result)
    [head : Raises possible first] [tail : Raises possible second] :
    Raises possible (if condition then first else second) where
  among failed := by
    rcases fails_ite.mp failed with ⟨_, failed⟩ | ⟨_, failed⟩
    · exact head.among failed
    · exact tail.among failed

instance (condition : Prop) [Decidable condition] (body : Tx Env State Error Unit)
    [inner : Raises possible body] : Raises possible (when condition body) where
  among failed := inner.among (fails_when.mp failed).2

instance (value : Option Value) (body : Value → Tx Env State Error Unit)
    [inner : ∀ found, Raises possible (body found)] : Raises possible (whenSome value body) where
  among failed := by
    obtain ⟨found, _, failed⟩ := fails_whenSome.mp failed
    exact (inner found).among failed

instance (tx : Tx Env State Error Value) [inner : Raises possible tx] :
    Raises possible tx.discard where
  among failed := inner.among (fails_discard.mp failed)

instance (body : Item → Tx Env State Error Unit) (items : List Item)
    [turn : ∀ item, Raises possible (body item)] : Raises possible (each body items) := by
  induction items with
  | nil => exact inferInstanceAs (Raises possible (pure ()))
  | cons item rest inductionHypothesis => exact raises_bind (turn item) fun _ => inductionHypothesis

instance (body : Value → Item → Tx Env State Error Value) (value : Value) (items : List Item)
    [turn : ∀ value item, Raises possible (body value item)] :
    Raises possible (fold body value items) := by
  induction items generalizing value with
  | nil => exact inferInstanceAs (Raises possible (pure value))
  | cons item rest inductionHypothesis => exact raises_bind (turn value item) inductionHypothesis

end Raises

/-- Whenever the transaction fails with the error, the state before it gives the reason. -/
def Explains (tx : Tx Env State Error Result) (failure : Error) (reason : State → Prop) : Prop :=
  ∀ {env state}, tx.Fails env state failure → reason state

section Explains

variable (possible : Error → Bool) {failure : Error} {reason : State → Prop}
  {first : Tx Env State Error Value} {rest : Value → Tx Env State Error Result}

theorem not_fails_of_raises {env : Env} {state : State} (tx : Tx Env State Error Result)
    [raises : Raises possible tx] (excluded : possible failure = false) :
    ¬ tx.Fails env state failure := by
  intro failed
  rw [raises.among failed] at excluded
  cases excluded

theorem explains_of_raises (tx : Tx Env State Error Result) [Raises possible tx]
    (excluded : possible failure = false) : tx.Explains failure reason :=
  fun failed => (not_fails_of_raises possible tx excluded failed).elim

theorem fails_rest [Raises possible first] {env : Env} {state : State}
    (failed : (first >>= rest).Fails env state failure) (excluded : possible failure = false) :
    ∃ value middle, first.Commits env state value middle ∧
      (rest value).Fails env middle failure := by
  rcases fails_bind.mp failed with failed | failed
  · exact (not_fails_of_raises possible first excluded failed).elim
  · exact failed

/-- A first step that does not fail with the error leaves the reason to the rest. -/
theorem explains_bind_rest [Raises possible first] (excluded : possible failure = false)
    (kept : ∀ {env state value next}, first.Commits env state value next → reason next →
      reason state)
    (tail : ∀ value, (rest value).Explains failure reason) :
    (first >>= rest).Explains failure reason := by
  intro env state failed
  obtain ⟨value, middle, committed, failed⟩ := fails_rest possible failed excluded
  exact kept committed (tail value failed)

theorem explains_bind_first [∀ value, Raises possible (rest value)]
    (excluded : possible failure = false) (head : first.Explains failure reason) :
    (first >>= rest).Explains failure reason := by
  intro env state failed
  rcases fails_bind.mp failed with failed | ⟨value, middle, committed, failed⟩
  · exact head failed
  · exact (not_fails_of_raises possible (rest value) excluded failed).elim

end Explains

end Tx

end Kit

import LumenFlow.Effect.Escrow
import LumenFlow.Effect.Merchants
import LumenFlow.Effect.Multisig
import LumenFlow.Effect.Refunds
import LumenFlow.Effect.Subscriptions

/-!
# Effects of the actions

Every action of a run changes the books in one of three ways: by a call whose
effect is listed, by a token operation of a third party, or by the clock.
-/

namespace LumenFlow

open Kit

theorem Call.effect {env : Env} {world next : World} {call : Call}
    (committed : call.exec.Commits env world () next) :
    Effect env world.books call next.books := by
  cases call with
  | admin => exact AdminCall.effect committed
  | merchant => exact MerchantCall.effect committed
  | payment => exact PaymentCall.effect committed
  | refund => exact RefundCall.effect committed
  | multisig => exact MultisigCall.effect committed
  | subscription => exact SubscriptionCall.effect committed
  | escrow => exact EscrowCall.effect committed

/-- What third parties can do to the tokens of an account that has granted no
allowance: send it more. -/
def OutsideMove (self : Address) (before after : TokenLedger Address Address) : Prop :=
  (∀ token spender, before.allowance token self spender = 0) →
    (∀ token, before.balance token self ≤ after.balance token self) ∧
      ∀ token spender, after.allowance token self spender = 0

theorem OutsideMove.refl (self : Address) (bank : TokenLedger Address Address) :
    OutsideMove self bank bank :=
  fun granted => ⟨fun _ => le_refl _, granted⟩

theorem TokenAction.outsideMove {self : Address} {operation : TokenAction}
    {bank next : TokenLedger Address Address} (foreign : operation.authoriser ≠ some self)
    (applied : operation.apply bank = some next) : OutsideMove self bank next := by
  intro granted
  cases operation with
  | transfer token sender recipient amount =>
      have other : self ≠ sender := fun same => foreign (congrArg some same.symm)
      obtain ⟨nonneg, _, rfl⟩ := TokenLedger.transfer_eq_some.mp applied
      refine ⟨fun held => ?_, granted⟩
      rw [TokenLedger.balance_move]
      simp only [other, and_false, if_false]
      split_ifs <;> omega
  | transferFrom token spender owner recipient amount =>
      obtain ⟨nonneg, _, allowed, rfl⟩ := TokenLedger.transferFrom_eq_some.mp applied
      -- an owner without allowances can only have nothing taken from it
      have nothing : self = owner → amount = 0 := by
        rintro rfl
        rw [granted] at allowed
        omega
      refine ⟨fun held => ?_, fun held reader => ?_⟩
      · rw [TokenLedger.balance_setAllowance, TokenLedger.balance_move]
        by_cases own : self = owner
        · simp [nothing own]
        · simp only [own, and_false, if_false]
          split_ifs <;> omega
      · rw [TokenLedger.allowance_setAllowance]
        split_ifs with same
        · obtain ⟨rfl, rfl, rfl⟩ := same
          rw [granted, nothing rfl]
          rfl
        · exact granted held reader
  | approve token owner spender amount =>
      have other : self ≠ owner := fun same => foreign (congrArg some same.symm)
      obtain ⟨_, rfl⟩ := TokenLedger.approve_eq_some.mp applied
      refine ⟨fun held => le_refl _, fun held reader => ?_⟩
      rw [TokenLedger.allowance_setAllowance, if_neg (by simp [other])]
      exact granted held reader
  | mint token recipient amount =>
      simp only [TokenAction.apply, Option.ite_none_right_eq_some, Option.some.injEq] at applied
      obtain ⟨nonneg, rfl⟩ := applied
      refine ⟨fun held => ?_, granted⟩
      rw [TokenLedger.balance_credit]
      split_ifs <;> omega
  | burn token owner amount =>
      have other : self ≠ owner := fun same => foreign (congrArg some same.symm)
      simp only [TokenAction.apply, Option.ite_none_right_eq_some, Option.some.injEq] at applied
      obtain ⟨_, rfl⟩ := applied
      refine ⟨fun held => ?_, granted⟩
      simp [TokenLedger.balance_credit, other]

/-- The changes of the books that an action can make when only some calls may
succeed. -/
inductive Change (host : Host) (allowed : Books → Call → Prop) (books : Books) :
    Action → Books → Prop where
  | called (auth : List Address) (permits : TokenCall → Bool) (call : Call) (next : Books)
      (admitted : allowed books call) (effect : Effect (host.env auth permits) books call next) :
      Change host allowed books (.invoke auth permits call) next
  | refused (auth : List Address) (permits : TokenCall → Bool) (call : Call) :
      Change host allowed books (.invoke auth permits call) books
  | outside (operation : TokenAction) (bank : TokenLedger Address Address)
      (moved : OutsideMove host.self books.bank bank) :
      Change host allowed books (.tokens operation) { books with bank }
  | passed (ledgers seconds : Nat) :
      Change host allowed books (.advance ledgers seconds)
        { books with timestamp := min u64Max (books.timestamp + seconds) }

/-- The action does not succeed with a call that is not allowed. -/
def Admits (host : Host) (allowed : Books → Call → Prop) (world : World) : Action → Prop
  | .invoke auth permits call =>
      ∀ next, Succeeds host world auth permits call next → allowed world.books call
  | _ => True

variable {host : Host} {world : World}

theorem succeeds_iff {auth : List Address} {permits : TokenCall → Bool} {call : Call}
    {next : World} :
    Succeeds host world auth permits call next ↔
      call.Fits ∧ call.exec.Commits (host.env auth permits) world () next := by
  simp [Succeeds, Call.dispatch, and_assoc]

theorem Succeeds.executes {auth : List Address} {permits : TokenCall → Bool} {call : Call}
    {next : World} (succeeded : Succeeds host world auth permits call next) :
    call.exec.Commits (host.env auth permits) world () next :=
  (succeeds_iff.mp succeeded).2

theorem Succeeds.effect {auth : List Address} {permits : TokenCall → Bool} {call : Call}
    {next : World} (succeeded : Succeeds host world auth permits call next) :
    Effect (host.env auth permits) world.books call next.books :=
  Call.effect succeeded.executes

theorem Succeeds.step_eq {auth : List Address} {permits : TokenCall → Bool} {call : Call}
    {next : World} (succeeded : Succeeds host world auth permits call next) :
    step host world (.invoke auth permits call) = next :=
  Tx.settle_of_commits succeeded

/-- An invocation either succeeds or leaves the world as it was. -/
theorem step_invoke_cases (host : Host) (world : World) (auth : List Address)
    (permits : TokenCall → Bool) (call : Call) :
    Succeeds host world auth permits call (step host world (.invoke auth permits call)) ∨
      (∀ next, ¬ Succeeds host world auth permits call next) ∧
        step host world (.invoke auth permits call) = world := by
  rcases Tx.settle_cases call.dispatch (host.env auth permits) world with
    ⟨_, committed⟩ | ⟨aborted, same⟩
  · exact .inl committed
  · exact .inr ⟨aborted (), same⟩

theorem step_eq_of_not_succeeds {auth : List Address} {permits : TokenCall → Bool} {call : Call}
    (fails : ∀ next, ¬ Succeeds host world auth permits call next) :
    step host world (.invoke auth permits call) = world := by
  rcases step_invoke_cases host world auth permits call with succeeded | ⟨_, same⟩
  · exact absurd succeeded (fails _)
  · exact same

theorem succeeds_of_changed {View : Type} (view : World → View) {auth : List Address}
    {permits : TokenCall → Bool} {call : Call}
    (changed : view (step host world (.invoke auth permits call)) ≠ view world) :
    Succeeds host world auth permits call (step host world (.invoke auth permits call)) := by
  rcases step_invoke_cases host world auth permits call with succeeded | ⟨_, same⟩
  · exact succeeded
  · exact absurd (congrArg view same) changed

/-- Every admitted action of a run makes one of the listed changes. -/
theorem step_change {allowed : Books → Call → Prop} {action : Action}
    (admitted : Admits host allowed world action) :
    Change host allowed world.books action (step host world action).books := by
  cases action with
  | invoke auth permits call =>
      rcases step_invoke_cases host world auth permits call with succeeded | ⟨_, same⟩
      · exact .called auth permits call _ (admitted _ succeeded) succeeded.effect
      · rw [same]
        exact .refused auth permits call
  | tokens operation =>
      have moved : OutsideMove host.self world.bank (step host world (.tokens operation)).bank := by
        simp only [step]
        split
        · exact .refl _ _
        · next foreign =>
            cases applied : operation.apply world.bank with
            | none => exact .refl _ _
            | some bank => exact operation.outsideMove foreign applied
      have books : (step host world (.tokens operation)).books =
          { world.books with bank := (step host world (.tokens operation)).bank } := by
        simp only [step]
        split <;> rfl
      rw [books]
      exact .outside operation _ moved
  | advance ledgers seconds => exact .passed ledgers seconds

/-- Nothing is ruled out. -/
def AnyCall (_ : Books) (_ : Call) : Prop := True

theorem admits_anyCall (host : Host) (world : World) (action : Action) :
    Admits host AnyCall world action := by
  cases action <;> simp [Admits, AnyCall]

/-- The call meets both conditions. -/
def BothAllow (first second : Books → Call → Prop) (books : Books) (call : Call) : Prop :=
  first books call ∧ second books call

theorem along_bothAllow {first second : Books → Call → Prop} {actions : List Action}
    (head : Along (step host) (Admits host first) world actions)
    (tail : Along (step host) (Admits host second) world actions) :
    Along (step host) (Admits host (BothAllow first second)) world actions := by
  refine along_mono (fun world action both => ?_) ((along_and world actions).mpr ⟨head, tail⟩)
  cases action with
  | invoke auth permits call => exact fun next succeeded =>
      ⟨both.1 next succeeded, both.2 next succeeded⟩
  | _ => trivial

/-- An invariant of the books that every change keeps holds after every run whose
actions are admitted. -/
theorem books_invariant {allowed : Books → Call → Prop} {invariant : Books → Prop}
    (kept : ∀ books action next, invariant books → Change host allowed books action next →
      invariant next)
    {actions : List Action} (initial : invariant world.books)
    (admitted : Along (step host) (Admits host allowed) world actions) :
    invariant (run (step host) world actions).books := by
  have stepwise : ∀ world action, invariant (World.books world) → Admits host allowed world action →
      invariant (step host world action).books :=
    fun _ action holds admitted => kept _ action _ holds (step_change admitted)
  exact run_invariant_along stepwise initial admitted

end LumenFlow

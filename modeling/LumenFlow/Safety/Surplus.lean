import LumenFlow.Safety.Solvency

/-!
# The surplus of the contract

What the contract holds beyond its open escrows and holds.  Deposits and settlements leave the
surplus as it is, and nothing else spends from the contract, so the surplus only grows: no
deposit is ever paid out of the tokens of somebody else, and a gift is never paid out at all.
-/

namespace LumenFlow

open Kit

/-- What the contract holds in a token and owes to nobody. -/
def Books.surplus (contract : Address) (books : Books) (token : Address) : Int :=
  books.bank.balance token contract - books.owed token

section Steps

variable {contract : Address} {books next : Books}

theorem Books.surplus_le_of_gain (escrows : next.escrows = books.escrows)
    (holds : next.holds = books.holds)
    (gained : ∀ token, books.bank.balance token contract ≤ next.bank.balance token contract)
    (token : Address) : books.surplus contract token ≤ next.surplus contract token := by
  have same : next.owed token = books.owed token := by rw [owed, owed, escrows, holds]
  rw [surplus, surplus, same]
  exact Int.sub_le_sub_right (gained token) _

theorem Books.surplus_le_of_settled {amount : Int} {token : Address}
    (owed : next.owed token = books.owed token - amount)
    (paid : books.bank.balance token contract - amount ≤ next.bank.balance token contract) :
    books.surplus contract token ≤ next.surplus contract token := by
  unfold surplus
  omega

theorem Books.surplus_le_of_deposited {amount : Int} {token : Address}
    (owed : next.owed token = books.owed token + amount)
    (received : next.bank.balance token contract = books.bank.balance token contract + amount) :
    books.surplus contract token ≤ next.surplus contract token := by
  unfold surplus
  omega

variable {env : Env} {call : Call}

theorem Effect.surplus_le (clean : books.Clean env.host.self)
    (effect : Effect env books call next) (token : Address) :
    books.surplus env.host.self token ≤ next.surplus env.host.self token := by
  cases effect with
  | paid call orders profiles transfers listed distinct fresh opened known charged =>
      apply Books.surplus_le_of_gain (by simp) (by simp)
      intro token
      exact Books.balance_le_settleAll (fun transfer membership =>
        ⟨(charged transfer membership).1.ne_self, (charged transfer membership).2.2⟩) token
  | refundExecuted refund payment stored approved order authorised =>
      apply Books.surplus_le_of_gain (by rfl) (by rfl)
      exact Books.balance_le_settle authorised.ne_self (clean.refunds _ refund stored).le
  | refundForced admin resolution dispute refund payment raised unresolved stored order =>
      apply Books.surplus_le_of_gain (by rfl) (by rfl)
      exact Books.balance_le_settle (clean.orders _ payment order).1
        (clean.refunds _ refund stored).le
  | multisigPaid payer multisig stored pending authorised =>
      apply Books.surplus_le_of_gain (by rfl) (by rfl)
      exact Books.balance_le_settle authorised.ne_self (clean.multisigs _ multisig stored).2.le
  | requestPaid payer request stored fresh authorised =>
      apply Books.surplus_le_of_gain (by rfl) (by rfl)
      exact Books.balance_le_settle authorised.ne_self (clean.requests _ request stored).2.le
  | charged call old subscription held amount allowance stored same nonneg =>
      have other : subscription.subscriber ≠ env.host.self :=
        same ▸ clean.subscriptions _ old stored
      apply Books.surplus_le_of_gain (by rfl) (by rfl)
      exact Books.balance_le_settle other nonneg
  | escrowOpened call escrow free positive locked authorised =>
      apply Books.surplus_le_of_deposited
      · exact Books.owed_open_escrow free token
      · rw [escrow.owed_of_locked locked]
        exact Books.balance_deposit authorised.ne_self
  | escrowSettled call escrow status recipient stored locked due =>
      apply Books.surplus_le_of_settled
      · exact Books.owed_settle_escrow stored due.finalised token
      · rw [escrow.owed_of_locked locked]
        exact Books.balance_payout (clean.escrows _ escrow stored).2.2.le
  | holdOpened call hold free positive held authorised =>
      apply Books.surplus_le_of_deposited
      · exact Books.owed_open_hold free token
      · rw [hold.owed_of_held held]
        exact Books.balance_deposit authorised.ne_self
  | holdSettled call hold status recipient stored held due =>
      apply Books.surplus_le_of_settled
      · exact Books.owed_settle_hold stored due.finalised token
      · rw [hold.owed_of_held held]
        exact Books.balance_payout (clean.holds _ hold stored).2.2.le
  | _ => exact le_refl _

theorem Change.surplus_le {host : Host} {allowed : Books → Call → Prop} {action : Action}
    (clean : books.Clean host.self) (change : Change host allowed books action next)
    (token : Address) : books.surplus host.self token ≤ next.surplus host.self token := by
  cases change with
  | called auth permits call next admitted effect => exact effect.surplus_le clean token
  | refused => exact le_refl _
  | outside operation bank moved =>
      apply Books.surplus_le_of_gain (by rfl) (by rfl)
      exact (moved clean.allowances).1
  | passed => exact le_refl _

end Steps

section Runs

variable {host : Host}

theorem step_surplus_le {world : World} (clean : world.books.Clean host.self) (action : Action)
    (token : Address) :
    world.books.surplus host.self token ≤
      (step host world action).books.surplus host.self token :=
  (step_change (admits_anyCall host world action)).surplus_le clean token

/-- Whatever anybody does from a reachable world on, what the contract holds beyond its open
escrows and holds never falls, in no token. -/
theorem surplus_never_falls {world : World} (reachable : Reachable host world)
    (actions : List Action) (token : Address) :
    world.bank.balance token host.self -
        (world.escrows.records.total (EscrowRecord.owed token) +
          world.escrows.holds.total (EscrowHold.owed token)) ≤
      (run (step host) world actions).bank.balance token host.self -
        ((run (step host) world actions).escrows.records.total (EscrowRecord.owed token) +
          (run (step host) world actions).escrows.holds.total (EscrowHold.owed token)) := by
  have sound := reachable.sound
  suffices grown : world.books.surplus host.self token ≤
      (run (step host) world actions).books.surplus host.self token from grown
  clear reachable
  induction actions generalizing world with
  | nil => exact le_refl _
  | cons action rest inductionHypothesis =>
      have next : (step host world action).books.Sound host.self := sound_run sound [action]
      exact (step_surplus_le sound.toClean action token).trans (inductionHypothesis next)

end Runs

theorem surplus_never_falls_sample :
    (Sample.world Sample.depositing).books.surplus Sample.contract Sample.coin = 50 ∧
      50 ≤ (run (step Sample.host) (Sample.world Sample.depositing)
        [Sample.invokedBy Sample.payer (.escrow (.cancelEscrowBeforeLock Sample.payer [1]))]
        ).books.surplus Sample.contract Sample.coin := by
  have before :
      (Sample.world Sample.depositing).books.surplus Sample.contract Sample.coin = 50 := by
    decide +kernel
  exact ⟨before, before.ge.trans (surplus_never_falls (Sample.reachable_world _) _ Sample.coin)⟩

end LumenFlow

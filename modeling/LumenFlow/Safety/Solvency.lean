import Mathlib.Tactic.Linarith
import LumenFlow.Effect.Step

/-!
# Solvency of the escrows

The contract never owes more on its open escrows and holds than its own balance.
The proof needs that nothing else spends from the contract's balance: no stored
record lets the contract itself be the party that pays.
-/

namespace LumenFlow

open Kit

/-- What the contract owes in a token on an escrow. -/
def EscrowRecord.owed (token : Address) (escrow : EscrowRecord) : Int :=
  if token = escrow.token ∧ escrow.status = .locked then escrow.amount else 0

/-- What the contract owes in a token on a hold. -/
def EscrowHold.owed (token : Address) (hold : EscrowHold) : Int :=
  if token = hold.token ∧ hold.status = .held then hold.amount else 0

theorem EscrowRecord.owed_of_locked {token : Address} (escrow : EscrowRecord)
    (locked : escrow.status = .locked) :
    escrow.owed token = if token = escrow.token then escrow.amount else 0 := by
  simp [owed, locked]

theorem EscrowHold.owed_of_held {token : Address} (hold : EscrowHold)
    (held : hold.status = .held) :
    hold.owed token = if token = hold.token then hold.amount else 0 := by
  simp [owed, held]

namespace Books

/-- What the contract owes in a token on all escrows and holds. -/
def owed (books : Books) (token : Address) : Int :=
  books.escrows.total (EscrowRecord.owed token) + books.holds.total (EscrowHold.owed token)

/-- No record makes the contract itself a party, and every amount is positive. -/
structure Clean (contract : Address) (books : Books) : Prop where
  merchants : ¬ books.Registered contract
  orders : books.orders.All fun order => order.merchantAddress ≠ contract ∧ 0 < order.amount
  refunds : books.refunds.All fun refund => 0 < refund.amount
  multisigs : books.multisigs.All fun multisig =>
    multisig.merchantAddress ≠ contract ∧ 0 < multisig.amount
  requests : books.requests.All fun request => request.merchant ≠ contract ∧ 0 < request.amount
  subscriptions : books.subscriptions.All fun subscription => subscription.subscriber ≠ contract
  escrows : books.escrows.All fun escrow =>
    escrow.payer ≠ contract ∧ escrow.merchant ≠ contract ∧ 0 < escrow.amount
  holds : books.holds.All fun hold =>
    hold.payer ≠ contract ∧ hold.merchant ≠ contract ∧ 0 < hold.amount
  allowances : ∀ token spender, books.bank.allowance token contract spender = 0

/-- The contract holds what it owes. -/
def Solvent (contract : Address) (books : Books) : Prop :=
  ∀ token, books.owed token ≤ books.bank.balance token contract

structure Sound (contract : Address) (books : Books) : Prop extends Clean contract books where
  solvent : books.Solvent contract

section Records

variable {contract : Address} {books : Books}

theorem ne_self_of_registered {address : Address} (unlisted : ¬ books.Registered contract)
    (registered : books.Registered address) : address ≠ contract := by
  rintro rfl
  exact unlisted registered

theorem not_registered_putAll {profiles : List Merchant} (unlisted : ¬ books.Registered contract)
    (others : ∀ profile ∈ profiles, profile.address ≠ contract) :
    ∀ profile, (books.merchants.putAll profiles).get contract ≠ some profile := by
  intro profile found
  rcases Table.get_putAll_cases found with listed | ⟨_, stored⟩
  · exact others profile listed (Table.key_of_get found)
  · exact unlisted ⟨profile, stored⟩

theorem allowance_settleAll {transfers : List Transfer} :
    (books.settleAll transfers).bank.allowance = books.bank.allowance := by
  induction transfers generalizing books with
  | nil => rfl
  | cons transfer rest inductionHypothesis => rw [settleAll_cons, inductionHypothesis]; rfl

theorem allowance_allow {token owner : Address} {amount : Int}
    (granted : ∀ token spender, books.bank.allowance token contract spender = 0)
    (other : owner ≠ contract) (held spender : Address) :
    (books.allow token owner contract amount).bank.allowance held contract spender = 0 := by
  simp [allow, TokenLedger.allowance_setAllowance, other.symm, granted]

end Records

end Books

section Clean

variable {env : Env} {books next : Books} {call : Call}

theorem Env.Authorised.ne_self {address : Address} (authorised : env.Authorised address) :
    address ≠ env.host.self :=
  authorised.1

/-- No call makes the contract a party of a record. -/
theorem Effect.clean (clean : books.Clean env.host.self) (effect : Effect env books call next) :
    next.Clean env.host.self := by
  have other : ∀ {address}, books.Registered address → address ≠ env.host.self :=
    Books.ne_self_of_registered clean.merchants
  cases effect with
  | quiet => exact clean
  | profiles call profiles known =>
      have others : ∀ profile ∈ profiles, profile.address ≠ env.host.self := by
        intro profile listed
        rcases known profile listed with authorised | registered
        · exact authorised.ne_self
        · exact other registered
      exact { clean with
        merchants := fun ⟨profile, found⟩ =>
          Books.not_registered_putAll clean.merchants others profile found }
  | paid call orders profiles transfers listed distinct fresh opened known charged =>
      have others : ∀ profile ∈ profiles, profile.address ≠ env.host.self :=
        fun profile membership => other (known profile membership)
      exact {
        merchants := fun ⟨profile, found⟩ =>
          Books.not_registered_putAll clean.merchants others profile found
        orders := clean.orders.putAll fun order membership =>
          ⟨other (opened order membership).2.2, (opened order membership).2.1⟩
        refunds := by simpa using clean.refunds
        multisigs := by simpa using clean.multisigs
        requests := by simpa using clean.requests
        subscriptions := by simpa using clean.subscriptions
        escrows := by simpa using clean.escrows
        holds := by simpa using clean.holds
        allowances := by simpa [Books.allowance_settleAll] using clean.allowances }
  | statusUpdated caller orderId refundedAmount expectedVersion payment stored authorised =>
      exact { clean with orders := clean.orders.put (clean.orders _ payment stored) }
  | archived admin orderId => exact { clean with orders := clean.orders.erase orderId }
  | paymentsCleaned admin batchSize orders refunds ordersSub refundsSub =>
      exact { clean with
        orders := clean.orders.sub ordersSub
        refunds := clean.refunds.sub refundsSub }
  | refundOpened caller refundId orderId amount reason payment free stored positive =>
      exact { clean with refunds := clean.refunds.put positive }
  | refundDecided call refund status stored =>
      exact { clean with refunds := clean.refunds.put (clean.refunds _ refund stored) }
  | refundExecuted refund payment stored approved order =>
      exact { clean with
        orders := clean.orders.put (clean.orders _ payment order)
        refunds := clean.refunds.put (clean.refunds _ refund stored) }
  | refundForced admin resolution dispute refund payment raised unresolved stored order =>
      exact { clean with
        orders := clean.orders.put (clean.orders _ payment order)
        refunds := clean.refunds.put (clean.refunds _ refund stored) }
  | refundsCleaned admin refunds sub => exact { clean with refunds := clean.refunds.sub sub }
  | disputeWritten => exact { clean with }
  | multisigOpened call multisig free positive registered =>
      exact { clean with multisigs := clean.multisigs.put ⟨other registered, positive⟩ }
  | multisigChanged call old multisig stored same =>
      have known : multisig.merchantAddress ≠ env.host.self ∧ 0 < multisig.amount := by
        rw [same.merchantAddress, same.amount]
        exact clean.multisigs _ old stored
      exact { clean with multisigs := clean.multisigs.put known }
  | multisigPaid payer multisig stored =>
      have known := clean.multisigs _ multisig stored
      exact { clean with
        multisigs := clean.multisigs.put known
        orders := clean.orders.put known }
  | requestOpened call request positive authorised =>
      exact { clean with requests := clean.requests.put ⟨authorised.ne_self, positive⟩ }
  | requestPaid payer request stored =>
      exact { clean with
        orders := clean.orders.put (clean.requests _ request stored)
        requests := clean.requests.erase _ }
  | requestsDropped call requests sub =>
      exact { clean with requests := clean.requests.sub sub }
  | subscribed call subscription token amount authorised =>
      exact { clean with
        subscriptions := clean.subscriptions.put authorised.ne_self
        allowances := Books.allowance_allow clean.allowances authorised.ne_self }
  | subscriptionEnded call old subscription stored same =>
      have known := clean.subscriptions _ old stored
      exact { clean with subscriptions := clean.subscriptions.put (same ▸ known) }
  | allowanceRenewed call token owner amount authorised =>
      exact { clean with
        allowances := Books.allowance_allow clean.allowances authorised.ne_self }
  | charged call old subscription token amount allowance stored same =>
      have known : subscription.subscriber ≠ env.host.self :=
        same ▸ clean.subscriptions _ old stored
      exact { clean with
        subscriptions := clean.subscriptions.put known
        allowances := Books.allowance_allow clean.allowances known }
  | escrowOpened call escrow free positive locked authorised registered =>
      exact { clean with
        escrows := clean.escrows.put ⟨authorised.ne_self, other registered, positive⟩ }
  | escrowSettled call escrow status recipient stored =>
      exact { clean with escrows := clean.escrows.put (clean.escrows _ escrow stored) }
  | holdOpened call hold free positive held authorised registered =>
      exact { clean with
        holds := clean.holds.put ⟨authorised.ne_self, other registered, positive⟩ }
  | holdSettled call hold status recipient stored =>
      exact { clean with holds := clean.holds.put (clean.holds _ hold stored) }

end Clean

section Balance

variable {contract : Address} {books next : Books}

theorem Books.balance_settle (books : Books) (transfer : Transfer) (token : Address) :
    (books.settle transfer).bank.balance token contract = books.bank.balance token contract +
      (if token = transfer.token ∧ contract = transfer.recipient then transfer.amount else 0) -
      (if token = transfer.token ∧ contract = transfer.sender then transfer.amount else 0) :=
  TokenLedger.balance_move

theorem Books.balance_le_settle {transfer : Transfer} (other : transfer.sender ≠ contract)
    (nonneg : 0 ≤ transfer.amount) (token : Address) :
    books.bank.balance token contract ≤ (books.settle transfer).bank.balance token contract := by
  have unsent : ¬ (token = transfer.token ∧ contract = transfer.sender) :=
    fun same => other same.2.symm
  rw [balance_settle, if_neg unsent]
  split_ifs <;> omega

theorem Books.balance_le_settleAll {transfers : List Transfer}
    (others : ∀ transfer ∈ transfers, transfer.sender ≠ contract ∧ 0 ≤ transfer.amount)
    (token : Address) :
    books.bank.balance token contract ≤
      (books.settleAll transfers).bank.balance token contract := by
  induction transfers generalizing books with
  | nil => exact le_refl _
  | cons transfer rest inductionHypothesis =>
      obtain ⟨head, tail⟩ := List.forall_mem_cons.mp others
      exact (balance_le_settle head.1 head.2 token).trans (inductionHypothesis tail)

theorem Books.balance_deposit {cause : Cause} {token held sender : Address} {amount : Int}
    (other : sender ≠ contract) :
    (books.settle ⟨cause, held, sender, contract, amount⟩).bank.balance token contract =
      books.bank.balance token contract + if token = held then amount else 0 := by
  rw [balance_settle]
  simp [other.symm]

theorem Books.balance_payout {cause : Cause} {token held recipient : Address} {amount : Int}
    (nonneg : 0 ≤ amount) :
    books.bank.balance token contract - (if token = held then amount else 0) ≤
      (books.settle ⟨cause, held, contract, recipient, amount⟩).bank.balance token contract := by
  rw [balance_settle]
  by_cases same : token = held
  · simp only [same, and_true, true_and, if_true]
    split_ifs <;> omega
  · simp only [same, false_and, if_false]
    omega

theorem Books.Solvent.gain (solvent : books.Solvent contract)
    (escrows : next.escrows = books.escrows) (holds : next.holds = books.holds)
    (gained : ∀ token, books.bank.balance token contract ≤ next.bank.balance token contract) :
    next.Solvent contract := by
  intro token
  have same : next.owed token = books.owed token := by rw [owed, owed, escrows, holds]
  rw [same]
  exact (solvent token).trans (gained token)

theorem EscrowRecord.Due.finalised {env : Env} {now : Nat} {escrow : EscrowRecord}
    {call : EscrowCall} {status : EscrowStatus} {recipient : Address}
    (due : escrow.Due env now call status recipient) : status ≠ .locked := by
  cases due <;> simp

theorem EscrowHold.Due.finalised {env : Env} {now : Nat} {hold : EscrowHold} {call : EscrowCall}
    {status : EscrowHoldStatus} {recipient : Address}
    (due : hold.Due env now call status recipient) : status ≠ .held := by
  cases due <;> simp

theorem Books.owed_open_escrow {escrow : EscrowRecord}
    (free : books.escrows.get escrow.orderId = none) (token : Address) :
    ({ books with escrows := books.escrows.put escrow }).owed token =
      books.owed token + escrow.owed token := by
  have total : (books.escrows.put escrow).total (EscrowRecord.owed token) =
      escrow.owed token + books.escrows.total (EscrowRecord.owed token) :=
    Table.total_put_of_free free
  simp only [owed, total]
  omega

theorem Books.owed_open_hold {hold : EscrowHold} (free : books.holds.get hold.escrowId = none)
    (token : Address) :
    ({ books with holds := books.holds.put hold }).owed token =
      books.owed token + hold.owed token := by
  have total : (books.holds.put hold).total (EscrowHold.owed token) =
      hold.owed token + books.holds.total (EscrowHold.owed token) :=
    Table.total_put_of_free free
  simp only [owed, total]
  omega

theorem Books.owed_settle_escrow {escrow : EscrowRecord} {status : EscrowStatus}
    (stored : books.escrows.get escrow.orderId = some escrow) (finalised : status ≠ .locked)
    (token : Address) :
    ({ books with escrows := books.escrows.put { escrow with status } }).owed token =
      books.owed token - escrow.owed token := by
  have total := Table.total_put (EscrowRecord.owed token) books.escrows { escrow with status }
  have before : books.escrows.weightAt (EscrowRecord.owed token) escrow.orderId =
      escrow.owed token := by simp [Table.weightAt, stored]
  have after : EscrowRecord.owed token { escrow with status } = 0 := by
    simp [EscrowRecord.owed, finalised]
  rw [before, after] at total
  simp only [owed]
  omega

theorem Books.owed_settle_hold {hold : EscrowHold} {status : EscrowHoldStatus}
    (stored : books.holds.get hold.escrowId = some hold) (finalised : status ≠ .held)
    (token : Address) :
    ({ books with holds := books.holds.put { hold with status } }).owed token =
      books.owed token - hold.owed token := by
  have total := Table.total_put (EscrowHold.owed token) books.holds { hold with status }
  have before : books.holds.weightAt (EscrowHold.owed token) hold.escrowId = hold.owed token := by
    simp [Table.weightAt, stored]
  have after : EscrowHold.owed token { hold with status } = 0 := by
    simp [EscrowHold.owed, finalised]
  rw [before, after] at total
  simp only [owed]
  omega

end Balance

section Solvent

variable {env : Env} {books next : Books} {call : Call}

/-- Deposits and settlements move exactly what is owed; all other calls spend
from other accounts. -/
theorem Effect.solvent (clean : books.Clean env.host.self) (solvent : books.Solvent env.host.self)
    (effect : Effect env books call next) : next.Solvent env.host.self := by
  cases effect with
  | paid call orders profiles transfers listed distinct fresh opened known charged =>
      apply solvent.gain (by simp) (by simp)
      intro token
      exact Books.balance_le_settleAll (fun transfer membership =>
        ⟨(charged transfer membership).1.ne_self, (charged transfer membership).2.2⟩) token
  | refundExecuted refund payment stored approved order authorised =>
      exact solvent.gain rfl rfl (Books.balance_le_settle authorised.ne_self
        (clean.refunds _ refund stored).le)
  | refundForced admin resolution dispute refund payment raised unresolved stored order =>
      exact solvent.gain rfl rfl (Books.balance_le_settle (clean.orders _ payment order).1
        (clean.refunds _ refund stored).le)
  | multisigPaid payer multisig stored pending authorised =>
      exact solvent.gain rfl rfl (Books.balance_le_settle authorised.ne_self
        (clean.multisigs _ multisig stored).2.le)
  | requestPaid payer request stored fresh authorised =>
      exact solvent.gain rfl rfl (Books.balance_le_settle authorised.ne_self
        (clean.requests _ request stored).2.le)
  | charged call old subscription token amount allowance stored same nonneg =>
      have other : subscription.subscriber ≠ env.host.self :=
        same ▸ clean.subscriptions _ old stored
      exact solvent.gain rfl rfl (Books.balance_le_settle other nonneg)
  | escrowOpened call escrow free positive locked authorised =>
      intro token
      calc
        _ = books.owed token + escrow.owed token := Books.owed_open_escrow free token
        _ ≤ books.bank.balance token env.host.self + escrow.owed token :=
          Int.add_le_add_right (solvent token) _
        _ = _ := by
          rw [escrow.owed_of_locked locked]
          exact (Books.balance_deposit authorised.ne_self).symm
  | escrowSettled call escrow status recipient stored locked due =>
      intro token
      calc
        _ = books.owed token - escrow.owed token :=
          Books.owed_settle_escrow stored due.finalised token
        _ ≤ books.bank.balance token env.host.self - escrow.owed token :=
          Int.sub_le_sub_right (solvent token) _
        _ ≤ _ := by
          rw [escrow.owed_of_locked locked]
          exact Books.balance_payout (clean.escrows _ escrow stored).2.2.le
  | holdOpened call hold free positive held authorised =>
      intro token
      calc
        _ = books.owed token + hold.owed token := Books.owed_open_hold free token
        _ ≤ books.bank.balance token env.host.self + hold.owed token :=
          Int.add_le_add_right (solvent token) _
        _ = _ := by
          rw [hold.owed_of_held held]
          exact (Books.balance_deposit authorised.ne_self).symm
  | holdSettled call hold status recipient stored held due =>
      intro token
      calc
        _ = books.owed token - hold.owed token := Books.owed_settle_hold stored due.finalised token
        _ ≤ books.bank.balance token env.host.self - hold.owed token :=
          Int.sub_le_sub_right (solvent token) _
        _ ≤ _ := by
          rw [hold.owed_of_held held]
          exact Books.balance_payout (clean.holds _ hold stored).2.2.le
  | _ => exact solvent

end Solvent

section Runs

variable {host : Host} {books next : Books}

variable {allowed : Books → Call → Prop}

theorem Change.sound {action : Action} (sound : books.Sound host.self)
    (change : Change host allowed books action next) : next.Sound host.self := by
  cases change with
  | refused => exact sound
  | called auth permits call next admitted effect =>
      exact ⟨effect.clean sound.toClean, effect.solvent sound.toClean sound.solvent⟩
  | outside operation bank moved =>
      obtain ⟨gained, granted⟩ := moved sound.allowances
      exact { sound with
        allowances := granted
        solvent := sound.solvent.gain rfl rfl gained }
  | passed => exact { sound with }

theorem Deployed.sound {start : World} (deployed : Deployed host start) :
    start.books.Sound host.self := by
  obtain ⟨bank, timestamp, sequence, funds, granted, rfl⟩ := deployed
  exact {
    merchants := by simp [Books.Registered, World.books, World.deployed]
    orders := Table.all_empty _
    refunds := Table.all_empty _
    multisigs := Table.all_empty _
    requests := Table.all_empty _
    subscriptions := Table.all_empty _
    escrows := Table.all_empty _
    holds := Table.all_empty _
    allowances := granted
    solvent := fun token => (funds token).ge }

theorem Deployed.orders_all {start : World} (deployed : Deployed host start)
    {property : PaymentOrder → Prop} : start.books.orders.All property := by
  obtain ⟨bank, timestamp, sequence, _, _, rfl⟩ := deployed
  exact Table.all_empty property

theorem sound_run {world : World} (sound : world.books.Sound host.self) (actions : List Action) :
    (run (step host) world actions).books.Sound host.self :=
  run_invariant (fun world action kept =>
    (step_change (admits_anyCall host world action)).sound kept) sound actions

theorem Reachable.sound {world : World} (reachable : Reachable host world) :
    world.books.Sound host.self := by
  obtain ⟨start, actions, deployed, rfl⟩ := reachable
  exact sound_run deployed.sound actions

/-- In every reachable world the contract holds, in each token, at least what is
locked in its escrows and held for its holds. -/
theorem escrows_solvent {world : World} (reachable : Reachable host world) (token : Address) :
    world.escrows.records.total (EscrowRecord.owed token) +
        world.escrows.holds.total (EscrowHold.owed token) ≤
      world.bank.balance token host.self :=
  reachable.sound.solvent token

end Runs

/-- An open escrow of 300, a released hold of 200 and a gift of 50. -/
def Sample.depositing : List Action := [
  invokedBy payer (.escrow (.createEscrow payer shop 300 coin 10 [1])),
  invokedBy payer (.escrow (.escrowHold payer [2] rival coin 200 (List.replicate 32 0) admin 20)),
  invokedBy admin (.escrow (.escrowRelease admin [2])),
  .tokens (.transfer coin shop contract 50)]

theorem escrows_solvent_sample :
    ((Sample.world Sample.depositing).bank.balance Sample.coin Sample.contract = 350 ∧
      (Sample.world Sample.depositing).books.owed Sample.coin = 300) ∧
    (Sample.world Sample.depositing).escrows.records.total (EscrowRecord.owed Sample.coin) +
        (Sample.world Sample.depositing).escrows.holds.total (EscrowHold.owed Sample.coin) ≤
      (Sample.world Sample.depositing).bank.balance Sample.coin Sample.host.self :=
  ⟨by decide +kernel, escrows_solvent (Sample.reachable_world _) Sample.coin⟩

end LumenFlow

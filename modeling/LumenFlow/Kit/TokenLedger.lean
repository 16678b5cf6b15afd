import Mathlib.Tactic.Common
import Mathlib.Algebra.Order.Ring.Int

/-!
# Token ledgers

Balances and allowances of any number of fungible tokens, with the operations
of the usual token interface.  An operation moves exactly the amount it names
or does not apply at all.
-/

namespace Kit

/-- Who holds how much of each token, and who may spend how much for whom. -/
structure TokenLedger (Token Account : Type) where
  balance : Token → Account → Int
  /-- `allowance token owner spender` -/
  allowance : Token → Account → Account → Int

namespace TokenLedger

variable {Token Account : Type} [DecidableEq Token] [DecidableEq Account]

/-- Change one balance by an amount, which may be negative. -/
def credit (ledger : TokenLedger Token Account) (token : Token) (account : Account)
    (amount : Int) : TokenLedger Token Account :=
  { ledger with
    balance := fun otherToken other =>
      if otherToken = token ∧ other = account then ledger.balance otherToken other + amount
      else ledger.balance otherToken other }

/-- Take an amount from one account and give it to another. -/
def move (ledger : TokenLedger Token Account) (token : Token) (sender recipient : Account)
    (amount : Int) : TokenLedger Token Account :=
  (ledger.credit token sender (-amount)).credit token recipient amount

/-- Set one allowance. -/
def setAllowance (ledger : TokenLedger Token Account) (token : Token) (owner spender : Account)
    (amount : Int) : TokenLedger Token Account :=
  { ledger with
    allowance := fun otherToken otherOwner otherSpender =>
      if otherToken = token ∧ otherOwner = owner ∧ otherSpender = spender then amount
      else ledger.allowance otherToken otherOwner otherSpender }

/-- Transfer an amount that the sender holds. -/
def transfer (ledger : TokenLedger Token Account) (token : Token) (sender recipient : Account)
    (amount : Int) : Option (TokenLedger Token Account) :=
  if 0 ≤ amount ∧ amount ≤ ledger.balance token sender then
    some (ledger.move token sender recipient amount)
  else
    none

/-- Transfer an amount that the owner holds and has allowed the spender to spend. -/
def transferFrom (ledger : TokenLedger Token Account) (token : Token)
    (spender owner recipient : Account) (amount : Int) : Option (TokenLedger Token Account) :=
  if 0 ≤ amount ∧ amount ≤ ledger.balance token owner ∧
      amount ≤ ledger.allowance token owner spender then
    some ((ledger.move token owner recipient amount).setAllowance token owner spender
      (ledger.allowance token owner spender - amount))
  else
    none

/-- Let a spender spend an amount.  An allowance is there until it is spent or set again: when it
expires is left out. -/
def approve (ledger : TokenLedger Token Account) (token : Token) (owner spender : Account)
    (amount : Int) : Option (TokenLedger Token Account) :=
  if 0 ≤ amount then some (ledger.setAllowance token owner spender amount) else none

section Effects

variable {ledger : TokenLedger Token Account} {token otherToken : Token}
  {sender recipient owner spender account : Account} {amount : Int}

theorem balance_credit :
    (ledger.credit token account amount).balance otherToken sender =
      ledger.balance otherToken sender +
        if otherToken = token ∧ sender = account then amount else 0 := by
  simp only [credit]
  split <;> simp

theorem balance_move :
    (ledger.move token sender recipient amount).balance otherToken account =
      ledger.balance otherToken account +
        (if otherToken = token ∧ account = recipient then amount else 0) -
        (if otherToken = token ∧ account = sender then amount else 0) := by
  simp only [move, balance_credit]
  split_ifs <;> omega

@[simp]
theorem allowance_move :
    (ledger.move token sender recipient amount).allowance = ledger.allowance := rfl

@[simp]
theorem allowance_credit :
    (ledger.credit token account amount).allowance = ledger.allowance := rfl

@[simp]
theorem balance_setAllowance :
    (ledger.setAllowance token owner spender amount).balance = ledger.balance := rfl

theorem allowance_setAllowance {otherOwner otherSpender : Account} :
    (ledger.setAllowance token owner spender amount).allowance otherToken otherOwner otherSpender =
      if otherToken = token ∧ otherOwner = owner ∧ otherSpender = spender then amount
      else ledger.allowance otherToken otherOwner otherSpender := rfl

theorem transfer_eq_some {next : TokenLedger Token Account} :
    ledger.transfer token sender recipient amount = some next ↔
      0 ≤ amount ∧ amount ≤ ledger.balance token sender ∧
        next = ledger.move token sender recipient amount := by
  unfold transfer
  split <;> simp_all [eq_comm]

theorem transferFrom_eq_some {next : TokenLedger Token Account} :
    ledger.transferFrom token spender owner recipient amount = some next ↔
      0 ≤ amount ∧ amount ≤ ledger.balance token owner ∧
        amount ≤ ledger.allowance token owner spender ∧
        next = (ledger.move token owner recipient amount).setAllowance token owner spender
          (ledger.allowance token owner spender - amount) := by
  unfold transferFrom
  split <;> simp_all [eq_comm]

theorem approve_eq_some {next : TokenLedger Token Account} :
    ledger.approve token owner spender amount = some next ↔
      0 ≤ amount ∧ next = ledger.setAllowance token owner spender amount := by
  unfold approve
  split <;> simp_all [eq_comm]

end Effects

end TokenLedger

end Kit

import LumenFlow.Effect.Batches
import LumenFlow.Effect.Frame

/-!
# The platform fee

A single payment is split between its merchant and the recipient of the platform fee.  The fee
is computed by multiplying the amount first, and the product does not fit in an `i128` for the
largest amounts.
-/

namespace LumenFlow

open Kit Contract

/-- The fee on an amount, rounded down. -/
def feeOn (amount : Int) (feeBps : Nat) : Int := amount * feeBps / 10000

/-- The payment that a single payment call is for. -/
def Call.singleTerms : Call → Option PaymentTerms
  | .payment (.processPaymentWithSignature payer orderId merchantAddress tokenAddress amount ..)
  | .payment (.processPaymentWithNonce payer orderId merchantAddress tokenAddress amount ..) =>
      some ⟨orderId, merchantAddress, payer, tokenAddress, amount⟩
  | _ => none

/-- The payer gave the amount, of which the merchant got all but the fee and the recipient the
fee.  Where some of them are the same account, the parts add up. -/
structure FeeSplit (terms : PaymentTerms) (fee : Int) (recipient : Address)
    (bank after : TokenLedger Address Address) : Prop where
  nonneg : 0 ≤ fee
  atMost : fee ≤ terms.amount
  balances : ∀ token account, after.balance token account = bank.balance token account +
    if token = terms.token then
      (if account = terms.merchantAddress then terms.amount - fee else 0) +
        (if account = recipient then fee else 0) -
        (if account = terms.payer then terms.amount else 0)
    else 0

/-- The fee of a payment can be charged, and an accepted call charges and records it exactly. -/
structure FeeExact (host : Host) (world : World) (auth : List Address)
    (permits : TokenCall → Bool) (call : Call) (terms : PaymentTerms) (recipient : Address) :
    Prop where
  charges : ∃ fee paid, (transferWithFee terms.payer terms.orderId terms.merchantAddress
    terms.token terms.amount).Commits (host.env auth permits) world fee paid
  split : ∀ next, Succeeds host world auth permits call next →
    FeeSplit terms (feeOn terms.amount world.getPlatformFeeBps) recipient world.bank next.bank ∧
      ∃ order, next.getPayment terms.orderId = some order ∧ order.terms = terms ∧
        order.platformFee = feeOn terms.amount world.getPlatformFeeBps

section Charge

variable {env : Env} {world next : World} {payer merchantAddress token recipient : Address}
  {orderId : Text} {amount fee : Int}

theorem feeOn_nonneg {feeBps : Nat} (positive : 0 < amount) : 0 ≤ feeOn amount feeBps :=
  Int.ediv_nonneg (mul_nonneg positive.le (Int.natCast_nonneg feeBps)) (by decide)

theorem feeOn_le {feeBps : Nat} (positive : 0 < amount) (bound : feeBps ≤ maxPlatformFeeBps) :
    feeOn amount feeBps ≤ amount := by
  have most : (feeBps : Int) ≤ 10000 := by exact_mod_cast bound
  have product : amount * feeBps ≤ amount * 10000 := mul_le_mul_of_nonneg_left most positive.le
  rw [feeOn]
  omega

theorem tdiv_eq_feeOn {feeBps : Nat} (positive : 0 < amount) :
    (amount * feeBps).tdiv 10000 = feeOn amount feeBps :=
  Int.tdiv_eq_ediv_of_nonneg (mul_nonneg positive.le (Int.natCast_nonneg _))

theorem balance_charged (bank : TokenLedger Address Address) (other account : Address) :
    ((bank.move token payer merchantAddress (amount - fee)).move token payer recipient fee).balance
        other account = bank.balance other account +
      if other = token then
        (if account = merchantAddress then amount - fee else 0) +
          (if account = recipient then fee else 0) - (if account = payer then amount else 0)
      else 0 := by
  rw [TokenLedger.balance_move, TokenLedger.balance_move]
  by_cases here : other = token
  · simp only [here, true_and, if_true]
    split_ifs <;> omega
  · simp [here]

theorem balance_free (bank : TokenLedger Address Address) (none : fee = 0) {part : Int}
    (whole : part = amount) (other account : Address) :
    (bank.move token payer merchantAddress part).balance other account =
      bank.balance other account +
        if other = token then
          (if account = merchantAddress then amount - fee else 0) +
            (if account = recipient then fee else 0) - (if account = payer then amount else 0)
        else 0 := by
  rw [TokenLedger.balance_move, none, whole]
  by_cases here : other = token
  · simp only [here, true_and, if_true]
    split_ifs <;> omega
  · simp [here]

/-- Charging a payment commits with the fee, rounded down, and moves the two parts. -/
theorem transferWithFee_charges (positive : 0 < amount)
    (recipientSet : world.getFeeRecipient = some recipient)
    (committed : (transferWithFee payer orderId merchantAddress token amount).Commits env world
      fee next) :
    fee = feeOn amount world.getPlatformFeeBps ∧ InI128 (amount * world.getPlatformFeeBps) ∧
      ∀ other account, next.bank.balance other account = world.bank.balance other account +
        if other = token then
          (if account = merchantAddress then amount - fee else 0) +
            (if account = recipient then fee else 0) - (if account = payer then amount else 0)
        else 0 := by
  have nonneg : 0 ≤ feeOn amount world.getPlatformFeeBps := feeOn_nonneg positive
  have rounded : (amount * world.getPlatformFeeBps).tdiv 10000 =
      feeOn amount world.getPlatformFeeBps := tdiv_eq_feeOn positive
  simp only [World.getFeeRecipient] at recipientSet
  simp [transferWithFee, recipientSet] at committed
  rcases committed with ⟨_, fits, _, _, outcome, computed⟩ | ⟨free, inRange, _, rfl, none⟩
  · rw [← computed] at outcome
    refine ⟨computed.trans rounded, fits, fun other account => ?_⟩
    rcases outcome with ⟨_, _, _, _, _, rfl⟩ | ⟨least, rfl⟩
    · exact balance_charged ..
    · have none : fee = 0 := le_antisymm least (computed.trans rounded ▸ nonneg)
      exact balance_free world.bank none (by rw [none, sub_zero]) other account
  · have zero : world.getPlatformFeeBps = 0 := free
    rw [zero, feeOn]
    exact ⟨by simp [none], by simp [InI128, i128Min, i128Max],
      balance_free world.bank none rfl⟩

theorem transferWithFee_succeeds (positive : 0 < amount) (inRange : InI128 amount)
    (recipientSet : world.getFeeRecipient = some recipient)
    (bound : world.getPlatformFeeBps ≤ maxPlatformFeeBps)
    (authorised : env.Authorised payer)
    (permitted : ∀ account part, env.permits (.transfer token payer account part) = true)
    (held : amount ≤ world.bank.balance token payer)
    (fits : InI128 (amount * world.getPlatformFeeBps)) :
    ∃ fee paid, (transferWithFee payer orderId merchantAddress token amount).Commits env world fee
      paid := by
  have nonneg : 0 ≤ feeOn amount world.getPlatformFeeBps := feeOn_nonneg positive
  have least : feeOn amount world.getPlatformFeeBps ≤ amount := feeOn_le positive bound
  have rounded : (amount * world.getPlatformFeeBps).tdiv 10000 =
      feeOn amount world.getPlatformFeeBps := tdiv_eq_feeOn positive
  simp only [World.getFeeRecipient] at recipientSet
  simp [transferWithFee, recipientSet, rounded, authorised, permitted]
  simp only [World.getPlatformFeeBps] at fits nonneg least
  revert fits nonneg least
  generalize world.config.platformFeeBps.getD defaultPlatformFeeBps = feeBps
  intro fits nonneg least
  rcases Nat.eq_zero_or_pos feeBps with none | charged
  · exact ⟨_, _, .inr ⟨none, inRange, ⟨positive.le, held⟩, rfl, rfl⟩⟩
  have part : InI128 (amount - feeOn amount feeBps) := by
    simp only [InI128, i128Min, i128Max] at inRange ⊢
    omega
  have covered : amount ≤ world.bank.balance token payer + feeOn amount feeBps := by omega
  rcases nonneg.lt_or_eq with some | none
  · -- After the merchant's part the payer still holds the fee, also when it is the merchant.
    have rest : feeOn amount feeBps ≤ (world.bank.move token payer merchantAddress
        (amount - feeOn amount feeBps)).balance token payer := by
      rw [TokenLedger.balance_move]
      split_ifs <;> omega
    exact ⟨_, _, .inl ⟨charged, fits, part, ⟨least, covered⟩, .inl ⟨some, some.le, rest, rfl⟩, rfl⟩⟩
  · exact ⟨_, _, .inl ⟨charged, fits, part, ⟨least, covered⟩, .inr ⟨none.ge, rfl⟩, rfl⟩⟩

end Charge

section Calls

variable {host : Host} {world next : World} {auth : List Address} {permits : TokenCall → Bool}
  {terms : PaymentTerms} {recipient : Address}

theorem same_tokens_counted {env : Env} {order : PaymentOrder} {paid stored counting : World}
    {profile : Merchant} {merchant : Address} {amount : Int}
    (recorded : (recordPayment order).Commits env paid () stored)
    (merchantCounted : (countMerchantPayment merchant amount).Commits env
      (stored.setMerchant profile) () counting)
    (globallyCounted : (countGlobalPayment amount).Commits env counting () next) :
    (next.bank, next.transfers) = (paid.bank, paid.transfers) := by
  have recordedTokens : (stored.bank, stored.transfers) = (paid.bank, paid.transfers) :=
    same_part [.orders, .merchantIds, .payerIds] recorded .tokens (by simp)
  have merchantTokens : (counting.bank, counting.transfers) = (stored.bank, stored.transfers) :=
    same_part [.merchantStats] merchantCounted .tokens (by simp)
  have countedTokens : (next.bank, next.transfers) = (counting.bank, counting.transfers) :=
    same_part [.totals] globallyCounted .tokens (by simp)
  rw [countedTokens, merchantTokens, recordedTokens]

/-- What a single payment leaves: only the charge moves tokens, and the order keeps the fee. -/
theorem SinglePhases.splits {env : Env} {order : PaymentOrder} {received : Int}
    (phases : SinglePhases env world next order received)
    (bound : world.getPlatformFeeBps ≤ maxPlatformFeeBps)
    (recipientSet : world.getFeeRecipient = some recipient) :
    FeeSplit order.terms (feeOn order.amount world.getPlatformFeeBps) recipient world.bank
        next.bank ∧
      (∃ stored, next.getPayment order.orderId = some stored ∧ stored.terms = order.terms ∧
        stored.platformFee = feeOn order.amount world.getPlatformFeeBps) ∧
      InI128 (order.amount * world.getPlatformFeeBps) := by
  obtain ⟨merchant, start, paid, stored, counting, _, positive, _, _, _, _, _, ready, transferred,
    recorded, merchantCounted, globallyCounted⟩ := phases
  have sameRate : start.getPlatformFeeBps = world.getPlatformFeeBps := by rw [ready]
  have sameRecipient : start.getFeeRecipient = some recipient := by
    rw [ready]
    exact recipientSet
  have sameBank : start.bank = world.bank := by rw [ready]
  obtain ⟨charged, fits, balances⟩ := transferWithFee_charges positive sameRecipient transferred
  rw [sameRate] at charged fits
  have bank : next.bank = paid.bank :=
    congrArg Prod.fst (same_tokens_counted recorded merchantCounted globallyCounted)
  have merchantOrders : counting.payments.orders = stored.payments.orders :=
    same_part [.merchantStats] merchantCounted .orders (by simp)
  have countedOrders : next.payments.orders = counting.payments.orders :=
    same_part [.totals] globallyCounted .orders (by simp)
  have kept : next.payments.orders = paid.payments.orders.put order := by
    rw [countedOrders, merchantOrders, (commits_recordPayment.mp recorded).2]
    rfl
  refine ⟨⟨feeOn_nonneg positive, feeOn_le positive bound, ?_⟩, ⟨order, ?_, rfl, charged⟩, fits⟩
  · intro token account
    rw [bank, ← charged, ← sameBank]
    exact balances token account
  · rw [World.getPayment, kept, Table.get_put_self]

theorem single_splits {call : Call} (single : call.singleTerms = some terms)
    (bound : world.getPlatformFeeBps ≤ maxPlatformFeeBps)
    (recipientSet : world.getFeeRecipient = some recipient)
    (succeeded : Succeeds host world auth permits call next) :
    FeeSplit terms (feeOn terms.amount world.getPlatformFeeBps) recipient world.bank next.bank ∧
      (∃ order, next.getPayment terms.orderId = some order ∧ order.terms = terms ∧
        order.platformFee = feeOn terms.amount world.getPlatformFeeBps) ∧
      InI128 (terms.amount * world.getPlatformFeeBps) := by
  have committed := succeeded.executes
  cases call with
  | payment payment =>
    cases payment with
    | processPaymentWithSignature =>
      obtain rfl := Option.some.inj single
      obtain ⟨order, ofTerms, phases⟩ := processPaymentWithSignature_phases committed
      rw [← ofTerms]
      exact phases.splits bound recipientSet
    | processPaymentWithNonce =>
      obtain rfl := Option.some.inj single
      obtain ⟨order, ofTerms, phases⟩ := processPaymentWithNonce_phases committed
      rw [← ofTerms]
      exact phases.splits bound recipientSet
    | _ => cases single
  | _ => cases single

/-- A payment of an amount that the payer holds is split exactly, if the amount multiplied by the
rate of the fee fits in its type.  Otherwise the payment is refused, although the fee fits. -/
theorem fee_exact_iff {call : Call} (single : call.singleTerms = some terms)
    (positive : 0 < terms.amount) (inRange : InI128 terms.amount)
    (held : terms.amount ≤ world.bank.balance terms.token terms.payer)
    (bound : world.getPlatformFeeBps ≤ maxPlatformFeeBps)
    (recipientSet : world.getFeeRecipient = some recipient)
    (authorised : (host.env auth permits).Authorised terms.payer)
    (permitted : ∀ account part,
      permits (.transfer terms.token terms.payer account part) = true) :
    (FeeExact host world auth permits call terms recipient ↔
        InI128 (terms.amount * world.getPlatformFeeBps)) ∧
      (¬ InI128 (terms.amount * world.getPlatformFeeBps) →
        ∀ next, ¬ Succeeds host world auth permits call next) := by
  refine ⟨⟨?_, fun fits => ⟨?_, fun next succeeded => ?_⟩⟩, fun large next succeeded => ?_⟩
  · rintro ⟨⟨fee, paid, charged⟩, _⟩
    exact (transferWithFee_charges positive recipientSet charged).2.1
  · exact transferWithFee_succeeds positive inRange recipientSet bound authorised permitted held
      fits
  · obtain ⟨split, recorded, _⟩ := single_splits single bound recipientSet succeeded
    exact ⟨split, recorded⟩
  · exact large (single_splits single bound recipientSet succeeded).2.2

/-- The admin takes a fee of one per cent, and the payer holds a vast amount. -/
def Sample.charging : List Action := [
  invokedBy admin (.admin (.setPlatformFee admin 100 admin)),
  .tokens (.mint coin payer (2 ^ 126))]

def Sample.chargedPayment (amount : Int) : Call :=
  .payment (.processPaymentWithNonce payer [1] shop coin amount [] none 0)

def Sample.chargedTerms (amount : Int) : PaymentTerms := ⟨[1], shop, payer, coin, amount⟩

theorem fee_exact_iff_sample :
    (FeeExact Sample.host (Sample.world Sample.charging) [Sample.payer] (fun _ => true)
          (Sample.chargedPayment 250) (Sample.chargedTerms 250) Sample.admin ↔
        InI128 (250 * (Sample.world Sample.charging).getPlatformFeeBps)) ∧
      (¬ InI128 (250 * (Sample.world Sample.charging).getPlatformFeeBps) →
        ∀ next, ¬ Succeeds Sample.host (Sample.world Sample.charging) [Sample.payer]
          (fun _ => true) (Sample.chargedPayment 250) next) :=
  @fee_exact_iff Sample.host (Sample.world Sample.charging) [Sample.payer] (fun _ => true)
    (Sample.chargedTerms 250) Sample.admin (Sample.chargedPayment 250) rfl (by decide) (by decide)
    (by decide +kernel) (by decide +kernel) (by decide +kernel) (by decide) fun _ _ => rfl

/-- The payment of the vast amount is refused, since a hundred times the amount does not fit. -/
theorem fee_overflows :
    ¬ ∀ host world, Reachable host world → ∀ auth permits call terms recipient,
      call.singleTerms = some terms → 0 < terms.amount → InI128 terms.amount →
      terms.amount ≤ world.bank.balance terms.token terms.payer →
      world.getPlatformFeeBps ≤ maxPlatformFeeBps → world.getFeeRecipient = some recipient →
      (host.env auth permits).Authorised terms.payer →
      (∀ account part, permits (.transfer terms.token terms.payer account part) = true) →
        FeeExact host world auth permits call terms recipient := by
  intro always
  have recipientSet : (Sample.world Sample.charging).getFeeRecipient = some Sample.admin := by
    decide +kernel
  obtain ⟨⟨fee, paid, charged⟩, _⟩ := always Sample.host (Sample.world Sample.charging)
    (Sample.reachable_world _) [Sample.payer] (fun _ => true) (Sample.chargedPayment (2 ^ 126))
    (Sample.chargedTerms (2 ^ 126)) Sample.admin rfl (by decide) (by decide) (by decide +kernel)
    (by decide +kernel) recipientSet (by decide) fun _ _ => rfl
  have fits := (transferWithFee_charges (by decide) recipientSet charged).2.1
  exact absurd fits (by decide +kernel)

end Calls

end LumenFlow

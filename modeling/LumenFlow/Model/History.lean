import LumenFlow.Model.Payments

/-!
# Payment history

Filtered, sorted and paged views of the stored payments, and the statistics over
a range of dates.
-/

namespace LumenFlow

open Kit

namespace Contract

def matchesStatus (payment : PaymentOrder) : StatusFilter → Bool
  | .any => true
  | .completed => payment.status = .completed
  | .partiallyRefunded => payment.status = .partiallyRefunded
  | .fullyRefunded => payment.status = .fullyRefunded

def matchesFilter (payment : PaymentOrder) : Option PaymentFilter → Bool
  | none => true
  | some filter =>
      filter.dateStart.all (· ≤ payment.paidAt) && filter.dateEnd.all (payment.paidAt ≤ ·) &&
        filter.amountMin.all (· ≤ payment.amount) && filter.amountMax.all (payment.amount ≤ ·) &&
        filter.token.all (payment.token = ·) && matchesStatus payment filter.status &&
        filter.tag.all fun tag => payment.tags.any (·.contains tag)

/-- The comparison that a history page is sorted by. -/
def comparePayments (sortField : SortField) (sortOrder : SortOrder)
    (first second : PaymentOrder) : Ordering :=
  let order := match sortField with
    | .date => compare first.paidAt second.paidAt
    | .amount => compare first.amount second.amount
  match sortOrder with
  | .ascending => order
  | .descending => order.swap

/-- The first position after the cursor, or the start when the cursor is absent. -/
def startIndex (cursor : Option Text) (sorted : List PaymentOrder) : Nat :=
  match cursor with
  | none => 0
  | some cursor =>
      match sorted.findIdx? (·.orderId = cursor) with
      | some position => position + 1
      | none => 0

def buildPage (host : Host) (world : World) (ids : List Text) (cursor : Option Text)
    (limit : Nat) (filter : Option PaymentFilter) (sortField : SortField)
    (sortOrder : SortOrder) : PaymentPage :=
  let payments := (ids.filterMap world.getPayment).filter (matchesFilter · filter)
  let sorted := host.sortUnstableBy (comparePayments sortField sortOrder) payments
  let remaining := sorted.drop (startIndex cursor sorted)
  let result := remaining.take limit
  { payments := result
    nextCursor :=
      if limit < remaining.length then result.getLast?.map PaymentOrder.orderId else none
    totalMatching := sorted.length }

def getMerchantPaymentHistory (merchant : Address) (cursor : Option Text) (limit : Nat)
    (filter : Option PaymentFilter) (sortField : SortField) (sortOrder : SortOrder) :
    Contract PaymentPage := do
  requireAuth merchant
  requireValidLimit limit
  let env ← Tx.ask
  read fun world => buildPage env.host world (world.getMerchantPaymentIds merchant) cursor limit
    filter sortField sortOrder

def getPayerPaymentHistory (payer : Address) (cursor : Option Text) (limit : Nat)
    (filter : Option PaymentFilter) (sortField : SortField) (sortOrder : SortOrder) :
    Contract PaymentPage := do
  requireAuth payer
  requireValidLimit limit
  let env ← Tx.ask
  read fun world => buildPage env.host world (world.getPayerPaymentIds payer) cursor limit
    filter sortField sortOrder

/-- Add a stored payment to the statistics when it lies in the range. -/
def addToRange (dateStart dateEnd : Option Nat) (stats : GlobalStats) (orderId : Text) :
    Contract GlobalStats := do
  match ← read (·.getPayment orderId) with
  | none => pure stats
  | some payment =>
      if dateStart.all (· ≤ payment.paidAt) ∧ dateEnd.all (payment.paidAt ≤ ·) then do
        let stats ← countedPayment stats payment.amount
        if 0 < payment.refundedAmount then do
          let totalRefunds ← addU32 stats.totalRefunds 1
          pure { stats with
            totalRefunds
            totalRefundVolume := saturatingAdd stats.totalRefundVolume payment.refundedAmount }
        else
          pure stats
      else
        pure stats

def getGlobalPaymentStats (admin : Address) (dateStart dateEnd : Option Nat) :
    Contract GlobalStats := do
  requireAdminRateLimited admin
  failIf (∃ first ∈ dateStart, ∃ last ∈ dateEnd, last < first) .invalidInput
  let stats ← read (·.getGlobalStats)
  if dateStart = none ∧ dateEnd = none then
    pure stats
  else do
    let merchantList ← read (·.getMerchantList)
    Tx.fold (fun stats merchant => do
      let ids ← read (·.getMerchantPaymentIds merchant)
      Tx.fold (addToRange dateStart dateEnd) stats ids)
      ⟨0, 0, 0, 0, stats.activeMerchants⟩ merchantList

def getAccountPaymentCount (address : Address) : Contract Nat :=
  read fun world =>
    max (world.getMerchantPaymentIds address).length (world.getPayerPaymentIds address).length

def getPayerNonce (payer : Address) : Contract Nat :=
  read (·.getNonce payer)

def getMerchantNonce (merchantAddress : Address) : Contract Nat :=
  read (·.getMerchantNonce merchantAddress)

end Contract

end LumenFlow

import LumenFlow.Kit.Grouping
import LumenFlow.Effect.Step

/-!
# The phases of a batch

Everything that the phases of a batch write, and the world between two of the single payments
that a batch stands for.
-/

namespace LumenFlow

open Kit Contract

variable {env : Env} {world next : World} {payer : Address} {item : BatchPaymentItem}

section Writes

/-- The indexes of the merchant and the payer have room for one more payment. -/
def World.HasRoom (world : World) (payment : PaymentOrder) : Prop :=
  (world.payments.merchantIds payment.merchantAddress).length < maxPaymentIdsPerAccount ∧
    (world.payments.payerIds payment.payer).length < maxPaymentIdsPerAccount

/-- The world after a payment was stored and listed. -/
def World.recorded (world : World) (payment : PaymentOrder) : World :=
  world.updatePayments fun book =>
    { book with
      orders := book.orders.put payment
      merchantIds := Function.update book.merchantIds payment.merchantAddress
        (book.merchantIds payment.merchantAddress ++ [payment.orderId])
      payerIds := Function.update book.payerIds payment.payer
        (book.payerIds payment.payer ++ [payment.orderId]) }

/-- The world after a payment was counted against the rate limit. -/
def World.rated (world : World) (merchant : Address) : World :=
  world.updatePayments fun book =>
    { book with
      rateLimitCounters := Function.update book.rateLimitCounters merchant
        (Function.update (book.rateLimitCounters merchant) world.currentWindowStart
          (book.rateLimitCounters merchant world.currentWindowStart + 1)) }

/-- The world after a payment was counted in the statistics of its merchant. -/
def World.countedFor (world : World) (merchant : Address) (amount : Int) : World :=
  world.setMerchantStats merchant
    { world.getMerchantStats merchant with
      totalPayments := (world.getMerchantStats merchant).totalPayments + 1
      totalVolume := saturatingAdd (world.getMerchantStats merchant).totalVolume amount }

def GlobalStats.counted (stats : GlobalStats) (amount : Int) : GlobalStats :=
  { stats with
    totalPayments := stats.totalPayments + 1
    totalVolume := saturatingAdd stats.totalVolume amount }

theorem commits_recordPayment {payment : PaymentOrder} :
    (recordPayment payment).Commits env world () next ↔
      world.HasRoom payment ∧ next = world.recorded payment := by
  simp [recordPayment, addMerchantPaymentId, addPayerPaymentId, World.HasRoom, and_assoc]
  exact fun _ _ => Iff.rfl

theorem commits_consumeRateLimit {merchant : Address} :
    (consumeRateLimit merchant).Commits env world () next ↔
      (world.getRateLimitCounter merchant world.currentWindowStart < world.getRateLimitPerWindow ∧
        world.getRateLimitCounter merchant world.currentWindowStart + 1 ≤ u32Max) ∧
        next = world.rated merchant := by
  simp [consumeRateLimit, incrementRateLimitCounter, and_assoc]
  exact fun _ _ => Iff.rfl

theorem commits_countMerchantPayment {merchant : Address} {amount : Int} :
    (countMerchantPayment merchant amount).Commits env world () next ↔
      (world.getMerchantStats merchant).totalPayments + 1 ≤ u32Max ∧
        next = world.countedFor merchant amount := by
  simp [countMerchantPayment]
  exact fun _ => Iff.rfl

theorem commits_countedPayment {stats result : GlobalStats} {amount : Int} :
    (countedPayment stats amount).Commits env world result next ↔
      stats.totalPayments + 1 ≤ u32Max ∧ result = stats.counted amount ∧ next = world := by
  simp only [countedPayment, Tx.commits_bind, commits_addU32, Tx.commits_pure]
  constructor
  · rintro ⟨_, _, ⟨bounded, rfl, rfl⟩, rfl, rfl⟩
    exact ⟨bounded, rfl, rfl⟩
  · rintro ⟨bounded, rfl, rfl⟩
    exact ⟨_, _, ⟨bounded, rfl, rfl⟩, rfl, rfl⟩

theorem commits_requireTokenAllowed {token : Address} :
    (requireTokenAllowed token).Commits env world () next ↔
      world.isTokenAllowed token = true ∧ next = world := by
  simp [requireTokenAllowed]

theorem commits_openOrder {orderId : Text} {merchantAddress : Address} {merchant : Merchant} :
    (openOrder orderId merchantAddress).Commits env world merchant next ↔
      (world.getPayment orderId = none ∧ world.getMerchant merchantAddress = some merchant ∧
        merchant.active = true) ∧ next = world := by
  simp only [openOrder, Tx.commits_bind, Tx.exists_unit, Tx.commits_gets, Tx.commits_failIf,
    Tx.commits_okOr, Tx.commits_pure]
  constructor
  · rintro ⟨_, _, ⟨rfl, rfl⟩, _, ⟨free, rfl⟩, _, _, ⟨rfl, rfl⟩, found, _, ⟨here, rfl⟩, _,
      ⟨active, rfl⟩, rfl, rfl⟩
    exact ⟨⟨by simpa using free, here, by simpa using active⟩, rfl⟩
  · rintro ⟨⟨free, here, active⟩, rfl⟩
    exact ⟨_, _, ⟨rfl, rfl⟩, _, ⟨by simpa using free, rfl⟩, _, _, ⟨rfl, rfl⟩, merchant, _,
      ⟨here, rfl⟩, _, ⟨by simpa using active, rfl⟩, rfl, rfl⟩

theorem transferWithFee_commits {orderId : Text} {merchantAddress token : Address} {amount : Int}
    (feeless : world.getPlatformFeeBps = 0) (inRange : InI128 amount)
    (authorised : env.Authorised payer)
    (permitted : env.permits (.transfer token payer merchantAddress amount) = true)
    (nonneg : 0 ≤ amount) (held : amount ≤ world.bank.balance token payer) :
    (transferWithFee payer orderId merchantAddress token amount).Commits env world 0
      (world.moveTokens ⟨.payment orderId, token, payer, merchantAddress, amount⟩) := by
  simp only [World.getPlatformFeeBps] at feeless
  simp [transferWithFee, feeless, inRange, authorised, permitted, nonneg, held]

/-- The world after a payment without a fee was stored, credited and counted. -/
def World.settled (world : World) (merchant : Merchant) (order : PaymentOrder) : World :=
  ((world.recorded order).setMerchant
    { merchant with totalReceived := merchant.totalReceived + order.amount }).countedFor
      order.merchantAddress order.amount

/-- What storing a payment and crediting its merchant needs. -/
structure World.Settles (world : World) (merchant : Merchant) (order : PaymentOrder) : Prop where
  room : world.HasRoom order
  received : InI128 (merchant.totalReceived + order.amount)
  counts : (world.getMerchantStats order.merchantAddress).totalPayments + 1 ≤ u32Max

theorem commits_storeBatchItem {now : Nat} {stats result : GlobalStats} {merchant : Merchant}
    (found : world.getMerchant item.merchantAddress = some merchant) :
    (storeBatchItem payer now stats item).Commits env world result next ↔
      (world.Settles merchant (item.order payer now) ∧ stats.totalPayments + 1 ≤ u32Max) ∧
        result = stats.counted item.amount ∧
        next = world.settled merchant (item.order payer now) := by
  have known : (world.recorded (item.order payer now)).getMerchant item.merchantAddress =
      some merchant := found
  change Tx.Commits (recordPayment (item.order payer now) >>= _) env world result next ↔ _
  simp only [Tx.commits_bind, Tx.exists_unit, commits_recordPayment, Tx.commits_gets,
    Tx.commits_whenSome, commits_addI128, Tx.commits_modify, commits_countMerchantPayment,
    commits_countedPayment]
  constructor
  · rintro ⟨_, ⟨room, rfl⟩, _, _, ⟨rfl, rfl⟩, _,
      ⟨found, here, _, _, ⟨received, rfl, rfl⟩, rfl⟩ | ⟨missing, rfl⟩, _, ⟨counts, rfl⟩, bounded,
      rfl, rfl⟩
    · obtain rfl := Option.some.inj (known.symm.trans here)
      exact ⟨⟨⟨room, received, counts⟩, bounded⟩, rfl, rfl⟩
    · cases known.symm.trans missing
  · rintro ⟨⟨⟨room, received, counts⟩, bounded⟩, rfl, rfl⟩
    exact ⟨_, ⟨room, rfl⟩, _, _, ⟨rfl, rfl⟩, _,
      .inl ⟨merchant, known, _, _, ⟨received, rfl, rfl⟩, rfl⟩, _, ⟨counts, rfl⟩, bounded, rfl, rfl⟩

end Writes

section Phases

/-- What a group owes. -/
def Contract.PaymentGroup.debt (group : PaymentGroup) : Debt Address Address :=
  ⟨group.token, group.merchant, group.total⟩

/-- What an item owes. -/
def BatchPaymentItem.debt (item : BatchPaymentItem) : Debt Address Address :=
  ⟨item.tokenAddress, item.merchantAddress, item.amount⟩

theorem Contract.PaymentGroup.takes_iff {group : PaymentGroup} :
    group.Takes item ↔ group.debt.key = item.debt.key :=
  Prod.mk_inj.symm

/-- Phase 1 changes at most the rate counters. -/
theorem validateBatch_rates {seenIds result : List Text} {items : List BatchPaymentItem}
    (committed : (Tx.fold validateBatchItem seenIds items).Commits env world result next) :
    next = { world with
      payments := { world.payments with
        rateLimitCounters := next.payments.rateLimitCounters } } := by
  induction items generalizing seenIds world with
  | nil =>
      obtain ⟨_, rfl⟩ := Tx.commits_fold_nil.mp committed
      rfl
  | cons item rest inductionHypothesis =>
      obtain ⟨between, middle, head, tail⟩ := Tx.commits_fold_cons.mp committed
      simp [validateBatchItem, requireTokenAllowed, openOrder, commits_consumeRateLimit] at head
      obtain ⟨_, _, _, _, _, _, ⟨_, rfl⟩, _⟩ := head
      have kept := inductionHypothesis tail
      exact kept

/-- Phase 2 collects the debts of the items. -/
theorem addToGroups_collects {groups result : List PaymentGroup}
    (committed : (addToGroups groups item).Commits env world result next) :
    result.map PaymentGroup.debt = Debt.collect (groups.map PaymentGroup.debt) item.debt ∧
      next = world := by
  simp only [addToGroups, Tx.commits_bind, Tx.exists_unit, Tx.commits_require,
    Tx.commits_pure] at committed
  obtain ⟨_, ⟨_, rfl⟩, rfl, rfl⟩ := committed
  refine ⟨?_, rfl⟩
  have raised : (groups.map fun group => if group.Takes item then
      { group with total := group.total + item.amount } else group).map PaymentGroup.debt =
        (groups.map PaymentGroup.debt).map item.debt.raise := by
    rw [List.map_map, List.map_map]
    refine List.map_congr_left fun group _ => ?_
    simp only [Function.comp, Debt.raise, ← PaymentGroup.takes_iff]
    split <;> rfl
  have known : (∃ group ∈ groups, group.Takes item) ↔
      item.debt.key ∈ (groups.map PaymentGroup.debt).map Debt.key := by
    simp only [PaymentGroup.takes_iff, List.map_map, List.mem_map, Function.comp]
  unfold Debt.collect
  by_cases listed : ∃ group ∈ groups, group.Takes item
  · rw [if_pos listed, if_pos (known.mp listed), raised]
  · have fresh := mt known.mpr listed
    rw [if_neg listed, if_neg fresh, List.map_append, raised]
    have kept : (groups.map PaymentGroup.debt).map item.debt.raise =
        groups.map PaymentGroup.debt := by
      refine (List.map_congr_left fun group member => ?_).trans (List.map_id _)
      exact Debt.raise_of_ne fun same => fresh (List.mem_map.mpr ⟨group, member, same⟩)
    rw [kept]
    rfl

theorem addAllToGroups_collects {groups result : List PaymentGroup}
    {items : List BatchPaymentItem}
    (committed : (Tx.fold addToGroups groups items).Commits env world result next) :
    result.map PaymentGroup.debt =
        Debt.collectAll (groups.map PaymentGroup.debt) (items.map BatchPaymentItem.debt) ∧
      next = world := by
  induction items generalizing groups world with
  | nil =>
      obtain ⟨rfl, rfl⟩ := Tx.commits_fold_nil.mp committed
      exact ⟨rfl, rfl⟩
  | cons item rest inductionHypothesis =>
      obtain ⟨between, middle, head, tail⟩ := Tx.commits_fold_cons.mp committed
      obtain ⟨collected, rfl⟩ := addToGroups_collects head
      obtain ⟨result, rfl⟩ := inductionHypothesis tail
      rw [collected] at result
      exact ⟨result, rfl⟩

/-- The payer covers the groups in phase 3, and pays them. -/
theorem payGroups_pays {groups : List PaymentGroup}
    (committed : (Tx.each (fun group => tokenTransfer .batchGroup group.token payer group.merchant
      group.total) groups).Commits env world () next) :
    Debt.Covered payer world.bank (groups.map PaymentGroup.debt) ∧
      (∀ group ∈ groups,
        env.permits (.transfer group.token payer group.merchant group.total) = true) ∧
      next = { world with
        bank := Debt.payAll payer world.bank (groups.map PaymentGroup.debt)
        transfers := next.transfers } := by
  induction groups generalizing world with
  | nil =>
      obtain rfl := Tx.commits_each_nil.mp committed
      exact ⟨trivial, by simp, rfl⟩
  | cons group rest inductionHypothesis =>
      obtain ⟨middle, head, tail⟩ := Tx.commits_each_cons.mp committed
      obtain ⟨_, permitted, _, held, rfl⟩ := commits_tokenTransfer.mp head
      obtain ⟨covered, restPermitted, paid⟩ := inductionHypothesis tail
      exact ⟨⟨held, covered⟩, List.forall_mem_cons.mpr ⟨permitted, restPermitted⟩, paid⟩

/-- Phase 4 changes the orders with their indexes, the merchants and their statistics. -/
theorem storeBatch_keeps {now : Nat} {stats result : GlobalStats} {items : List BatchPaymentItem}
    (committed : (Tx.fold (storeBatchItem payer now) stats items).Commits env world result next) :
    next = { world with
      merchants := next.merchants
      stats := next.stats
      payments := { world.payments with
        orders := next.payments.orders
        merchantIds := next.payments.merchantIds
        payerIds := next.payments.payerIds } } := by
  induction items generalizing stats world with
  | nil =>
      obtain ⟨_, rfl⟩ := Tx.commits_fold_nil.mp committed
      rfl
  | cons item rest inductionHypothesis =>
      obtain ⟨between, middle, head, tail⟩ := Tx.commits_fold_cons.mp committed
      simp [storeBatchItem, commits_recordPayment, commits_countMerchantPayment,
        commits_countedPayment] at head
      obtain ⟨_, _, written, ⟨_, rfl⟩, _, rfl⟩ := head
      have kept := inductionHypothesis tail
      rcases written with ⟨_, _, _, rfl⟩ | ⟨_, rfl⟩
      · exact kept
      · exact kept

/-- An accepted batch went through its four phases. -/
theorem batchPayment_phases {items : List BatchPaymentItem}
    (committed : (batchPayment payer items).Commits env world () next) :
    ∃ seenIds groups validated paying stored stats,
      world.getPaused = false ∧ env.Authorised payer ∧
      (Tx.fold validateBatchItem [] items).Commits env world seenIds validated ∧
      groups.map PaymentGroup.debt = Debt.collectAll [] (items.map BatchPaymentItem.debt) ∧
      (Tx.each (fun group => tokenTransfer .batchGroup group.token payer group.merchant
        group.total) groups).Commits env validated () paying ∧
      (Tx.fold (storeBatchItem payer paying.timestamp) paying.getGlobalStats items).Commits env
        paying stats stored ∧
      next = stored.setGlobalStats stats := by
  simp only [batchPayment, Tx.commits_bind, Tx.exists_unit, commits_requireNotPaused,
    commits_requireAuth, Tx.commits_failIf, commits_timestamp, Tx.commits_gets,
    Tx.commits_modify] at committed
  obtain ⟨_, ⟨unpaused, rfl⟩, _, ⟨authorised, rfl⟩, _, ⟨_, rfl⟩, seenIds, validated, checked,
    groups, _, grouped, paying, paid, _, _, ⟨rfl, rfl⟩, _, _, ⟨rfl, rfl⟩, stats, stored, written,
    rfl⟩ := committed
  obtain ⟨collected, rfl⟩ := addAllToGroups_collects grouped
  exact ⟨seenIds, groups, _, _, stored, stats, unpaused, authorised, checked, collected, paid,
    written, rfl⟩

end Phases

section Singles

/-- A payment that its merchant has signed by itself. -/
structure SignedPayment where
  item : BatchPaymentItem
  nonce : Nat
  timestamp : Nat
  signature : Bytes
  merchantPublicKey : Bytes

/-- The single payment of the item. -/
def SignedPayment.call (payer : Address) (signed : SignedPayment) : Call :=
  .payment (.processPaymentWithSignature payer signed.item.orderId signed.item.merchantAddress
    signed.item.tokenAddress signed.item.amount signed.item.memo signed.item.tags signed.nonce
    signed.timestamp signed.signature signed.merchantPublicKey)

/-- The signature verifies, and has not expired. -/
structure SignedPayment.Valid (host : Host) (now expiryWindow : Nat) (signed : SignedPayment) :
    Prop where
  stamped : U64 signed.timestamp
  current : now - expiryWindow ≤ signed.timestamp
  keyLength : signed.merchantPublicKey.length = 32
  signatureLength : signed.signature.length = 64
  verified : host.ed25519Verify signed.merchantPublicKey
    (signaturePayload host signed.nonce signed.item.orderId signed.item.amount signed.timestamp)
    signed.signature = true

/-- All that a single payment without a fee asks for. -/
structure SignedPayment.Payable (env : Env) (world : World) (payer : Address)
    (merchant : Merchant) (signed : SignedPayment) : Prop where
  fits : signed.item.Fits
  unpaused : world.getPaused = false
  authorised : env.Authorised payer
  positive : 0 < signed.item.amount
  validId : ValidId signed.item.orderId
  tags : ValidTags signed.item.tags
  memo : signed.item.memo.length ≤ env.host.maxMemoLength
  allowed : world.isTokenAllowed signed.item.tokenAddress = true
  free : world.getPayment signed.item.orderId = none
  found : world.getMerchant signed.item.merchantAddress = some merchant
  active : merchant.active = true
  nonce : signed.nonce =
    saturatingAddU64 (world.getMerchantNonce signed.item.merchantAddress) 1
  valid : signed.Valid env.host world.timestamp world.getSignatureExpiryWindow
  unlimited :
    world.getRateLimitCounter signed.item.merchantAddress world.currentWindowStart <
        world.getRateLimitPerWindow ∧
      world.getRateLimitCounter signed.item.merchantAddress world.currentWindowStart + 1 ≤ u32Max
  feeless : world.getPlatformFeeBps = 0
  permitted : env.permits (.transfer signed.item.tokenAddress payer signed.item.merchantAddress
    signed.item.amount) = true
  held : signed.item.amount ≤ world.bank.balance signed.item.tokenAddress payer
  settles : world.Settles merchant (signed.item.order payer world.timestamp)
  counts : world.getGlobalStats.totalPayments + 1 ≤ u32Max

/-- The world after a single payment without a fee. -/
def World.paidSingly (world : World) (payer : Address) (merchant : Merchant)
    (signed : SignedPayment) : World :=
  let item := signed.item
  let charged := ((world.incrementMerchantNonce item.merchantAddress).rated
    item.merchantAddress).moveTokens
      ⟨.payment item.orderId, item.tokenAddress, payer, item.merchantAddress, item.amount⟩
  (charged.settled merchant (item.order payer world.timestamp)).setGlobalStats
    (world.getGlobalStats.counted item.amount)

variable {merchant : Merchant} {signed : SignedPayment}

theorem SignedPayment.Payable.fits_call (payable : signed.Payable env world payer merchant) :
    (signed.call payer).Fits := by
  obtain ⟨id, amount, memo, tags, _⟩ := payable.fits
  have nonce : U64 signed.nonce := payable.nonce ▸ min_le_left _ _
  have signature : Sized signed.signature := by
    rw [Sized, payable.valid.signatureLength]
    decide
  have key : Sized signed.merchantPublicKey := by
    rw [Sized, payable.valid.keyLength]
    decide
  exact ⟨id, amount, memo, tags, nonce, payable.valid.stamped, signature, key⟩

theorem SignedPayment.Payable.succeeds {host : Host} {auth : List Address}
    {permits : TokenCall → Bool}
    (payable : signed.Payable (host.env auth permits) world payer merchant) :
    Succeeds host world auth permits (signed.call payer)
      (world.paidSingly payer merchant signed) := by
  refine succeeds_iff.mpr ⟨payable.fits_call, ?_⟩
  refine Tx.commits_bind.mpr ⟨(), _, commits_requireNotPaused.mpr ⟨payable.unpaused, rfl⟩, ?_⟩
  refine Tx.commits_bind.mpr ⟨(), _, commits_requireAuth.mpr ⟨payable.authorised, rfl⟩, ?_⟩
  refine Tx.commits_bind.mpr ⟨(), _, commits_requirePositive.mpr ⟨payable.positive, rfl⟩, ?_⟩
  refine Tx.commits_bind.mpr ⟨(), _, commits_requireValidId.mpr ⟨payable.validId, rfl⟩, ?_⟩
  refine Tx.commits_bind.mpr ⟨(), _, commits_validateTags.mpr ⟨payable.tags, rfl⟩, ?_⟩
  refine Tx.commits_bind.mpr ⟨(), _, commits_requireValidMemo.mpr ⟨payable.memo, rfl⟩, ?_⟩
  refine Tx.commits_bind.mpr ⟨(), _, commits_requireTokenAllowed.mpr ⟨payable.allowed, rfl⟩, ?_⟩
  refine Tx.commits_bind.mpr ⟨_, _,
    commits_openOrder.mpr ⟨⟨payable.free, payable.found, payable.active⟩, rfl⟩, ?_⟩
  refine Tx.commits_bind.mpr ⟨_, _, Tx.commits_gets.mpr ⟨rfl, rfl⟩, ?_⟩
  refine Tx.commits_bind.mpr ⟨(), _, Tx.commits_failIf.mpr ⟨not_not.mpr payable.nonce, rfl⟩, ?_⟩
  refine Tx.commits_bind.mpr ⟨_, _, commits_timestamp.mpr ⟨rfl, rfl⟩, ?_⟩
  refine Tx.commits_bind.mpr ⟨_, _, Tx.commits_gets.mpr ⟨rfl, rfl⟩, ?_⟩
  refine Tx.commits_bind.mpr ⟨(), _,
    Tx.commits_failIf.mpr ⟨not_lt.mpr payable.valid.current, rfl⟩, ?_⟩
  refine Tx.commits_bind.mpr ⟨(), _, commits_requireTokenAllowed.mpr ⟨payable.allowed, rfl⟩, ?_⟩
  refine Tx.commits_bind.mpr ⟨_, _, Tx.commits_ask.mpr ⟨rfl, rfl⟩, ?_⟩
  refine Tx.commits_bind.mpr ⟨(), _, commits_verifySignature.mpr ⟨⟨payable.valid.keyLength,
    payable.valid.signatureLength, payable.valid.verified⟩, rfl⟩, ?_⟩
  refine Tx.commits_bind.mpr ⟨(), _, Tx.commits_modify.mpr rfl, ?_⟩
  refine Tx.commits_bind.mpr ⟨(), _, commits_consumeRateLimit.mpr ⟨payable.unlimited, rfl⟩, ?_⟩
  refine Tx.commits_bind.mpr ⟨_, _, transferWithFee_commits payable.feeless payable.fits.2.1
    payable.authorised payable.permitted payable.positive.le payable.held, ?_⟩
  refine Tx.commits_bind.mpr ⟨_, _,
    commits_subI128.mpr ⟨(sub_zero signed.item.amount).symm ▸ payable.fits.2.1, rfl, rfl⟩, ?_⟩
  refine Tx.commits_bind.mpr ⟨(), _, commits_recordPayment.mpr ⟨payable.settles.room, rfl⟩, ?_⟩
  rw [sub_zero]
  refine Tx.commits_bind.mpr ⟨_, _,
    commits_addI128.mpr ⟨payable.settles.received, rfl, rfl⟩, ?_⟩
  refine Tx.commits_bind.mpr ⟨(), _, Tx.commits_modify.mpr rfl, ?_⟩
  refine Tx.commits_bind.mpr ⟨(), _,
    commits_countMerchantPayment.mpr ⟨payable.settles.counts, rfl⟩, ?_⟩
  refine Tx.commits_bind.mpr ⟨_, _, Tx.commits_gets.mpr ⟨rfl, rfl⟩, ?_⟩
  refine Tx.commits_bind.mpr ⟨_, _,
    commits_countedPayment.mpr ⟨payable.counts, rfl, rfl⟩, ?_⟩
  exact Tx.commits_modify.mpr rfl

end Singles

end LumenFlow

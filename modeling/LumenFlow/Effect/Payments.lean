import LumenFlow.Effect.Admin

/-!
# Effects of the payment calls
-/

namespace LumenFlow

open Kit Contract

variable {env : Env} {world next : World}

section Parts

instance (merchant : Address) (orderId : Text) : Quiet (addMerchantPaymentId merchant orderId) where
  kept committed := by
    simp [addMerchantPaymentId] at committed
    obtain ⟨_, rfl⟩ := committed
    rfl

instance (payer : Address) (orderId : Text) : Quiet (addPayerPaymentId payer orderId) where
  kept committed := by
    simp [addPayerPaymentId] at committed
    obtain ⟨_, rfl⟩ := committed
    rfl

instance (merchant : Address) (windowStart : Nat) :
    Quiet (incrementRateLimitCounter merchant windowStart) where
  kept committed := by
    simp [incrementRateLimitCounter] at committed
    obtain ⟨_, rfl⟩ := committed
    rfl

instance (merchant : Address) : Quiet (consumeRateLimit merchant) := by
  unfold consumeRateLimit; infer_instance

instance (merchant : Address) (amount : Int) : Quiet (countMerchantPayment merchant amount) := by
  unfold countMerchantPayment; infer_instance

instance (amount : Int) : Quiet (countGlobalPayment amount) := by
  unfold countGlobalPayment; infer_instance

theorem recordPayment_books {payment : PaymentOrder}
    (committed : (recordPayment payment).Commits env world () next) :
    next.books = { world.books with orders := world.books.orders.put payment } := by
  simp only [recordPayment, Tx.commits_bind, Tx.exists_unit, Tx.commits_modify,
    exists_eq_left] at committed
  obtain ⟨_, merchantIndex, payerIndex⟩ := committed
  rw [quiet_books payerIndex, quiet_books merchantIndex]
  rfl

theorem recordPaymentBestEffort_books {payment : PaymentOrder}
    (committed : (recordPaymentBestEffort payment).Commits env world () next) :
    next.books = { world.books with orders := world.books.orders.put payment } := by
  simp only [recordPaymentBestEffort, Tx.commits_bind, Tx.exists_unit, Tx.commits_modify,
    exists_eq_left] at committed
  obtain ⟨_, _, readMerchant, _, merchantIndex, _, _, readPayer, payerIndex⟩ := committed
  rw [quiet_books payerIndex, quiet_books readPayer, quiet_books merchantIndex,
    quiet_books readMerchant]
  rfl

/-- A payment is charged to the payer, in one transfer or in two. -/
theorem transferWithFee_books {payer merchantAddress token : Address} {orderId : Text}
    {amount fee : Int}
    (committed : (transferWithFee payer orderId merchantAddress token amount).Commits env world
      fee next) :
    ∃ transfers, next.books = world.books.settleAll transfers ∧
      ∀ transfer ∈ transfers, transfer.sender = payer ∧ transfer.cause.IsCharge ∧
        0 ≤ transfer.amount := by
  simp [transferWithFee] at committed
  obtain ⟨_, _, _, ⟨_, _, merchantPart, _⟩, outcome, rfl⟩ | ⟨_, _, ⟨_, _, nonneg, _⟩, rfl, rfl⟩ :=
    committed
  · rcases outcome with ⟨feePart, ⟨recipient, _, _, _, _, _, rfl⟩ | ⟨_, rfl⟩⟩ | ⟨_, rfl⟩
    · exact ⟨[_, _], rfl, by simp [Cause.IsCharge, merchantPart, feePart.le]⟩
    · exact ⟨[_], rfl, by simp [Cause.IsCharge, merchantPart]⟩
    · exact ⟨[_], rfl, by simp [Cause.IsCharge, merchantPart]⟩
  · exact ⟨[_], rfl, by simp [Cause.IsCharge, nonneg]⟩

end Parts

section Single

/-- The merchant is active and the token is allowed. -/
structure World.Welcomes (world : World) (merchant token : Address) : Prop where
  active : standing world.merchants.records merchant = some true
  allowed : world.config.allowedTokens token = true

/-- What a single payment has checked, and what it writes. -/
structure SinglePaid (env : Env) (world next : World) (order : PaymentOrder) : Prop where
  isNew : order.IsNew world.timestamp
  positive : 0 < order.amount
  authorised : env.Authorised order.payer
  free : world.payments.orders.get order.orderId = none
  welcome : world.Welcomes order.merchantAddress order.token
  books : ∃ transfers profile, profile.address = order.merchantAddress ∧ profile.active = true ∧
    (∀ transfer ∈ transfers,
      env.Authorised transfer.sender ∧ transfer.cause.IsCharge ∧ 0 ≤ transfer.amount) ∧
    next.books =
      { world.books.settleAll transfers with
        orders := world.books.orders.put order
        merchants := world.books.merchants.put profile }

/-- The phases of a single payment once its checks have passed: it uses up a nonce and the rate
limit, is charged, stored and counted, and an amount is added to the total of its merchant. -/
inductive SinglePhases (env : Env) (world next : World) (order : PaymentOrder) (received : Int) :
    Prop where
  | intro (merchant : Merchant) (start paid stored counting : World)
      (isNew : order.IsNew world.timestamp) (positive : 0 < order.amount)
      (authorised : env.Authorised order.payer)
      (free : world.payments.orders.get order.orderId = none)
      (allowed : world.config.allowedTokens order.token = true)
      (found : world.merchants.records.get order.merchantAddress = some merchant)
      (active : merchant.active = true)
      (ready : start = { world with
        payments := { world.payments with
          nonces := start.payments.nonces
          merchantNonces := start.payments.merchantNonces
          rateLimitCounters := start.payments.rateLimitCounters } })
      (transferred : (transferWithFee order.payer order.orderId order.merchantAddress order.token
        order.amount).Commits env start order.platformFee paid)
      (recorded : (recordPayment order).Commits env paid () stored)
      (merchantCounted : (countMerchantPayment order.merchantAddress order.amount).Commits env
        (stored.setMerchant { merchant with totalReceived := merchant.totalReceived + received })
        () counting)
      (globallyCounted : (countGlobalPayment order.amount).Commits env counting () next) :
      SinglePhases env world next order received

theorem processPaymentWithSignature_phases {payer : Address} {orderId : Text}
    {merchantAddress tokenAddress : Address} {amount : Int} {memo : Text}
    {tags : Option (List Text)} {nonce timestamp : Nat} {signature merchantPublicKey : Bytes}
    (committed : (processPaymentWithSignature payer orderId merchantAddress tokenAddress amount
      memo tags nonce timestamp signature merchantPublicKey).Commits env world () next) :
    ∃ order, order.terms = ⟨orderId, merchantAddress, payer, tokenAddress, amount⟩ ∧
      SinglePhases env world next order (amount - order.platformFee) := by
  simp [processPaymentWithSignature, requireTokenAllowed, openOrder] at committed
  obtain ⟨_, authorised, positive, _, _, _, allowed, merchant, ⟨free, found, active⟩, _, _, _, _,
    limiting, limited, fee, paying, transferred, _, storing, recorded, _, counting,
    merchantCounted, counted⟩ := committed
  simp [consumeRateLimit, incrementRateLimitCounter] at limited
  obtain ⟨_, _, rfl⟩ := limited
  let order : PaymentOrder := ⟨orderId, merchantAddress, payer, tokenAddress, amount, 0,
    .completed, world.timestamp, 0, memo, tags, fee⟩
  exact ⟨order, rfl, .intro merchant _ paying storing counting ⟨rfl, rfl, rfl, rfl⟩ positive
    authorised free allowed found active rfl transferred recorded merchantCounted counted⟩

theorem processPaymentWithNonce_phases {payer : Address} {orderId : Text}
    {merchantAddress tokenAddress : Address} {amount : Int} {memo : Text}
    {tags : Option (List Text)} {nonce : Nat}
    (committed : (processPaymentWithNonce payer orderId merchantAddress tokenAddress amount
      memo tags nonce).Commits env world () next) :
    ∃ order, order.terms = ⟨orderId, merchantAddress, payer, tokenAddress, amount⟩ ∧
      SinglePhases env world next order amount := by
  simp [processPaymentWithNonce, requireTokenAllowed, openOrder] at committed
  obtain ⟨_, authorised, positive, _, _, _, _, allowed, merchant, ⟨free, found, active⟩, fee,
    paying, transferred, storing, recorded, _, counting, merchantCounted, counted⟩ := committed
  obtain ⟨transfers, moved, _⟩ := transferWithFee_books transferred
  have clock : paying.timestamp = world.timestamp := by
    change paying.books.timestamp = _
    rw [moved, Books.settleAll_timestamp]
    rfl
  rw [clock] at recorded
  let order : PaymentOrder := ⟨orderId, merchantAddress, payer, tokenAddress, amount, 0,
    .completed, world.timestamp, 0, memo, tags, fee⟩
  exact ⟨order, rfl, .intro merchant _ paying storing counting ⟨rfl, rfl, rfl, rfl⟩ positive
    authorised free allowed found active rfl transferred recorded merchantCounted counted⟩

theorem SinglePhases.paid {order : PaymentOrder} {received : Int}
    (phases : SinglePhases env world next order received) : SinglePaid env world next order := by
  obtain ⟨merchant, start, paying, storing, counting, isNew, positive, authorised, free, allowed,
    found, active, ready, transferred, recorded, merchantCounted, counted⟩ := phases
  obtain ⟨transfers, moved, charged⟩ := transferWithFee_books transferred
  have address : merchant.address = order.merchantAddress := Table.key_of_get found
  have unchanged : start.books = world.books := by
    rw [ready]
    rfl
  have order_stored := recordPayment_books recorded
  rw [moved, unchanged] at order_stored
  let profile : Merchant := { merchant with totalReceived := merchant.totalReceived + received }
  refine ⟨isNew, positive, authorised, free, ⟨?_, allowed⟩, transfers, profile, address, active,
    ?_, ?_⟩
  · rw [standing, found, ← active]
    rfl
  · intro transfer membership
    obtain ⟨sender, charge, nonneg⟩ := charged transfer membership
    exact ⟨sender ▸ authorised, charge, nonneg⟩
  · rw [quiet_books counted, quiet_books merchantCounted]
    change { storing.books with merchants := storing.books.merchants.put profile } = _
    rw [order_stored]
    simp

theorem processPaymentWithSignature_paid {payer : Address} {orderId : Text}
    {merchantAddress tokenAddress : Address} {amount : Int} {memo : Text}
    {tags : Option (List Text)} {nonce timestamp : Nat} {signature merchantPublicKey : Bytes}
    (committed : (processPaymentWithSignature payer orderId merchantAddress tokenAddress amount
      memo tags nonce timestamp signature merchantPublicKey).Commits env world () next) :
    ∃ order, order.terms = ⟨orderId, merchantAddress, payer, tokenAddress, amount⟩ ∧
      SinglePaid env world next order := by
  obtain ⟨order, terms, phases⟩ := processPaymentWithSignature_phases committed
  exact ⟨order, terms, phases.paid⟩

theorem processPaymentWithNonce_paid {payer : Address} {orderId : Text}
    {merchantAddress tokenAddress : Address} {amount : Int} {memo : Text}
    {tags : Option (List Text)} {nonce : Nat}
    (committed : (processPaymentWithNonce payer orderId merchantAddress tokenAddress amount
      memo tags nonce).Commits env world () next) :
    ∃ order, order.terms = ⟨orderId, merchantAddress, payer, tokenAddress, amount⟩ ∧
      SinglePaid env world next order := by
  obtain ⟨order, terms, phases⟩ := processPaymentWithNonce_phases committed
  exact ⟨order, terms, phases.paid⟩

theorem SinglePaid.effect {order : PaymentOrder} (paid : SinglePaid env world next order)
    {call : PaymentCall} (listed : call.terms = [order.terms]) :
    Effect env world.books (.payment call) next.books := by
  obtain ⟨transfers, profile, address, _, charged, books⟩ := paid.books
  have registered : world.books.Registered order.merchantAddress :=
    Books.registered_of_standing paid.welcome.active
  rw [books]
  refine .paid call [order] [profile] transfers listed.symm (by simp) ?_ ?_ ?_ charged
  · exact List.forall_mem_singleton.mpr paid.free
  · exact List.forall_mem_singleton.mpr ⟨paid.isNew, paid.positive, registered⟩
  · exact List.forall_mem_singleton.mpr (address ▸ registered)

end Single

section Batch

/-- The payment that an item of a batch becomes. -/
def BatchPaymentItem.order (item : BatchPaymentItem) (payer : Address) (now : Nat) :
    PaymentOrder where
  orderId := item.orderId
  merchantAddress := item.merchantAddress
  payer := payer
  token := item.tokenAddress
  amount := item.amount
  version := 0
  status := .completed
  paidAt := now
  refundedAmount := 0
  memo := item.memo
  tags := item.tags
  platformFee := 0

/-- What phase 1 has checked about an item. -/
structure BatchPaymentItem.Validated (host : Host) (books : Books) (item : BatchPaymentItem) :
    Prop where
  positive : 0 < item.amount
  validId : ValidId item.orderId
  free : books.orders.get item.orderId = none
  registered : books.Registered item.merchantAddress
  keyLength : item.merchantPublicKey.length = 32
  signatureLength : item.signature.length = 64
  verified : host.ed25519Verify item.merchantPublicKey
    (batchPayload host item.orderId item.amount) item.signature = true

theorem validateBatchItem_spec {seenIds result : List Text} {item : BatchPaymentItem}
    (committed : (validateBatchItem seenIds item).Commits env world result next) :
    item.Validated env.host world.books ∧ item.orderId ∉ seenIds ∧
      result = seenIds ++ [item.orderId] ∧ next.books = world.books ∧
      world.Welcomes item.merchantAddress item.tokenAddress ∧ next.config = world.config := by
  simp [validateBatchItem, requireTokenAllowed, openOrder] at committed
  obtain ⟨positive, validId, _, unseen, allowed, ⟨free, merchant, found, active⟩, limited, _,
    ⟨keyLength, signatureLength, verified⟩, rfl⟩ := committed
  have config : next.config = world.config := by
    simp [consumeRateLimit, incrementRateLimitCounter] at limited
    obtain ⟨_, _, rfl⟩ := limited
    rfl
  have standing : standing world.merchants.records item.merchantAddress = some true := by
    rw [LumenFlow.standing, found, ← active]
    rfl
  exact ⟨⟨positive, validId, free, ⟨merchant, found⟩, keyLength, signatureLength, verified⟩,
    unseen, rfl, quiet_books limited, ⟨standing, allowed⟩, config⟩

/-- Phase 1 accepts a list of validated items with distinct identifiers. -/
theorem validateBatch_spec {seenIds result : List Text} {items : List BatchPaymentItem}
    (committed : (Tx.fold validateBatchItem seenIds items).Commits env world result next) :
    (∀ item ∈ items, item.Validated env.host world.books ∧ item.orderId ∉ seenIds) ∧
      (items.map BatchPaymentItem.orderId).Nodup ∧ next.books = world.books ∧
      ∀ item ∈ items, world.Welcomes item.merchantAddress item.tokenAddress := by
  induction items generalizing seenIds world with
  | nil =>
      obtain ⟨_, rfl⟩ := Tx.commits_fold_nil.mp committed
      exact ⟨by simp, by simp, rfl, by simp⟩
  | cons item rest inductionHypothesis =>
      obtain ⟨between, middle, head, tail⟩ := Tx.commits_fold_cons.mp committed
      obtain ⟨validated, unseen, rfl, same, welcome, config⟩ := validateBatchItem_spec head
      obtain ⟨restValidated, restDistinct, restSame, restWelcome⟩ := inductionHypothesis tail
      rw [same] at restValidated
      have merchants : middle.merchants.records = world.merchants.records :=
        congrArg Books.merchants same
      refine ⟨?_, ?_, restSame.trans same, ?_⟩
      · refine List.forall_mem_cons.mpr ⟨⟨validated, unseen⟩, fun other membership => ?_⟩
        obtain ⟨otherValidated, otherUnseen⟩ := restValidated other membership
        exact ⟨otherValidated, fun seen => otherUnseen (List.mem_append_left _ seen)⟩
      · refine List.nodup_cons.mpr ⟨?_, restDistinct⟩
        intro repeated
        obtain ⟨other, membership, sameId⟩ := List.mem_map.mp repeated
        exact (restValidated other membership).2 (by simp [sameId])
      · refine List.forall_mem_cons.mpr ⟨welcome, fun other membership => ?_⟩
        obtain ⟨active, allowed⟩ := restWelcome other membership
        rw [merchants] at active
        rw [config] at allowed
        exact ⟨active, allowed⟩

/-- Phase 2 only computes. -/
instance (groups : List PaymentGroup) (item : BatchPaymentItem) :
    Quiet (addToGroups groups item) := by
  unfold addToGroups; infer_instance

/-- Phase 3 charges every group to the payer. -/
theorem payGroups_books {payer : Address} {groups : List PaymentGroup}
    (committed : (Tx.each (fun group => tokenTransfer .batchGroup group.token payer group.merchant
      group.total) groups).Commits env world () next) :
    ∃ transfers, next.books = world.books.settleAll transfers ∧
      ∀ transfer ∈ transfers, transfer.sender = payer ∧ transfer.cause.IsCharge ∧
        0 ≤ transfer.amount := by
  induction groups generalizing world with
  | nil =>
      obtain rfl := Tx.commits_each_nil.mp committed
      exact ⟨[], rfl, by simp⟩
  | cons group rest inductionHypothesis =>
      obtain ⟨middle, head, tail⟩ := Tx.commits_each_cons.mp committed
      obtain ⟨_, _, nonneg, _, rfl⟩ := commits_tokenTransfer.mp head
      obtain ⟨transfers, books, charged⟩ := inductionHypothesis tail
      refine ⟨⟨.batchGroup, group.token, payer, group.merchant, group.total⟩ :: transfers,
        books, ?_⟩
      exact List.forall_mem_cons.mpr ⟨⟨rfl, trivial, nonneg⟩, charged⟩

theorem storeBatchItem_books {payer : Address} {now : Nat} {stats result : GlobalStats}
    {item : BatchPaymentItem}
    (committed : (storeBatchItem payer now stats item).Commits env world result next) :
    ∃ profiles, (∀ profile ∈ profiles,
        standing world.books.merchants profile.address = some profile.active) ∧
      next.books =
        { world.books with
          orders := world.books.orders.put (item.order payer now)
          merchants := world.books.merchants.putAll profiles } := by
  simp [storeBatchItem] at committed
  obtain ⟨middle, recorded, writing, written, counting, merchantCounted, counted⟩ := committed
  have stored := recordPayment_books recorded
  have known : middle.books.merchants = world.books.merchants := by rw [stored]
  rw [quiet_books counted, quiet_books merchantCounted]
  rcases written with ⟨merchant, found, _, rfl⟩ | ⟨_, rfl⟩
  · let profile : Merchant :=
      { merchant with totalReceived := merchant.totalReceived + item.amount }
    have same : standing world.books.merchants profile.address = some profile.active := by
      have key : merchant.address = item.merchantAddress := Table.key_of_get found
      rw [standing, ← known, key]
      exact congrArg (Option.map Merchant.active) found
    refine ⟨[profile], List.forall_mem_singleton.mpr same, ?_⟩
    change { middle.books with merchants := middle.books.merchants.put profile } = _
    rw [stored]
    rfl
  · exact ⟨[], by simp, stored⟩

/-- Phase 4 stores the payment of every item. -/
theorem storeBatch_books {payer : Address} {now : Nat} {stats result : GlobalStats}
    {items : List BatchPaymentItem}
    (committed : (Tx.fold (storeBatchItem payer now) stats items).Commits env world result next) :
    ∃ profiles, (∀ profile ∈ profiles,
        standing world.books.merchants profile.address = some profile.active) ∧
      next.books =
        { world.books with
          orders := world.books.orders.putAll (items.map (·.order payer now))
          merchants := world.books.merchants.putAll profiles } := by
  induction items generalizing stats world with
  | nil =>
      obtain ⟨_, rfl⟩ := Tx.commits_fold_nil.mp committed
      exact ⟨[], by simp, rfl⟩
  | cons item rest inductionHypothesis =>
      obtain ⟨between, middle, head, tail⟩ := Tx.commits_fold_cons.mp committed
      obtain ⟨profiles, known, stored⟩ := storeBatchItem_books head
      obtain ⟨restProfiles, restKnown, books⟩ := inductionHypothesis tail
      refine ⟨profiles ++ restProfiles, ?_, ?_⟩
      · refine List.forall_mem_append.mpr ⟨known, fun profile membership => ?_⟩
        have same := restKnown profile membership
        rwa [stored, standing_putAll known] at same
      · rw [books, stored]
        simp [Table.putAll_append]

/-- What a batch has checked, and what it writes. -/
structure BatchPaid (env : Env) (world next : World) (payer : Address)
    (payments : List BatchPaymentItem) : Prop where
  authorised : env.Authorised payer
  validated : ∀ item ∈ payments, item.Validated env.host world.books
  distinct : (payments.map BatchPaymentItem.orderId).Nodup
  welcome : ∀ item ∈ payments, world.Welcomes item.merchantAddress item.tokenAddress
  books : ∃ transfers profiles,
    (∀ profile ∈ profiles,
      standing world.books.merchants profile.address = some profile.active) ∧
    (∀ transfer ∈ transfers,
      env.Authorised transfer.sender ∧ transfer.cause.IsCharge ∧ 0 ≤ transfer.amount) ∧
    next.books =
      { world.books.settleAll transfers with
        orders := world.books.orders.putAll (payments.map (·.order payer world.timestamp))
        merchants := world.books.merchants.putAll profiles }

theorem batchPayment_paid {payer : Address} {payments : List BatchPaymentItem}
    (committed : (batchPayment payer payments).Commits env world () next) :
    BatchPaid env world next payer payments := by
  simp [batchPayment] at committed
  obtain ⟨_, authorised, _, _, checked, validated, _, grouped, grouping, paying, paid, _, storing,
    stored, rfl⟩ := committed
  obtain ⟨items, distinct, unchanged, welcome⟩ := validateBatch_spec validated
  obtain ⟨transfers, moved, charged⟩ := payGroups_books paid
  obtain ⟨profiles, known, books⟩ := storeBatch_books stored
  rw [quiet_books grouping, unchanged] at moved
  have clock : paying.timestamp = world.timestamp := by
    change paying.books.timestamp = _
    rw [moved, Books.settleAll_timestamp]
    rfl
  refine ⟨authorised, fun item listed => (items item listed).1, distinct, welcome, transfers,
    profiles, ?_, ?_, ?_⟩
  · intro profile membership
    have same := known profile membership
    rw [moved] at same
    simpa using same
  · intro transfer membership
    obtain ⟨sender, charge, nonneg⟩ := charged transfer membership
    exact ⟨sender ▸ authorised, charge, nonneg⟩
  · change storing.books = _
    rw [books, clock, moved]
    simp

theorem BatchPaid.effect {payer : Address} {payments : List BatchPaymentItem}
    (paid : BatchPaid env world next payer payments) :
    Effect env world.books (.payment (.batchPayment payer payments)) next.books := by
  obtain ⟨transfers, profiles, known, charged, books⟩ := paid.books
  let orders := payments.map (·.order payer world.timestamp)
  have ids : orders.map PaymentOrder.orderId = payments.map BatchPaymentItem.orderId := by
    simp [orders, BatchPaymentItem.order]
  have terms : orders.map PaymentOrder.terms = payments.map (BatchPaymentItem.terms payer) := by
    simp [orders, BatchPaymentItem.order, BatchPaymentItem.terms, PaymentOrder.terms]
  rw [books]
  refine .paid _ orders profiles transfers terms (ids ▸ paid.distinct) ?_ ?_ ?_ charged
  · intro order membership
    obtain ⟨item, listed, rfl⟩ := List.mem_map.mp membership
    exact (paid.validated item listed).free
  · intro order membership
    obtain ⟨item, listed, rfl⟩ := List.mem_map.mp membership
    have validated := paid.validated item listed
    exact ⟨⟨rfl, rfl, rfl, rfl⟩, validated.positive, validated.registered⟩
  · intro profile membership
    exact Books.registered_of_standing (known profile membership)

end Batch

section Statistics

instance (stats : GlobalStats) (amount : Int) : Quiet (countedPayment stats amount) := by
  unfold countedPayment; infer_instance

instance (dateStart dateEnd : Option Nat) (stats : GlobalStats) (orderId : Text) :
    Quiet (addToRange dateStart dateEnd stats orderId) where
  kept committed := by
    obtain ⟨found, middle, reading, counted⟩ := Tx.commits_bind.mp committed
    obtain ⟨_, rfl⟩ := Tx.commits_gets.mp reading
    cases found with
    | none => rw [(Tx.commits_pure.mp counted).2]
    | some payment => exact quiet_books counted

end Statistics

section Removal

/-- Payments and refunds were deleted, no other record has changed. -/
def Pruned (before after : World) : Prop :=
  ∃ orders refunds, orders.Sub before.books.orders ∧ refunds.Sub before.books.refunds ∧
    after.books = { before.books with orders, refunds }

instance : IsPreorder World Pruned where
  refl world := ⟨world.books.orders, world.books.refunds, Table.Sub.refl _, Table.Sub.refl _, rfl⟩
  trans first second third head tail := by
    obtain ⟨_, _, ordersSub, refundsSub, middle⟩ := head
    obtain ⟨orders, refunds, lessOrders, lessRefunds, books⟩ := tail
    rw [middle] at lessOrders lessRefunds books
    exact ⟨orders, refunds, lessOrders.trans ordersSub, lessRefunds.trans refundsSub, books⟩

theorem removeRefunds_prunes (refundIds : List Text) :
    Tx.Respects Pruned
      (Tx.each (fun refundId => (write (·.removeRefund refundId) : Contract Unit)) refundIds) := by
  refine Tx.respects_each ?_
  intro refundId _ env world _ next committed
  obtain rfl := Tx.commits_modify.mp committed
  exact ⟨_, _, Table.Sub.refl _, Table.sub_erase _ refundId, rfl⟩

theorem removeExpiredPayment_prunes (cutoff cleaned : Nat) (id : Text) :
    Tx.Respects Pruned (removeExpiredPayment cutoff cleaned id) := by
  intro env world result next committed
  simp [removeExpiredPayment] at committed
  rcases committed with ⟨_, middle, removed, _, _, rfl⟩ | ⟨_, _, rfl⟩
  · have refundsGone := removeRefunds_prunes _ env world () middle removed
    exact trans_of Pruned refundsGone ⟨_, _, Table.sub_erase _ id, Table.Sub.refl _, rfl⟩
  · exact refl_of Pruned _

theorem cleanupExpiredPayments_pruned {admin : Address} {batchSize : Option Nat} {result : Nat}
    (committed : (cleanupExpiredPayments admin batchSize).Commits env world result next) :
    Pruned world next := by
  simp only [cleanupExpiredPayments, Tx.commits_bind, Tx.exists_unit, commits_requireNotPaused,
    commits_requireAdminRateLimited, Tx.commits_gets] at committed
  obtain ⟨world, ⟨_, rfl⟩, _, ⟨_, rfl⟩, cutoff, _, ⟨_, rfl⟩, merchants, _, ⟨_, rfl⟩, cleaned⟩ :=
    committed
  have pruned : Pruned (world.clearAuthFailCount admin) next := by
    refine Tx.respects_fold ?_ 0 env _ result next cleaned
    intro cleaned merchant _
    refine Tx.respects_bind (Tx.respects_gets _) fun ids => ?_
    exact Tx.respects_fold (fun cleaned id _ => removeExpiredPayment_prunes cutoff cleaned id)
      cleaned
  exact pruned

end Removal

/-- The payment after its refunded amount was set. -/
def PaymentOrder.refundedTo (payment : PaymentOrder) (refundedAmount : Int) : PaymentOrder :=
  { payment with
    refundedAmount
    version := min u32Max (payment.version + 1)
    status := Contract.refundStatus refundedAmount payment.amount }

theorem updatePaymentStatus_books {caller : Address} {orderId : Text} {refundedAmount : Int}
    {expectedVersion : Option Nat}
    (committed : (updatePaymentStatus caller orderId refundedAmount expectedVersion).Commits env
      world () next) :
    ∃ payment, world.payments.orders.get orderId = some payment ∧ env.Authorised caller ∧
      (∀ version ∈ expectedVersion, payment.version = version) ∧
      next.books =
        { world.books with
          orders := world.books.orders.put (payment.refundedTo refundedAmount) } := by
  simp [updatePaymentStatus] at committed
  obtain ⟨_, payment, stored, ⟨authorised, _⟩, current, rfl⟩ := committed
  exact ⟨payment, stored, authorised, current, rfl⟩

theorem updatePaymentStatus_written {caller : Address} {orderId : Text} {refundedAmount : Int}
    {expectedVersion : Option Nat} {payment : PaymentOrder}
    (committed : (updatePaymentStatus caller orderId refundedAmount expectedVersion).Commits env
      world () next)
    (stored : world.books.orders.get orderId = some payment) :
    next.books.orders.get orderId = some (payment.refundedTo refundedAmount) := by
  obtain ⟨found, foundHere, _, _, books⟩ := updatePaymentStatus_books committed
  obtain rfl := Option.some.inj (stored.symm.trans foundHere)
  have key : payment.orderId = orderId := Table.key_of_get stored
  rw [books]
  exact Table.get_put_of_key key

theorem PaymentCall.effect {call : PaymentCall} (committed : call.exec.Commits env world () next) :
    Effect env world.books (.payment call) next.books := by
  cases call with
  | processPaymentWithSignature =>
      obtain ⟨order, terms, paid⟩ := processPaymentWithSignature_paid committed
      exact paid.effect (congrArg (fun term => [term]) terms.symm)
  | processPaymentWithNonce =>
      obtain ⟨order, terms, paid⟩ := processPaymentWithNonce_paid committed
      exact paid.effect (congrArg (fun term => [term]) terms.symm)
  | batchPayment => exact (batchPayment_paid committed).effect
  | updatePaymentStatus caller orderId refundedAmount expectedVersion =>
      obtain ⟨payment, stored, authorised, _, books⟩ := updatePaymentStatus_books committed
      rw [books]
      exact .statusUpdated caller orderId refundedAmount expectedVersion payment stored authorised
  | archivePaymentRecord admin orderId =>
      simp [PaymentCall.exec, Contract.archivePaymentRecord] at committed
      obtain ⟨_, _, _, rfl⟩ := committed
      exact .archived admin orderId
  | cleanupExpiredPayments =>
      obtain ⟨_, cleaned⟩ := Tx.commits_discard.mp committed
      obtain ⟨orders, refunds, ordersSub, refundsSub, books⟩ :=
        cleanupExpiredPayments_pruned cleaned
      rw [books]
      exact .paymentsCleaned _ _ orders refunds ordersSub refundsSub
  | getPaymentById =>
      simp [PaymentCall.exec, Contract.getPaymentById, requireParty] at committed
      obtain ⟨_, _, _, rfl, _⟩ := committed
      exact .quiet _ rfl
  | getPaymentSummary =>
      simp [PaymentCall.exec, Contract.getPaymentSummary] at committed
      obtain ⟨_, _, rfl⟩ := committed
      exact .quiet _ rfl
  | getMerchantPaymentHistory =>
      simp [PaymentCall.exec, Contract.getMerchantPaymentHistory] at committed
      obtain ⟨_, _, rfl⟩ := committed
      exact .quiet _ rfl
  | getPayerPaymentHistory =>
      simp [PaymentCall.exec, Contract.getPayerPaymentHistory] at committed
      obtain ⟨_, _, rfl⟩ := committed
      exact .quiet _ rfl
  | getGlobalPaymentStats admin dateStart dateEnd =>
      have quiet : Quiet (Contract.getGlobalPaymentStats admin dateStart dateEnd) := by
        unfold Contract.getGlobalPaymentStats; infer_instance
      obtain ⟨_, counted⟩ := Tx.commits_discard.mp committed
      rw [quiet_books counted]
      exact .quiet _ rfl
  | getAccountPaymentCount =>
      simp [PaymentCall.exec, Contract.getAccountPaymentCount] at committed
      obtain rfl := committed
      exact .quiet _ rfl
  | getPayerNonce =>
      simp [PaymentCall.exec, Contract.getPayerNonce] at committed
      obtain rfl := committed
      exact .quiet _ rfl
  | getMerchantNonce =>
      simp [PaymentCall.exec, Contract.getMerchantNonce] at committed
      obtain rfl := committed
      exact .quiet _ rfl

end LumenFlow

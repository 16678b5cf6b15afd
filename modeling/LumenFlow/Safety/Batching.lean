import LumenFlow.Effect.Batches
import LumenFlow.Effect.Standing

/-!
# A batch equals its single payments

Between two of the single payments the world holds the rate counters that phase 1 of the batch
has at the item, the orders, indexes, merchants and statistics that phase 4 has there, and
balances of its own.
-/

namespace LumenFlow

open Kit Contract

/-- Pay one item with the signature of its merchant. -/
def paySingly (host : Host) (auth : List Address) (permits : TokenCall → Bool) (payer : Address)
    (world : World) (signed : SignedPayment) : World :=
  step host world (.invoke auth permits (signed.call payer))

/-- The contract accepts the single payment. -/
def AcceptedSingly (host : Host) (auth : List Address) (permits : TokenCall → Bool)
    (payer : Address) (world : World) (signed : SignedPayment) : Prop :=
  Accepted host world auth permits (signed.call payer)

/-- Each payment carries the next nonce of its merchant when its turn comes. -/
def RightNonces : (Address → Nat) → List SignedPayment → Prop
  | _, [] => True
  | nonces, signed :: rest =>
      signed.nonce = saturatingAddU64 (nonces signed.item.merchantAddress) 1 ∧
        RightNonces (Function.update nonces signed.item.merchantAddress signed.nonce) rest

/-- A token contract that accepts a transfer accepts a smaller one of the same accounts. -/
def PermitsParts (permits : TokenCall → Bool) : Prop :=
  ∀ token sender recipient total amount, 0 < amount → amount ≤ total →
    permits (.transfer token sender recipient total) = true →
      permits (.transfer token sender recipient amount) = true

/-- The second world differs from the first one at most in the nonces of the merchants, and in
the log of transfers that no function reads. -/
def World.SameButNonces (first second : World) : Prop :=
  second = { first with
    payments := { first.payments with merchantNonces := second.payments.merchantNonces }
    transfers := second.transfers }

/-- The world between two single payments. -/
def World.between (validating storing : World) (global : GlobalStats)
    (bank : TokenLedger Address Address) (transfers : List Transfer) (nonces : Address → Nat) :
    World :=
  { validating with
    merchants := storing.merchants
    stats := { storing.stats with global }
    payments := { validating.payments with
      orders := storing.payments.orders
      merchantIds := storing.payments.merchantIds
      payerIds := storing.payments.payerIds
      merchantNonces := nonces }
    bank
    transfers }

variable {host : Host} {auth : List Address} {permits : TokenCall → Bool} {payer : Address}
  {world validating validated storing stored next : World} {singles rest : List SignedPayment}
  {signed : SignedPayment} {merchant : Merchant} {global counted : GlobalStats}
  {bank : TokenLedger Address Address} {transfers : List Transfer} {nonces : Address → Nat}
  {now : Nat}

section Between

/-- A single payment moves both phases on by an item. -/
theorem paidSingly_between (clock : validating.timestamp = now) :
    (World.between validating storing global bank transfers nonces).paidSingly payer merchant
        signed =
      World.between (validating.rated signed.item.merchantAddress)
        (storing.settled merchant (signed.item.order payer now)) (global.counted signed.item.amount)
        (Debt.pay payer bank signed.item.debt)
        (⟨.payment signed.item.orderId, signed.item.tokenAddress, payer,
          signed.item.merchantAddress, signed.item.amount⟩ :: transfers)
        (Function.update nonces signed.item.merchantAddress
          (saturatingAddU64 (nonces signed.item.merchantAddress) 1)) := by
  subst clock
  rfl

/-- The single payments that are left, and the two phases of the batch at the first of them. -/
structure Underway (host : Host) (auth : List Address) (permits : TokenCall → Bool)
    (payer : Address) (now : Nat) (singles : List SignedPayment) (validating storing : World) :
    Prop where
  unpaused : validating.getPaused = false
  authorised : (host.env auth permits).Authorised payer
  feeless : validating.getPlatformFeeBps = 0
  clock : validating.timestamp = now
  fits : ∀ single ∈ singles, single.item.Fits
  short : ∀ single ∈ singles, single.item.memo.length ≤ host.maxMemoLength
  permitted : ∀ single ∈ singles, permits (.transfer single.item.tokenAddress payer
    single.item.merchantAddress single.item.amount) = true
  valid : ∀ single ∈ singles, single.Valid host now validating.getSignatureExpiryWindow
  free : ∀ single ∈ singles, storing.getPayment single.item.orderId = none
  distinct : (singles.map fun single => single.item.orderId).Nodup
  active : ∀ single ∈ singles,
    standing storing.merchants.records single.item.merchantAddress = some true

theorem Underway.tail
    (underway : Underway host auth permits payer now (signed :: rest) validating storing)
    (found : storing.getMerchant signed.item.merchantAddress = some merchant) :
    Underway host auth permits payer now rest (validating.rated signed.item.merchantAddress)
      (storing.settled merchant (signed.item.order payer now)) where
  unpaused := underway.unpaused
  authorised := underway.authorised
  feeless := underway.feeless
  clock := underway.clock
  fits := (List.forall_mem_cons.mp underway.fits).2
  short := (List.forall_mem_cons.mp underway.short).2
  permitted := (List.forall_mem_cons.mp underway.permitted).2
  valid := (List.forall_mem_cons.mp underway.valid).2
  free single member := by
    obtain ⟨fresh, _⟩ := List.nodup_cons.mp underway.distinct
    have other : single.item.orderId ≠ signed.item.orderId := fun same =>
      fresh (List.mem_map.mpr ⟨single, member, same⟩)
    have kept := (List.forall_mem_cons.mp underway.free).2 single member
    have unchanged : (storing.settled merchant (signed.item.order payer now)).getPayment
        single.item.orderId = storing.getPayment single.item.orderId := Table.get_put_of_ne other
    exact unchanged.trans kept
  distinct := (List.nodup_cons.mp underway.distinct).2
  active single member := by
    have kept := (List.forall_mem_cons.mp underway.active).2 single member
    have unchanged : standing (storing.settled merchant
        (signed.item.order payer now)).merchants.records single.item.merchantAddress =
          standing storing.merchants.records single.item.merchantAddress :=
      standing_rewrite { merchant with totalReceived := _ } found rfl rfl
    exact unchanged.trans kept

/-- What the batch has checked and stored about an item makes its single payment payable. -/
theorem Underway.payable {seenIds seen : List Text}
    (underway : Underway host auth permits payer now (signed :: rest) validating storing)
    (found : storing.getMerchant signed.item.merchantAddress = some merchant)
    (active : merchant.active = true)
    (checked : (validateBatchItem seenIds signed.item).Commits (host.env auth permits) validating
      seen validated)
    (settles : storing.Settles merchant (signed.item.order payer now))
    (counts : global.totalPayments + 1 ≤ u32Max)
    (nonce : signed.nonce = saturatingAddU64 (nonces signed.item.merchantAddress) 1)
    (held : signed.item.amount ≤ bank.balance signed.item.tokenAddress payer) :
    signed.Payable (host.env auth permits)
        (World.between validating storing global bank transfers nonces) payer merchant ∧
      validated = validating.rated signed.item.merchantAddress := by
  simp only [validateBatchItem, Tx.commits_bind, Tx.exists_unit, commits_requirePositive,
    commits_requireValidId, commits_validateTags, Tx.commits_failIf, commits_requireTokenAllowed,
    commits_openOrder, commits_consumeRateLimit, Tx.commits_ask, commits_verifySignature,
    Tx.commits_pure] at checked
  obtain ⟨_, ⟨positive, rfl⟩, _, ⟨validId, rfl⟩, _, ⟨tags, rfl⟩, _, ⟨_, rfl⟩, _, ⟨allowed, rfl⟩, _,
    _, ⟨_, rfl⟩, _, ⟨unlimited, rfl⟩, _, _, ⟨rfl, rfl⟩, _, ⟨_, rfl⟩, _, ⟨_, rfl⟩, _, rfl⟩ := checked
  refine ⟨?_, rfl⟩
  obtain ⟨fits, _⟩ := List.forall_mem_cons.mp underway.fits
  obtain ⟨memo, _⟩ := List.forall_mem_cons.mp underway.short
  obtain ⟨permitted, _⟩ := List.forall_mem_cons.mp underway.permitted
  obtain ⟨valid, _⟩ := List.forall_mem_cons.mp underway.valid
  obtain ⟨free, _⟩ := List.forall_mem_cons.mp underway.free
  obtain rfl := underway.clock
  exact ⟨fits, underway.unpaused, underway.authorised, positive, validId, tags, memo, allowed, free,
    found, active, nonce, valid, unlimited, underway.feeless, permitted, held,
    ⟨settles.room, settles.received, settles.counts⟩, counts⟩

/-- The single payments succeed, and take the world to the end of both phases. -/
theorem Underway.run {seenIds seen : List Text} {result : GlobalStats} (transfers : List Transfer)
    (underway : Underway host auth permits payer now singles validating storing)
    (checked : (Tx.fold validateBatchItem seenIds (singles.map SignedPayment.item)).Commits
      (host.env auth permits) validating seen validated)
    (written : (Tx.fold (storeBatchItem payer now) global
      (singles.map SignedPayment.item)).Commits (host.env auth permits) storing result stored)
    (right : RightNonces nonces singles)
    (covered : Debt.Covered payer bank (singles.map fun single => single.item.debt)) :
    Along (paySingly host auth permits payer) (AcceptedSingly host auth permits payer)
        (World.between validating storing global bank transfers nonces) singles ∧
      ∃ log final, Kit.run (paySingly host auth permits payer)
        (World.between validating storing global bank transfers nonces) singles =
          World.between validated stored result
            (Debt.payAll payer bank (singles.map fun single => single.item.debt)) log final := by
  induction singles generalizing validating storing global bank transfers nonces seenIds with
  | nil =>
      obtain ⟨_, rfl⟩ := Tx.commits_fold_nil.mp checked
      obtain ⟨rfl, rfl⟩ := Tx.commits_fold_nil.mp written
      exact ⟨trivial, transfers, nonces, rfl⟩
  | cons signed rest inductionHypothesis =>
      obtain ⟨seenHere, middle, checkedHere, checkedLater⟩ := Tx.commits_fold_cons.mp checked
      obtain ⟨counted, storing', writtenHere, writtenLater⟩ := Tx.commits_fold_cons.mp written
      obtain ⟨nonce, rightLater⟩ := right
      obtain ⟨held, coveredLater⟩ := covered
      obtain ⟨standing, _⟩ := List.forall_mem_cons.mp underway.active
      obtain ⟨merchant, found, active⟩ := Option.map_eq_some_iff.mp standing
      obtain ⟨⟨settles, counts⟩, rfl, rfl⟩ := (commits_storeBatchItem found).mp writtenHere
      obtain ⟨payable, rfl⟩ := underway.payable found active checkedHere settles counts nonce held
      have succeeded := payable.succeeds
      rw [paidSingly_between underway.clock, ← nonce] at succeeded
      obtain ⟨along, log, final, ended⟩ := inductionHypothesis _ (underway.tail found) checkedLater
        writtenLater rightLater coveredLater
      refine ⟨⟨succeeded.accepted, ?_⟩, log, final, ?_⟩
      · rw [paySingly, succeeded.step_eq]
        exact along
      · rw [Kit.run_cons, paySingly, succeeded.step_eq]
        exact ended

end Between

theorem covered_of_groups {groups : List PaymentGroup} {items : List BatchPaymentItem}
    (collected : groups.map PaymentGroup.debt =
      Debt.collectAll [] (items.map BatchPaymentItem.debt))
    (covered : Debt.Covered payer bank (groups.map PaymentGroup.debt))
    (apart : ∀ item ∈ items, item.merchantAddress ≠ payer)
    (positive : ∀ item ∈ items, 0 < item.amount) :
    Debt.Covered payer bank (items.map BatchPaymentItem.debt) := by
  have others : ∀ debt ∈ items.map BatchPaymentItem.debt, debt.creditor ≠ payer :=
    List.forall_mem_map.mpr apart
  have nonneg : ∀ debt ∈ items.map BatchPaymentItem.debt, 0 ≤ debt.amount :=
    List.forall_mem_map.mpr fun item member => (positive item member).le
  rw [collected] at covered
  refine (Debt.equivalent_collectAll _).covered covered (fun group member => ?_) others nonneg
  obtain ⟨debt, inside, same⟩ := Debt.creditor_of_mem_collectAll member
  exact same ▸ others debt inside

theorem permitted_of_groups {groups : List PaymentGroup} {items : List BatchPaymentItem}
    (collected : groups.map PaymentGroup.debt =
      Debt.collectAll [] (items.map BatchPaymentItem.debt))
    (permitted : ∀ group ∈ groups,
      permits (.transfer group.token payer group.merchant group.total) = true)
    (parts : PermitsParts permits) (positive : ∀ item ∈ items, 0 < item.amount) :
    ∀ item ∈ items,
      permits (.transfer item.tokenAddress payer item.merchantAddress item.amount) = true := by
  intro item member
  have nonneg : ∀ debt ∈ items.map BatchPaymentItem.debt, 0 ≤ debt.amount :=
    List.forall_mem_map.mpr fun item member => (positive item member).le
  obtain ⟨_, inside, same, within⟩ := Debt.within_collectAll (List.forall_mem_nil _) nonneg
    (.inl (List.mem_map_of_mem member))
  rw [← collected] at inside
  obtain ⟨group, listed, rfl⟩ := List.mem_map.mp inside
  obtain ⟨token, creditor⟩ := Prod.mk.inj same
  change item.tokenAddress = group.token at token
  change item.merchantAddress = group.merchant at creditor
  rw [token, creditor]
  exact parts _ _ _ _ _ (positive item member) within (permitted group listed)

/-- Without a platform fee the payments of an accepted batch can be made one by one, in the
same ledger and with the right nonces, and the world is then the same but for the nonces of
the merchants. -/
theorem batch_equals_singles
    (accepted : Succeeds host world auth permits
      (.payment (.batchPayment payer (singles.map SignedPayment.item))) next)
    (feeless : world.getPlatformFeeBps = 0)
    (apart : ∀ single ∈ singles, single.item.merchantAddress ≠ payer)
    (short : ∀ single ∈ singles, single.item.memo.length ≤ host.maxMemoLength)
    (right : RightNonces world.payments.merchantNonces singles)
    (valid : ∀ single ∈ singles,
      single.Valid host world.timestamp world.getSignatureExpiryWindow)
    (parts : PermitsParts permits) :
    Along (paySingly host auth permits payer) (AcceptedSingly host auth permits payer) world
        singles ∧
      next.SameButNonces (Kit.run (paySingly host auth permits payer) world singles) := by
  obtain ⟨⟨_, fits⟩, executed⟩ := succeeds_iff.mp accepted
  obtain ⟨seenIds, groups, validated, paying, stored, stats, unpaused, authorised, checked,
    collected, transferred, written, rfl⟩ := batchPayment_phases executed
  obtain ⟨items, distinct, _, welcome⟩ := validateBatch_spec checked
  obtain ⟨covered, permitted, paid⟩ := payGroups_pays transferred
  have rates := validateBatch_rates checked
  have kept := storeBatch_keeps written
  have positive := fun item member => (items item member).1.positive
  have clock : paying.timestamp = world.timestamp := by rw [paid, rates]
  have sameBank : validated.bank = world.bank := by rw [rates]
  rw [clock] at written
  rw [sameBank] at covered
  have free : ∀ single ∈ singles,
      paying.payments.orders.get single.item.orderId = none := by
    have orders : paying.payments.orders = world.payments.orders := by rw [paid, rates]
    rw [orders]
    exact List.forall_mem_map.mp fun item member => (items item member).1.free
  have active : ∀ single ∈ singles,
      standing paying.merchants.records single.item.merchantAddress = some true := by
    have merchants : paying.merchants = world.merchants := by rw [paid, rates]
    rw [merchants]
    exact List.forall_mem_map.mp fun item member => (welcome item member).active
  have permittedSingly :=
    List.forall_mem_map.mp (permitted_of_groups collected permitted parts positive)
  have ids : (singles.map fun single => single.item.orderId).Nodup := by
    rwa [List.map_map] at distinct
  have underway : Underway host auth permits payer world.timestamp singles world paying :=
    ⟨unpaused, authorised, feeless, rfl, List.forall_mem_map.mp fits, short, permittedSingly, valid,
      free, ids, active⟩
  have debts : Debt.Covered payer world.bank (singles.map fun single => single.item.debt) := by
    have each := covered_of_groups collected covered (List.forall_mem_map.mpr apart) positive
    rwa [List.map_map] at each
  have opened : World.between world paying paying.getGlobalStats world.bank world.transfers
      world.payments.merchantNonces = world := by
    rw [paid, rates]
    rfl
  have result := underway.run world.transfers checked written right debts
  rw [opened] at result
  obtain ⟨along, log, final, ended⟩ := result
  refine ⟨along, ?_⟩
  have sameDebts : Debt.payAll payer world.bank (groups.map PaymentGroup.debt) =
      Debt.payAll payer world.bank (singles.map fun single => single.item.debt) := by
    rw [collected, (Debt.equivalent_collectAll _).payAll_eq, List.map_map]
    rfl
  rw [ended, ← sameDebts, World.SameButNonces, kept, paid, sameBank]
  rfl

namespace Sample

/-- The Ed25519 public key of the seed of 32 bytes 9. -/
def notaryKey : Bytes :=
  Wire.bigEndian 32 0xfd1724385aa0c75b64fb78cd602fa1d991fdebf76b13c58ed702eac835e9f618

/-- The signatures of that key on the items of a batch with these orders. -/
def itemSigned : Text → Bytes
  | [1] =>
      Wire.bigEndian 32 0x803b9183cf0ab1059c8cf7a8905775c99664e16568850b822f25c6dc18d0f2b9 ++
        Wire.bigEndian 32 0x6270a3fa2c2ad562bcb9af1f5227310bfc1965257587016d5cfaf2cf282ecd07
  | [2] =>
      Wire.bigEndian 32 0x1a538a5b6337de9794aee6183907eb18a9c9705d75f698a147e9845c4ea08699 ++
        Wire.bigEndian 32 0x5ba7b1ded5cbc19d43623055d13d8f688c9d4c61dc73afc4d1d18f4204668406
  | [3] =>
      Wire.bigEndian 32 0xe3b2561f2cec8c9d21e90a9769e19870386fbf0c24783ceaaf755f1d9886f767 ++
        Wire.bigEndian 32 0x5062b793a22d10e2ccb428db420ce2e738cc15929ad57771a4a421d9aded6d0d
  | [4] =>
      Wire.bigEndian 32 0xfa03e898912e023338339b8947be3e26f93b272b68633942e2ecff9cef9bfc9d ++
        Wire.bigEndian 32 0x5520e15b9395062b7bc0b5fe5ca767e05a20dae5630f86272d964f31d1096c06
  | _ => []

/-- Its signatures on the single payments of these orders. -/
def singlySigned : Text → Bytes
  | [1] =>
      Wire.bigEndian 32 0x8310c7d4664db4139c90cc7fdd176ba7a3b11daab874cbad0f7dcdea75899cbb ++
        Wire.bigEndian 32 0x21032c5f32609fa72e1033547fe9d20bb5a17c5a7d0433e49254c09d1c543a00
  | [2] =>
      Wire.bigEndian 32 0x97a9ee6bd8b2ecab9f900f2c20f6a36c094aff3dab7dcaca26030121f254eda6 ++
        Wire.bigEndian 32 0xd282800c54a35d5e745ddaf1c35cdda60f1ec059b62cb98f57d8b4b0b233b10b
  | [3] =>
      Wire.bigEndian 32 0x88cb5b876157cefef84601ac7a8982c8e6dca08c3bcd32d4182204e20c75f4bb ++
        Wire.bigEndian 32 0xea17d871ede1d3b320e46173d630e99a07bb1128becd186cc2ed81f4fc27810e
  | [4] =>
      Wire.bigEndian 32 0xaf6798fb0431bf4b1fdcd737dfa76793d2fca82a20929d573fe238846eec0550 ++
        Wire.bigEndian 32 0x4a3b02bdf18fa3e1ee9c6c7af52dfc3414d77173ebbcaf9562df4eb8e10cfe0a
  | _ => []

/-- The orders with the nonces that they have when they are paid one by one. -/
def notarised : List (Text × Nat) := [([1], 1), ([2], 1), ([3], 2), ([4], 1)]

/-- A host on which the key has signed these orders. -/
def notary : Host :=
  { Sample.host with
    ed25519Verify := fun publicKey payload signature => decide (publicKey = notaryKey ∧
      ∃ order ∈ notarised,
        payload = batchPayload Sample.host order.1 100 ∧ signature = itemSigned order.1 ∨
          payload = signaturePayload Sample.host order.2 order.1 100 0 ∧
            signature = singlySigned order.1) }

/-- A payment that is signed for a batch and by itself. -/
def order (orderId : Text) (merchant : Address) (nonce : Nat) : SignedPayment where
  item := ⟨orderId, merchant, coin, 100, [], none, itemSigned orderId, notaryKey⟩
  nonce := nonce
  timestamp := 0
  signature := singlySigned orderId
  merchantPublicKey := notaryKey

/-- Two payments to one merchant, and one to another between them. -/
def cart : List SignedPayment := [order [1] shop 1, order [2] rival 1, order [3] shop 2]

def market : World := run (step notary) start opening

end Sample

theorem batch_equals_singles_sample :
    ∃ next, Succeeds Sample.notary Sample.market [Sample.payer] (fun _ => true)
        (.payment (.batchPayment Sample.payer (Sample.cart.map SignedPayment.item))) next ∧
      Along (paySingly Sample.notary [Sample.payer] (fun _ => true) Sample.payer)
        (AcceptedSingly Sample.notary [Sample.payer] (fun _ => true) Sample.payer) Sample.market
        Sample.cart ∧
      next.SameButNonces (Kit.run
        (paySingly Sample.notary [Sample.payer] (fun _ => true) Sample.payer) Sample.market
        Sample.cart) := by
  have batch : Accepted Sample.notary Sample.market [Sample.payer] (fun _ => true)
      (.payment (.batchPayment Sample.payer (Sample.cart.map SignedPayment.item))) := by
    decide +kernel
  have signed : ∀ single ∈ Sample.cart, U64 single.timestamp ∧
      Sample.market.timestamp - Sample.market.getSignatureExpiryWindow ≤ single.timestamp ∧
      single.merchantPublicKey.length = 32 ∧ single.signature.length = 64 ∧
      Sample.notary.ed25519Verify single.merchantPublicKey (signaturePayload Sample.notary
        single.nonce single.item.orderId single.item.amount single.timestamp)
        single.signature = true := by
    decide +kernel
  obtain ⟨next, accepted⟩ := batch
  refine ⟨next, accepted, batch_equals_singles accepted (by decide +kernel) (by decide +kernel)
    (by decide +kernel) ⟨by decide +kernel, by decide +kernel, by decide +kernel, trivial⟩ ?_ ?_⟩
  · intro single member
    obtain ⟨stamped, current, keyLength, signatureLength, verified⟩ := signed single member
    exact ⟨stamped, current, keyLength, signatureLength, verified⟩
  · intro _ _ _ _ _ _ _ _
    rfl

end LumenFlow

import LumenFlow.Effect.Batches
import LumenFlow.Effect.Frame
import LumenFlow.Signing.Messages

/-!
# When a signature expires

The contract refuses a timestamp that lies more than the window in the past.
It has no check for one that lies in the future, so a signature with such a
timestamp lives until the window after it has passed, however far off that is.
-/

namespace LumenFlow

open Kit Contract

/-- The call submits the message, in whosever name and under whichever key. -/
def SingleMessage.SubmittedBy (message : SingleMessage) : Call → Prop
  | .payment (.processPaymentWithSignature _ orderId _ _ amount _ _ nonce timestamp _ _) =>
      nonce = message.nonce ∧ orderId = message.orderId ∧ amount = message.amount ∧
        timestamp = message.timestamp
  | _ => False

/-- The contract accepts some call that submits the message. -/
def Acceptable (host : Host) (message : SingleMessage) (world : World) : Prop :=
  ∃ auth permits call next, message.SubmittedBy call ∧ Succeeds host world auth permits call next

/-- The fee on an amount. -/
def World.feeFor (world : World) (amount : Int) : Int :=
  (amount * world.getPlatformFeeBps).tdiv 10000

/-- The payer holds the merchant's part and then the fee, and they fit their type. -/
structure World.CanCharge (world : World) (payer merchantAddress token : Address)
    (amount : Int) : Prop where
  product : InI128 (amount * world.getPlatformFeeBps)
  part : InI128 (amount - world.feeFor amount)
  within : world.feeFor amount ≤ amount
  funded : amount ≤ world.bank.balance token payer + world.feeFor amount
  feeFunded : 0 < world.feeFor amount → world.getFeeRecipient ≠ none →
    world.feeFor amount ≤ (world.bank.move token payer merchantAddress
      (amount - world.feeFor amount)).balance token payer

/-- The checks of `process_payment_with_signature` for a message and a merchant, a payer and a
token that go with it, the one of its age apart. -/
structure SingleMessage.Payable (host : Host) (message : SingleMessage) (world : World)
    (merchant : Merchant) (payer token : Address) : Prop where
  unpaused : world.getPaused = false
  foreign : payer ≠ host.self
  positive : 0 < message.amount
  named : ValidId message.orderId
  allowed : world.isTokenAllowed token = true
  free : world.getPayment message.orderId = none
  found : world.getMerchant merchant.address = some merchant
  active : merchant.active = true
  nonce : message.nonce = saturatingAddU64 (world.getMerchantNonce merchant.address) 1
  signed : ∃ publicKey signature, publicKey.length = 32 ∧ signature.length = 64 ∧
    host.ed25519Verify publicKey (message.payload host) signature = true
  unlimited : world.getRateLimitCounter merchant.address world.currentWindowStart <
      world.getRateLimitPerWindow ∧
    world.getRateLimitCounter merchant.address world.currentWindowStart + 1 ≤ u32Max
  charge : world.CanCharge payer merchant.address token message.amount
  merchantRoom : (world.payments.merchantIds merchant.address).length < maxPaymentIdsPerAccount
  payerRoom : (world.payments.payerIds payer).length < maxPaymentIdsPerAccount
  received : InI128 (merchant.totalReceived + (message.amount - world.feeFor message.amount))
  merchantCounted : (world.getMerchantStats merchant.address).totalPayments + 1 ≤ u32Max
  counted : world.stats.global.totalPayments + 1 ≤ u32Max

/-- Some merchant, payer and token take the message past the other checks. -/
def Passable (host : Host) (message : SingleMessage) (world : World) : Prop :=
  ∃ merchant payer token, message.Payable host world merchant payer token

/-- The timestamp is not more than the window ahead of the ledger. -/
def NotAhead (window timestamp : Nat) (world : World) : Prop :=
  timestamp ≤ world.timestamp + window

/-- The ledger time is within the window of the timestamp, on either side. -/
def Near (window timestamp : Nat) (world : World) : Prop :=
  NotAhead window timestamp world ∧ world.timestamp ≤ timestamp + window

/-- The message is accepted within the window of its timestamp only, and so never at
two times that are more than two windows apart. -/
structure Expires (host : Host) (window : Nat) (message : SingleMessage) (start : World)
    (actions : List Action) : Prop where
  near : Throughout (step host)
    (fun world => Acceptable host message world → Near window message.timestamp world) start
    actions
  apart : ∀ first second firstRest secondRest, actions = first ++ firstRest →
    actions = second ++ secondRest → Acceptable host message (run (step host) start first) →
    Acceptable host message (run (step host) start second) →
    (run (step host) start second).timestamp ≤ (run (step host) start first).timestamp + 2 * window

section Expiry

variable {host : Host} {message : SingleMessage} {world start : World} {actions : List Action}
  {window : Nat}

theorem canCharge_of_commits {env : Env} {next : World} {payer merchantAddress token : Address}
    {amount fee : Int} {orderId : Text}
    (committed : (transferWithFee payer orderId merchantAddress token amount).Commits env world
      fee next) :
    fee = world.feeFor amount ∧ world.CanCharge payer merchantAddress token amount := by
  simp [transferWithFee] at committed
  rcases committed with ⟨_, fits, part, ⟨_, _, within, funded⟩, outcome, rfl⟩ |
    ⟨free, inRange, ⟨_, _, nonneg, funded⟩, _, rfl⟩
  · refine ⟨rfl, fits, part, within, funded, fun some recipient => ?_⟩
    rcases outcome with ⟨_, ⟨_, _, _, _, _, enough, _⟩ | ⟨none, _⟩⟩ | ⟨least, _⟩
    · exact enough
    · exact absurd none recipient
    · exact absurd some (not_lt.mpr least)
  · have zero : world.feeFor amount = 0 := by
      simp [World.feeFor, free]
    refine ⟨zero.symm, ⟨?_, ?_, ?_, ?_, ?_⟩⟩
    · simp [World.getPlatformFeeBps, free, InI128, i128Min, i128Max]
    · rwa [zero, sub_zero]
    · rwa [zero]
    · rwa [zero, add_zero]
    · exact fun some => absurd zero some.ne'

theorem World.CanCharge.commits {env : Env} {payer merchantAddress token : Address} {amount : Int}
    (charge : world.CanCharge payer merchantAddress token amount)
    (authorised : env.Authorised payer) (permitted : ∀ call, env.permits call = true)
    (orderId : Text) :
    ∃ next, (transferWithFee payer orderId merchantAddress token amount).Commits env world
      (world.feeFor amount) next := by
  obtain ⟨product, part, within, funded, feeFunded⟩ := charge
  simp [transferWithFee, authorised, permitted]
  rcases Nat.eq_zero_or_pos world.getPlatformFeeBps with free | charged
  · have zero : world.feeFor amount = 0 := by
      rw [World.feeFor, free]
      simp
    rw [zero] at part within funded
    exact ⟨_, .inr ⟨free, by simpa using part, ⟨within, by simpa using funded⟩, rfl, zero⟩⟩
  · rcases lt_or_ge 0 (world.feeFor amount) with some | least
    · cases recipient : world.config.feeRecipient with
      | none =>
          exact ⟨_, .inl ⟨charged, product, part, ⟨within, funded⟩,
            .inl ⟨some, .inr ⟨rfl, rfl⟩⟩, rfl⟩⟩
      | some account =>
          have enough := feeFunded some (by simp [recipient])
          exact ⟨_, .inl ⟨charged, product, part, ⟨within, funded⟩,
            .inl ⟨some, .inl ⟨account, rfl, some.le, enough, rfl⟩⟩, rfl⟩⟩
    · exact ⟨_, .inl ⟨charged, product, part, ⟨within, funded⟩, .inr ⟨least, rfl⟩, rfl⟩⟩

theorem commits_countGlobalPayment {env : Env} {next : World} {amount : Int} :
    (countGlobalPayment amount).Commits env world () next ↔
      world.stats.global.totalPayments + 1 ≤ u32Max ∧
        next = world.setGlobalStats (world.stats.global.counted amount) := by
  simp [countGlobalPayment, commits_countedPayment]

/-- What the later checks read stays as it is while the payment is charged. -/
structure World.Alike (world paid : World) : Prop where
  merchantIds : paid.payments.merchantIds = world.payments.merchantIds
  payerIds : paid.payments.payerIds = world.payments.payerIds
  merchantStats : paid.stats.merchant = world.stats.merchant
  counted : paid.stats.global.totalPayments = world.stats.global.totalPayments

theorem alike_of_commits {env : Env} {paid : World} {payer merchantAddress token : Address}
    {amount fee : Int} {orderId : Text}
    (transferred : (transferWithFee payer orderId merchantAddress token amount).Commits env world
      fee paid) : world.Alike paid := by
  have totals : paid.stats.global.totals = world.stats.global.totals :=
    same_part [.tokens] transferred .totals (by simp)
  exact ⟨same_part [.tokens] transferred .merchantIds (by simp),
    same_part [.tokens] transferred .payerIds (by simp),
    same_part [.tokens] transferred .merchantStats (by simp), congrArg Totals.payments totals⟩

theorem payable_of_acceptable (acceptable : Acceptable host message world) :
    Passable host message world ∧
      world.timestamp ≤ message.timestamp + world.getSignatureExpiryWindow := by
  obtain ⟨auth, permits, call, next, submitted, succeeds⟩ := acceptable
  unfold SingleMessage.SubmittedBy at submitted
  split at submitted
  · next payer orderId merchantAddress token amount memo tags nonce timestamp signature key =>
      obtain ⟨rfl, rfl, rfl, rfl⟩ := submitted
      have executed := succeeds.executes
      simp [Call.exec, PaymentCall.exec, processPaymentWithSignature, requireTokenAllowed,
        commits_openOrder, commits_consumeRateLimit, commits_recordPayment,
        commits_countMerchantPayment, commits_countGlobalPayment] at executed
      obtain ⟨unpaused, authorised, positive, named, _, _, allowed, merchant,
        ⟨free, found, active⟩, nonce, recent, _, signed, unlimited, fee, paid, transferred,
        part, ⟨merchantRoom, payerRoom⟩, received, merchantCounted, counted, _⟩ := executed
      obtain rfl := Table.key_of_get found
      obtain ⟨rfl, charge⟩ := canCharge_of_commits transferred
      have alike := alike_of_commits transferred
      rw [alike.merchantIds] at merchantRoom
      rw [alike.payerIds] at payerRoom
      change (paid.stats.merchant merchant.address).totalPayments + 1 ≤ u32Max at merchantCounted
      rw [alike.merchantStats] at merchantCounted
      change paid.stats.global.totalPayments + 1 ≤ u32Max at counted
      rw [alike.counted] at counted
      refine ⟨⟨merchant, payer, token, ?_⟩, recent⟩
      exact ⟨unpaused, authorised.1, positive, named, allowed, free, found, active, nonce,
        ⟨_, _, signed⟩, unlimited, ⟨charge.product, charge.part, charge.within, charge.funded,
          charge.feeFunded⟩, merchantRoom, payerRoom, received, merchantCounted, counted⟩
  · exact submitted.elim

theorem SingleMessage.Payable.acceptable {merchant : Merchant} {payer token : Address}
    (payable : message.Payable host world merchant payer token)
    (recent : world.timestamp ≤ message.timestamp + world.getSignatureExpiryWindow) :
    Acceptable host message world := by
  obtain ⟨key, signature, keyLength, signatureLength, verified⟩ := payable.signed
  let env := host.env [payer] fun _ => true
  have authorised : env.Authorised payer := ⟨payable.foreign, List.mem_singleton_self payer⟩
  -- the nonce and the window's counter are written before the payer is charged
  let rated := (world.incrementMerchantNonce merchant.address).rated merchant.address
  have charge : rated.CanCharge payer merchant.address token message.amount :=
    ⟨payable.charge.product, payable.charge.part, payable.charge.within, payable.charge.funded,
      payable.charge.feeFunded⟩
  obtain ⟨paid, transferred⟩ := charge.commits authorised (fun _ => rfl) message.orderId
  have alike := alike_of_commits transferred
  let call := PaymentCall.processPaymentWithSignature payer message.orderId merchant.address token
    message.amount [] none message.nonce message.timestamp signature key
  have merchantRoom : (paid.payments.merchantIds merchant.address).length <
      maxPaymentIdsPerAccount := by
    rw [alike.merchantIds]
    exact payable.merchantRoom
  have payerRoom : (paid.payments.payerIds payer).length < maxPaymentIdsPerAccount := by
    rw [alike.payerIds]
    exact payable.payerRoom
  have merchantCounted : (paid.stats.merchant merchant.address).totalPayments + 1 ≤ u32Max := by
    rw [alike.merchantStats]
    exact payable.merchantCounted
  have counted : paid.stats.global.totalPayments + 1 ≤ u32Max := by
    rw [alike.counted]
    exact payable.counted
  have committed : ∃ next, call.exec.Commits env world () next := by
    simp [call, PaymentCall.exec, processPaymentWithSignature, requireTokenAllowed,
      commits_openOrder, commits_consumeRateLimit, commits_recordPayment,
      commits_countMerchantPayment, commits_countGlobalPayment]
    exact ⟨payable.unpaused, authorised, payable.positive, payable.named, by simp [ValidTags],
      payable.allowed, merchant, ⟨payable.free, payable.found, payable.active⟩, payable.nonce,
      recent, payable.allowed, ⟨keyLength, signatureLength, verified⟩, payable.unlimited, _, paid,
      transferred, charge.part, ⟨merchantRoom, payerRoom⟩, payable.received, merchantCounted,
      counted⟩
  obtain ⟨next, committed⟩ := committed
  have fits : call.Fits := by
    simp [call, PaymentCall.Fits, Sized, TagsFit, keyLength, signatureLength, u32Max]
    exact ⟨message.orderFits, message.amountFits, message.nonceFits, message.timeFits⟩
  exact ⟨[payer], fun _ => true, .payment call, next, ⟨rfl, rfl, rfl, rfl⟩,
    succeeds_iff.mpr ⟨fits, committed⟩⟩

/-- A message is accepted exactly if it is not older than the window and passes the other
checks. -/
theorem acceptable_iff : Acceptable host message world ↔
    Passable host message world ∧
      world.timestamp ≤ message.timestamp + world.getSignatureExpiryWindow := by
  constructor
  · exact payable_of_acceptable
  · rintro ⟨⟨merchant, payer, token, payable⟩, recent⟩
    exact payable.acceptable recent

theorem run_timestamp (clock : start.timestamp ≤ u64Max) (actions : List Action) :
    start.timestamp ≤ (run (step host) start actions).timestamp := by
  have kept : ∀ world action,
      start.timestamp ≤ World.timestamp world ∧ world.timestamp ≤ u64Max →
        start.timestamp ≤ (step host world action).timestamp ∧
          (step host world action).timestamp ≤ u64Max := by
    rintro world action ⟨later, bound⟩
    obtain ⟨further, kept⟩ := step_timestamp host action bound
    exact ⟨later.trans further, kept⟩
  exact (run_invariant kept ⟨le_refl _, clock⟩ actions).1

theorem Near.apart {first second : World} {timestamp : Nat}
    (firstNear : Near window timestamp first)
    (secondNear : Near window timestamp second) :
    second.timestamp ≤ first.timestamp + 2 * window := by
  have early := firstNear.1
  have late := secondNear.2
  simp only [NotAhead] at early
  omega

theorem expires_of_notAhead
    (stays : Throughout (step host) (fun world => world.getSignatureExpiryWindow = window) start
      actions)
    (bounded : Throughout (step host)
      (fun world => Acceptable host message world → NotAhead window message.timestamp world) start
      actions) : Expires host window message start actions := by
  have near : Throughout (step host)
      (fun world => Acceptable host message world → Near window message.timestamp world) start
      actions := by
    intro before after split acceptable
    have recent := (acceptable_iff.mp acceptable).2
    rw [stays before after split] at recent
    exact ⟨bounded before after split acceptable, recent⟩
  apply Expires.mk near
  intro first second firstRest secondRest firstSplit secondSplit firstTakes secondTakes
  exact (near first firstRest firstSplit firstTakes).apart
    (near second secondRest secondSplit secondTakes)

/-- While the window stays, a message expires exactly if another check refuses it as long as
its timestamp is more than the window ahead of the ledger.  It does in particular when it is
not that far ahead at the start. -/
theorem expires_iff (host : Host) (message : SingleMessage) (start : World)
    (actions : List Action) (window : Nat)
    (stays : Throughout (step host) (fun world => world.getSignatureExpiryWindow = window) start
      actions) :
    (Expires host window message start actions ↔
        Throughout (step host) (fun world => Passable host message world →
          NotAhead window message.timestamp world) start actions) ∧
      (start.timestamp ≤ u64Max → NotAhead window message.timestamp start →
        Expires host window message start actions) := by
  refine ⟨⟨?_, ?_⟩, ?_⟩
  · intro expires before after split passable
    by_contra ahead
    -- a timestamp that far ahead is not old, so the message is accepted
    have recent : (run (step host) start before).timestamp ≤ message.timestamp +
        (run (step host) start before).getSignatureExpiryWindow := by
      simp only [NotAhead, not_le] at ahead
      omega
    exact ahead (expires.near before after split (acceptable_iff.mpr ⟨passable, recent⟩)).1
  · intro refused
    apply expires_of_notAhead stays
    intro before after split acceptable
    exact refused before after split (acceptable_iff.mp acceptable).1
  · intro clock notAhead
    apply expires_of_notAhead stays
    intro before after split acceptable
    exact notAhead.trans (Nat.add_le_add_right (run_timestamp clock before) window)

end Expiry

namespace Sample

theorem futureMessage_nonce : U64 1 := by decide

theorem futureMessage_order : Sized [1] := by decide

theorem futureMessage_amount : InI128 100 := by decide

theorem futureMessage_time : U64 1000000 := by decide

/-- A message whose timestamp is far in the future. -/
def futureMessage : SingleMessage :=
  ⟨1, [1], 100, 1000000, futureMessage_nonce, futureMessage_order, futureMessage_amount,
    futureMessage_time⟩

/-- The signature of the key on its payload. -/
def futureSignature : Bytes :=
  Wire.bigEndian 32 0x634c3b54a554b9b5826241f983a29c6187c6cade1033787782f4ce5fd512bd30 ++
    Wire.bigEndian 32 0x81abb94b82ebc488f1caf211a0d92ad9b9376cba80ee3d2b0b9d718d84be7209

/-- A host on which the key has signed the message. -/
def messageHost (message : SingleMessage) (signed : Bytes) : Host :=
  { host with
    ed25519Verify := fun publicKey payload signature => decide (publicKey = key ∧
      signature = signed ∧ payload = message.payload host) }

def futureHost : Host := messageHost futureMessage futureSignature

/-- Time passes until shortly after the timestamp, and the message is never used. -/
def waiting : List Action := opening ++ [.advance 1000 1000200]

def submission (message : SingleMessage) (signature : Bytes) : Call :=
  .payment (.processPaymentWithSignature payer message.orderId shop coin message.amount [] none
    message.nonce message.timestamp signature key)

theorem futureMessage_acceptable_early :
    Acceptable futureHost futureMessage (run (step futureHost) start opening) :=
  ⟨[payer], fun _ => true, submission futureMessage futureSignature, _, ⟨rfl, rfl, rfl, rfl⟩,
    succeeds_of_changed World.transfers (by decide +kernel)⟩

theorem futureMessage_acceptable_late :
    Acceptable futureHost futureMessage (run (step futureHost) start waiting) :=
  ⟨[payer], fun _ => true, submission futureMessage futureSignature, _, ⟨rfl, rfl, rfl, rfl⟩,
    succeeds_of_changed World.transfers (by decide +kernel)⟩

theorem window_stays_waiting :
    Throughout (step futureHost) (fun world => world.getSignatureExpiryWindow = 300) start
      waiting := by
  decide +kernel

theorem presentMessage_time : U64 300 := by decide

/-- A message whose timestamp is as far ahead as the window. -/
def presentMessage : SingleMessage :=
  ⟨1, [1], 100, 300, futureMessage_nonce, futureMessage_order, futureMessage_amount,
    presentMessage_time⟩

def presentSignature : Bytes :=
  Wire.bigEndian 32 0xd228b6fad59d895abed20f5a754e3d194f9be3711a803e5e8deae42209ce401f ++
    Wire.bigEndian 32 0xc68576eb6ff2dd27528c69450624bb714e08348f4f09567ce36cd29477340f08

def presentHost : Host := messageHost presentMessage presentSignature

theorem presentMessage_acceptable :
    Acceptable presentHost presentMessage (run (step presentHost) start opening) :=
  ⟨[payer], fun _ => true, submission presentMessage presentSignature, _, ⟨rfl, rfl, rfl, rfl⟩,
    succeeds_of_changed World.transfers (by decide +kernel)⟩

theorem window_stays_present :
    Throughout (step presentHost) (fun world => world.getSignatureExpiryWindow = 300) start
      waiting := by
  decide +kernel

end Sample

/-- A message that is accepted expires when its timestamp is not ahead. -/
theorem expires_iff_sample :
    Acceptable Sample.presentHost Sample.presentMessage
        (run (step Sample.presentHost) Sample.start Sample.opening) ∧
      Expires Sample.presentHost 300 Sample.presentMessage Sample.start Sample.waiting :=
  ⟨Sample.presentMessage_acceptable,
    (expires_iff Sample.presentHost Sample.presentMessage Sample.start Sample.waiting 300
      Sample.window_stays_present).2 (by decide) (by unfold NotAhead; decide)⟩

/-- The message is accepted eleven days before its timestamp and also after it. -/
theorem future_signature_lives :
    Deployed Sample.futureHost Sample.start ∧
      Throughout (step Sample.futureHost) (fun world => world.getSignatureExpiryWindow = 300)
        Sample.start Sample.waiting ∧
      (Acceptable Sample.futureHost Sample.futureMessage
          (run (step Sample.futureHost) Sample.start Sample.opening) ∧
        Acceptable Sample.futureHost Sample.futureMessage
          (run (step Sample.futureHost) Sample.start Sample.waiting)) ∧
      ¬ Expires Sample.futureHost 300 Sample.futureMessage Sample.start Sample.waiting := by
  refine ⟨Sample.deployed_start, Sample.window_stays_waiting,
    ⟨Sample.futureMessage_acceptable_early, Sample.futureMessage_acceptable_late⟩, ?_⟩
  intro expires
  have near := expires.near Sample.opening _ rfl Sample.futureMessage_acceptable_early
  have ahead : ¬ NotAhead 300 1000000
      (run (step Sample.futureHost) Sample.start Sample.opening) := by
    unfold NotAhead
    decide +kernel
  exact ahead near.1

end LumenFlow

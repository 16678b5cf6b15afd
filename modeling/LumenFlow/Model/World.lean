import Mathlib.Logic.Function.Basic
import Mathlib.Tactic.Simps.Basic
import LumenFlow.Kit.Transaction
import LumenFlow.Kit.Table
import LumenFlow.Kit.TokenLedger
import LumenFlow.Model.Types

/-!
# The world a contract call runs in

The ledger entries of the contract, grouped by what they are about, the token
ledgers it calls into, and the ledger clock.  A call reads an environment: the
host, the addresses that authorised the call, and which token calls the token
contracts accept.
-/

namespace LumenFlow

open Kit

/-- A call into a token contract. -/
inductive TokenCall where
  | transfer (token sender recipient : Address) (amount : Int)
  | transferFrom (token spender owner recipient : Address) (amount : Int)
  | approve (token owner spender : Address) (amount : Int)
  deriving DecidableEq

/-- On whose account the contract moves tokens. -/
inductive Cause where
  | payment (orderId : Text)
  | platformFee (orderId : Text)
  | batchGroup
  | multisig (paymentId : Text)
  | request (requestId : Text)
  | refund (refundId orderId : Text)
  | subscription (subscriptionId : Text)
  | escrowDeposit (orderId : Text)
  | escrowSettlement (orderId : Text)
  | holdDeposit (escrowId : Text)
  | holdSettlement (escrowId : Text)
  deriving DecidableEq

/-- The record of one movement of tokens made by the contract. -/
structure Transfer where
  cause : Cause
  token : Address
  sender : Address
  recipient : Address
  amount : Int
  deriving DecidableEq

/-- Administration, pause and authentication entries. -/
structure Governance where
  admin : Option Address
  paused : Bool
  pauseReason : Option Text
  unpauseLockUntil : Option Nat
  pauseGuardians : List Address
  earlyUnpauseApprovals : List Address
  /-- Failure count and window start of an address. -/
  authFailCount : Address → Nat × Nat
  authLockoutUntil : Address → Nat
  auditEntries : Nat → Option AdminAuditEntry
  auditCount : Nat
  auditMaxEntries : Option Nat
  storedVersion : Option Text
  storageVersion : Nat

/-- Instance entries under the bare symbols that `migrate_storage_keys` reads. -/
structure LegacySymbols where
  cleanupPeriod : Option Nat
  platformFeeBps : Option Nat
  refundWindow : Option Nat
  largePaymentThreshold : Option Int
  minRefundAmount : Option Int
  multisigExpiryDuration : Option Nat
  storedVersion : Option Text
  merchantList : Option (List Address)
  feeRecipient : Option Address

/-- Settings and allow lists. -/
structure Config where
  cleanupPeriod : Option Nat
  platformFeeBps : Option Nat
  feeRecipient : Option Address
  refundWindow : Option Nat
  refundRetentionPeriod : Option Nat
  largePaymentThreshold : Option Int
  minRefundAmount : Option Int
  multisigExpiryDuration : Option Nat
  maxMultisigSigners : Option Nat
  rateLimitPerWindow : Option Nat
  signatureExpiryWindow : Option Nat
  allowedTokens : Address → Bool
  allowedIssuers : Address → Bool
  legacy : LegacySymbols

structure MerchantBook where
  records : Table Merchant.address
  list : List Address
  commitments : Table MerchantCommitment.merchantAddress

structure StatsBook where
  merchant : Address → MerchantStats
  global : GlobalStats

structure PaymentBook where
  orders : Table PaymentOrder.orderId
  merchantIds : Address → List Text
  payerIds : Address → List Text
  nonces : Address → Nat
  merchantNonces : Address → Nat
  /-- Counter of a merchant for the window that starts at a ledger. -/
  rateLimitCounters : Address → Nat → Nat

structure RefundBook where
  records : Table RefundRecord.refundId
  orderRefundIds : Text → List Text

structure RequestBook where
  records : Table PaymentRequest.requestId
  ids : List Text

structure SubscriptionBook where
  plans : Table SubscriptionPlan.planId
  records : Table Subscription.subscriptionId
  /-- Reserve of a subscriber in a token. -/
  reserves : Address → Address → Int

structure EscrowBook where
  records : Table EscrowRecord.orderId
  holds : Table EscrowHold.escrowId

/-- The ledger as the contract sees it.  `transfers` is a ghost: it lists the
token movements the contract has made, latest first, and nothing reads it. -/
structure World where
  gov : Governance
  config : Config
  merchants : MerchantBook
  stats : StatsBook
  payments : PaymentBook
  refunds : RefundBook
  disputes : Table DisputeRecord.disputeId
  multisigs : Table MultisigPayment.paymentId
  requests : RequestBook
  subscriptions : SubscriptionBook
  escrows : EscrowBook
  bank : TokenLedger Address Address
  transfers : List Transfer
  timestamp : Nat
  sequence : Nat

/-- What the contract takes from its host. -/
structure Host where
  /-- The contract's own address. -/
  self : Address
  networkId : Bytes
  sha256 : Bytes → Bytes
  /-- `ed25519Verify publicKey payload signature` -/
  ed25519Verify : Bytes → Bytes → Bytes → Bool
  /-- `sort_unstable_by`, given the comparison. -/
  sortUnstableBy : (PaymentOrder → PaymentOrder → Ordering) → List PaymentOrder → List PaymentOrder
  /-- `MAX_MEMO_LENGTH`, which the helpers use without defining it. -/
  maxMemoLength : Nat
  /-- `CARGO_PKG_VERSION` -/
  version : Text

/-- The environment of one call. -/
structure Env where
  host : Host
  /-- The addresses that authorised the call. -/
  auth : List Address
  /-- The token calls that the token contracts accept. -/
  permits : TokenCall → Bool

/-- An address authorised the call.  Nobody can authorise a call in the name
of the contract itself. -/
def Env.Authorised (env : Env) (address : Address) : Prop :=
  address ≠ env.host.self ∧ address ∈ env.auth

instance (env : Env) (address : Address) : Decidable (env.Authorised address) :=
  inferInstanceAs (Decidable (_ ∧ _))

/-- A function of the contract. -/
abbrev Contract := Tx Env World Failure

namespace Contract

/-- `return Err(error)` when a condition holds. -/
abbrev failIf (condition : Prop) [Decidable condition] (error : PaymentError) : Contract Unit :=
  Tx.failIf condition (.error error)

/-- `ok_or(error)?` -/
abbrev okOr {Value : Type} (value : Option Value) (error : PaymentError) : Contract Value :=
  Tx.okOr value (.error error)

/-- Read the ledger. -/
abbrev read {Value : Type} (view : World → Value) : Contract Value := Tx.gets view

/-- Write the ledger. -/
abbrev write (change : World → World) : Contract Unit := Tx.modify change

/-- Trap unless a condition holds. -/
abbrev trapUnless (condition : Prop) [Decidable condition] : Contract Unit :=
  Tx.require condition .trap

/-- `address.require_auth()` -/
def requireAuth (address : Address) : Contract Unit := do
  let env ← Tx.ask
  trapUnless (env.Authorised address)

/-- `+` on `u32` -/
def addU32 (first second : Nat) : Contract Nat := do
  trapUnless (first + second ≤ u32Max)
  return first + second

/-- `-` on `u32` -/
def subU32 (first second : Nat) : Contract Nat := do
  trapUnless (second ≤ first)
  return first - second

/-- `+` on `u64` -/
def addU64 (first second : Nat) : Contract Nat := do
  trapUnless (first + second ≤ u64Max)
  return first + second

/-- `+` on `i128` -/
def addI128 (first second : Int) : Contract Int := do
  trapUnless (InI128 (first + second))
  return first + second

/-- `-` on `i128` -/
def subI128 (first second : Int) : Contract Int := do
  trapUnless (InI128 (first - second))
  return first - second

/-- `*` on `i128` -/
def mulI128 (first second : Int) : Contract Int := do
  trapUnless (InI128 (first * second))
  return first * second

/-- `env.current_contract_address()` -/
def currentContractAddress : Contract Address := do
  let env ← Tx.ask
  return env.host.self

/-- `env.ledger().timestamp()` -/
def timestamp : Contract Nat := Tx.gets World.timestamp

/-- `env.ledger().sequence()` -/
def sequence : Contract Nat := Tx.gets World.sequence

section Rules

variable {env : Env} {world next : World}

@[simp]
theorem commits_requireAuth {address : Address} {result : Unit} :
    (requireAuth address).Commits env world result next ↔
      env.Authorised address ∧ next = world := by
  simp [requireAuth, and_comm]

@[simp]
theorem commits_addU32 {first second result : Nat} :
    (addU32 first second).Commits env world result next ↔
      first + second ≤ u32Max ∧ result = first + second ∧ next = world := by
  simp only [addU32, Tx.commits_bind, Tx.commits_require, Tx.commits_pure]
  grind

@[simp]
theorem commits_subU32 {first second result : Nat} :
    (subU32 first second).Commits env world result next ↔
      second ≤ first ∧ result = first - second ∧ next = world := by
  simp only [subU32, Tx.commits_bind, Tx.commits_require, Tx.commits_pure]
  grind

@[simp]
theorem commits_addU64 {first second result : Nat} :
    (addU64 first second).Commits env world result next ↔
      first + second ≤ u64Max ∧ result = first + second ∧ next = world := by
  simp only [addU64, Tx.commits_bind, Tx.commits_require, Tx.commits_pure]
  grind

@[simp]
theorem commits_addI128 {first second result : Int} :
    (addI128 first second).Commits env world result next ↔
      InI128 (first + second) ∧ result = first + second ∧ next = world := by
  simp only [addI128, Tx.commits_bind, Tx.commits_require, Tx.commits_pure]
  grind

@[simp]
theorem commits_subI128 {first second result : Int} :
    (subI128 first second).Commits env world result next ↔
      InI128 (first - second) ∧ result = first - second ∧ next = world := by
  simp only [subI128, Tx.commits_bind, Tx.commits_require, Tx.commits_pure]
  grind

@[simp]
theorem commits_mulI128 {first second result : Int} :
    (mulI128 first second).Commits env world result next ↔
      InI128 (first * second) ∧ result = first * second ∧ next = world := by
  simp only [mulI128, Tx.commits_bind, Tx.commits_require, Tx.commits_pure]
  grind

@[simp]
theorem commits_currentContractAddress {result : Address} :
    currentContractAddress.Commits env world result next ↔
      result = env.host.self ∧ next = world := by
  simp [currentContractAddress, and_comm]

@[simp]
theorem commits_timestamp {result : Nat} :
    timestamp.Commits env world result next ↔ result = world.timestamp ∧ next = world := by
  simp [timestamp]

@[simp]
theorem commits_sequence {result : Nat} :
    sequence.Commits env world result next ↔ result = world.sequence ∧ next = world := by
  simp [sequence]

end Rules

end Contract

/-! ## Updates

One update for each book, so that a proof sees at once which books a function
leaves alone.
-/

namespace World

@[simps]
def updateGov (world : World) (change : Governance → Governance) : World :=
  { world with gov := change world.gov }

@[simps]
def updateConfig (world : World) (change : Config → Config) : World :=
  { world with config := change world.config }

@[simps]
def updateMerchants (world : World) (change : MerchantBook → MerchantBook) : World :=
  { world with merchants := change world.merchants }

@[simps]
def updateStats (world : World) (change : StatsBook → StatsBook) : World :=
  { world with stats := change world.stats }

@[simps]
def updatePayments (world : World) (change : PaymentBook → PaymentBook) : World :=
  { world with payments := change world.payments }

@[simps]
def updateRefunds (world : World) (change : RefundBook → RefundBook) : World :=
  { world with refunds := change world.refunds }

@[simps]
def updateDisputes (world : World)
    (change : Table DisputeRecord.disputeId → Table DisputeRecord.disputeId) : World :=
  { world with disputes := change world.disputes }

@[simps]
def updateMultisigs (world : World)
    (change : Table MultisigPayment.paymentId → Table MultisigPayment.paymentId) : World :=
  { world with multisigs := change world.multisigs }

@[simps]
def updateRequests (world : World) (change : RequestBook → RequestBook) : World :=
  { world with requests := change world.requests }

@[simps]
def updateSubscriptions (world : World) (change : SubscriptionBook → SubscriptionBook) : World :=
  { world with subscriptions := change world.subscriptions }

@[simps]
def updateEscrows (world : World) (change : EscrowBook → EscrowBook) : World :=
  { world with escrows := change world.escrows }

/-- Move tokens and note the movement. -/
@[simps]
def moveTokens (world : World) (transfer : Transfer) : World :=
  { world with
    bank := world.bank.move transfer.token transfer.sender transfer.recipient transfer.amount
    transfers := transfer :: world.transfers }

/-- Set an allowance. -/
@[simps]
def setAllowance (world : World) (token owner spender : Address) (amount : Int) : World :=
  { world with bank := world.bank.setAllowance token owner spender amount }

end World

/-! ## Token clients -/

namespace Contract

/-- The token contract's own `require_auth`, which holds implicitly for the
calling contract. -/
def tokenAuth (address : Address) : Contract Unit := do
  let env ← Tx.ask
  trapUnless (address = env.host.self ∨ env.Authorised address)

/-- The token contract may refuse any call. -/
def tokenPermits (call : TokenCall) : Contract Unit := do
  let env ← Tx.ask
  trapUnless (env.permits call = true)

/-- `token::Client::transfer` -/
def tokenTransfer (cause : Cause) (token sender recipient : Address) (amount : Int) :
    Contract Unit := do
  tokenAuth sender
  tokenPermits (.transfer token sender recipient amount)
  let bank ← Tx.gets World.bank
  let moved ← Tx.okOr (bank.transfer token sender recipient amount) .trap
  Tx.modify fun world =>
    { world with
      bank := moved
      transfers := ⟨cause, token, sender, recipient, amount⟩ :: world.transfers }

/-- `token::Client::transfer_from`, with the contract as spender. -/
def tokenTransferFrom (cause : Cause) (token owner recipient : Address) (amount : Int) :
    Contract Unit := do
  let spender ← currentContractAddress
  tokenPermits (.transferFrom token spender owner recipient amount)
  let bank ← Tx.gets World.bank
  let moved ← Tx.okOr (bank.transferFrom token spender owner recipient amount) .trap
  Tx.modify fun world =>
    { world with
      bank := moved
      transfers := ⟨cause, token, owner, recipient, amount⟩ :: world.transfers }

/-- `token::Client::approve`, with the contract as spender. -/
def tokenApprove (token owner : Address) (amount : Int) : Contract Unit := do
  let spender ← currentContractAddress
  tokenAuth owner
  tokenPermits (.approve token owner spender amount)
  let bank ← Tx.gets World.bank
  let approved ← Tx.okOr (bank.approve token owner spender amount) .trap
  Tx.modify fun world => { world with bank := approved }

section TokenRules

variable {env : Env} {world next : World} {cause : Cause}
  {token sender owner recipient : Address} {amount : Int} {result : Unit}

@[simp]
theorem commits_tokenTransfer :
    (tokenTransfer cause token sender recipient amount).Commits env world result next ↔
      (sender = env.host.self ∨ env.Authorised sender) ∧
        env.permits (.transfer token sender recipient amount) = true ∧
        0 ≤ amount ∧ amount ≤ world.bank.balance token sender ∧
        next = world.moveTokens ⟨cause, token, sender, recipient, amount⟩ := by
  simp only [tokenTransfer, tokenAuth, tokenPermits, Tx.commits_bind, Tx.commits_ask,
    Tx.commits_require, Tx.commits_gets, Tx.commits_okOr, Tx.commits_modify,
    TokenLedger.transfer_eq_some, World.moveTokens, Tx.exists_unit]
  constructor
  · rintro ⟨_, ⟨_, _, ⟨rfl, rfl⟩, authorised, rfl⟩, _, ⟨_, _, ⟨rfl, rfl⟩, permitted, rfl⟩,
      _, _, ⟨rfl, rfl⟩, _, _, ⟨⟨nonneg, covered, rfl⟩, rfl⟩, rfl⟩
    exact ⟨authorised, permitted, nonneg, covered, rfl⟩
  · rintro ⟨authorised, permitted, nonneg, covered, rfl⟩
    exact ⟨_, ⟨_, _, ⟨rfl, rfl⟩, authorised, rfl⟩, _, ⟨_, _, ⟨rfl, rfl⟩, permitted, rfl⟩,
      _, _, ⟨rfl, rfl⟩, _, _, ⟨⟨nonneg, covered, rfl⟩, rfl⟩, rfl⟩

@[simp]
theorem commits_tokenTransferFrom :
    (tokenTransferFrom cause token owner recipient amount).Commits env world result next ↔
      env.permits (.transferFrom token env.host.self owner recipient amount) = true ∧
        0 ≤ amount ∧ amount ≤ world.bank.balance token owner ∧
        amount ≤ world.bank.allowance token owner env.host.self ∧
        next = (world.moveTokens ⟨cause, token, owner, recipient, amount⟩).setAllowance
          token owner env.host.self (world.bank.allowance token owner env.host.self - amount) := by
  simp only [tokenTransferFrom, tokenPermits, Tx.commits_bind, Tx.commits_ask,
    Tx.commits_require, Tx.commits_gets, Tx.commits_okOr, Tx.commits_modify,
    commits_currentContractAddress, TokenLedger.transferFrom_eq_some, World.moveTokens,
    World.setAllowance, Tx.exists_unit]
  constructor
  · rintro ⟨_, _, ⟨rfl, rfl⟩, _, ⟨_, _, ⟨rfl, rfl⟩, permitted, rfl⟩,
      _, _, ⟨rfl, rfl⟩, _, _, ⟨⟨nonneg, covered, allowed, rfl⟩, rfl⟩, rfl⟩
    exact ⟨permitted, nonneg, covered, allowed, rfl⟩
  · rintro ⟨permitted, nonneg, covered, allowed, rfl⟩
    exact ⟨_, _, ⟨rfl, rfl⟩, _, ⟨_, _, ⟨rfl, rfl⟩, permitted, rfl⟩,
      _, _, ⟨rfl, rfl⟩, _, _, ⟨⟨nonneg, covered, allowed, rfl⟩, rfl⟩, rfl⟩

@[simp]
theorem commits_tokenApprove :
    (tokenApprove token owner amount).Commits env world result next ↔
      (owner = env.host.self ∨ env.Authorised owner) ∧
        env.permits (.approve token owner env.host.self amount) = true ∧
        0 ≤ amount ∧ next = world.setAllowance token owner env.host.self amount := by
  simp only [tokenApprove, tokenAuth, tokenPermits, Tx.commits_bind, Tx.commits_ask,
    Tx.commits_require, Tx.commits_gets, Tx.commits_okOr, Tx.commits_modify,
    commits_currentContractAddress, TokenLedger.approve_eq_some, World.setAllowance,
    Tx.exists_unit]
  constructor
  · rintro ⟨_, _, ⟨rfl, rfl⟩, _, ⟨_, _, ⟨rfl, rfl⟩, authorised, rfl⟩,
      _, ⟨_, _, ⟨rfl, rfl⟩, permitted, rfl⟩, _, _, ⟨rfl, rfl⟩, _, _, ⟨⟨nonneg, rfl⟩, rfl⟩, rfl⟩
    exact ⟨authorised, permitted, nonneg, rfl⟩
  · rintro ⟨authorised, permitted, nonneg, rfl⟩
    exact ⟨_, _, ⟨rfl, rfl⟩, _, ⟨_, _, ⟨rfl, rfl⟩, authorised, rfl⟩,
      _, ⟨_, _, ⟨rfl, rfl⟩, permitted, rfl⟩, _, _, ⟨rfl, rfl⟩, _, _, ⟨⟨nonneg, rfl⟩, rfl⟩, rfl⟩

end TokenRules

end Contract

end LumenFlow

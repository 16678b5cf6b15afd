import Mathlib.Tactic.Common
import Mathlib.Algebra.Order.Ring.Int

/-!
# Records of the payment contract

The records, enumerations and errors of the contract.  The integer types of
the contract are modelled by `Nat` (`u32`, `u64`) and `Int` (`i128`); an
operation that could leave its type is checked where it stands, as the release
profile does.
-/

namespace LumenFlow

/-- A Soroban `Bytes` value. -/
abbrev Bytes := List UInt8

/-- A Soroban `String`, which is a string of bytes. -/
abbrev Text := List UInt8

instance (text : Text) (texts : List Text) : Decidable (text ∈ texts) := inferInstance

/-- An account key or a contract identifier. -/
inductive Address where
  | account (publicKey : BitVec 256)
  | contract (id : BitVec 256)
  deriving DecidableEq

def u32Max : Nat := 2 ^ 32 - 1
def u64Max : Nat := 2 ^ 64 - 1
def i128Max : Int := 2 ^ 127 - 1
def i128Min : Int := -2 ^ 127

/-- The value fits in an `i128`. -/
def InI128 (value : Int) : Prop := i128Min ≤ value ∧ value ≤ i128Max

instance (value : Int) : Decidable (InI128 value) :=
  inferInstanceAs (Decidable (_ ∧ _))

/-- `u64::saturating_add` -/
def saturatingAddU64 (first second : Nat) : Nat :=
  min u64Max (first + second)

/-- `i128::saturating_add` -/
def saturatingAdd (first second : Int) : Int :=
  max i128Min (min i128Max (first + second))

/-- `i128::saturating_sub` -/
def saturatingSub (first second : Int) : Int :=
  max i128Min (min i128Max (first - second))

/-- `i128::saturating_mul` -/
def saturatingMul (first second : Int) : Int :=
  max i128Min (min i128Max (first * second))

theorem saturatingAdd_eq {first second : Int} (fits : InI128 (first + second)) :
    saturatingAdd first second = first + second := by
  rw [saturatingAdd, min_eq_right fits.2, max_eq_right fits.1]

theorem saturatingSub_eq {first second : Int} (fits : InI128 (first - second)) :
    saturatingSub first second = first - second := by
  rw [saturatingSub, min_eq_right fits.2, max_eq_right fits.1]

theorem saturatingMul_eq {first second : Int} (fits : InI128 (first * second)) :
    saturatingMul first second = first * second := by
  rw [saturatingMul, min_eq_right fits.2, max_eq_right fits.1]

theorem inI128_of_le {value bound : Int} (nonneg : 0 ≤ value) (below : value ≤ bound)
    (fits : bound ≤ i128Max) : InI128 value :=
  ⟨(by decide : i128Min ≤ 0).trans nonneg, below.trans fits⟩

inductive PaymentError where
  | unauthorized
  | adminAlreadySet
  | invalidAdminAddress
  | invalidNonce
  | authLockedOut
  | merchantNotFound
  | merchantAlreadyRegistered
  | merchantInactive
  | paymentNotFound
  | paymentAlreadyExists
  | invalidAmount
  | invalidSignature
  | paymentExpired
  | signatureExpired
  | tokenNotAllowed
  | refundNotFound
  | refundAlreadyExists
  | refundWindowExpired
  | refundExceedsOriginal
  | refundNotApproved
  | refundAlreadyCompleted
  | refundBelowMinimum
  | refundLimitExceeded
  | tooManySigners
  | multisigNotFound
  | multisigAlreadySigned
  | multisigAlreadyExecuted
  | insufficientSignatures
  | multisigAlreadyCancelled
  | multisigCancelled
  | multisigExpired
  | contractPaused
  | paymentHistoryLimitExceeded
  | timelockActive
  | alreadyApprovedUnpause
  | notAPauseGuardian
  | versionMismatch
  | invalidIssuer
  | storageVersionTooNew
  | storageMigrationRequired
  | commitmentAlreadyExists
  | commitmentNotFound
  | commitmentExpired
  | commitmentHashMismatch
  | invalidInput
  | paginationLimitExceeded
  | batchSizeExceeded
  | duplicateOrderId
  | invalidTags
  | serializedPayloadTooLarge
  | invalidOrderId
  | orderIdTooLong
  | invalidReferral
  | invalidMemoLength
  | invalidCategory
  | invalidTtl
  | subscriptionPlanAlreadyExists
  | subscriptionAlreadyExists
  | subscriptionPlanNotFound
  | subscriptionNotFound
  | subscriptionNotActive
  | subscriptionMaxCyclesReached
  | subscriptionIntervalNotElapsed
  | rateLimitExceeded
  | escrowNotFound
  | escrowAlreadyExists
  | escrowNotUnlocked
  | escrowAlreadyFinalised
  | escrowUnauthorised
  | escrowLockExpired
  | disputeNotFound
  | disputeAlreadyExists
  | disputeRefundNotRejected
  | disputeAlreadyResolved
  | disputeNotOpen
  | disputeAlreadyEscalated
  deriving DecidableEq

/-- Why an invocation has no effect: the contract returned an error, or the
host trapped. -/
inductive Failure where
  | error (error : PaymentError)
  | trap
  deriving DecidableEq

inductive MerchantCategory where
  | retail
  | food
  | services
  | digital
  | other
  | custom (name : Text)
  deriving DecidableEq

structure Merchant where
  address : Address
  name : Text
  description : Text
  contactInfo : Text
  category : MerchantCategory
  active : Bool
  verified : Bool
  registeredAt : Nat
  totalReceived : Int
  referralCount : Nat
  deriving DecidableEq

structure MerchantCommitment where
  merchantAddress : Address
  commitmentHash : Bytes
  committedAtLedger : Nat
  deriving DecidableEq

inductive PaymentStatus where
  | completed
  | partiallyRefunded
  | fullyRefunded
  deriving DecidableEq

structure PaymentOrder where
  orderId : Text
  merchantAddress : Address
  payer : Address
  token : Address
  amount : Int
  version : Nat
  status : PaymentStatus
  paidAt : Nat
  refundedAmount : Int
  memo : Text
  tags : Option (List Text)
  platformFee : Int
  deriving DecidableEq

structure PaymentSummary where
  orderId : Text
  merchantAddress : Address
  amount : Int
  token : Address
  status : PaymentStatus
  paidAt : Nat
  deriving DecidableEq

structure PaymentRequest where
  requestId : Text
  merchant : Address
  token : Address
  amount : Int
  memo : Text
  expiresAt : Nat
  deriving DecidableEq

structure BatchPaymentItem where
  orderId : Text
  merchantAddress : Address
  tokenAddress : Address
  amount : Int
  memo : Text
  tags : Option (List Text)
  signature : Bytes
  merchantPublicKey : Bytes
  deriving DecidableEq

inductive RefundStatus where
  | pending
  | approved
  | rejected
  | completed
  deriving DecidableEq

structure RefundRecord where
  refundId : Text
  orderId : Text
  initiator : Address
  amount : Int
  reason : Text
  status : RefundStatus
  createdAt : Nat
  deriving DecidableEq

structure SignatureEntry where
  signer : Address
  signature : Bytes
  deriving DecidableEq

structure MultisigPayment where
  paymentId : Text
  initiator : Address
  merchantAddress : Address
  token : Address
  amount : Int
  requiredSignatures : Nat
  signers : List Address
  collected : List SignatureEntry
  executed : Bool
  cancelled : Bool
  createdAt : Nat
  expiresAt : Option Nat
  deriving DecidableEq

inductive SortField where
  | date
  | amount
  deriving DecidableEq

inductive SortOrder where
  | ascending
  | descending
  deriving DecidableEq

inductive StatusFilter where
  | any
  | completed
  | partiallyRefunded
  | fullyRefunded
  deriving DecidableEq

structure PaymentFilter where
  dateStart : Option Nat
  dateEnd : Option Nat
  amountMin : Option Int
  amountMax : Option Int
  token : Option Address
  status : StatusFilter
  tag : Option Text
  deriving DecidableEq

structure MerchantPage where
  merchants : List Merchant
  nextCursor : Option Address
  total : Nat
  deriving DecidableEq

structure PaymentPage where
  payments : List PaymentOrder
  nextCursor : Option Text
  totalMatching : Nat
  deriving DecidableEq

structure GlobalStats where
  totalPayments : Nat
  totalVolume : Int
  totalRefunds : Nat
  totalRefundVolume : Int
  activeMerchants : Nat
  deriving DecidableEq

structure MerchantStats where
  totalPayments : Nat
  totalVolume : Int
  totalRefunds : Nat
  totalRefundVolume : Int
  deriving DecidableEq

inductive EscrowStatus where
  | locked
  | released
  | cancelled
  deriving DecidableEq

structure EscrowRecord where
  orderId : Text
  payer : Address
  merchant : Address
  token : Address
  amount : Int
  unlockAt : Nat
  status : EscrowStatus
  createdAt : Nat
  deriving DecidableEq

inductive EscrowHoldStatus where
  | held
  | released
  | cancelled
  deriving DecidableEq

structure EscrowHold where
  escrowId : Text
  payer : Address
  merchant : Address
  token : Address
  amount : Int
  conditionHash : Bytes
  arbiter : Address
  timeoutAt : Nat
  status : EscrowHoldStatus
  createdAt : Nat
  deriving DecidableEq

inductive DisputeStatus where
  | open
  | underReview
  | resolved
  | escalated
  deriving DecidableEq

inductive DisputeOutcome where
  | merchantFavor
  | payerFavor
  deriving DecidableEq

structure DisputeRecord where
  disputeId : Text
  orderId : Text
  refundId : Text
  initiator : Address
  reason : Text
  status : DisputeStatus
  outcome : Option DisputeOutcome
  resolution : Option Text
  createdAt : Nat
  deriving DecidableEq

inductive SubscriptionStatus where
  | active
  | cancelled
  | completed
  deriving DecidableEq

structure SubscriptionPlan where
  planId : Text
  token : Address
  amount : Int
  intervalSecs : Nat
  maxCycles : Nat
  createdAt : Nat
  deriving DecidableEq

structure Subscription where
  subscriptionId : Text
  planId : Text
  merchant : Address
  subscriber : Address
  status : SubscriptionStatus
  cyclesCharged : Nat
  lastChargedAt : Nat
  createdAt : Nat
  deriving DecidableEq

inductive AdminActionType where
  | setAdmin
  | transferAdmin
  | pauseContract
  | unpauseContract
  | addAllowedToken
  | removeAllowedToken
  | setPlatformFee
  deriving DecidableEq

structure AdminAuditEntry where
  index : Nat
  action : AdminActionType
  caller : Address
  params : Text
  timestamp : Nat
  ledgerSequence : Nat
  deriving DecidableEq

end LumenFlow

import LumenFlow.Model.Storage

/-!
# Ledger entries under their keys

The store as the host sees it, below the typed readers.  An enum key is a vector of the
variant's symbol and its arguments, which is not the same key as the bare symbol.  Version 1
of the contract spelt thirteen variants out that version 2 abbreviates.
-/

namespace LumenFlow

inductive Durability where
  | instanceStorage
  | persistent
  | temporary
  deriving DecidableEq

inductive KeyArgument where
  | address (address : Address)
  | text (text : Text)
  | number (number : Nat)
  deriving DecidableEq

inductive EntryKey where
  | symbol (name : String)
  | variant (name : String) (arguments : List KeyArgument)
  deriving DecidableEq

/-- The types of the entries that are migrated. -/
inductive ValueKind where
  | u32 | u64 | i128 | text | address | addresses
  deriving DecidableEq

inductive Value where
  | u32 (number : Nat)
  | u64 (number : Nat)
  | i128 (number : Int)
  | text (text : Text)
  | address (address : Address)
  | addresses (list : List Address)
  | texts (list : List Text)
  | merchantStats (stats : MerchantStats)
  | other (content : Bytes)
  deriving DecidableEq

namespace Value

def HasKind : Value → ValueKind → Prop
  | u32 _, .u32 | u64 _, .u64 | i128 _, .i128 | text _, .text | address _, .address
  | addresses _, .addresses => True
  | _, _ => False

instance (value : Value) (kind : ValueKind) : Decidable (value.HasKind kind) := by
  unfold HasKind
  split <;> infer_instance

def asU32 : Value → Option Nat
  | u32 number => some number
  | _ => none

def asU64 : Value → Option Nat
  | u64 number => some number
  | _ => none

def asI128 : Value → Option Int
  | i128 number => some number
  | _ => none

def asAddress : Value → Option Address
  | address account => some account
  | _ => none

def asAddresses : Value → Option (List Address)
  | addresses list => some list
  | _ => none

def asTexts : Value → Option (List Text)
  | texts list => some list
  | _ => none

def asMerchantStats : Value → Option MerchantStats
  | merchantStats stats => some stats
  | _ => none

end Value

/-! ## Stores -/

abbrev RawStore := Durability → EntryKey → Option Value

namespace RawStore

def empty : RawStore := fun _ _ => none

def update (store : RawStore) (durability : Durability) (key : EntryKey) (entry : Option Value) :
    RawStore :=
  Function.update store durability (Function.update (store durability) key entry)

theorem update_apply (store : RawStore) (durability other : Durability) (key name : EntryKey)
    (entry : Option Value) :
    store.update durability key entry other name =
      if other = durability ∧ name = key then entry else store other name := by
  unfold update
  by_cases same : other = durability
  · subst same
    simp [Function.update_apply]
  · simp [same]

/-- `get(&key).unwrap_or(default)`, which traps on an entry of another type. -/
def unwrapOr {Content : Type} (entry : Option Value) (decode : Value → Option Content)
    (default : Content) : Option Content :=
  match entry with
  | none => some default
  | some value => decode value

end RawStore

/-! ## The names of the keys -/

/-- The key families that version 2 abbreviates. -/
inductive Family where
  | cleanupPeriod | merchantList | merchantStats | merchantPayments | payerPayments
  | orderRefunds | largePaymentThreshold | allowedToken | multisigExpiryDuration
  | minRefundAmount | platformFeeBps | feeRecipient | refundWindow
  deriving DecidableEq

namespace Family

/-- The variant of version 1. -/
def verbose : Family → String
  | cleanupPeriod => "CleanupPeriod"
  | merchantList => "MerchantList"
  | merchantStats => "MerchantStats"
  | merchantPayments => "MerchantPayments"
  | payerPayments => "PayerPayments"
  | orderRefunds => "OrderRefunds"
  | largePaymentThreshold => "LargePaymentThreshold"
  | allowedToken => "AllowedToken"
  | multisigExpiryDuration => "MultisigExpiryDuration"
  | minRefundAmount => "MinRefundAmount"
  | platformFeeBps => "PlatformFeeBps"
  | feeRecipient => "FeeRecipient"
  | refundWindow => "RefundWindow"

/-- The variant of version 2. -/
def code : Family → String
  | cleanupPeriod => "CP"
  | merchantList => "ML"
  | merchantStats => "MS"
  | merchantPayments => "MP"
  | payerPayments => "PP"
  | orderRefunds => "OR"
  | largePaymentThreshold => "LPT"
  | allowedToken => "AT"
  | multisigExpiryDuration => "MED"
  | minRefundAmount => "MRA"
  | platformFeeBps => "PFB"
  | feeRecipient => "FR"
  | refundWindow => "RW"

end Family

/-! ## Readers

The readers of the two versions differ only in the names of the keys.
-/

namespace RawStore

variable (names : Family → String) (store : RawStore)

def getCleanupPeriod : Option Nat :=
  unwrapOr (store .instanceStorage (.variant (names .cleanupPeriod) [])) Value.asU64
    defaultCleanupPeriodSecs

def getMerchantList : Option (List Address) :=
  unwrapOr (store .instanceStorage (.variant (names .merchantList) [])) Value.asAddresses []

def getMerchantStats (merchant : Address) : Option MerchantStats :=
  unwrapOr (store .instanceStorage (.variant (names .merchantStats) [.address merchant]))
    Value.asMerchantStats ⟨0, 0, 0, 0⟩

def getMerchantPaymentIds (merchant : Address) : Option (List Text) :=
  unwrapOr (store .persistent (.variant (names .merchantPayments) [.address merchant]))
    Value.asTexts []

def getPayerPaymentIds (payer : Address) : Option (List Text) :=
  unwrapOr (store .persistent (.variant (names .payerPayments) [.address payer])) Value.asTexts []

def getOrderRefundIds (orderId : Text) : Option (List Text) :=
  unwrapOr (store .persistent (.variant (names .orderRefunds) [.text orderId])) Value.asTexts []

def getLargePaymentThreshold : Option Int :=
  unwrapOr (store .instanceStorage (.variant (names .largePaymentThreshold) [])) Value.asI128
    defaultLargePaymentThreshold

def isTokenAllowed (token : Address) : Bool :=
  (store .instanceStorage (.variant (names .allowedToken) [.address token])).isSome

def getMultisigExpiryDuration : Option Nat :=
  unwrapOr (store .instanceStorage (.variant (names .multisigExpiryDuration) [])) Value.asU64
    defaultMultisigExpiry

def getMinRefundAmount : Option Int :=
  unwrapOr (store .instanceStorage (.variant (names .minRefundAmount) [])) Value.asI128
    minRefundAmountDefault

def getPlatformFeeBps : Option Nat :=
  unwrapOr (store .instanceStorage (.variant (names .platformFeeBps) [])) Value.asU32
    defaultPlatformFeeBps

def getFeeRecipient : Option (Option Address) :=
  unwrapOr (store .instanceStorage (.variant (names .feeRecipient) []))
    (fun value => value.asAddress.map some) none

def getRefundWindow : Option Nat :=
  unwrapOr (store .instanceStorage (.variant (names .refundWindow) [])) Value.asU64
    defaultRefundWindowSecs

/-! ## Migration -/

/-- `migrate_instance!` reads a bare symbol. -/
def migrateInstance (oldSym newKey : String) (kind : ValueKind) (store : RawStore) :
    Option RawStore :=
  match store .instanceStorage (.symbol oldSym) with
  | none => some store
  | some value =>
      if value.HasKind kind then
        some ((store.update .instanceStorage (.variant newKey []) (some value)).update
          .instanceStorage (.symbol oldSym) none)
      else
        none

/-- A line of the migration: the symbol that it reads, the key that it writes, and the type of
the entry. -/
structure Renaming where
  oldSym : String
  newKey : String
  kind : ValueKind

def renamings : List Renaming := [
  ⟨"CleanupPeriod", "CP", .u64⟩,
  ⟨"PlatformFeeBps", "PFB", .u32⟩,
  ⟨"RefundWindow", "RW", .u64⟩,
  ⟨"LargePaymentThreshold", "LPT", .i128⟩,
  ⟨"MinRefundAmount", "MRA", .i128⟩,
  ⟨"MultisigExpiryDuration", "MED", .u64⟩,
  ⟨"StoredVersion", "SV", .text⟩,
  ⟨"MerchantList", "ML", .addresses⟩,
  ⟨"FeeRecipient", "FR", .address⟩]

/-- `migrate_storage_keys`, which traps on an entry of another type. -/
def migrateStorageKeys (store : RawStore) : Option RawStore :=
  renamings.foldlM (fun store line => store.migrateInstance line.oldSym line.newKey line.kind)
    store

end RawStore

end LumenFlow

import LumenFlow.Kit.Wire
import LumenFlow.Model.Storage

/-!
# Checks shared by the entry points

The functions of `helper.rs`, each with the rule that says when it lets a call
pass, and the XDR encodings that the signed payloads are made of.
-/

namespace LumenFlow

open Kit

/-! ## XDR values -/

/-- `to_xdr` of a string: an `ScVal` with tag 14. -/
def scvString (text : Text) : Bytes :=
  Wire.bigEndian 4 14 ++ Wire.opaqueVar text

/-- The XDR of a bare `ScAddress`. -/
def scAddress : Address → Bytes
  | .account publicKey =>
      Wire.bigEndian 4 0 ++ Wire.bigEndian 4 0 ++ Wire.bigEndian 32 publicKey.toNat
  | .contract id => Wire.bigEndian 4 1 ++ Wire.bigEndian 32 id.toNat

/-- `to_xdr` of an address: an `ScVal` with tag 18. -/
def scvAddress (address : Address) : Bytes :=
  Wire.bigEndian 4 18 ++ scAddress address

namespace Contract

/-! ## Checks -/

def maxPageLimit : Nat := 100

def requireBoundedString (value : Text) (least most : Nat) : Contract Unit :=
  failIf (value.length < least ∨ most < value.length) .invalidInput

def requireNotPaused : Contract Unit := do
  let paused ← read (·.getPaused)
  failIf (paused = true) .contractPaused

def requireAdmin (caller : Address) : Contract Unit := do
  requireAuth caller
  let admin ← read (·.getAdmin)
  failIf (admin ≠ some caller) .unauthorized

/-- The failure record is written before the error, which rolls it back.  Its report only selects
an event. -/
def requireAdminRateLimited (caller : Address) : Contract Unit := do
  let locked ← read (·.isAuthLockedOut caller)
  failIf (locked = true) .authLockedOut
  requireAuth caller
  let admin ← read (·.getAdmin)
  if admin = some caller then
    write (·.clearAuthFailCount caller)
  else do
    let _triggeredLockout ← recordAuthFailure caller
    Tx.fail (.error .unauthorized)

def requireAdminOr (caller allowed : Address) : Contract Unit := do
  requireAuth caller
  let admin ← read (·.getAdmin)
  failIf (¬ (admin = some caller ∨ caller = allowed)) .unauthorized

def requirePositive (amount : Int) : Contract Unit :=
  failIf (¬ 0 < amount) .invalidAmount

def requireMinRefundAmount (amount : Int) : Contract Unit := do
  let least ← read (·.getMinRefundAmount)
  failIf (¬ least ≤ amount) .refundBelowMinimum

def requireValidLimit (limit : Nat) : Contract Unit := do
  failIf (limit = 0) .invalidInput
  failIf (maxPageLimit < limit) .paginationLimitExceeded

/-- The production branch: the host traps on a signature that does not verify. -/
def verifySignature (publicKey payload signature : Bytes) : Contract Unit := do
  failIf (publicKey.length ≠ 32) .invalidSignature
  failIf (signature.length ≠ 64) .invalidSignature
  let env ← Tx.ask
  trapUnless (env.host.ed25519Verify publicKey payload signature = true)

def requireNonEmptyString (text : Text) : Contract Unit :=
  failIf (text.length = 0) .invalidInput

def requireValidId (id : Text) : Contract Unit := do
  failIf (id.length = 0) .invalidOrderId
  failIf (64 < id.length) .orderIdTooLong

/-- At most five tags, each of one to 32 bytes. -/
def ValidTags (tags : Option (List Text)) : Prop :=
  ∀ list ∈ tags, list.length ≤ 5 ∧ ∀ tag ∈ list, 0 < tag.length ∧ tag.length ≤ 32

instance (tags : Option (List Text)) : Decidable (ValidTags tags) :=
  inferInstanceAs (Decidable (∀ list ∈ tags, _ ∧ ∀ tag ∈ list, _))

def validateTags (tags : Option (List Text)) : Contract Unit :=
  failIf (¬ ValidTags tags) .invalidTags

/-- A custom category has one to 64 bytes. -/
def ValidCategory : MerchantCategory → Prop
  | .custom name => 0 < name.length ∧ name.length ≤ 64
  | _ => True

instance (category : MerchantCategory) : Decidable (ValidCategory category) :=
  match category with
  | .custom _ => inferInstanceAs (Decidable (_ ∧ _))
  | .retail | .food | .services | .digital | .other => inferInstanceAs (Decidable True)

def validateMerchantCategory (category : MerchantCategory) : Contract Unit :=
  failIf (¬ ValidCategory category) .invalidCategory

def requireValidMemo (memo : Text) : Contract Unit := do
  let env ← Tx.ask
  failIf (env.host.maxMemoLength < memo.length) .invalidMemoLength

/-- An identifier of one to 64 bytes. -/
def ValidId (id : Text) : Prop := 0 < id.length ∧ id.length ≤ 64

instance (id : Text) : Decidable (ValidId id) := inferInstanceAs (Decidable (_ ∧ _))

section Rules

variable {env : Env} {world next : World} {caller allowed : Address} {result : Unit}

@[simp]
theorem commits_requireBoundedString {value : Text} {least most : Nat} :
    (requireBoundedString value least most).Commits env world result next ↔
      (least ≤ value.length ∧ value.length ≤ most) ∧ next = world := by
  simp [requireBoundedString]

@[simp]
theorem commits_requireNotPaused :
    requireNotPaused.Commits env world result next ↔
      world.gov.paused = false ∧ next = world := by
  simp [requireNotPaused]

@[simp]
theorem commits_requireAdmin :
    (requireAdmin caller).Commits env world result next ↔
      (env.Authorised caller ∧ world.gov.admin = some caller) ∧ next = world := by
  simp [requireAdmin, and_assoc]

@[simp]
theorem commits_requireAdminRateLimited :
    (requireAdminRateLimited caller).Commits env world result next ↔
      (world.isAuthLockedOut caller = false ∧ env.Authorised caller ∧
        world.gov.admin = some caller) ∧ next = world.clearAuthFailCount caller := by
  simp [requireAdminRateLimited, and_assoc]

@[simp]
theorem commits_requireAdminOr :
    (requireAdminOr caller allowed).Commits env world result next ↔
      (env.Authorised caller ∧ (world.gov.admin = some caller ∨ caller = allowed)) ∧
        next = world := by
  simp [requireAdminOr, and_assoc, or_iff_not_imp_left]

@[simp]
theorem commits_requirePositive {amount : Int} :
    (requirePositive amount).Commits env world result next ↔ 0 < amount ∧ next = world := by
  simp [requirePositive]

@[simp]
theorem commits_requireMinRefundAmount {amount : Int} :
    (requireMinRefundAmount amount).Commits env world result next ↔
      world.getMinRefundAmount ≤ amount ∧ next = world := by
  simp [requireMinRefundAmount, and_comm]

@[simp]
theorem commits_requireValidLimit {limit : Nat} :
    (requireValidLimit limit).Commits env world result next ↔
      (limit ≠ 0 ∧ limit ≤ maxPageLimit) ∧ next = world := by
  simp [requireValidLimit, and_assoc]

@[simp]
theorem commits_verifySignature {publicKey payload signature : Bytes} :
    (verifySignature publicKey payload signature).Commits env world result next ↔
      (publicKey.length = 32 ∧ signature.length = 64 ∧
        env.host.ed25519Verify publicKey payload signature = true) ∧ next = world := by
  simp [verifySignature, and_assoc]

@[simp]
theorem commits_requireNonEmptyString {text : Text} :
    (requireNonEmptyString text).Commits env world result next ↔ text ≠ [] ∧ next = world := by
  simp [requireNonEmptyString]

@[simp]
theorem commits_requireValidId {id : Text} :
    (requireValidId id).Commits env world result next ↔ ValidId id ∧ next = world := by
  simp [requireValidId, ValidId, and_assoc, List.length_pos_iff]

@[simp]
theorem commits_validateTags {tags : Option (List Text)} :
    (validateTags tags).Commits env world result next ↔ ValidTags tags ∧ next = world := by
  simp [validateTags]

@[simp]
theorem commits_validateMerchantCategory {category : MerchantCategory} :
    (validateMerchantCategory category).Commits env world result next ↔
      ValidCategory category ∧ next = world := by
  simp [validateMerchantCategory]

@[simp]
theorem commits_requireValidMemo {memo : Text} :
    (requireValidMemo memo).Commits env world result next ↔
      memo.length ≤ env.host.maxMemoLength ∧ next = world := by
  simp [requireValidMemo, and_comm]

end Rules

end Contract

end LumenFlow

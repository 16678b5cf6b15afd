import LumenFlow.Model.Helper

/-!
# Merchants

Registration in one step and by commit and reveal, profile updates, activation
and verification.
-/

namespace LumenFlow

open Kit

namespace Contract

/-- A change of the number of active merchants. -/
def addActiveMerchant : Contract Unit := do
  let stats ← read (·.getGlobalStats)
  let activeMerchants ← addU32 stats.activeMerchants 1
  write (·.setGlobalStats { stats with activeMerchants })

/-- The profile with which every merchant starts. -/
def newMerchant (merchantAddress : Address) (name description contactInfo : Text)
    (category : MerchantCategory) (now : Nat) : Merchant where
  address := merchantAddress
  name := name
  description := description
  contactInfo := contactInfo
  category := category
  active := true
  verified := false
  registeredAt := now
  totalReceived := 0
  referralCount := 0

def commitMerchantRegistration (merchantAddress : Address) (commitmentHash : Bytes) :
    Contract Unit := do
  requireNotPaused
  requireAuth merchantAddress
  let merchant ← read (·.getMerchant merchantAddress)
  failIf (merchant.isSome = true) .merchantAlreadyRegistered
  let pending ← read (·.getMerchantCommitment merchantAddress)
  failIf (pending.isSome = true) .commitmentAlreadyExists
  let seq ← sequence
  write (·.setMerchantCommitment ⟨merchantAddress, commitmentHash, seq⟩)

def revealMerchantRegistration (merchantAddress : Address)
    (name description contactInfo : Text) (category : MerchantCategory) (nonce : Bytes) :
    Contract Unit := do
  requireNotPaused
  requireAuth merchantAddress
  requireNonEmptyString name
  validateMerchantCategory category
  let merchant ← read (·.getMerchant merchantAddress)
  failIf (merchant.isSome = true) .merchantAlreadyRegistered
  let commitment ← okOr (← read (·.getMerchantCommitment merchantAddress)) .commitmentNotFound
  let seq ← sequence
  failIf (commitmentTtlLedgers < seq - commitment.committedAtLedger) .commitmentExpired
  let env ← Tx.ask
  let preImage := scvAddress merchantAddress ++ scvString name ++ nonce
  failIf (env.host.sha256 preImage ≠ commitment.commitmentHash) .commitmentHashMismatch
  write (·.removeMerchantCommitment merchantAddress)
  let now ← timestamp
  write (·.setMerchant (newMerchant merchantAddress name description contactInfo category now))
  write (·.addToMerchantList merchantAddress)
  addActiveMerchant

def registerMerchant (merchantAddress : Address) (name description contactInfo : Text)
    (category : MerchantCategory) (referralId : Option Address) : Contract Unit := do
  requireNotPaused
  requireAuth merchantAddress
  requireNonEmptyString name
  validateMerchantCategory category
  let merchant ← read (·.getMerchant merchantAddress)
  failIf (merchant.isSome = true) .merchantAlreadyRegistered
  Tx.whenSome referralId fun referral => do
    failIf (referral = merchantAddress) .invalidReferral
    let referrer ← read (·.getMerchant referral)
    failIf (referrer.isNone = true) .invalidReferral
  let now ← timestamp
  write (·.setMerchant (newMerchant merchantAddress name description contactInfo category now))
  write (·.addToMerchantList merchantAddress)
  addActiveMerchant
  Tx.whenSome referralId fun referral => do
    let referrer ← okOr (← read (·.getMerchant referral)) .invalidReferral
    let referralCount ← addU32 referrer.referralCount 1
    write (·.setMerchant { referrer with referralCount })

def updateMerchant (merchantAddress : Address) (name description contactInfo : Text)
    (category : MerchantCategory) : Contract Unit := do
  requireAuth merchantAddress
  requireNonEmptyString name
  validateMerchantCategory category
  let merchant ← okOr (← read (·.getMerchant merchantAddress)) .merchantNotFound
  failIf (merchant.active = false) .merchantInactive
  write (·.setMerchant { merchant with name, description, contactInfo, category })

def deactivateMerchant (admin merchantAddress : Address) : Contract Unit := do
  requireNotPaused
  requireAdminRateLimited admin
  let merchant ← okOr (← read (·.getMerchant merchantAddress)) .merchantNotFound
  write (·.setMerchant { merchant with active := false })
  let stats ← read (·.getGlobalStats)
  write (·.setGlobalStats { stats with activeMerchants := stats.activeMerchants - 1 })

def reactivateMerchant (admin merchantAddress : Address) : Contract Unit := do
  requireNotPaused
  requireAdminRateLimited admin
  let merchant ← okOr (← read (·.getMerchant merchantAddress)) .merchantNotFound
  failIf (merchant.active = true) .invalidInput
  write (·.setMerchant { merchant with active := true })
  addActiveMerchant

def verifyMerchant (admin merchantAddress : Address) : Contract Unit := do
  requireAdminRateLimited admin
  let merchant ← okOr (← read (·.getMerchant merchantAddress)) .merchantNotFound
  write (·.setMerchant { merchant with verified := true })

def unverifyMerchant (admin merchantAddress : Address) : Contract Unit := do
  requireNotPaused
  requireAdminRateLimited admin
  let merchant ← okOr (← read (·.getMerchant merchantAddress)) .merchantNotFound
  write (·.setMerchant { merchant with verified := false })

/-! ## Queries -/

def getMerchant (merchantAddress : Address) : Contract Merchant := do
  okOr (← read (·.getMerchant merchantAddress)) .merchantNotFound

def isRegistered (merchantAddress : Address) : Contract Bool := do
  let merchant ← read (·.getMerchant merchantAddress)
  return merchant.isSome

def getMerchantStats (merchant : Address) : Contract MerchantStats := do
  requireAuth merchant
  read (·.getMerchantStats merchant)

/-- The addresses after the cursor, or none when the cursor is not listed. -/
def afterCursor (cursor : Address) : List Address → List Address
  | [] => []
  | address :: rest => if address = cursor then rest else afterCursor cursor rest

def buildMerchantPage (world : World) (addresses : List Address) (cursor : Option Address)
    (limit : Nat) : MerchantPage :=
  let candidates := match cursor with
    | none => addresses
    | some cursor => afterCursor cursor addresses
  let merchants := candidates.filterMap world.getMerchant
  { merchants := merchants.take limit
    nextCursor := merchants[limit]?.map Merchant.address
    total := merchants.length }

def getMerchants (admin : Address) (cursor : Option Address) (limit : Nat) :
    Contract MerchantPage := do
  requireAdminRateLimited admin
  requireValidLimit limit
  read fun world => buildMerchantPage world world.getMerchantList cursor limit

end Contract

end LumenFlow

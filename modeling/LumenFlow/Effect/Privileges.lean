import LumenFlow.Effect.Frame
import LumenFlow.Effect.Standing

/-!
# Calls that need the admin

Most of the calls of the admin check its address and its authorisation before anything else.
What the other calls may write keeps the settings, the verification marks and the standing of
the merchants.
-/

namespace LumenFlow

open Kit Contract

/-- The admin of the world has authorised the call. -/
def World.ByAdmin (world : World) (env : Env) : Prop :=
  ∃ admin, world.gov.admin = some admin ∧ env.Authorised admin

/-- The transaction fails unless the admin has authorised it. -/
class Privileged {Result : Type} (tx : Contract Result) : Prop where
  byAdmin : ∀ {env world result next}, tx.Commits env world result next → world.ByAdmin env

section Guards

variable {Result : Type}

instance (admin : Address) : Privileged (requireAdminRateLimited admin) where
  byAdmin committed :=
    have guard := (commits_requireAdminRateLimited.mp committed).1
    ⟨admin, guard.2.2, guard.2.1⟩

instance (admin : Address) : Privileged (requireAdmin admin) where
  byAdmin committed :=
    have guard := (commits_requireAdmin.mp committed).1
    ⟨admin, guard.2, guard.1⟩

instance (first : Contract Unit) (rest : Unit → Contract Result) [guard : Privileged first] :
    Privileged (first >>= rest) where
  byAdmin committed := by
    obtain ⟨_, _, checked, _⟩ := Tx.commits_bind.mp committed
    exact guard.byAdmin checked

instance (rest : Unit → Contract Result) [guard : Privileged (rest ())] :
    Privileged (requireNotPaused >>= rest) where
  byAdmin committed := by
    obtain ⟨_, _, unpaused, later⟩ := Tx.commits_bind.mp committed
    obtain ⟨_, rfl⟩ := commits_requireNotPaused.mp unpaused
    exact guard.byAdmin later

end Guards

/-- Only the admin can make the call. -/
def Call.NeedsAdmin : Call → Prop
  | .admin (.setAdmin _) | .admin (.approveEarlyUnpause _) | .admin .getContractVersion
  | .admin .checkUpgradeCompatibility => False
  | .admin _ => True
  | .merchant (.deactivateMerchant ..) | .merchant (.reactivateMerchant ..)
  | .merchant (.verifyMerchant ..) | .merchant (.unverifyMerchant ..)
  | .merchant (.getMerchants ..) => True
  | .payment (.archivePaymentRecord ..) | .payment (.cleanupExpiredPayments ..)
  | .payment (.getGlobalPaymentStats ..) => True
  | .refund (.resolveDispute ..) | .refund (.markDisputeUnderReview ..)
  | .refund (.escalateDispute ..) | .refund (.cleanupExpiredRefunds _) => True
  | .multisig (.cancelExpiredPaymentRequests _) => True
  | .subscription (.createSubscriptionPlan ..) => True
  | _ => False

variable {env : Env} {world next : World}

theorem AdminCall.byAdmin {call : AdminCall} (committed : call.exec.Commits env world () next)
    (needed : (Call.admin call).NeedsAdmin) : world.ByAdmin env := by
  have guarded (tx : Privileged call.exec) : world.ByAdmin env := tx.byAdmin committed
  cases call with
  | setAdmin | approveEarlyUnpause | getContractVersion | checkUpgradeCompatibility =>
      exact needed.elim
  | _ =>
      refine guarded ?_
      simp only [AdminCall.exec, Tx.discard_bind, Contract.transferAdmin,
        Contract.resetAuthLockout, Contract.setPaymentCleanupPeriod, Contract.setPlatformFee,
        Contract.setPlatformFeeLogged, Contract.setLargePaymentThreshold,
        Contract.setMultisigExpiryDuration, Contract.setMultisigExpiryDurationLogged,
        Contract.setMaxSigners, Contract.setRefundWindow, Contract.setRefundWindowLogged,
        Contract.setMinRefundAmount, Contract.setMinRefundAmountLogged,
        Contract.setSignatureExpiryWindow, Contract.setRateLimit, Contract.setPaymentRateLimit,
        Contract.setPaymentRateWindow, Contract.setRefundRetentionPeriod, Contract.pauseContract,
        Contract.unpauseContract, Contract.pauseWithReason, Contract.setPauseGuardians,
        Contract.addAllowedToken, Contract.addAllowedTokenUnaudited, Contract.removeAllowedToken,
        Contract.removeAllowedTokenUnaudited, Contract.addAllowedIssuer,
        Contract.removeAllowedIssuer, Contract.setContractVersion, Contract.migrateStorageKeys,
        Contract.assertVersionMatches, Contract.upgrade, Contract.migrate,
        Contract.getAdminAuditLog]
      infer_instance

theorem Call.byAdmin {call : Call} (committed : call.exec.Commits env world () next)
    (needed : call.NeedsAdmin) : world.ByAdmin env := by
  have guarded (tx : Privileged call.exec) : world.ByAdmin env := tx.byAdmin committed
  cases call with
  | admin call => exact AdminCall.byAdmin committed needed
  | merchant call =>
      cases call with
      | deactivateMerchant | reactivateMerchant | verifyMerchant | unverifyMerchant
      | getMerchants =>
          refine guarded ?_
          simp only [Call.exec, MerchantCall.exec, Tx.discard_bind, Contract.deactivateMerchant,
            Contract.reactivateMerchant, Contract.verifyMerchant, Contract.unverifyMerchant,
            Contract.getMerchants]
          infer_instance
      | _ => exact needed.elim
  | payment call =>
      cases call with
      | archivePaymentRecord | cleanupExpiredPayments | getGlobalPaymentStats =>
          refine guarded ?_
          simp only [Call.exec, PaymentCall.exec, Tx.discard_bind, Contract.archivePaymentRecord,
            Contract.cleanupExpiredPayments, Contract.getGlobalPaymentStats]
          infer_instance
      | _ => exact needed.elim
  | refund call =>
      cases call with
      | resolveDispute | markDisputeUnderReview | escalateDispute | cleanupExpiredRefunds =>
          refine guarded ?_
          simp only [Call.exec, RefundCall.exec, Tx.discard_bind, Contract.resolveDispute,
            Contract.markDisputeUnderReview, Contract.escalateDispute,
            Contract.cleanupExpiredRefunds]
          infer_instance
      | _ => exact needed.elim
  | multisig call =>
      cases call with
      | cancelExpiredPaymentRequests =>
          refine guarded ?_
          simp only [Call.exec, MultisigCall.exec, Tx.discard_bind,
            Contract.cancelExpiredPaymentRequests]
          infer_instance
      | _ => exact needed.elim
  | subscription call =>
      cases call with
      | createSubscriptionPlan =>
          refine guarded ?_
          simp only [Call.exec, SubscriptionCall.exec, Contract.createSubscriptionPlan]
          infer_instance
      | _ => exact needed.elim
  | escrow => exact needed.elim

section Marks

/-- A merchant has the address, and it is verified. -/
def World.verified (address : Address) (world : World) : Bool :=
  (world.merchants.records.get address).any Merchant.verified

variable {address : Address}

theorem verified_of_same (same : next.merchants.records = world.merchants.records) :
    next.verified address = world.verified address := by
  unfold World.verified
  rw [same]

theorem verified_rewrite (profile : Merchant)
    (marked : profile.verified = world.verified profile.address) :
    (world.setMerchant profile).verified address = world.verified address := by
  change ((world.merchants.records.put profile).get address).any Merchant.verified = _
  rw [Table.get_put]
  split
  · next here =>
      rw [here, ← marked]
      rfl
  · rfl

theorem verified_rewrite_found {named : Address} {merchant : Merchant} (changed : Merchant)
    (found : world.getMerchant named = some merchant) (same : changed.address = merchant.address)
    (marked : changed.verified = merchant.verified) :
    (world.setMerchant changed).verified address = world.verified address := by
  refine verified_rewrite changed ?_
  have stored : world.merchants.records.get changed.address = some merchant := by
    rw [same, Table.key_of_get found]
    exact found
  rw [World.verified, stored, marked]
  rfl

theorem MerchantCall.verified_kept {call : MerchantCall}
    (committed : call.exec.Commits env world () next)
    (unneeded : ¬ (Call.merchant call).NeedsAdmin) :
    next.verified address = world.verified address := by
  have quiet (other : .profiles ∉ call.parts) :
      next.verified address = world.verified address :=
    verified_of_same (call.writes.frame committed .profiles other)
  -- a registration writes where no profile is stored
  have opened (profile : Merchant) (free : world.getMerchant profile.address = none)
      (unmarked : profile.verified = false) :
      (world.setMerchant profile).verified address = world.verified address := by
    refine verified_rewrite profile ?_
    rw [World.verified, show world.merchants.records.get profile.address = none from free]
    exact unmarked
  cases call with
  | revealMerchantRegistration named name description contactInfo category =>
      simp [MerchantCall.exec, Contract.revealMerchantRegistration, addActiveMerchant]
        at committed
      obtain ⟨_, _, _, _, free, _, _, _, _, _, rfl⟩ := committed
      exact opened (newMerchant named name description contactInfo category world.timestamp) free
        rfl
  | registerMerchant named name description contactInfo category referralId =>
      cases referralId with
      | none =>
          simp [MerchantCall.exec, Contract.registerMerchant, addActiveMerchant] at committed
          obtain ⟨_, _, _, _, free, _, rfl⟩ := committed
          exact opened (newMerchant named name description contactInfo category world.timestamp)
            free rfl
      | some referral =>
          simp [MerchantCall.exec, Contract.registerMerchant, addActiveMerchant] at committed
          obtain ⟨_, _, _, _, free, _, _, referrer, found, _, rfl⟩ := committed
          let counted := { referrer with referralCount := referrer.referralCount + 1 }
          let opening := newMerchant named name description contactInfo category world.timestamp
          calc ((world.setMerchant opening).setMerchant counted).verified address
              = (world.setMerchant opening).verified address :=
                verified_rewrite_found counted found rfl rfl
            _ = world.verified address := opened opening free rfl
  | updateMerchant =>
      simp [MerchantCall.exec, Contract.updateMerchant] at committed
      obtain ⟨_, _, _, profile, found, _, rfl⟩ := committed
      exact verified_rewrite_found _ found rfl rfl
  | deactivateMerchant | reactivateMerchant | verifyMerchant | unverifyMerchant =>
      exact absurd trivial unneeded
  | _ => exact quiet (by simp [MerchantCall.parts])

/-- The profile, whatever it has received. -/
def Merchant.uncredited (merchant : Merchant) : Merchant := { merchant with totalReceived := 0 }

def World.uncredited (address : Address) (world : World) : Option Merchant :=
  (world.merchants.records.get address).map Merchant.uncredited

theorem uncredited_of_same (same : next.merchants.records = world.merchants.records) :
    next.uncredited address = world.uncredited address := by
  unfold World.uncredited
  rw [same]

theorem uncredited_credit {named : Address} {merchant : Merchant} (totalReceived : Int)
    (found : world.getMerchant named = some merchant) :
    (world.setMerchant { merchant with totalReceived }).uncredited address =
      world.uncredited address := by
  let credited : Merchant := { merchant with totalReceived }
  have same : credited.address = merchant.address := rfl
  have kept : credited.uncredited = merchant.uncredited := rfl
  exact Table.map_get_rewrite credited found same kept address

theorem singlePayment_uncredited {merchantAddress payer token : Address} {orderId : Text}
    {order : PaymentOrder} {merchant : Merchant} {amount counted fee totalReceived : Int}
    {start paid stored counting : World}
    (found : world.getMerchant merchantAddress = some merchant)
    (unchanged : start.merchants.records = world.merchants.records)
    (transferred : (transferWithFee payer orderId merchantAddress token amount).Commits env start
      fee paid)
    (recorded : (recordPayment order).Commits env paid () stored)
    (merchantCounted : (countMerchantPayment merchantAddress counted).Commits env
      (stored.setMerchant { merchant with totalReceived }) () counting)
    (globallyCounted : (countGlobalPayment counted).Commits env counting () next) :
    next.uncredited address = world.uncredited address := by
  have kept : stored.merchants.records = world.merchants.records :=
    calc stored.merchants.records
        = paid.merchants.records :=
          same_part [.orders, .merchantIds, .payerIds] recorded .profiles (by simp)
      _ = start.merchants.records := same_part [.tokens] transferred .profiles (by simp)
      _ = world.merchants.records := unchanged
  have here : stored.getMerchant merchantAddress = some merchant := by
    change stored.merchants.records.get merchantAddress = _
    rw [kept]
    exact found
  calc next.uncredited address
      = counting.uncredited address := uncredited_of_same
          (same_part [.totals, .activeMerchants] globallyCounted .profiles (by simp))
    _ = (stored.setMerchant { merchant with totalReceived }).uncredited address :=
        uncredited_of_same (same_part [.merchantStats] merchantCounted .profiles (by simp))
    _ = stored.uncredited address := uncredited_credit totalReceived here
    _ = world.uncredited address := uncredited_of_same kept

/-- The profiles differ at most in what they have received. -/
def SameProfiles (before after : World) : Prop :=
  ∀ address, after.uncredited address = before.uncredited address

instance : IsPreorder World SameProfiles where
  refl _ _ := rfl
  trans _ _ _ first second address := (second address).trans (first address)

theorem storeBatchItem_profiles (payer : Address) (now : Nat) (stats : GlobalStats)
    (item : BatchPaymentItem) : Tx.Respects SameProfiles (storeBatchItem payer now stats item) := by
  intro env world result next committed address
  simp [storeBatchItem] at committed
  obtain ⟨stored, recorded, writing, written, counting, merchantCounted, counted⟩ := committed
  have credited : writing.uncredited address = stored.uncredited address := by
    rcases written with ⟨merchant, found, _, rfl⟩ | ⟨_, rfl⟩
    · exact uncredited_credit _ found
    · rfl
  calc next.uncredited address
      = counting.uncredited address :=
        uncredited_of_same (same_part [] counted .profiles (by simp))
    _ = writing.uncredited address :=
        uncredited_of_same (same_part [.merchantStats] merchantCounted .profiles (by simp))
    _ = stored.uncredited address := credited
    _ = world.uncredited address := uncredited_of_same
        (same_part [.orders, .merchantIds, .payerIds] recorded .profiles (by simp))

theorem batchPayment_uncredited {payer : Address} {payments : List BatchPaymentItem}
    (committed : (batchPayment payer payments).Commits env world () next) :
    next.uncredited address = world.uncredited address := by
  simp [batchPayment] at committed
  obtain ⟨_, _, _, _, validating, validated, _, grouping, grouped, paying, paid, totals,
    ⟨storing, stored, rfl⟩⟩ := committed
  have profiles := Tx.respects_fold
    (fun stats item (_ : item ∈ payments) =>
      storeBatchItem_profiles payer paying.timestamp stats item)
    paying.stats.global env paying totals storing stored
  calc storing.uncredited address
      = paying.uncredited address := profiles address
    _ = grouping.uncredited address :=
        uncredited_of_same (same_part [.tokens] paid .profiles (by simp))
    _ = validating.uncredited address :=
        uncredited_of_same (same_part [] grouped .profiles (by simp))
    _ = world.uncredited address :=
        uncredited_of_same (same_part [.rateCounters] validated .profiles (by simp))

/-- Payments change nothing of the profiles but what they have received. -/
theorem PaymentCall.uncredited_kept {call : PaymentCall}
    (committed : call.exec.Commits env world () next) :
    next.uncredited address = world.uncredited address := by
  have quiet (other : .profiles ∉ call.parts) :
      next.uncredited address = world.uncredited address :=
    uncredited_of_same (call.writes.frame committed .profiles other)
  cases call with
  | processPaymentWithSignature =>
      simp [PaymentCall.exec, Contract.processPaymentWithSignature, requireTokenAllowed, openOrder]
        at committed
      obtain ⟨_, _, _, _, _, _, _, merchant, ⟨_, found, _⟩, _, _, _, _, limiting, limited, fee,
        paying, transferred, _, storing, recorded, _, counting, merchantCounted, counted⟩ :=
        committed
      exact singlePayment_uncredited found (same_part [.rateCounters] limited .profiles (by simp))
        transferred recorded merchantCounted counted
  | processPaymentWithNonce payer =>
      simp [PaymentCall.exec, Contract.processPaymentWithNonce, requireTokenAllowed, openOrder]
        at committed
      obtain ⟨_, _, _, _, _, _, _, _, merchant, ⟨_, found, _⟩, fee, paying, transferred, storing,
        recorded, _, counting, merchantCounted, counted⟩ := committed
      have unchanged : (world.incrementNonce payer).merchants.records = world.merchants.records :=
        rfl
      exact singlePayment_uncredited found unchanged transferred recorded merchantCounted counted
  | batchPayment => exact batchPayment_uncredited committed
  | _ => exact quiet (by simp [PaymentCall.parts])

theorem World.verified_of_uncredited (same : next.uncredited address = world.uncredited address) :
    next.verified address = world.verified address := by
  have marks (world : World) :
      world.verified address = (world.uncredited address).any Merchant.verified := by
    unfold World.verified World.uncredited
    cases world.merchants.records.get address <;> rfl
  rw [marks, marks, same]

/-- A call that does not need the admin leaves the marks alone. -/
theorem Call.verified_kept {call : Call} (committed : call.exec.Commits env world () next)
    (unneeded : ¬ call.NeedsAdmin) : next.verified address = world.verified address := by
  have quiet (other : .profiles ∉ call.parts) :
      next.verified address = world.verified address :=
    verified_of_same (call.writes.frame committed .profiles other)
  cases call with
  | admin call => exact quiet (by cases call <;> simp [Call.parts, AdminCall.parts])
  | merchant call => exact MerchantCall.verified_kept committed unneeded
  | payment call => exact World.verified_of_uncredited (PaymentCall.uncredited_kept committed)
  | refund call => exact quiet (by cases call <;> simp [Call.parts, RefundCall.parts])
  | multisig call => exact quiet (by cases call <;> simp [Call.parts, MultisigCall.parts])
  | subscription call => exact quiet (by cases call <;> simp [Call.parts, SubscriptionCall.parts])
  | escrow call => exact quiet (by cases call <;> simp [Call.parts, EscrowCall.parts])

end Marks

end LumenFlow

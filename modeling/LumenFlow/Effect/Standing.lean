import LumenFlow.Effect.Accepted

/-!
# Active merchants and allowed tokens

The accepted registrations, deactivations and reactivations of a merchant decide whether
it is active, the accepted changes of the allow list whether a token is allowed.
-/

namespace LumenFlow

open Kit Contract

section Entries

/-- Whether the merchant is active after the call, if the call decides it. -/
def Call.standings (merchant : Address) (_world : World) (_auth : List Address) :
    Call → List Bool
  | .merchant (.revealMerchantRegistration named ..) => if named = merchant then [true] else []
  | .merchant (.registerMerchant named ..) => if named = merchant then [true] else []
  | .merchant (.deactivateMerchant _ named) => if named = merchant then [false] else []
  | .merchant (.reactivateMerchant _ named) => if named = merchant then [true] else []
  | _ => []

/-- Whether the token is allowed after the call, if the call decides it. -/
def Call.listings (token : Address) (_world : World) (_auth : List Address) : Call → List Bool
  | .admin (.addAllowedToken _ named _) => if named = token then [true] else []
  | .admin (.addAllowedTokenUnaudited _ named) => if named = token then [true] else []
  | .admin (.removeAllowedToken _ named) => if named = token then [false] else []
  | .admin (.removeAllowedTokenUnaudited _ named) => if named = token then [false] else []
  | _ => []

def World.standing (merchant : Address) (world : World) : Option Bool :=
  LumenFlow.standing world.merchants.records merchant

end Entries

section Standing

variable {env : Env} {world next : World} {merchant : Address}

theorem standing_rewrite {merchants : Table Merchant.address} {old : Merchant}
    {address : Address} (profile : Merchant) (found : merchants.get address = some old)
    (same : profile.address = old.address) (active : profile.active = old.active) :
    standing (merchants.put profile) merchant = standing merchants merchant :=
  Table.map_get_rewrite profile found same active merchant

theorem standing_written (merchants : Table Merchant.address) (profile : Merchant)
    (merchant : Address) {named : Address} (address : profile.address = named) :
    standing (merchants.put profile) merchant =
      ((if named = merchant then [profile.active] else []).getLast?.map some).getD
        (standing merchants merchant) := by
  rw [standing_put, address]
  by_cases same : named = merchant
  · simp [same]
  · simp [same, Ne.symm same]

theorem World.standing_of_books (same : next.books.merchants = world.books.merchants) :
    next.standing merchant = world.standing merchant := by
  change LumenFlow.standing next.books.merchants merchant = _
  rw [same]
  rfl

theorem MerchantCall.standing_spec {call : MerchantCall} {auth : List Address}
    (committed : call.exec.Commits env world () next) :
    next.standing merchant =
      (((Call.merchant call).standings merchant world auth).getLast?.map some).getD
        (world.standing merchant) := by
  cases call with
  | revealMerchantRegistration named name description contactInfo category =>
      simp [MerchantCall.exec, Contract.revealMerchantRegistration, addActiveMerchant]
        at committed
      obtain ⟨_, _, _, _, _, _, _, _, _, _, rfl⟩ := committed
      exact standing_written _
        (newMerchant named name description contactInfo category world.timestamp) merchant rfl
  | registerMerchant named name description contactInfo category referralId =>
      have opened := standing_written world.merchants.records
        (newMerchant named name description contactInfo category world.timestamp) merchant rfl
      cases referralId with
      | none =>
          simp [MerchantCall.exec, Contract.registerMerchant, addActiveMerchant] at committed
          obtain ⟨_, _, _, _, _, _, rfl⟩ := committed
          exact opened
      | some referral =>
          simp [MerchantCall.exec, Contract.registerMerchant, addActiveMerchant] at committed
          obtain ⟨_, _, _, _, _, _, _, referrer, found, _, rfl⟩ := committed
          let counted := { referrer with referralCount := referrer.referralCount + 1 }
          exact (standing_rewrite counted found rfl rfl).trans opened
  | deactivateMerchant admin named =>
      simp [MerchantCall.exec, Contract.deactivateMerchant] at committed
      obtain ⟨_, _, profile, found, rfl⟩ := committed
      have address : profile.address = named := Table.key_of_get found
      exact standing_written _ { profile with active := false } merchant address
  | reactivateMerchant admin named =>
      simp [MerchantCall.exec, Contract.reactivateMerchant, addActiveMerchant] at committed
      obtain ⟨_, _, profile, found, _, _, rfl⟩ := committed
      have address : profile.address = named := Table.key_of_get found
      exact standing_written _ { profile with active := true } merchant address
  | updateMerchant =>
      simp [MerchantCall.exec, Contract.updateMerchant] at committed
      obtain ⟨_, _, _, profile, found, _, rfl⟩ := committed
      exact standing_rewrite _ found rfl rfl
  | verifyMerchant =>
      simp [MerchantCall.exec, Contract.verifyMerchant] at committed
      obtain ⟨_, profile, found, rfl⟩ := committed
      exact standing_rewrite _ found rfl rfl
  | unverifyMerchant =>
      simp [MerchantCall.exec, Contract.unverifyMerchant] at committed
      obtain ⟨_, _, profile, found, rfl⟩ := committed
      exact standing_rewrite _ found rfl rfl
  | commitMerchantRegistration =>
      simp [MerchantCall.exec, Contract.commitMerchantRegistration] at committed
      obtain ⟨_, _, _, _, rfl⟩ := committed
      rfl
  | _ =>
      simp only [MerchantCall.exec, Tx.discard_bind, Contract.getMerchant, Contract.isRegistered,
        Contract.getMerchantStats, Contract.getMerchants] at committed
      exact World.standing_of_books (congrArg Books.merchants (quiet_books committed))

theorem SinglePaid.standing_kept {order : PaymentOrder} (paid : SinglePaid env world next order) :
    next.standing merchant = world.standing merchant := by
  obtain ⟨transfers, profile, address, active, _, books⟩ := paid.books
  have known : standing world.books.merchants profile.address = some profile.active := by
    rw [address, active]
    exact paid.welcome.active
  change standing next.books.merchants merchant = _
  rw [books]
  exact standing_putAll (List.forall_mem_singleton.mpr known) merchant

theorem PaymentCall.standing_kept {call : PaymentCall}
    (committed : call.exec.Commits env world () next) :
    next.standing merchant = world.standing merchant := by
  cases call with
  | processPaymentWithSignature =>
      obtain ⟨order, _, paid⟩ := processPaymentWithSignature_paid committed
      exact paid.standing_kept
  | processPaymentWithNonce =>
      obtain ⟨order, _, paid⟩ := processPaymentWithNonce_paid committed
      exact paid.standing_kept
  | batchPayment =>
      obtain ⟨transfers, profiles, known, _, books⟩ := (batchPayment_paid committed).books
      change standing next.books.merchants merchant = _
      rw [books]
      exact standing_putAll known merchant
  | updatePaymentStatus =>
      obtain ⟨_, _, _, _, books⟩ := updatePaymentStatus_books committed
      have same : next.books.merchants = world.books.merchants := by rw [books]
      exact World.standing_of_books same
  | archivePaymentRecord =>
      simp [PaymentCall.exec, Contract.archivePaymentRecord] at committed
      obtain ⟨_, _, _, rfl⟩ := committed
      rfl
  | cleanupExpiredPayments =>
      obtain ⟨_, cleaned⟩ := Tx.commits_discard.mp committed
      obtain ⟨_, _, _, _, books⟩ := cleanupExpiredPayments_pruned cleaned
      have same : next.books.merchants = world.books.merchants := by rw [books]
      exact World.standing_of_books same
  | _ =>
      simp only [PaymentCall.exec, Tx.discard_bind, Contract.getPaymentById,
        Contract.getPaymentSummary, Contract.getMerchantPaymentHistory,
        Contract.getPayerPaymentHistory, Contract.getGlobalPaymentStats,
        Contract.getAccountPaymentCount, Contract.getPayerNonce, Contract.getMerchantNonce,
        requireParty] at committed
      exact World.standing_of_books (congrArg Books.merchants (quiet_books committed))

theorem Effect.merchants_same {books after : Books} {call : Call}
    (effect : Effect env books call after) (merchants : ∀ inner, call ≠ .merchant inner)
    (payments : ∀ inner, call ≠ .payment inner) : after.merchants = books.merchants := by
  cases effect with
  | profiles call => exact absurd rfl (merchants call)
  | paid call => exact absurd rfl (payments call)
  | _ => rfl

theorem Call.standings_of_ne {call : Call} (merchants : ∀ inner, call ≠ .merchant inner)
    (auth : List Address) : call.standings merchant world auth = [] := by
  cases call with
  | merchant inner => exact absurd rfl (merchants inner)
  | _ => rfl

/-- A call decides whether a merchant is active, or leaves that as it was. -/
theorem Call.standing_spec (merchant : Address) {call : Call} (auth : List Address)
    (committed : call.exec.Commits env world () next) :
    next.standing merchant =
      ((call.standings merchant world auth).getLast?.map some).getD (world.standing merchant) := by
  have silent (merchants : ∀ inner, call ≠ .merchant inner)
      (same : next.standing merchant = world.standing merchant) :
      next.standing merchant =
        ((call.standings merchant world auth).getLast?.map some).getD
          (world.standing merchant) := by
    rw [call.standings_of_ne merchants]
    exact same
  have apart (merchants : ∀ inner, call ≠ .merchant inner)
      (payments : ∀ inner, call ≠ .payment inner) :=
    silent merchants
      (World.standing_of_books ((Call.effect committed).merchants_same merchants payments))
  cases call with
  | merchant => exact MerchantCall.standing_spec committed
  | payment => exact silent (by simp) (PaymentCall.standing_kept committed)
  | _ => exact apart (by simp) (by simp)

end Standing

section Listing

variable {env : Env} {world next : World} {token : Address}

/-- Whether the token is allowed. -/
def World.listed (token : Address) (world : World) : Bool := world.config.allowedTokens token

instance (token : Address) : Narrow (World.listed token) :=
  ⟨fun same => congrFun (congrArg Inner.allowedTokens same) token⟩

instance (token payer : Address) : IgnoresNonce (World.listed token) payer := ⟨fun _ => rfl⟩

instance (token merchant : Address) : IgnoresMerchantNonce (World.listed token) merchant :=
  ⟨fun _ => rfl⟩

instance (token : Address) : IgnoresMultisigs (World.listed token) := ⟨fun _ _ => rfl⟩

instance (token : Address) : IgnoresSubscriptions (World.listed token) :=
  ⟨fun _ _ => rfl, fun _ _ _ _ _ => rfl, fun _ _ _ _ _ _ => rfl⟩

instance (token : Address) : IgnoresTransfers (World.listed token) := ⟨fun _ _ _ => rfl⟩

theorem ignoresListing_of_ne {other : Address} (different : other ≠ token) :
    IgnoresListing (World.listed token) other :=
  ⟨fun _ _ => Function.update_of_ne different.symm _ _⟩

theorem Call.keeps_listed {call : Call}
    (other : ∀ admin, call = .admin admin → admin.listedToken ≠ some token) :
    Tx.Keeps (World.listed token) call.exec := by
  refine call.keeps ?_
  cases call with
  | admin call =>
      intro listed named
      refine ignoresListing_of_ne fun same => other call rfl ?_
      rw [← same]
      exact named
  | payment => exact ⟨fun _ _ => inferInstance, fun _ _ => inferInstance⟩
  | multisig => exact inferInstanceAs (IgnoresMultisigs _)
  | subscription => exact inferInstanceAs (IgnoresSubscriptions _)
  | _ => trivial

theorem listed_written (world : World) (named : Address) (allowed : Bool) :
    (world.setTokenAllowed named allowed).listed token =
      ((if named = token then [allowed] else []).getLast?.map id).getD (world.listed token) := by
  by_cases same : named = token
  · simp [World.listed, same]
  · simp [World.listed, same, Function.update_of_ne (Ne.symm same)]

theorem Call.listing_spec (token : Address) {call : Call} (auth : List Address)
    (committed : call.exec.Commits env world () next) :
    next.listed token =
      ((call.listings token world auth).getLast?.map id).getD (world.listed token) := by
  have kept (silent : call.listings token world auth = [])
      (other : ∀ admin, call = .admin admin → admin.listedToken ≠ some token) :
      next.listed token =
        ((call.listings token world auth).getLast?.map id).getD (world.listed token) := by
    rw [silent]
    exact (Call.keeps_listed other).kept committed
  cases call with
  | admin call =>
      cases call with
      | addAllowedToken admin named issuer =>
          simp [Call.exec, AdminCall.exec, Contract.addAllowedToken] at committed
          obtain ⟨_, checked, issued, audited⟩ := committed
          obtain rfl : checked = world := by
            rcases issued with ⟨_, _, _, same⟩ | ⟨_, same⟩
            · exact same
            · exact same
          exact (Tx.view_same (World.listed token) audited).trans (listed_written _ named true)
      | addAllowedTokenUnaudited admin named =>
          simp [Call.exec, AdminCall.exec, Contract.addAllowedTokenUnaudited] at committed
          obtain ⟨_, rfl⟩ := committed
          exact listed_written world named true
      | removeAllowedToken admin named =>
          simp [Call.exec, AdminCall.exec, Contract.removeAllowedToken] at committed
          obtain ⟨_, audited⟩ := committed
          exact (Tx.view_same (World.listed token) audited).trans (listed_written world named false)
      | removeAllowedTokenUnaudited admin named =>
          simp [Call.exec, AdminCall.exec, Contract.removeAllowedTokenUnaudited] at committed
          obtain ⟨_, rfl⟩ := committed
          exact listed_written world named false
      | _ => exact kept rfl (by simp [AdminCall.listedToken])
  | _ => exact kept rfl (by simp)

end Listing

end LumenFlow

import LumenFlow.Effect.Standing
import LumenFlow.Safety.Orders
import LumenFlow.Safety.Origins
import LumenFlow.Safety.Requests
import LumenFlow.Safety.Subscriptions

/-!
# Who is paid

The payments of a caller and the charges of a subscription look at the merchant and the
token when they pay.  The payment of a stored multisig payment or request does not, so
there everything rests on what the run did to the merchant and the token before.
-/

namespace LumenFlow

open Kit Contract

/-- A merchant who is paid, and the token of the payment. -/
structure Payee where
  merchant : Address
  token : Address
  deriving DecidableEq

def PaymentTerms.payee (terms : PaymentTerms) : Payee := ⟨terms.merchantAddress, terms.token⟩

/-- The merchants whom a call pays or charges for. -/
def Call.payees (world : World) : Call → List Payee
  | .subscription (.chargeSubscription _ subscriptionId) =>
      match world.subscriptions.records.get subscriptionId with
      | none => []
      | some record =>
          ((world.subscriptions.plans.get record.planId).map fun plan =>
            ⟨record.merchant, plan.token⟩).toList
  | call => (call.terms world.books).map PaymentTerms.payee

/-- The payee of what was stored before and passes the checks of the call that pays it. -/
inductive Call.PaysStored (env : Env) (world : World) : Call → Payee → Prop where
  | multisig (payer : Address) (multisig : MultisigPayment)
      (stored : world.multisigs.get multisig.paymentId = some multisig)
      (payable : multisig.Payable env world payer) :
      PaysStored env world (.multisig (.executeMultisigPayment payer multisig.paymentId))
        ⟨multisig.merchantAddress, multisig.token⟩
  | request (payer : Address) (request : PaymentRequest)
      (stored : world.requests.records.get request.requestId = some request)
      (payable : request.Fulfillable env world payer) :
      PaysStored env world (.multisig (.payPaymentRequest payer request.requestId))
        ⟨request.merchant, request.token⟩

/-- Every merchant paid is active and every token paid in is allowed. -/
def PaysWelcome (world : World) (call : Call) : Prop :=
  ∀ payee ∈ call.payees world, world.Welcomes payee.merchant payee.token

instance (world : World) (merchant token : Address) :
    Decidable (world.Welcomes merchant token) :=
  decidable_of_iff
    (standing world.merchants.records merchant = some true ∧
      world.config.allowedTokens token = true)
    ⟨fun ⟨active, allowed⟩ => ⟨active, allowed⟩, fun ⟨active, allowed⟩ => ⟨active, allowed⟩⟩

instance (world : World) (call : Call) : Decidable (PaysWelcome world call) :=
  inferInstanceAs (Decidable (∀ _ ∈ _, _))

section Checked

variable {env : Env} {world next : World}

theorem PaymentCall.paysWelcome {call : PaymentCall}
    (committed : call.exec.Commits env world () next) : PaysWelcome world (.payment call) := by
  intro payee paid
  obtain ⟨terms, listed, rfl⟩ := List.mem_map.mp paid
  cases call with
  | processPaymentWithSignature =>
      obtain ⟨order, same, single⟩ := processPaymentWithSignature_paid committed
      obtain rfl := List.mem_singleton.mp listed
      rw [← same]
      exact single.welcome
  | processPaymentWithNonce =>
      obtain ⟨order, same, single⟩ := processPaymentWithNonce_paid committed
      obtain rfl := List.mem_singleton.mp listed
      rw [← same]
      exact single.welcome
  | batchPayment payer payments =>
      obtain ⟨item, membership, rfl⟩ := List.mem_map.mp listed
      exact (batchPayment_paid committed).welcome item membership
  | _ => cases listed

theorem chargeSubscription_paysWelcome {merchant : Address} {subscriptionId : Text}
    (committed : (chargeSubscription merchant subscriptionId).Commits env world () next) :
    PaysWelcome world (.subscription (.chargeSubscription merchant subscriptionId)) := by
  obtain ⟨subscription, plan, stored, checks, _⟩ := chargeSubscription_billing committed
  obtain ⟨profile, found, active⟩ := checks.active
  intro payee paid
  have only : payee = ⟨subscription.merchant, plan.token⟩ := by
    simpa [Call.payees, stored, checks.planned] using paid
  subst only
  refine ⟨?_, checks.allowed⟩
  rw [standing, found, ← active]
  rfl

theorem payees_executeMultisigPayment (payer : Address) {multisig : MultisigPayment}
    (stored : world.multisigs.get multisig.paymentId = some multisig) :
    (Call.multisig (.executeMultisigPayment payer multisig.paymentId)).payees world =
      [⟨multisig.merchantAddress, multisig.token⟩] := by
  have found : world.books.multisigs.get multisig.paymentId = some multisig := stored
  simp only [Call.payees, Call.terms, found]
  rfl

theorem payees_payPaymentRequest (payer : Address) {request : PaymentRequest}
    (stored : world.requests.records.get request.requestId = some request) :
    (Call.multisig (.payPaymentRequest payer request.requestId)).payees world =
      [⟨request.merchant, request.token⟩] := by
  have found : world.books.requests.get request.requestId = some request := stored
  simp only [Call.payees, Call.terms, found]
  rfl

/-- An accepted call pays what was stored before, or has looked at whom it pays. -/
theorem pays_cases {host : Host} {auth : List Address} {permits : TokenCall → Bool} {call : Call}
    (accepted : Accepted host world auth permits call) :
    (∀ payee ∈ call.payees world, call.PaysStored (host.env auth permits) world payee) ∨
      PaysWelcome world call := by
  have committed := accepted.succeeds.executes
  cases call with
  | payment call => exact .inr (PaymentCall.paysWelcome committed)
  | subscription call =>
      cases call with
      | chargeSubscription => exact .inr (chargeSubscription_paysWelcome committed)
      | _ => exact .inr nofun
  | multisig call =>
      cases call with
      | executeMultisigPayment payer paymentId =>
          obtain ⟨multisig, stored, payable⟩ := executeMultisigPayment_succeeds_iff.mp accepted
          obtain rfl := Table.key_of_get stored
          rw [payees_executeMultisigPayment payer stored]
          exact .inl (List.forall_mem_singleton.mpr (.multisig payer multisig stored payable))
      | payPaymentRequest payer requestId =>
          obtain ⟨request, stored, payable⟩ := payPaymentRequest_succeeds_iff.mp accepted
          obtain rfl := Table.key_of_get stored
          rw [payees_payPaymentRequest payer stored]
          exact .inl (List.forall_mem_singleton.mpr (.request payer request stored payable))
      | _ => exact .inr nofun
  | _ => exact .inr nofun

theorem Call.PaysStored.pays {host : Host} {auth : List Address} {permits : TokenCall → Bool}
    {call : Call} {payee : Payee} (pays : call.PaysStored (host.env auth permits) world payee) :
    Accepted host world auth permits call ∧ payee ∈ call.payees world := by
  cases pays with
  | multisig payer multisig stored payable =>
      rw [payees_executeMultisigPayment payer stored]
      exact ⟨executeMultisigPayment_succeeds_iff.mpr ⟨multisig, stored, payable⟩,
        List.mem_singleton_self _⟩
  | request payer request stored payable =>
      rw [payees_payPaymentRequest payer stored]
      exact ⟨payPaymentRequest_succeeds_iff.mpr ⟨request, stored, payable⟩,
        List.mem_singleton_self _⟩

end Checked

section Runs

variable {host : Host} {start : World}

/-- The last accepted change of the merchant's standing made it active, the last accepted
change of the token's listing allowed it. -/
def LastWelcomed (host : Host) (start : World) (actions : List Action) (payee : Payee) : Prop :=
  (acceptedEntries host (Call.standings payee.merchant) start actions).getLast? = some true ∧
    (acceptedEntries host (Call.listings payee.token) start actions).getLast? = some true

/-- Whenever a call comes that pays what was stored before and passes its checks, the run so far
has left its merchant active and its token allowed. -/
def PaysLastWelcomed (host : Host) (start : World) (actions : List Action) : Prop :=
  ∀ before auth permits call after, actions = before ++ .invoke auth permits call :: after →
    ∀ payee, call.PaysStored (host.env auth permits) (run (step host) start before) payee →
      LastWelcomed host start before payee

theorem run_standing (deployed : Deployed host start) (actions : List Action)
    (merchant : Address) :
    (run (step host) start actions).standing merchant =
      (acceptedEntries host (Call.standings merchant) start actions).getLast? := by
  have unknown : start.standing merchant = none := by
    obtain ⟨_, _, _, _, _, rfl⟩ := deployed
    rfl
  have shown := acceptedEntries_view host (fun _ _ _ _ => rfl) (Call.standing_spec merchant)
    start actions
  rw [shown, unknown]
  cases (acceptedEntries host (Call.standings merchant) start actions).getLast? <;> rfl

theorem run_listed (deployed : Deployed host start) (actions : List Action) (token : Address) :
    (run (step host) start actions).listed token = true ↔
      (acceptedEntries host (Call.listings token) start actions).getLast? = some true := by
  have unknown : start.listed token = false := by
    obtain ⟨_, _, _, _, _, rfl⟩ := deployed
    rfl
  have shown := acceptedEntries_view host (fun _ _ _ _ => rfl) (Call.listing_spec token) start
    actions
  rw [shown, unknown]
  cases (acceptedEntries host (Call.listings token) start actions).getLast? <;> simp

theorem welcomes_iff (deployed : Deployed host start) (actions : List Action) (payee : Payee) :
    (run (step host) start actions).Welcomes payee.merchant payee.token ↔
      LastWelcomed host start actions payee := by
  rw [LastWelcomed, ← run_standing deployed, ← run_listed deployed]
  exact ⟨fun ⟨active, allowed⟩ => ⟨active, allowed⟩, fun ⟨active, allowed⟩ => ⟨active, allowed⟩⟩

/-- A run pays only active merchants and allowed tokens exactly if that holds of the stored
multisig payments and requests that come to be paid and pass the other checks, where the calls
before decide it. -/
theorem pays_welcome_iff (deployed : Deployed host start) (actions : List Action) :
    Along (step host) (AcceptsOnly host PaysWelcome) start actions ↔
      PaysLastWelcomed host start actions := by
  rw [along_iff_split]
  constructor
  · intro welcome before auth permits call after split payee pays
    obtain ⟨accepted, paid⟩ := pays.pays
    exact (welcomes_iff deployed before payee).mp (welcome before _ after split accepted payee paid)
  · intro stored before action after split
    cases action with
    | invoke auth permits call =>
        intro accepted
        rcases pays_cases accepted with pays | welcome
        · intro payee paid
          exact (welcomes_iff deployed before payee).mpr
            (stored before auth permits call after split payee (pays payee paid))
        · exact welcome
    | tokens => trivial
    | advance => trivial

end Runs

/-- A multisig payment to the shop, signed by it. -/
def Sample.collecting : List Action := [
  invokedBy shop (.multisig
    (.initiateMultisigPayment shop [1] shop coin 100 [shop] 1 none)),
  invokedBy shop (.multisig (.signMultisigPayment shop [1] []))]

/-- The shop is deactivated before the multisig payment is made. -/
def Sample.payingInactive : List Action := Sample.collecting ++ [
  invokedBy admin (.merchant (.deactivateMerchant admin shop)),
  invokedBy payer (.multisig (.executeMultisigPayment payer [1]))]

theorem inactive_merchant_paid :
    ¬ Along (step Sample.host) (AcceptsOnly Sample.host PaysWelcome) Sample.start
      (Sample.opening ++ Sample.payingInactive) := by
  decide +kernel

theorem pays_welcome_iff_sample :
    PaysLastWelcomed Sample.host Sample.start (Sample.opening ++ Sample.collecting ++
      [Sample.invokedBy Sample.payer (.multisig (.executeMultisigPayment Sample.payer [1]))]) := by
  apply (pays_welcome_iff Sample.deployed_start _).mp
  decide +kernel

end LumenFlow

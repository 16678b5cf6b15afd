import LumenFlow.Effect.Accepted

/-!
# Nonces

A merchant's nonces are used up by the payments it has signed, a payer's nonces
by the payments the payer makes with one.  The contract keeps one counter for each
and accepts the next nonce only.
-/

namespace LumenFlow

open Kit Contract

section Counters

/-- The nonce counter of a merchant. -/
def merchantCounter (merchant : Address) (world : World) : Nat := world.getMerchantNonce merchant

/-- The nonce counter of a payer. -/
def payerCounter (payer : Address) (world : World) : Nat := world.getNonce payer

instance (merchant : Address) : Narrow (merchantCounter merchant) :=
  ⟨fun same => congrFun (congrArg Inner.merchantNonces same) merchant⟩

instance (merchant payer : Address) : IgnoresNonce (merchantCounter merchant) payer :=
  ⟨fun _ => rfl⟩

instance (merchant token : Address) : IgnoresListing (merchantCounter merchant) token :=
  ⟨fun _ _ => rfl⟩

instance (merchant : Address) : IgnoresTransfers (merchantCounter merchant) :=
  ⟨fun _ _ _ => rfl⟩

instance (merchant : Address) : IgnoresMultisigs (merchantCounter merchant) :=
  ⟨fun _ _ => rfl⟩

instance (merchant : Address) : IgnoresSubscriptions (merchantCounter merchant) :=
  ⟨fun _ _ => rfl, fun _ _ _ _ _ => rfl, fun _ _ _ _ _ _ => rfl⟩

theorem ignoresMerchantNonce_of_ne {merchant other : Address} (different : other ≠ merchant) :
    IgnoresMerchantNonce (merchantCounter merchant) other :=
  ⟨fun _ => Function.update_of_ne different.symm _ _⟩

instance (payer : Address) : Narrow (payerCounter payer) :=
  ⟨fun same => congrFun (congrArg Inner.nonces same) payer⟩

instance (payer merchant : Address) : IgnoresMerchantNonce (payerCounter payer) merchant :=
  ⟨fun _ => rfl⟩

instance (payer token : Address) : IgnoresListing (payerCounter payer) token :=
  ⟨fun _ _ => rfl⟩

instance (payer : Address) : IgnoresTransfers (payerCounter payer) :=
  ⟨fun _ _ _ => rfl⟩

instance (payer : Address) : IgnoresMultisigs (payerCounter payer) :=
  ⟨fun _ _ => rfl⟩

instance (payer : Address) : IgnoresSubscriptions (payerCounter payer) :=
  ⟨fun _ _ => rfl, fun _ _ _ _ _ => rfl, fun _ _ _ _ _ _ => rfl⟩

theorem ignoresNonce_of_ne {payer other : Address} (different : other ≠ payer) :
    IgnoresNonce (payerCounter payer) other :=
  ⟨fun _ => Function.update_of_ne different.symm _ _⟩

end Counters

section Calls

variable {env : Env} {world next : World}

/-- The next value of a nonce counter. -/
def nextNonce (nonce : Nat) : Nat := saturatingAddU64 nonce 1

theorem processPaymentWithSignature_nonce {payer merchantAddress tokenAddress : Address}
    {orderId memo : Text} {amount : Int} {tags : Option (List Text)} {nonce timestamp : Nat}
    {signature merchantPublicKey : Bytes}
    (committed : (processPaymentWithSignature payer orderId merchantAddress tokenAddress amount
      memo tags nonce timestamp signature merchantPublicKey).Commits env world () next) :
    nonce = nextNonce (merchantCounter merchantAddress world) ∧
      merchantCounter merchantAddress next = nextNonce (merchantCounter merchantAddress world) := by
  simp [processPaymentWithSignature, requireTokenAllowed, openOrder] at committed
  obtain ⟨_, _, _, _, _, _, _, merchant, _, expected, _, _, _, limiting, limited, fee, paying,
    transferred, _, storing, recorded, _, counting, merchantCounted, counted⟩ := committed
  refine ⟨expected, ?_⟩
  -- after the bump nothing touches the counter any more
  calc merchantCounter merchantAddress next
      = merchantCounter merchantAddress counting := Tx.view_same _ counted
    _ = merchantCounter merchantAddress storing :=
        (Tx.view_same (merchantCounter merchantAddress) merchantCounted).trans rfl
    _ = merchantCounter merchantAddress paying := Tx.view_same _ recorded
    _ = merchantCounter merchantAddress limiting := Tx.view_same _ transferred
    _ = merchantCounter merchantAddress (world.incrementMerchantNonce merchantAddress) :=
        Tx.view_same _ limited
    _ = nextNonce (merchantCounter merchantAddress world) := Function.update_self ..

theorem processPaymentWithNonce_nonce {payer merchantAddress tokenAddress : Address}
    {orderId memo : Text} {amount : Int} {tags : Option (List Text)} {nonce : Nat}
    (committed : (processPaymentWithNonce payer orderId merchantAddress tokenAddress amount
      memo tags nonce).Commits env world () next) :
    nonce = payerCounter payer world ∧
      payerCounter payer next = nextNonce (payerCounter payer world) := by
  simp [processPaymentWithNonce, requireTokenAllowed, openOrder] at committed
  obtain ⟨_, _, _, _, _, _, expected, _, merchant, _, fee, paying, transferred, storing, recorded,
    _, counting, merchantCounted, counted⟩ := committed
  refine ⟨expected, ?_⟩
  calc payerCounter payer next
      = payerCounter payer counting := Tx.view_same _ counted
    _ = payerCounter payer storing :=
        (Tx.view_same (payerCounter payer) merchantCounted).trans rfl
    _ = payerCounter payer paying := Tx.view_same _ recorded
    _ = payerCounter payer (world.incrementNonce payer) := Tx.view_same _ transferred
    _ = nextNonce (payerCounter payer world) := Function.update_self ..

end Calls

section Steps

variable {host : Host} {world : World}

/-- The nonce of the call, if it is a signed payment to the merchant. -/
def Call.merchantNonces (merchant : Address) : Call → List Nat
  | .payment (.processPaymentWithSignature _ _ merchantAddress _ _ _ _ nonce _ _ _) =>
      if merchantAddress = merchant then [nonce] else []
  | _ => []

/-- The nonce of the call, if it is a payment with a nonce of the payer. -/
def Call.payerNonces (payer : Address) : Call → List Nat
  | .payment (.processPaymentWithNonce caller _ _ _ _ _ _ nonce) =>
      if caller = payer then [nonce] else []
  | _ => []

theorem Call.keeps_merchantCounter {merchant : Address} {call : Call}
    (other : call.merchantNonces merchant = []) :
    Tx.Keeps (merchantCounter merchant) call.exec := by
  apply call.keeps
  cases call with
  | admin => exact fun _ _ => inferInstance
  | payment call =>
      refine ⟨fun _ _ => inferInstance, fun used named => ?_⟩
      cases call <;> simp [PaymentCall.nonceMerchant] at named
      subst named
      exact ignoresMerchantNonce_of_ne (by simpa [Call.merchantNonces] using other)
  | multisig => exact inferInstanceAs (IgnoresMultisigs _)
  | subscription => exact inferInstanceAs (IgnoresSubscriptions _)
  | _ => trivial

theorem Call.keeps_payerCounter {payer : Address} {call : Call}
    (other : call.payerNonces payer = []) : Tx.Keeps (payerCounter payer) call.exec := by
  apply call.keeps
  cases call with
  | admin => exact fun _ _ => inferInstance
  | payment call =>
      refine ⟨fun used named => ?_, fun _ _ => inferInstance⟩
      cases call <;> simp [PaymentCall.noncePayer] at named
      subst named
      exact ignoresNonce_of_ne (by simpa [Call.payerNonces] using other)
  | multisig => exact inferInstanceAs (IgnoresMultisigs _)
  | subscription => exact inferInstanceAs (IgnoresSubscriptions _)
  | _ => trivial

theorem issues_nonces {counter : World → Nat} {nonces : Call → List Nat} {label : Nat → Nat}
    (outside : ∀ (world : World) bank sequence timestamp,
      counter { world with bank, sequence, timestamp } = counter world)
    (silent : ∀ call, nonces call = [] → Tx.Keeps counter call.exec)
    (used : ∀ env world call next, nonces call ≠ [] → call.exec.Commits env world () next →
      nonces call = [label (counter world)] ∧ counter next = nextNonce (counter world)) :
    Issues (step host) (noteAccepted host fun _ _ call => nonces call) counter label
      nextNonce := by
  intro world action
  rcases step_cases host world action with ⟨auth, permits, call, rfl, succeeded⟩ | ⟨quiet, same⟩
  · rw [noteAccepted_of_accepted succeeded.accepted]
    by_cases other : nonces call = []
    · exact .inl ⟨other, step_keeps (silent call other)⟩
    · exact .inr (used _ _ call _ other succeeded.executes)
  · obtain ⟨bank, sequence, timestamp, same⟩ := same
    refine .inl ⟨quiet _, ?_⟩
    rw [same]
    exact outside world bank sequence timestamp

theorem issues_merchantNonces (host : Host) (merchant : Address) :
    Issues (step host) (noteAccepted host fun _ _ call => call.merchantNonces merchant)
      (merchantCounter merchant) nextNonce nextNonce := by
  refine issues_nonces (fun _ _ _ _ => rfl) (fun _ => Call.keeps_merchantCounter) ?_
  intro env world call next uses committed
  simp only [Call.merchantNonces] at uses ⊢
  split at uses
  · next payer orderId merchantAddress _ _ _ _ nonce _ _ _ =>
      by_cases named : merchantAddress = merchant
      · subst named
        obtain ⟨expected, moved⟩ := processPaymentWithSignature_nonce committed
        exact ⟨by simp [expected], moved⟩
      · simp [named] at uses
  · simp at uses

theorem issues_payerNonces (host : Host) (payer : Address) :
    Issues (step host) (noteAccepted host fun _ _ call => call.payerNonces payer)
      (payerCounter payer) id nextNonce := by
  refine issues_nonces (fun _ _ _ _ => rfl) (fun _ => Call.keeps_payerCounter) ?_
  intro env world call next uses committed
  simp only [Call.payerNonces] at uses ⊢
  split at uses
  · next caller _ _ _ _ _ _ nonce =>
      by_cases named : caller = payer
      · subst named
        obtain ⟨expected, moved⟩ := processPaymentWithNonce_nonce committed
        exact ⟨by simp [expected], moved⟩
      · simp [named] at uses
  · simp at uses

end Steps

section Runs

variable {host : Host} {start : World}

/-- The nonces of the signed payments to a merchant that a run accepts. -/
def acceptedMerchantNonces (host : Host) (start : World) (actions : List Action)
    (merchant : Address) : List Nat :=
  acceptedEntries host (fun _ _ call => call.merchantNonces merchant) start actions

/-- The nonces of the payments with a nonce of a payer that a run accepts. -/
def acceptedPayerNonces (host : Host) (start : World) (actions : List Action)
    (payer : Address) : List Nat :=
  acceptedEntries host (fun _ _ call => call.payerNonces payer) start actions

theorem iterate_nextNonce (count : Nat) : nextNonce^[count] 0 = min u64Max count := by
  induction count with
  | zero => rfl
  | succ count inductionHypothesis =>
      rw [Function.iterate_succ_apply', inductionHypothesis]
      simp only [nextNonce, saturatingAddU64]
      omega

/-- A counter that starts at zero issues its labels in order, below the largest number. -/
theorem acceptedEntries_of_counter {counter : World → Nat} {nonces : Call → List Nat}
    {label : Nat → Nat}
    (issues : Issues (step host) (noteAccepted host fun _ _ call => nonces call) counter label
      nextNonce) (zero : counter start = 0) (actions : List Action)
    (below : (acceptedEntries host (fun _ _ call => nonces call) start actions).length ≤ u64Max) :
    acceptedEntries host (fun _ _ call => nonces call) start actions =
      (List.range (acceptedEntries host (fun _ _ call => nonces call) start actions).length).map
        label := by
  refine (issues.history_eq start actions).trans (List.map_congr_left fun index within => ?_)
  have bounded := List.mem_range.mp within
  have small : index ≤ u64Max := (bounded.trans_le below).le
  rw [zero, iterate_nextNonce, min_eq_right small]

theorem acceptedMerchantNonces_eq (deployed : Deployed host start) (actions : List Action)
    (merchant : Address)
    (below : (acceptedMerchantNonces host start actions merchant).length ≤ u64Max) :
    acceptedMerchantNonces host start actions merchant =
      List.range' 1 (acceptedMerchantNonces host start actions merchant).length := by
  have zero : merchantCounter merchant start = 0 := by
    obtain ⟨_, _, _, _, _, rfl⟩ := deployed
    rfl
  have labels := acceptedEntries_of_counter (issues_merchantNonces host merchant) zero actions below
  rw [List.range'_eq_map_range]
  refine labels.trans (List.map_congr_left fun index within => ?_)
  have bounded := List.mem_range.mp within
  simp only [acceptedMerchantNonces] at below
  simp only [nextNonce, saturatingAddU64]
  omega

theorem acceptedPayerNonces_eq (deployed : Deployed host start) (actions : List Action)
    (payer : Address)
    (below : (acceptedPayerNonces host start actions payer).length ≤ u64Max) :
    acceptedPayerNonces host start actions payer =
      List.range (acceptedPayerNonces host start actions payer).length := by
  have zero : payerCounter payer start = 0 := by
    obtain ⟨_, _, _, _, _, rfl⟩ := deployed
    rfl
  have labels := acceptedEntries_of_counter (issues_payerNonces host payer) zero actions below
  rwa [List.map_id] at labels

theorem counter_of_silent {counter : World → Nat} {nonces : Call → List Nat}
    {label : Nat → Nat} {world : World} {action : Action}
    (issues : Issues (step host) (noteAccepted host fun _ _ call => nonces call) counter label
      nextNonce)
    (silent : noteAccepted host (fun _ _ call => nonces call) world action = []) :
    counter (step host world action) = counter world := by
  rcases issues world action with ⟨_, same⟩ | ⟨noted, _⟩
  · exact same
  · rw [silent] at noted
    cases noted

/-- The nonces of a merchant are accepted as 1, 2, 3 and so on, those of a payer as
0, 1, 2 and so on, and none is accepted twice.  Nothing but an accepted payment of the
counter's own kind moves a counter. -/
theorem nonces_accepted_in_order (deployed : Deployed host start) (actions : List Action) :
    (∀ merchant, (acceptedMerchantNonces host start actions merchant).length ≤ u64Max →
      acceptedMerchantNonces host start actions merchant =
          List.range' 1 (acceptedMerchantNonces host start actions merchant).length ∧
        (acceptedMerchantNonces host start actions merchant).Nodup) ∧
      (∀ payer, (acceptedPayerNonces host start actions payer).length ≤ u64Max →
        acceptedPayerNonces host start actions payer =
            List.range (acceptedPayerNonces host start actions payer).length ∧
          (acceptedPayerNonces host start actions payer).Nodup) ∧
      (∀ merchant action,
        noteAccepted host (fun _ _ call => call.merchantNonces merchant)
            (run (step host) start actions) action = [] →
          merchantCounter merchant (run (step host) start (actions ++ [action])) =
            merchantCounter merchant (run (step host) start actions)) ∧
      ∀ payer action,
        noteAccepted host (fun _ _ call => call.payerNonces payer)
            (run (step host) start actions) action = [] →
          payerCounter payer (run (step host) start (actions ++ [action])) =
            payerCounter payer (run (step host) start actions) := by
  refine ⟨fun merchant below => ?_, fun payer below => ?_, fun merchant action silent => ?_,
    fun payer action silent => ?_⟩
  · have inOrder := acceptedMerchantNonces_eq deployed actions merchant below
    refine ⟨inOrder, ?_⟩
    rw [inOrder]
    exact List.nodup_range'
  · have inOrder := acceptedPayerNonces_eq deployed actions payer below
    refine ⟨inOrder, ?_⟩
    rw [inOrder]
    exact List.nodup_range
  · rw [run_append]
    exact counter_of_silent (issues_merchantNonces host merchant) silent
  · rw [run_append]
    exact counter_of_silent (issues_payerNonces host payer) silent

end Runs

namespace Sample

def paymentWithNonce (nonce : Nat) : Action :=
  invokedBy payer (.payment (.processPaymentWithNonce payer [1] shop coin 100 [] none nonce))

/-- The payment is archived and paid again, the first time with the old nonce. -/
def replaying : List Action := opening ++ [
  paymentWithNonce 0,
  invokedBy admin (.payment (.archivePaymentRecord admin [1])),
  paymentWithNonce 0,
  paymentWithNonce 1]

end Sample

theorem nonces_accepted_in_order_sample :
    acceptedPayerNonces Sample.host Sample.start Sample.replaying Sample.payer = [0, 1] := by
  have two :
      (acceptedPayerNonces Sample.host Sample.start Sample.replaying Sample.payer).length = 2 := by
    decide +kernel
  have inOrder :=
    ((nonces_accepted_in_order Sample.deployed_start Sample.replaying).2.1 Sample.payer
      (by rw [two]; decide)).1
  rwa [two] at inOrder

end LumenFlow

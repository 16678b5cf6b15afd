import LumenFlow.Safety.Multisigs
import LumenFlow.Safety.Requests

/-!
# The names of the payments

Every payment is stored under an identifier of one to 64 bytes, whichever operation has created
it: the identifiers of multisig payments and payment requests are checked before they are paid.
-/

namespace LumenFlow

open Kit Contract

/-- The payments, and what may become a payment, have valid identifiers. -/
structure World.Named (world : World) : Prop where
  orders : world.payments.orders.All fun order => ValidId order.orderId
  multisigs : world.multisigs.All fun multisig => ValidId multisig.paymentId
  requests : world.requests.records.All fun request => ValidId request.requestId

section Calls

variable {env : Env} {world next : World}

theorem PaymentCall.terms_named {call : PaymentCall}
    (committed : call.exec.Commits env world () next) :
    ∀ terms ∈ call.terms, ValidId terms.orderId := by
  cases call with
  | processPaymentWithSignature payer orderId merchantAddress tokenAddress =>
      simp [PaymentCall.exec, Contract.processPaymentWithSignature] at committed
      exact List.forall_mem_singleton.mpr committed.2.2.2.1
  | processPaymentWithNonce payer orderId merchantAddress tokenAddress =>
      simp [PaymentCall.exec, Contract.processPaymentWithNonce] at committed
      exact List.forall_mem_singleton.mpr committed.2.2.2.1
  | batchPayment payer payments =>
      simp [PaymentCall.exec, Contract.batchPayment] at committed
      obtain ⟨_, _, _, _, _, checked, _⟩ := committed
      intro terms listed
      obtain ⟨item, member, rfl⟩ := List.mem_map.mp listed
      exact ((validateBatch_spec checked).1 item member).1.validId
  | _ => exact fun terms listed => absurd listed List.not_mem_nil

/-- Payments that were named stay named, and new ones are named by what they are made of. -/
theorem Effect.orders_named {call : Call} {after : Books}
    (effect : Effect env world.books call after) (named : world.Named)
    (paid : ∀ payment, call = .payment payment → ∀ terms ∈ payment.terms, ValidId terms.orderId) :
    after.orders.All fun order => ValidId order.orderId := by
  cases effect with
  | paid call orders profiles transfers listed =>
      refine named.orders.putAll fun order member => ?_
      exact paid call rfl order.terms (listed ▸ List.mem_map_of_mem member)
  | statusUpdated caller orderId refundedAmount expectedVersion payment stored =>
      exact named.orders.put (named.orders _ payment stored)
  | archived admin orderId => exact named.orders.erase orderId
  | paymentsCleaned admin batchSize orders refunds ordersSub => exact named.orders.sub ordersSub
  | refundExecuted refund payment stored approved order =>
      exact named.orders.put (named.orders _ payment order)
  | refundForced admin resolution dispute refund payment raised unresolved stored order =>
      exact named.orders.put (named.orders _ payment order)
  | multisigPaid payer multisig stored =>
      exact named.orders.put (named.multisigs _ multisig stored)
  | requestPaid payer request stored =>
      exact named.orders.put (named.requests _ request stored)
  | _ => exact named.orders

theorem createPaymentRequest_named {merchant : Address} {requestId : Text} {token : Address}
    {amount : Int} {memo : Text} {ttl : Nat}
    (committed : (createPaymentRequest merchant requestId token amount memo ttl).Commits env world
      () next) : ValidId requestId := by
  simp [createPaymentRequest] at committed
  obtain ⟨_, _, _, ⟨least, most⟩, _⟩ := committed
  exact ⟨by omega, most⟩

theorem initiateMultisigPayment_named {initiator : Address} {paymentId : Text}
    {merchantAddress tokenAddress : Address} {amount : Int} {signers : List Address}
    {requiredSignatures : Nat} {expiresAt : Option Nat}
    (committed : (initiateMultisigPayment initiator paymentId merchantAddress tokenAddress amount
      signers requiredSignatures expiresAt).Commits env world () next) : ValidId paymentId := by
  simp [initiateMultisigPayment] at committed
  exact committed.2.2.2.1

theorem Call.requests_named {call : Call} (committed : call.exec.Commits env world () next)
    (named : world.Named) :
    next.requests.records.All fun request => ValidId request.requestId := by
  rcases call.requests_cases with silent | ⟨merchant, requestId, token, amount, memo, ttl, rfl⟩ |
    ⟨payer, requestId, rfl⟩ | ⟨caller, requestId, rfl⟩ | ⟨admin, rfl⟩
  · have same : next.requests.records = world.requests.records :=
      call.writes.frame committed .requests silent
    rw [same]
    exact named.requests
  · have valid := createPaymentRequest_named committed
    obtain ⟨request, rfl, _, _, _, _, _, rfl⟩ := createPaymentRequest_opens committed
    exact named.requests.put valid
  · rw [payPaymentRequest_removes committed]
    exact named.requests.erase requestId
  · simp [Call.exec, MultisigCall.exec, Contract.cancelPaymentRequest] at committed
    obtain ⟨_, _, _, _, _, rfl⟩ := committed
    exact named.requests.erase requestId
  · obtain ⟨removed, cleaning⟩ := Tx.commits_discard.mp committed
    exact named.requests.sub (cancelExpiredPaymentRequests_swept cleaning).sub

end Calls

section Runs

variable {host : Host} {world : World}

theorem step_named (named : world.Named) (action : Action) : (step host world action).Named := by
  rcases step_cases host world action with
    ⟨auth, permits, call, rfl, succeeded⟩ | ⟨_, _, _, _, same⟩
  · have committed := succeeded.executes
    have change := succeeded.multisigChange
    refine ⟨succeeded.effect.orders_named named ?_, ?_, Call.requests_named committed named⟩
    · rintro payment rfl
      exact PaymentCall.terms_named committed
    · generalize (step host world (.invoke auth permits call)).multisigs = after at change ⊢
      cases change with
      | kept => exact named.multisigs
      | initiated => exact named.multisigs.put (initiateMultisigPayment_named committed)
      | signed multisig entry stored =>
          have old := named.multisigs _ _ stored
          exact named.multisigs.put old
      | cancelled caller multisig stored =>
          have old := named.multisigs _ _ stored
          exact named.multisigs.put old
      | executed payer multisig stored =>
          have old := named.multisigs _ _ stored
          exact named.multisigs.put old
  · rw [same]
    exact ⟨named.orders, named.multisigs, named.requests⟩

theorem Reachable.named (reachable : Reachable host world) : world.Named := by
  obtain ⟨start, actions, deployed, rfl⟩ := reachable
  have stepwise : ∀ world action, World.Named world → (step host world action).Named :=
    fun _ action named => step_named named action
  refine run_invariant stepwise ?_ actions
  obtain ⟨_, _, _, _, _, rfl⟩ := deployed
  exact ⟨Table.all_empty _, Table.all_empty _, Table.all_empty _⟩

end Runs

end LumenFlow

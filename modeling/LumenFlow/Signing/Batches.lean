import LumenFlow.Kit.Slots
import LumenFlow.Effect.Accepted
import LumenFlow.Safety.Orders
import LumenFlow.Signing.Binding

/-!
# When the signature of a batch item is used once

The message of a batch item carries no counter.  What keeps it from being accepted again
is the payment under its order identifier, as long as that is stored.
-/

namespace LumenFlow

open Kit Contract

/-- What a batch item is verified with. -/
structure ItemSignature where
  publicKey : Bytes
  payload : Bytes
  signature : Bytes
  deriving DecidableEq

def BatchPaymentItem.itemSignature (host : Host) (item : BatchPaymentItem) : ItemSignature where
  publicKey := item.merchantPublicKey
  payload := batchPayload host item.orderId item.amount
  signature := item.signature

/-- The items of a batch payment. -/
def Call.batchItems : Call → List BatchPaymentItem
  | .payment (.batchPayment _ payments) => payments
  | _ => []

/-- The signatures of the items of a call. -/
def Call.itemSignatures (host : Host) (_world : World) (_auth : List Address) (call : Call) :
    List ItemSignature :=
  call.batchItems.map fun item => item.itemSignature host

/-- The call can delete payments. -/
def Call.Removal : Call → Prop
  | .payment (.archivePaymentRecord ..) => True
  | .payment (.cleanupExpiredPayments ..) => True
  | _ => False

/-- The action deletes the payment that is stored under the identifier. -/
def Removes (host : Host) (world : World) (orderId : Text) : Action → Prop
  | .invoke auth permits call =>
      call.Removal ∧ Stored orderId world ∧
        ¬ Stored orderId (step host world (.invoke auth permits call))
  | .tokens _ | .advance .. => False

/-- The run has accepted the signature of the item in a batch, and the payment of the item
was deleted since. -/
def Reopened (host : Host) (start : World) (actions : List Action) (item : BatchPaymentItem) :
    Prop :=
  ∃ before removal after, actions = before ++ removal :: after ∧
    item.itemSignature host ∈ acceptedEntries host (Call.itemSignatures host) start before ∧
    Removes host (run (step host) start before) item.orderId removal

section Steps

variable {env : Env} {books next : Books} {call : Call} {orderId : Text}

/-- Only two calls can delete a payment. -/
theorem Effect.removal (effect : Effect env books call next) {order : PaymentOrder}
    (stored : books.orders.get orderId = some order) (gone : next.orders.get orderId = none) :
    call.Removal := by
  have taken {written : PaymentOrder} :
      (books.orders.put written).get orderId ≠ none := by
    rw [Table.get_put]
    split
    · exact nofun
    · rw [stored]
      exact nofun
  cases effect with
  | paid => exact nomatch stored.symm.trans (Table.get_eq_none_of_putAll gone)
  | statusUpdated => exact absurd gone taken
  | archived => trivial
  | paymentsCleaned => trivial
  | refundExecuted => exact absurd gone taken
  | refundForced => exact absurd gone taken
  | multisigPaid => exact absurd gone taken
  | requestPaid => exact absurd gone taken
  | _ => exact nomatch stored.symm.trans gone

theorem Effect.batch_stored {payer : Address} {payments : List BatchPaymentItem}
    (effect : Effect env books (.payment (.batchPayment payer payments)) next)
    {item : BatchPaymentItem} (listed : item ∈ payments) :
    next.orders.get item.orderId ≠ none := by
  have term : item.terms payer ∈ payments.map (BatchPaymentItem.terms payer) :=
    List.mem_map_of_mem listed
  cases effect with
  | quiet call silent =>
      have empty : payments = [] := by simpa [Call.orderIds, PaymentCall.terms] using silent
      rw [empty] at listed
      cases listed
  | paid call orders profiles transfers same =>
      change orders.map PaymentOrder.terms = payments.map (BatchPaymentItem.terms payer) at same
      rw [← same] at term
      obtain ⟨order, stored, terms⟩ := List.mem_map.mp term
      have named : order.orderId = item.orderId := congrArg PaymentTerms.orderId terms
      intro gone
      exact Table.absent_of_putAll gone order stored named

variable {host : Host} {world : World} {action : Action}

theorem removes_of_stored (stored : Stored orderId world)
    (gone : ¬ Stored orderId (step host world action)) : Removes host world orderId action := by
  have missing : (step host world action).books.orders.get orderId = none :=
    Option.eq_none_iff_forall_ne_some.mpr fun order found => gone ⟨order, found⟩
  obtain ⟨order, found⟩ := stored
  rcases step_cases host world action with
    ⟨auth, permits, call, rfl, succeeded⟩ | ⟨_, _, _, _, same⟩
  · exact ⟨succeeded.effect.removal found missing, ⟨order, found⟩, gone⟩
  · rw [same] at gone
    exact absurd ⟨order, found⟩ gone

end Steps

section Accepted

variable {host : Host} {world : World} {auth : List Address} {permits : TokenCall → Bool}
  {call : Call}

/-- The items of an accepted call are within bounds, have distinct identifiers that were
free, and leave a payment under each of them. -/
structure BatchAccepted (host : Host) (world next : World) (items : List BatchPaymentItem) :
    Prop where
  fits : ∀ item ∈ items, item.Fits
  distinct : (items.map BatchPaymentItem.orderId).Nodup
  free : ∀ item ∈ items, ¬ Stored item.orderId world
  stored : ∀ item ∈ items, Stored item.orderId next

theorem Accepted.batch (accepted : Accepted host world auth permits call) :
    BatchAccepted host world (step host world (.invoke auth permits call)) call.batchItems := by
  have succeeded := accepted.succeeds
  unfold Call.batchItems
  split
  · next payer payments =>
      obtain ⟨⟨_, fits⟩, executed⟩ := succeeds_iff.mp succeeded
      have effect := succeeded.effect
      simp [Call.exec, PaymentCall.exec, Contract.batchPayment] at executed
      obtain ⟨_, _, _, _, _, validated, _⟩ := executed
      obtain ⟨items, distinct, _⟩ := validateBatch_spec validated
      refine ⟨fits, distinct, ?_, ?_⟩
      · rintro item listed ⟨order, found⟩
        have clash := (items item listed).1.free.symm.trans found
        cases clash
      · intro item listed
        exact Option.ne_none_iff_exists'.mp (effect.batch_stored listed)
  · exact ⟨by simp, List.nodup_nil, by simp, by simp⟩

/-- The signature is for an order under whose identifier a payment is stored. -/
def ItemSignature.Held (host : Host) (signature : ItemSignature) (world : World) : Prop :=
  ∃ orderId amount, Sized orderId ∧ InI128 amount ∧
    signature.payload = batchPayload host orderId amount ∧ Stored orderId world

theorem BatchPaymentItem.held_iff {item : BatchPaymentItem} (fits : item.Fits) :
    (item.itemSignature host).Held host world ↔ Stored item.orderId world := by
  obtain ⟨sized, amountFits, _⟩ := fits
  constructor
  · rintro ⟨orderId, amount, otherSized, otherFits, payload, stored⟩
    obtain ⟨rfl, _⟩ := batchPayload_injective sized otherSized amountFits otherFits payload
    exact stored
  · intro stored
    exact ⟨item.orderId, item.amount, sized, amountFits, rfl, stored⟩

theorem item_of_noted {action : Action} {signature : ItemSignature}
    (noted : signature ∈ noteAccepted host (Call.itemSignatures host) world action) :
    ∃ items, ∃ item ∈ items, item.itemSignature host = signature ∧
      BatchAccepted host world (step host world action) items := by
  obtain ⟨auth, permits, call, rfl, accepted, listed⟩ := mem_noteAccepted_iff.mp noted
  obtain ⟨item, among, same⟩ := List.mem_map.mp listed
  exact ⟨call.batchItems, item, among, same, accepted.batch⟩

/-- The signatures of an accepted batch differ, since their orders do. -/
theorem BatchAccepted.signatures_nodup {next : World} {items : List BatchPaymentItem}
    (batch : BatchAccepted host world next items) :
    (items.map fun item => item.itemSignature host).Nodup := by
  have distinct := List.pairwise_map.mp batch.distinct
  refine List.pairwise_map.mpr (distinct.imp_of_mem ?_)
  intro first second firstListed secondListed different same
  obtain ⟨firstSized, firstFits, _⟩ := batch.fits first firstListed
  obtain ⟨secondSized, secondFits, _⟩ := batch.fits second secondListed
  have payload := congrArg ItemSignature.payload same
  exact different (batchPayload_injective firstSized secondSized firstFits secondFits payload).1

theorem itemSignatures_takesSlots (host : Host) :
    TakesSlots (step host) (noteAccepted host (Call.itemSignatures host))
      (ItemSignature.Held host) where
  distinct world action := by
    cases action with
    | invoke auth permits call =>
        by_cases accepted : Accepted host world auth permits call
        · rw [noteAccepted_of_accepted accepted]
          exact accepted.batch.signatures_nodup
        · rw [noteAccepted_of_refused accepted]
          exact List.nodup_nil
    | tokens => exact List.nodup_nil
    | advance => exact List.nodup_nil
  free world action signature noted := by
    obtain ⟨items, item, listed, rfl, batch⟩ := item_of_noted noted
    rw [BatchPaymentItem.held_iff (batch.fits item listed)]
    exact batch.free item listed
  takes world action signature noted := by
    obtain ⟨items, item, listed, rfl, batch⟩ := item_of_noted noted
    rw [BatchPaymentItem.held_iff (batch.fits item listed)]
    exact batch.stored item listed

end Accepted

section Runs

variable {host : Host} {start : World} {actions : List Action}

theorem freed_iff_reopened {item : BatchPaymentItem} (fits : item.Fits) :
    Freed (step host) (noteAccepted host (Call.itemSignatures host)) (ItemSignature.Held host)
        start actions (item.itemSignature host) ↔
      Reopened host start actions item := by
  constructor
  · rintro ⟨before, action, after, split, noted, held, vacant⟩
    rw [BatchPaymentItem.held_iff fits] at held vacant
    exact ⟨before, action, after, split, noted, removes_of_stored held vacant⟩
  · rintro ⟨before, action, after, split, noted, removes⟩
    refine ⟨before, action, after, split, noted, ?_⟩
    rw [BatchPaymentItem.held_iff fits, BatchPaymentItem.held_iff fits]
    cases action with
    | invoke auth permits call => exact removes.2
    | tokens => exact removes.elim
    | advance => exact removes.elim

/-- No signature of a batch item is accepted twice in a run exactly if none is accepted
after a payment that it was accepted for was archived or cleaned up. -/
theorem item_signatures_used_once_iff (host : Host) (start : World) (actions : List Action) :
    (acceptedEntries host (Call.itemSignatures host) start actions).Nodup ↔
      ∀ before auth permits call after, actions = before ++ .invoke auth permits call :: after →
        Accepted host (run (step host) start before) auth permits call →
        ∀ item ∈ call.batchItems, ¬ Reopened host start before item := by
  rw [acceptedEntries, (itemSignatures_takesSlots host).nodup_iff]
  constructor
  · intro unfreed before auth permits call after split accepted item listed
    rw [← freed_iff_reopened (accepted.batch.fits item listed)]
    exact unfreed before _ after split _ (mem_noteAccepted_iff.mpr
      ⟨auth, permits, call, rfl, accepted, List.mem_map_of_mem listed⟩)
  · intro closed before action after split signature noted
    obtain ⟨auth, permits, call, rfl, accepted, listed⟩ := mem_noteAccepted_iff.mp noted
    obtain ⟨item, among, rfl⟩ := List.mem_map.mp listed
    rw [freed_iff_reopened (accepted.batch.fits item among)]
    exact closed before auth permits call after split accepted item among

end Runs

/-- A batch is paid, its payment is archived, and the same batch is paid again. -/
def Sample.resubmitting : List Action := opening ++ [
  invokedBy payer (.payment (.batchPayment payer [item shop coin])),
  invokedBy admin (.payment (.archivePaymentRecord admin [1])),
  invokedBy payer (.payment (.batchPayment payer [item shop coin]))]

theorem item_signature_used_twice :
    Deployed Sample.signingHost Sample.start ∧
      ¬ (acceptedEntries Sample.signingHost (Call.itemSignatures Sample.signingHost) Sample.start
        Sample.resubmitting).Nodup := by
  have twice : acceptedEntries Sample.signingHost (Call.itemSignatures Sample.signingHost)
      Sample.start Sample.resubmitting =
        List.replicate 2 ((Sample.item Sample.shop Sample.coin).itemSignature
          Sample.signingHost) := by
    decide +kernel
  refine ⟨Sample.deployed_start, ?_⟩
  rw [twice]
  simp

end LumenFlow

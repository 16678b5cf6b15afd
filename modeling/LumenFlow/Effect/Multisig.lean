import LumenFlow.Effect.Payments

/-!
# Effects of the multisig and payment request calls
-/

namespace LumenFlow

open Kit Contract

variable {env : Env} {world next : World}

section Multisig

theorem initiateMultisigPayment_effect {initiator : Address} {paymentId : Text}
    {merchantAddress tokenAddress : Address} {amount : Int} {signers : List Address}
    {requiredSignatures : Nat} {expiresAt : Option Nat}
    (committed : (initiateMultisigPayment initiator paymentId merchantAddress tokenAddress amount
      signers requiredSignatures expiresAt).Commits env world () next) :
    Effect env world.books (.multisig (.initiateMultisigPayment initiator paymentId
      merchantAddress tokenAddress amount signers requiredSignatures expiresAt)) next.books := by
  simp [initiateMultisigPayment, requireTokenAllowed] at committed
  obtain ⟨_, _, positive, _, _, _, _, _, _, free, profile, found, _, rfl⟩ := committed
  exact .multisigOpened _ ⟨paymentId, initiator, merchantAddress, tokenAddress, amount,
    requiredSignatures, signers, [], false, false, world.timestamp, _⟩ free positive
    ⟨profile, found⟩ rfl

theorem executeMultisigPayment_books {payer : Address} {paymentId : Text}
    (committed : (executeMultisigPayment payer paymentId).Commits env world () next) :
    ∃ multisig, world.books.multisigs.get paymentId = some multisig ∧
      multisig.executed = false ∧ env.Authorised payer ∧
      next.books =
        ({ world.books with
          multisigs := world.books.multisigs.put { multisig with executed := true }
          orders := world.books.orders.put (multisig.order payer world.books.timestamp)
          }.settle ⟨.multisig multisig.paymentId, multisig.token, payer,
            multisig.merchantAddress, multisig.amount⟩) := by
  simp [executeMultisigPayment] at committed
  obtain ⟨_, authorised, multisig, stored, pending, _, _, _, _, recording, recorded, counted⟩ :=
    committed
  obtain rfl := Table.key_of_get stored
  refine ⟨multisig, stored, pending, authorised, ?_⟩
  rw [quiet_books counted, recordPaymentBestEffort_books recorded]
  rfl

theorem executeMultisigPayment_effect {payer : Address} {paymentId : Text}
    (committed : (executeMultisigPayment payer paymentId).Commits env world () next) :
    Effect env world.books (.multisig (.executeMultisigPayment payer paymentId))
      next.books := by
  obtain ⟨multisig, stored, pending, authorised, books⟩ := executeMultisigPayment_books committed
  obtain rfl := Table.key_of_get stored
  rw [books]
  exact .multisigPaid payer multisig stored pending authorised

end Multisig

section Requests

theorem removePaymentRequest_books (world : World) (requestId : Text) :
    (world.removePaymentRequest requestId).books =
      { world.books with requests := world.books.requests.erase requestId } := rfl

/-- Requests were deleted, no other record has changed. -/
def Dropped (before after : World) : Prop :=
  ∃ requests, requests.Sub before.books.requests ∧ after.books = { before.books with requests }

instance : IsPreorder World Dropped where
  refl world := ⟨world.books.requests, Table.Sub.refl _, rfl⟩
  trans first second third head tail := by
    obtain ⟨_, sub, middle⟩ := head
    obtain ⟨requests, less, books⟩ := tail
    rw [middle] at less books
    exact ⟨requests, less.trans sub, books⟩

theorem Dropped.remove (world : World) (requestId : Text) :
    Dropped world (world.removePaymentRequest requestId) :=
  ⟨_, Table.sub_erase _ requestId, removePaymentRequest_books world requestId⟩

theorem removeExpiredRequest_dropped (now removed : Nat) (requestId : Text) :
    Tx.Respects Dropped (removeExpiredRequest now removed requestId) := by
  intro env world result next committed
  obtain ⟨found, middle, reading, removing⟩ := Tx.commits_bind.mp committed
  obtain ⟨_, rfl⟩ := Tx.commits_gets.mp reading
  cases found with
  | none =>
      simp at removing
      obtain ⟨_, rfl⟩ := removing
      exact .remove _ requestId
  | some request =>
      simp at removing
      rcases removing with ⟨_, _, _, rfl⟩ | ⟨_, _, rfl⟩
      · exact .remove _ requestId
      · exact refl_of Dropped _

theorem cancelExpiredPaymentRequests_effect {admin : Address} {result : Nat}
    (committed : (cancelExpiredPaymentRequests admin).Commits env world result next) :
    Effect env world.books (.multisig (.cancelExpiredPaymentRequests admin)) next.books := by
  simp [cancelExpiredPaymentRequests] at committed
  obtain ⟨_, removed⟩ := committed
  have dropped : Dropped world next :=
    Tx.respects_fold (fun removed id _ => removeExpiredRequest_dropped world.timestamp removed id)
      0 env world result next removed
  obtain ⟨requests, sub, books⟩ := dropped
  rw [books]
  exact .requestsDropped _ requests sub rfl

theorem payPaymentRequest_effect {payer : Address} {requestId : Text}
    (committed : (payPaymentRequest payer requestId).Commits env world () next) :
    Effect env world.books (.multisig (.payPaymentRequest payer requestId))
      next.books := by
  simp [payPaymentRequest] at committed
  obtain ⟨_, authorised, request, stored, _, fresh, _, recording, recorded, counting, counted,
    rfl⟩ := committed
  obtain rfl := Table.key_of_get stored
  rw [removePaymentRequest_books, quiet_books counted, recordPayment_books recorded]
  exact .requestPaid payer request stored fresh authorised

end Requests

theorem MultisigCall.effect {call : MultisigCall}
    (committed : call.exec.Commits env world () next) :
    Effect env world.books (.multisig call) next.books := by
  cases call with
  | initiateMultisigPayment => exact initiateMultisigPayment_effect committed
  | signMultisigPayment =>
      simp [MultisigCall.exec, Contract.signMultisigPayment] at committed
      obtain ⟨_, _, multisig, stored, _, _, _, _, _, rfl⟩ := committed
      obtain rfl := Table.key_of_get stored
      exact .multisigChanged _ multisig _ stored ⟨rfl, rfl, rfl⟩ rfl
  | cancelMultisigPayment =>
      simp [MultisigCall.exec, Contract.cancelMultisigPayment] at committed
      obtain ⟨_, multisig, stored, _, _, _, rfl⟩ := committed
      obtain rfl := Table.key_of_get stored
      exact .multisigChanged _ multisig _ stored ⟨rfl, rfl, rfl⟩ rfl
  | getMultisigPayment =>
      simp [MultisigCall.exec, Contract.getMultisigPayment] at committed
      obtain ⟨_, _, _, _, rfl⟩ := committed
      exact .quiet _ rfl
  | executeMultisigPayment => exact executeMultisigPayment_effect committed
  | createPaymentRequest =>
      simp [MultisigCall.exec, Contract.createPaymentRequest, requireTokenAllowed] at committed
      obtain ⟨_, authorised, positive, _, _, _, _, _, _, rfl⟩ := committed
      exact .requestOpened _ ⟨_, _, _, _, _, _⟩ positive authorised rfl
  | payPaymentRequest => exact payPaymentRequest_effect committed
  | cancelPaymentRequest caller requestId =>
      simp [MultisigCall.exec, Contract.cancelPaymentRequest] at committed
      obtain ⟨_, _, _, _, _, rfl⟩ := committed
      exact .requestsDropped _ _ (Table.sub_erase _ requestId) rfl
  | cancelExpiredPaymentRequests =>
      obtain ⟨_, removed⟩ := Tx.commits_discard.mp committed
      exact cancelExpiredPaymentRequests_effect removed

end LumenFlow

import LumenFlow.Signing.Binding

/-!
# Which key a payment is verified under

The contract stores no keys: a signed payment is verified under the key that
comes with the call.  The merchant has no way to authorise one beforehand.
-/

namespace LumenFlow

open Kit Contract

/-- A payment that a merchant is said to have signed, and what it is verified with. -/
structure SignedItem where
  merchantAddress : Address
  publicKey : Bytes
  payload : Bytes
  signature : Bytes
  deriving DecidableEq

def BatchPaymentItem.signed (host : Host) (item : BatchPaymentItem) : SignedItem where
  merchantAddress := item.merchantAddress
  publicKey := item.merchantPublicKey
  payload := batchPayload host item.orderId item.amount
  signature := item.signature

/-- The signed payments of a call. -/
def Call.signedItems (host : Host) : Call → List SignedItem
  | .payment (.processPaymentWithSignature _ orderId merchantAddress _ amount _ _ nonce timestamp
        signature merchantPublicKey) =>
      [⟨merchantAddress, merchantPublicKey,
        signaturePayload host nonce orderId amount timestamp, signature⟩]
  | .payment (.batchPayment _ payments) => payments.map (BatchPaymentItem.signed host)
  | _ => []

/-- A call that a run accepts, with the actions around it. -/
structure AcceptedCall (host : Host) (start : World) (actions : List Action) where
  before : List Action
  auth : List Address
  permits : TokenCall → Bool
  call : Call
  after : List Action
  next : World
  split : actions = before ++ .invoke auth permits call :: after
  succeeds : Succeeds host (run (step host) start before) auth permits call next

section Runs

variable {host : Host} {start : World} {actions : List Action} {merchant : Address}

/-- The signed payments of the accepted call. -/
def AcceptedCall.signedItems (accepted : AcceptedCall host start actions) : List SignedItem :=
  accepted.call.signedItems host

/-- A merchant authorises a key by a call that carries the key for it.  No other
call has a key among its arguments. -/
def Authorises (host : Host) (start : World) (actions : List Action) (merchant : Address)
    (publicKey : Bytes) : Prop :=
  ∃ accepted : AcceptedCall host start actions, ∃ item ∈ accepted.signedItems,
    item.merchantAddress = merchant ∧ item.publicKey = publicKey ∧ merchant ∈ accepted.auth

/-- All payments to the merchant that the run accepts are verified under one key,
which the merchant has authorised earlier in the run. -/
def OneAuthorisedKey (host : Host) (start : World) (actions : List Action) (merchant : Address) :
    Prop :=
  ∃ publicKey, ∀ accepted : AcceptedCall host start actions, ∀ item ∈ accepted.signedItems,
    item.merchantAddress = merchant →
      item.publicKey = publicKey ∧ Authorises host start accepted.before merchant publicKey

/-- Every signed payment that a run accepts verifies under the key that comes with it. -/
theorem AcceptedCall.verifies (accepted : AcceptedCall host start actions) {item : SignedItem}
    (listed : item ∈ accepted.signedItems) :
    Verifies host item.publicKey item.payload item.signature := by
  obtain ⟨before, auth, permits, call, after, next, split, succeeds⟩ := accepted
  simp only [signedItems, Call.signedItems] at listed
  split at listed
  · obtain rfl := List.mem_singleton.mp listed
    exact processPaymentWithSignature_verifies succeeds
  · obtain ⟨payment, among, rfl⟩ := List.mem_map.mp listed
    exact batchPayment_verifies succeeds among
  · simp at listed

/-- A call that a part of a run accepts is one that the run accepts. -/
def AcceptedCall.extend {before rest : List Action} (accepted : AcceptedCall host start before)
    (longer : actions = before ++ rest) : AcceptedCall host start actions :=
  { accepted with
    after := accepted.after ++ rest
    split := by
      have whole := congrArg (· ++ rest) accepted.split
      rw [longer]
      simpa using whole }

/-- Before every accepted payment to the merchant there would have to be another one. -/
theorem no_signed_item (one : OneAuthorisedKey host start actions merchant) :
    ∀ count, ∀ accepted : AcceptedCall host start actions, accepted.before.length = count →
      ∀ item ∈ accepted.signedItems, item.merchantAddress ≠ merchant := by
  obtain ⟨publicKey, authorised⟩ := one
  intro count
  induction count using Nat.strong_induction_on with
  | _ count inductionHypothesis =>
      intro accepted position item listed named
      obtain ⟨earlier, other, carried, same, _, _⟩ := (authorised accepted item listed named).2
      have shorter : earlier.before.length < count := by
        have lengths := congrArg List.length earlier.split
        simp only [List.length_append, List.length_cons] at lengths
        omega
      exact inductionHypothesis _ shorter (earlier.extend accepted.split) rfl other carried same

/-- The payments to a merchant that a run accepts are verified under one key that
the merchant has authorised before, exactly if the run accepts no signed payment to
the merchant at all. -/
theorem oneAuthorisedKey_iff (host : Host) (start : World) (actions : List Action)
    (merchant : Address) :
    OneAuthorisedKey host start actions merchant ↔
      ∀ accepted : AcceptedCall host start actions, ∀ item ∈ accepted.signedItems,
        item.merchantAddress ≠ merchant := by
  constructor
  · intro one accepted
    exact no_signed_item one _ accepted rfl
  · intro none
    exact ⟨[], fun accepted item listed named => absurd named (none accepted item listed)⟩

end Runs

section Substitution

variable {host : Host} {world next : World} {auth : List Address} {permits : TokenCall → Bool}

theorem sized_of_length {bytes : Bytes} {count : Nat} (length : bytes.length = count)
    (small : count ≤ 64) : Sized bytes := by
  simp only [Sized, length, u32Max]
  omega

/-- Whoever pays can replace the key and the signature of a single payment by any
others that verify. -/
theorem processPaymentWithSignature_any_key {payer merchantAddress tokenAddress : Address}
    {orderId memo : Text} {amount : Int} {tags : Option (List Text)} {nonce timestamp : Nat}
    {signature merchantPublicKey otherSignature otherKey : Bytes}
    (accepted : Succeeds host world auth permits (.payment (.processPaymentWithSignature payer
      orderId merchantAddress tokenAddress amount memo tags nonce timestamp signature
      merchantPublicKey)) next)
    (verifies : Verifies host otherKey (signaturePayload host nonce orderId amount timestamp)
      otherSignature) :
    Succeeds host world auth permits (.payment (.processPaymentWithSignature payer orderId
      merchantAddress tokenAddress amount memo tags nonce timestamp otherSignature otherKey))
      next := by
  obtain ⟨oldKeyLength, oldSignatureLength, oldVerified⟩ :=
    processPaymentWithSignature_verifies accepted
  obtain ⟨keyLength, signatureLength, verified⟩ := verifies
  obtain ⟨⟨order, sum, note, labels, count, time, _, _⟩, executed⟩ := succeeds_iff.mp accepted
  refine succeeds_iff.mpr ⟨⟨order, sum, note, labels, count, time,
    sized_of_length signatureLength (by omega), sized_of_length keyLength (by omega)⟩, ?_⟩
  simp only [Call.exec, PaymentCall.exec, Contract.processPaymentWithSignature] at executed ⊢
  simpa [Host.env, oldKeyLength, oldSignatureLength, oldVerified, keyLength, signatureLength,
    verified] using executed

/-- The item with the key and the signature that the payer chooses for it. -/
def BatchPaymentItem.signedWith (choice : BatchPaymentItem → Bytes × Bytes)
    (item : BatchPaymentItem) : BatchPaymentItem :=
  { item with merchantPublicKey := (choice item).1, signature := (choice item).2 }

theorem validateBatchItem_any_key {env : Env} {seenIds between : List Text}
    {item : BatchPaymentItem} {choice : BatchPaymentItem → Bytes × Bytes}
    (verifies : Verifies env.host (choice item).1
      (batchPayload env.host item.orderId item.amount) (choice item).2)
    (committed : (validateBatchItem seenIds item).Commits env world between next) :
    (validateBatchItem seenIds (item.signedWith choice)).Commits env world between next := by
  obtain ⟨keyLength, signatureLength, verified⟩ := verifies
  obtain ⟨checked, _⟩ := validateBatchItem_spec committed
  unfold validateBatchItem at committed ⊢
  unfold BatchPaymentItem.signedWith
  simpa [keyLength, signatureLength, verified, checked.keyLength, checked.signatureLength,
    checked.verified] using committed

theorem BatchPaymentItem.Fits.signedWith {item : BatchPaymentItem}
    {choice : BatchPaymentItem → Bytes × Bytes} {payload : Bytes} (fits : item.Fits)
    (verifies : Verifies host (choice item).1 payload (choice item).2) :
    (item.signedWith choice).Fits := by
  obtain ⟨order, sum, note, labels, _, _⟩ := fits
  exact ⟨order, sum, note, labels, sized_of_length verifies.2.1 (by omega),
    sized_of_length verifies.1 (by omega)⟩

theorem batchPayment_any_keys {payer : Address} {payments : List BatchPaymentItem}
    {choice : BatchPaymentItem → Bytes × Bytes}
    (accepted : Succeeds host world auth permits (.payment (.batchPayment payer payments)) next)
    (verifies : ∀ item ∈ payments, Verifies host (choice item).1
      (batchPayload host item.orderId item.amount) (choice item).2) :
    Succeeds host world auth permits
      (.payment (.batchPayment payer (payments.map (.signedWith choice)))) next := by
  obtain ⟨⟨sized, fits⟩, executed⟩ := succeeds_iff.mp accepted
  refine succeeds_iff.mpr ⟨⟨?_, ?_⟩, ?_⟩
  · simpa [Sized] using sized
  · intro item listed
    obtain ⟨original, among, rfl⟩ := List.mem_map.mp listed
    exact (fits original among).signedWith (verifies original among)
  · simp only [Call.exec, PaymentCall.exec, Contract.batchPayment, Tx.fold_map, Tx.commits_bind,
      Tx.commits_failIf, List.length_map] at executed ⊢
    obtain ⟨_, _, unpaused, _, _, authorised, _, _, small, seenIds, checked, validated, paid⟩ :=
      executed
    have again := Tx.commits_fold_mono (fun item listed _ _ _ _ =>
      validateBatchItem_any_key (verifies item listed)) validated
    -- grouping and storing an item do not look at its key
    exact ⟨(), _, unpaused, (), _, authorised, (), _, small, seenIds, checked, again, paid⟩

end Substitution

namespace Sample

/-- The Ed25519 public key of the seed of 32 bytes 8. -/
def otherKey : Bytes :=
  Wire.bigEndian 32 0x1398f62c6d1a457c51ba6a4b5f3dbd2f69fca93216218dc8997e416bd17d93ca

/-- The signature of that key on the payload of a second payment. -/
def otherSignature : Bytes :=
  Wire.bigEndian 32 0xd5b54a372342bd9d569ddd07647ce0a17606df730625138d17cb8e257b9bef44 ++
    Wire.bigEndian 32 0x7ec4ad4180179e6d359699b6531641753f714842e8ad5154996fdbd7b3824a01

/-- A host on which both keys have signed a payment of the payer's choice. -/
def keysHost : Host :=
  { host with
    ed25519Verify := fun publicKey payload signature => decide (
      publicKey = key ∧ signature = singleSignature ∧ payload = signaturePayload host 1 [1] 100 0 ∨
        publicKey = otherKey ∧ signature = otherSignature ∧
          payload = signaturePayload host 2 [2] 100 0) }

/-- A payment to the shop that the payer alone authorises. -/
def keyedPayment (nonce : Nat) (orderId : Text) (signature publicKey : Bytes) : Call :=
  .payment (.processPaymentWithSignature payer orderId shop coin 100 [] none nonce 0 signature
    publicKey)

def keyedPayments : List Action := opening ++ [
  invokedBy payer (keyedPayment 1 [1] singleSignature key),
  invokedBy payer (keyedPayment 2 [2] otherSignature otherKey)]

def firstKeyed : AcceptedCall keysHost start keyedPayments where
  before := opening
  auth := [payer]
  permits := fun _ => true
  call := keyedPayment 1 [1] singleSignature key
  after := [invokedBy payer (keyedPayment 2 [2] otherSignature otherKey)]
  next := _
  split := rfl
  succeeds := succeeds_of_changed World.transfers (by decide +kernel)

def secondKeyed : AcceptedCall keysHost start keyedPayments where
  before := opening ++ [invokedBy payer (keyedPayment 1 [1] singleSignature key)]
  auth := [payer]
  permits := fun _ => true
  call := keyedPayment 2 [2] otherSignature otherKey
  after := []
  next := _
  split := rfl
  succeeds := succeeds_of_changed World.transfers (by decide +kernel)

end Sample

/-- Two payments to the shop, under two keys, neither of which the shop authorises. -/
theorem payments_under_two_keys :
    Deployed Sample.keysHost Sample.start ∧
      (Sample.shop ∉ Sample.firstKeyed.auth ∧ Sample.shop ∉ Sample.secondKeyed.auth) ∧
      ¬ OneAuthorisedKey Sample.keysHost Sample.start Sample.keyedPayments Sample.shop := by
  refine ⟨Sample.deployed_start, by decide, ?_⟩
  rintro ⟨publicKey, authorised⟩
  have first := (authorised Sample.firstKeyed _ (List.mem_singleton_self _) rfl).1
  have second := (authorised Sample.secondKeyed _ (List.mem_singleton_self _) rfl).1
  have different : Sample.key ≠ Sample.otherKey := by decide +kernel
  exact different (first.trans second.symm)

end LumenFlow

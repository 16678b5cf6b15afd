import LumenFlow.Effect.Step

/-!
# What a signature binds

The signed payloads determine every field that is written into them.  The
merchant and the token are not among these fields.
-/

namespace LumenFlow

open Kit Contract

section Payloads

variable {host : Host} {first second firstRest secondRest : Bytes}

theorem scvString_append_injective {first second : Text} (firstFits : Sized first)
    (secondFits : Sized second)
    (same : scvString first ++ firstRest = scvString second ++ secondRest) :
    first = second ∧ firstRest = secondRest := by
  simp only [scvString, List.append_assoc] at same
  have payloads := List.append_cancel_left same
  exact Wire.opaqueVar_append_injective (Nat.lt_succ_of_le firstFits)
    (Nat.lt_succ_of_le secondFits) payloads

theorem bigEndian8_append_injective {first second : Nat} (firstFits : U64 first)
    (secondFits : U64 second)
    (same : Wire.bigEndian 8 first ++ firstRest = Wire.bigEndian 8 second ++ secondRest) :
    first = second ∧ firstRest = secondRest := by
  obtain ⟨digits, rest⟩ := Wire.append_cancel (by simp) same
  exact ⟨Wire.bigEndian_injective (Nat.lt_succ_of_le firstFits) (Nat.lt_succ_of_le secondFits)
    digits, rest⟩

theorem bigEndianI128_append_injective {first second : Int} (firstFits : InI128 first)
    (secondFits : InI128 second)
    (same : Wire.bigEndianI128 first ++ firstRest = Wire.bigEndianI128 second ++ secondRest) :
    first = second ∧ firstRest = secondRest := by
  obtain ⟨digits, rest⟩ := Wire.append_cancel (by simp) same
  exact ⟨Wire.bigEndianI128_injective firstFits.1 firstFits.2 secondFits.1 secondFits.2 digits,
    rest⟩

/-- The payload of a single payment determines its four variable fields. -/
theorem signaturePayload_injective {nonce otherNonce : Nat} {orderId otherOrderId : Text}
    {amount otherAmount : Int} {timestamp otherTimestamp : Nat}
    (nonceFits : U64 nonce) (otherNonceFits : U64 otherNonce)
    (orderFits : Sized orderId) (otherOrderFits : Sized otherOrderId)
    (amountFits : InI128 amount) (otherAmountFits : InI128 otherAmount)
    (timeFits : U64 timestamp) (otherTimeFits : U64 otherTimestamp)
    (same : signaturePayload host nonce orderId amount timestamp =
      signaturePayload host otherNonce otherOrderId otherAmount otherTimestamp) :
    nonce = otherNonce ∧ orderId = otherOrderId ∧ amount = otherAmount ∧
      timestamp = otherTimestamp := by
  have fields := List.append_cancel_left (List.append_cancel_left same)
  obtain ⟨nonces, afterNonce⟩ := bigEndian8_append_injective nonceFits otherNonceFits fields
  obtain ⟨orders, afterOrder⟩ := scvString_append_injective orderFits otherOrderFits afterNonce
  obtain ⟨amounts, times⟩ := bigEndianI128_append_injective amountFits otherAmountFits afterOrder
  exact ⟨nonces, orders, amounts, Wire.bigEndian_injective (Nat.lt_succ_of_le timeFits)
    (Nat.lt_succ_of_le otherTimeFits) times⟩

/-- The payload of an item of a batch determines its two variable fields. -/
theorem batchPayload_injective {orderId otherOrderId : Text} {amount otherAmount : Int}
    (orderFits : Sized orderId) (otherOrderFits : Sized otherOrderId)
    (amountFits : InI128 amount) (otherAmountFits : InI128 otherAmount)
    (same : batchPayload host orderId amount = batchPayload host otherOrderId otherAmount) :
    orderId = otherOrderId ∧ amount = otherAmount := by
  have fields := List.append_cancel_left (List.append_cancel_left same)
  obtain ⟨orders, amounts⟩ := scvString_append_injective orderFits otherOrderFits fields
  exact ⟨orders, Wire.bigEndianI128_injective amountFits.1 amountFits.2 otherAmountFits.1
    otherAmountFits.2 amounts⟩

end Payloads

section Accepted

variable {host : Host} {world next : World} {auth : List Address} {permits : TokenCall → Bool}

/-- The key and the signature have their lengths, and the signature is one of the payload. -/
def Verifies (host : Host) (publicKey payload signature : Bytes) : Prop :=
  publicKey.length = 32 ∧ signature.length = 64 ∧
    host.ed25519Verify publicKey payload signature = true

/-- An accepted single payment carries a signature of its payload. -/
theorem processPaymentWithSignature_verifies {payer : Address} {orderId : Text}
    {merchantAddress tokenAddress : Address} {amount : Int} {memo : Text}
    {tags : Option (List Text)} {nonce timestamp : Nat} {signature merchantPublicKey : Bytes}
    (accepted : Succeeds host world auth permits (.payment (.processPaymentWithSignature payer
      orderId merchantAddress tokenAddress amount memo tags nonce timestamp signature
      merchantPublicKey)) next) :
    Verifies host merchantPublicKey (signaturePayload host nonce orderId amount timestamp)
      signature := by
  have executed := accepted.executes
  simp [Call.exec, PaymentCall.exec, Contract.processPaymentWithSignature, requireTokenAllowed,
    openOrder] at executed
  obtain ⟨_, _, _, _, _, _, _, _, _, _, _, _, verifies, _⟩ := executed
  exact verifies

/-- Every item of an accepted batch carries a signature of its payload. -/
theorem batchPayment_verifies {payer : Address} {payments : List BatchPaymentItem}
    (accepted : Succeeds host world auth permits (.payment (.batchPayment payer payments)) next)
    {item : BatchPaymentItem} (listed : item ∈ payments) :
    Verifies host item.merchantPublicKey (batchPayload host item.orderId item.amount)
      item.signature := by
  have executed := accepted.executes
  simp [Call.exec, PaymentCall.exec, Contract.batchPayment] at executed
  obtain ⟨_, _, _, _, _, validated, _⟩ := executed
  have checked := ((validateBatch_spec validated).1 item listed).1
  exact ⟨checked.keyLength, checked.signatureLength, checked.verified⟩

end Accepted

section Binding

/-- What decides who is paid what in a single payment, with its replay protection. -/
structure SingleParameters where
  merchantAddress : Address
  tokenAddress : Address
  orderId : Text
  amount : Int
  nonce : Nat
  timestamp : Nat
  deriving DecidableEq

/-- What decides who is paid what in an item of a batch. -/
structure ItemParameters where
  merchantAddress : Address
  tokenAddress : Address
  orderId : Text
  amount : Int
  deriving DecidableEq

def BatchPaymentItem.parameters (item : BatchPaymentItem) : ItemParameters :=
  ⟨item.merchantAddress, item.tokenAddress, item.orderId, item.amount⟩

/-- In some reachable world a single payment is accepted with the key and the signature. -/
def AcceptsSingle (host : Host) (publicKey signature : Bytes) (parameters : SingleParameters) :
    Prop :=
  ∃ world auth permits next payer memo tags, Reachable host world ∧
    Succeeds host world auth permits (.payment (.processPaymentWithSignature payer
      parameters.orderId parameters.merchantAddress parameters.tokenAddress parameters.amount memo
      tags parameters.nonce parameters.timestamp signature publicKey)) next

/-- In some reachable world a batch is accepted with an item under the key and the signature. -/
def AcceptsItem (host : Host) (publicKey signature : Bytes) (parameters : ItemParameters) : Prop :=
  ∃ world auth permits next payer payments item, Reachable host world ∧
    Succeeds host world auth permits (.payment (.batchPayment payer payments)) next ∧
    item ∈ payments ∧ item.merchantPublicKey = publicKey ∧ item.signature = signature ∧
    item.parameters = parameters

/-- A signature verifies under a key for one message only. -/
def OneMessage (host : Host) : Prop :=
  ∀ publicKey signature first second, host.ed25519Verify publicKey first signature = true →
    host.ed25519Verify publicKey second signature = true → first = second

variable {host : Host}

/-- Two accepted payments with one key and one signature agree in everything that is
signed: the order, the amount and, for single payments, the nonce and the time. -/
theorem signature_binds (oneMessage : OneMessage host) :
    (∀ publicKey signature first second, AcceptsSingle host publicKey signature first →
      AcceptsSingle host publicKey signature second →
      first.nonce = second.nonce ∧ first.orderId = second.orderId ∧
        first.amount = second.amount ∧ first.timestamp = second.timestamp) ∧
    ∀ publicKey signature first second, AcceptsItem host publicKey signature first →
      AcceptsItem host publicKey signature second →
      first.orderId = second.orderId ∧ first.amount = second.amount := by
  constructor
  · rintro publicKey signature first second ⟨_, _, _, _, _, _, _, _, accepted⟩
      ⟨_, _, _, _, _, _, _, _, otherAccepted⟩
    have same := oneMessage _ _ _ _ (processPaymentWithSignature_verifies accepted).2.2
      (processPaymentWithSignature_verifies otherAccepted).2.2
    obtain ⟨order, amount, _, _, nonce, time, _⟩ := (succeeds_iff.mp accepted).1
    obtain ⟨otherOrder, otherAmount, _, _, otherNonce, otherTime, _⟩ :=
      (succeeds_iff.mp otherAccepted).1
    exact signaturePayload_injective nonce otherNonce order otherOrder amount otherAmount time
      otherTime same
  · rintro publicKey signature _ _ ⟨_, _, _, _, _, _, item, _, accepted, listed, rfl, rfl, rfl⟩
      ⟨_, _, _, _, _, _, other, _, otherAccepted, otherListed, sameKey, sameSignature, rfl⟩
    have verifies := batchPayment_verifies accepted listed
    have otherVerifies := batchPayment_verifies otherAccepted otherListed
    rw [sameKey, sameSignature] at otherVerifies
    have same := oneMessage _ _ _ _ verifies.2.2 otherVerifies.2.2
    obtain ⟨order, amount, _⟩ := (succeeds_iff.mp accepted).1.2 item listed
    obtain ⟨otherOrder, otherAmount, _⟩ := (succeeds_iff.mp otherAccepted).1.2 other otherListed
    exact batchPayload_injective order otherOrder amount otherAmount same

end Binding

namespace Sample

def gem : Address := .contract 6

/-- The Ed25519 public key of the seed of 32 bytes 7. -/
def key : Bytes :=
  Wire.bigEndian 32 0xea4a6c63e29c520abef5507b132ec5f9954776aebebe7b92421eea691446d22c

/-- The signature of that key on the payload of the single payment. -/
def singleSignature : Bytes :=
  Wire.bigEndian 32 0xa90ea25e77e85205ea923be808260aec4b343eb9ff2979c76736fd29da50d73c ++
    Wire.bigEndian 32 0xa2f782d899924c3c5c8200d7ad0173cae897edf23ef1c419da6c9e332a205a03

/-- The signature of that key on the payload of the item. -/
def itemSignature : Bytes :=
  Wire.bigEndian 32 0xb39f02208108430d6c8d1d943301dd2eac8123b1a573fa300f20fc52959c5a00 ++
    Wire.bigEndian 32 0xf8c87750db141f0bd26e757f3f3857eb3a814047e0204abfc47b80c1c15bde01

/-- A host on which one key has signed one single payment and one item of a batch. -/
def signingHost : Host :=
  { host with
    ed25519Verify := fun publicKey payload signature => decide (publicKey = key ∧
      (signature = singleSignature ∧ payload = signaturePayload host 1 [1] 100 0 ∨
        signature = itemSignature ∧ payload = batchPayload host [1] 100)) }

/-- Two merchants and two tokens that a payer can use. -/
def signingWorld : World :=
  run (step signingHost) start (opening ++ [
    invokedBy admin (.admin (.addAllowedTokenUnaudited admin gem)),
    .tokens (.mint gem payer 1000)])

theorem signingWorld_reachable : Reachable signingHost signingWorld :=
  ⟨start, _, deployed_start, rfl⟩

theorem signingHost_oneMessage : OneMessage signingHost := by
  intro publicKey signature first second verified otherVerified
  simp only [signingHost, decide_eq_true_eq] at verified otherVerified
  have different : singleSignature ≠ itemSignature := by decide +kernel
  grind

/-- The single payment that the key has signed, to either merchant in either token. -/
def single (merchant token : Address) : SingleParameters := ⟨merchant, token, [1], 100, 1, 0⟩

/-- The item that the key has signed, for either merchant in either token. -/
def item (merchant token : Address) : BatchPaymentItem :=
  ⟨[1], merchant, token, 100, [], none, itemSignature, key⟩

theorem accepts_single {merchant token : Address}
    (charges : (step signingHost signingWorld (invokedBy payer (.payment
      (.processPaymentWithSignature payer [1] merchant token 100 [] none 1 0 singleSignature
        key)))).transfers ≠ signingWorld.transfers) :
    AcceptsSingle signingHost key singleSignature (single merchant token) :=
  ⟨signingWorld, [payer], _, _, payer, [], none, signingWorld_reachable,
    succeeds_of_changed World.transfers charges⟩

theorem accepts_item {merchant token : Address}
    (charges : (step signingHost signingWorld (invokedBy payer (.payment
      (.batchPayment payer [item merchant token])))).transfers ≠ signingWorld.transfers) :
    AcceptsItem signingHost key itemSignature (item merchant token).parameters :=
  ⟨signingWorld, [payer], _, _, payer, [item merchant token], item merchant token,
    signingWorld_reachable, succeeds_of_changed World.transfers charges, by simp, rfl, rfl, rfl⟩

theorem accepts_single_shop : AcceptsSingle signingHost key singleSignature (single shop coin) :=
  accepts_single (by decide +kernel)

theorem accepts_single_rival : AcceptsSingle signingHost key singleSignature (single rival gem) :=
  accepts_single (by decide +kernel)

end Sample

theorem signature_binds_sample :
    AcceptsSingle Sample.signingHost Sample.key Sample.singleSignature
        (Sample.single Sample.shop Sample.coin) ∧
      (Sample.single Sample.shop Sample.coin).amount =
        (Sample.single Sample.rival Sample.gem).amount := by
  have binds := (signature_binds Sample.signingHost_oneMessage).1 _ _ _ _
    Sample.accepts_single_shop Sample.accepts_single_rival
  exact ⟨Sample.accepts_single_shop, binds.2.2.1⟩

/-- One signature pays either merchant in either token. -/
theorem signature_leaves_merchant_and_token_open :
    OneMessage Sample.signingHost ∧
      (AcceptsSingle Sample.signingHost Sample.key Sample.singleSignature
          (Sample.single Sample.shop Sample.coin) ∧
        AcceptsSingle Sample.signingHost Sample.key Sample.singleSignature
          (Sample.single Sample.rival Sample.gem)) ∧
      AcceptsItem Sample.signingHost Sample.key Sample.itemSignature
          (Sample.item Sample.shop Sample.coin).parameters ∧
        AcceptsItem Sample.signingHost Sample.key Sample.itemSignature
          (Sample.item Sample.rival Sample.gem).parameters :=
  ⟨Sample.signingHost_oneMessage,
    ⟨Sample.accepts_single_shop, Sample.accepts_single_rival⟩,
    Sample.accepts_item (by decide +kernel), Sample.accepts_item (by decide +kernel)⟩

end LumenFlow

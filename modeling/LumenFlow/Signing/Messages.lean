import LumenFlow.Signing.Binding

/-!
# Signed messages cannot be confused

For one network and one contract the two formats are injective, and below a
nonce of `14 * 2 ^ 32` no message of the one is a message of the other: where a
batch message has the tag of a string, the other has the high bytes of its nonce.
-/

namespace LumenFlow

open Kit Contract

/-- The fields that the signature of a single payment covers. -/
@[ext]
structure SingleMessage where
  nonce : Nat
  orderId : Text
  amount : Int
  timestamp : Nat
  nonceFits : U64 nonce
  orderFits : Sized orderId
  amountFits : InI128 amount
  timeFits : U64 timestamp

/-- The fields that the signature of an item of a batch covers. -/
@[ext]
structure ItemMessage where
  orderId : Text
  amount : Int
  orderFits : Sized orderId
  amountFits : InI128 amount

def SingleMessage.payload (host : Host) (message : SingleMessage) : Bytes :=
  signaturePayload host message.nonce message.orderId message.amount message.timestamp

def ItemMessage.payload (host : Host) (message : ItemMessage) : Bytes :=
  batchPayload host message.orderId message.amount

section Messages

variable {host : Host}

theorem SingleMessage.payload_injective : Function.Injective (SingleMessage.payload host) := by
  intro message other same
  obtain ⟨nonces, orders, amounts, times⟩ := signaturePayload_injective message.nonceFits
    other.nonceFits message.orderFits other.orderFits message.amountFits other.amountFits
    message.timeFits other.timeFits same
  exact SingleMessage.ext nonces orders amounts times

theorem ItemMessage.payload_injective : Function.Injective (ItemMessage.payload host) := by
  intro message other same
  obtain ⟨orders, amounts⟩ := batchPayload_injective message.orderFits other.orderFits
    message.amountFits other.amountFits same
  exact ItemMessage.ext orders amounts

theorem nonce_of_scvString {nonce : Nat} {text : Text} {rest otherRest : Bytes}
    (fits : U64 nonce)
    (same : Wire.bigEndian 8 nonce ++ rest = scvString text ++ otherRest) :
    nonce / 2 ^ 32 = 14 := by
  have split : Wire.bigEndian 8 nonce =
      Wire.bigEndian 4 (nonce / 256 ^ 4) ++ Wire.bigEndian 4 nonce :=
    Wire.bigEndian_add 4 4 nonce
  simp only [split, scvString, List.append_assoc] at same
  obtain ⟨tags, _⟩ := Wire.append_cancel (by simp) same
  have small : nonce / 256 ^ 4 < 256 ^ 4 := by
    simp only [U64, u64Max] at fits
    omega
  exact Wire.bigEndian_injective small (by norm_num) tags

theorem payloads_differ {single : SingleMessage} {item : ItemMessage}
    (low : single.nonce < 14 * 2 ^ 32) : single.payload host ≠ item.payload host := by
  intro same
  have fields := List.append_cancel_left (List.append_cancel_left same)
  have tag := nonce_of_scvString single.nonceFits fields
  omega

/-- Neither format says one thing in two ways, and with a nonce below `14 * 2 ^ 32`
no message is one of both formats. -/
theorem signed_messages_distinct (host : Host) :
    Function.Injective (SingleMessage.payload host) ∧
      Function.Injective (ItemMessage.payload host) ∧
      ∀ (single : SingleMessage) (item : ItemMessage), single.nonce < 14 * 2 ^ 32 →
        single.payload host ≠ item.payload host :=
  ⟨SingleMessage.payload_injective, ItemMessage.payload_injective,
    fun _ _ low => payloads_differ low⟩

end Messages

namespace Sample

def firstMessage : SingleMessage :=
  ⟨1, [1], 100, 0, by decide, by decide, by decide, by decide⟩

def firstItem : ItemMessage := ⟨[1], 100, by decide, by decide⟩

end Sample

theorem signed_messages_distinct_sample :
    Sample.firstMessage.payload Sample.host ≠ Sample.firstItem.payload Sample.host :=
  (signed_messages_distinct Sample.host).2.2 Sample.firstMessage Sample.firstItem (by decide)

end LumenFlow

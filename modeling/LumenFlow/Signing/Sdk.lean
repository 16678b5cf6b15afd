import LumenFlow.Model.Call

/-!
# The payload of the SDK and the payload of the contract

`buildPaymentPayload` of the TypeScript SDK, with `hash` and the XDR encodings that it takes
from its Stellar library.  The SDK writes the bare address where the contract writes a tagged
one, and leaves out the nonce and the time, so the two payloads never agree.
-/

namespace LumenFlow

open Kit Contract

namespace Sdk

/-- The loop that fills `amountBuf` from its last byte to its first. -/
def fillAmount : Nat → Nat → Bytes → Bytes
  | 0, _, amountBuf => amountBuf
  | count + 1, val, amountBuf =>
      fillAmount count (val / 256) (UInt8.ofNat (val % 256) :: amountBuf)

/-- The amount as a big-endian `i128`. -/
def amountBytes (amount : Int) : Bytes :=
  fillAmount 16 (if amount < 0 then amount + 2 ^ 128 else amount).toNat []

def buildPaymentPayload (hash : Bytes → Bytes) (networkPassphrase : Bytes) (contractId : Address)
    (orderId : Text) (amount : Int) : Bytes :=
  let networkId := hash networkPassphrase
  let contractIdXdr := scAddress contractId
  let orderIdXdr := scvString orderId
  networkId ++ (contractIdXdr ++ (orderIdXdr ++ amountBytes amount))

end Sdk

theorem length_fillAmount (count val : Nat) (amountBuf : Bytes) :
    (Sdk.fillAmount count val amountBuf).length = count + amountBuf.length := by
  induction count generalizing val amountBuf with
  | zero => simp [Sdk.fillAmount]
  | succ count inductionHypothesis =>
      rw [Sdk.fillAmount, inductionHypothesis, List.length_cons]
      omega

@[simp]
theorem length_scvString (text : Text) :
    (scvString text).length = 8 + (text.length + (4 - text.length % 4) % 4) := by
  simp [scvString]
  omega

/-- The contract's payload is twenty bytes longer: four for the tag of the address,
eight for the nonce and eight for the time. -/
theorem length_signaturePayload {host : Host} {hash : Bytes → Bytes} {networkPassphrase : Bytes}
    (network : host.networkId = hash networkPassphrase) (orderId : Text) (amount : Int)
    (nonce timestamp : Nat) :
    (signaturePayload host nonce orderId amount timestamp).length =
      (Sdk.buildPaymentPayload hash networkPassphrase host.self orderId amount).length + 20 := by
  simp [signaturePayload, Sdk.buildPaymentPayload, Sdk.amountBytes, length_fillAmount, scvAddress,
    network]
  omega

/-- On no input does the SDK sign what the contract verifies. -/
theorem buildPaymentPayload_ne_signaturePayload {host : Host} {hash : Bytes → Bytes}
    {networkPassphrase : Bytes} (network : host.networkId = hash networkPassphrase)
    (orderId : Text) (amount : Int) (nonce timestamp : Nat) :
    Sdk.buildPaymentPayload hash networkPassphrase host.self orderId amount ≠
      signaturePayload host nonce orderId amount timestamp := by
  intro same
  have lengths := length_signaturePayload network orderId amount nonce timestamp
  rw [← same] at lengths
  omega

namespace Sample

/-- The passphrase of the test network, `Test SDF Network ; September 2015`. -/
def networkPassphrase : Bytes :=
  [84, 101, 115, 116, 32, 83, 68, 70, 32, 78, 101, 116, 119, 111, 114, 107, 32, 59, 32, 83, 101,
    112, 116, 101, 109, 98, 101, 114, 32, 50, 48, 49, 53]

/-- The SHA-256 of the passphrase. -/
def networkHash : Bytes :=
  Wire.bigEndian 32 0xcee0302d59844d32bdca915c8203dd44b33fbb7edc19051ea37abedf28ecd472

/-- A hash that is SHA-256 on the passphrase. -/
def passphraseHash (message : Bytes) : Bytes :=
  if message = networkPassphrase then networkHash else List.replicate 32 0

/-- A host of the test network. -/
def testnet : Host := { host with networkId := networkHash }

theorem testnet_network : testnet.networkId = passphraseHash networkPassphrase := by
  simp [testnet, passphraseHash]

end Sample

theorem buildPaymentPayload_ne_signaturePayload_sample :
    Sdk.buildPaymentPayload Sample.passphraseHash Sample.networkPassphrase Sample.testnet.self [1]
        100 ≠
      signaturePayload Sample.testnet 1 [1] 100 0 :=
  buildPaymentPayload_ne_signaturePayload Sample.testnet_network [1] 100 1 0

/-- The payloads of one payment: 96 bytes against 116. -/
theorem payload_lengths_differ :
    Sample.testnet.networkId = Sample.passphraseHash Sample.networkPassphrase ∧
      (Sdk.buildPaymentPayload Sample.passphraseHash Sample.networkPassphrase Sample.testnet.self
          [1] 100).length = 96 ∧
      (signaturePayload Sample.testnet 1 [1] 100 0).length = 116 ∧
      Sdk.buildPaymentPayload Sample.passphraseHash Sample.networkPassphrase Sample.testnet.self
          [1] 100 ≠
        signaturePayload Sample.testnet 1 [1] 100 0 := by
  decide +kernel

end LumenFlow

import LumenFlow.Kit.Base64Url
import LumenFlow.Security.Strings

/-!
# Encryption of fields in the SDK

`encryptField`, `decryptField` and `rotateEnvelope`, and the envelope in which a ciphertext is
kept.  AES-256-GCM and the reading of malformed UTF-8 are functions of the host.
-/

namespace LumenFlow

open Kit

namespace Security

/-- AES-256-GCM of the host, and how it reads bytes that are not UTF-8. -/
structure Crypto where
  /-- The ciphertext and the tag of a plaintext, for a key, an IV and additional data. -/
  encrypt (key iv additional plaintext : Bytes) : Bytes × Bytes
  /-- `createDecipheriv` and `setAuthTag` take the IV and the tag. -/
  accepts (iv tag : Bytes) : Bool
  /-- The plaintext, if the tag is the right one. -/
  decrypt (key iv additional tag ciphertext : Bytes) : Option Bytes
  replaceMalformed : Bytes → JsString

/-- Decryption with the same key, IV, additional data and tag returns the plaintext. -/
structure Crypto.Correct (crypto : Crypto) : Prop where
  accepted : ∀ key iv additional plaintext : Bytes, key.length = 32 → iv.length = 12 →
    crypto.accepts iv (crypto.encrypt key iv additional plaintext).2 = true
  decrypted : ∀ key iv additional plaintext : Bytes, key.length = 32 → iv.length = 12 →
    crypto.decrypt key iv additional (crypto.encrypt key iv additional plaintext).2
      (crypto.encrypt key iv additional plaintext).1 = some plaintext

/-- `buffer.toString("utf8")` -/
def Crypto.toText (crypto : Crypto) (bytes : Bytes) : JsString :=
  (fromUtf8 bytes).getD (crypto.replaceMalformed bytes)

structure ManagedKey where
  keyId : JsString
  key : Bytes
  active : Option Bool
  deriving DecidableEq

structure Keyring where
  primary : ManagedKey
  previous : Option (List ManagedKey)
  deriving DecidableEq

/-- The candidates for decryption. -/
def Keyring.keys (keyring : Keyring) : List ManagedKey :=
  keyring.primary :: keyring.previous.getD []

/-- `randomBytes(IV_BYTES)` -/
structure Iv where
  bytes : Bytes
  length_eq : bytes.length = 12

inductive EncryptionError where
  | keyLength (keyId : JsString)
  | inactive (keyId : JsString)
  | malformed
  | unknownKey (keyId : JsString)
  /-- An error of `createDecipheriv` or `setAuthTag`. -/
  | rejected
  | authentication
  deriving DecidableEq

def scheme : JsString := ['v', '1']
def keyBytes : Nat := 32

def normalizeKey (managed : ManagedKey) : Except EncryptionError Bytes :=
  if managed.key.length ≠ keyBytes then .error (.keyLength managed.keyId) else .ok managed.key

/-- The additional data that bind the key identifier. -/
def additionalData (keyId : JsString) : Bytes := utf8 (scheme ++ '.' :: keyId)

def encryptField (crypto : Crypto) (iv : Iv) (plaintext : JsString) (keyring : Keyring) :
    Except EncryptionError JsString :=
  let managed := keyring.primary
  if managed.active = some false then .error (.inactive managed.keyId)
  else do
    let key ← normalizeKey managed
    let (ciphertext, tag) := crypto.encrypt key iv.bytes (additionalData managed.keyId)
      (utf8 plaintext)
    .ok (joinDots [scheme, managed.keyId, Base64Url.encode iv.bytes, Base64Url.encode tag,
      Base64Url.encode ciphertext])

def decryptField (crypto : Crypto) (envelope : JsString) (keyring : Keyring) :
    Except EncryptionError JsString :=
  match splitDots envelope with
  | [version, keyId, ivRaw, tagRaw, ciphertextRaw] =>
      if version ≠ scheme then .error .malformed
      else
        match keyring.keys.find? (·.keyId = keyId) with
        | none => .error (.unknownKey keyId)
        | some managed => do
            let key ← normalizeKey managed
            let iv := Base64Url.decode ivRaw
            let tag := Base64Url.decode tagRaw
            if ¬ crypto.accepts iv tag then .error .rejected
            else
              match crypto.decrypt key iv (additionalData keyId) tag
                (Base64Url.decode ciphertextRaw) with
              | none => .error .authentication
              | some plaintext => .ok (crypto.toText plaintext)
  | _ => .error .malformed

def isEncryptedEnvelope (value : JsString) : Bool :=
  (scheme ++ ['.']).isPrefixOf value && (splitDots value).length == 5

def rotateEnvelope (crypto : Crypto) (iv : Iv) (envelope : JsString) (keyring : Keyring) :
    Except EncryptionError JsString := do
  let plaintext ← decryptField crypto envelope keyring
  encryptField crypto iv plaintext keyring

end Security

end LumenFlow

import Mathlib.Data.List.Nodup
import LumenFlow.Security.Encryption

/-!
# Reading encrypted fields back

An envelope joins its fields with dots, and the key identifier is one of them.  It can be read
back, and rotated, exactly if the identifier has no dot.
-/

namespace LumenFlow

open Kit

namespace Security

/-- The keys have 32 bytes, and non-empty identifiers that tell them apart. -/
structure Keyring.Valid (keyring : Keyring) : Prop where
  sized : ∀ managed ∈ keyring.keys, managed.key.length = 32
  named : ∀ managed ∈ keyring.keys, managed.keyId ≠ []
  distinct : (keyring.keys.map ManagedKey.keyId).Nodup

/-- A valid keyring whose primary key may encrypt. -/
structure Keyring.Encrypts (keyring : Keyring) : Prop extends keyring.Valid where
  active : keyring.primary.active ≠ some false

/-- The keyring contains a key, which may have been rotated out. -/
def Keyring.Holds (keyring : Keyring) (managed : ManagedKey) : Prop :=
  ∃ other ∈ keyring.keys, other.keyId = managed.keyId ∧ other.key = managed.key

/-- The envelope, rotated to one keyring after another. -/
def rotateAll (crypto : Crypto) (envelope : JsString) :
    List (Keyring × Iv) → Except EncryptionError JsString
  | [] => .ok envelope
  | (keyring, iv) :: rest => do
      let rotated ← rotateEnvelope crypto iv envelope keyring
      rotateAll crypto rotated rest

/-- Each keyring can encrypt and holds the primary key of the one before it, and the last one
holds the key with which the envelope was rotated last. -/
def Succeeds (managed : ManagedKey) : List (Keyring × Iv) → Keyring → Prop
  | [], last => last.Valid ∧ last.Holds managed
  | (keyring, _) :: rest, last =>
      keyring.Encrypts ∧ keyring.Holds managed ∧ Succeeds keyring.primary rest last

/-- The field is encrypted and rotated, the result is an envelope, and reading it gives the field
back. -/
def ReadsBack (crypto : Crypto) (iv : Iv) (plaintext : JsString) (keyring : Keyring)
    (rotations : List (Keyring × Iv)) (last : Keyring) : Prop :=
  ∃ sealed envelope, encryptField crypto iv plaintext keyring = .ok sealed ∧
    rotateAll crypto sealed rotations = .ok envelope ∧
    isEncryptedEnvelope envelope = true ∧ decryptField crypto envelope last = .ok plaintext

/-- The identifier of the primary key is one field of an envelope. -/
def Keyring.Plain (keyring : Keyring) : Prop := '.' ∉ keyring.primary.keyId

instance (keyring : Keyring) : Decidable keyring.Plain := inferInstanceAs (Decidable (¬ _))

/-- The envelope that `encryptField` writes. -/
def envelopeOf (crypto : Crypto) (iv : Iv) (plaintext : JsString) (managed : ManagedKey) :
    JsString :=
  let sealed := crypto.encrypt managed.key iv.bytes (additionalData managed.keyId) (utf8 plaintext)
  joinDots [scheme, managed.keyId, Base64Url.encode iv.bytes, Base64Url.encode sealed.2,
    Base64Url.encode sealed.1]

section Envelopes

variable {crypto : Crypto} {iv : Iv} {plaintext : JsString} {keyring last : Keyring}
  {managed : ManagedKey}

theorem normalizeKey_eq (sized : managed.key.length = 32) :
    normalizeKey managed = .ok managed.key :=
  if_neg (not_not.mpr sized)

theorem encryptField_eq (encrypts : keyring.Encrypts) : encryptField crypto iv plaintext keyring =
    .ok (envelopeOf crypto iv plaintext keyring.primary) := by
  have sized := encrypts.sized keyring.primary List.mem_cons_self
  simp [encryptField, envelopeOf, normalizeKey_eq sized, encrypts.active, bind, Except.bind]

theorem splitDots_envelopeOf (plain : '.' ∉ managed.keyId) :
    splitDots (envelopeOf crypto iv plaintext managed) =
      [scheme, managed.keyId, Base64Url.encode iv.bytes,
        Base64Url.encode (crypto.encrypt managed.key iv.bytes (additionalData managed.keyId)
          (utf8 plaintext)).2,
        Base64Url.encode (crypto.encrypt managed.key iv.bytes (additionalData managed.keyId)
          (utf8 plaintext)).1] := by
  apply splitDots_joinDots (List.cons_ne_nil _ _)
  simp only [List.forall_mem_cons]
  exact ⟨by decide, plain, Base64Url.dot_notMem_encode _, Base64Url.dot_notMem_encode _,
    Base64Url.dot_notMem_encode _, nofun⟩

theorem isEncryptedEnvelope_envelopeOf (plain : '.' ∉ managed.keyId) :
    isEncryptedEnvelope (envelopeOf crypto iv plaintext managed) = true := by
  rw [isEncryptedEnvelope, splitDots_envelopeOf plain]
  simp [envelopeOf, joinDots, List.isPrefixOf_iff_prefix, List.intercalate_cons_cons]

theorem find_key (valid : last.Valid) (holds : last.Holds managed) :
    ∃ found, last.keys.find? (·.keyId = managed.keyId) = some found ∧
      normalizeKey found = .ok managed.key := by
  obtain ⟨other, member, sameId, sameKey⟩ := holds
  cases lookup : last.keys.find? (·.keyId = managed.keyId) with
  | none =>
      have missing := List.find?_eq_none.mp lookup other member
      exact absurd sameId (by simpa using missing)
  | some found =>
      have foundId : found.keyId = managed.keyId := by simpa using List.find?_some lookup
      have foundMember := List.mem_of_find?_eq_some lookup
      obtain rfl : found = other :=
        List.inj_on_of_nodup_map valid.distinct foundMember member (foundId.trans sameId.symm)
      exact ⟨found, rfl, sameKey ▸ normalizeKey_eq (valid.sized found member)⟩

theorem decryptField_envelopeOf (correct : crypto.Correct) (sized : managed.key.length = 32)
    (plain : '.' ∉ managed.keyId) (valid : last.Valid) (holds : last.Holds managed) :
    decryptField crypto (envelopeOf crypto iv plaintext managed) last = .ok plaintext := by
  obtain ⟨found, lookup, normalized⟩ := find_key valid holds
  have accepted := correct.accepted managed.key iv.bytes (additionalData managed.keyId)
    (utf8 plaintext) sized iv.length_eq
  have decrypted := correct.decrypted managed.key iv.bytes (additionalData managed.keyId)
    (utf8 plaintext) sized iv.length_eq
  rw [decryptField, splitDots_envelopeOf plain]
  simp [lookup, normalized, Base64Url.decode_encode, accepted, decrypted, Crypto.toText,
    fromUtf8_utf8, bind, Except.bind]

theorem envelopeOf_dotted (dotted : '.' ∈ managed.keyId) :
    5 < (splitDots (envelopeOf crypto iv plaintext managed)).length :=
  @length_splitDots_joinDots scheme [managed.keyId, _, _, _] ⟨managed.keyId, by simp, dotted⟩

theorem decryptField_dotted (dotted : '.' ∈ managed.keyId) (last : Keyring) :
    decryptField crypto (envelopeOf crypto iv plaintext managed) last = .error .malformed := by
  have long := @envelopeOf_dotted crypto iv plaintext managed dotted
  unfold decryptField
  split
  · next fields => simp [fields] at long
  · rfl

/-- What is left of an envelope with such an identifier: no keyring and no rotation reads it. -/
theorem rotateEnvelope_dotted (dotted : '.' ∈ managed.keyId) (other : Iv) (last : Keyring) :
    rotateEnvelope crypto other (envelopeOf crypto iv plaintext managed) last =
      .error .malformed := by
  rw [rotateEnvelope, decryptField_dotted dotted]
  rfl

theorem rotateEnvelope_envelopeOf (correct : crypto.Correct) (sized : managed.key.length = 32)
    (plain : '.' ∉ managed.keyId) (encrypts : keyring.Encrypts) (holds : keyring.Holds managed)
    (other : Iv) :
    rotateEnvelope crypto other (envelopeOf crypto iv plaintext managed) keyring =
      .ok (envelopeOf crypto other plaintext keyring.primary) := by
  rw [rotateEnvelope, decryptField_envelopeOf correct sized plain encrypts.toValid holds]
  exact encryptField_eq encrypts

end Envelopes

section Rotations

variable {crypto : Crypto} {last : Keyring} {managed : ManagedKey}
  {rotations : List (Keyring × Iv)}

/-- An envelope survives its rotations exactly if no identifier on the way has a dot. -/
theorem rotations_readBack (correct : crypto.Correct) (iv : Iv) (plaintext : JsString)
    (sized : managed.key.length = 32)
    (succeeds : Succeeds managed rotations last) :
    (∃ envelope, rotateAll crypto (envelopeOf crypto iv plaintext managed) rotations =
        .ok envelope ∧
      isEncryptedEnvelope envelope = true ∧ decryptField crypto envelope last = .ok plaintext) ↔
      '.' ∉ managed.keyId ∧ ∀ rotation ∈ rotations, rotation.1.Plain := by
  induction rotations generalizing managed iv with
  | nil =>
      obtain ⟨valid, holds⟩ := succeeds
      constructor
      · rintro ⟨_, ⟨⟩, _, read⟩
        refine ⟨fun dotted => ?_, nofun⟩
        exact nomatch (decryptField_dotted dotted last).symm.trans read
      · rintro ⟨plain, _⟩
        exact ⟨_, rfl, isEncryptedEnvelope_envelopeOf plain,
          decryptField_envelopeOf correct sized plain valid holds⟩
  | cons rotation rest inductionHypothesis =>
      obtain ⟨keyring, other⟩ := rotation
      obtain ⟨encrypts, holds, succeeds⟩ := succeeds
      by_cases dotted : '.' ∈ managed.keyId
      · refine iff_of_false ?_ fun both => both.1 dotted
        rintro ⟨envelope, rotated, _⟩
        rw [rotateAll, rotateEnvelope_dotted dotted] at rotated
        exact nomatch rotated
      · rw [rotateAll, rotateEnvelope_envelopeOf correct sized dotted encrypts holds]
        refine (inductionHypothesis other (encrypts.sized _ List.mem_cons_self) succeeds).trans ?_
        simp only [List.forall_mem_cons, dotted, not_false_eq_true, true_and]
        rfl

end Rotations

/-- A field that is encrypted and rotated is read back by every later keyring exactly if the
identifier of every primary key on the way has no dot. -/
theorem readsBack_iff_plain (crypto : Crypto) (correct : crypto.Correct) (iv : Iv)
    (plaintext : JsString) (keyring : Keyring) (encrypts : keyring.Encrypts)
    (rotations : List (Keyring × Iv)) (last : Keyring)
    (succeeds : Succeeds keyring.primary rotations last) :
    ReadsBack crypto iv plaintext keyring rotations last ↔
      keyring.Plain ∧ ∀ rotation ∈ rotations, rotation.1.Plain := by
  refine Iff.trans ?_
    (rotations_readBack correct iv plaintext (encrypts.sized _ List.mem_cons_self) succeeds)
  constructor
  · rintro ⟨sealed, envelope, encrypted, rest⟩
    rw [encryptField_eq encrypts] at encrypted
    obtain rfl := Except.ok.inj encrypted
    exact ⟨envelope, rest⟩
  · rintro ⟨envelope, rest⟩
    exact ⟨_, envelope, encryptField_eq encrypts, rest⟩

namespace Vault

/-- A known answer of AES-256-GCM. -/
structure KnownAnswer where
  key : Bytes
  iv : Bytes
  additional : Bytes
  plaintext : Bytes
  ciphertext : Bytes
  tag : Bytes
  deriving DecidableEq

def firstKey : Bytes := List.replicate 32 1
def secondKey : Bytes := List.replicate 32 2

theorem length_ones : (List.replicate 12 1 : Bytes).length = 12 := rfl
theorem length_twos : (List.replicate 12 2 : Bytes).length = 12 := rfl

def firstIv : Iv := ⟨List.replicate 12 1, length_ones⟩
def secondIv : Iv := ⟨List.replicate 12 2, length_twos⟩

def plaintext : JsString := ['I', 'B', 'A', 'N']

def answers : List KnownAnswer := [
  ⟨firstKey, firstIv.bytes, additionalData ['k', '1'], utf8 plaintext, [251, 59, 251, 212],
    [115, 232, 82, 131, 134, 5, 83, 59, 247, 179, 183, 45, 161, 210, 21, 187]⟩,
  ⟨secondKey, secondIv.bytes, additionalData ['k', '2'], utf8 plaintext, [33, 134, 47, 203],
    [19, 95, 40, 196, 56, 255, 241, 156, 134, 81, 149, 46, 180, 93, 134, 246]⟩,
  ⟨firstKey, firstIv.bytes, additionalData ['k', '.', '1'], utf8 plaintext, [251, 59, 251, 212],
    [17, 207, 31, 129, 7, 222, 37, 204, 207, 89, 129, 169, 208, 243, 181, 7]⟩]

def noTag : Bytes := List.replicate 16 0

/-- The known answers, and the identity with a fixed tag elsewhere. -/
def crypto : Crypto where
  encrypt key iv additional plaintext :=
    match answers.find? fun answer => answer.key = key ∧ answer.iv = iv ∧
        answer.additional = additional ∧ answer.plaintext = plaintext with
    | some answer => (answer.ciphertext, answer.tag)
    | none => (plaintext, noTag)
  accepts iv tag := iv.length = 12 ∧ tag.length = 16
  decrypt key iv additional tag ciphertext :=
    match answers.find? fun answer => answer.key = key ∧ answer.iv = iv ∧
        answer.additional = additional ∧ answer.ciphertext = ciphertext ∧ answer.tag = tag with
    | some answer => some answer.plaintext
    | none => if tag = noTag then some ciphertext else none
  replaceMalformed bytes := bytes.map fun _ => Char.ofNat 65533

theorem answers_tagged : ∀ answer ∈ answers, answer.tag.length = 16 ∧ answer.tag ≠ noTag := by
  decide

theorem answers_agree : ∀ answer ∈ answers, answer.plaintext = utf8 plaintext := by
  decide

theorem crypto_correct : crypto.Correct := by
  constructor
  · intro key iv additional plaintext _ length
    simp only [crypto, decide_eq_true_eq]
    refine ⟨length, ?_⟩
    split
    · next answer found => exact (answers_tagged answer (List.mem_of_find?_eq_some found)).1
    · rfl
  · intro key iv additional plaintext _ _
    simp only [crypto]
    cases found : answers.find? fun answer => answer.key = key ∧ answer.iv = iv ∧
        answer.additional = additional ∧ answer.plaintext = plaintext with
    | none =>
        have unknown : answers.find? (fun answer => answer.key = key ∧ answer.iv = iv ∧
            answer.additional = additional ∧ answer.ciphertext = plaintext ∧
            answer.tag = noTag) = none := by
          rw [List.find?_eq_none]
          intro answer member same
          exact (answers_tagged answer member).2 (of_decide_eq_true same).2.2.2.2
        simp only [unknown, if_true]
    | some answer =>
        have member := List.mem_of_find?_eq_some found
        obtain ⟨rfl, rfl, rfl, rfl⟩ : answer.key = key ∧ answer.iv = iv ∧
            answer.additional = additional ∧ answer.plaintext = plaintext := by
          simpa using List.find?_some found
        split
        · next other again =>
            rw [answers_agree other (List.mem_of_find?_eq_some again), answers_agree answer member]
        · next none =>
            exact absurd (List.find?_eq_none.mp none answer member) (by simp)

def firstKeyring : Keyring := ⟨⟨['k', '1'], firstKey, none⟩, none⟩

/-- The first key is rotated out. -/
def secondKeyring : Keyring :=
  ⟨⟨['k', '2'], secondKey, none⟩, some [⟨['k', '1'], firstKey, some false⟩]⟩

def lastKeyring : Keyring := ⟨⟨['k', '2'], secondKey, none⟩, none⟩

def dottedKeyring : Keyring := ⟨⟨['k', '.', '1'], firstKey, none⟩, none⟩

theorem first_encrypts : firstKeyring.Encrypts := ⟨⟨by decide, by decide, by decide⟩, by decide⟩

theorem second_encrypts : secondKeyring.Encrypts := ⟨⟨by decide, by decide, by decide⟩, by decide⟩

theorem last_valid : lastKeyring.Valid := ⟨by decide, by decide, by decide⟩

theorem dotted_encrypts : dottedKeyring.Encrypts := ⟨⟨by decide, by decide, by decide⟩, by decide⟩

end Vault

theorem rotated_field_reads_back :
    ReadsBack Vault.crypto Vault.firstIv Vault.plaintext Vault.firstKeyring
      [(Vault.secondKeyring, Vault.secondIv)] Vault.lastKeyring :=
  (readsBack_iff_plain Vault.crypto Vault.crypto_correct Vault.firstIv Vault.plaintext
    Vault.firstKeyring Vault.first_encrypts [(Vault.secondKeyring, Vault.secondIv)]
    Vault.lastKeyring
    ⟨Vault.second_encrypts, ⟨_, List.mem_cons_of_mem _ List.mem_cons_self, rfl, rfl⟩,
      Vault.last_valid, ⟨_, List.mem_cons_self, rfl, rfl⟩⟩).mpr ⟨by decide, by decide⟩

/-- A valid keyring whose key identifier has a dot encrypts fields that it cannot read. -/
theorem dotted_field_lost :
    Vault.crypto.Correct ∧ Vault.dottedKeyring.Encrypts ∧
      Succeeds Vault.dottedKeyring.primary [] Vault.dottedKeyring ∧
      ¬ ReadsBack Vault.crypto Vault.firstIv Vault.plaintext Vault.dottedKeyring []
        Vault.dottedKeyring := by
  refine ⟨Vault.crypto_correct, Vault.dotted_encrypts,
    ⟨Vault.dotted_encrypts.toValid, ⟨_, List.mem_cons_self, rfl, rfl⟩⟩, ?_⟩
  rintro ⟨sealed, envelope, encrypted, rotated, _, read⟩
  rw [encryptField_eq Vault.dotted_encrypts] at encrypted
  obtain rfl := Except.ok.inj encrypted
  obtain rfl := Except.ok.inj rotated
  rw [decryptField_dotted (by decide)] at read
  exact nomatch read

end Security

end LumenFlow

import LumenFlow.Effect.Roster
import LumenFlow.Signing.Binding

/-!
# Registration by commit and reveal

A reveal has to match the pending commitment of its own merchant.  Where hashes
do not collide, the commitment fixes the merchant, the name and the nonce.
Pending commitments are temporary entries, so the ledger may drop one at any time.
-/

namespace LumenFlow

open Kit Contract

/-- The text that is hashed for a commitment. -/
def preImage (merchant : Address) (name : Text) (nonce : Bytes) : Bytes :=
  scvAddress merchant ++ scvString name ++ nonce

section Encoding

theorem scvAddress_append_injective {first second : Address} {firstRest secondRest : Bytes}
    (same : scvAddress first ++ firstRest = scvAddress second ++ secondRest) :
    first = second ∧ firstRest = secondRest := by
  simp only [scvAddress, List.append_assoc] at same
  have bodies := List.append_cancel_left same
  have tags {front back : Nat} {rest otherRest : Bytes} (frontFits : front < 256 ^ 4)
      (backFits : back < 256 ^ 4)
      (both : Wire.bigEndian 4 front ++ rest = Wire.bigEndian 4 back ++ otherRest) :
      front = back ∧ rest = otherRest := by
    obtain ⟨digits, rests⟩ := Wire.append_cancel (by simp) both
    exact ⟨Wire.bigEndian_injective frontFits backFits digits, rests⟩
  have words {front back : BitVec 256} {rest otherRest : Bytes}
      (both : Wire.bigEndian 32 front.toNat ++ rest = Wire.bigEndian 32 back.toNat ++ otherRest) :
      front = back ∧ rest = otherRest := by
    obtain ⟨digits, rests⟩ := Wire.append_cancel (by simp) both
    have bound : 2 ^ 256 = 256 ^ 32 := by norm_num
    exact ⟨BitVec.eq_of_toNat_eq (Wire.bigEndian_injective (bound ▸ front.isLt)
      (bound ▸ back.isLt) digits), rests⟩
  cases first with
  | account firstKey =>
      cases second with
      | account secondKey =>
          simp only [scAddress, List.append_assoc] at bodies
          obtain ⟨_, keyed⟩ := tags (by norm_num) (by norm_num) bodies
          obtain ⟨_, keys⟩ := tags (by norm_num) (by norm_num) keyed
          obtain ⟨rfl, rests⟩ := words keys
          exact ⟨rfl, rests⟩
      | contract id =>
          simp only [scAddress, List.append_assoc] at bodies
          exact absurd (tags (by norm_num) (by norm_num) bodies).1 (by decide)
  | contract firstId =>
      cases second with
      | account key =>
          simp only [scAddress, List.append_assoc] at bodies
          exact absurd (tags (by norm_num) (by norm_num) bodies).1 (by decide)
      | contract secondId =>
          simp only [scAddress, List.append_assoc] at bodies
          obtain ⟨_, ids⟩ := tags (by norm_num) (by norm_num) bodies
          obtain ⟨rfl, rests⟩ := words ids
          exact ⟨rfl, rests⟩

/-- The hashed text determines the merchant, the name and the nonce. -/
theorem preImage_injective {merchant other : Address} {name otherName : Text}
    {nonce otherNonce : Bytes} (nameFits : Sized name) (otherFits : Sized otherName)
    (same : preImage merchant name nonce = preImage other otherName otherNonce) :
    merchant = other ∧ name = otherName ∧ nonce = otherNonce := by
  simp only [preImage, List.append_assoc] at same
  obtain ⟨merchants, rest⟩ := scvAddress_append_injective same
  obtain ⟨names, nonces⟩ := scvString_append_injective nameFits otherFits rest
  exact ⟨merchants, names, nonces⟩

end Encoding

/-- An action, or the end of a pending commitment, which is a temporary entry. -/
inductive RegistryEvent where
  | act (action : Action)
  | lapse (merchant : Address)

def RegistryEvent.step (host : Host) (world : World) : RegistryEvent → World
  | .act action => LumenFlow.step host world action
  | .lapse merchant => world.removeMerchantCommitment merchant

/-- The commitment that a call makes, as of the ledger in which it comes. -/
def Call.commitments (world : World) : Call → List MerchantCommitment
  | .merchant (.commitMerchantRegistration merchantAddress commitmentHash) =>
      [⟨merchantAddress, commitmentHash, world.sequence⟩]
  | _ => []

/-- What the accepted call of an event leaves behind. -/
def RegistryEvent.note {Entry : Type} (host : Host) (entries : World → Call → List Entry)
    (world : World) : RegistryEvent → List Entry
  | .act action => noteAccepted host (fun world _ call => entries world call) world action
  | .lapse _ => []

/-- The commitments that a run accepts. -/
def commitmentsIn (host : Host) : World → List RegistryEvent → List MerchantCommitment :=
  history (RegistryEvent.step host)
    (RegistryEvent.note host fun world call => call.commitments world)

/-- The merchants that a run registers, on either way, an entry for each registration. -/
def registeredIn (host : Host) : World → List RegistryEvent → List Address :=
  history (RegistryEvent.step host) (RegistryEvent.note host fun _ call => call.registrations)

section Runs

variable {host : Host} {start world next : World} {env : Env} {call : Call}

/-- The pending commitments are among those of the run, and none is from a later ledger. -/
structure Committed (world : World) (past : List MerchantCommitment) : Prop where
  pending : ∀ merchant commitment, world.getMerchantCommitment merchant = some commitment →
    commitment ∈ past
  elapsed : ∀ commitment ∈ past, commitment.committedAtLedger ≤ world.sequence
  clock : world.sequence ≤ u32Max

theorem Call.commitments_cases (call : Call) (world : World) :
    .commitments ∉ call.parts ∧ call.commitments world = [] ∨
      (∃ merchant hash, call = .merchant (.commitMerchantRegistration merchant hash)) ∨
      ∃ merchant name description contactInfo category nonce, call = .merchant
        (.revealMerchantRegistration merchant name description contactInfo category nonce) := by
  cases call with
  | merchant call =>
      cases call with
      | commitMerchantRegistration merchant hash => exact .inr (.inl ⟨merchant, hash, rfl⟩)
      | revealMerchantRegistration merchant name description contactInfo category nonce =>
          exact .inr (.inr ⟨_, _, _, _, _, _, rfl⟩)
      | _ => exact .inl ⟨by simp [Call.parts, MerchantCall.parts], rfl⟩
  | admin call => exact .inl ⟨by cases call <;> simp [Call.parts, AdminCall.parts], rfl⟩
  | payment call => exact .inl ⟨by cases call <;> simp [Call.parts, PaymentCall.parts], rfl⟩
  | refund call => exact .inl ⟨by cases call <;> simp [Call.parts, RefundCall.parts], rfl⟩
  | multisig call => exact .inl ⟨by cases call <;> simp [Call.parts, MultisigCall.parts], rfl⟩
  | subscription call =>
      exact .inl ⟨by cases call <;> simp [Call.parts, SubscriptionCall.parts], rfl⟩
  | escrow call => exact .inl ⟨by cases call <;> simp [Call.parts, EscrowCall.parts], rfl⟩

/-- After a committed call, a pending commitment is an old one or the one that the call makes. -/
theorem Call.pending_cases (committed : call.exec.Commits env world () next) {merchant : Address}
    {commitment : MerchantCommitment}
    (found : next.getMerchantCommitment merchant = some commitment) :
    world.getMerchantCommitment merchant = some commitment ∨
      commitment ∈ call.commitments world := by
  rcases call.commitments_cases world with ⟨silent, _⟩ | ⟨named, hash, rfl⟩ |
    ⟨named, name, description, contactInfo, category, nonce, rfl⟩
  · have same : next.merchants.commitments = world.merchants.commitments :=
      call.writes.frame committed .commitments silent
    rw [World.getMerchantCommitment, same] at found
    exact .inl found
  · simp [Call.exec, MerchantCall.exec, Contract.commitMerchantRegistration] at committed
    obtain ⟨_, _, _, _, rfl⟩ := committed
    rcases Table.get_put_cases found with ⟨_, rfl⟩ | stored
    · exact .inr (List.mem_singleton_self _)
    · exact .inl stored
  · simp [Call.exec, MerchantCall.exec, Contract.revealMerchantRegistration, addActiveMerchant]
      at committed
    obtain ⟨_, _, _, _, _, _, _, _, _, _, rfl⟩ := committed
    exact .inl (Table.sub_erase _ named merchant commitment found)

theorem committedAt_of_mem {commitment : MerchantCommitment}
    (made : commitment ∈ call.commitments world) :
    commitment.committedAtLedger = world.sequence := by
  unfold Call.commitments at made
  split at made
  · rw [List.mem_singleton.mp made]
  · exact (List.not_mem_nil made).elim

/-- The commitment, the only one of its hash, is the merchant's own for just this name and
nonce, and not too old. -/
structure Reveals (host : Host) (commitment : MerchantCommitment) (merchant : Address)
    (name : Text) (nonce : Bytes) (now : Nat) : Prop where
  owner : commitment.merchantAddress = merchant
  encoding : ∀ encoding, commitment.commitmentHash = host.sha256 encoding ↔
    encoding = preImage merchant name nonce
  binding : ∀ other otherName otherNonce, Sized otherName →
    commitment.commitmentHash = host.sha256 (preImage other otherName otherNonce) →
      other = merchant ∧ otherName = name ∧ otherNonce = nonce
  recent : commitment.committedAtLedger ≤ now ∧
    now ≤ commitment.committedAtLedger + commitmentTtlLedgers

/-- A run registers each merchant at most once, so that the commitment of a merchant is used
for one registration at most, and by an earlier commitment when it is revealed. -/
structure RegistrationSound (host : Host) (start : World) (events : List RegistryEvent) :
    Prop where
  revealed : ∀ before after auth permits merchant name description contactInfo category nonce,
    events = before ++ .act (.invoke auth permits (.merchant (.revealMerchantRegistration merchant
      name description contactInfo category nonce))) :: after →
    Accepted host (run (RegistryEvent.step host) start before) auth permits
      (.merchant (.revealMerchantRegistration merchant name description contactInfo category
        nonce)) →
    ∃ commitment ∈ commitmentsIn host start before, Reveals host commitment merchant name nonce
      (run (RegistryEvent.step host) start before).sequence
  once : (registeredIn host start events).Nodup
  list : (run (RegistryEvent.step host) start events).getMerchantList =
    registeredIn host start events
  stored : ∀ address, address ∈ (run (RegistryEvent.step host) start events).getMerchantList ↔
    (run (RegistryEvent.step host) start events).getMerchant address ≠ none

theorem Committed.step {past : List MerchantCommitment} (known : Committed world past)
    (event : RegistryEvent) :
    Committed (event.step host world)
      (past ++ event.note host (fun world call => call.commitments world) world) := by
  cases event with
  | act action =>
      obtain ⟨later, clock⟩ := step_sequence host action known.clock
      rcases step_cases host world action with
        ⟨auth, permits, call, rfl, succeeded⟩ | ⟨silent, bank, sequence, timestamp, same⟩
      · rw [RegistryEvent.note, noteAccepted_of_accepted succeeded.accepted]
        refine ⟨?_, ?_, clock⟩
        · intro merchant commitment found
          rcases Call.pending_cases succeeded.executes found with old | made
          · exact List.mem_append_left _ (known.pending merchant commitment old)
          · exact List.mem_append_right _ made
        · intro commitment member
          rcases List.mem_append.mp member with old | made
          · exact (known.elapsed commitment old).trans later
          · rw [committedAt_of_mem made]
            exact later
      · rw [RegistryEvent.note, silent, List.append_nil]
        refine ⟨?_, fun commitment member => (known.elapsed commitment member).trans later, clock⟩
        intro merchant commitment found
        rw [RegistryEvent.step, same] at found
        exact known.pending merchant commitment found
  | lapse merchant =>
      rw [RegistryEvent.note, List.append_nil]
      refine ⟨?_, known.elapsed, known.clock⟩
      intro other commitment found
      exact known.pending other commitment (Table.sub_erase _ merchant other commitment found)

theorem committed_run (deployed : Deployed host start) (clock : start.sequence ≤ u32Max)
    (events : List RegistryEvent) :
    Committed (run (RegistryEvent.step host) start events) (commitmentsIn host start events) := by
  have initial : Committed start [] := by
    refine ⟨?_, fun _ none => (List.not_mem_nil none).elim, clock⟩
    obtain ⟨bank, timestamp, sequence, _, _, rfl⟩ := deployed
    intro merchant commitment found
    simp [World.deployed] at found
  have stepwise : ∀ world past event, Committed world past →
      Committed (RegistryEvent.step host world event)
        (past ++ RegistryEvent.note host (fun world call => call.commitments world) world event) :=
    fun _ _ event known => known.step event
  exact history_invariant stepwise initial events

theorem reveal_matches {auth : List Address} {permits : TokenCall → Bool} {merchant : Address}
    {name description contactInfo : Text} {category : MerchantCategory} {nonce : Bytes}
    (succeeds : Succeeds host world auth permits (.merchant (.revealMerchantRegistration merchant
      name description contactInfo category nonce)) next) :
    Sized name ∧ ∃ commitment, world.getMerchantCommitment merchant = some commitment ∧
      world.sequence ≤ commitment.committedAtLedger + commitmentTtlLedgers ∧
      commitment.commitmentHash = host.sha256 (preImage merchant name nonce) := by
  obtain ⟨fits, executed⟩ := succeeds_iff.mp succeeds
  simp [Call.exec, MerchantCall.exec, Contract.revealMerchantRegistration] at executed
  obtain ⟨_, _, _, _, _, commitment, found, recent, hashed, _⟩ := executed
  refine ⟨fits.1, commitment, found, by omega, ?_⟩
  rw [preImage, List.append_assoc]
  exact hashed.symm

/-- Where hashes do not collide, a matching commitment of the run is one that is revealed. -/
theorem Committed.reveals {past : List MerchantCommitment} (known : Committed world past)
    (collisionFree : Function.Injective host.sha256) {merchant : Address} {name : Text}
    {nonce : Bytes} (sized : Sized name) {commitment : MerchantCommitment}
    (found : world.getMerchantCommitment merchant = some commitment)
    (recent : world.sequence ≤ commitment.committedAtLedger + commitmentTtlLedgers)
    (hashed : commitment.commitmentHash = host.sha256 (preImage merchant name nonce)) :
    Reveals host commitment merchant name nonce world.sequence where
  owner := Table.key_of_get found
  encoding encoding := by
    rw [hashed]
    exact ⟨fun same => (collisionFree same).symm, fun same => by rw [same]⟩
  binding other otherName otherNonce otherSized same := by
    have texts := collisionFree (same.symm.trans hashed)
    exact preImage_injective otherSized sized texts
  recent := ⟨known.elapsed commitment (known.pending merchant commitment found), recent⟩

/-- The merchants are listed, each once, in the order of the registrations. -/
theorem registered_run (deployed : Deployed host start) (events : List RegistryEvent) :
    (run (RegistryEvent.step host) start events).Rostered ∧
      (run (RegistryEvent.step host) start events).merchants.list =
        registeredIn host start events := by
  let Listed (world : World) (past : List Address) : Prop :=
    world.Rostered ∧ world.merchants.list = past
  have stepwise : ∀ world past event, Listed world past →
      Listed (RegistryEvent.step host world event)
        (past ++ RegistryEvent.note host (fun _ call => call.registrations) world event) := by
    rintro world past event ⟨rostered, list⟩
    cases event with
    | act action =>
        apply And.intro (rostered.step action)
        rcases step_cases host world action with
          ⟨auth, permits, call, rfl, succeeded⟩ | ⟨silent, bank, sequence, timestamp, same⟩
        · rw [RegistryEvent.note, noteAccepted_of_accepted succeeded.accepted, ← list]
          exact Call.merchantList_spec succeeded.executes rostered.legacy
        · rw [RegistryEvent.note, silent, RegistryEvent.step, same, List.append_nil]
          exact list
    | lapse merchant =>
        rw [RegistryEvent.note, List.append_nil]
        exact ⟨⟨rostered.legacy, rostered.distinct, rostered.listed⟩, list⟩
  have initial : Listed start [] := by
    apply And.intro deployed.rostered_start
    obtain ⟨bank, timestamp, sequence, _, _, rfl⟩ := deployed
    rfl
  exact history_invariant stepwise initial events

/-- Where hashes do not collide, each merchant registers once, on either way, and reveals
nothing but its own recent commitment. -/
theorem registration_sound (collisionFree : Function.Injective host.sha256)
    (deployed : Deployed host start) (clock : start.sequence ≤ u32Max)
    (events : List RegistryEvent) : RegistrationSound host start events := by
  obtain ⟨rostered, list⟩ := registered_run deployed events
  refine ⟨?_, list ▸ rostered.distinct, list, ?_⟩
  · intro before after auth permits merchant name description contactInfo category nonce _ accepted
    obtain ⟨sized, commitment, found, recent, hashed⟩ := reveal_matches accepted.succeeds
    have known := committed_run deployed clock before
    exact ⟨commitment, known.pending merchant commitment found,
      known.reveals collisionFree sized found recent hashed⟩
  · intro address
    rw [World.getMerchantList, rostered.listed address]
    exact not_congr Option.map_eq_none_iff

end Runs

namespace Sample

/-- The SHA-256 hash of the shop's address, its name and the nonce 7. -/
def shopDigest : Bytes :=
  [28, 60, 154, 243, 79, 219, 50, 120, 14, 43, 196, 165, 248, 244, 117, 247, 174, 7, 108, 155, 254,
    126, 12, 112, 141, 239, 80, 158, 148, 237, 250, 185]

/-- A host that hashes without collisions, and the text of the shop as SHA-256 does. -/
def hashingHost : Host :=
  { host with sha256 := Equiv.swap (preImage shop [83] [7]) shopDigest }

def revealing : List RegistryEvent := [
  .act (invokedBy shop (.merchant (.commitMerchantRegistration shop shopDigest))),
  .act (.advance 60 300),
  .act (invokedBy shop (.merchant (.revealMerchantRegistration shop [83] [] [] .retail [7])))]

end Sample

theorem registration_sound_sample :
    registeredIn Sample.hashingHost Sample.start Sample.revealing = [Sample.shop] ∧
      RegistrationSound Sample.hashingHost Sample.start Sample.revealing := by
  have collisionFree : Function.Injective Sample.hashingHost.sha256 := Equiv.injective _
  have deployed : Deployed Sample.hashingHost Sample.start := Sample.deployed_start
  exact ⟨by decide +kernel,
    registration_sound collisionFree deployed (by decide) Sample.revealing⟩

end LumenFlow

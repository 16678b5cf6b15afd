import LumenFlow.Effect.Accepted
import LumenFlow.Safety.Orders

/-!
# The life of a multisig payment

A multisig payment is initiated once, collects the signatures of listed signers
until it expires, and ends by its execution or its cancellation.  It is never deleted.
-/

namespace LumenFlow

open Kit Contract

section Changes

instance : Narrow World.multisigs := ⟨fun same => congrArg Inner.multisigs same⟩

instance (payer : Address) : IgnoresNonce World.multisigs payer := ⟨fun _ => rfl⟩

instance (merchant : Address) : IgnoresMerchantNonce World.multisigs merchant := ⟨fun _ => rfl⟩

instance (token : Address) : IgnoresListing World.multisigs token := ⟨fun _ _ => rfl⟩

instance : IgnoresTransfers World.multisigs := ⟨fun _ _ _ => rfl⟩

instance : IgnoresSubscriptions World.multisigs :=
  ⟨fun _ _ => rfl, fun _ _ _ _ _ => rfl, fun _ _ _ _ _ _ => rfl⟩

/-- The multisig payment that the call writes. -/
def Call.multisigId : Call → Option Text
  | .multisig (.initiateMultisigPayment _ paymentId _ _ _ _ _ _) => some paymentId
  | .multisig (.signMultisigPayment _ paymentId _) => some paymentId
  | .multisig (.cancelMultisigPayment _ paymentId) => some paymentId
  | .multisig (.executeMultisigPayment _ paymentId) => some paymentId
  | _ => none

/-- The multisig payment that an initiation stores. -/
def initiatedMultisig (world : World) (initiator : Address) (paymentId : Text)
    (merchantAddress tokenAddress : Address) (amount : Int) (signers : List Address)
    (requiredSignatures : Nat) (expiresAt : Option Nat) : MultisigPayment where
  paymentId := paymentId
  initiator := initiator
  merchantAddress := merchantAddress
  token := tokenAddress
  amount := amount
  requiredSignatures := requiredSignatures
  signers := signers
  collected := []
  executed := false
  cancelled := false
  createdAt := world.timestamp
  expiresAt :=
    some (expiresAt.getD (saturatingAddU64 world.timestamp world.getMultisigExpiryDuration))

/-- The changes that a committed call can make to the multisig payments. -/
inductive MultisigChange (env : Env) (world : World) :
    Call → Table MultisigPayment.paymentId → Prop where
  | kept (call : Call) (other : call.multisigId = none) :
      MultisigChange env world call world.multisigs
  | initiated (initiator : Address) (paymentId : Text) (merchantAddress tokenAddress : Address)
      (amount : Int) (signers : List Address) (requiredSignatures : Nat) (expiresAt : Option Nat)
      (free : world.multisigs.get paymentId = none) :
      MultisigChange env world
        (.multisig (.initiateMultisigPayment initiator paymentId merchantAddress tokenAddress
          amount signers requiredSignatures expiresAt))
        (world.multisigs.put (initiatedMultisig world initiator paymentId merchantAddress
          tokenAddress amount signers requiredSignatures expiresAt))
  | signed (multisig : MultisigPayment) (entry : SignatureEntry)
      (stored : world.multisigs.get multisig.paymentId = some multisig)
      (pending : multisig.executed = false) (standing : multisig.cancelled = false)
      (current : world.timestamp < multisig.expiresAt.getD u64Max)
      (authorised : env.Authorised entry.signer) (listed : entry.signer ∈ multisig.signers)
      (unsigned : ∀ other ∈ multisig.collected, other.signer ≠ entry.signer) :
      MultisigChange env world
        (.multisig (.signMultisigPayment entry.signer multisig.paymentId entry.signature))
        (world.multisigs.put { multisig with collected := multisig.collected ++ [entry] })
  | cancelled (caller : Address) (multisig : MultisigPayment)
      (stored : world.multisigs.get multisig.paymentId = some multisig)
      (pending : multisig.executed = false) (standing : multisig.cancelled = false) :
      MultisigChange env world (.multisig (.cancelMultisigPayment caller multisig.paymentId))
        (world.multisigs.put { multisig with cancelled := true })
  | executed (payer : Address) (multisig : MultisigPayment)
      (stored : world.multisigs.get multisig.paymentId = some multisig)
      (payable : multisig.Payable env world payer) :
      MultisigChange env world (.multisig (.executeMultisigPayment payer multisig.paymentId))
        (world.multisigs.put { multisig with executed := true })

variable {host : Host} {world next : World} {auth : List Address} {permits : TokenCall → Bool}

theorem Call.keeps_multisigs {call : Call} (other : call.multisigId = none) :
    Tx.Keeps World.multisigs call.exec := by
  cases call with
  | multisig call =>
      cases call <;> simp [Call.multisigId] at other <;>
        simp only [Call.exec, MultisigCall.exec, Tx.discard_bind, Contract.getMultisigPayment,
          Contract.createPaymentRequest, Contract.payPaymentRequest,
          Contract.cancelPaymentRequest, Contract.cancelExpiredPaymentRequests] <;>
        (repeat with_reducible refine Tx.keeps_bind inferInstance fun _ => ?_) <;>
        infer_instance
  | admin => exact Call.keeps _ fun _ _ => inferInstance
  | payment => exact Call.keeps _ ⟨fun _ _ => inferInstance, fun _ _ => inferInstance⟩
  | subscription => exact Call.keeps _ (inferInstanceAs (IgnoresSubscriptions _))
  | _ => exact Call.keeps _ trivial

theorem initiateMultisigPayment_spec {env : Env} {initiator : Address} {paymentId : Text}
    {merchantAddress tokenAddress : Address} {amount : Int} {signers : List Address}
    {requiredSignatures : Nat} {expiresAt : Option Nat}
    (committed : (initiateMultisigPayment initiator paymentId merchantAddress tokenAddress amount
      signers requiredSignatures expiresAt).Commits env world () next) :
    world.gov.paused = false ∧ world.multisigs.get paymentId = none ∧
      next = world.setMultisig (initiatedMultisig world initiator paymentId merchantAddress
        tokenAddress amount signers requiredSignatures expiresAt) := by
  simp [initiateMultisigPayment, requireTokenAllowed] at committed
  obtain ⟨unpaused, _, _, _, _, _, _, _, _, free, _, _, _, rfl⟩ := committed
  exact ⟨unpaused, free, rfl⟩

/-- The checks of a signature, and the record that takes it. -/
theorem signMultisigPayment_commits_iff {env : Env} {signer : Address} {paymentId : Text}
    {signature : Bytes} :
    (signMultisigPayment signer paymentId signature).Commits env world () next ↔
      world.gov.paused = false ∧ env.Authorised signer ∧
        ∃ multisig, world.multisigs.get paymentId = some multisig ∧
          multisig.executed = false ∧ multisig.cancelled = false ∧
          world.timestamp < multisig.expiresAt.getD u64Max ∧ signer ∈ multisig.signers ∧
          (∀ other ∈ multisig.collected, other.signer ≠ signer) ∧
          next = world.setMultisig
            { multisig with collected := multisig.collected ++ [⟨signer, signature⟩] } := by
  simp [signMultisigPayment]

theorem signMultisigPayment_change {env : Env} {signer : Address} {paymentId : Text}
    {signature : Bytes}
    (committed : (signMultisigPayment signer paymentId signature).Commits env world () next) :
    MultisigChange env world (.multisig (.signMultisigPayment signer paymentId signature))
      next.multisigs := by
  obtain ⟨_, authorised, multisig, stored, pending, standing, current, listed, unsigned, rfl⟩ :=
    signMultisigPayment_commits_iff.mp committed
  obtain rfl := Table.key_of_get stored
  exact .signed multisig ⟨signer, signature⟩ stored pending standing current authorised listed
    unsigned

theorem cancelMultisigPayment_change {env : Env} {caller : Address} {paymentId : Text}
    (committed : (cancelMultisigPayment caller paymentId).Commits env world () next) :
    MultisigChange env world (.multisig (.cancelMultisigPayment caller paymentId))
      next.multisigs := by
  simp [cancelMultisigPayment] at committed
  obtain ⟨_, multisig, stored, pending, standing, _, rfl⟩ := committed
  obtain rfl := Table.key_of_get stored
  exact .cancelled caller multisig stored pending standing

theorem executeMultisigPayment_multisigs {env : Env} {payer : Address} {multisig : MultisigPayment}
    (stored : world.multisigs.get multisig.paymentId = some multisig)
    (committed : (executeMultisigPayment payer multisig.paymentId).Commits env world () next) :
    next.multisigs = world.multisigs.put { multisig with executed := true } := by
  simp [executeMultisigPayment, stored] at committed
  obtain ⟨_, _, _, _, _, _, _, recording, recorded, counted⟩ := committed
  rw [Tx.view_same World.multisigs counted, Tx.view_same World.multisigs recorded]
  rfl

theorem Succeeds.multisigChange {call : Call}
    (succeeded : Succeeds host world auth permits call next) :
    MultisigChange (host.env auth permits) world call next.multisigs := by
  have committed := succeeded.executes
  by_cases other : call.multisigId = none
  · rw [(Call.keeps_multisigs other).kept committed]
    exact .kept call other
  · unfold Call.multisigId at other
    split at other
    · obtain ⟨_, free, rfl⟩ := initiateMultisigPayment_spec committed
      exact .initiated _ _ _ _ _ _ _ _ free
    · exact signMultisigPayment_change committed
    · exact cancelMultisigPayment_change committed
    · obtain ⟨multisig, stored, payable⟩ :=
        executeMultisigPayment_succeeds_iff.mp ⟨next, succeeded⟩
      obtain rfl := Table.key_of_get stored
      rw [executeMultisigPayment_multisigs stored committed]
      exact .executed _ multisig stored payable
    · exact absurd rfl other

end Changes

section Steps

variable {host : Host} {world : World}

theorem step_multisigs (host : Host) (world : World) (action : Action) :
    (step host world action).multisigs = world.multisigs ∨
      ∃ auth permits call, action = .invoke auth permits call ∧
        MultisigChange (host.env auth permits) world call (step host world action).multisigs := by
  rcases step_cases host world action with
    ⟨auth, permits, call, rfl, succeeded⟩ | ⟨_, _, _, _, same⟩
  · exact .inr ⟨auth, permits, call, rfl, succeeded.multisigChange⟩
  · exact .inl (by rw [same])

/-- What a multisig payment keeps: its terms, and an end that it has come to. -/
structure MultisigPayment.Follows (later earlier : MultisigPayment) : Prop where
  terms : later.SameTerms earlier
  signers : later.signers = earlier.signers
  requiredSignatures : later.requiredSignatures = earlier.requiredSignatures
  expiresAt : later.expiresAt = earlier.expiresAt
  executed : earlier.executed = true → later.executed = true
  cancelled : earlier.cancelled = true → later.cancelled = true

theorem MultisigPayment.Follows.refl (multisig : MultisigPayment) : multisig.Follows multisig :=
  ⟨⟨rfl, rfl, rfl⟩, rfl, rfl, rfl, id, id⟩

theorem MultisigPayment.Follows.trans {first second third : MultisigPayment}
    (head : first.Follows second) (tail : second.Follows third) : first.Follows third where
  terms := ⟨head.terms.merchantAddress.trans tail.terms.merchantAddress,
    head.terms.token.trans tail.terms.token, head.terms.amount.trans tail.terms.amount⟩
  signers := head.signers.trans tail.signers
  requiredSignatures := head.requiredSignatures.trans tail.requiredSignatures
  expiresAt := head.expiresAt.trans tail.expiresAt
  executed ended := head.executed (tail.executed ended)
  cancelled ended := head.cancelled (tail.cancelled ended)

theorem follows_of_put {multisigs : Table MultisigPayment.paymentId} {paymentId : Text}
    {old earlier later : MultisigPayment} (found : multisigs.get paymentId = some old)
    (stored : multisigs.get later.paymentId = some earlier) (follows : later.Follows earlier) :
    ∃ new, (multisigs.put later).get paymentId = some new ∧ new.Follows old := by
  have key : earlier.paymentId = later.paymentId := Table.key_of_get stored
  rw [← key] at stored
  rcases Table.get_rewrite_cases later stored key.symm found with kept | ⟨rfl, written⟩
  · exact ⟨old, kept, .refl old⟩
  · exact ⟨later, written, follows⟩

theorem step_follows {paymentId : Text} {old : MultisigPayment}
    (found : world.multisigs.get paymentId = some old) (action : Action) :
    ∃ new, (step host world action).multisigs.get paymentId = some new ∧ new.Follows old := by
  rcases step_multisigs host world action with same | ⟨auth, permits, call, rfl, change⟩
  · rw [same]
    exact ⟨old, found, .refl old⟩
  · generalize (step host world (.invoke auth permits call)).multisigs = after at change ⊢
    cases change with
    | kept call other => exact ⟨old, found, .refl old⟩
    | initiated initiator otherId merchantAddress tokenAddress amount signers required expiresAt
          free =>
        exact ⟨old, Table.get_put_free free found, .refl old⟩
    | signed multisig entry stored =>
        exact follows_of_put found stored ⟨⟨rfl, rfl, rfl⟩, rfl, rfl, rfl, id, id⟩
    | cancelled caller multisig stored =>
        exact follows_of_put found stored ⟨⟨rfl, rfl, rfl⟩, rfl, rfl, rfl, id, fun _ => rfl⟩
    | executed payer multisig stored payable =>
        exact follows_of_put found stored ⟨⟨rfl, rfl, rfl⟩, rfl, rfl, rfl, fun _ => rfl, id⟩

theorem run_follows {paymentId : Text} {old : MultisigPayment}
    (found : world.multisigs.get paymentId = some old) (actions : List Action) :
    ∃ new, (run (step host) world actions).multisigs.get paymentId = some new ∧
      new.Follows old := by
  let Kept (world : World) : Prop :=
    ∃ new, world.multisigs.get paymentId = some new ∧ new.Follows old
  have kept : ∀ world action, Kept world → Kept (step host world action) := by
    rintro world action ⟨middle, stored, follows⟩
    obtain ⟨new, later, continues⟩ := step_follows stored action
    exact ⟨new, later, continues.trans follows⟩
  exact run_invariant kept ⟨old, found, .refl old⟩ actions

/-- The signatures of a multisig payment come from different listed signers, and it
does not end twice. -/
structure MultisigPayment.Sound (host : Host) (multisig : MultisigPayment) : Prop where
  distinct : (multisig.collected.map SignatureEntry.signer).Nodup
  listed : ∀ entry ∈ multisig.collected, entry.signer ∈ multisig.signers
  foreign : ∀ entry ∈ multisig.collected, entry.signer ≠ host.self
  exclusive : ¬ (multisig.executed = true ∧ multisig.cancelled = true)

theorem step_sound (sound : world.multisigs.All (MultisigPayment.Sound host)) (action : Action) :
    (step host world action).multisigs.All (MultisigPayment.Sound host) := by
  rcases step_multisigs host world action with same | ⟨auth, permits, call, rfl, change⟩
  · rw [same]
    exact sound
  · generalize (step host world (.invoke auth permits call)).multisigs = after at change ⊢
    cases change with
    | kept call other => exact sound
    | initiated => exact sound.put (by constructor <;> simp [initiatedMultisig])
    | signed multisig entry stored pending standing current authorised listed unsigned =>
        have old := sound _ _ stored
        refine sound.put ⟨?_, ?_, ?_, old.exclusive⟩
        · rw [List.map_append, List.map_singleton, List.nodup_append]
          refine ⟨old.distinct, List.nodup_singleton _, ?_⟩
          intro signer among other last same
          obtain ⟨earlier, collected, rfl⟩ := List.mem_map.mp among
          obtain rfl := List.mem_singleton.mp last
          exact unsigned earlier collected same
        · exact List.forall_mem_append.mpr ⟨old.listed, List.forall_mem_singleton.mpr listed⟩
        · exact List.forall_mem_append.mpr
            ⟨old.foreign, List.forall_mem_singleton.mpr authorised.1⟩
    | cancelled caller multisig stored pending standing =>
        have old := sound _ _ stored
        exact sound.put ⟨old.distinct, old.listed, old.foreign, by simp [pending]⟩
    | executed payer multisig stored payable =>
        have old := sound _ _ stored
        exact sound.put ⟨old.distinct, old.listed, old.foreign, by simp [payable.standing]⟩

end Steps

section Histories

variable {host : Host} {start world : World} {actions : List Action}

/-- A signature, with the payment it is for and the time it was given at. -/
structure Signing where
  paymentId : Text
  entry : SignatureEntry
  time : Nat

def Call.signings (world : World) (_auth : List Address) : Call → List Signing
  | .multisig (.signMultisigPayment signer paymentId signature) =>
      [⟨paymentId, ⟨signer, signature⟩, world.timestamp⟩]
  | _ => []

/-- The signature was given before the payment expired. -/
def MultisigPayment.SignedIn (multisig : MultisigPayment) (past : List Signing)
    (entry : SignatureEntry) : Prop :=
  ∃ time, ⟨multisig.paymentId, entry, time⟩ ∈ past ∧ time < multisig.expiresAt.getD u64Max

/-- Every collected signature was given before the expiry. -/
def AllSigned (world : World) (past : List Signing) : Prop :=
  world.multisigs.All fun multisig => ∀ entry ∈ multisig.collected, multisig.SignedIn past entry

theorem AllSigned.append {past : List Signing} (signed : AllSigned world past)
    (more : List Signing) : AllSigned world (past ++ more) := by
  intro paymentId multisig stored entry collected
  obtain ⟨time, given, early⟩ := signed paymentId multisig stored entry collected
  exact ⟨time, List.mem_append_left _ given, early⟩

theorem step_allSigned {past : List Signing} {action : Action} (signed : AllSigned world past) :
    AllSigned (step host world action) (past ++ noteAccepted host Call.signings world action) := by
  have signed := signed.append (noteAccepted host Call.signings world action)
  rcases step_cases host world action with
    ⟨auth, permits, call, rfl, succeeded⟩ | ⟨_, _, _, _, same⟩
  · have change := succeeded.multisigChange
    rw [noteAccepted_of_accepted succeeded.accepted] at signed ⊢
    unfold AllSigned at signed ⊢
    generalize (step host world (.invoke auth permits call)).multisigs = after at change ⊢
    cases change with
    | kept call other => exact signed
    | initiated => exact signed.put (by simp [initiatedMultisig])
    | signed multisig entry stored pending standing current =>
        refine signed.put (List.forall_mem_append.mpr ⟨signed _ _ stored, ?_⟩)
        refine List.forall_mem_singleton.mpr ⟨world.timestamp, ?_, current⟩
        exact List.mem_append_right _ (List.mem_singleton.mpr rfl)
    | cancelled caller multisig stored =>
        have old := signed _ _ stored
        exact signed.put old
    | executed payer multisig stored payable =>
        have old := signed _ _ stored
        exact signed.put old
  · rw [same]
    exact signed

def Call.executions (_world : World) (_auth : List Address) : Call → List Text
  | .multisig (.executeMultisigPayment _ paymentId) => [paymentId]
  | _ => []

/-- The executed multisig payments are different ones, and marked as executed. -/
def AllExecuted (world : World) (past : List Text) : Prop :=
  past.Nodup ∧ ∀ paymentId ∈ past, ∃ multisig,
    world.multisigs.get paymentId = some multisig ∧ multisig.executed = true

theorem step_allExecuted {past : List Text} {action : Action} (executed : AllExecuted world past) :
    AllExecuted (step host world action)
      (past ++ noteAccepted host Call.executions world action) := by
  have still : ∀ paymentId ∈ past, ∃ multisig,
      (step host world action).multisigs.get paymentId = some multisig ∧
        multisig.executed = true := by
    intro paymentId among
    obtain ⟨old, stored, ended⟩ := executed.2 paymentId among
    obtain ⟨new, later, follows⟩ := step_follows stored action
    exact ⟨new, later, follows.executed ended⟩
  rcases step_cases host world action with ⟨auth, permits, call, rfl, succeeded⟩ | ⟨quiet, _⟩
  · rw [noteAccepted_of_accepted succeeded.accepted]
    unfold Call.executions
    split
    · next payer paymentId =>
        obtain ⟨multisig, stored, payable⟩ :=
          executeMultisigPayment_succeeds_iff.mp succeeded.accepted
        obtain rfl := Table.key_of_get stored
        have written := executeMultisigPayment_multisigs stored succeeded.executes
        -- an earlier execution would have left the mark that the call found missing
        have first : multisig.paymentId ∉ past := by
          intro among
          obtain ⟨old, found, ended⟩ := executed.2 _ among
          rw [stored] at found
          rw [← Option.some.inj found, payable.pending] at ended
          cases ended
        refine ⟨executed.1.append (List.nodup_singleton _) (by simpa using first), ?_⟩
        refine List.forall_mem_append.mpr ⟨still, List.forall_mem_singleton.mpr ?_⟩
        rw [written]
        exact ⟨_, Table.get_put_self _ _, rfl⟩
    · rw [List.append_nil]
      exact ⟨executed.1, still⟩
  · rw [quiet, List.append_nil]
    exact ⟨executed.1, still⟩

end Histories

section Runs

variable {host : Host} {start : World} {actions : List Action}

theorem Deployed.multisigs_empty (deployed : Deployed host start) :
    start.multisigs = Table.empty := by
  obtain ⟨_, _, _, _, _, rfl⟩ := deployed
  rfl

theorem run_sound (sound : start.multisigs.All (MultisigPayment.Sound host))
    (actions : List Action) :
    (run (step host) start actions).multisigs.All (MultisigPayment.Sound host) := by
  have kept : ∀ world action, world.multisigs.All (MultisigPayment.Sound host) →
      (step host world action).multisigs.All (MultisigPayment.Sound host) :=
    fun _ action sound => step_sound sound action
  exact run_invariant kept sound actions

theorem Deployed.multisigs_sound (deployed : Deployed host start) :
    start.multisigs.All (MultisigPayment.Sound host) := by
  rw [deployed.multisigs_empty]
  exact Table.all_empty _

theorem run_allSigned (deployed : Deployed host start) (actions : List Action) :
    AllSigned (run (step host) start actions)
      (acceptedEntries host Call.signings start actions) := by
  have initial : AllSigned start [] := by
    unfold AllSigned
    rw [deployed.multisigs_empty]
    exact Table.all_empty _
  exact history_invariant (fun world past action => step_allSigned) initial actions

theorem run_allExecuted (start : World) (actions : List Action) :
    AllExecuted (run (step host) start actions)
      (acceptedEntries host Call.executions start actions) :=
  history_invariant (fun world past action => step_allExecuted)
    ⟨List.nodup_nil, by simp⟩ actions

/-- The run accepts a call in which the signer authorises a signature of the multisig
payment, before the payment expires. -/
def SignedInTime (host : Host) (start : World) (actions : List Action)
    (multisig : MultisigPayment) (signer : Address) : Prop :=
  ∃ before auth permits signature after,
    actions = before ++ .invoke auth permits
      (.multisig (.signMultisigPayment signer multisig.paymentId signature)) :: after ∧
    Accepted host (run (step host) start before) auth permits
      (.multisig (.signMultisigPayment signer multisig.paymentId signature)) ∧
    (host.env auth permits).Authorised signer ∧
    (run (step host) start before).timestamp < multisig.expiresAt.getD u64Max

theorem signedInTime_of_signedIn {multisig : MultisigPayment} {entry : SignatureEntry}
    (signed : multisig.SignedIn (acceptedEntries host Call.signings start actions) entry) :
    SignedInTime host start actions multisig entry.signer := by
  obtain ⟨time, given, early⟩ := signed
  obtain ⟨before, auth, permits, call, after, split, accepted, noted⟩ :=
    mem_acceptedEntries_iff.mp given
  unfold Call.signings at noted
  split at noted
  · next signer paymentId signature =>
      obtain ⟨rfl, rfl, rfl⟩ := Signing.mk.inj (List.mem_singleton.mp noted)
      have authorised := (signMultisigPayment_commits_iff.mp accepted.succeeds.executes).2.1
      exact ⟨before, auth, permits, signature, after, split, accepted, authorised, early⟩
  · simp at noted

/-- What a run guarantees about its multisig payments. -/
structure MultisigsSafe (host : Host) (start : World) (actions : List Action) : Prop where
  /-- The collected signers are different ones on the list, who have signed in time, and
  no payment is both executed and cancelled. -/
  collected : ∀ paymentId multisig,
    (run (step host) start actions).multisigs.get paymentId = some multisig →
      (multisig.collected.map SignatureEntry.signer).Nodup ∧
        (∀ entry ∈ multisig.collected, entry.signer ∈ multisig.signers ∧
          SignedInTime host start actions multisig entry.signer) ∧
        ¬ (multisig.executed = true ∧ multisig.cancelled = true)
  /-- No payment is executed twice. -/
  once : (acceptedEntries host Call.executions start actions).Nodup
  /-- An execution finds enough signatures of different listed signers, no cancellation
  and the expiry not passed. -/
  executed : ∀ before auth permits payer paymentId after,
    actions = before ++ .invoke auth permits
      (.multisig (.executeMultisigPayment payer paymentId)) :: after →
    Accepted host (run (step host) start before) auth permits
      (.multisig (.executeMultisigPayment payer paymentId)) →
    ∃ (multisig : MultisigPayment) (signed : List Address),
      (run (step host) start before).multisigs.get paymentId = some multisig ∧
      multisig.requiredSignatures ≤ signed.length ∧ signed.Nodup ∧
      (∀ signer ∈ signed, signer ∈ multisig.signers ∧
        SignedInTime host start before multisig signer) ∧
      multisig.cancelled = false ∧
      ∀ limit ∈ multisig.expiresAt, (run (step host) start before).timestamp ≤ limit
  /-- What a payment is about, and who may sign it, stays as it was initiated. -/
  unchanged : ∀ before after paymentId old, actions = before ++ after →
    (run (step host) start before).multisigs.get paymentId = some old →
    ∃ new, (run (step host) start actions).multisigs.get paymentId = some new ∧
      new.merchantAddress = old.merchantAddress ∧ new.token = old.token ∧
      new.amount = old.amount ∧ new.signers = old.signers

theorem collected_signed (deployed : Deployed host start) {paymentId : Text}
    {multisig : MultisigPayment}
    (stored : (run (step host) start actions).multisigs.get paymentId = some multisig) :
    ∀ entry ∈ multisig.collected, entry.signer ∈ multisig.signers ∧
      SignedInTime host start actions multisig entry.signer := by
  intro entry among
  have signed := run_allSigned deployed actions _ _ stored entry among
  exact ⟨(run_sound deployed.multisigs_sound actions _ _ stored).listed entry among,
    signedInTime_of_signedIn signed⟩

theorem multisigs_safe (deployed : Deployed host start) (actions : List Action) :
    MultisigsSafe host start actions where
  collected paymentId multisig stored :=
    have sound := run_sound deployed.multisigs_sound actions _ _ stored
    ⟨sound.distinct, collected_signed deployed stored, sound.exclusive⟩
  once := (run_allExecuted start actions).1
  executed before auth permits payer paymentId after split accepted := by
    obtain ⟨multisig, stored, payable⟩ := executeMultisigPayment_succeeds_iff.mp accepted
    have sound := run_sound deployed.multisigs_sound before _ _ stored
    refine ⟨multisig, multisig.collected.map SignatureEntry.signer, stored, ?_, sound.distinct,
      ?_, payable.standing, payable.current⟩
    · rw [List.length_map]
      exact payable.signed
    · intro signer among
      obtain ⟨entry, collected, rfl⟩ := List.mem_map.mp among
      exact collected_signed deployed stored entry collected
  unchanged before after paymentId old split stored := by
    obtain ⟨new, later, follows⟩ := run_follows stored after
    rw [split, run_append]
    exact ⟨new, later, follows.terms.merchantAddress, follows.terms.token, follows.terms.amount,
      follows.signers⟩

end Runs

namespace Sample

def initiating (signers : List Address) (required : Nat) (expiresAt : Option Nat) : Action :=
  invokedBy payer (.multisig
    (.initiateMultisigPayment payer [1] shop coin 100 signers required expiresAt))

def signing (signer : Address) : Action :=
  invokedBy signer (.multisig (.signMultisigPayment signer [1] []))

/-- The payer pays twice, after both signers have signed. -/
def signedPayment : List Action := opening ++ [
  initiating [shop, rival] 2 none, signing shop, signing rival,
  invokedBy payer (.multisig (.executeMultisigPayment payer [1])),
  invokedBy payer (.multisig (.executeMultisigPayment payer [1]))]

end Sample

theorem multisigs_safe_sample :
    acceptedEntries Sample.host Call.executions Sample.start Sample.signedPayment = [[1]] ∧
      MultisigsSafe Sample.host Sample.start Sample.signedPayment :=
  ⟨by decide +kernel, multisigs_safe Sample.deployed_start Sample.signedPayment⟩

end LumenFlow

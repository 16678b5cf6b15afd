import LumenFlow.Effect.Privileges
import LumenFlow.Effect.Roster

/-!
# Whose profile it is

The profile of a merchant begins with a registration that the merchant has authorised, and then it
is kept.  Only the merchant changes what it says about itself, only the admin its marks, payments
change what it has received, and a registration counts a referral.
-/

namespace LumenFlow

open Kit Contract

/-- A registration of a newcomer that names a referrer. -/
def Call.Refers (newcomer referrer : Address) (call : Call) : Prop :=
  ∃ name description contactInfo category, call =
    .merchant (.registerMerchant newcomer name description contactInfo category (some referrer))

def Call.Updates (owner : Address) (call : Call) : Prop :=
  ∃ name description contactInfo category, call =
    .merchant (.updateMerchant owner name description contactInfo category)

/-- What a call may do to the profile under an address. -/
inductive ProfileMove (env : Env) (world : World) (call : Call) (address : Address) :
    Option Merchant → Option Merchant → Prop where
  | kept (profile : Option Merchant) : ProfileMove env world call address profile profile
  | joined (authorised : env.Authorised address) (registers : address ∈ call.registrations)
      {profile : Merchant} (new : profile = newMerchant address profile.name profile.description
        profile.contactInfo profile.category world.timestamp) :
      ProfileMove env world call address none (some profile)
  | referred {newcomer : Address} (free : world.merchants.records.get newcomer = none)
      (authorised : env.Authorised newcomer) (refers : call.Refers newcomer address)
      {profile : Merchant} :
      ProfileMove env world call address (some profile)
        (some { profile with referralCount := profile.referralCount + 1 })
  | updated {name description contactInfo : Text} {category : MerchantCategory}
      (authorised : env.Authorised address)
      (updates : call =
        .merchant (.updateMerchant address name description contactInfo category))
      {profile : Merchant} (active : profile.active = true) :
      ProfileMove env world call address (some profile)
        (some { profile with name, description, contactInfo, category })
  | marked (needed : call.NeedsAdmin) (admin : world.ByAdmin env) {profile : Merchant}
      (active verified : Bool) :
      ProfileMove env world call address (some profile)
        (some { profile with active, verified })
  | credited {payment : PaymentCall} (pays : call = .payment payment) {profile : Merchant}
      (totalReceived : Int) :
      ProfileMove env world call address (some profile) (some { profile with totalReceived })

section Calls

variable {env : Env} {world next : World} {call : Call} {address : Address}

/-- The profile under an address. -/
abbrev World.profile (world : World) (address : Address) : Option Merchant :=
  world.merchants.records.get address

theorem profileMove_of_same (same : next.merchants.records = world.merchants.records) :
    ProfileMove env world call address (world.profile address) (next.profile address) := by
  unfold World.profile
  rw [same]
  exact .kept _

/-- A profile that is written changes as it does under its own address only. -/
theorem profileMove_put {profile : Merchant}
    (here : ProfileMove env world call profile.address (world.profile profile.address)
      (some profile)) (address : Address) :
    ProfileMove env world call address (world.profile address)
      ((world.merchants.records.put profile).get address) := by
  rw [Table.get_put]
  split
  · next same =>
      rw [same]
      exact here
  · exact .kept _

theorem profileMove_register {merchant : Address} {name description contactInfo : Text}
    {category : MerchantCategory} (authorised : env.Authorised merchant)
    (registers : call.registrations = [merchant]) (free : world.profile merchant = none)
    (address : Address) :
    ProfileMove env world call address (world.profile address)
      ((world.merchants.records.put (newMerchant merchant name description contactInfo category
        world.timestamp)).get address) := by
  apply profileMove_put
  change ProfileMove env world call merchant (world.profile merchant) _
  rw [free]
  apply ProfileMove.joined authorised
  · rw [registers]
    exact List.mem_singleton_self merchant
  · rfl

theorem profileMove_mark {named : Address} {profile : Merchant} (needed : call.NeedsAdmin)
    (admin : world.ByAdmin env) (found : world.getMerchant named = some profile)
    (active verified : Bool) (address : Address) :
    ProfileMove env world call address (world.profile address)
      ((world.merchants.records.put { profile with active, verified }).get address) := by
  apply profileMove_put
  have stored : world.profile profile.address = some profile := by
    rw [show profile.address = named from Table.key_of_get found]
    exact found
  rw [stored]
  exact .marked needed admin active verified

theorem MerchantCall.byAdmin {call : MerchantCall} (committed : call.exec.Commits env world () next)
    (needed : (Call.merchant call).NeedsAdmin) : world.ByAdmin env := by
  have whole : (Call.merchant call).exec.Commits env world () next := committed
  exact Call.byAdmin whole needed

theorem MerchantCall.profileMove {call : MerchantCall}
    (committed : call.exec.Commits env world () next) (address : Address) :
    ProfileMove env world (.merchant call) address (world.profile address)
      (next.profile address) := by
  have quiet (other : .profiles ∉ call.parts) : ProfileMove env world (.merchant call) address
      (world.profile address) (next.profile address) :=
    profileMove_of_same (call.writes.frame committed .profiles other)
  cases call with
  | revealMerchantRegistration =>
      simp [MerchantCall.exec, Contract.revealMerchantRegistration, addActiveMerchant]
        at committed
      obtain ⟨_, authorised, _, _, free, _, _, _, _, _, rfl⟩ := committed
      exact profileMove_register authorised rfl free address
  | registerMerchant named name description contactInfo category referralId =>
      cases referralId with
      | none =>
          simp [MerchantCall.exec, Contract.registerMerchant, addActiveMerchant] at committed
          obtain ⟨_, authorised, _, _, free, _, rfl⟩ := committed
          exact profileMove_register authorised rfl free address
      | some referral =>
          simp [MerchantCall.exec, Contract.registerMerchant, addActiveMerchant] at committed
          obtain ⟨_, authorised, _, _, free, ⟨other, _⟩, _, referrer, found, _, rfl⟩ := committed
          have key : referrer.address = referral := Table.key_of_get found
          change ProfileMove env world _ address _ (((world.merchants.records.put _).put
            { referrer with referralCount := referrer.referralCount + 1 }).get address)
          rw [Table.get_put]
          split
          · next same =>
              have known : world.profile address = some referrer := by
                rw [same, key]
                rwa [Table.get_put_of_ne (show referral ≠ named from other)] at found
              obtain rfl : address = referral := same.trans key
              rw [known]
              exact .referred free authorised ⟨name, description, contactInfo, category, rfl⟩
          · exact profileMove_register authorised rfl free address
  | updateMerchant named name description contactInfo category =>
      simp [MerchantCall.exec, Contract.updateMerchant] at committed
      obtain ⟨authorised, _, _, profile, found, active, rfl⟩ := committed
      obtain rfl : profile.address = named := Table.key_of_get found
      refine profileMove_put ?_ address
      change ProfileMove env world _ profile.address (world.merchants.records.get profile.address) _
      rw [show world.merchants.records.get profile.address = some profile from found]
      exact .updated authorised rfl active
  | deactivateMerchant =>
      have admin := MerchantCall.byAdmin committed trivial
      simp [MerchantCall.exec, Contract.deactivateMerchant] at committed
      obtain ⟨_, _, profile, found, rfl⟩ := committed
      exact profileMove_mark (by trivial) admin found false profile.verified address
  | reactivateMerchant =>
      have admin := MerchantCall.byAdmin committed trivial
      simp [MerchantCall.exec, Contract.reactivateMerchant, addActiveMerchant] at committed
      obtain ⟨_, _, profile, found, _, _, rfl⟩ := committed
      exact profileMove_mark (by trivial) admin found true profile.verified address
  | verifyMerchant =>
      have admin := MerchantCall.byAdmin committed trivial
      simp [MerchantCall.exec, Contract.verifyMerchant] at committed
      obtain ⟨_, profile, found, rfl⟩ := committed
      exact profileMove_mark (by trivial) admin found profile.active true address
  | unverifyMerchant =>
      have admin := MerchantCall.byAdmin committed trivial
      simp [MerchantCall.exec, Contract.unverifyMerchant] at committed
      obtain ⟨_, _, profile, found, rfl⟩ := committed
      exact profileMove_mark (by trivial) admin found profile.active false address
  | _ => exact quiet (by simp [MerchantCall.parts])

theorem profileMove_credited {payment : PaymentCall}
    (kept : next.uncredited address = world.uncredited address) :
    ProfileMove env world (.payment payment) address (world.profile address)
      (next.profile address) := by
  unfold World.uncredited at kept
  unfold World.profile
  cases before : world.merchants.records.get address with
  | none =>
      rw [before, Option.map_none, Option.map_eq_none_iff] at kept
      rw [kept]
      exact .kept none
  | some profile =>
      rw [before, Option.map_some] at kept
      obtain ⟨later, after, same⟩ := Option.map_eq_some_iff.mp kept
      have only : later = { profile with totalReceived := later.totalReceived } := by
        cases later
        cases profile
        simp only [Merchant.uncredited, Merchant.mk.injEq] at same ⊢
        tauto
      rw [after, only]
      exact .credited rfl later.totalReceived

theorem Call.profileMove (committed : call.exec.Commits env world () next) (address : Address) :
    ProfileMove env world call address (world.profile address) (next.profile address) := by
  have quiet (other : .profiles ∉ call.parts) :
      ProfileMove env world call address (world.profile address) (next.profile address) :=
    profileMove_of_same (call.writes.frame committed .profiles other)
  cases call with
  | admin call => exact quiet (by cases call <;> simp [Call.parts, AdminCall.parts])
  | merchant call => exact MerchantCall.profileMove committed address
  | payment call => exact profileMove_credited (PaymentCall.uncredited_kept committed)
  | refund call => exact quiet (by cases call <;> simp [Call.parts, RefundCall.parts])
  | multisig call => exact quiet (by cases call <;> simp [Call.parts, MultisigCall.parts])
  | subscription call => exact quiet (by cases call <;> simp [Call.parts, SubscriptionCall.parts])
  | escrow call => exact quiet (by cases call <;> simp [Call.parts, EscrowCall.parts])

end Calls

/-- What a merchant says about itself, with when it was registered. -/
structure Merchant.Details where
  name : Text
  description : Text
  contactInfo : Text
  category : MerchantCategory
  registeredAt : Nat
  deriving DecidableEq

def Merchant.details (merchant : Merchant) : Merchant.Details where
  name := merchant.name
  description := merchant.description
  contactInfo := merchant.contactInfo
  category := merchant.category
  registeredAt := merchant.registeredAt

/-- The action is an accepted call of a kind that the address has authorised. -/
def Action.MadeBy (host : Host) (world : World) (address : Address) (kind : Call → Prop)
    (action : Action) : Prop :=
  ∃ auth permits call, action = .invoke auth permits call ∧
    Accepted host world auth permits call ∧ kind call ∧
      (host.env auth permits).Authorised address

/-- What an action leaves of the profile that was stored under an address. -/
structure Merchant.KeptBy (host : Host) (world : World) (owner : Address) (action : Action)
    (old new : Merchant) : Prop where
  address : new.address = old.address
  registeredAt : new.registeredAt = old.registeredAt
  details : new.details ≠ old.details → action.MadeBy host world owner (Call.Updates owner)
  marks : (new.active, new.verified) ≠ (old.active, old.verified) →
    ∃ admin, world.gov.admin = some admin ∧ action.MadeBy host world admin Call.NeedsAdmin
  referralCount : new.referralCount ≠ old.referralCount →
    new.referralCount = old.referralCount + 1 ∧
      ∃ newcomer, world.profile newcomer = none ∧
        action.MadeBy host world newcomer (Call.Refers newcomer owner)

section Runs

variable {host : Host} {world : World} {owner : Address}

theorem Merchant.KeptBy.refl (host : Host) (world : World) (owner : Address) (action : Action)
    (profile : Merchant) : profile.KeptBy host world owner action profile :=
  ⟨rfl, rfl, fun changed => absurd rfl changed, fun changed => absurd rfl changed,
    fun changed => absurd rfl changed⟩

theorem ProfileMove.keptBy {auth : List Address} {permits : TokenCall → Bool} {call : Call}
    {old : Merchant} {after : Option Merchant}
    (accepted : Accepted host world auth permits call)
    (move : ProfileMove (host.env auth permits) world call owner (some old) after) :
    ∃ new, after = some new ∧ old.KeptBy host world owner (.invoke auth permits call) new := by
  have made (address : Address) {kind : Call → Prop} (of : kind call)
      (authorised : (host.env auth permits).Authorised address) :
      Action.MadeBy host world address kind (.invoke auth permits call) :=
    ⟨auth, permits, call, rfl, accepted, of, authorised⟩
  cases move with
  | kept => exact ⟨old, rfl, .refl host world owner _ old⟩
  | referred free authorised refers =>
      refine ⟨_, rfl, rfl, rfl, fun changed => absurd rfl changed,
        fun changed => absurd rfl changed, fun _ => ⟨rfl, _, free, made _ refers authorised⟩⟩
  | updated authorised updates =>
      exact ⟨_, rfl, rfl, rfl, fun _ => made owner ⟨_, _, _, _, updates⟩ authorised,
        fun changed => absurd rfl changed, fun changed => absurd rfl changed⟩
  | marked needed admin =>
      obtain ⟨admin, isAdmin, authorised⟩ := admin
      exact ⟨_, rfl, rfl, rfl, fun changed => absurd rfl changed,
        fun _ => ⟨admin, isAdmin, made admin needed authorised⟩, fun changed => absurd rfl changed⟩
  | credited =>
      exact ⟨_, rfl, rfl, rfl, fun changed => absurd rfl changed, fun changed => absurd rfl changed,
        fun changed => absurd rfl changed⟩

/-- One action of a run, and the profile of one merchant. -/
theorem step_profile (host : Host) (world : World) (owner : Address) (action : Action) :
    (world.profile owner = none → (step host world action).profile owner ≠ none →
      action.MadeBy host world owner fun call => owner ∈ call.registrations) ∧
    ∀ old, world.profile owner = some old →
      ∃ new, (step host world action).profile owner = some new ∧
        old.KeptBy host world owner action new := by
  rcases step_cases host world action with
    ⟨auth, permits, call, rfl, succeeded⟩ | ⟨_, bank, sequence, timestamp, same⟩
  · have move := Call.profileMove succeeded.executes owner
    constructor
    · intro missing found
      rw [missing] at move
      generalize (step host world (.invoke auth permits call)).profile owner = after at move found
      cases move with
      | kept => exact absurd rfl found
      | joined authorised registers =>
          exact ⟨auth, permits, call, rfl, succeeded.accepted, registers, authorised⟩
    · intro old stored
      rw [stored] at move
      exact move.keptBy succeeded.accepted
  · have kept : (step host world action).profile owner = world.profile owner := by
      rw [same]
    rw [kept]
    exact ⟨fun missing found => absurd missing found,
      fun old stored => ⟨old, stored, .refl host world owner action old⟩⟩

/-- In every run a profile is opened by a registration of its merchant and kept, and what it says,
its marks and its referrals change only through calls of those whose matter it is. -/
theorem profiles_isolated (host : Host) (start : World) (owner : Address)
    (before : List Action) :
    let world := run (step host) start before
    (∀ action, world.profile owner = none → (step host world action).profile owner ≠ none →
      action.MadeBy host world owner fun call => owner ∈ call.registrations) ∧
    ∀ old, world.profile owner = some old →
      (∀ action, ∃ new, (step host world action).profile owner = some new ∧
        old.KeptBy host world owner action new) ∧
      ∀ during, ∃ new, (run (step host) world during).profile owner = some new ∧
        new.address = old.address ∧ new.registeredAt = old.registeredAt := by
  intro world
  refine ⟨fun action => (step_profile host world owner action).1, fun old stored => ⟨?_, ?_⟩⟩
  · intro action
    exact (step_profile host world owner action).2 old stored
  · have kept : ∀ world action,
        (∃ new, world.profile owner = some new ∧
          new.address = old.address ∧ new.registeredAt = old.registeredAt) →
        ∃ new, (step host world action).profile owner = some new ∧
          new.address = old.address ∧ new.registeredAt = old.registeredAt := by
      rintro world action ⟨now, stored, address, registeredAt⟩
      obtain ⟨new, later, keeps⟩ := (step_profile host world owner action).2 now stored
      exact ⟨new, later, keeps.address.trans address, keeps.registeredAt.trans registeredAt⟩
    exact run_invariant kept ⟨old, stored, rfl, rfl⟩

end Runs

end LumenFlow

import LumenFlow.Safety.Multisigs

/-!
# Which multisig payments can be executed

The initiation compares the threshold with the length of the signer list and takes
any expiry.  A signer that is listed twice signs once only, and nobody signs after
the expiry.
-/

namespace LumenFlow

open Kit Contract

section Signing

variable {host : Host} {world : World} {multisig : MultisigPayment} {paymentId : Text}

/-- The checks that the execution makes about the payment itself. -/
structure MultisigPayment.Ready (multisig : MultisigPayment) (world : World) : Prop where
  unpaused : world.gov.paused = false
  pending : multisig.executed = false
  standing : multisig.cancelled = false
  current : ∀ limit ∈ multisig.expiresAt, world.timestamp ≤ limit
  signed : multisig.requiredSignatures ≤ multisig.collected.length

/-- A ready payment is executed for every payer whose tokens can be moved. -/
theorem MultisigPayment.Ready.payable {env : Env} {payer : Address} (ready : multisig.Ready world)
    (sized : Sized multisig.paymentId) (authorised : env.Authorised payer)
    (permitted : env.permits
      (.transfer multisig.token payer multisig.merchantAddress multisig.amount) = true)
    (nonneg : 0 ≤ multisig.amount)
    (funded : multisig.amount ≤ world.bank.balance multisig.token payer)
    (counted : world.stats.global.totalPayments + 1 ≤ u32Max) :
    multisig.Payable env world payer :=
  ⟨sized, ready.unpaused, authorised, ready.pending, ready.standing, ready.current, ready.signed,
    permitted, nonneg, funded, counted⟩

theorem MultisigPayment.Payable.ready {env : Env} {payer : Address}
    (payable : multisig.Payable env world payer) : multisig.Ready world :=
  ⟨payable.unpaused, payable.pending, payable.standing, payable.current, payable.signed⟩

/-- The action is a signature of the payment by a listed signer. -/
def IsSigning (signers : List Address) (paymentId : Text) (action : Action) : Prop :=
  ∃ auth permits signature, ∃ signer ∈ signers,
    action = .invoke auth permits (.multisig (.signMultisigPayment signer paymentId signature))

/-- Signatures of listed signers can make the payment pass the checks of the execution. -/
def Completable (host : Host) (world : World) (multisig : MultisigPayment) : Prop :=
  ∃ signings, (∀ action ∈ signings, IsSigning multisig.signers multisig.paymentId action) ∧
    ∃ later, (run (step host) world signings).multisigs.get multisig.paymentId = some later ∧
      later.Ready (run (step host) world signings)

/-- The listed signers who can sign, each counted once. -/
def MultisigPayment.able (host : Host) (multisig : MultisigPayment) : Finset Address :=
  multisig.signers.toFinset.erase host.self

/-- A signature with no bytes, authorised by its signer. -/
def signingBy (paymentId : Text) (signer : Address) : Action :=
  .invoke [signer] (fun _ => true) (.multisig (.signMultisigPayment signer paymentId []))

/-- A pending payment that can still be signed by a signer. -/
structure MultisigPayment.Open (multisig : MultisigPayment) (world : World) : Prop where
  stored : world.multisigs.get multisig.paymentId = some multisig
  sized : Sized multisig.paymentId
  unpaused : world.gov.paused = false
  pending : multisig.executed = false
  standing : multisig.cancelled = false
  current : world.timestamp < multisig.expiresAt.getD u64Max

def MultisigPayment.signedBy (multisig : MultisigPayment) (signer : Address) : MultisigPayment :=
  { multisig with collected := multisig.collected ++ [⟨signer, []⟩] }

theorem MultisigPayment.Open.step_signingBy {signer : Address} (isOpen : multisig.Open world)
    (listed : signer ∈ multisig.signers) (foreign : signer ≠ host.self)
    (unsigned : ∀ other ∈ multisig.collected, other.signer ≠ signer) :
    step host world (signingBy multisig.paymentId signer) =
      world.setMultisig (multisig.signedBy signer) := by
  have authorised : (host.env [signer] fun _ => true).Authorised signer :=
    ⟨foreign, List.mem_singleton.mpr rfl⟩
  have committed : (signMultisigPayment signer multisig.paymentId []).Commits
      (host.env [signer] fun _ => true) world () (world.setMultisig (multisig.signedBy signer)) :=
    signMultisigPayment_commits_iff.mpr ⟨isOpen.unpaused, authorised, multisig, isOpen.stored,
      isOpen.pending, isOpen.standing, isOpen.current, listed, unsigned, rfl⟩
  have fits : (Call.multisig (.signMultisigPayment signer multisig.paymentId [])).Fits :=
    ⟨isOpen.sized, Nat.zero_le _⟩
  exact Succeeds.step_eq (succeeds_iff.mpr ⟨fits, committed⟩)

theorem MultisigPayment.Open.setMultisig (signer : Address) (isOpen : multisig.Open world) :
    (multisig.signedBy signer).Open (world.setMultisig (multisig.signedBy signer)) where
  stored := Table.get_put_self _ _
  sized := isOpen.sized
  unpaused := isOpen.unpaused
  pending := isOpen.pending
  standing := isOpen.standing
  current := isOpen.current

/-- Different signers who have not signed yet can all sign, one after the other. -/
theorem MultisigPayment.Open.run_signings {signers : List Address} (isOpen : multisig.Open world)
    (distinct : signers.Nodup) (listed : ∀ signer ∈ signers, signer ∈ multisig.signers)
    (foreign : ∀ signer ∈ signers, signer ≠ host.self)
    (unsigned : ∀ signer ∈ signers, ∀ other ∈ multisig.collected, other.signer ≠ signer) :
    ∃ later : MultisigPayment,
      later.Open (run (step host) world (signers.map (signingBy multisig.paymentId))) ∧
      later.paymentId = multisig.paymentId ∧
      later.requiredSignatures = multisig.requiredSignatures ∧
      later.collected.length = multisig.collected.length + signers.length := by
  induction signers generalizing world multisig with
  | nil => exact ⟨multisig, isOpen, rfl, rfl, rfl⟩
  | cons signer rest inductionHypothesis =>
      obtain ⟨fresh, restDistinct⟩ := List.nodup_cons.mp distinct
      obtain ⟨headListed, restListed⟩ := List.forall_mem_cons.mp listed
      obtain ⟨headForeign, restForeign⟩ := List.forall_mem_cons.mp foreign
      obtain ⟨headUnsigned, restUnsigned⟩ := List.forall_mem_cons.mp unsigned
      have stillUnsigned : ∀ other ∈ rest, ∀ entry ∈ (multisig.signedBy signer).collected,
          entry.signer ≠ other := by
        intro other among
        refine List.forall_mem_append.mpr ⟨restUnsigned other among, ?_⟩
        refine List.forall_mem_singleton.mpr ?_
        rintro rfl
        exact fresh among
      obtain ⟨later, stillOpen, same, threshold, count⟩ := inductionHypothesis
        (isOpen.setMultisig signer) restDistinct restListed restForeign stillUnsigned
      refine ⟨later, ?_, same, threshold, ?_⟩
      · rw [List.map_cons, run_cons,
          isOpen.step_signingBy headListed headForeign headUnsigned]
        exact stillOpen
      · rw [count, List.length_cons]
        simp only [MultisigPayment.signedBy, List.length_append, List.length_singleton]
        omega

theorem MultisigPayment.Open.completable (isOpen : multisig.Open world)
    (uncollected : multisig.collected = [])
    (enough : multisig.requiredSignatures ≤ (multisig.able host).card) :
    Completable host world multisig := by
  have able : ∀ signer ∈ (multisig.able host).toList,
      signer ≠ host.self ∧ signer ∈ multisig.signers := by
    intro signer among
    simpa [MultisigPayment.able] using among
  obtain ⟨later, stillOpen, same, threshold, count⟩ := isOpen.run_signings
    (Finset.nodup_toList (multisig.able host)) (fun signer among => (able signer among).2)
    (fun signer among => (able signer among).1) (by simp [uncollected])
  refine ⟨_, ?_, later, same ▸ stillOpen.stored, stillOpen.unpaused, stillOpen.pending,
    stillOpen.standing, ?_, ?_⟩
  · intro action among
    obtain ⟨signer, chosen, rfl⟩ := List.mem_map.mp among
    exact ⟨_, _, _, signer, (able signer chosen).2, rfl⟩
  · intro limit expiry
    have early := stillOpen.current
    rw [Option.mem_def.mp expiry] at early
    exact Nat.le_of_lt early
  · rw [threshold, count, uncollected, Finset.length_toList]
    simpa using enough

theorem MultisigPayment.Sound.collected_le (sound : multisig.Sound host) :
    multisig.collected.length ≤ (multisig.able host).card := by
  rw [← List.length_map SignatureEntry.signer, ← List.toFinset_card_of_nodup sound.distinct]
  apply Finset.card_le_card
  intro signer among
  obtain ⟨entry, collected, rfl⟩ := List.mem_map.mp (List.mem_toFinset.mp among)
  exact Finset.mem_erase.mpr
    ⟨sound.foreign entry collected, List.mem_toFinset.mpr (sound.listed entry collected)⟩

theorem enough_of_completable (sound : world.multisigs.All (MultisigPayment.Sound host))
    (stored : world.multisigs.get multisig.paymentId = some multisig)
    (completable : Completable host world multisig) :
    multisig.requiredSignatures ≤ (multisig.able host).card := by
  obtain ⟨signings, _, later, found, ready⟩ := completable
  obtain ⟨_, same, follows⟩ := run_follows stored signings
  rw [found] at same
  obtain rfl := Option.some.inj same
  have bounded := (run_sound sound signings _ _ found).collected_le
  have unchanged : later.able host = multisig.able host := by
    rw [MultisigPayment.able, follows.signers, MultisigPayment.able]
  rw [unchanged] at bounded
  exact follows.requiredSignatures ▸ ready.signed.trans bounded

end Signing

section Runs

variable {host : Host} {start world : World} {auth : List Address} {permits : TokenCall → Bool}

/-- The multisig payment that the call initiates. -/
def Call.initiates (world : World) : Call → Option MultisigPayment
  | .multisig (.initiateMultisigPayment initiator paymentId merchantAddress tokenAddress amount
        signers requiredSignatures expiresAt) =>
      some (initiatedMultisig world initiator paymentId merchantAddress tokenAddress amount signers
        requiredSignatures expiresAt)
  | _ => none

/-- A multisig payment that the call initiates asks for no more signatures than listed
signers can give, and leaves time for them. -/
def Meetable (host : Host) (world : World) (call : Call) : Prop :=
  ∀ multisig ∈ call.initiates world,
    multisig.requiredSignatures ≤ (multisig.able host).card ∧
      ∀ limit ∈ multisig.expiresAt, world.timestamp < limit

instance (host : Host) (world : World) (call : Call) : Decidable (Meetable host world call) :=
  inferInstanceAs (Decidable (∀ multisig ∈ call.initiates world, _))

/-- Every initiated multisig payment of the run can be executed. -/
structure AllExecutable (host : Host) (start : World) (actions : List Action) : Prop where
  /-- In every state a pending payment has enough different addresses on its list. -/
  threshold : ∀ before after paymentId multisig, actions = before ++ after →
    (run (step host) start before).multisigs.get paymentId = some multisig →
    multisig.executed = false → multisig.cancelled = false →
    multisig.requiredSignatures ≤ multisig.signers.toFinset.card
  /-- A payment that has just been initiated expires later, and signatures of listed
  signers make it pass the checks of the execution. -/
  initiated : ∀ before auth permits call after multisig,
    actions = before ++ .invoke auth permits call :: after →
    Accepted host (run (step host) start before) auth permits call →
    call.initiates (run (step host) start before) = some multisig →
    (∀ limit ∈ multisig.expiresAt,
      (run (step host) start (before ++ [.invoke auth permits call])).timestamp < limit) ∧
    Completable host (run (step host) start (before ++ [.invoke auth permits call])) multisig

theorem Accepted.initiated {call : Call} {multisig : MultisigPayment}
    (accepted : Accepted host world auth permits call)
    (initiates : call.initiates world = some multisig) :
    Sized multisig.paymentId ∧ world.gov.paused = false ∧
      step host world (.invoke auth permits call) = world.setMultisig multisig := by
  have succeeded := accepted.succeeds
  unfold Call.initiates at initiates
  split at initiates
  · obtain ⟨fits, committed⟩ := succeeds_iff.mp succeeded
    obtain ⟨unpaused, _, stored⟩ := initiateMultisigPayment_spec committed
    obtain rfl := Option.some.inj initiates
    exact ⟨fits.1, unpaused, stored⟩
  · cases initiates

theorem initiates_fresh {call : Call} {multisig : MultisigPayment}
    (initiates : call.initiates world = some multisig) :
    multisig.collected = [] ∧ multisig.executed = false ∧ multisig.cancelled = false ∧
      ∃ limit, multisig.expiresAt = some limit := by
  unfold Call.initiates at initiates
  split at initiates
  · obtain rfl := Option.some.inj initiates
    exact ⟨rfl, rfl, rfl, _, rfl⟩
  · cases initiates

/-- A meetable payment can be completed right after its initiation. -/
theorem completable_of_meetable {call : Call} {multisig : MultisigPayment}
    (accepted : Accepted host world auth permits call) (meetable : Meetable host world call)
    (initiates : call.initiates world = some multisig) :
    Completable host (step host world (.invoke auth permits call)) multisig := by
  obtain ⟨enough, early⟩ := meetable multisig initiates
  obtain ⟨uncollected, pending, standing, limit, expiry⟩ := initiates_fresh initiates
  obtain ⟨sized, unpaused, stored⟩ := accepted.initiated initiates
  rw [stored]
  have isOpen : multisig.Open (world.setMultisig multisig) := by
    refine ⟨Table.get_put_self _ _, sized, unpaused, pending, standing, ?_⟩
    rw [expiry]
    exact early limit expiry
  exact isOpen.completable uncollected enough

/-- Enough of the listed signers can sign. -/
def MultisigPayment.Enough (host : Host) (multisig : MultisigPayment) : Prop :=
  multisig.requiredSignatures ≤ (multisig.able host).card

theorem step_enough {action : Action}
    (enough : world.multisigs.All (MultisigPayment.Enough host))
    (meetable : AcceptsOnly host (Meetable host) world action) :
    (step host world action).multisigs.All (MultisigPayment.Enough host) := by
  rcases step_cases host world action with
    ⟨auth, permits, call, rfl, succeeded⟩ | ⟨_, _, _, _, same⟩
  · have allowed := meetable succeeded.accepted
    have change := succeeded.multisigChange
    generalize (step host world (.invoke auth permits call)).multisigs = after at change ⊢
    cases change with
    | kept call other => exact enough
    | initiated => exact enough.put (allowed _ rfl).1
    | signed multisig entry stored =>
        have old := enough _ _ stored
        exact enough.put old
    | cancelled caller multisig stored =>
        have old := enough _ _ stored
        exact enough.put old
    | executed payer multisig stored =>
        have old := enough _ _ stored
        exact enough.put old
  · rw [same]
    exact enough

/-- The initiated multisig payments of a run can all be executed exactly if every
accepted initiation is meetable. -/
theorem multisigs_executable_iff (deployed : Deployed host start) (actions : List Action) :
    AllExecutable host start actions ↔
      Along (step host) (AcceptsOnly host (Meetable host)) start actions := by
  constructor
  · intro executable
    apply (along_iff_split start actions).mpr
    intro before action after split
    cases action with
    | invoke auth permits call =>
        intro accepted multisig initiates
        obtain ⟨early, completable⟩ :=
          executable.initiated before auth permits call after multisig split accepted initiates
        rw [run_append] at early completable
        have stored : (run (step host) start before).setMultisig multisig =
            step host (run (step host) start before) (.invoke auth permits call) :=
          (accepted.initiated initiates).2.2.symm
        have sound := run_sound deployed.multisigs_sound (before ++ [.invoke auth permits call])
        rw [run_append] at sound
        refine ⟨enough_of_completable sound ?_ completable, ?_⟩
        · rw [run_cons, run_nil, ← stored]
          exact Table.get_put_self _ _
        · rw [run_cons, run_nil, ← stored] at early
          exact early
    | tokens => trivial
    | advance => trivial
  · intro meetable
    refine ⟨fun before after paymentId multisig split stored _ _ => ?_,
      fun before auth permits call after multisig split accepted initiates => ?_⟩
    · have enough : (run (step host) start before).multisigs.All
          (MultisigPayment.Enough host) := by
        rw [split, along_append] at meetable
        refine run_invariant_along (fun world action => step_enough) ?_ meetable.1
        rw [deployed.multisigs_empty]
        exact Table.all_empty _
      exact (enough _ _ stored).trans (Finset.card_le_card (Finset.erase_subset _ _))
    · have allowed := (along_iff_split start actions).mp meetable before _ after split accepted
      have stored := (accepted.initiated initiates).2.2
      rw [run_append, run_cons, run_nil]
      refine ⟨?_, completable_of_meetable accepted allowed initiates⟩
      rw [stored]
      exact (allowed multisig initiates).2

end Runs

theorem multisigs_executable_sample :
    AllExecutable Sample.host Sample.start Sample.signedPayment :=
  (multisigs_executable_iff Sample.deployed_start _).mpr (by decide +kernel)

/-- Two signatures are asked for from one signer, who is listed twice. -/
theorem multisig_with_one_signer_twice :
    ¬ AllExecutable Sample.host Sample.start
      (Sample.opening ++ [Sample.initiating [Sample.shop, Sample.shop] 2 none]) := by
  intro executable
  have stored : (Sample.world [Sample.initiating [Sample.shop, Sample.shop] 2 none]).multisigs.get
      [1] = some (initiatedMultisig Sample.start Sample.payer [1] Sample.shop Sample.coin 100
        [Sample.shop, Sample.shop] 2 none) := by
    decide +kernel
  have enough := executable.threshold _ [] [1] _ (List.append_nil _).symm stored rfl rfl
  exact absurd enough (by decide)

end LumenFlow

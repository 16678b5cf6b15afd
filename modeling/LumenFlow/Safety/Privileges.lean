import LumenFlow.Effect.Privileges
import LumenFlow.Effect.Roster
import LumenFlow.Safety.Settlements
import LumenFlow.Safety.Timelock

/-!
# What only the admin can do

Once an admin is set, a call that it has not authorised leaves the settings, the marks and the
standing of the merchants, the stored records and the pause as they were.  Three guardians can
end a pause.
-/

namespace LumenFlow

open Kit Contract

/-- What only the admin changes. -/
structure Privileges where
  admin : Option Address
  config : Config
  guardians : List Address
  plans : Table SubscriptionPlan.planId
  auditEntries : Nat → Option AdminAuditEntry
  auditCount : Nat
  auditMaxEntries : Option Nat
  storedVersion : Option Text
  storageVersion : Nat

def World.privileges (world : World) : Privileges where
  admin := world.gov.admin
  config := world.config
  guardians := world.gov.pauseGuardians
  plans := world.subscriptions.plans
  auditEntries := world.gov.auditEntries
  auditCount := world.gov.auditCount
  auditMaxEntries := world.gov.auditMaxEntries
  storedVersion := world.gov.storedVersion
  storageVersion := world.gov.storageVersion

/-- Nothing has changed that is left to the admin. -/
structure Unprivileged (before after : World) : Prop where
  privileges : after.privileges = before.privileges
  verified : ∀ address, after.verified address = before.verified address
  active : ∀ merchant flag, before.standing merchant = some flag →
    after.standing merchant = some flag
  payments : ∀ id, before.payments.orders.get id ≠ none → after.payments.orders.get id ≠ none
  refunds : ∀ id, before.refunds.records.get id ≠ none → after.refunds.records.get id ≠ none
  disputes : ∀ id dispute, before.disputes.get id = some dispute →
    after.disputes.get id = some dispute

/-- The action is a call with the authorisation of the address. -/
def Action.AuthorisedBy (host : Host) (address : Address) : Action → Prop
  | .invoke auth permits _ => (host.env auth permits).Authorised address
  | .tokens _ | .advance .. => False

/-- The parts in which the privileges are stored, the guardians apart. -/
def privilegedParts : List Part :=
  [.admin, .audit, .versions, .cleanupPeriod, .platformFeeBps, .feeRecipient, .refundWindow,
    .refundRetention, .largePaymentThreshold, .minRefundAmount, .multisigExpiry, .maxSigners,
    .rateLimit, .signatureExpiry, .allowedTokens, .allowedIssuers, .legacy, .plans]

attribute [ext] Config Privileges

theorem privileges_of_parts {before after : World}
    (same : ∀ part ∈ privilegedParts, part.read after = part.read before)
    (guardians : after.pausing.guardians = before.pausing.guardians) :
    after.privileges = before.privileges := by
  simp only [privilegedParts, List.forall_mem_cons, Part.read] at same
  obtain ⟨admin, audit, versions, cleanupPeriod, platformFeeBps, feeRecipient, refundWindow,
    refundRetention, largePaymentThreshold, minRefundAmount, multisigExpiry, maxSigners, rateLimit,
    signatureExpiry, allowedTokens, allowedIssuers, legacy, plans, _⟩ := same
  obtain ⟨auditEntries, auditSizes⟩ := Prod.mk.inj audit
  obtain ⟨auditCount, auditMaxEntries⟩ := Prod.mk.inj auditSizes
  obtain ⟨storedVersion, storageVersion⟩ := Prod.mk.inj versions
  have config : after.config = before.config :=
    Config.ext cleanupPeriod platformFeeBps feeRecipient refundWindow refundRetention
      largePaymentThreshold minRefundAmount multisigExpiry maxSigners rateLimit signatureExpiry
      allowedTokens allowedIssuers legacy
  exact Privileges.ext admin config guardians plans auditEntries auditCount auditMaxEntries
    storedVersion storageVersion

section Calls

variable {env : Env} {world next : World} {call : Call}

theorem Call.privileged_parts (unneeded : ¬ call.NeedsAdmin)
    (appointed : ∀ admin, call ≠ .admin (.setAdmin admin)) :
    ∀ part ∈ privilegedParts, part ∉ call.parts := by
  -- a constructor lists its parts, which leaves a statement that evaluates
  cases call with
  | admin call =>
      cases call with
      | setAdmin admin => exact absurd rfl (appointed admin)
      | approveEarlyUnpause | getContractVersion | checkUpgradeCompatibility =>
          exact of_decide_eq_true rfl
      | _ => exact absurd trivial unneeded
  | merchant call => cases call <;> exact of_decide_eq_true rfl
  | payment call => cases call <;> exact of_decide_eq_true rfl
  | refund call => cases call <;> exact of_decide_eq_true rfl
  | multisig call => cases call <;> exact of_decide_eq_true rfl
  | subscription call =>
      cases call with
      | createSubscriptionPlan => exact absurd trivial unneeded
      | _ => exact of_decide_eq_true rfl
  | escrow call => cases call <;> exact of_decide_eq_true rfl

theorem setAdmin_first {admin : Address}
    (committed : (AdminCall.setAdmin admin).exec.Commits env world () next) :
    world.gov.admin = none := by
  simp [AdminCall.exec, Contract.setAdmin] at committed
  exact committed.1

/-- Without the admin the guardians stay, and a pause ends by their quorum only. -/
theorem Pausing.Move.unprivileged {before after : Pausing} {now : Nat}
    (move : before.Move env now call after) (unneeded : ¬ call.NeedsAdmin) :
    after.guardians = before.guardians ∧
      (after.paused = before.paused ∨
        ∃ guardian, call = .admin (.approveEarlyUnpause guardian) ∧ after.paused = false ∧
          guardian ∉ before.approvals ∧
          earlyUnpauseThreshold ≤ before.approvals.length + 1) := by
  cases move with
  | kept => exact ⟨rfl, .inl rfl⟩
  | approved => exact ⟨rfl, .inl rfl⟩
  | quorum guardian _ _ first enough => exact ⟨rfl, .inr ⟨guardian, rfl, rfl, first, enough⟩⟩
  | paused | locked | unpaused | guardiansSet => exact absurd trivial unneeded

theorem Pausing.Move.noted {before after : Pausing} {now : Nat} {past : List Address}
    (move : before.Move env now call after)
    (noted : ∀ guardian ∈ before.approvals, guardian ∈ past) (auth : List Address) :
    ∀ guardian ∈ after.approvals, guardian ∈ past ++ call.earlyApprovals world auth := by
  have kept : ∀ guardian ∈ before.approvals, guardian ∈ past ++ call.earlyApprovals world auth :=
    fun guardian pending => List.mem_append_left _ (noted guardian pending)
  cases move with
  | kept | paused | guardiansSet => exact kept
  | locked | unpaused | quorum => simp [Pausing.lift]
  | approved guardian =>
      intro approver pending
      rcases List.mem_append.mp pending with earlier | here
      · exact kept approver earlier
      · exact List.mem_append_right _ here

theorem Call.disputes_kept {id : Text} {dispute : DisputeRecord}
    (committed : call.exec.Commits env world () next) (unneeded : ¬ call.NeedsAdmin)
    (stored : world.disputes.get id = some dispute) :
    next.disputes.get id = some dispute := by
  have opened (fresh : DisputeRecord) (free : world.disputes.get fresh.disputeId = none) :
      (world.disputes.put fresh).get id = some dispute := by
    rw [Table.get_put_of_ne ?_, stored]
    rintro rfl
    cases free.symm.trans stored
  rcases call.disputes_cases with silent | ⟨caller, disputeId, refundId, reason, rfl⟩ |
    ⟨caller, disputeId, orderId, reason, rfl⟩ | ⟨admin, disputeId, rfl⟩ |
    ⟨admin, disputeId, notes, rfl⟩ | ⟨admin, disputeId, resolution, force, rfl⟩
  · have writes := call.writes
    have same : next.disputes = world.disputes := same_part call.parts committed .disputes silent
    rw [same, stored]
  · simp [Call.exec, RefundCall.exec, Contract.raiseDispute] at committed
    obtain ⟨_, _, _, _, free, refund, _, _, _, _, _, rfl⟩ := committed
    exact opened ⟨disputeId, refund.orderId, refundId, caller, reason, .open, none, none,
      world.timestamp⟩ free
  · simp [Call.exec, RefundCall.exec, Contract.initiateDispute] at committed
    obtain ⟨_, _, _, _, free, _, _, _, rfl⟩ := committed
    exact opened ⟨disputeId, orderId, [], caller, reason, .open, none, none, world.timestamp⟩ free
  · exact absurd trivial unneeded
  · exact absurd trivial unneeded
  · exact absurd trivial unneeded

theorem Call.needsAdmin_of_deletes (deletes : call.Deletes) : call.NeedsAdmin := by
  unfold Call.Deletes at deletes
  split at deletes
  · trivial
  · trivial
  · trivial
  · exact deletes.elim

theorem Call.unprivileged {admin : Address} (committed : call.exec.Commits env world () next)
    (appointed : world.gov.admin = some admin) (unneeded : ¬ call.NeedsAdmin) :
    Unprivileged world next := by
  have later : ∀ admin, call ≠ .admin (.setAdmin admin) := by
    rintro _ rfl
    cases (setAdmin_first committed).symm.trans appointed
  obtain ⟨guardians, _⟩ := (Call.pausing_move committed).unprivileged unneeded
  obtain ⟨payments, refunds⟩ := (Call.effect committed).stored
    fun deletes => unneeded (Call.needsAdmin_of_deletes deletes)
  exact {
    privileges := privileges_of_parts (fun part member =>
      call.writes.frame committed part (Call.privileged_parts unneeded later part member)) guardians
    verified := fun _ => Call.verified_kept committed unneeded
    active := by
      intro merchant flag known
      rcases Call.standing_changes committed known with kept | ⟨_, rfl, _⟩ | ⟨_, rfl⟩
      · exact kept
      · exact absurd trivial unneeded
      · exact absurd trivial unneeded
    payments := payments
    refunds := refunds
    disputes := fun _ _ => Call.disputes_kept committed unneeded }

end Calls

section Runs

variable {host : Host} {start : World} {before : List Action} {action : Action}

theorem Deployed.noted (deployed : Deployed host start) (actions : List Action) :
    ∀ guardian ∈ (run (step host) start actions).gov.earlyUnpauseApprovals,
      guardian ∈ approvalsIn host start actions := by
  let Noted (world : World) (past : List Address) : Prop :=
    ∀ guardian ∈ world.pausing.approvals, guardian ∈ past
  have stepwise : ∀ world past action, Noted world past →
      Noted (step host world action)
        (past ++ noteAccepted host Call.earlyApprovals world action) := by
    intro world past action noted
    rcases step_pausing host world action with
      ⟨auth, permits, call, rfl, accepted, move⟩ | ⟨silent, same⟩
    · rw [noteAccepted_of_accepted accepted]
      exact move.noted noted auth
    · rw [silent, List.append_nil]
      intro guardian pending
      rw [same] at pending
      exact noted guardian pending
  have initial : Noted start [] := by
    obtain ⟨bank, timestamp, sequence, _, _, rfl⟩ := deployed
    exact fun _ pending => by cases pending
  exact history_invariant stepwise initial actions

/-- Without the admin the pause stays as it is, or three guardians end it. -/
theorem Deployed.paused_unprivileged (deployed : Deployed host start) {auth : List Address}
    {permits : TokenCall → Bool} {call : Call}
    (accepted : Accepted host (run (step host) start before) auth permits call)
    (unneeded : ¬ call.NeedsAdmin) :
    let world := run (step host) start before
    let next := step host world (.invoke auth permits call)
    next.gov.paused = world.gov.paused ∨
      next.gov.paused = false ∧ EndsByGuardians host start before (.invoke auth permits call) := by
  intro world next
  have move := Call.pausing_move accepted.succeeds.executes
  rcases (move.unprivileged unneeded).2 with kept | ⟨guardian, rfl, lifted, first, enough⟩
  · exact .inl kept
  · refine .inr ⟨lifted, auth, permits, guardian, rfl, world.pausing.approvals ++ [guardian], ?_,
      ?_, fun approver member => ?_⟩
    · simpa using (deployed.pending before).distinct.concat first
    · simpa using enough
    · rw [← mem_approvalsIn_iff, approvalsIn, acceptedEntries, history_append]
      rcases List.mem_append.mp member with earlier | here
      · exact List.mem_append_left _ (deployed.noted before approver earlier)
      · apply List.mem_append_right _
        rw [history_cons, noteAccepted_of_accepted accepted]
        exact List.mem_append_left _ here

/-- An accepted reactivation of the merchant that the admin has authorised. -/
def Reactivates (host : Host) (world : World) (merchant : Address) : Action → Prop
  | .invoke auth permits call =>
      (∃ caller, call = .merchant (.reactivateMerchant caller merchant)) ∧
        Accepted host world auth permits call ∧ world.ByAdmin (host.env auth permits)
  | .tokens _ | .advance .. => False

theorem step_reactivates {world : World} {merchant : Address}
    (deactivated : world.standing merchant = some false)
    (ended : (step host world action).standing merchant ≠ some false) :
    Reactivates host world merchant action := by
  rcases step_cases host world action with
    ⟨auth, permits, call, rfl, succeeded⟩ | ⟨_, bank, sequence, timestamp, same⟩
  · rcases Call.standing_changes succeeded.executes deactivated with
      kept | ⟨_, _, still⟩ | ⟨caller, rfl⟩
    · exact absurd kept ended
    · exact absurd still ended
    · exact ⟨⟨caller, rfl⟩, succeeded.accepted, Call.byAdmin succeeded.executes trivial⟩
  · rw [same] at ended
    exact absurd deactivated ended

theorem run_reactivates {world : World} {merchant : Address} {during : List Action}
    (deactivated : world.standing merchant = some false)
    (active : (run (step host) world during).standing merchant = some true) :
    ∃ first action rest, during = first ++ action :: rest ∧
      Reactivates host (run (step host) world first) merchant action := by
  rcases throughout_or_exit (step host) (fun world => world.standing merchant = some false) during
    deactivated with held | ⟨first, action, rest, split, held, ended⟩
  · cases (held during [] (by simp)).symm.trans active
  · exact ⟨first, action, rest, split, step_reactivates (held first [] (by simp)) ended⟩

end Runs

/-- An action that the admin has not authorised changes nothing that is left to the admin, and
ends a pause only as the approval of a third guardian.  A deactivated merchant becomes active
only by a reactivation that the admin has authorised. -/
theorem admin_privileges {host : Host} {start : World} (deployed : Deployed host start) :
    (∀ before action admin, (run (step host) start before).gov.admin = some admin →
      ¬ action.AuthorisedBy host admin →
        let world := run (step host) start before
        let next := step host world action
        Unprivileged world next ∧
          (next.gov.paused = world.gov.paused ∨
            next.gov.paused = false ∧ EndsByGuardians host start before action)) ∧
      ∀ before during merchant, (run (step host) start before).standing merchant = some false →
        (run (step host) start (before ++ during)).standing merchant = some true →
          ∃ first action rest, during = first ++ action :: rest ∧
            Reactivates host (run (step host) start (before ++ first)) merchant action := by
  constructor
  · intro before action admin appointed foreign world next
    rcases step_cases host world action with
      ⟨auth, permits, call, rfl, succeeded⟩ | ⟨_, bank, sequence, timestamp, same⟩
    · have unneeded : ¬ call.NeedsAdmin := by
        intro needed
        obtain ⟨other, isAdmin, authorised⟩ := Call.byAdmin succeeded.executes needed
        obtain rfl := Option.some.inj (isAdmin.symm.trans appointed)
        exact foreign authorised
      exact ⟨Call.unprivileged succeeded.executes appointed unneeded,
        deployed.paused_unprivileged succeeded.accepted unneeded⟩
    · change Unprivileged world (step host world action) ∧
        ((step host world action).gov.paused = _ ∨ _)
      rw [same]
      exact ⟨⟨rfl, fun _ => rfl, fun _ _ => id, fun _ => id, fun _ => id, fun _ _ => id⟩, .inl rfl⟩
  · intro before during merchant deactivated active
    rw [run_append] at active
    simp only [run_append]
    exact run_reactivates deactivated active

/-- A shop that is deactivated cannot reactivate itself. -/
theorem admin_privileges_sample :
    let before := Sample.opening ++
      [Sample.invokedBy Sample.admin (.merchant (.deactivateMerchant Sample.admin Sample.shop))]
    let world := run (step Sample.host) Sample.start before
    let next := step Sample.host world
      (Sample.invokedBy Sample.shop (.merchant (.reactivateMerchant Sample.shop Sample.shop)))
    world.standing Sample.shop = some false ∧ next.standing Sample.shop = some false := by
  intro before world next
  have appointed : world.gov.admin = some Sample.admin := by decide +kernel
  have deactivated : world.standing Sample.shop = some false := by decide +kernel
  have foreign : ¬ (Sample.invokedBy Sample.shop
      (.merchant (.reactivateMerchant Sample.shop Sample.shop))).AuthorisedBy Sample.host
        Sample.admin := by
    change ¬ (Sample.host.env _ _).Authorised _
    decide +kernel
  have kept := ((admin_privileges Sample.deployed_start).1 before _ Sample.admin appointed
    foreign).1
  exact ⟨deactivated, kept.active Sample.shop false deactivated⟩

end LumenFlow

import LumenFlow.Kit.Retention
import LumenFlow.Effect.Frame

/-!
# What the calls write into the audit log

Seven calls append an entry each, in the name of their caller and without
parameters.  The other calls leave the log alone.
-/

namespace LumenFlow

open Kit Contract

/-- The entries of the log under their numbers, how many there have been, and how many
are kept. -/
structure AuditLog where
  entries : Nat → Option AdminAuditEntry
  count : Nat
  limit : Nat

def AuditLog.append (log : AuditLog) (entry : AdminAuditEntry) : AuditLog :=
  { log with
    entries := Retention.append log.limit log.entries log.count entry
    count := log.count + 1 }

def World.auditLog (world : World) : AuditLog where
  entries := world.getAdminAuditEntry
  count := world.getAdminAuditCount
  limit := world.getAdminAuditMaxEntries

/-- The entry that the contract writes for an action. -/
def World.auditEntry (world : World) (action : AdminActionType) (caller : Address) :
    AdminAuditEntry where
  index := world.getAdminAuditCount
  action := action
  caller := caller
  params := []
  timestamp := world.timestamp
  ledgerSequence := world.sequence

/-- The action that a call has recorded, and in whose name. -/
def AdminCall.audited : AdminCall → Option (AdminActionType × Address)
  | .setAdmin admin => some (.setAdmin, admin)
  | .transferAdmin currentAdmin _ => some (.transferAdmin, currentAdmin)
  | .setPlatformFee admin _ _ => some (.setPlatformFee, admin)
  | .pauseContract admin => some (.pauseContract, admin)
  | .unpauseContract admin => some (.unpauseContract, admin)
  | .addAllowedToken admin .. => some (.addAllowedToken, admin)
  | .removeAllowedToken admin .. => some (.removeAllowedToken, admin)
  | _ => none

/-- The entry that a call appends, if it appends one. -/
def Call.auditEntry (world : World) : Call → Option AdminAuditEntry
  | .admin call => call.audited.map fun (action, caller) => world.auditEntry action caller
  | _ => none

/-- The entry that an action appends, if it appends one. -/
abbrev auditNote (host : Host) : World → Action → List AdminAuditEntry :=
  noteAccepted host fun world _ call => (call.auditEntry world).toList

/-- The entries that a run appends, in order. -/
def auditedIn (host : Host) : World → List Action → List AdminAuditEntry :=
  acceptedEntries host fun world _ call => (call.auditEntry world).toList

section Audit

variable {env : Env} {world next : World}

theorem appendAudit_log {action : AdminActionType} {caller : Address}
    (committed : (appendAudit action caller []).Commits env world () next) :
    next.auditLog = world.auditLog.append (world.auditEntry action caller) := by
  simp [appendAudit, appendAdminAuditEntry] at committed
  rcases committed with ⟨_, ⟨full, rfl⟩ | ⟨room, rfl⟩, _, rfl⟩
  · simp [World.auditLog, World.updateGov, AuditLog.append, Retention.append, World.auditEntry,
      full]
  · simp [World.auditLog, World.updateGov, AuditLog.append, Retention.append, World.auditEntry,
      Nat.not_le.mpr room]

theorem auditLog_kept (same : Part.audit.read next = Part.audit.read world) :
    next.auditLog = world.auditLog :=
  congrArg (fun log => AuditLog.mk log.1 log.2.1 (log.2.2.getD defaultAdminAuditMaxEntries)) same

/-- The log after a call that appends what its entry says. -/
def World.audited (world : World) (entry : Option AdminAuditEntry) : AuditLog :=
  entry.elim world.auditLog world.auditLog.append

theorem AdminCall.auditLog {call : AdminCall}
    (committed : call.exec.Commits env world () next) :
    next.auditLog = world.audited (Call.auditEntry world (.admin call)) := by
  have quiet (other : .audit ∉ call.parts) : next.auditLog = world.auditLog :=
    auditLog_kept (call.writes.frame committed .audit other)
  cases call with
  | setAdmin admin =>
      simp [AdminCall.exec, Contract.setAdmin] at committed
      obtain ⟨_, _, audited⟩ := committed
      exact (appendAudit_log audited).trans rfl
  | transferAdmin currentAdmin newAdmin =>
      simp [AdminCall.exec, Contract.transferAdmin] at committed
      obtain ⟨_, _, _, audited⟩ := committed
      exact (appendAudit_log audited).trans rfl
  | setPlatformFee admin feeBps feeRecipient =>
      simp [AdminCall.exec, Contract.setPlatformFee] at committed
      obtain ⟨_, _, audited⟩ := committed
      exact (appendAudit_log audited).trans rfl
  | pauseContract admin =>
      simp [AdminCall.exec, Contract.pauseContract] at committed
      obtain ⟨_, audited⟩ := committed
      exact (appendAudit_log audited).trans rfl
  | unpauseContract admin =>
      simp [AdminCall.exec, Contract.unpauseContract] at committed
      obtain ⟨_, _, audited⟩ := committed
      exact (appendAudit_log audited).trans rfl
  | addAllowedToken admin =>
      simp [AdminCall.exec, Contract.addAllowedToken] at committed
      obtain ⟨_, middle, checked, audited⟩ := committed
      have untouched : middle = world := by tauto
      rw [untouched] at audited
      exact (appendAudit_log audited).trans rfl
  | removeAllowedToken admin =>
      simp [AdminCall.exec, Contract.removeAllowedToken] at committed
      obtain ⟨_, audited⟩ := committed
      exact (appendAudit_log audited).trans rfl
  | _ => exact quiet (by simp [AdminCall.parts])

theorem Call.auditLog {call : Call} (committed : call.exec.Commits env world () next) :
    next.auditLog = world.audited (call.auditEntry world) := by
  have quiet (other : .audit ∉ call.parts) : next.auditLog = world.auditLog :=
    auditLog_kept (call.writes.frame committed .audit other)
  cases call with
  | admin call => exact AdminCall.auditLog committed
  | merchant call => exact quiet (by cases call <;> simp [Call.parts, MerchantCall.parts])
  | payment call => exact quiet (by cases call <;> simp [Call.parts, PaymentCall.parts])
  | refund call => exact quiet (by cases call <;> simp [Call.parts, RefundCall.parts])
  | multisig call => exact quiet (by cases call <;> simp [Call.parts, MultisigCall.parts])
  | subscription call => exact quiet (by cases call <;> simp [Call.parts, SubscriptionCall.parts])
  | escrow call => exact quiet (by cases call <;> simp [Call.parts, EscrowCall.parts])

theorem step_auditLog (host : Host) (world : World) (action : Action) :
    (∃ entry, auditNote host world action = [entry] ∧ entry.ledgerSequence = world.sequence ∧
        (step host world action).auditLog = world.auditLog.append entry) ∨
      auditNote host world action = [] ∧ (step host world action).auditLog = world.auditLog := by
  rcases step_cases host world action with
    ⟨auth, permits, call, rfl, succeeded⟩ | ⟨silent, bank, sequence, timestamp, same⟩
  · have log := Call.auditLog succeeded.executes
    rw [auditNote, noteAccepted_of_accepted succeeded.accepted, log]
    cases noted : call.auditEntry world with
    | none => exact .inr ⟨rfl, rfl⟩
    | some entry =>
        refine .inl ⟨entry, rfl, ?_, rfl⟩
        cases call with
        | admin call =>
            obtain ⟨_, _, rfl⟩ := Option.map_eq_some_iff.mp noted
            rfl
        | _ => simp [Call.auditEntry] at noted
  · refine .inr ⟨silent _, ?_⟩
    rw [same]
    rfl

end Audit

end LumenFlow

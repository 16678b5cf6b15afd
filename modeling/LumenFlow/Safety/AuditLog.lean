import LumenFlow.Effect.Audit
import LumenFlow.Effect.Failures

/-!
# Retention of the audit log

Of all entries that a run appends, the log holds the newest ones, as many as
its limit, and a query shows those of its range from the newest back.
-/

namespace LumenFlow

open Kit Contract

/-- The log holds the newest of the entries so far, whose ledgers are in order. -/
structure AuditKept (limit : Nat) (world : World) (past : List AdminAuditEntry) : Prop where
  limit_eq : world.auditLog.limit = limit
  count_eq : world.auditLog.count = past.length
  retains : Retention.Retains limit past world.auditLog.entries
  sorted : past.Pairwise fun first second => first.ledgerSequence ≤ second.ledgerSequence
  elapsed : ∀ entry ∈ past, entry.ledgerSequence ≤ world.sequence
  clock : world.sequence ≤ u32Max

section Log

variable {host : Host} {start world next : World} {past : List AdminAuditEntry} {limit : Nat}

namespace AuditKept

theorem silent (kept : AuditKept limit world past) (same : next.auditLog = world.auditLog)
    (later : world.sequence ≤ next.sequence) (clock : next.sequence ≤ u32Max) :
    AuditKept limit next past where
  limit_eq := same ▸ kept.limit_eq
  count_eq := same ▸ kept.count_eq
  retains := same ▸ kept.retains
  sorted := kept.sorted
  elapsed entry member := (kept.elapsed entry member).trans later
  clock := clock

theorem append (kept : AuditKept limit world past) (positive : 0 < limit)
    {entry : AdminAuditEntry} (now : entry.ledgerSequence = world.sequence)
    (same : next.auditLog = world.auditLog.append entry) (later : world.sequence ≤ next.sequence)
    (clock : next.sequence ≤ u32Max) : AuditKept limit next (past ++ [entry]) where
  limit_eq := by rw [same]; exact kept.limit_eq
  count_eq := by rw [same, List.length_append]; exact congrArg (· + 1) kept.count_eq
  retains := by
    have appended := kept.retains.append positive entry
    rw [← kept.limit_eq, ← kept.count_eq] at appended
    rw [same, ← kept.limit_eq]
    exact appended
  sorted := by
    rw [List.pairwise_append]
    refine ⟨kept.sorted, List.pairwise_singleton _ _, ?_⟩
    intro first earlier second last
    rw [List.mem_singleton.mp last, now]
    exact kept.elapsed first earlier
  elapsed other member := by
    rcases List.mem_append.mp member with earlier | last
    · exact (kept.elapsed other earlier).trans later
    · rw [List.mem_singleton.mp last, now]
      exact later
  clock := clock

theorem run (positive : 0 < limit) (kept : AuditKept limit start []) (actions : List Action) :
    AuditKept limit (run (step host) start actions) (auditedIn host start actions) := by
  have stepwise : ∀ world past action, AuditKept limit world past →
      AuditKept limit (step host world action) (past ++ auditNote host world action) := by
    intro world past action kept
    obtain ⟨later, clock⟩ := step_sequence host action kept.clock
    rcases step_auditLog host world action with ⟨entry, noted, now, appended⟩ | ⟨noted, same⟩
    · rw [noted]
      exact kept.append positive now appended later clock
    · rw [noted, List.append_nil]
      exact kept.silent same later clock
  exact history_invariant stepwise kept actions

end AuditKept

theorem queryAdminAuditLog_eq (world : World) (low high count limit : Nat) :
    world.queryAdminAuditLog low high count limit =
      Retention.scan AdminAuditEntry.ledgerSequence world.auditLog.entries low high count
        limit := by
  induction count generalizing limit with
  | zero => rfl
  | succ top inductionHypothesis =>
      cases limit with
      | zero => rfl
      | succ limit =>
          rw [World.queryAdminAuditLog, Retention.scan]
          simp only [inductionHypothesis]
          have stored : world.auditLog.entries top = world.getAdminAuditEntry top := rfl
          rw [stored]
          cases world.getAdminAuditEntry top <;> rfl

/-- What a log with a retention limit shows of the entries: the newest in the range,
from the newest to the oldest. -/
def auditShown (retention : Nat) (entries : List AdminAuditEntry) (fromLedger toLedger : Nat)
    (limit : Nat) : List AdminAuditEntry :=
  ((entries.drop (entries.length - retention)).reverse.filter fun entry =>
    fromLedger ≤ entry.ledgerSequence ∧ entry.ledgerSequence ≤ toLedger).take limit

theorem AuditKept.query_eq (kept : AuditKept limit world past) (low high shown : Nat) :
    world.queryAdminAuditLog low high world.getAdminAuditCount shown =
      auditShown limit past low high shown := by
  have ordered := kept.retains.ordered kept.sorted
  have count : world.getAdminAuditCount = past.length := kept.count_eq
  rw [queryAdminAuditLog_eq, Retention.scan_eq ordered, count, kept.retains.newest_eq, auditShown]

theorem commits_getAdminAuditLog {env : Env} {admin : Address} {fromLedger toLedger shown : Nat}
    {entries : List AdminAuditEntry} :
    (getAdminAuditLog admin fromLedger toLedger shown).Commits env world entries next ↔
      ((env.Authorised admin ∧ world.gov.admin = some admin) ∧
        (fromLedger ≤ toLedger ∧ shown ≠ 0)) ∧
        entries = world.queryAdminAuditLog fromLedger toLedger world.getAdminAuditCount
          (min shown 100) ∧ next = world := by
  simp only [getAdminAuditLog, Tx.commits_bind, Tx.exists_unit, commits_requireAdmin,
    Tx.commits_failIf, Tx.commits_gets]
  constructor
  · rintro ⟨_, ⟨authorised, rfl⟩, _, ⟨valid, rfl⟩, rfl, rfl⟩
    exact ⟨⟨authorised, by omega⟩, rfl, rfl⟩
  · rintro ⟨⟨authorised, valid⟩, rfl, rfl⟩
    exact ⟨next, ⟨authorised, rfl⟩, next, ⟨by omega, rfl⟩, rfl, rfl⟩

theorem fails_getAdminAuditLog_zero {env : Env} {admin : Address} {fromLedger toLedger : Nat}
    (authorised : env.Authorised admin) (isAdmin : world.getAdmin = some admin) :
    (getAdminAuditLog admin fromLedger toLedger 0).Fails env world (.error .invalidInput) := by
  refine Tx.fails_bind.mpr (.inr ⟨(), world, commits_requireAdmin.mpr ⟨?_, rfl⟩, ?_⟩)
  · exact ⟨authorised, isAdmin⟩
  · exact Tx.fails_bind.mpr (.inl (Tx.fails_failIf.mpr ⟨.inr rfl, rfl⟩))

/-- A log that starts empty holds the newest entries, unchanged, up to its limit.  A query
of the administrator for at least one entry shows the newest of its range, up to a hundred, and
one for no entries is invalid. -/
theorem audit_log_exact {retention : Nat} (positive : 1 ≤ retention)
    (limited : start.getAdminAuditMaxEntries = retention) (empty : start.getAdminAuditCount = 0)
    (blank : start.getAdminAuditEntry = fun _ => none) (clock : start.sequence ≤ u32Max)
    (actions : List Action) :
    let world := Kit.run (step host) start actions
    let appended := auditedIn host start actions
    world.getAdminAuditCount = appended.length ∧
      (∀ index, world.getAdminAuditEntry index =
        if appended.length - retention ≤ index then appended[index]? else none) ∧
      (∀ env admin fromLedger toLedger limit entries next, fromLedger ≤ toLedger → 1 ≤ limit →
        ((getAdminAuditLog admin fromLedger toLedger limit).Commits env world entries next ↔
          (env.Authorised admin ∧ world.getAdmin = some admin) ∧
            entries = auditShown retention appended fromLedger toLedger (min limit 100) ∧
            next = world)) ∧
      ∀ (env : Env) admin fromLedger toLedger, env.Authorised admin → world.getAdmin = some admin →
        (getAdminAuditLog admin fromLedger toLedger 0).Fails env world (.error .invalidInput) := by
  have initial : AuditKept retention start [] := by
    refine ⟨limited, empty, ?_, .nil, fun _ none => (List.not_mem_nil none).elim, clock⟩
    have stored : start.auditLog.entries = fun _ => none := blank
    rw [stored]
    exact Retention.retains_nil
  have kept : AuditKept retention (Kit.run (step host) start actions)
      (auditedIn host start actions) := AuditKept.run positive initial actions
  intro world appended
  refine ⟨kept.count_eq, kept.retains, ?_, fun env admin _ _ authorised isAdmin =>
    fails_getAdminAuditLog_zero authorised isAdmin⟩
  intro env admin fromLedger toLedger limit entries next ordered some
  rw [commits_getAdminAuditLog, kept.query_eq]
  have nonzero : limit ≠ 0 := Nat.one_le_iff_ne_zero.mp some
  tauto

end Log

namespace Sample

/-- A deployment that keeps two entries. -/
def shortLog : World := start.updateGov ({ · with auditMaxEntries := some 2 })

/-- Three actions of the administrator that are recorded. -/
def audited : List Action := [
  invokedBy admin (.admin (.setAdmin admin)),
  .advance 5 30,
  invokedBy admin (.admin (.pauseContract admin)),
  invokedBy admin (.admin (.unpauseContract admin))]

end Sample

theorem audit_log_exact_sample :
    let world := run (step Sample.host) Sample.shortLog Sample.audited
    let appended := auditedIn Sample.host Sample.shortLog Sample.audited
    appended.length = 3 ∧ world.getAdminAuditCount = appended.length ∧
      (∀ index, world.getAdminAuditEntry index =
        if appended.length - 2 ≤ index then appended[index]? else none) ∧
      (∀ env admin fromLedger toLedger limit entries next, fromLedger ≤ toLedger → 1 ≤ limit →
        ((getAdminAuditLog admin fromLedger toLedger limit).Commits env world entries next ↔
          (env.Authorised admin ∧ world.getAdmin = some admin) ∧
            entries = auditShown 2 appended fromLedger toLedger (min limit 100) ∧
            next = world)) ∧
      ∀ (env : Env) admin fromLedger toLedger, env.Authorised admin → world.getAdmin = some admin →
        (getAdminAuditLog admin fromLedger toLedger 0).Fails env world (.error .invalidInput) :=
  ⟨by decide +kernel, audit_log_exact (by decide) rfl rfl rfl (by decide) Sample.audited⟩

/-- A query for no entries is refused, to the administrator as well. -/
theorem empty_query_refused :
    let env := Sample.host.env [Sample.admin] fun _ => true
    let world := Sample.world []
    (env.Authorised Sample.admin ∧ world.getAdmin = some Sample.admin) ∧
      (getAdminAuditLog Sample.admin 0 0 0).Fails env world (.error .invalidInput) ∧
      ∀ entries next, ¬ (getAdminAuditLog Sample.admin 0 0 0).Commits env world entries next := by
  intro env world
  have admitted : env.Authorised Sample.admin ∧ world.getAdmin = some Sample.admin := by
    decide +kernel
  refine ⟨admitted, fails_getAdminAuditLog_zero admitted.1 admitted.2, ?_⟩
  intro entries next committed
  exact (commits_getAdminAuditLog.mp committed).1.2.2 rfl

end LumenFlow

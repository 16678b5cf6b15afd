import LumenFlow.Kit.Tumbling
import LumenFlow.Model.Call

/-!
# The window over which failures are counted

Ten failures within a hundred ledgers are to lock an address out.  The record of an
address has the number of its failures and the ledger of the first one, and the next
one after the window of that one begins a new record.
-/

namespace LumenFlow

open Kit Contract

/-- A call of `record_auth_failure` that takes effect. -/
structure FailureCall where
  before : World
  reported : Bool
  after : World

def FailureCall.ledger (call : FailureCall) : Nat := call.before.sequence

/-- The failure record of an address. -/
def World.failureCounter (world : World) (address : Address) : Tumbling.Counter where
  count := (world.getAuthFailCount address).1
  start := (world.getAuthFailCount address).2

/-- The calls record failures of the address, from a world with this record and this lockout
on.  Whatever happens between them leaves the record and the lockout alone. -/
def Recorded (env : Env) (address : Address) : Tumbling.Counter → Nat → List FailureCall → Prop
  | _, _, [] => True
  | counter, limit, call :: rest =>
      call.before.failureCounter address = counter ∧
        call.before.getAuthLockoutUntil address = limit ∧
        (recordAuthFailure address).Commits env call.before call.reported call.after ∧
        Recorded env address (call.after.failureCounter address)
          (call.after.getAuthLockoutUntil address) rest

/-- Ten failures are among the hundred ledgers up to now. -/
def TenRecent (calls : List FailureCall) (now : Nat) : Prop :=
  authMaxFailures ≤ (calls.map FailureCall.ledger).countP (now < · + authFailureWindowLedgers)

/-- The call reports a lockout, and the address is locked out for the time of a lockout,
whatever failures come later. -/
def LocksOut (address : Address) (call : FailureCall) (later : List FailureCall) : Prop :=
  call.reported = true ∧ ∀ other ∈ call :: later, ∀ ledger, call.ledger ≤ ledger →
    ledger < call.ledger + authLockoutLedgers →
      World.isAuthLockedOut { other.after with sequence := ledger } address = true

/-- An address is locked out exactly when it has failed ten times within a hundred ledgers. -/
structure CountsSliding (address : Address) (calls : List FailureCall) : Prop where
  locks : ∀ past call later, calls = past ++ call :: later →
    TenRecent (past ++ [call]) call.ledger → LocksOut address call later
  sound : ∀ past call later, calls = past ++ call :: later →
    call.reported = true ∨ call.after.getAuthLockoutUntil address ≠
      call.before.getAuthLockoutUntil address → TenRecent (past ++ [call]) call.ledger

/-- Where ten failures are recent, none of the last nine begins a new record. -/
def RecordsWhole (calls : List FailureCall) : Prop :=
  ∀ past call later, calls = past ++ call :: later → TenRecent (past ++ [call]) call.ledger →
    Tumbling.Unbroken authFailureWindowLedgers 9 ((past ++ [call]).map FailureCall.ledger)

section Windows

variable {env : Env} {address : Address} {world next : World} {reported : Bool}
  {calls past later : List FailureCall} {call : FailureCall} {counter : Tumbling.Counter}
  {limit : Nat}

theorem counted {count start : Nat}
    (tail : (authMaxFailures ≤ count ∧ world.sequence + authLockoutLedgers ≤ u32Max ∧
        reported = true ∧ next = (world.setAuthFailCount address count start).setAuthLockoutUntil
          address (world.sequence + authLockoutLedgers)) ∨
      count < authMaxFailures ∧ reported = false ∧
        next = world.setAuthFailCount address count start) :
    next.failureCounter address = ⟨count, start⟩ ∧ reported = decide (authMaxFailures ≤ count) ∧
      next.getAuthLockoutUntil address =
        if reported then world.sequence + authLockoutLedgers
        else world.getAuthLockoutUntil address := by
  rcases tail with ⟨many, _, rfl, rfl⟩ | ⟨few, rfl, rfl⟩
  · simp [World.failureCounter, World.updateGov, many]
  · simp [World.failureCounter, World.updateGov, few]

theorem recordAuthFailure_spec
    (committed : (recordAuthFailure address).Commits env world reported next) :
    next.failureCounter address =
        (world.failureCounter address).bump authFailureWindowLedgers world.sequence ∧
      reported = decide (authMaxFailures ≤ (next.failureCounter address).count) ∧
      next.getAuthLockoutUntil address =
        if reported then world.sequence + authLockoutLedgers
        else world.getAuthLockoutUntil address := by
  simp [recordAuthFailure] at committed
  rcases committed with ⟨first, tail⟩ | ⟨begun, _, ⟨ended, tail⟩ | ⟨within, tail⟩⟩
  · obtain ⟨bumped, reports, locks⟩ := counted tail
    have fresh : (world.failureCounter address).Fresh authFailureWindowLedgers world.sequence :=
      .inl first
    rw [Tumbling.Counter.bump, if_pos fresh, bumped]
    exact ⟨rfl, reports, locks⟩
  · obtain ⟨bumped, reports, locks⟩ := counted tail
    have fresh : (world.failureCounter address).Fresh authFailureWindowLedgers world.sequence :=
      ended
    rw [Tumbling.Counter.bump, if_pos fresh, bumped, if_pos ended]
    exact ⟨rfl, reports, locks⟩
  · have continues : ¬ ((world.gov.authFailCount address).2 = 0 ∨
        (world.gov.authFailCount address).2 + authFailureWindowLedgers ≤ world.sequence) := by
      rintro (first | ended)
      · exact begun first
      · exact absurd ended (Nat.not_le.mpr within.2)
    have stale : ¬ (world.failureCounter address).Fresh authFailureWindowLedgers
        world.sequence := continues
    obtain ⟨_, tail⟩ := tail
    obtain ⟨bumped, reports, locks⟩ := counted tail
    rw [Tumbling.Counter.bump, if_neg stale, bumped, if_neg continues]
    exact ⟨rfl, reports, locks⟩

namespace Recorded

theorem split (recorded : Recorded env address counter limit (past ++ call :: later)) :
    call.before.failureCounter address =
        (past.map FailureCall.ledger).foldl (Tumbling.Counter.bump authFailureWindowLedgers)
          counter ∧
      (recordAuthFailure address).Commits env call.before call.reported call.after ∧
      Recorded env address (call.after.failureCounter address)
        (call.after.getAuthLockoutUntil address) later := by
  induction past generalizing counter limit with
  | nil => exact ⟨recorded.1, recorded.2.2⟩
  | cons first past inductionHypothesis =>
      obtain ⟨found, _, committed, recorded⟩ := recorded
      have bumped := (recordAuthFailure_spec committed).1
      rw [List.map_cons, List.foldl_cons, ← found]
      exact bumped ▸ inductionHypothesis recorded

theorem kept {now : Nat} (recorded : Recorded env address counter limit calls)
    (since : ∀ other ∈ calls, now ≤ other.ledger) (locked : now + authLockoutLedgers ≤ limit) :
    ∀ other ∈ calls, now + authLockoutLedgers ≤ other.after.getAuthLockoutUntil address := by
  induction calls generalizing counter limit with
  | nil => simp
  | cons first calls inductionHypothesis =>
      obtain ⟨_, found, committed, recorded⟩ := recorded
      have lasts : now + authLockoutLedgers ≤ first.after.getAuthLockoutUntil address := by
        have later : now ≤ first.before.sequence := since first List.mem_cons_self
        rw [(recordAuthFailure_spec committed).2.2]
        split <;> omega
      rw [List.forall_mem_cons]
      apply And.intro lasts
      exact inductionHypothesis recorded (fun other member =>
        since other (List.mem_cons_of_mem first member)) lasts

/-- A call reports a lockout exactly when the record counts ten failures. -/
theorem reported_iff (recorded : Recorded env address ⟨0, 0⟩ 0 (past ++ call :: later)) :
    call.reported = true ↔ authMaxFailures ≤ (Tumbling.tally authFailureWindowLedgers
      ((past ++ [call]).map FailureCall.ledger)).count := by
  obtain ⟨found, committed, _⟩ := recorded.split
  obtain ⟨bumped, reports, _⟩ := recordAuthFailure_spec committed
  have tallied : call.before.failureCounter address =
      Tumbling.tally authFailureWindowLedgers (past.map FailureCall.ledger) := found
  rw [reports, decide_eq_true_iff, bumped, tallied, List.map_append, List.map_singleton,
    Tumbling.tally_concat, FailureCall.ledger]

end Recorded

theorem sorted_ledgers
    (ordered : (past ++ call :: later).Pairwise (fun first second =>
      first.ledger ≤ second.ledger)) :
    ((past ++ [call]).map FailureCall.ledger).Pairwise (· ≤ ·) := by
  rw [List.pairwise_map]
  rw [List.append_cons] at ordered
  exact (List.pairwise_append.mp ordered).1

/-- The record counts over tumbling windows, so that ten failures within a hundred ledgers
can go without a lockout.  Failures are counted as the window slides exactly when no window
begins in the midst of ten such failures. -/
theorem counts_sliding_iff (recorded : Recorded env address ⟨0, 0⟩ 0 calls)
    (ordered : calls.Pairwise (fun first second => first.ledger ≤ second.ledger)) :
    CountsSliding address calls ↔ RecordsWhole calls := by
  constructor
  · intro sliding past call later split recent
    subst split
    have reported := (sliding.locks past call later rfl recent).1
    exact (Tumbling.le_count_iff_of_recent recent).mp (recorded.reported_iff.mp reported)
  · intro whole
    constructor
    · intro past call later split recent
      have unbroken := whole past call later split recent
      subst split
      have reported : call.reported = true :=
        recorded.reported_iff.mpr ((Tumbling.le_count_iff_of_recent recent).mpr unbroken)
      obtain ⟨_, committed, remaining⟩ := recorded.split
      have locked := (recordAuthFailure_spec committed).2.2
      rw [if_pos reported] at locked
      have since : ∀ other ∈ later, call.ledger ≤ other.ledger :=
        (List.pairwise_cons.mp (List.pairwise_append.mp ordered).2.1).1
      have lasts : ∀ other ∈ call :: later,
          call.ledger + authLockoutLedgers ≤ other.after.getAuthLockoutUntil address := by
        rw [List.forall_mem_cons]
        exact ⟨locked.ge, remaining.kept since locked.ge⟩
      apply And.intro reported
      intro other member ledger _ soon
      have active : ledger < other.after.getAuthLockoutUntil address :=
        Nat.lt_of_lt_of_le soon (lasts other member)
      exact decide_eq_true ⟨Nat.zero_lt_of_lt active, active⟩
    · intro past call later split locks
      subst split
      obtain ⟨_, committed, _⟩ := recorded.split
      have reported : call.reported = true := by
        by_contra silent
        have kept := (recordAuthFailure_spec committed).2.2
        rw [if_neg silent] at kept
        exact locks.elim silent (absurd kept)
      have counted := recorded.reported_iff.mp reported
      have sorted := sorted_ledgers ordered
      rw [List.map_append, List.map_singleton] at counted sorted
      rw [TenRecent, List.map_append, List.map_singleton]
      exact Nat.le_trans counted (Tumbling.count_le_recent (by decide) sorted)

end Windows

/-! ## Failures on both sides of the end of a window -/

/-- Failures at these ledgers, one after another. -/
def failuresAt (env : Env) (address : Address) : World → List Nat → List FailureCall
  | _, [] => []
  | world, ledger :: rest =>
      let before := { world with sequence := ledger }
      match recordAuthFailure address env before with
      | .ok (reported, after) => ⟨before, reported, after⟩ :: failuresAt env address after rest
      | .error _ => []

theorem recorded_failuresAt (env : Env) (address : Address) (world : World)
    (ledgers : List Nat) :
    Recorded env address (world.failureCounter address) (world.getAuthLockoutUntil address)
      (failuresAt env address world ledgers) := by
  induction ledgers generalizing world with
  | nil => trivial
  | cons ledger ledgers inductionHypothesis =>
      rw [failuresAt]
      split
      · rename_i reported after committed
        exact ⟨rfl, rfl, committed, inductionHypothesis after⟩
      · trivial

namespace Sample

/-- A failure, five at the end of the window that it begins, and five in the next one. -/
def straddling : List FailureCall :=
  failuresAt ⟨host, [], fun _ => true⟩ payer start
    [1, 100, 100, 100, 100, 100, 101, 101, 101, 101, 101]

theorem straddling_ne_nil : straddling ≠ [] := by
  intro none
  exact absurd (congrArg List.length none) (by decide +kernel)

end Sample

theorem counts_sliding_iff_sample :
    CountsSliding Sample.payer Sample.straddling ↔ RecordsWhole Sample.straddling :=
  counts_sliding_iff
    (recorded_failuresAt ⟨Sample.host, [], fun _ => true⟩ Sample.payer Sample.start _)
    (by decide +kernel)

/-- Ten failures come within two ledgers, and none of them locks the address out. -/
theorem ten_failures_unlocked :
    Recorded ⟨Sample.host, [], fun _ => true⟩ Sample.payer ⟨0, 0⟩ 0 Sample.straddling ∧
      Sample.straddling.Pairwise (fun first second => first.ledger ≤ second.ledger) ∧
      (Sample.straddling.map FailureCall.ledger).countP (100 ≤ ·) = 10 ∧
      ¬ CountsSliding Sample.payer Sample.straddling := by
  have recorded : Recorded ⟨Sample.host, [], fun _ => true⟩ Sample.payer ⟨0, 0⟩ 0
      Sample.straddling := recorded_failuresAt _ Sample.payer Sample.start _
  apply And.intro recorded
  refine ⟨by decide +kernel, by decide +kernel, ?_⟩
  intro sliding
  have split := (List.dropLast_append_getLast Sample.straddling_ne_nil).symm
  have recent : TenRecent (Sample.straddling.dropLast ++
      [Sample.straddling.getLast Sample.straddling_ne_nil])
      (Sample.straddling.getLast Sample.straddling_ne_nil).ledger := by
    rw [← split, TenRecent]
    decide +kernel
  exact absurd (sliding.locks _ _ [] split recent).1 (by decide +kernel)

end LumenFlow

import Mathlib.Data.List.Induction
import LumenFlow.Security.RateLimiter

/-!
# How long a lockout lasts

A failure that arrives while its key is locked, but after the window in which the failures were
counted has ended, starts a new entry and forgets the lock.  A lockout lasts exactly in the runs
in which no such failure arrives.
-/

namespace LumenFlow

open Kit

namespace Security

/-- The key may not attempt before a time. -/
def RateLimitStatus.Denies (status : RateLimitStatus) (retryAt : ℚ) : Prop :=
  status.allowed = false ∧ status.retryAt = some retryAt

instance (status : RateLimitStatus) (retryAt : ℚ) : Decidable (status.Denies retryAt) :=
  inferInstanceAs (Decidable (_ ∧ _))

namespace FailureRateLimiter

variable (limiter : FailureRateLimiter)

/-- After a failure that locks the key until a time, as long as no success for the key
intervenes, every check and every failure before that time is denied until then or later. -/
def Lasts (key : Text) (start : LimiterState) (calls : List LimiterCall) : Prop :=
  ∀ before time during probe after lockedUntil,
    calls = before ++ ⟨time, .recordFailure key⟩ :: (during ++ probe :: after) →
    (limiter.recordFailure (run limiter.take start before).entries key time).1.Denies
      lockedUntil →
    (∀ call ∈ during, call.op ≠ .recordSuccess key) →
    probe.time < lockedUntil →
    ∀ status ∈ limiter.report key
        (run limiter.take start (before ++ ⟨time, .recordFailure key⟩ :: during)) probe,
      ∃ retryAt, lockedUntil ≤ retryAt ∧ status.Denies retryAt

/-- The call is a failure of a locked key whose window has ended, and the entry that replaces the
locked one ends sooner: it is not locked at once by a first failure.  Before time zero the new
entry counts as locked until zero. -/
def Forgets (key : Text) (state : LimiterState) (call : LimiterCall) : Prop :=
  call.op = .recordFailure key ∧
    ∃ entry ∈ state.entries key, call.time < entry.lockedUntil ∧
      limiter.windowMs ≤ Double.sub call.time entry.windowStart ∧
      if call.time < 0 then 0 < entry.lockedUntil else 1 < limiter.maxFailures

instance (key : Text) (state : LimiterState) : DecidablePred (limiter.Forgets key state) :=
  fun _ => inferInstanceAs (Decidable (_ ∧ ∃ entry ∈ state.entries key, _ ∧ _ ∧ _))

/-- The entry of the key is locked until a time, or that time has come. -/
def Holds (key : Text) (lockedUntil : ℚ) (state : LimiterState) : Prop :=
  state.clock < lockedUntil → ∃ entry ∈ state.entries key, lockedUntil ≤ entry.lockedUntil

/-- No lock reaches further than a lockout from now. -/
def Bounded (state : LimiterState) : Prop :=
  ∀ key, ∀ entry ∈ state.entries key,
    entry.lockedUntil = 0 ∨ entry.lockedUntil ≤ Double.add state.clock limiter.lockoutMs

/-- What a run keeps while a lockout lasts. -/
structure InForce (key : Text) (lockedUntil : ℚ) (state : LimiterState) : Prop where
  holds : Holds key lockedUntil state
  bounded : limiter.Bounded state

/-! ## One failure -/

section Failure

variable {limiter} {entries : Entries} {entry : Entry} {key other : Text} {t lockedUntil : ℚ}

theorem recordFailure_entry (limiter : FailureRateLimiter) (entries : Entries) (key : Text)
    (t : ℚ) : (limiter.recordFailure entries key t).2 key =
      some (limiter.count (limiter.current entries key t) t).2 := by
  simp [recordFailure]

theorem recordFailure_other (distinct : other ≠ key) :
    (limiter.recordFailure entries key t).2 other = entries other := by
  simp [recordFailure, distinct]

theorem count_cases (limiter : FailureRateLimiter) (entry : Entry) (t : ℚ) :
    (limiter.count entry t).1.Denies (limiter.count entry t).2.lockedUntil ∨
      (limiter.count entry t).1.allowed = true ∧ (limiter.count entry t).2.lockedUntil ≤ t := by
  simp only [count]
  split_ifs with locked
  · exact .inl ⟨rfl, rfl⟩
  · exact .inl ⟨rfl, rfl⟩
  · exact .inr ⟨rfl, not_lt.mp locked⟩

theorem count_of_locked (locked : t < entry.lockedUntil) :
    limiter.count entry t = (⟨false, 0, some entry.lockedUntil⟩, entry) :=
  if_pos locked

theorem count_bounded (limiter : FailureRateLimiter)
    (bounded : entry.lockedUntil = 0 ∨ entry.lockedUntil ≤ Double.add t limiter.lockoutMs) :
    (limiter.count entry t).2.lockedUntil = 0 ∨
      (limiter.count entry t).2.lockedUntil ≤ Double.add t limiter.lockoutMs := by
  simp only [count]
  split_ifs
  · exact bounded
  · exact .inr le_rfl
  · exact bounded

theorem count_fresh (nonneg : 0 ≤ t) : limiter.count ⟨0, t, 0⟩ t =
    if limiter.maxFailures ≤ 1 then
      (⟨false, 0, some (Double.add t limiter.lockoutMs)⟩, ⟨1, t, Double.add t limiter.lockoutMs⟩)
    else (⟨true, Double.sub limiter.maxFailures 1, none⟩, ⟨1, t, 0⟩) := by
  have one : Double.add 0 1 = 1 := by decide +kernel
  simp [count, not_lt.mpr nonneg, one]

end Failure

/-! ## One call -/

section Step

variable {limiter} {state : LimiterState} {call : LimiterCall} {entry : Entry} {key : Text}
  {t lockedUntil : ℚ}

theorem current_of_mem {entries : Entries} (found : entry ∈ entries key) :
    limiter.current entries key t =
      if limiter.windowMs ≤ Double.sub t entry.windowStart then ⟨0, t, 0⟩ else entry := by
  have here : entries key = some entry := found
  simp [current, here]

theorem current_bounded (bounded : limiter.Bounded state) (timely : state.clock ≤ t)
    (key : Text) : (limiter.current state.entries key t).lockedUntil = 0 ∨
      (limiter.current state.entries key t).lockedUntil ≤ Double.add t limiter.lockoutMs := by
  cases found : state.entries key with
  | none => exact .inl (by simp [current, found])
  | some entry =>
      rw [current_of_mem found]
      split_ifs
      · exact .inl rfl
      · rcases bounded key entry found with unlocked | soon
        · exact .inl unlocked
        · exact .inr (soon.trans (Double.add_mono_left _ timely))

theorem mem_prune : entry ∈ limiter.prune state.entries t key ↔
    entry ∈ state.entries key ∧
      ¬ (entry.lockedUntil ≤ t ∧ limiter.windowMs ≤ Double.sub t entry.windowStart) := by
  simp [prune, Option.filter_eq_some_iff, imp_iff_not_or]

theorem mem_take (found : entry ∈ (limiter.take state call).entries key) :
    entry ∈ state.entries key ∧ call.op ≠ .recordSuccess key ∨
      call.op = .recordFailure key ∧
        entry = (limiter.count (limiter.current state.entries key call.time) call.time).2 := by
  obtain ⟨time, op⟩ := call
  cases op with
  | check other => exact .inl ⟨found, nofun⟩
  | recordFailure other =>
      by_cases same : key = other
      · subst same
        have here := recordFailure_entry limiter state.entries key time
        exact .inr ⟨rfl, Option.some.inj (found.symm.trans here)⟩
      · exact .inl ⟨(recordFailure_other same).symm.trans found, nofun⟩
  | recordSuccess other =>
      have distinct : key ≠ other := by
        rintro rfl
        simp [take, recordSuccess] at found
      refine .inl ⟨?_, by simpa using Ne.symm distinct⟩
      simpa [take, recordSuccess, distinct] using found
  | prune => exact .inl ⟨(mem_prune.mp found).1, nofun⟩

theorem Bounded.take (bounded : limiter.Bounded state) (timely : Timely state call) :
    limiter.Bounded (limiter.take state call) := by
  intro key entry found
  rcases mem_take found with ⟨before, _⟩ | ⟨_, rfl⟩
  · rcases bounded key entry before with unlocked | soon
    · exact .inl unlocked
    · have later : state.clock ≤ call.time := timely
      exact .inr (soon.trans (Double.add_mono_left _ later))
  · exact count_bounded limiter (current_bounded bounded timely key)

/-- A failure of a locked key that does not forget the lock is denied until its end or later. -/
theorem count_of_holds (bounded : limiter.Bounded state) (timely : state.clock ≤ t)
    (found : entry ∈ state.entries key) (locked : t < entry.lockedUntil)
    (remembers : ¬ limiter.Forgets key state ⟨t, .recordFailure key⟩) :
    entry.lockedUntil ≤ (limiter.count (limiter.current state.entries key t) t).2.lockedUntil ∧
      (limiter.count (limiter.current state.entries key t) t).1.Denies
        (limiter.count (limiter.current state.entries key t) t).2.lockedUntil := by
  rw [current_of_mem found]
  split_ifs with ended
  · -- the window has ended: the new entry must end as late as the old one
    have kept : ¬ if t < 0 then 0 < entry.lockedUntil else 1 < limiter.maxFailures :=
      fun lost => remembers ⟨rfl, entry, found, locked, ended, lost⟩
    split_ifs at kept with early
    · rw [count_of_locked (by exact early)]
      exact ⟨not_lt.mp kept, rfl, rfl⟩
    · rw [count_fresh (not_lt.mp early), if_pos (not_lt.mp kept)]
      refine ⟨?_, rfl, rfl⟩
      rcases bounded key entry found with unlocked | soon
      · exact absurd locked (by rw [unlocked]; exact early)
      · exact soon.trans (Double.add_mono_left _ timely)
  · rw [count_of_locked locked]
    exact ⟨le_rfl, rfl, rfl⟩

/-- A lock stays in force through every call but a success and a failure that forgets it. -/
theorem Holds.take (holds : Holds key lockedUntil state) (bounded : limiter.Bounded state)
    (timely : Timely state call) (remembers : ¬ limiter.Forgets key state call)
    (failing : call.op ≠ .recordSuccess key) :
    Holds key lockedUntil (limiter.take state call) := by
  intro early
  obtain ⟨entry, found, reaches⟩ := holds (lt_of_le_of_lt timely early)
  have locked : call.time < entry.lockedUntil := lt_of_lt_of_le early reaches
  obtain ⟨time, op⟩ := call
  cases op with
  | check other => exact ⟨entry, found, reaches⟩
  | recordFailure other =>
      by_cases same : key = other
      · subst same
        have counted := count_of_holds bounded timely found locked remembers
        exact ⟨_, recordFailure_entry limiter state.entries key time, reaches.trans counted.1⟩
      · exact ⟨entry, (recordFailure_other same).trans found, reaches⟩
  | recordSuccess other =>
      have distinct : key ≠ other := fun same => failing (congrArg _ same.symm)
      refine ⟨entry, ?_, reaches⟩
      simpa [FailureRateLimiter.take, recordSuccess, distinct] using found
  | prune =>
      refine ⟨entry, mem_prune.mpr ⟨found, ?_⟩, reaches⟩
      rintro ⟨passed, _⟩
      exact absurd locked (not_lt.mpr passed)

/-- While a lock is in force, checks and failures are denied until its end or later. -/
theorem Holds.denied (holds : Holds key lockedUntil state) (bounded : limiter.Bounded state)
    (timely : Timely state call) (remembers : ¬ limiter.Forgets key state call)
    (early : call.time < lockedUntil) {status : RateLimitStatus}
    (reported : status ∈ limiter.report key state call) :
    ∃ retryAt, lockedUntil ≤ retryAt ∧ status.Denies retryAt := by
  obtain ⟨entry, found, reaches⟩ := holds (lt_of_le_of_lt timely early)
  have locked : call.time < entry.lockedUntil := lt_of_lt_of_le early reaches
  unfold report at reported
  split_ifs at reported with checks fails
  · obtain rfl := Option.some.inj reported
    have here : state.entries key = some entry := found
    refine ⟨entry.lockedUntil, reaches, ?_⟩
    simp [check, here, locked, RateLimitStatus.Denies]
  · obtain rfl := Option.some.inj reported
    obtain ⟨time, op⟩ := call
    subst fails
    have counted := count_of_holds bounded timely found locked remembers
    exact ⟨_, reaches.trans counted.1, counted.2⟩
  · exact nomatch reported

/-- A lock in force after a call was reported by it, or was in force before it. -/
theorem lock_origin (timely : Timely state call)
    (found : entry ∈ (limiter.take state call).entries key)
    (locked : call.time < entry.lockedUntil) :
    (call = ⟨call.time, .recordFailure key⟩ ∧
        (limiter.recordFailure state.entries key call.time).1.Denies entry.lockedUntil) ∨
      (entry ∈ state.entries key ∧ state.clock < entry.lockedUntil ∧
        call.op ≠ .recordSuccess key) := by
  rcases mem_take found with ⟨before, failing⟩ | ⟨fails, rfl⟩
  · exact .inr ⟨before, lt_of_le_of_lt timely locked, failing⟩
  · refine .inl ⟨by rw [← fails], ?_⟩
    rcases count_cases limiter (limiter.current state.entries key call.time) call.time with
      denied | ⟨_, unlocked⟩
    · exact denied
    · exact absurd locked (not_lt.mpr unlocked)

theorem forgets_report (found : entry ∈ state.entries key)
    (ended : limiter.windowMs ≤ Double.sub t entry.windowStart)
    (lost : if t < 0 then 0 < entry.lockedUntil else 1 < limiter.maxFailures) {retryAt : ℚ}
    (late : entry.lockedUntil ≤ retryAt) :
    ¬ (limiter.recordFailure state.entries key t).1.Denies retryAt := by
  rw [show (limiter.recordFailure state.entries key t).1 =
    (limiter.count (limiter.current state.entries key t) t).1 from rfl, current_of_mem found,
    if_pos ended]
  rintro ⟨refused, until_⟩
  split_ifs at lost with early
  · rw [count_of_locked (by exact early)] at until_
    obtain rfl := Option.some.inj until_
    exact absurd lost (not_lt.mpr late)
  · rw [count_fresh (not_lt.mp early), if_neg (not_le.mpr lost)] at refused
    exact nomatch refused

end Step

/-! ## Runs -/

section Runs

variable {limiter} {start : ℚ} {key : Text} {calls : List LimiterCall}

theorem bounded_fresh (limiter : FailureRateLimiter) (start : ℚ) :
    limiter.Bounded (.fresh start) :=
  nofun

theorem run_bounded (timely : Along limiter.take Timely (.fresh start) calls) :
    limiter.Bounded (run limiter.take (.fresh start) calls) := by
  apply run_invariant_along _ (bounded_fresh limiter start) timely
  intro state call bounded timely
  exact bounded.take timely

theorem holds_after_failure {state : LimiterState} {time lockedUntil : ℚ}
    (denied : (limiter.recordFailure state.entries key time).1.Denies lockedUntil) :
    Holds key lockedUntil (limiter.take state ⟨time, .recordFailure key⟩) := by
  intro _
  refine ⟨_, recordFailure_entry limiter state.entries key time, ?_⟩
  rcases count_cases limiter (limiter.current state.entries key time) time with
    ⟨_, until_⟩ | ⟨allowed, _⟩
  · exact (Option.some.inj (denied.2.symm.trans until_)).le
  · exact absurd (allowed.symm.trans denied.1) nofun

/-- Without a failure that forgets a lock, lockouts last. -/
theorem lasts_of_remembers (timely : Along limiter.take Timely (.fresh start) calls)
    (remembers : Along limiter.take (fun state call => ¬ limiter.Forgets key state call)
      (.fresh start) calls) : limiter.Lasts key (.fresh start) calls := by
  intro before time during probe after lockedUntil split denied failing early status reported
  subst split
  have admitted := (along_and _ _).mpr ⟨timely, remembers⟩
  obtain ⟨earlier, ⟨now, _⟩, rest⟩ := (along_append _ before _).mp admitted
  obtain ⟨throughout, ⟨nowProbe, remembersProbe⟩, _⟩ := (along_append _ during _).mp rest
  have bounded := (run_bounded ((along_and _ before).mp earlier).1).take now
  have unbroken : Along limiter.take (fun _ call => call.op ≠ .recordSuccess key)
      (limiter.take (run limiter.take (.fresh start) before) ⟨time, .recordFailure key⟩)
      during := by
    rw [along_iff_split]
    intro first call last split
    exact failing call (by simp [split])
  have kept : limiter.InForce key lockedUntil
      (run limiter.take (.fresh start) (before ++ ⟨time, .recordFailure key⟩ :: during)) := by
    rw [run_append, run_cons]
    apply run_invariant_along _ ⟨holds_after_failure denied, bounded⟩
      ((along_and _ during).mpr ⟨throughout, unbroken⟩)
    rintro state call ⟨holds, bounded⟩ ⟨⟨timely, remembers⟩, failing⟩
    exact ⟨holds.take bounded timely remembers failing, bounded.take timely⟩
  rw [← run_cons, ← run_append] at nowProbe remembersProbe
  exact kept.holds.denied kept.bounded nowProbe remembersProbe early reported

/-- A lock in force after a run comes from a failure that reported it, with no success since. -/
theorem lock_reported (timely : Along limiter.take Timely (.fresh start) calls) {entry : Entry}
    (found : entry ∈ (run limiter.take (.fresh start) calls).entries key)
    (locked : (run limiter.take (.fresh start) calls).clock < entry.lockedUntil) :
    ∃ before time during, calls = before ++ ⟨time, .recordFailure key⟩ :: during ∧
      (limiter.recordFailure (run limiter.take (.fresh start) before).entries key time).1.Denies
        entry.lockedUntil ∧
      ∀ call ∈ during, call.op ≠ .recordSuccess key := by
  induction calls using List.reverseRecOn with
  | nil => exact nomatch found
  | append_singleton calls call inductionHypothesis =>
      rw [run_append] at found locked
      obtain ⟨timely, now, _⟩ := (along_append _ calls [call]).mp timely
      rcases lock_origin now found locked with ⟨fails, denied⟩ | ⟨before, running, failing⟩
      · exact ⟨calls, call.time, [], by rw [← fails], denied, nofun⟩
      · obtain ⟨earlier, time, during, rfl, denied, none⟩ :=
          inductionHypothesis timely before running
        refine ⟨earlier, time, during ++ [call], by simp, denied, ?_⟩
        intro other membership
        rcases List.mem_append.mp membership with old | new
        · exact none other old
        · rw [List.mem_singleton.mp new]
          exact failing

end Runs

/-- At non-decreasing times the lockouts of a key last exactly if no failure for the key arrives
while the key is locked and after the window of its failures has ended, unless the failure locks
the key again at once. -/
theorem lasts_iff_remembers (limiter : FailureRateLimiter) (key : Text) (start : ℚ)
    (calls : List LimiterCall) (timely : Along limiter.take Timely (.fresh start) calls) :
    limiter.Lasts key (.fresh start) calls ↔
      Along limiter.take (fun state call => ¬ limiter.Forgets key state call)
        (.fresh start) calls := by
  constructor
  · intro lasts
    rw [along_iff_split]
    rintro reached ⟨t, op⟩ after rfl ⟨fails, entry, found, locked, ended, lost⟩
    obtain ⟨timelyReached, now, _⟩ := (along_append _ reached _).mp timely
    obtain ⟨before, time, during, rfl, denied, none⟩ :=
      lock_reported timelyReached found (lt_of_le_of_lt now locked)
    obtain rfl : op = .recordFailure key := fails
    obtain ⟨retryAt, late, refused⟩ := lasts before time during ⟨t, .recordFailure key⟩ after
      entry.lockedUntil (by simp) denied none locked _ (by simp [report]; rfl)
    exact forgets_report found ended lost late refused
  · exact lasts_of_remembers timely

end FailureRateLimiter

namespace FailureRateLimiter

namespace Sample

theorem enough : (1 : ℚ) ≤ 5 := by norm_num

/-- The limiter with the defaults of its options. -/
def limiter : FailureRateLimiter := ⟨5, 60000, 900000, enough⟩

example : FailureRateLimiter.create ⟨none, none, none⟩ = .ok limiter := by
  simp [FailureRateLimiter.create, limiter]

def key : Text := [1]

/-- Four failures, the fifth, which locks the key, and one more after a while. -/
def attempts (later : ℚ) : List LimiterCall :=
  List.replicate 4 ⟨0, .recordFailure key⟩ ++ [⟨0, .recordFailure key⟩, ⟨later, .recordFailure key⟩]

end Sample

theorem lasts_through_window :
    Sample.limiter.Lasts Sample.key (.fresh 0) (Sample.attempts 59999) :=
  (lasts_iff_remembers Sample.limiter Sample.key 0 (Sample.attempts 59999)
    (by decide +kernel)).mpr (by decide +kernel)

/-- A failure one minute after the others is allowed, fourteen minutes before the lock ends. -/
theorem lockout_ends_with_window :
    ¬ Sample.limiter.Lasts Sample.key (.fresh 0) (Sample.attempts 60000) := by
  intro lasts
  obtain ⟨retryAt, _, refused, _⟩ := lasts (List.replicate 4 ⟨0, .recordFailure Sample.key⟩) 0 []
    ⟨60000, .recordFailure Sample.key⟩ [] 900000 rfl (by decide +kernel) nofun
    (by decide +kernel) ⟨true, 4, none⟩ (by decide +kernel)
  exact nomatch refused

end FailureRateLimiter

end Security

end LumenFlow

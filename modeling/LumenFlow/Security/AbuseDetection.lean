import LumenFlow.Kit.Double
import LumenFlow.Kit.Run
import Mathlib.Algebra.Order.Ring.Rat
import Mathlib.Data.Finset.Card
import Mathlib.Tactic.Linarith

/-!
# The abuse detector of the SDK

`AbuseDetector` counts the requests of a source in windows that tumble: one begins with the first
request after the last has ended.  Times are rationals whose differences are rounded, like those of
the rate limiter.
-/

namespace LumenFlow

open Kit

namespace Security

inductive AbuseSeverity where
  | ok
  | suspicious
  | abusive
  deriving DecidableEq

structure AbuseVerdict where
  severity : AbuseSeverity
  reason : String

/-- The options of the detector.  The quotients of doubles are left to the host: whether the ratio
of failures is reached, and its percentage. -/
structure AbuseOptions where
  windowMs : ℚ
  windowMs_double : Double.roundRat windowMs = windowMs
  windowText : String
  suspiciousCount : Nat
  abusiveCount : Nat
  ratioReached : Nat → Nat → Bool
  percent : Nat → Nat → Nat
  minSampleForRatio : Nat
  distinctTargets : Nat

structure RequestSample where
  source : String
  target : String
  failed : Bool
  deriving DecidableEq

structure AbuseWindow where
  start : ℚ
  total : Nat
  failed : Nat
  targets : Finset String

/-- The map `windows` -/
abbrev AbuseWindows := String → Option AbuseWindow

namespace AbuseOptions

variable (options : AbuseOptions)

def burstReason (total : Nat) : String :=
  toString total ++ " requests in " ++ options.windowText ++ "ms burst window"

def evaluate (window : AbuseWindow) : AbuseVerdict :=
  if options.abusiveCount ≤ window.total then ⟨.abusive, options.burstReason window.total⟩
  else if options.distinctTargets ≤ window.targets.card then
    ⟨.abusive, toString window.targets.card ++ " distinct targets hit from one source"⟩
  else if options.minSampleForRatio ≤ window.total ∧
      options.ratioReached window.failed window.total = true then
    ⟨.abusive, toString (options.percent window.failed window.total) ++ "% failure rate over " ++
      toString window.total ++ " requests"⟩
  else if options.suspiciousCount ≤ window.total then
    ⟨.suspicious, options.burstReason window.total⟩
  else ⟨.ok, ""⟩

/-- The window that a request is counted in: a new one when the last has ended. -/
def currentWindow (windows : AbuseWindows) (source : String) (t : ℚ) : AbuseWindow :=
  match windows source with
  | none => ⟨t, 0, 0, ∅⟩
  | some window => if options.windowMs ≤ Double.sub t window.start then ⟨t, 0, 0, ∅⟩ else window

end AbuseOptions

/-- What a request adds to its window. -/
def AbuseWindow.count (window : AbuseWindow) (sample : RequestSample) : AbuseWindow where
  start := window.start
  total := window.total + 1
  failed := if sample.failed then window.failed + 1 else window.failed
  targets := insert sample.target window.targets

namespace AbuseOptions

variable (options : AbuseOptions)

def record (windows : AbuseWindows) (t : ℚ) (sample : RequestSample) :
    AbuseVerdict × AbuseWindows :=
  let window := (options.currentWindow windows sample.source t).count sample
  (options.evaluate window, Function.update windows sample.source (some window))

def verdict (windows : AbuseWindows) (t : ℚ) (source : String) : AbuseVerdict :=
  match windows source with
  | none => ⟨.ok, ""⟩
  | some window =>
      if options.windowMs ≤ Double.sub t window.start then ⟨.ok, ""⟩ else options.evaluate window

def reset (windows : AbuseWindows) (source : String) : AbuseWindows :=
  Function.update windows source none

end AbuseOptions

/-! ## Runs -/

inductive DetectorCall where
  | record (t : ℚ) (sample : RequestSample)
  | verdict (t : ℚ) (source : String)
  | reset (source : String)
  deriving DecidableEq

namespace AbuseOptions

variable (options : AbuseOptions)

def take (windows : AbuseWindows) : DetectorCall → AbuseWindows
  | .record t sample => (options.record windows t sample).2
  | .verdict _ _ => windows
  | .reset source => reset windows source

/-- The windows after some calls. -/
def after (calls : List DetectorCall) : AbuseWindows :=
  run options.take (fun _ => none) calls

end AbuseOptions

/-- The call records a request of the source. -/
def DetectorCall.IsRequestOf (source : String) : DetectorCall → Bool
  | .record _ sample => sample.source = source
  | _ => false

/-- A request of the source that comes after the time. -/
def DetectorCall.IsRequestAfter (source : String) (time : ℚ) : DetectorCall → Bool
  | .record t sample => sample.source = source ∧ time < t
  | _ => false

/-- A request of the source that does not come before the time. -/
def DetectorCall.IsRequestSince (source : String) (time : ℚ) : DetectorCall → Bool
  | .record t sample => sample.source = source ∧ time ≤ t
  | _ => false

section Bursts

variable {options : AbuseOptions} {windows : AbuseWindows} {source : String} {begins : ℚ}
  {burst : List DetectorCall}

/-- One of the requests of the source is answered with an abusive verdict. -/
def Flags (options : AbuseOptions) (windows : AbuseWindows) (source : String)
    (burst : List DetectorCall) : Prop :=
  ∃ first t sample rest, burst = first ++ .record t sample :: rest ∧ sample.source = source ∧
    (options.record (run options.take windows first) t sample).1.severity = .abusive

/-- The requests of the source fall into a span that the clock finds shorter than a window, and it
is not forgotten meanwhile. -/
def IsBurst (options : AbuseOptions) (source : String) (begins : ℚ) (call : DetectorCall) : Prop :=
  match call with
  | .record t sample =>
      sample.source = source → begins ≤ t ∧ Double.sub t begins < options.windowMs
  | .verdict _ _ => True
  | .reset other => other ≠ source

theorem not_flags_cons {call : DetectorCall} {rest : List DetectorCall}
    (quiet : ¬Flags options windows source (call :: rest)) :
    ¬Flags options (options.take windows call) source rest := by
  rintro ⟨first, t, sample, later, rfl, named, flagged⟩
  exact quiet ⟨call :: first, t, sample, later, rfl, named, flagged⟩

theorem total_lt_of_quiet {window : AbuseWindow}
    (quiet : (options.evaluate window).severity ≠ .abusive) :
    window.total < options.abusiveCount := by
  by_contra many
  exact quiet (by rw [AbuseOptions.evaluate, if_pos (Nat.le_of_not_lt many)])

theorem take_source_of_other (windows : AbuseWindows) {call : DetectorCall}
    (other : call.IsRequestOf source = false)
    (kept : IsBurst options source begins call) :
    options.take windows call source = windows source := by
  cases call with
  | record t sample => exact Function.update_of_ne (Ne.symm (of_decide_eq_false other)) _ _
  | verdict t named => rfl
  | reset named => exact Function.update_of_ne kept.symm _ _

theorem take_record (options : AbuseOptions) (windows : AbuseWindows) (t : ℚ)
    (sample : RequestSample) (named : sample.source = source) :
    options.take windows (.record t sample) source =
      some ((options.currentWindow windows source t).count sample) := by
  change Function.update windows sample.source _ source = _
  rw [named, Function.update_self]

/-- The requests that are counted in one window, when none of them flags the source. -/
theorem requests_lt_of_settled (quiet : ¬Flags options windows source burst)
    (isBurst : ∀ call ∈ burst, IsBurst options source begins call) {window : AbuseWindow}
    (stored : windows source = some window) (settled : begins ≤ window.start) :
    burst.countP (DetectorCall.IsRequestOf source) = 0 ∨
      window.total + burst.countP (DetectorCall.IsRequestOf source) < options.abusiveCount := by
  induction burst generalizing windows window with
  | nil => exact .inl rfl
  | cons call rest inductionHypothesis =>
      obtain ⟨here, others⟩ := List.forall_mem_cons.mp isBurst
      have quietLater := not_flags_cons quiet
      cases request : call.IsRequestOf source with
      | true =>
          rw [List.countP_cons_of_pos request]
          cases call with
          | record t sample =>
              have named : sample.source = source := of_decide_eq_true request
              obtain ⟨_, before⟩ := here named
              have goesOn : options.currentWindow windows source t = window := by
                rw [AbuseOptions.currentWindow, stored]
                have shorter := Double.sub_mono_right t settled
                exact if_neg (not_le.mpr (shorter.trans_lt before))
              have fewer : (window.count sample).total < options.abusiveCount := by
                rw [← goesOn, ← named]
                apply total_lt_of_quiet
                exact fun flagged => quiet ⟨[], t, sample, rest, rfl, named, flagged⟩
              have counted := take_record options windows t sample named
              rw [goesOn] at counted
              rcases inductionHypothesis quietLater others counted settled with none | some
              · rw [none]
                exact .inr fewer
              · change window.total + 1 + _ < _ at some
                exact .inr (by omega)
          | verdict | reset => cases request
      | false =>
          have same := take_source_of_other windows request here
          rw [List.countP_cons_of_neg (by simp [request])]
          exact inductionHypothesis quietLater others (same.trans stored) settled

/-- How many requests are in the window that is stored. -/
def totalOf (windows : AbuseWindows) (source : String) : Nat :=
  (windows source).elim 0 AbuseWindow.total

/-- A burst without an abusive verdict is spread over two windows at most. -/
theorem requests_le_of_quiet (quiet : ¬Flags options windows source burst)
    (isBurst : ∀ call ∈ burst, IsBurst options source begins call) :
    burst.countP (DetectorCall.IsRequestOf source) ≤
      (options.abusiveCount - 1 - totalOf windows source) + (options.abusiveCount - 1) := by
  induction burst generalizing windows with
  | nil => exact Nat.zero_le _
  | cons call rest inductionHypothesis =>
      obtain ⟨here, others⟩ := List.forall_mem_cons.mp isBurst
      have quietLater := not_flags_cons quiet
      cases request : call.IsRequestOf source with
      | true =>
          rw [List.countP_cons_of_pos request]
          cases call with
          | record t sample =>
              have named : sample.source = source := of_decide_eq_true request
              have fewer : ((options.currentWindow windows source t).count sample).total <
                  options.abusiveCount := by
                rw [← named]
                apply total_lt_of_quiet
                exact fun flagged => quiet ⟨[], t, sample, rest, rfl, named, flagged⟩
              have counted := take_record options windows t sample named
              change (options.currentWindow windows source t).total + 1 < _ at fewer
              have fresh (begun : options.currentWindow windows source t = ⟨t, 0, 0, ∅⟩) :
                  rest.countP (DetectorCall.IsRequestOf source) + 1 ≤
                    (options.abusiveCount - 1 - totalOf windows source) +
                      (options.abusiveCount - 1) := by
                rw [begun] at counted fewer
                change 0 + 1 < _ at fewer
                rcases requests_lt_of_settled quietLater others counted (here named).1 with
                  none | some
                · omega
                · change 0 + 1 + _ < _ at some
                  omega
              cases stored : windows source with
              | none => exact fresh (by rw [AbuseOptions.currentWindow, stored])
              | some window =>
                  by_cases ended : options.windowMs ≤ Double.sub t window.start
                  · exact fresh (by rw [AbuseOptions.currentWindow, stored]; exact if_pos ended)
                  · have goesOn : options.currentWindow windows source t = window := by
                      rw [AbuseOptions.currentWindow, stored]
                      exact if_neg ended
                    have later := inductionHypothesis quietLater others
                    have now : totalOf (options.take windows (.record t sample)) source =
                        window.total + 1 := by
                      rw [totalOf, counted, goesOn]
                      rfl
                    have before : totalOf windows source = window.total := by
                      rw [totalOf, stored]
                      rfl
                    rw [goesOn] at fewer
                    rw [now] at later
                    rw [before]
                    omega
          | verdict | reset => cases request
      | false =>
          have same := take_source_of_other windows request here
          rw [List.countP_cons_of_neg (by simp [request])]
          have later := inductionHypothesis quietLater others
          rwa [totalOf, same] at later

/-- More requests than two windows hold without an alarm, within the span of one, are answered with
an abusive verdict at least once. -/
theorem bursts_flagged (options : AbuseOptions) (windows : AbuseWindows) (source : String)
    (begins : ℚ) (burst : List DetectorCall)
    (isBurst : ∀ call ∈ burst, IsBurst options source begins call)
    (many : 2 * (options.abusiveCount - 1) < burst.countP (DetectorCall.IsRequestOf source)) :
    Flags options windows source burst := by
  by_contra quiet
  have few := requests_le_of_quiet quiet isBurst
  omega

end Bursts

section Alarms

variable {options : AbuseOptions} {source : String} {calls : List DetectorCall}

/-- The clock does not go back. -/
def Chronological (calls : List DetectorCall) : Prop :=
  calls.Pairwise fun first second =>
    match first, second with
    | .record t _, .record later _ => t ≤ later
    | _, _ => True

/-- A window counts requests that have come since it began, and no more targets. -/
structure AbuseWindow.Honest (calls : List DetectorCall) (source : String) (window : AbuseWindow) :
    Prop where
  targets : window.targets.card ≤ window.total
  counted : window.total ≤ calls.countP (DetectorCall.IsRequestSince source window.start)
  began : ∃ sample, .record window.start sample ∈ calls

theorem AbuseWindow.Honest.later {window : AbuseWindow} (honest : window.Honest calls source)
    (call : DetectorCall) : window.Honest (calls ++ [call]) source := by
  obtain ⟨sample, member⟩ := honest.began
  refine ⟨honest.targets, honest.counted.trans ?_, sample, List.mem_append_left _ member⟩
  rw [List.countP_append]
  exact Nat.le_add_right _ _

/-- The window of a request counts it, with those before it that it counts. -/
theorem honest_count (honest : ∀ window, options.after calls source = some window →
      window.Honest calls source) {t : ℚ} {sample : RequestSample}
    (chronological : Chronological (calls ++ [.record t sample]))
    (named : sample.source = source) :
    ((options.currentWindow (options.after calls) source t).count sample).Honest
      (calls ++ [.record t sample]) source := by
  have fresh : (AbuseWindow.count ⟨t, 0, 0, ∅⟩ sample).Honest (calls ++ [.record t sample])
      source := by
    refine ⟨?_, ?_, sample, List.mem_append_right _ (List.mem_singleton_self _)⟩
    · simp [AbuseWindow.count]
    · rw [List.countP_append]
      simp [AbuseWindow.count, DetectorCall.IsRequestSince, named]
  unfold AbuseOptions.currentWindow
  split
  · exact fresh
  · next window stored =>
      split
      · exact fresh
      · have before := honest window stored
        obtain ⟨first, member⟩ := before.began
        have since : window.start ≤ t :=
          (List.pairwise_append.mp chronological).2.2 _ member _ (List.mem_singleton_self _)
        refine ⟨?_, ?_, first, List.mem_append_left _ member⟩
        · exact (Finset.card_insert_le _ _).trans (Nat.succ_le_succ before.targets)
        · rw [List.countP_append]
          change window.total + 1 ≤ _
          have counted := before.counted
          simpa [AbuseWindow.count, DetectorCall.IsRequestSince, named, since] using counted

theorem after_honest (chronological : Chronological calls) :
    ∀ window, options.after calls source = some window → window.Honest calls source := by
  induction calls using List.reverseRecOn with
  | nil =>
      intro window stored
      cases stored
  | append_singleton calls call inductionHypothesis =>
      have honest := inductionHypothesis (List.pairwise_append.mp chronological).1
      have step : options.after (calls ++ [call]) = options.take (options.after calls) call :=
        run_append _ _ _
      intro window stored
      rw [step] at stored
      cases call with
      | record t sample =>
          by_cases named : sample.source = source
          · rw [take_record _ _ _ _ named] at stored
            obtain rfl := Option.some.inj stored
            exact honest_count honest chronological named
          · have kept : options.take (options.after calls) (.record t sample) source =
                options.after calls source := Function.update_of_ne (Ne.symm named) _ _
            exact (honest window (kept.symm.trans stored)).later _
      | verdict t other => exact (honest window stored).later _
      | reset other =>
          by_cases named : other = source
          · subst named
            have gone : options.take (options.after calls) (.reset other) other = none :=
              Function.update_self _ _ _
            cases gone.symm.trans stored
          · have kept : options.take (options.after calls) (.reset other) source =
                options.after calls source := Function.update_of_ne (Ne.symm named) _ _
            exact (honest window (kept.symm.trans stored)).later _

/-- The least number of requests that may raise an alarm. -/
def AbuseOptions.least (options : AbuseOptions) : Nat :=
  min (min options.abusiveCount options.distinctTargets)
    (min options.minSampleForRatio options.suspiciousCount)

theorem least_le_total {window : AbuseWindow} (targets : window.targets.card ≤ window.total)
    (alarm : (options.evaluate window).severity ≠ .ok) : options.least ≤ window.total := by
  unfold AbuseOptions.evaluate at alarm
  unfold AbuseOptions.least
  split at alarm
  · omega
  · split at alarm
    · omega
    · split at alarm
      · next ratio => omega
      · split at alarm
        · omega
        · exact absurd rfl alarm

theorem AbuseOptions.start_recent (options : AbuseOptions) {t start : ℚ}
    (running : Double.sub t start < options.windowMs) : t - options.windowMs < start := by
  by_contra before
  have apart : options.windowMs ≤ t - start := by linarith
  have rounded := Double.roundRat_mono apart
  rw [options.windowMs_double] at rounded
  exact absurd running (not_lt.mpr rounded)

/-- An alarm is about requests of that source, at least the least number of them, within the last
window's width. -/
theorem alarms_justified (options : AbuseOptions) (positive : 0 < options.windowMs)
    (calls : List DetectorCall) (t : ℚ) (sample : RequestSample)
    (chronological : Chronological (calls ++ [.record t sample]))
    (alarm : (options.record (options.after calls) t sample).1.severity ≠ .ok) :
    options.least ≤ (calls ++ [DetectorCall.record t sample]).countP
      (DetectorCall.IsRequestAfter sample.source (t - options.windowMs)) := by
  have before : Chronological calls := (List.pairwise_append.mp chronological).1
  have honest : ((options.currentWindow (options.after calls) sample.source t).count
      sample).Honest (calls ++ [.record t sample]) sample.source :=
    honest_count (after_honest before) chronological rfl
  have recent : t - options.windowMs <
      (options.currentWindow (options.after calls) sample.source t).start := by
    unfold AbuseOptions.currentWindow
    split
    · exact sub_lt_self t positive
    · split
      · exact sub_lt_self t positive
      · next running => exact options.start_recent (not_le.mp running)
  calc options.least
      ≤ ((options.currentWindow (options.after calls) sample.source t).count sample).total :=
        least_le_total honest.targets alarm
    _ ≤ _ := honest.counted
    _ ≤ _ := by
      apply List.countP_mono_left
      intro call member since
      cases call with
      | record earlier other =>
          simp only [DetectorCall.IsRequestSince, DetectorCall.IsRequestAfter,
            decide_eq_true_eq] at since ⊢
          exact ⟨since.1, lt_of_lt_of_le recent since.2⟩
      | verdict | reset => cases since

/-- Two requests in ten milliseconds are suspicious and three are abusive. -/
def Sample.abuseOptions : AbuseOptions where
  windowMs := 10
  windowMs_double := by decide +kernel
  windowText := "10"
  suspiciousCount := 2
  abusiveCount := 3
  ratioReached _ _ := false
  percent _ _ := 0
  minSampleForRatio := 10
  distinctTargets := 20

/-- A request of a crawler. -/
def Sample.crawl (t : ℚ) : DetectorCall := .record t ⟨"crawler", "link", false⟩

theorem bursts_flagged_sample :
    Flags Sample.abuseOptions (Sample.abuseOptions.after [Sample.crawl 3]) "crawler"
      ([9, 11, 14, 15, 18].map Sample.crawl) := by
  apply bursts_flagged Sample.abuseOptions _ "crawler" 9
  · intro call member
    obtain ⟨t, listed, rfl⟩ := List.mem_map.mp member
    intro _
    have within : ∀ t ∈ ([9, 11, 14, 15, 18] : List ℚ), 9 ≤ t ∧ Double.sub t 9 < 10 := by
      decide +kernel
    exact within t listed
  · decide

theorem alarms_justified_sample :
    Sample.abuseOptions.least ≤ [Sample.crawl 3, Sample.crawl 4].countP
      (DetectorCall.IsRequestAfter "crawler" (4 - 10)) := by
  apply alarms_justified Sample.abuseOptions (by decide : (0 : ℚ) < 10) [Sample.crawl 3] 4
    ⟨"crawler", "link", false⟩
  · exact .cons (List.forall_mem_singleton.mpr (by decide : (3 : ℚ) ≤ 4)) (.cons (by simp) .nil)
  · decide +kernel

end Alarms

end Security

end LumenFlow

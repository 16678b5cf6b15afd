import Mathlib.Algebra.Order.Ring.Rat
import Mathlib.Tactic.Linarith
import LumenFlow.Kit.Double
import LumenFlow.Kit.Run
import LumenFlow.Model.Types

/-!
# The failure rate limiter of the SDK

`FailureRateLimiter` counts the failures of a key in a window and locks the key when there are
too many.  The numbers of the source are rationals here; their sums and differences are rounded as
those of doubles are.
-/

namespace LumenFlow

open Kit

namespace Security

structure RateLimitOptions where
  maxFailures : Option ℚ
  windowMs : Option ℚ
  lockoutMs : Option ℚ

structure RateLimitStatus where
  allowed : Bool
  remaining : ℚ
  retryAt : Option ℚ
  deriving DecidableEq

structure Entry where
  count : ℚ
  windowStart : ℚ
  lockedUntil : ℚ
  deriving DecidableEq

/-- The fields that the constructor sets; it throws on fewer than one failure. -/
structure FailureRateLimiter where
  maxFailures : ℚ
  windowMs : ℚ
  lockoutMs : ℚ
  one_le_maxFailures : 1 ≤ maxFailures

/-- The constructor -/
def FailureRateLimiter.create (options : RateLimitOptions) : Except String FailureRateLimiter :=
  let maxFailures := options.maxFailures.getD 5
  if enough : 1 ≤ maxFailures then
    .ok ⟨maxFailures, options.windowMs.getD 60000, options.lockoutMs.getD 900000, enough⟩
  else .error "maxFailures must be >= 1"

/-- The map `entries` -/
abbrev Entries := Text → Option Entry

namespace FailureRateLimiter

variable (limiter : FailureRateLimiter)

def check (entries : Entries) (key : Text) (t : ℚ) : RateLimitStatus :=
  match entries key with
  | none => ⟨true, limiter.maxFailures, none⟩
  | some entry =>
      if t < entry.lockedUntil then ⟨false, 0, some entry.lockedUntil⟩
      else if limiter.windowMs ≤ Double.sub t entry.windowStart then
        ⟨true, limiter.maxFailures, none⟩
      else ⟨true, max 0 (Double.sub limiter.maxFailures entry.count), none⟩

/-- The entry that `recordFailure` counts in: a new one when the window has ended. -/
def current (entries : Entries) (key : Text) (t : ℚ) : Entry :=
  match entries key with
  | none => ⟨0, t, 0⟩
  | some entry =>
      if limiter.windowMs ≤ Double.sub t entry.windowStart then ⟨0, t, 0⟩ else entry

/-- What `recordFailure` does with the entry. -/
def count (entry : Entry) (t : ℚ) : RateLimitStatus × Entry :=
  let count := Double.add entry.count 1
  let lockedUntil := Double.add t limiter.lockoutMs
  if t < entry.lockedUntil then
    (⟨false, 0, some entry.lockedUntil⟩, entry)
  else if limiter.maxFailures ≤ count then
    (⟨false, 0, some lockedUntil⟩, { entry with count := count, lockedUntil := lockedUntil })
  else
    (⟨true, Double.sub limiter.maxFailures count, none⟩, { entry with count := count })

def recordFailure (entries : Entries) (key : Text) (t : ℚ) : RateLimitStatus × Entries :=
  let (status, entry) := limiter.count (limiter.current entries key t) t
  (status, Function.update entries key (some entry))

def recordSuccess (entries : Entries) (key : Text) : Entries :=
  Function.update entries key none

def prune (entries : Entries) (t : ℚ) : Entries := fun key =>
  (entries key).filter fun entry =>
    !(decide (entry.lockedUntil ≤ t) && decide (limiter.windowMs ≤ Double.sub t entry.windowStart))

end FailureRateLimiter

/-! ## Runs -/

inductive LimiterOp where
  | check (key : Text)
  | recordFailure (key : Text)
  | recordSuccess (key : Text)
  | prune
  deriving DecidableEq

/-- A call of the limiter, and what `now` gives in it. -/
structure LimiterCall where
  time : ℚ
  op : LimiterOp

/-- The limiter as calls find it.  `clock` is a ghost: the time of the last call. -/
structure LimiterState where
  entries : Entries
  clock : ℚ

def LimiterState.fresh (clock : ℚ) : LimiterState := ⟨fun _ => none, clock⟩

namespace FailureRateLimiter

variable (limiter : FailureRateLimiter)

def take (state : LimiterState) (call : LimiterCall) : LimiterState where
  clock := call.time
  entries :=
    match call.op with
    | .check _ => state.entries
    | .recordFailure key => (limiter.recordFailure state.entries key call.time).2
    | .recordSuccess key => recordSuccess state.entries key
    | .prune => limiter.prune state.entries call.time

/-- What a check or a failure reports for a key. -/
def report (key : Text) (state : LimiterState) (call : LimiterCall) : Option RateLimitStatus :=
  if call.op = .check key then
    some (limiter.check state.entries key call.time)
  else if call.op = .recordFailure key then
    some (limiter.recordFailure state.entries key call.time).1
  else none

end FailureRateLimiter

/-- The call is not earlier than the one before it. -/
def Timely (state : LimiterState) (call : LimiterCall) : Prop := state.clock ≤ call.time

instance (state : LimiterState) : DecidablePred (Timely state) :=
  fun _ => inferInstanceAs (Decidable (_ ≤ _))

end Security

end LumenFlow

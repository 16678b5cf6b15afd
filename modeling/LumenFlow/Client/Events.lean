import LumenFlow.Kit.History
import Mathlib.Tactic.Ring

/-!
# Streaming the events of the contract

`subscribe` of the SDK opens a stream of events, opens it again after a failure, each time later
than before, and gives up after five failures in a row.  The browser and the caller decide what
happens next: a stream opens, fails or sends a message, a timer goes off, a callback ends the
subscription or throws.
-/

namespace LumenFlow

open Kit

namespace Client

def maxRetries : Nat := 5

def initialRetryDelay : Nat := 1000

/-- What `JSON.parse` has made of a message. -/
structure RawEvent where
  id : Option String
  type : Option String
  topic : Option (List String)
  value : Option String
  deriving DecidableEq

structure LumenFlowEvent where
  id : String
  type : String
  topics : List String
  value : String
  deriving DecidableEq

/-- An event with the defaults for what is missing. -/
def RawEvent.event (raw : RawEvent) : LumenFlowEvent where
  id := raw.id.getD ""
  type := raw.type.getD ""
  topics := raw.topic.getD []
  value := raw.value.getD ""

/-- What a subscription listens to: the address of the stream, which names the contract and the
cursor, and the name of the events when they are filtered. -/
structure Listener where
  url : String
  eventName : Option String

/-- The second topic is the name of the event, and an empty name filters nothing. -/
def Listener.accepts (listener : Listener) (event : LumenFlowEvent) : Bool :=
  match listener.eventName with
  | none => true
  | some name => name = "" || event.topics[1]? = some name

structure Timer where
  name : Nat
  due : Nat

/-- The variables of `subscribe`, with the streams that are not closed, the timers that are set,
and a name for the next of them. -/
structure Subscription where
  es : Option Nat
  stopped : Bool
  retries : Nat
  reconnectTimer : Option Nat
  hasConnected : Bool
  sources : List Nat
  timers : List Timer
  fresh : Nat
  now : Nat

/-- What a callback of the caller does: it may end the subscription, and then it may throw. -/
structure Reaction where
  unsubscribes : Bool
  throws : Bool

/-- What a subscription does, and what it is told.  An opening is complete unless the callback has
thrown, and so is the scheduling of a retry. -/
inductive Note where
  | connecting (url : String)
  | opened (complete : Bool)
  | reconnected
  | event (event : LumenFlowEvent)
  | reconnecting (attempt delayMs : Nat) (scheduled : Bool)
  | gaveUp
  | unsubscribed
  deriving DecidableEq

structure Entry where
  time : Nat
  note : Note
  deriving DecidableEq

namespace Subscription

def noted (subscription : Subscription) (note : Note) : Entry := ⟨subscription.now, note⟩

/-- Close the stream that is open. -/
def close (subscription : Subscription) : Subscription :=
  { subscription with
    sources := subscription.sources.filter fun source => some source ≠ subscription.es
    es := none }

def unsubscribe (subscription : Subscription) : Subscription :=
  close
    { subscription with
      stopped := true
      timers := subscription.timers.filter fun timer =>
        some timer.name ≠ subscription.reconnectTimer }

def connect (listener : Listener) (subscription : Subscription) : Subscription × List Entry :=
  if subscription.stopped then (subscription, [])
  else
    ({ subscription with
        es := some subscription.fresh
        sources := subscription.sources ++ [subscription.fresh]
        fresh := subscription.fresh + 1 },
      [subscription.noted (.connecting listener.url)])

/-- A callback is called. -/
def react (subscription : Subscription) (reaction : Reaction) : Subscription × List Entry :=
  if reaction.unsubscribes then (subscription.unsubscribe, [subscription.noted .unsubscribed])
  else (subscription, [])

def settle (subscription : Subscription) : Subscription :=
  { subscription with hasConnected := true, retries := 0 }

def onopen (subscription : Subscription) (reaction : Reaction) : Subscription × List Entry :=
  if subscription.hasConnected then
    let called := subscription.react reaction
    let notes := subscription.noted .reconnected :: called.2
    if reaction.throws then (called.1, subscription.noted (.opened false) :: notes)
    else (called.1.settle, subscription.noted (.opened true) :: notes)
  else (subscription.settle, [subscription.noted (.opened true)])

/-- What cannot be read is ignored, and so is what the callback throws. -/
def onmessage (listener : Listener) (subscription : Subscription) (data : Option RawEvent)
    (reaction : Reaction) : Subscription × List Entry :=
  match data with
  | none => (subscription, [])
  | some raw =>
      if listener.accepts raw.event then
        let called := subscription.react reaction
        (called.1, subscription.noted (.event raw.event) :: called.2)
      else (subscription, [])

/-- `setTimeout(connect, delayMs)` -/
def setTimeout (subscription : Subscription) (delayMs : Nat) : Subscription :=
  { subscription with
    reconnectTimer := some subscription.fresh
    timers := subscription.timers ++ [⟨subscription.fresh, subscription.now + delayMs⟩]
    fresh := subscription.fresh + 1 }

def count (subscription : Subscription) : Subscription :=
  { subscription with retries := subscription.retries + 1 }

def onerror (subscription : Subscription) (reaction : Reaction) : Subscription × List Entry :=
  let closed := subscription.close
  if closed.stopped then (closed, [])
  else if maxRetries ≤ closed.retries then
    let called := closed.react reaction
    (called.1, closed.noted .gaveUp :: called.2)
  else
    let counted := closed.count
    let delayMs := initialRetryDelay * 2 ^ (counted.retries - 1)
    let called := counted.react reaction
    let notes :=
      counted.noted (.reconnecting counted.retries delayMs (!reaction.throws)) :: called.2
    if reaction.throws then (called.1, notes)
    else (called.1.setTimeout delayMs, notes)

end Subscription

/-- What may happen.  A stream that is closed sends nothing any more. -/
inductive Occurrence where
  | opened (source : Nat) (reaction : Reaction)
  | message (source : Nat) (data : Option RawEvent) (reaction : Reaction)
  | failed (source : Nat) (reaction : Reaction)
  | wait (ms : Nat)
  | timeout (timer : Nat)
  | unsubscribe

def handle (listener : Listener) (subscription : Subscription) :
    Occurrence → Subscription × List Entry
  | .opened source reaction =>
      if source ∈ subscription.sources then subscription.onopen reaction else (subscription, [])
  | .message source data reaction =>
      if source ∈ subscription.sources then subscription.onmessage listener data reaction
      else (subscription, [])
  | .failed source reaction =>
      if source ∈ subscription.sources then subscription.onerror reaction else (subscription, [])
  | .wait ms => ({ subscription with now := subscription.now + ms }, [])
  | .timeout timer =>
      if subscription.timers.any fun set => set.name = timer ∧ set.due ≤ subscription.now then
        Subscription.connect listener
          { subscription with timers := subscription.timers.filter (·.name ≠ timer) }
      else (subscription, [])
  | .unsubscribe => (subscription.unsubscribe, [subscription.noted .unsubscribed])

/-- The subscription as it begins. -/
def subscribe (listener : Listener) (now : Nat) : Subscription × List Entry :=
  Subscription.connect listener ⟨none, false, 0, none, false, [], [], 0, now⟩

/-! ## What a subscription may do -/

section Discipline

def Note.isConnection : Note → Bool
  | .connecting _ => true
  | _ => false

def Note.isRetry : Note → Bool
  | .reconnecting _ _ _ => true
  | _ => false

/-- Nothing is to come: the subscription was ended, it has given up, or the caller has thrown when
it was told of a retry. -/
def Note.isEnd : Note → Bool
  | .reconnecting _ _ scheduled => !scheduled
  | .gaveUp => true
  | .unsubscribed => true
  | _ => false

/-- How often the stream was opened. -/
def connections (log : List Entry) : Nat := log.countP (·.note.isConnection)

def retriesIn (log : List Entry) : Nat := log.countP (·.note.isRetry)

def Ended (log : List Entry) : Prop := ∃ entry ∈ log, entry.note.isEnd = true

/-- Every stream but the last has failed. -/
def Streaming (log : List Entry) : Prop := ¬Ended log ∧ connections log = retriesIn log + 1

/-- The failures since the stream was last opened. -/
def attempts (log : List Entry) : Nat :=
  log.foldl (fun count entry =>
    match entry.note with
    | .opened true => 0
    | .reconnecting _ _ _ => count + 1
    | _ => count) 0

/-- When the stream was last opened, or the subscription began. -/
def calm (start : Nat) (log : List Entry) : Nat :=
  log.foldl (fun time entry => if entry.note = .opened true then entry.time else time) start

/-- How long the waiting before so many retries takes at least. -/
def backoff (count : Nat) : Nat := initialRetryDelay * (2 ^ count - 1)

/-- What a subscription may do after what it has done. -/
def Allowed (listener : Listener) (start : Nat) (front : List Entry) (entry : Entry) : Prop :=
  match entry.note with
  | .connecting url =>
      url = listener.url ∧ ¬Ended front ∧ connections front = retriesIn front ∧
        calm start front + backoff (attempts front) ≤ entry.time
  | .opened _ => Streaming front
  | .reconnected => Streaming front
  | .event event => Streaming front ∧ listener.accepts event = true
  | .reconnecting attempt delayMs _ =>
      Streaming front ∧ attempt = attempts front + 1 ∧ attempt ≤ maxRetries ∧
        delayMs = initialRetryDelay * 2 ^ attempts front
  | .gaveUp =>
      Streaming front ∧ attempts front = maxRetries ∧
        calm start front + backoff maxRetries ≤ entry.time
  | .unsubscribed => True

/-- The log grows by what is allowed. -/
def Disciplined (listener : Listener) (start : Nat) (log : List Entry) : Prop :=
  ∀ front entry back, log = front ++ entry :: back → Allowed listener start front entry

variable {listener : Listener} {start : Nat} {log : List Entry} {entry : Entry}

theorem disciplined_nil : Disciplined listener start [] := by
  intro front entry back split
  cases front <;> cases split

theorem Disciplined.concat (disciplined : Disciplined listener start log)
    (allowed : Allowed listener start log entry) :
    Disciplined listener start (log ++ [entry]) := by
  intro front other back split
  rcases List.eq_nil_or_concat back with rfl | ⟨back, last, rfl⟩
  · obtain ⟨rfl, same⟩ := List.append_inj' split rfl
    obtain rfl := (List.cons.inj same).1
    exact allowed
  · rw [List.concat_eq_append, ← List.cons_append, ← List.append_assoc] at split
    exact disciplined front other back (List.append_inj' split rfl).1

@[simp]
theorem ended_concat : Ended (log ++ [entry]) ↔ Ended log ∨ entry.note.isEnd = true := by
  simp [Ended, or_and_right, exists_or]

@[simp]
theorem connections_concat : connections (log ++ [entry]) =
    connections log + if entry.note.isConnection then 1 else 0 := by
  simp [connections, List.countP_append, List.countP_singleton]

@[simp]
theorem retriesIn_concat : retriesIn (log ++ [entry]) =
    retriesIn log + if entry.note.isRetry then 1 else 0 := by
  simp [retriesIn, List.countP_append, List.countP_singleton]

@[simp]
theorem calm_concat : calm start (log ++ [entry]) =
    if entry.note = .opened true then entry.time else calm start log := by
  simp [calm, List.foldl_append]

theorem attempts_concat : attempts (log ++ [entry]) =
    match entry.note with
    | .opened true => 0
    | .reconnecting _ _ _ => attempts log + 1
    | _ => attempts log := by
  simp only [attempts, List.foldl_append, List.foldl_cons, List.foldl_nil]

theorem backoff_succ (count : Nat) :
    backoff (count + 1) = backoff count + initialRetryDelay * 2 ^ count := by
  have positive : 1 ≤ 2 ^ count := Nat.one_le_two_pow
  simp only [backoff, initialRetryDelay, pow_succ]
  omega

/-- A subscription listens to a stream, waits for its timer or does nothing any more. -/
inductive Stands (start : Nat) (subscription : Subscription) (log : List Entry) : Prop where
  | streaming (source : Nat) (es : subscription.es = some source)
      (sources : subscription.sources = [source]) (timers : subscription.timers = [])
      (streams : Streaming log)
      (since : calm start log + backoff subscription.retries ≤ subscription.now)
  | waiting (timer : Timer) (es : subscription.es = none) (sources : subscription.sources = [])
      (timers : subscription.timers = [timer])
      (current : subscription.reconnectTimer = some timer.name)
      (goesOn : subscription.stopped = false → ¬Ended log)
      (failed : connections log = retriesIn log)
      (since : calm start log + backoff subscription.retries ≤ timer.due)
  | idle (es : subscription.es = none) (sources : subscription.sources = [])
      (timers : subscription.timers = []) (ended : Ended log)

structure Sound (listener : Listener) (start : Nat) (subscription : Subscription)
    (log : List Entry) : Prop where
  stands : Stands start subscription log
  stopped : subscription.stopped = true → Ended log
  counted : attempts log = subscription.retries
  bounded : subscription.retries ≤ maxRetries
  disciplined : Disciplined listener start log

/-- It changes nothing that the subscription depends on. -/
def Note.isQuiet : Note → Bool
  | .opened complete => !complete
  | .reconnected => true
  | .event _ => true
  | _ => false

variable {subscription : Subscription} {source : Nat}

theorem quiet_concat (start : Nat) (log : List Entry) (quiet : entry.note.isQuiet = true) :
    (Ended (log ++ [entry]) ↔ Ended log) ∧ connections (log ++ [entry]) = connections log ∧
      retriesIn (log ++ [entry]) = retriesIn log ∧
      calm start (log ++ [entry]) = calm start log ∧ attempts (log ++ [entry]) = attempts log := by
  obtain ⟨time, note⟩ := entry
  cases note with
  | opened complete =>
      cases complete with
      | true => cases quiet
      | false => simp [attempts_concat, Note.isEnd, Note.isConnection, Note.isRetry]
  | reconnected => simp [attempts_concat, Note.isEnd, Note.isConnection, Note.isRetry]
  | event event => simp [attempts_concat, Note.isEnd, Note.isConnection, Note.isRetry]
  | _ => cases quiet

theorem Streaming.quiet (streams : Streaming log) (quiet : entry.note.isQuiet = true) :
    Streaming (log ++ [entry]) := by
  obtain ⟨ended, opened, failed, _, _⟩ := quiet_concat 0 log quiet
  exact ⟨fun now => streams.1 (ended.mp now), by rw [opened, failed, streams.2]⟩

theorem Stands.quiet (stands : Stands start subscription log) (quiet : entry.note.isQuiet = true) :
    Stands start subscription (log ++ [entry]) := by
  obtain ⟨ended, opened, failed, calm, _⟩ := quiet_concat start log quiet
  cases stands with
  | streaming source es sources timers streams since =>
      exact .streaming source es sources timers (streams.quiet quiet) (by rwa [calm])
  | waiting timer es sources timers current goesOn counts since =>
      exact .waiting timer es sources timers current
        (fun running now => goesOn running (ended.mp now)) (by rw [opened, failed, counts])
        (by rwa [calm])
  | idle es sources timers past => exact .idle es sources timers (ended.mpr past)

theorem Sound.quiet (sound : Sound listener start subscription log)
    (quiet : entry.note.isQuiet = true) (allowed : Allowed listener start log entry) :
    Sound listener start subscription (log ++ [entry]) where
  stands := sound.stands.quiet quiet
  stopped now := (quiet_concat start log quiet).1.mpr (sound.stopped now)
  counted := by rw [(quiet_concat start log quiet).2.2.2.2, sound.counted]
  bounded := sound.bounded
  disciplined := sound.disciplined.concat allowed

theorem Stands.streams (stands : Stands start subscription log)
    (listed : source ∈ subscription.sources) :
    subscription.es = some source ∧ subscription.sources = [source] ∧
      subscription.timers = [] ∧ Streaming log ∧
      calm start log + backoff subscription.retries ≤ subscription.now := by
  cases stands with
  | streaming other es sources timers streams since =>
      rw [sources, List.mem_singleton] at listed
      subst listed
      exact ⟨es, sources, timers, streams, since⟩
  | waiting _ _ sources | idle _ sources =>
      rw [sources] at listed
      cases listed

theorem Stands.single (stands : Stands start subscription log) :
    subscription.sources.length + subscription.timers.length ≤ 1 := by
  cases stands with
  | streaming source es sources timers => simp [sources, timers]
  | waiting timer es sources timers => simp [sources, timers]
  | idle es sources timers => simp [sources, timers]

theorem Stands.ended (stands : Stands start subscription log) (sources : subscription.sources = [])
    (timers : subscription.timers = []) : Ended log := by
  cases stands with
  | streaming source _ listed =>
      rw [sources] at listed
      cases listed
  | waiting timer _ _ set =>
      rw [timers] at set
      cases set
  | idle es _ _ ended => exact ended

theorem ended_unsubscribed (subscription : Subscription) (log : List Entry) :
    Ended (log ++ [subscription.noted .unsubscribed]) :=
  ended_concat.mpr (.inr rfl)

theorem Sound.unsubscribe (sound : Sound listener start subscription log) :
    Sound listener start subscription.unsubscribe
      (log ++ [subscription.noted .unsubscribed]) where
  stands := by
    have ended := ended_unsubscribed subscription log
    cases sound.stands with
    | streaming source es sources timers =>
        exact .idle rfl (by simp [Subscription.unsubscribe, Subscription.close, es, sources])
          (by simp [Subscription.unsubscribe, Subscription.close, timers]) ended
    | waiting timer es sources timers current =>
        exact .idle rfl (by simp [Subscription.unsubscribe, Subscription.close, sources])
          (by simp [Subscription.unsubscribe, Subscription.close, timers, current]) ended
    | idle es sources timers =>
        exact .idle rfl (by simp [Subscription.unsubscribe, Subscription.close, sources])
          (by simp [Subscription.unsubscribe, Subscription.close, timers]) ended
  stopped _ := ended_unsubscribed subscription log
  counted := by
    rw [attempts_concat]
    exact sound.counted
  bounded := sound.bounded
  disciplined := sound.disciplined.concat trivial

theorem Sound.react (sound : Sound listener start subscription log) (reaction : Reaction) :
    Sound listener start (subscription.react reaction).1
      (log ++ (subscription.react reaction).2) := by
  unfold Subscription.react
  split
  · exact sound.unsubscribe
  · rwa [List.append_nil]

theorem Sound.settle (sound : Sound listener start subscription log)
    (listed : source ∈ subscription.sources) :
    Sound listener start subscription.settle (log ++ [subscription.noted (.opened true)]) := by
  obtain ⟨es, sources, timers, streams, _⟩ := sound.stands.streams listed
  have later : Streaming (log ++ [subscription.noted (.opened true)]) := by
    simpa [Streaming, Subscription.noted, Note.isEnd, Note.isConnection, Note.isRetry] using streams
  refine ⟨.streaming source es sources timers later ?_, ?_, ?_, Nat.zero_le _, ?_⟩
  · simp [Subscription.noted, Subscription.settle, backoff]
  · intro stopped
    exact ended_concat.mpr (.inl (sound.stopped stopped))
  · rw [attempts_concat]
    rfl
  · exact sound.disciplined.concat streams

theorem settle_react (subscription : Subscription) (reaction : Reaction) :
    (subscription.react reaction).1.settle = (subscription.settle.react reaction).1 ∧
      (subscription.react reaction).2 = (subscription.settle.react reaction).2 := by
  unfold Subscription.react
  split <;> exact ⟨rfl, rfl⟩

theorem Sound.onopen (sound : Sound listener start subscription log)
    (listed : source ∈ subscription.sources) (reaction : Reaction) :
    Sound listener start (subscription.onopen reaction).1
      (log ++ (subscription.onopen reaction).2) := by
  obtain ⟨_, _, _, streams, _⟩ := sound.stands.streams listed
  unfold Subscription.onopen
  split
  · dsimp only
    split
    · have opened :
          Sound listener start subscription (log ++ [subscription.noted (.opened false)]) :=
        sound.quiet rfl streams
      have told := opened.quiet (rfl : (subscription.noted .reconnected).note.isQuiet = true)
        (streams.quiet rfl)
      simpa only [List.append_assoc, List.cons_append, List.nil_append] using told.react reaction
    · have opened := sound.settle listed
      have listens : source ∈ subscription.settle.sources := listed
      have told := opened.quiet (rfl : (subscription.noted .reconnected).note.isQuiet = true)
        (opened.stands.streams listens).2.2.2.1
      obtain ⟨same, notes⟩ := settle_react subscription reaction
      rw [same, notes]
      simpa only [List.append_assoc, List.cons_append, List.nil_append] using told.react reaction
  · exact sound.settle listed

theorem Sound.onmessage (sound : Sound listener start subscription log)
    (listed : source ∈ subscription.sources) (data : Option RawEvent) (reaction : Reaction) :
    Sound listener start (subscription.onmessage listener data reaction).1
      (log ++ (subscription.onmessage listener data reaction).2) := by
  obtain ⟨_, _, _, streams, _⟩ := sound.stands.streams listed
  unfold Subscription.onmessage
  split
  · rwa [List.append_nil]
  · split
    · next raw accepted =>
        have received := sound.quiet
          (rfl : (subscription.noted (.event raw.event)).note.isQuiet = true) ⟨streams, accepted⟩
        simpa only [List.append_assoc, List.cons_append, List.nil_append] using
          received.react reaction
    · rwa [List.append_nil]

theorem sources_close (es : subscription.es = some source)
    (sources : subscription.sources = [source]) : subscription.close.sources = [] := by
  simp [Subscription.close, es, sources]

theorem Sound.halt (sound : Sound listener start subscription log)
    (closed : subscription.es = none) :
    Sound listener start { subscription with stopped := true }
      (log ++ [subscription.noted .unsubscribed]) := by
  have ended := ended_unsubscribed subscription log
  refine ⟨?_, fun _ => ended, ?_, sound.bounded, sound.disciplined.concat trivial⟩
  · cases sound.stands with
    | streaming source es => rw [es] at closed; cases closed
    | waiting timer es sources timers current goesOn failed since =>
        refine .waiting timer es sources timers current (fun running => ?_) ?_ ?_
        · cases running
        · simpa [Subscription.noted, Note.isConnection, Note.isRetry] using failed
        · simpa [Subscription.noted] using since
    | idle es sources timers => exact .idle es sources timers ended
  · rw [attempts_concat]
    exact sound.counted

theorem Sound.giveUp (sound : Sound listener start subscription log)
    (listed : source ∈ subscription.sources) (last : maxRetries ≤ subscription.retries) :
    Sound listener start subscription.close (log ++ [subscription.close.noted .gaveUp]) := by
  obtain ⟨es, sources, timers, streams, since⟩ := sound.stands.streams listed
  have all : subscription.retries = maxRetries := Nat.le_antisymm sound.bounded last
  have ended : Ended (log ++ [subscription.close.noted .gaveUp]) := ended_concat.mpr (.inr rfl)
  refine ⟨.idle rfl (sources_close es sources) timers ended, fun _ => ended, ?_, sound.bounded, ?_⟩
  · rw [attempts_concat]
    exact sound.counted
  · rw [all] at since
    exact sound.disciplined.concat ⟨streams, sound.counted.trans all, since⟩

/-- What is noted when the stream has failed and may be retried. -/
def Subscription.retry (subscription : Subscription) (scheduled : Bool) : Entry :=
  subscription.noted (.reconnecting (subscription.retries + 1)
    (initialRetryDelay * 2 ^ subscription.retries) scheduled)

theorem Sound.allowed_retry (sound : Sound listener start subscription log)
    (streams : Streaming log) (more : subscription.retries < maxRetries) (scheduled : Bool) :
    Allowed listener start log (subscription.retry scheduled) :=
  ⟨streams, by rw [sound.counted], more, by rw [sound.counted]⟩

theorem Sound.dropRetry (sound : Sound listener start subscription log)
    (listed : source ∈ subscription.sources) (more : subscription.retries < maxRetries) :
    Sound listener start subscription.close.count
      (log ++ [subscription.retry false]) := by
  obtain ⟨es, sources, timers, streams, _⟩ := sound.stands.streams listed
  have ended : Ended (log ++ [subscription.retry false]) := ended_concat.mpr (.inr rfl)
  refine ⟨.idle rfl (sources_close es sources) timers ended, fun _ => ended, ?_, more, ?_⟩
  · rw [attempts_concat]
    exact congrArg (· + 1) sound.counted
  · exact sound.disciplined.concat (sound.allowed_retry streams more false)

theorem Sound.scheduleRetry (sound : Sound listener start subscription log)
    (listed : source ∈ subscription.sources) (more : subscription.retries < maxRetries) :
    Sound listener start
      (subscription.close.count.setTimeout (initialRetryDelay * 2 ^ subscription.retries))
      (log ++ [subscription.retry true]) := by
  obtain ⟨es, sources, timers, streams, since⟩ := sound.stands.streams listed
  refine ⟨.waiting ⟨subscription.fresh, subscription.now + initialRetryDelay *
    2 ^ subscription.retries⟩ rfl (sources_close es sources) (congrArg (· ++ [_]) timers) rfl
    (fun _ => ?_) ?_ ?_, ?_, ?_, more, ?_⟩
  · simpa [Subscription.retry, Subscription.noted, Note.isEnd] using streams.1
  · simp [Subscription.retry, Subscription.noted, Note.isConnection, Note.isRetry, streams.2]
  · rw [calm_concat, if_neg (by simp [Subscription.retry, Subscription.noted])]
    change _ + backoff (subscription.retries + 1) ≤
      subscription.now + initialRetryDelay * 2 ^ subscription.retries
    rw [backoff_succ, ← Nat.add_assoc]
    exact Nat.add_le_add_right since _
  · intro stopped
    exact absurd (sound.stopped stopped) streams.1
  · rw [attempts_concat]
    exact congrArg (· + 1) sound.counted
  · exact sound.disciplined.concat (sound.allowed_retry streams more true)

/-- The callback that is told of a retry can only stop what it schedules. -/
theorem setTimeout_react (closed : subscription.es = none) (none : subscription.timers = [])
    (nothing : subscription.sources = []) (reaction : Reaction) (delayMs : Nat) :
    ((subscription.react reaction).1.setTimeout delayMs =
        if reaction.unsubscribes then { subscription.setTimeout delayMs with stopped := true }
        else subscription.setTimeout delayMs) ∧
      (subscription.react reaction).2 =
        if reaction.unsubscribes then [(subscription.setTimeout delayMs).noted .unsubscribed]
        else [] := by
  unfold Subscription.react
  split
  · simp [Subscription.unsubscribe, Subscription.close, Subscription.setTimeout,
      Subscription.noted, closed, none, nothing]
  · exact ⟨rfl, rfl⟩

theorem Sound.onerror (sound : Sound listener start subscription log)
    (listed : source ∈ subscription.sources) (reaction : Reaction) :
    Sound listener start (subscription.onerror reaction).1
      (log ++ (subscription.onerror reaction).2) := by
  obtain ⟨es, sources, timers, streams, _⟩ := sound.stands.streams listed
  have running : ¬subscription.close.stopped = true := fun stopped =>
    streams.1 (sound.stopped stopped)
  unfold Subscription.onerror
  dsimp only
  rw [if_neg running]
  split
  · next last =>
      simpa only [List.append_assoc, List.cons_append, List.nil_append] using
        (sound.giveUp listed last).react reaction
  · next notLast =>
      have more : subscription.retries < maxRetries := Nat.lt_of_not_le notLast
      split
      · next throws =>
          rw [throws]
          change Sound listener start _ (log ++ subscription.retry false :: _)
          simpa only [List.append_assoc, List.cons_append, List.nil_append] using
            (sound.dropRetry listed more).react reaction
      · next returns =>
          have scheduled := sound.scheduleRetry listed more
          have idle : subscription.close.count.es = none := rfl
          obtain ⟨later, notes⟩ := setTimeout_react idle timers (sources_close es sources) reaction
            (initialRetryDelay * 2 ^ subscription.retries)
          rw [Bool.eq_false_of_not_eq_true returns, notes]
          change Sound listener start ((subscription.close.count.react reaction).1.setTimeout
            (initialRetryDelay * 2 ^ subscription.retries)) (log ++ subscription.retry true :: _)
          rw [later]
          split
          · simpa only [List.append_assoc, List.cons_append, List.nil_append] using
              scheduled.halt rfl
          · exact scheduled

theorem Sound.wait (sound : Sound listener start subscription log) (ms : Nat) :
    Sound listener start { subscription with now := subscription.now + ms } log := by
  refine ⟨?_, sound.stopped, sound.counted, sound.bounded, sound.disciplined⟩
  cases sound.stands with
  | streaming source es sources timers streams since =>
      exact .streaming source es sources timers streams (Nat.le_add_right_of_le since)
  | waiting timer es sources timers current goesOn failed since =>
      exact .waiting timer es sources timers current goesOn failed since
  | idle es sources timers ended => exact .idle es sources timers ended

theorem sound_connect (running : subscription.stopped = false) (sources : subscription.sources = [])
    (timers : subscription.timers = []) (goesOn : ¬Ended log)
    (failed : connections log = retriesIn log)
    (since : calm start log + backoff subscription.retries ≤ subscription.now)
    (counted : attempts log = subscription.retries) (bounded : subscription.retries ≤ maxRetries)
    (disciplined : Disciplined listener start log) :
    Sound listener start (subscription.connect listener).1
      (log ++ (subscription.connect listener).2) := by
  have streams : Streaming (log ++ [subscription.noted (.connecting listener.url)]) := by
    constructor
    · simpa [Subscription.noted, Note.isEnd] using goesOn
    · simp [Subscription.noted, Note.isConnection, Note.isRetry, failed]
  rw [Subscription.connect, if_neg (by simp [running])]
  refine ⟨.streaming subscription.fresh rfl ?_ timers streams ?_, ?_, ?_, bounded, ?_⟩
  · exact congrArg (· ++ [subscription.fresh]) sources
  · simpa [Subscription.noted] using since
  · intro stopped
    exact absurd (running.symm.trans stopped) Bool.false_ne_true
  · rw [attempts_concat]
    exact counted
  · apply disciplined.concat
    rw [← counted] at since
    exact ⟨rfl, goesOn, failed, since⟩

/-- The timer goes off when it is due, and the stream is opened again unless the subscription was
ended meanwhile. -/
theorem Sound.timeout (sound : Sound listener start subscription log) {timer : Nat}
    (due : (subscription.timers.any fun set =>
      set.name = timer ∧ set.due ≤ subscription.now) = true) :
    let fired := { subscription with timers := subscription.timers.filter (·.name ≠ timer) }
    Sound listener start (fired.connect listener).1 (log ++ (fired.connect listener).2) := by
  intro fired
  cases sound.stands with
  | streaming _ _ _ timers | idle _ _ timers =>
      rw [timers] at due
      cases due
  | waiting set es sources timers current goesOn failed since =>
      rw [timers, List.any_cons, List.any_nil, Bool.or_false, decide_eq_true_iff] at due
      obtain ⟨rfl, reached⟩ := due
      have none : fired.timers = [] := by simp [fired, timers]
      cases stopped : subscription.stopped with
      | true =>
          rw [Subscription.connect, if_pos stopped, List.append_nil]
          exact ⟨.idle es sources none (sound.stopped stopped), sound.stopped, sound.counted,
            sound.bounded, sound.disciplined⟩
      | false =>
          exact sound_connect stopped sources none (goesOn stopped) failed (since.trans reached)
            sound.counted sound.bounded sound.disciplined

theorem Sound.handle (sound : Sound listener start subscription log) (occurrence : Occurrence) :
    Sound listener start (handle listener subscription occurrence).1
      (log ++ (handle listener subscription occurrence).2) := by
  cases occurrence with
  | opened source reaction =>
      dsimp only [Client.handle]
      split
      · next listed => exact sound.onopen listed reaction
      · rwa [List.append_nil]
  | message source data reaction =>
      dsimp only [Client.handle]
      split
      · next listed => exact sound.onmessage listed data reaction
      · rwa [List.append_nil]
  | failed source reaction =>
      dsimp only [Client.handle]
      split
      · next listed => exact sound.onerror listed reaction
      · rwa [List.append_nil]
  | wait ms =>
      dsimp only [Client.handle]
      rw [List.append_nil]
      exact sound.wait ms
  | timeout timer =>
      dsimp only [Client.handle]
      split
      · next due => exact sound.timeout due
      · rwa [List.append_nil]
  | unsubscribe => exact sound.unsubscribe

theorem sound_subscribe (listener : Listener) (start : Nat) :
    Sound listener start (subscribe listener start).1 (subscribe listener start).2 := by
  have nothing : ¬Ended [] := by simp [Ended]
  rw [← List.nil_append (subscribe listener start).2]
  exact sound_connect rfl rfl rfl nothing rfl (Nat.le_refl start) rfl (Nat.zero_le _)
    disciplined_nil

end Discipline

/-- A subscription after what has happened to it, and all that it has noted. -/
def subscriptionAfter (listener : Listener) (start : Nat) (occurrences : List Occurrence) :
    Subscription × List Entry :=
  (run (fun subscription occurrence => (handle listener subscription occurrence).1)
      (subscribe listener start).1 occurrences,
    (subscribe listener start).2 ++
      history (fun subscription occurrence => (handle listener subscription occurrence).1)
        (fun subscription occurrence => (handle listener subscription occurrence).2)
        (subscribe listener start).1 occurrences)

/-- A caller that ends the subscription when it is told of a retry hears nothing more. -/
example :
    (subscriptionAfter ⟨"", none⟩ 0 [.failed 0 ⟨true, false⟩, .wait 1000, .timeout 1]).2 =
      [⟨0, .connecting ""⟩, ⟨0, .reconnecting 1 1000 true⟩, ⟨0, .unsubscribed⟩] := by
  decide

end Client

end LumenFlow

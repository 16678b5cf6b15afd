import LumenFlow.Webhook.Server

/-!
# The saved cursor

The stream sends its events in order and starts after the saved cursor.  The cursor stays behind
the events that are not delivered as long as every delivery succeeds in the end, the invocations
save their cursors in the order of their events, and no save leaves a truncated file.
-/

namespace LumenFlow

open Kit

namespace Webhook

/-- The events of the contract in the order of their cursors, each with a paging token of its
own, which has no white space. -/
structure Stream where
  token : Nat → Text
  position : Text → Nat
  position_token : ∀ number, position (token number) = number
  token_ne_nil : ∀ number, token number ≠ []

/-- The process, the event that its connection sends next, and the events that it has received,
those before a crash included. -/
structure Feed where
  server : Server
  upcoming : Option Nat
  received : List Nat

/-- A turn of the event loop, a change of the connection, or a crash.  A crash inside a save is one
right after a save that is cut. -/
inductive Happening where
  /-- `connect`; without a cursor the stream starts at the event that comes now -/
  | connect (now : Nat)
  | disconnect
  | receive
  | resume (index : Nat) (response : Response) (write : Write)
  | crash

/-- The saved cursor; there is none in an empty file, as in none. -/
def Server.saved (server : Server) : Option Text := server.cursor.bind truthy

theorem Server.loadCursor_of_saved {config : Config} {server : Server} {cursor : Text}
    (saved : server.saved = some cursor) : server.loadCursor config = some cursor := by
  obtain ⟨content, file, filled⟩ := Option.bind_eq_some_iff.mp saved
  simpa only [loadCursor, file] using filled

def Happening.take (config : Config) (stream : Stream) (feed : Feed) : Happening → Feed
  | connect now =>
      { feed with
        upcoming := some (match feed.server.loadCursor config with
          | some cursor => stream.position cursor + 1
          | none => now) }
  | disconnect => { feed with upcoming := none }
  | receive =>
      match feed.upcoming with
      | none => feed
      | some number =>
          { server := feed.server.handleMessage (.event (some (stream.token number)))
            upcoming := some (number + 1)
            received := number :: feed.received }
  | resume index response write =>
      { feed with server := feed.server.resume config index response write }
  | crash => { feed with server := feed.server.restart, upcoming := none }

/-- The cursor does not stand at or after an event that was received but not delivered. -/
def Feed.CursorBehind (stream : Stream) (feed : Feed) : Prop :=
  ∀ cursor ∈ feed.server.saved, ∀ number ∈ feed.received, number ≤ stream.position cursor →
    stream.token number ∈ feed.server.delivered

/-- The cursor does not move backwards. -/
def CursorForward (config : Config) (stream : Stream) (feed : Feed) (happening : Happening) :
    Prop :=
  ∀ cursor ∈ feed.server.saved, ∃ later ∈ (happening.take config stream feed).server.saved,
    stream.position cursor ≤ stream.position later

/-- No delivery runs out of attempts; an invocation saves its cursor when no invocation for an
earlier event is on its way to do so, and the save leaves no truncated file; and the stream
starts without a cursor only while nothing has been received. -/
def Orderly (config : Config) (stream : Stream) (feed : Feed) : Happening → Prop
  | .resume index response write => ∀ handler ∈ feed.server.handlers[index]?,
      (handler.phase.next config response = .returned false → handler.phase = .returned false) ∧
      ∀ delivered, handler.phase = .returned delivered →
        write.cuts = false ∧ ∀ other ∈ feed.server.handlers, other.phase.pending = true →
          stream.position handler.token ≤ stream.position other.token
  | .connect _ => feed.server.loadCursor config = none → feed.received = []
  | .disconnect | .receive | .crash => True

instance (stream : Stream) (feed : Feed) : Decidable (feed.CursorBehind stream) :=
  inferInstanceAs (Decidable (∀ cursor ∈ _, _))

instance (config : Config) (stream : Stream) (feed : Feed) (happening : Happening) :
    Decidable (Orderly config stream feed happening) :=
  match happening with
  | .resume .. => inferInstanceAs (Decidable (∀ handler ∈ _, _))
  | .connect _ => inferInstanceAs (Decidable (_ → _))
  | .disconnect | .receive | .crash => .isTrue trivial

/-- An invocation for the event. -/
def Feed.Handles (stream : Stream) (feed : Feed) (number : Nat) : Prop :=
  ∃ handler ∈ feed.server.handlers, stream.position handler.token = number

/-- An invocation is on its way to deliver the event. -/
def Server.Carries (server : Server) (token : Text) : Prop :=
  ∃ handler ∈ server.handlers, handler.token = token ∧ handler.phase.pending = true

/-- The events of this process follow each other, and the connection and the cursor are among
them. -/
def Feed.Window (config : Config) (stream : Stream) (feed : Feed) (first last : Nat) : Prop :=
  (∀ number, feed.Handles stream number ↔ first ≤ number ∧ number < last) ∧
    (first < last → (∀ upcoming ∈ feed.upcoming, first ≤ upcoming ∧ upcoming ≤ last) ∧
      ∀ cursor ∈ feed.server.loadCursor config,
        first ≤ stream.position cursor + 1 ∧ stream.position cursor < last) ∧
    (last ≤ first → ∀ upcoming ∈ feed.upcoming, ∀ cursor ∈ feed.server.loadCursor config,
      upcoming = stream.position cursor + 1)

/-- What the orderly runs keep. -/
structure Feed.Ready (config : Config) (stream : Stream) (feed : Feed) : Prop where
  behind : feed.CursorBehind stream
  tokens : ∀ handler ∈ feed.server.handlers, ∃ number ∈ feed.received,
    handler.token = stream.token number
  succeeded : ∀ handler ∈ feed.server.handlers, ∀ delivered,
    handler.phase = .returned delivered → handler.token ∈ feed.server.delivered
  recorded : ∀ handler ∈ feed.server.handlers, handler.token ∈ feed.server.records ∨
    ∃ other ∈ feed.server.handlers, other.token = handler.token ∧ other.phase = .checking false
  settled : ∀ token ∈ feed.server.records,
    token ∈ feed.server.delivered ∨ feed.server.Carries token
  ahead : ∀ cursor ∈ feed.server.saved, ∀ handler ∈ feed.server.handlers,
    handler.phase.pending = true → stream.position cursor ≤ stream.position handler.token
  -- an event that a crash has lost is sent again before later ones
  outstanding : ∀ number ∈ feed.received, stream.token number ∈ feed.server.delivered ∨
    feed.server.Carries (stream.token number) ∨
      (∀ handler ∈ feed.server.handlers, stream.position handler.token < number) ∧
        ∀ upcoming ∈ feed.upcoming, upcoming ≤ number
  later : feed.server.saved = none → ∀ cursor ∈ feed.server.loadCursor config,
    (∀ number ∈ feed.received, stream.position cursor < number) ∧
      ∀ upcoming ∈ feed.upcoming, stream.position cursor < upcoming
  window : ∃ first last, feed.Window config stream first last

section Phases

theorem Phase.pending_attempt (config : Config) (number : Nat) :
    (attempt config number).pending = true := by
  unfold attempt
  split <;> rfl

theorem Phase.pending_retry (config : Config) (number : Nat) :
    (retry config number).pending = true := by
  unfold retry
  split
  · rfl
  · exact pending_attempt config _

theorem Phase.pending_next {phase : Phase} (config : Config) (response : Response)
    (waiting : phase.pending = true) :
    (phase.next config response).pending = true ∨ ∃ delivered, phase = .returned delivered := by
  cases phase with
  | checking seen =>
      cases seen with
      | true => cases waiting
      | false => exact .inl rfl
  | recording => exact .inl (pending_attempt config 1)
  | fetching number =>
      cases response with
      | networkError => exact .inl (pending_retry config number)
      | ok | status => exact .inl rfl
  | reading number => exact .inl (pending_retry config number)
  | sleeping number => exact .inl (pending_attempt config (number + 1))
  | returned delivered => exact .inr ⟨delivered, rfl⟩
  | finished | skipped => cases waiting

theorem Phase.pending_of_next {phase : Phase} {config : Config} {response : Response}
    (waiting : (phase.next config response).pending = true) : phase.pending = true := by
  cases phase with
  | checking seen =>
      cases seen with
      | true => cases waiting
      | false => rfl
  | returned | finished | skipped => cases waiting
  | recording | fetching | reading | sleeping => rfl

theorem Phase.next_eq_returned {phase : Phase} {config : Config} {response : Response}
    {delivered : Bool} (returns : phase.next config response = .returned delivered) :
    delivered = false ∨ ∃ number, phase = .fetching number ∧ response = .ok := by
  cases phase with
  | fetching number =>
      cases response with
      | ok => exact .inr ⟨number, rfl, rfl⟩
      | status => cases returns
      | networkError =>
          left
          simp only [next, retry, attempt] at returns
          split at returns
          · cases returns
          · split at returns <;> cases returns
            rfl
  | checking seen => cases seen <;> cases returns
  | returned | finished | skipped => cases returns
  | recording =>
      left
      simp only [next, attempt] at returns
      split at returns <;> cases returns
      rfl
  | reading number =>
      left
      simp only [next, retry, attempt] at returns
      split at returns
      · cases returns
      · split at returns <;> cases returns
        rfl
  | sleeping number =>
      left
      simp only [next, attempt] at returns
      split at returns <;> cases returns
      rfl

end Phases

section Turns

variable {config : Config} {stream : Stream} {feed : Feed}

theorem Feed.Ready.handles_received (ready : feed.Ready config stream) {number : Nat}
    (handled : feed.Handles stream number) :
    number ∈ feed.received ∧ ∃ handler ∈ feed.server.handlers,
      handler.token = stream.token number := by
  obtain ⟨handler, member, rfl⟩ := handled
  obtain ⟨number, received, named⟩ := ready.tokens handler member
  rw [named, stream.position_token]
  exact ⟨received, handler, member, named⟩

/-- An event that comes again although the cursor stands at or after it is an event of this
process. -/
theorem Feed.Ready.handled_of_passed (ready : feed.Ready config stream) {number : Nat}
    (comes : number ∈ feed.upcoming) {cursor : Text} (saved : cursor ∈ feed.server.saved)
    (passed : number ≤ stream.position cursor) : feed.Handles stream number := by
  obtain ⟨first, last, handles, inside, start⟩ := ready.window
  have loaded : cursor ∈ feed.server.loadCursor config := Server.loadCursor_of_saved saved
  rcases Nat.lt_or_ge first last with filled | empty
  · obtain ⟨upcoming, cursors⟩ := inside filled
    have low := (upcoming number comes).1
    have high := (cursors cursor loaded).2
    exact (handles number).mpr ⟨low, by omega⟩
  · have next := start empty number comes cursor loaded
    omega

theorem Feed.Ready.resumes (ready : feed.Ready config stream) {number : Nat} {cursor : Text}
    (received : number ∈ feed.received) (open_ : stream.token number ∉ feed.server.delivered)
    (loaded : feed.server.loadCursor config = some cursor) : stream.position cursor < number := by
  cases saved : feed.server.saved with
  | some other =>
      obtain rfl := Option.some.inj ((Server.loadCursor_of_saved saved).symm.trans loaded)
      by_contra passed
      exact open_ (ready.behind other saved number received (Nat.not_lt.mp passed))
  | none => exact (ready.later saved cursor loaded).1 number received

/-- A stream that is opened after the cursor sends the events beyond it. -/
theorem Feed.Ready.connect_at (ready : feed.Ready config stream) (now : Nat) {cursor : Text}
    (loaded : feed.server.loadCursor config = some cursor) :
    ((Happening.connect now).take config stream feed).Ready config stream := by
  obtain ⟨first, last, handles, inside, start⟩ := ready.window
  have upcoming : ((Happening.connect now).take config stream feed).upcoming =
      some (stream.position cursor + 1) := by
    simp only [Happening.take, loaded]
  refine { ready with
    outstanding := ?_
    later := ?_
    window := ⟨first, last, handles, fun filled => ⟨?_, (inside filled).2⟩, ?_⟩ }
  · intro number received
    by_cases done : stream.token number ∈ feed.server.delivered
    · exact .inl done
    · refine .inr ((ready.outstanding number received).resolve_left done |>.imp_right ?_)
      rintro ⟨beyond, _⟩
      refine ⟨beyond, fun next comes => ?_⟩
      obtain rfl := Option.some.inj (upcoming.symm.trans comes)
      exact ready.resumes received done loaded
  · intro unsaved configured given
    refine ⟨(ready.later unsaved configured given).1, fun next comes => ?_⟩
    obtain rfl := Option.some.inj (upcoming.symm.trans comes)
    obtain rfl := Option.some.inj (loaded.symm.trans given)
    exact Nat.lt_succ_self _
  · intro next comes
    obtain rfl := Option.some.inj (upcoming.symm.trans comes)
    have within := (inside filled).2 cursor loaded
    omega
  · intro _ next comes other also
    obtain rfl := Option.some.inj (upcoming.symm.trans comes)
    obtain rfl := Option.some.inj (loaded.symm.trans also)
    rfl

theorem Feed.Ready.connect_now (ready : feed.Ready config stream) (now : Nat)
    (loaded : feed.server.loadCursor config = none) (nothing : feed.received = []) :
    ((Happening.connect now).take config stream feed).Ready config stream := by
  have unhandled : ∀ number, ¬ feed.Handles stream number := by
    intro number handled
    have received := (ready.handles_received handled).1
    rw [nothing] at received
    cases received
  refine { ready with
    outstanding := ?_
    later := ?_
    window := ⟨0, 0, fun number => iff_of_false (unhandled number) (by omega),
      fun filled => absurd filled (Nat.lt_irrefl 0), fun _ _ _ cursor also => ?_⟩ }
  · intro number received
    rw [show ((Happening.connect now).take config stream feed).received = [] from nothing]
      at received
    cases received
  · intro unsaved configured given
    cases loaded.symm.trans given
  · cases loaded.symm.trans also

theorem Feed.Ready.connect (ready : feed.Ready config stream) (now : Nat)
    (orderly : Orderly config stream feed (.connect now)) :
    ((Happening.connect now).take config stream feed).Ready config stream := by
  cases loaded : feed.server.loadCursor config with
  | some cursor => exact ready.connect_at now loaded
  | none => exact ready.connect_now now loaded (orderly loaded)

theorem Feed.Ready.disconnect (ready : feed.Ready config stream) :
    (Happening.disconnect.take config stream feed).Ready config stream := by
  obtain ⟨first, last, handles, inside, start⟩ := ready.window
  refine { ready with
    outstanding := fun number received => (ready.outstanding number received).imp_right
      (Or.imp_right fun lost => ⟨lost.1, fun _ comes => by cases comes⟩)
    later := fun unsaved cursor given =>
      ⟨(ready.later unsaved cursor given).1, fun _ comes => by cases comes⟩
    window := ⟨first, last, handles,
      fun filled => ⟨fun _ comes => (by cases comes), (inside filled).2⟩,
      fun _ _ comes => by cases comes⟩ }

theorem Feed.Ready.crash (ready : feed.Ready config stream) :
    (Happening.crash.take config stream feed).Ready config stream := by
  refine { ready with
    tokens := fun _ member => by cases member
    succeeded := fun _ member => by cases member
    recorded := fun _ member => by cases member
    settled := fun _ member => by cases member
    ahead := fun _ _ _ member => by cases member
    outstanding := fun number received => ?_
    later := fun unsaved cursor given =>
      ⟨(ready.later unsaved cursor given).1, fun _ comes => by cases comes⟩
    window := ⟨0, 0, fun number => iff_of_false ?_ (by omega),
      fun filled => absurd filled (Nat.lt_irrefl 0), fun _ _ comes => by cases comes⟩ }
  · rcases ready.outstanding number received with done | _
    · exact .inl done
    · exact .inr (.inr ⟨fun _ member => (by cases member), fun _ comes => by cases comes⟩)
  · rintro ⟨_, member, _⟩
    cases member

/-- The invocation for the next event. -/
def Feed.newHandler (stream : Stream) (feed : Feed) (number : Nat) : Handler :=
  ⟨stream.token number, .checking (feed.server.records.contains (stream.token number))⟩

/-- The feed once the next event has come. -/
def Feed.afterEvent (stream : Stream) (feed : Feed) (number : Nat) : Feed where
  server := { feed.server with
    handlers := feed.server.handlers ++ [feed.newHandler stream number] }
  upcoming := some (number + 1)
  received := number :: feed.received

theorem Stream.message_token (stream : Stream) (number : Nat) :
    (Message.event (some (stream.token number))).token = some (stream.token number) := by
  have filled := stream.token_ne_nil number
  cases token : stream.token number with
  | nil => exact absurd token filled
  | cons => rfl

theorem take_receive {number : Nat} (comes : feed.upcoming = some number) :
    Happening.receive.take config stream feed = feed.afterEvent stream number := by
  simp only [Happening.take, comes, Server.handleMessage, stream.message_token]
  rfl

theorem Feed.Ready.recorded_of_handled (ready : feed.Ready config stream) {number : Nat}
    (handled : feed.Handles stream number) : stream.token number ∈ feed.server.records ∨
      ∃ handler ∈ feed.server.handlers, handler.token = stream.token number ∧
        handler.phase = .checking false := by
  obtain ⟨handler, member, named⟩ := (ready.handles_received handled).2
  rw [← named]
  exact ready.recorded handler member

section Receive

variable {number : Nat}

theorem carries_receive {token : Text} (number : Nat) (carries : feed.server.Carries token) :
    (feed.afterEvent stream number).server.Carries token := by
  obtain ⟨handler, member, waits⟩ := carries
  exact ⟨handler, List.mem_append_left _ member, waits⟩

theorem handles_receive (number other : Nat) :
    Feed.Handles stream (feed.afterEvent stream number) other ↔
      feed.Handles stream other ∨ other = number := by
  have position : stream.position (feed.newHandler stream number).token = number :=
    stream.position_token number
  simp only [Feed.afterEvent, Feed.Handles, List.mem_append, List.mem_singleton, or_and_right,
    exists_or, exists_eq_left, position]
  exact or_congr_right eq_comm

/-- The event is delivered, or an invocation carries it. -/
theorem Feed.Ready.receive_covers (ready : feed.Ready config stream) (number : Nat) :
    stream.token number ∈ feed.server.delivered ∨
      (feed.afterEvent stream number).server.Carries (stream.token number) := by
  by_cases seen : stream.token number ∈ feed.server.records
  · exact (ready.settled _ seen).imp_right (carries_receive number)
  · refine .inr ⟨feed.newHandler stream number, by simp [afterEvent], rfl, ?_⟩
    simp [newHandler, Phase.pending, Phase.claims, seen]

theorem Feed.Ready.receive_recorded (ready : feed.Ready config stream) {handler : Handler}
    (member : handler ∈ (feed.afterEvent stream number).server.handlers) :
    handler.token ∈ feed.server.records ∨
      ∃ other ∈ (feed.afterEvent stream number).server.handlers,
        other.token = handler.token ∧ other.phase = .checking false := by
  rcases List.mem_append.mp member with member | new
  · rcases ready.recorded handler member with seen | ⟨other, among, checks⟩
    · exact .inl seen
    · exact .inr ⟨other, List.mem_append_left _ among, checks⟩
  · obtain rfl := List.mem_singleton.mp new
    by_cases seen : stream.token number ∈ feed.server.records
    · exact .inl seen
    · exact .inr ⟨feed.newHandler stream number, by simp [afterEvent], rfl,
        by simp [newHandler, seen]⟩

theorem Feed.Ready.receive_ahead (ready : feed.Ready config stream)
    (comes : number ∈ feed.upcoming) {cursor : Text} (saved : cursor ∈ feed.server.saved)
    {handler : Handler} (member : handler ∈ (feed.afterEvent stream number).server.handlers)
    (waits : handler.phase.pending = true) :
    stream.position cursor ≤ stream.position handler.token := by
  rcases List.mem_append.mp member with member | new
  · exact ready.ahead cursor saved handler member waits
  · obtain rfl := List.mem_singleton.mp new
    have position : stream.position (feed.newHandler stream number).token = number :=
      stream.position_token number
    rw [position]
    by_contra before
    have seen : stream.token number ∉ feed.server.records := by
      simpa [newHandler, Phase.pending, Phase.claims] using waits
    -- An event that comes again is recorded, or an invocation is about to record it.
    have handled := ready.handled_of_passed comes saved (not_le.mp before).le
    rcases ready.recorded_of_handled handled with known | ⟨other, among, named, checks⟩
    · exact seen known
    · have least := ready.ahead cursor saved other among (by rw [checks]; rfl)
      rw [named, stream.position_token] at least
      exact before least

theorem Feed.Ready.receive_outstanding (ready : feed.Ready config stream)
    (comes : number ∈ feed.upcoming) {other : Nat}
    (received : other ∈ (feed.afterEvent stream number).received) :
    stream.token other ∈ feed.server.delivered ∨
      (feed.afterEvent stream number).server.Carries (stream.token other) ∨
      (∀ handler ∈ (feed.afterEvent stream number).server.handlers,
        stream.position handler.token < other) ∧
        ∀ upcoming ∈ (feed.afterEvent stream number).upcoming, upcoming ≤ other := by
  by_cases same : other = number
  · subst same
    exact (ready.receive_covers other).imp_right .inl
  · have earlier := (List.mem_cons.mp received).resolve_left same
    rcases ready.outstanding other earlier with done | carries | ⟨beyond, next⟩
    · exact .inl done
    · exact .inr (.inl (carries_receive number carries))
    · have later : number < other := lt_of_le_of_ne (next number comes) (Ne.symm same)
      refine .inr (.inr ⟨fun handler member => ?_, fun upcoming is => ?_⟩)
      · rcases List.mem_append.mp member with member | new
        · exact beyond handler member
        · obtain rfl := List.mem_singleton.mp new
          exact (stream.position_token number).trans_lt later
      · obtain rfl := Option.some.inj is
        exact later

theorem Feed.Ready.receive_window (ready : feed.Ready config stream)
    (comes : number ∈ feed.upcoming) :
    ∃ first last, Feed.Window config stream (feed.afterEvent stream number) first last := by
  obtain ⟨first, last, handles, inside, start⟩ := ready.window
  rcases Nat.lt_or_ge first last with filled | empty
  · obtain ⟨upcoming, cursors⟩ := inside filled
    have within := upcoming number comes
    refine ⟨first, max last (number + 1), fun other => ?_, fun _ => ⟨?_, ?_⟩, fun _ => ?_⟩
    · rw [handles_receive, handles]
      omega
    · intro next is
      obtain rfl := Option.some.inj is
      omega
    · intro cursor loaded
      have bounds := cursors cursor loaded
      omega
    · omega
  · refine ⟨number, number + 1, fun other => ?_, fun _ => ⟨?_, ?_⟩, fun _ => ?_⟩
    · rw [handles_receive, handles]
      omega
    · intro next is
      obtain rfl := Option.some.inj is
      omega
    · intro cursor loaded
      have next := start empty number comes cursor loaded
      omega
    · omega

end Receive

theorem Feed.Ready.receive (ready : feed.Ready config stream) :
    (Happening.receive.take config stream feed).Ready config stream := by
  cases comes : feed.upcoming with
  | none =>
      have same : Happening.receive.take config stream feed = feed := by
        simp only [Happening.take, comes]
      rwa [same]
  | some number =>
      rw [take_receive comes]
      refine ⟨?_, ?_, ?_, fun handler => ready.receive_recorded,
        fun token seen => (ready.settled token seen).imp_right (carries_receive number),
        fun cursor saved handler => ready.receive_ahead comes saved,
        fun other => ready.receive_outstanding comes, ?_, ready.receive_window comes⟩
      · intro cursor saved other received before
        rcases List.mem_cons.mp received with rfl | received
        · have handled := ready.handled_of_passed comes saved before
          exact ready.behind cursor saved other (ready.handles_received handled).1 before
        · exact ready.behind cursor saved other received before
      · intro handler member
        rcases List.mem_append.mp member with member | new
        · obtain ⟨other, received, named⟩ := ready.tokens handler member
          exact ⟨other, List.mem_cons_of_mem _ received, named⟩
        · obtain rfl := List.mem_singleton.mp new
          exact ⟨number, List.mem_cons_self, rfl⟩
      · intro handler member delivered returned
        rcases List.mem_append.mp member with member | new
        · exact ready.succeeded handler member delivered returned
        · obtain rfl := List.mem_singleton.mp new
          cases returned
      · intro unsaved cursor given
        obtain ⟨earlier, start⟩ := ready.later unsaved cursor given
        have here := start number comes
        refine ⟨fun other received => ?_, fun upcoming is => ?_⟩
        · rcases List.mem_cons.mp received with rfl | received
          · exact here
          · exact earlier other received
        · obtain rfl := Option.some.inj is
          omega

theorem mem_set_cases {Item : Type} {items : List Item} {index : Nat} {old new item : Item}
    (found : items[index]? = some old) (member : item ∈ items) :
    item ∈ items.set index new ∨ item = old := by
  obtain ⟨place, standing⟩ := List.mem_iff_getElem?.mp member
  by_cases same : index = place
  · subst same
    exact .inr (Option.some.inj (standing.symm.trans found))
  · have kept : (items.set index new)[place]? = items[place]? := List.getElem?_set_ne same
    exact .inl (List.mem_of_getElem? (kept.trans standing))

theorem mem_set_self {Item : Type} {items : List Item} {index : Nat} {old : Item} (new : Item)
    (found : items[index]? = some old) : new ∈ items.set index new :=
  List.mem_set (List.getElem?_eq_some_iff.mp found).1 new

theorem truthy_of_ne_nil {text : Text} (filled : text ≠ []) : truthy text = some text := by
  cases text with
  | nil => exact absurd rfl filled
  | cons => rfl

theorem resume_cursor_cases (config : Config) {server : Server} {index : Nat} {handler : Handler}
    (found : server.handlers[index]? = some handler) (response : Response) {write : Write}
    (entire : ∀ delivered, handler.phase = .returned delivered → write.cuts = false) :
    (server.resume config index response write).cursor = server.cursor ∨
      (∃ delivered, handler.phase = .returned delivered) ∧
        (server.resume config index response write).cursor = some handler.token := by
  simp only [Server.resume, found]
  split
  · next delivered returned =>
      cases write with
      | whole => exact .inr ⟨⟨delivered, returned⟩, rfl⟩
      | refused => exact .inl rfl
      | cut bytes => cases entire delivered returned
  · exact .inl rfl

theorem resume_handlers (config : Config) {server : Server} {index : Nat} {handler : Handler}
    (found : server.handlers[index]? = some handler) (response : Response) (write : Write) :
    (server.resume config index response write).handlers = server.handlers.set index
      { handler with phase := handler.phase.next config response } := by
  simp only [Server.resume, found]

theorem resume_records (config : Config) {server : Server} {index : Nat} {handler : Handler}
    (found : server.handlers[index]? = some handler) (response : Response) (write : Write) :
    (server.resume config index response write).records =
      if handler.phase = .checking false then handler.token :: server.records
      else server.records := by
  simp only [Server.resume, found]

theorem mem_resume_delivered {server : Server} {index : Nat} {handler : Handler} {token : Text}
    (found : server.handlers[index]? = some handler) (response : Response) (write : Write)
    (done : token ∈ server.delivered) :
    token ∈ (server.resume config index response write).delivered := by
  simp only [Server.resume, found]
  split
  · exact List.mem_cons_of_mem _ done
  · exact done

theorem resume_delivers {server : Server} {index number : Nat} {handler : Handler}
    (found : server.handlers[index]? = some handler) (fetching : handler.phase = .fetching number)
    (write : Write) : handler.token ∈ (server.resume config index .ok write).delivered := by
  simp [Server.resume, found, fetching]

section Resume

variable {server : Server} {index : Nat} {handler : Handler} {token : Text}

theorem resume_from (config : Config) (response : Response) (write : Write)
    (found : server.handlers[index]? = some handler) {other : Handler}
    (among : other ∈ (server.resume config index response write).handlers) :
    ∃ old ∈ server.handlers, old.token = other.token ∧
      (other.phase.pending = true → old.phase.pending = true) := by
  rw [resume_handlers config found] at among
  rcases List.mem_or_eq_of_mem_set among with before | rfl
  · exact ⟨other, before, rfl, fun waits => waits⟩
  · exact ⟨handler, List.mem_of_getElem? found, rfl, Phase.pending_of_next⟩

theorem resume_into (config : Config) (response : Response) (write : Write)
    (found : server.handlers[index]? = some handler) {old : Handler}
    (before : old ∈ server.handlers) :
    ∃ other ∈ (server.resume config index response write).handlers, other.token = old.token := by
  rw [resume_handlers config found]
  rcases mem_set_cases found before with kept | rfl
  · exact ⟨old, kept, rfl⟩
  · exact ⟨_, mem_set_self _ found, rfl⟩

theorem resume_carries (config : Config) (response : Response) (write : Write)
    (found : server.handlers[index]? = some handler) (carries : server.Carries token) :
    (handler.token = token ∧ ∃ delivered, handler.phase = .returned delivered) ∨
      (server.resume config index response write).Carries token := by
  obtain ⟨old, before, rfl, waits⟩ := carries
  unfold Server.Carries
  rw [resume_handlers config found]
  rcases mem_set_cases found before with kept | rfl
  · exact .inr ⟨old, kept, rfl, waits⟩
  · rcases Phase.pending_next config response waits with still | returned
    · exact .inr ⟨_, mem_set_self _ found, rfl, still⟩
    · exact .inl ⟨rfl, returned⟩

theorem Feed.Ready.finished (ready : feed.Ready config stream)
    (found : feed.server.handlers[index]? = some handler) {delivered : Bool}
    (returned : handler.phase = .returned delivered) :
    handler.token ∈ feed.server.delivered :=
  ready.succeeded handler (List.mem_of_getElem? found) delivered returned

/-- An event that is delivered or carried stays so. -/
theorem Feed.Ready.resume_covers (ready : feed.Ready config stream)
    (found : feed.server.handlers[index]? = some handler) (response : Response) (write : Write)
    (covered : token ∈ feed.server.delivered ∨ feed.server.Carries token) :
    token ∈ (feed.server.resume config index response write).delivered ∨
      (feed.server.resume config index response write).Carries token := by
  rcases covered with before | carries
  · exact .inl (mem_resume_delivered found response write before)
  · rcases resume_carries config response write found carries with ⟨rfl, _, returned⟩ | still
    · exact .inl (mem_resume_delivered found response write (ready.finished found returned))
    · exact .inr still

/-- The saved cursor is the one that was there, or the token of an invocation whose delivery has
returned. -/
theorem Feed.Ready.resume_saved_cases (ready : feed.Ready config stream)
    (found : feed.server.handlers[index]? = some handler) (response : Response) {write : Write}
    (entire : ∀ delivered, handler.phase = .returned delivered → write.cuts = false) :
    ((feed.server.resume config index response write).saved = feed.server.saved ∧
      (feed.server.resume config index response write).loadCursor config =
        feed.server.loadCursor config) ∨
      (∃ delivered, handler.phase = .returned delivered) ∧
        (feed.server.resume config index response write).saved = some handler.token := by
  rcases resume_cursor_cases config found response entire with same | ⟨returned, written⟩
  · left
    simp only [Server.saved, Server.loadCursor, same, and_self]
  · refine .inr ⟨returned, ?_⟩
    obtain ⟨number, _, named⟩ := ready.tokens handler (List.mem_of_getElem? found)
    have filled : handler.token ≠ [] := named ▸ stream.token_ne_nil number
    rw [Server.saved, written, Option.bind_some, truthy_of_ne_nil filled]

theorem Feed.Ready.resume_behind (ready : feed.Ready config stream)
    (found : feed.server.handlers[index]? = some handler) (response : Response) {write : Write}
    (entire : ∀ delivered, handler.phase = .returned delivered → write.cuts = false)
    (first : ∀ delivered, handler.phase = .returned delivered →
      ∀ other ∈ feed.server.handlers, other.phase.pending = true →
        stream.position handler.token ≤ stream.position other.token) :
    Feed.CursorBehind stream
      { feed with server := feed.server.resume config index response write } := by
  intro cursor saved number received passed
  apply mem_resume_delivered found
  rcases ready.resume_saved_cases found response entire with
    ⟨same, _⟩ | ⟨⟨delivered, returned⟩, written⟩
  · rw [Option.mem_def, same] at saved
    exact ready.behind cursor saved number received passed
  · obtain rfl := Option.some.inj (written.symm.trans saved)
    have member : handler ∈ feed.server.handlers := List.mem_of_getElem? found
    rcases ready.outstanding number received with before | ⟨other, among, named, waits⟩ |
      ⟨beyond, _⟩
    · exact before
    · -- The cursor is saved for the earliest event on its way, so it is this one.
      have least := first delivered returned other among waits
      rw [named, stream.position_token] at least
      obtain rfl := Nat.le_antisymm passed least
      obtain ⟨own, _, token⟩ := ready.tokens handler member
      rw [token, stream.position_token, ← token]
      exact ready.finished found returned
    · exact absurd (beyond handler member) (not_lt.mpr passed)

theorem Feed.Ready.resume_succeeded (ready : feed.Ready config stream)
    (found : feed.server.handlers[index]? = some handler) (response : Response) (write : Write)
    (lasting : handler.phase.next config response = .returned false →
      handler.phase = .returned false) {other : Handler}
    (among : other ∈ (feed.server.resume config index response write).handlers)
    {delivered : Bool} (returned : other.phase = .returned delivered) :
    other.token ∈ (feed.server.resume config index response write).delivered := by
  rw [resume_handlers config found] at among
  rcases List.mem_or_eq_of_mem_set among with before | rfl
  · exact mem_resume_delivered found _ _ (ready.succeeded other before delivered returned)
  · rcases Phase.next_eq_returned returned with rfl | ⟨number, fetching, rfl⟩
    · have done : handler.token ∈ feed.server.delivered := ready.finished found (lasting returned)
      exact mem_resume_delivered found _ _ done
    · exact resume_delivers found fetching write

theorem Feed.Ready.resume_recorded (ready : feed.Ready config stream)
    (found : feed.server.handlers[index]? = some handler) (response : Response) (write : Write)
    {other : Handler}
    (among : other ∈ (feed.server.resume config index response write).handlers) :
    other.token ∈ (feed.server.resume config index response write).records ∨
      ∃ checker ∈ (feed.server.resume config index response write).handlers,
        checker.token = other.token ∧ checker.phase = .checking false := by
  obtain ⟨old, before, named, _⟩ := resume_from config response write found among
  rw [← named, resume_records config found, resume_handlers config found]
  rcases ready.recorded old before with seen | ⟨checker, inside, same, checks⟩
  · left
    split
    · exact List.mem_cons_of_mem _ seen
    · exact seen
  · rcases mem_set_cases found inside with kept | rfl
    · exact .inr ⟨checker, kept, same, checks⟩
    · left
      rw [if_pos checks, ← same]
      exact List.mem_cons_self

theorem Feed.Ready.resume_settled (ready : feed.Ready config stream)
    (found : feed.server.handlers[index]? = some handler) (response : Response) (write : Write)
    (seen : token ∈ (feed.server.resume config index response write).records) :
    token ∈ (feed.server.resume config index response write).delivered ∨
      (feed.server.resume config index response write).Carries token := by
  apply ready.resume_covers found
  rw [resume_records config found] at seen
  split at seen
  · next checks =>
      rcases List.mem_cons.mp seen with rfl | before
      · exact .inr ⟨handler, List.mem_of_getElem? found, rfl, by rw [checks]; rfl⟩
      · exact ready.settled token before
  · exact ready.settled token seen

theorem Feed.Ready.resume_window (ready : feed.Ready config stream)
    (found : feed.server.handlers[index]? = some handler) (response : Response) {write : Write}
    (entire : ∀ delivered, handler.phase = .returned delivered → write.cuts = false) :
    ∃ low high, Feed.Window config stream
      { feed with server := feed.server.resume config index response write } low high := by
  obtain ⟨low, high, handles, inside, start⟩ := ready.window
  have handled (number : Nat) : Feed.Handles stream
      { feed with server := feed.server.resume config index response write } number ↔
      feed.Handles stream number := by
    constructor
    · rintro ⟨other, among, rfl⟩
      obtain ⟨old, before, named, _⟩ := resume_from config response write found among
      exact ⟨old, before, by rw [named]⟩
    · rintro ⟨old, before, rfl⟩
      obtain ⟨other, among, named⟩ := resume_into config response write found before
      exact ⟨other, among, by rw [named]⟩
  have own := (handles _).mp ⟨handler, List.mem_of_getElem? found, rfl⟩
  refine ⟨low, high, fun number => (handled number).trans (handles number),
    fun filled => ⟨(inside filled).1, fun cursor loaded => ?_⟩, fun empty => ?_⟩
  · rcases ready.resume_saved_cases found response entire with ⟨_, same⟩ | ⟨_, written⟩
    · rw [Option.mem_def, same] at loaded
      exact (inside filled).2 cursor loaded
    · obtain rfl := Option.some.inj ((Server.loadCursor_of_saved written).symm.trans loaded)
      omega
  · omega

end Resume

theorem Feed.Ready.resume (ready : feed.Ready config stream) (index : Nat)
    (response : Response) (write : Write)
    (orderly : Orderly config stream feed (.resume index response write)) :
    ((Happening.resume index response write).take config stream feed).Ready config stream := by
  change Feed.Ready config stream
    { feed with server := feed.server.resume config index response write }
  cases found : feed.server.handlers[index]? with
  | none =>
      have same : feed.server.resume config index response write = feed.server := by
        simp only [Server.resume, found]
      rwa [same]
  | some handler =>
      obtain ⟨lasting, saves⟩ := orderly handler found
      have entire : ∀ delivered, handler.phase = .returned delivered → write.cuts = false :=
        fun delivered returned => (saves delivered returned).1
      have first : ∀ delivered, handler.phase = .returned delivered →
          ∀ other ∈ feed.server.handlers, other.phase.pending = true →
            stream.position handler.token ≤ stream.position other.token :=
        fun delivered returned => (saves delivered returned).2
      refine ⟨ready.resume_behind found response entire first, ?_,
        fun other among delivered => ready.resume_succeeded found response write lasting among,
        fun other => ready.resume_recorded found response write,
        fun token => ready.resume_settled found response write, ?_, ?_, ?_,
        ready.resume_window found response entire⟩
      · intro other among
        obtain ⟨old, before, named, _⟩ := resume_from config response write found among
        rw [← named]
        exact ready.tokens old before
      · intro cursor saved other among waits
        obtain ⟨old, before, named, waited⟩ := resume_from config response write found among
        rw [← named]
        rcases ready.resume_saved_cases found response entire with
          ⟨same, _⟩ | ⟨⟨delivered, returned⟩, written⟩
        · rw [Option.mem_def, same] at saved
          exact ready.ahead cursor saved old before (waited waits)
        · obtain rfl := Option.some.inj (written.symm.trans saved)
          exact first delivered returned old before (waited waits)
      · intro number received
        rcases ready.outstanding number received with before | carries | ⟨beyond, next⟩
        · exact (ready.resume_covers found response write (.inl before)).imp_right .inl
        · exact (ready.resume_covers found response write (.inr carries)).imp_right .inl
        · refine .inr (.inr ⟨fun other among => ?_, next⟩)
          obtain ⟨old, before, named, _⟩ := resume_from config response write found among
          rw [← named]
          exact beyond old before
      · intro unsaved cursor loaded
        rcases ready.resume_saved_cases found response entire with ⟨same, loads⟩ | ⟨_, written⟩
        · exact ready.later (same.symm.trans unsaved) cursor (loads.symm.trans loaded)
        · cases written.symm.trans unsaved

/-- A process that starts from a saved cursor, or without one. -/
def Feed.started (cursor : Option Text) : Feed := ⟨.started cursor, none, []⟩

theorem Feed.ready_started (config : Config) (stream : Stream) (cursor : Option Text) :
    (Feed.started cursor).Ready config stream where
  behind _ _ _ received := by cases received
  tokens _ member := by cases member
  succeeded _ member := by cases member
  recorded _ member := by cases member
  settled _ seen := by cases seen
  ahead _ _ _ member := by cases member
  outstanding _ received := by cases received
  later _ _ _ := ⟨fun _ received => (by cases received), fun _ comes => by cases comes⟩
  window := ⟨0, 0, fun _ => iff_of_false (by rintro ⟨_, member, _⟩; cases member) (by omega),
    fun filled => absurd filled (Nat.lt_irrefl 0), fun _ _ comes => by cases comes⟩

theorem Feed.Ready.take (ready : feed.Ready config stream) (happening : Happening)
    (orderly : Orderly config stream feed happening) :
    (happening.take config stream feed).Ready config stream := by
  cases happening with
  | connect now => exact ready.connect now orderly
  | disconnect => exact ready.disconnect
  | receive => exact ready.receive
  | resume index response write => exact ready.resume index response write orderly
  | crash => exact ready.crash

/-- An invocation that saves its cursor stands at or after the saved one. -/
theorem Feed.Ready.forward (ready : feed.Ready config stream) (happening : Happening)
    (orderly : Orderly config stream feed happening) :
    CursorForward config stream feed happening := by
  intro cursor saved
  cases happening with
  | connect | disconnect | crash => exact ⟨cursor, saved, le_refl _⟩
  | receive =>
      refine ⟨cursor, ?_, le_refl _⟩
      cases comes : feed.upcoming with
      | none => simpa only [Happening.take, comes] using saved
      | some number => rwa [take_receive comes]
  | resume index response write =>
      simp only [Happening.take]
      cases found : feed.server.handlers[index]? with
      | none =>
          refine ⟨cursor, ?_, le_refl _⟩
          simpa only [Server.resume, found] using saved
      | some handler =>
          have saves := (orderly handler found).2
          rcases ready.resume_saved_cases found response fun delivered returned =>
            (saves delivered returned).1 with ⟨same, _⟩ | ⟨⟨delivered, returned⟩, written⟩
          · exact ⟨cursor, by rwa [same], le_refl _⟩
          · refine ⟨handler.token, written, ?_⟩
            exact ready.ahead cursor saved handler (List.mem_of_getElem? found)
              (by rw [returned]; rfl)

end Turns

/-- In an orderly run, crashes included, the cursor never stands at or after an event that was
received but not delivered, and never moves backwards. -/
theorem cursor_safe (config : Config) (stream : Stream) (cursor : Option Text)
    (happenings : List Happening)
    (orderly : Along (Happening.take config stream)
      (Orderly config stream) (.started cursor) happenings) :
    Throughout (Happening.take config stream)
        (Feed.CursorBehind stream) (.started cursor) happenings ∧
      Along (Happening.take config stream)
        (CursorForward config stream) (.started cursor) happenings := by
  have kept : ∀ feed happening, Feed.Ready config stream feed →
      Orderly config stream feed happening →
      Feed.Ready config stream (Happening.take config stream feed happening) :=
    fun _ happening before => before.take happening
  have ready := throughout_of_along kept (Feed.ready_started config stream cursor) orderly
  refine ⟨fun before after split => (ready before after split).behind, ?_⟩
  rw [along_iff_split]
  intro before happening after split
  exact (ready before _ split).forward happening
    ((along_iff_split _ _).mp orderly before happening after split)

namespace Sample

/-- The paging token of an event is as long as its number. -/
def stream : Stream where
  token number := List.replicate (number + 1) 49
  position token := token.length - 1
  position_token number := by simp
  token_ne_nil number := by simp

def retrying : Config := ⟨5, none⟩

/-- An invocation goes on, with a response of the endpoint. -/
def turn (index : Nat) (response : Response) : Happening := .resume index response .whole

end Sample

/-- Two deliveries that overlap, the first after a retry, a crash, and the stream from there on. -/
theorem cursor_safe_sample :
    Throughout (Happening.take Sample.retrying Sample.stream) (Feed.CursorBehind Sample.stream)
      (.started none) [.connect 3, .receive, .receive, Sample.turn 0 .ok, Sample.turn 0 .ok,
        Sample.turn 1 .ok, Sample.turn 1 .ok, Sample.turn 0 .networkError, Sample.turn 1 .ok,
        Sample.turn 0 .ok, Sample.turn 0 .ok, Sample.turn 0 .ok, .crash, .connect 9, .receive] :=
  (cursor_safe Sample.retrying Sample.stream none _ (by decide)).1

/-- The cursor is saved although all attempts have failed. -/
theorem cursor_passes_lost_event :
    ¬ ∀ config stream cursor happenings,
      Throughout (Happening.take config stream) (Feed.CursorBehind stream) (.started cursor)
          happenings ∧
        Along (Happening.take config stream) (CursorForward config stream) (.started cursor)
          happenings := by
  intro safe
  have behind := (safe Sample.retrying Sample.stream none
    ([.connect 3, .receive, Sample.turn 0 .ok, Sample.turn 0 .ok] ++
      List.replicate 10 (Sample.turn 0 .networkError))).1 _ [] (List.append_nil _).symm
  revert behind
  decide

end Webhook

end LumenFlow

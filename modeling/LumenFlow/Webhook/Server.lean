import LumenFlow.Kit.Run
import LumenFlow.Model.Types

/-!
# The webhook server

The handlers of the event stream as they run on the event loop.  A handler runs from one `await`
to the next without interruption, and any handler that waits may go on next.
-/

namespace LumenFlow

open Kit

namespace Webhook

/-- The environment variables that the server reads. -/
structure Config where
  /-- `MAX_RETRIES` -/
  maxRetries : Nat
  /-- `CURSOR` -/
  cursor : Option Text

/-- A message of the stream: `JSON.parse` fails on its data, or gives an event with or without a
paging token. -/
inductive Message where
  | malformed
  | event (pagingToken : Option Text)

/-- How a request to the endpoint ends. -/
inductive Response where
  | ok
  | status
  | networkError
  deriving DecidableEq

/-- The `await` at which an invocation of `handleMessage` stands, or how it ended. -/
inductive Phase where
  /-- `await idempotencyStore.has(pagingToken)`, with the answer -/
  | checking (seen : Bool)
  /-- `await idempotencyStore.add(pagingToken, ..)` -/
  | recording
  /-- `await fetch(WEBHOOK_URL, ..)` -/
  | fetching (attempt : Nat)
  /-- `await response.text()` -/
  | reading (attempt : Nat)
  /-- `await sleep(delay)` -/
  | sleeping (attempt : Nat)
  /-- `await deliverWithRetry(..)`, which has returned after a delivery or after the last attempt -/
  | returned (delivered : Bool)
  | finished
  | skipped
  deriving DecidableEq

namespace Phase

/-- The head of the loop of `deliverWithRetry`. -/
def attempt (config : Config) (attempt : Nat) : Phase :=
  if attempt ≤ config.maxRetries then fetching attempt else returned false

/-- The end of the body of the loop, after a failure. -/
def retry (config : Config) (failed : Nat) : Phase :=
  if failed < config.maxRetries then sleeping failed else attempt config (failed + 1)

/-- Where the invocation stands after its next turn. -/
def next (config : Config) (response : Response) : Phase → Phase
  | checking seen => if seen then skipped else recording
  | recording => attempt config 1
  | fetching attempt =>
      match response with
      | .ok => returned true
      | .status => reading attempt
      | .networkError => retry config attempt
  | reading attempt => retry config attempt
  | sleeping attempt => Phase.attempt config (attempt + 1)
  | returned _ => finished
  | finished => finished
  | skipped => skipped

/-- The invocation has called `deliverWithRetry`. -/
def reached : Phase → Bool
  | checking _ | recording | skipped => false
  | fetching _ | reading _ | sleeping _ | returned _ | finished => true

/-- The invocation has not seen its token in the store. -/
def claims : Phase → Bool
  | checking seen => !seen
  | recording => true
  | phase => phase.reached

/-- The invocation is on its way to save its cursor. -/
def pending : Phase → Bool
  | finished | skipped => false
  | phase => phase.claims

@[simp]
theorem reached_attempt (config : Config) (number : Nat) :
    (attempt config number).reached = true := by
  unfold attempt
  split <;> rfl

@[simp]
theorem reached_retry (config : Config) (number : Nat) :
    (retry config number).reached = true := by
  unfold retry
  split
  · rfl
  · exact reached_attempt config _

theorem claims_of_reached {phase : Phase} (reached : phase.reached = true) :
    phase.claims = true := by
  cases phase <;> simp_all [Phase.reached, claims]

theorem reached_next {phase : Phase} (config : Config) (response : Response)
    (already : phase.reached = true) : (phase.next config response).reached = true := by
  cases phase with
  | checking | recording | skipped => cases already
  | fetching attempt =>
      cases response with
      | networkError => exact reached_retry config attempt
      | ok | status => rfl
  | reading attempt => exact reached_retry config attempt
  | sleeping number => exact reached_attempt config (number + 1)
  | returned | finished => rfl

@[simp]
theorem claims_next (phase : Phase) (config : Config) (response : Response) :
    (phase.next config response).claims = phase.claims := by
  cases phase with
  | checking seen => cases seen <;> rfl
  | recording => exact claims_of_reached (reached_attempt config 1)
  | skipped => rfl
  | fetching | reading | sleeping | returned | finished =>
      exact claims_of_reached (reached_next config response rfl)

end Phase

/-- How `writeFileSync` ends. -/
inductive Write where
  | whole
  /-- the file cannot be opened and stays as it is -/
  | refused
  /-- the file is truncated, and an error or a crash leaves the first bytes of the token -/
  | cut (bytes : Nat)
  deriving DecidableEq

/-- `saveCursor` on the cursor file. -/
def Write.save (token : Text) (file : Option Text) : Write → Option Text
  | whole => some token
  | refused => file
  | cut bytes => some (token.take bytes)

def Write.cuts : Write → Bool
  | cut _ => true
  | whole | refused => false

/-- An invocation of `handleMessage` that has got a paging token. -/
structure Handler where
  token : Text
  phase : Phase
  deriving DecidableEq

/-- The process with its idempotency store, and the cursor file.  `delivered` is a ghost: it
lists the tokens that the endpoint has taken with a 2xx response. -/
structure Server where
  records : List Text
  handlers : List Handler
  /-- `CURSOR_FILE`, if it is there, without white space around its content -/
  cursor : Option Text
  delivered : List Text

/-- A text that is not falsy. -/
def truthy : Text → Option Text
  | [] => none
  | text => some text

/-- The paging token of a message, when it has one that is not falsy. -/
def Message.token : Message → Option Text
  | malformed => none
  | event token => token.bind truthy

namespace Server

/-- `handleMessage` up to its first `await`. -/
def handleMessage (server : Server) (message : Message) : Server :=
  match message.token with
  | none => server
  | some token =>
      { server with
        handlers := server.handlers ++ [⟨token, .checking (server.records.contains token)⟩] }

/-- One invocation goes on to its next `await`. -/
def resume (config : Config) (server : Server) (index : Nat) (response : Response)
    (write : Write) : Server :=
  match server.handlers[index]? with
  | none => server
  | some handler =>
      { records :=
          if handler.phase = .checking false then handler.token :: server.records
          else server.records
        handlers := server.handlers.set index
          { handler with phase := handler.phase.next config response }
        cursor :=
          match handler.phase with
          | .returned _ => write.save handler.token server.cursor
          | _ => server.cursor
        delivered :=
          match handler.phase, response with
          | .fetching _, .ok => handler.token :: server.delivered
          | _, _ => server.delivered }

/-- `loadCursor`, where `none` stands for `now`. -/
def loadCursor (config : Config) (server : Server) : Option Text :=
  match server.cursor with
  | some content => truthy content
  | none => config.cursor.bind truthy

/-- The process starts again; only the cursor file stays. -/
def restart (server : Server) : Server :=
  { server with records := [], handlers := [] }

end Server

/-- A turn of the event loop: a message arrives, or an invocation goes on. -/
inductive Turn where
  | message (message : Message)
  | resume (index : Nat) (response : Response) (write : Write)

def Turn.take (config : Config) (server : Server) : Turn → Server
  | message arrived => server.handleMessage arrived
  | resume index response write => server.resume config index response write

/-- The process as it starts. -/
def Server.started (cursor : Option Text) : Server := ⟨[], [], cursor, []⟩

end Webhook

end LumenFlow

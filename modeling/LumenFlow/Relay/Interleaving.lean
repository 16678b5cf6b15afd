import LumenFlow.Kit.Run
import LumenFlow.Model.Types

/-!
# The webhook relay of the SDK

The calls of `relay` and `relayBatch` on one `WebhookRelay`, as they run on the event loop.  A
call runs from one `await` to the next without interruption.  The store answers a request at a
turn of its own, so that a store in the process and a remote one are both covered.
-/

namespace LumenFlow

namespace Relay

/-- The fields of an event that the relay reads. -/
structure RelayEvent where
  pagingToken : Option Text
  id : Option Text
  deriving DecidableEq

structure Options where
  maxAttempts : Nat
  baseDelayMs : Nat
  maxDelayMs : Nat

/-- How `deliver` ends: with a response, which may be missing, or with an exception. -/
inductive Delivery where
  | responded (status : Option Int)
  | threw
  deriving DecidableEq

inductive OutcomeStatus where
  | delivered
  | duplicate
  deriving DecidableEq

structure RelayOutcome where
  status : OutcomeStatus
  key : Text
  attempts : Nat
  deriving DecidableEq

/-- The `TypeError` and the three uses of `WebhookDeliveryError`. -/
inductive RelayError where
  | missingKey
  | rejected (attempts : Nat) (lastStatus : Option Int)
  | exhausted (attempts : Nat) (lastStatus : Option Int)
  | failed (attempts : Nat) (lastStatus : Option Int)
  deriving DecidableEq

/-- `RETRYABLE_STATUS` -/
def retryableStatus : List Int := [408, 425, 429, 500, 502, 503, 504]

def idempotencyKey (event : RelayEvent) : Option Text := event.pagingToken <|> event.id

def isRetryableStatus (status : Int) : Bool := retryableStatus.contains status

namespace Delivery

def status : Delivery → Option Int
  | responded status => status
  | threw => none

/-- A 2xx response. -/
def succeeded (delivery : Delivery) : Bool :=
  delivery.status.any fun status => 200 ≤ status && status < 300

def retryable : Delivery → Bool
  | responded status => status.any isRetryableStatus
  | threw => true

end Delivery

/-- The `await` at which a call of `relay` stands, or how it ended. -/
inductive Phase where
  /-- `await this.store.has(key)`, before the store has answered -/
  | asking
  /-- The same, with the answer -/
  | answered (seen : Bool)
  /-- `await this.deliver(event)` -/
  | delivering (attempt : Nat)
  /-- `await this.store.add(key)`, before the store has added the key -/
  | adding (attempt : Nat)
  /-- The same, when the key is in the store -/
  | added (attempt : Nat)
  /-- `await this.sleep(backoff)` -/
  | sleeping (attempt backoff : Nat) (lastStatus : Option Int)
  | returned (outcome : RelayOutcome)
  | threw (error : RelayError)
  deriving DecidableEq

namespace Phase

/-- The head of the loop. -/
def enter (options : Options) (attempt : Nat) (lastStatus : Option Int) : Phase :=
  if attempt ≤ options.maxAttempts then delivering attempt
  else threw (.failed options.maxAttempts lastStatus)

/-- The body of the loop after a delivery. -/
def conclude (options : Options) (attempt : Nat) (delivery : Delivery) : Phase :=
  if delivery.succeeded then adding attempt
  else if !delivery.retryable then threw (.rejected attempt delivery.status)
  else if attempt = options.maxAttempts then threw (.exhausted attempt delivery.status)
  else
    let backoff := min (options.baseDelayMs * 2 ^ (attempt - 1)) options.maxDelayMs
    sleeping attempt backoff delivery.status

/-- Where the call stands after its next turn. -/
def next (options : Options) (key : Text) (stored : Bool) (delivery : Delivery) : Phase → Phase
  | asking => answered stored
  | answered seen => if seen then returned ⟨.duplicate, key, 0⟩ else enter options 1 none
  | delivering attempt => conclude options attempt delivery
  | adding attempt => added attempt
  | added attempt => returned ⟨.delivered, key, attempt⟩
  | sleeping attempt _ lastStatus => enter options (attempt + 1) lastStatus
  | returned outcome => returned outcome
  | threw error => threw error

def ended : Phase → Bool
  | returned _ | threw _ => true
  | _ => false

end Phase

/-- A call of `relay`. -/
structure Invocation where
  key : Text
  phase : Phase
  deriving DecidableEq

/-- `relay` up to its first `await`. -/
def relay (event : RelayEvent) : Invocation :=
  match idempotencyKey event with
  | none | some [] => ⟨[], .threw .missingKey⟩
  | some key => ⟨key, .asking⟩

/-- A call of `relayBatch`: the loop awaits a call of `relay`, or has ended. -/
inductive Batch where
  | awaiting (invocation : Nat) (rest : List RelayEvent) (outcomes : List RelayOutcome)
  | returned (outcomes : List RelayOutcome)
  | threw (error : RelayError)
  deriving DecidableEq

/-- The outcomes that the loop has pushed so far. -/
def Batch.outcomes : Batch → List RelayOutcome
  | awaiting _ _ outcomes | returned outcomes => outcomes
  | threw _ => []

/-- A delivery made by a call of `relay`. -/
structure Attempt where
  invocation : Nat
  key : Text
  delivery : Delivery
  deriving DecidableEq

/-- The relay with its store and its calls.  `attempts` is a ghost: the deliveries made so far. -/
structure WebhookRelay where
  store : List Text
  invocations : List Invocation
  batches : List Batch
  attempts : List Attempt
  deriving DecidableEq

namespace WebhookRelay

def fresh : WebhookRelay := ⟨[], [], [], []⟩

def call (state : WebhookRelay) (event : RelayEvent) : WebhookRelay :=
  { state with invocations := state.invocations ++ [relay event] }

/-- The head of the loop of `relayBatch`: the next event is relayed, if there is one. -/
def batchLoop (state : WebhookRelay) (outcomes : List RelayOutcome) :
    List RelayEvent → WebhookRelay × Batch
  | [] => (state, .returned outcomes)
  | event :: rest => (state.call event, .awaiting state.invocations.length rest outcomes)

def relayBatch (state : WebhookRelay) (events : List RelayEvent) : WebhookRelay :=
  let (state, batch) := state.batchLoop [] events
  { state with batches := state.batches ++ [batch] }

/-- One call of `relay` goes on to its next `await`, or the store serves its request. -/
def resume (options : Options) (state : WebhookRelay) (index : Nat) (delivery : Delivery) :
    WebhookRelay :=
  match state.invocations[index]? with
  | none => state
  | some invocation =>
      { state with
        invocations := state.invocations.set index { invocation with
          phase := invocation.phase.next options invocation.key
            (state.store.contains invocation.key) delivery }
        store :=
          match invocation.phase with
          | .adding _ => invocation.key :: state.store
          | _ => state.store
        attempts :=
          match invocation.phase with
          | .delivering _ => state.attempts ++ [⟨index, invocation.key, delivery⟩]
          | _ => state.attempts }

/-- How a call of `relay` has ended. -/
def result (state : WebhookRelay) (index : Nat) : Option Phase :=
  (state.invocations[index]?.map Invocation.phase).filter Phase.ended

/-- One call of `relayBatch` goes on when the call of `relay` that it awaits has ended. -/
def resumeBatch (state : WebhookRelay) (index : Nat) : WebhookRelay :=
  match state.batches[index]? with
  | some (.awaiting invocation rest outcomes) =>
      match state.result invocation with
      | some (.returned outcome) =>
          let (state, batch) := state.batchLoop (outcomes ++ [outcome]) rest
          { state with batches := state.batches.set index batch }
      | some (.threw error) => { state with batches := state.batches.set index (.threw error) }
      | _ => state
  | _ => state

end WebhookRelay

/-- A turn of the event loop or of the store. -/
inductive Turn where
  | relay (event : RelayEvent)
  | relayBatch (events : List RelayEvent)
  | resume (index : Nat) (delivery : Delivery)
  | resumeBatch (index : Nat)
  deriving DecidableEq

def WebhookRelay.take (options : Options) (state : WebhookRelay) : Turn → WebhookRelay
  | .relay event => state.call event
  | .relayBatch events => state.relayBatch events
  | .resume index delivery => state.resume options index delivery
  | .resumeBatch index => state.resumeBatch index

/-- The event for which a turn calls `relay`. -/
def WebhookRelay.opens (state : WebhookRelay) : Turn → Option RelayEvent
  | .relay event => some event
  | .relayBatch events => events.head?
  | .resume _ _ => none
  | .resumeBatch index =>
      match state.batches[index]? with
      | some (.awaiting invocation (event :: _) _) =>
          match state.result invocation with
          | some (.returned _) => some event
          | _ => none
      | _ => none

end Relay

end LumenFlow

import Mathlib.Data.List.Count
import LumenFlow.Relay.Interleaving

/-!
# At-least-once delivery

A key enters the store, and a call reports its event, only after the endpoint has taken the event
with a 2xx response.  This holds for every interleaving of calls.  Calls for one key that do not
overlap obtain at most one such response.
-/

namespace LumenFlow

open Kit

namespace Relay

/-- Some delivery of the key got a 2xx response. -/
def WebhookRelay.Delivered (state : WebhookRelay) (key : Text) : Prop :=
  ∃ attempt ∈ state.attempts, attempt.key = key ∧ attempt.delivery.succeeded = true

/-- The deliveries that a call has made, in order. -/
def WebhookRelay.made (state : WebhookRelay) (index : Nat) : List Delivery :=
  (state.attempts.filter (·.invocation = index)).map Attempt.delivery

/-- The 2xx responses for a key. -/
def WebhookRelay.successes (state : WebhookRelay) (key : Text) : Nat :=
  state.attempts.countP fun attempt => attempt.key = key ∧ attempt.delivery.succeeded = true

/-- What the relay promises whatever its calls do. -/
structure NeverDrops (options : Options) (state : WebhookRelay) : Prop where
  stored : ∀ key ∈ state.store, state.Delivered key
  returned : ∀ invocation ∈ state.invocations, ∀ outcome,
    invocation.phase = .returned outcome →
      outcome.key = invocation.key ∧ state.Delivered invocation.key
  collected : ∀ batch ∈ state.batches, ∀ outcome ∈ batch.outcomes, state.Delivered outcome.key
  limited : ∀ index, (state.made index).length ≤ options.maxAttempts
  stops : ∀ index, ∀ delivery ∈ (state.made index).dropLast, delivery.retryable = true

/-- The turn does not call `relay` for a key for which another call has not ended. -/
def Apart (state : WebhookRelay) (turn : Turn) : Prop :=
  ∀ event ∈ state.opens turn, ∀ invocation ∈ state.invocations,
    idempotencyKey event = some invocation.key → invocation.phase.ended = true

instance (state : WebhookRelay) : DecidablePred (Apart state) := fun _ =>
  inferInstanceAs (Decidable (∀ event ∈ _, ∀ invocation ∈ state.invocations, _ → _))

/-! ## One call -/

namespace Phase

/-- The phase tells that the key has been delivered. -/
def vouches : Phase → Bool
  | answered seen => seen
  | adding _ | added _ | returned _ => true
  | asking | delivering _ | sleeping _ _ _ | threw _ => false

/-- The phase may lead to a delivery without another look at the store. -/
def committed : Phase → Bool
  | answered seen => !seen
  | delivering _ | sleeping _ _ _ => true
  | asking | adding _ | added _ | returned _ | threw _ => false

/-- The deliveries that a call has made when it stands at the phase. -/
def Fits (options : Options) (made : List Delivery) : Phase → Prop
  | asking | answered _ => made = []
  | delivering attempt =>
      made.length + 1 = attempt ∧ attempt ≤ options.maxAttempts ∧
        ∀ delivery ∈ made, delivery.retryable = true
  | sleeping attempt _ _ =>
      made.length = attempt ∧ attempt ≤ options.maxAttempts ∧
        ∀ delivery ∈ made, delivery.retryable = true
  | adding _ | added _ | returned _ | threw _ =>
      made.length ≤ options.maxAttempts ∧ ∀ delivery ∈ made.dropLast, delivery.retryable = true

/-- The delivery that a turn of the call makes. -/
def makes (delivery : Delivery) : Phase → List Delivery
  | delivering _ => [delivery]
  | _ => []

section

variable {options : Options} {made : List Delivery} {phase : Phase} {key : Text} {stored : Bool}
  {delivery : Delivery} {attempt : Nat} {lastStatus : Option Int}

theorem Fits.limited (fits : phase.Fits options made) : made.length ≤ options.maxAttempts := by
  cases phase with
  | asking | answered =>
      obtain rfl : made = [] := fits
      exact Nat.zero_le _
  | delivering =>
      obtain ⟨rfl, limited, _⟩ := fits
      exact (Nat.le_succ _).trans limited
  | sleeping => exact fits.1 ▸ fits.2.1
  | adding | added | returned | threw => exact fits.1

theorem Fits.stops (fits : phase.Fits options made) :
    ∀ delivery ∈ made.dropLast, delivery.retryable = true := by
  intro delivery member
  cases phase with
  | asking | answered =>
      obtain rfl : made = [] := fits
      cases member
  | delivering | sleeping => exact fits.2.2 delivery (List.dropLast_subset made member)
  | adding | added | returned | threw => exact fits.2 delivery member

theorem fits_enter (retryable : ∀ delivery ∈ made, delivery.retryable = true)
    (limited : made.length ≤ options.maxAttempts) :
    (enter options (made.length + 1) lastStatus).Fits options made := by
  unfold enter
  split_ifs with more
  · exact ⟨rfl, more, retryable⟩
  · exact ⟨limited, fun delivery member => retryable delivery (List.dropLast_subset made member)⟩

theorem fits_conclude (fits : (Phase.delivering attempt).Fits options made)
    (delivery : Delivery) :
    (conclude options attempt delivery).Fits options (made ++ [delivery]) := by
  obtain ⟨count, limited, retryable⟩ := fits
  have length : (made ++ [delivery]).length = attempt := by simpa using count
  have before : ∀ earlier ∈ (made ++ [delivery]).dropLast, earlier.retryable = true := by
    simpa using retryable
  unfold conclude
  split_ifs with succeeded rejected last
  · exact ⟨length ▸ limited, before⟩
  · exact ⟨length ▸ limited, before⟩
  · exact ⟨length ▸ limited, before⟩
  · refine ⟨length, limited, ?_⟩
    intro other member
    rcases List.mem_append.mp member with earlier | this
    · exact retryable other earlier
    · rw [List.mem_singleton.mp this]
      simpa using rejected

theorem Fits.next (fits : phase.Fits options made) (key : Text) (stored : Bool)
    (delivery : Delivery) :
    (phase.next options key stored delivery).Fits options (made ++ phase.makes delivery) := by
  cases phase with
  | asking =>
      obtain rfl : made = [] := fits
      exact rfl
  | answered seen =>
      obtain rfl : made = [] := fits
      cases seen with
      | true => exact ⟨Nat.zero_le _, nofun⟩
      | false => exact fits_enter nofun (Nat.zero_le _)
  | delivering attempt => exact fits_conclude fits delivery
  | sleeping attempt backoff lastStatus =>
      obtain ⟨rfl, limited, retryable⟩ := fits
      simpa [makes, next] using fits_enter retryable limited
  | adding | added | returned | threw =>
      simp only [makes, List.append_nil]
      exact fits

@[simp]
theorem vouches_enter : (enter options attempt lastStatus).vouches = false := by
  unfold enter
  split <;> rfl

@[simp]
theorem vouches_conclude : (conclude options attempt delivery).vouches = delivery.succeeded := by
  unfold conclude
  split_ifs with succeeded <;> simp [vouches, succeeded]

/-- The phase vouches for the key after a look at the store or after a 2xx response. -/
theorem vouches_next (vouches : (phase.next options key stored delivery).vouches = true) :
    phase.vouches = true ∨ phase = .asking ∧ stored = true ∨
      delivery.succeeded = true ∧ phase.makes delivery = [delivery] := by
  cases phase with
  | asking => exact .inr (.inl ⟨rfl, vouches⟩)
  | answered seen =>
      cases seen with
      | true => exact .inl rfl
      | false => simp [next] at vouches
  | delivering attempt => exact .inr (.inr ⟨by simpa [next] using vouches, rfl⟩)
  | sleeping attempt backoff lastStatus => simp [next] at vouches
  | adding | added | returned => exact .inl rfl
  | threw => cases vouches

theorem returned_next {outcome : RelayOutcome}
    (before : ∀ outcome, phase = .returned outcome → outcome.key = key)
    (returned : phase.next options key stored delivery = .returned outcome) :
    outcome.key = key := by
  cases phase with
  | answered seen =>
      cases seen with
      | true =>
          cases returned
          rfl
      | false =>
          simp only [next, enter, Bool.false_eq_true, if_false] at returned
          split_ifs at returned
  | delivering attempt =>
      simp only [next, conclude] at returned
      split_ifs at returned
  | sleeping attempt backoff lastStatus =>
      simp only [next, enter] at returned
      split_ifs at returned
  | added attempt =>
      cases returned
      rfl
  | returned other => exact before outcome returned
  | asking | adding | threw => cases returned

end

end Phase

/-! ## Any interleaving -/

/-- What every turn keeps. -/
structure WebhookRelay.Sound (options : Options) (state : WebhookRelay) : Prop where
  stored : ∀ key ∈ state.store, state.Delivered key
  vouched : ∀ invocation ∈ state.invocations, invocation.phase.vouches = true →
    state.Delivered invocation.key
  keyed : ∀ invocation ∈ state.invocations, ∀ outcome,
    invocation.phase = .returned outcome → outcome.key = invocation.key
  collected : ∀ batch ∈ state.batches, ∀ outcome ∈ batch.outcomes, state.Delivered outcome.key
  fits : ∀ (index : Nat) (invocation : Invocation), state.invocations[index]? = some invocation →
    invocation.phase.Fits options (state.made index)
  unmade : ∀ index : Nat, state.invocations[index]? = none → state.made index = []

namespace WebhookRelay

section Turns

variable {options : Options} {state : WebhookRelay} {index : Nat} {key : Text}
  {invocation : Invocation} {delivery : Delivery} {event : RelayEvent}

/-- What a call that goes on adds to the deliveries. -/
def attempted (invocation : Invocation) (index : Nat) (delivery : Delivery) : List Attempt :=
  (invocation.phase.makes delivery).map fun delivery => ⟨index, invocation.key, delivery⟩

theorem resume_eq (found : state.invocations[index]? = some invocation) :
    state.resume options index delivery =
      { state with
        invocations := state.invocations.set index { invocation with
          phase := invocation.phase.next options invocation.key
            (state.store.contains invocation.key) delivery }
        store :=
          match invocation.phase with
          | .adding _ => invocation.key :: state.store
          | _ => state.store
        attempts := state.attempts ++ attempted invocation index delivery } := by
  obtain ⟨key, phase⟩ := invocation
  unfold resume attempted
  rw [found]
  cases phase <;> simp [Phase.makes]

theorem mem_store_resume (found : state.invocations[index]? = some invocation)
    (stored : key ∈ (state.resume options index delivery).store) :
    key ∈ state.store ∨ key = invocation.key ∧ ∃ attempt, invocation.phase = .adding attempt := by
  rw [resume_eq found] at stored
  split at stored
  · next attempt adding =>
      rcases List.mem_cons.mp stored with rfl | before
      · exact .inr ⟨rfl, attempt, adding⟩
      · exact .inl before
  · exact .inl stored

theorem Delivered.mono {attempts : List Attempt} (delivered : state.Delivered key)
    {next : WebhookRelay} (longer : next.attempts = state.attempts ++ attempts) :
    next.Delivered key := by
  obtain ⟨attempt, member, same, succeeded⟩ := delivered
  exact ⟨attempt, longer ▸ List.mem_append_left _ member, same, succeeded⟩

theorem made_resume (found : state.invocations[index]? = some invocation) (other : Nat) :
    (state.resume options index delivery).made other =
      state.made other ++ if index = other then invocation.phase.makes delivery else [] := by
  rw [resume_eq found]
  simp only [made, attempted, List.filter_append, List.map_append]
  congr 1
  split_ifs with same
  · simp [List.filter_map, same, Function.comp_def]
  · simp [List.filter_map, same, Function.comp_def]

theorem relay_phase (event : RelayEvent) :
    (relay event).phase = .threw .missingKey ∨
      (relay event).phase = .asking ∧ idempotencyKey event = some (relay event).key := by
  unfold relay
  split
  · exact .inl rfl
  · exact .inl rfl
  · next key found => exact .inr ⟨rfl, found⟩

theorem Sound.call (sound : state.Sound options) (event : RelayEvent) :
    (state.call event).Sound options := by
  constructor
  · exact sound.stored
  · intro invocation member vouches
    rcases List.mem_append.mp member with before | new
    · exact sound.vouched invocation before vouches
    · rw [List.mem_singleton.mp new] at vouches
      rcases relay_phase event with phase | ⟨phase, _⟩ <;> rw [phase] at vouches <;> cases vouches
  · intro invocation member outcome returned
    rcases List.mem_append.mp member with before | new
    · exact sound.keyed invocation before outcome returned
    · rw [List.mem_singleton.mp new] at returned
      rcases relay_phase event with phase | ⟨phase, _⟩ <;> rw [phase] at returned <;> cases returned
  · exact sound.collected
  · intro index invocation found
    by_cases old : index < state.invocations.length
    · rw [WebhookRelay.call, List.getElem?_append_left old] at found
      exact sound.fits index invocation found
    · have none : state.made index = [] :=
        sound.unmade index (List.getElem?_eq_none (not_lt.mp old))
      rw [WebhookRelay.call, List.getElem?_append_right (not_lt.mp old)] at found
      obtain rfl := List.mem_singleton.mp (List.mem_of_getElem? found)
      rw [show (state.call event).made index = [] from none]
      rcases relay_phase event with phase | ⟨phase, _⟩
      · rw [phase]
        exact ⟨Nat.zero_le _, nofun⟩
      · rw [phase]
        exact rfl
  · intro index beyond
    apply sound.unmade
    rw [List.getElem?_eq_none_iff] at beyond ⊢
    exact (by simp [WebhookRelay.call] : state.invocations.length ≤ _).trans beyond

theorem Sound.withBatches (sound : state.Sound options) {batches : List Batch}
    (collected : ∀ batch ∈ batches, ∀ outcome ∈ batch.outcomes, state.Delivered outcome.key) :
    ({ state with batches } : WebhookRelay).Sound options :=
  ⟨sound.stored, sound.vouched, sound.keyed, collected, sound.fits, sound.unmade⟩

@[simp]
theorem batchLoop_outcomes (state : WebhookRelay) (outcomes : List RelayOutcome)
    (rest : List RelayEvent) : (state.batchLoop outcomes rest).2.outcomes = outcomes := by
  cases rest <;> rfl

@[simp]
theorem batchLoop_batches (state : WebhookRelay) (outcomes : List RelayOutcome)
    (rest : List RelayEvent) : (state.batchLoop outcomes rest).1.batches = state.batches := by
  cases rest <;> rfl

@[simp]
theorem batchLoop_attempts (state : WebhookRelay) (outcomes : List RelayOutcome)
    (rest : List RelayEvent) : (state.batchLoop outcomes rest).1.attempts = state.attempts := by
  cases rest <;> rfl

theorem Sound.batchLoop (sound : state.Sound options) (outcomes : List RelayOutcome)
    (rest : List RelayEvent) : (state.batchLoop outcomes rest).1.Sound options := by
  cases rest with
  | nil => exact sound
  | cons event rest => exact sound.call event

theorem delivered_batchLoop {outcomes : List RelayOutcome} {rest : List RelayEvent} :
    (state.batchLoop outcomes rest).1.Delivered key ↔ state.Delivered key := by
  simp [Delivered]

theorem Sound.relayBatch (sound : state.Sound options) (events : List RelayEvent) :
    (state.relayBatch events).Sound options := by
  apply (sound.batchLoop [] events).withBatches
  intro batch member outcome pushed
  change batch ∈ (state.batchLoop [] events).1.batches ++ [(state.batchLoop [] events).2] at member
  rw [batchLoop_batches] at member
  rcases List.mem_append.mp member with before | new
  · exact delivered_batchLoop.mpr (sound.collected batch before outcome pushed)
  · rw [List.mem_singleton.mp new, batchLoop_outcomes] at pushed
    cases pushed

theorem result_eq_some {phase : Phase} (result : state.result index = some phase) :
    ∃ invocation ∈ state.invocations, invocation.phase = phase ∧ phase.ended = true := by
  obtain ⟨stands, ended⟩ := Option.filter_eq_some_iff.mp result
  obtain ⟨invocation, found, same⟩ := Option.map_eq_some_iff.mp stands
  exact ⟨invocation, List.mem_of_getElem? found, same, ended⟩

theorem Sound.resumeBatch (sound : state.Sound options) (index : Nat) :
    (state.resumeBatch index).Sound options := by
  unfold WebhookRelay.resumeBatch
  split
  · next invocation rest outcomes found =>
      have kept : ∀ outcome ∈ outcomes, state.Delivered outcome.key :=
        sound.collected _ (List.mem_of_getElem? found)
      split
      · next outcome result =>
          apply (sound.batchLoop (outcomes ++ [outcome]) rest).withBatches
          intro batch member other pushed
          change batch ∈ (state.batchLoop (outcomes ++ [outcome]) rest).1.batches.set index
            (state.batchLoop (outcomes ++ [outcome]) rest).2 at member
          rw [batchLoop_batches] at member
          apply delivered_batchLoop.mpr
          rcases List.mem_or_eq_of_mem_set member with before | rfl
          · exact sound.collected batch before other pushed
          · rw [batchLoop_outcomes] at pushed
            rcases List.mem_append.mp pushed with before | new
            · exact kept other before
            · obtain ⟨invocation, member, returned, _⟩ := result_eq_some result
              rw [List.mem_singleton.mp new, sound.keyed invocation member outcome returned]
              exact sound.vouched invocation member (by rw [returned]; rfl)
      · apply sound.withBatches
        intro batch member outcome pushed
        rcases List.mem_or_eq_of_mem_set member with before | rfl
        · exact sound.collected batch before outcome pushed
        · cases pushed
      · exact sound
  · exact sound

theorem attempts_resume (found : state.invocations[index]? = some invocation) :
    (state.resume options index delivery).attempts =
      state.attempts ++ attempted invocation index delivery := by
  rw [resume_eq found]

theorem mem_resume (found : state.invocations[index]? = some invocation) {other : Invocation}
    (member : other ∈ (state.resume options index delivery).invocations) :
    other ∈ state.invocations ∨ other = { invocation with
      phase := invocation.phase.next options invocation.key
        (state.store.contains invocation.key) delivery } := by
  rw [resume_eq found] at member
  exact List.mem_or_eq_of_mem_set member

/-- A turn that lets the call vouch for its key follows a delivery of it. -/
theorem Sound.vouched_next (sound : state.Sound options)
    (found : state.invocations[index]? = some invocation)
    (vouches : (invocation.phase.next options invocation.key
      (state.store.contains invocation.key) delivery).vouches = true) :
    (state.resume options index delivery).Delivered invocation.key := by
  have member := List.mem_of_getElem? found
  have longer : (state.resume options index delivery).attempts =
      state.attempts ++ attempted invocation index delivery := attempts_resume found
  rcases Phase.vouches_next vouches with already | ⟨_, stored⟩ | ⟨succeeded, makes⟩
  · exact (sound.vouched invocation member already).mono longer
  · exact (sound.stored _ (List.contains_iff_mem.mp stored)).mono longer
  · refine ⟨⟨index, invocation.key, delivery⟩, ?_, rfl, succeeded⟩
    rw [longer, attempted, makes]
    simp

theorem Sound.fits_resume (sound : state.Sound options)
    (found : state.invocations[index]? = some invocation) {other : Nat} {advancing : Invocation}
    (here : (state.resume options index delivery).invocations[other]? = some advancing) :
    advancing.phase.Fits options ((state.resume options index delivery).made other) := by
  obtain ⟨inside, _⟩ := List.getElem?_eq_some_iff.mp found
  rw [made_resume found]
  rw [resume_eq found] at here
  by_cases same : index = other
  · subst same
    rw [List.getElem?_set_self inside] at here
    obtain rfl := Option.some.inj here
    rw [if_pos rfl]
    exact (sound.fits index invocation found).next _ _ delivery
  · rw [if_neg same, List.append_nil]
    exact sound.fits other advancing ((List.getElem?_set_ne same).symm.trans here)

theorem Sound.resume (sound : state.Sound options) (index : Nat) (delivery : Delivery) :
    (state.resume options index delivery).Sound options := by
  cases found : state.invocations[index]? with
  | none => simpa [WebhookRelay.resume, found] using sound
  | some invocation =>
      have member := List.mem_of_getElem? found
      have longer : (state.resume options index delivery).attempts =
          state.attempts ++ attempted invocation index delivery := attempts_resume found
      constructor
      · intro key stored
        rcases mem_store_resume found stored with before | ⟨rfl, attempt, adding⟩
        · exact (sound.stored key before).mono longer
        · exact (sound.vouched invocation member (by rw [adding]; rfl)).mono longer
      · intro other other_member vouches
        rcases mem_resume found other_member with before | rfl
        · exact (sound.vouched other before vouches).mono longer
        · show (state.resume options index delivery).Delivered invocation.key
          exact sound.vouched_next found vouches
      · intro other other_member outcome returned
        rcases mem_resume found other_member with before | rfl
        · exact sound.keyed other before outcome returned
        · exact Phase.returned_next (sound.keyed invocation member) returned
      · intro batch batch_member outcome pushed
        rw [resume_eq found] at batch_member
        exact (sound.collected batch batch_member outcome pushed).mono longer
      · intro other advancing
        exact sound.fits_resume found
      · intro other beyond
        obtain ⟨inside, _⟩ := List.getElem?_eq_some_iff.mp found
        rw [made_resume found]
        rw [resume_eq found, List.getElem?_eq_none_iff, List.length_set] at beyond
        rw [if_neg (by omega), List.append_nil]
        exact sound.unmade other (List.getElem?_eq_none beyond)

theorem Sound.take (sound : state.Sound options) (turn : Turn) :
    (state.take options turn).Sound options := by
  cases turn with
  | relay event => exact sound.call event
  | relayBatch events => exact sound.relayBatch events
  | resume index delivery => exact sound.resume index delivery
  | resumeBatch index => exact sound.resumeBatch index

theorem sound_fresh (options : Options) : fresh.Sound options :=
  ⟨nofun, nofun, nofun, nofun, fun _ _ found => by simp [fresh] at found, fun _ _ => rfl⟩

theorem Sound.neverDrops (sound : state.Sound options) : NeverDrops options state := by
  refine ⟨sound.stored, ?_, sound.collected, ?_, ?_⟩
  · intro invocation member outcome returned
    exact ⟨sound.keyed invocation member outcome returned,
      sound.vouched invocation member (by rw [returned]; rfl)⟩
  · intro index
    cases found : state.invocations[index]? with
    | none => simp [sound.unmade index found]
    | some invocation => exact (sound.fits index invocation found).limited
  · intro index
    cases found : state.invocations[index]? with
    | none => simp [sound.unmade index found]
    | some invocation => exact (sound.fits index invocation found).stops

end Turns

end WebhookRelay

theorem run_sound (options : Options) (turns : List Turn) :
    (run (WebhookRelay.take options) .fresh turns).Sound options :=
  run_invariant (fun _ turn sound => sound.take turn) (WebhookRelay.sound_fresh options) turns

end Relay

end LumenFlow

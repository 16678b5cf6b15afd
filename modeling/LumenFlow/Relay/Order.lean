import LumenFlow.Kit.Pairing
import LumenFlow.Relay.AtLeastOnce

/-!
# Batches in order

A batch relays its events one after another.  Whatever other calls and batches do meanwhile, its
deliveries come in the order of its events, the next call starts only when the call before it has
returned, and a call that throws is the last one of its batch.
-/

namespace LumenFlow

open Kit

namespace Relay

/-- The call has been opened for the event. -/
def Invocation.IsFor (invocation : Invocation) (event : RelayEvent) : Prop :=
  invocation.key = (relay event).key ∧
    ((relay event).phase.ended = true → invocation.phase = (relay event).phase)

namespace WebhookRelay

/-- The call at the index is for the event. -/
def Calls (state : WebhookRelay) (event : RelayEvent) (index : Nat) : Prop :=
  ∃ invocation, state.invocations[index]? = some invocation ∧ invocation.IsFor event

def Returned (state : WebhookRelay) (index : Nat) (outcome : RelayOutcome) : Prop :=
  state.result index = some (.returned outcome)

/-- The outcome names the event, which some delivery has brought to the endpoint. -/
def Settles (state : WebhookRelay) (event : RelayEvent) (outcome : RelayOutcome) : Prop :=
  idempotencyKey event = some outcome.key ∧ state.Delivered outcome.key

/-- The calls start in order, and their deliveries keep to this order. -/
structure OneAtATime (state : WebhookRelay) (calls : List Nat) : Prop where
  ascending : calls.Pairwise (· < ·)
  ordered : ((state.attempts.map Attempt.invocation).filter (· ∈ calls)).Pairwise (· ≤ ·)

end WebhookRelay

/-- A batch for the events stands where its calls have brought it. -/
def Batch.Follows (state : WebhookRelay) (events : List RelayEvent) (calls : List Nat) :
    Batch → Prop
  | awaiting index rest outcomes => ∃ begun before,
      events = begun ++ rest ∧ calls = before ++ [index] ∧
        List.Forall₂ state.Calls begun calls ∧ List.Forall₂ state.Returned before outcomes
  | returned outcomes =>
      List.Forall₂ state.Calls events calls ∧ List.Forall₂ state.Returned calls outcomes
  | threw error => ∃ begun rest before index,
      events = begun ++ rest ∧ calls = before ++ [index] ∧
        List.Forall₂ state.Calls begun calls ∧
        (∀ call ∈ before, ∃ outcome, state.Returned call outcome) ∧
        state.result index = some (.threw error)

/-- A batch relays its events in order. -/
def Batch.InOrder (state : WebhookRelay) (events : List RelayEvent) (batch : Batch) : Prop :=
  ∃ calls, batch.Follows state events calls ∧ state.OneAtATime calls

/-- The lists of events for which `relayBatch` is called. -/
def batchesOf (turns : List Turn) : List (List RelayEvent) :=
  turns.filterMap fun
    | .relayBatch events => some events
    | _ => none

/-! ## What other turns keep -/

/-- Calls go on to where they end, and only calls that have not ended make deliveries. -/
structure WebhookRelay.Onward (state next : WebhookRelay) : Prop where
  kept : ∀ (index : Nat) (invocation : Invocation), state.invocations[index]? = some invocation →
    ∃ later, next.invocations[index]? = some later ∧ later.key = invocation.key ∧
      (invocation.phase.ended = true → later.phase = invocation.phase)
  attempts : ∃ added, next.attempts = state.attempts ++ added ∧
    ∀ attempt ∈ added, state.result attempt.invocation = none

namespace WebhookRelay

section Turns

variable {options : Options} {state next : WebhookRelay} {index : Nat} {event : RelayEvent}
  {events rest : List RelayEvent} {calls before : List Nat} {outcome : RelayOutcome}
  {outcomes : List RelayOutcome} {invocation : Invocation} {delivery : Delivery} {batch : Batch}
  {phase : Phase}

theorem result_eq_some_iff : state.result index = some phase ↔
    ∃ invocation, state.invocations[index]? = some invocation ∧ invocation.phase = phase ∧
      phase.ended = true := by
  simp only [result, Option.filter_eq_some_iff, Option.map_eq_some_iff]
  exact ⟨fun ⟨⟨invocation, found, same⟩, ended⟩ => ⟨invocation, found, same, ended⟩,
    fun ⟨invocation, found, same, ended⟩ => ⟨⟨invocation, found, same⟩, ended⟩⟩

theorem result_eq_none (found : state.invocations[index]? = some invocation)
    (active : invocation.phase.ended = false) : state.result index = none := by
  simp [result, found, active]

theorem onward_call (state : WebhookRelay) (event : RelayEvent) :
    state.Onward (state.call event) := by
  constructor
  · intro index invocation found
    obtain ⟨inside, _⟩ := List.getElem?_eq_some_iff.mp found
    exact ⟨invocation, (List.getElem?_append_left inside).trans found, rfl, fun _ => rfl⟩
  · exact ⟨[], (List.append_nil _).symm, nofun⟩

theorem onward_refl (state : WebhookRelay) : state.Onward state := by
  constructor
  · intro index invocation found
    exact ⟨invocation, found, rfl, fun _ => rfl⟩
  · exact ⟨[], (List.append_nil _).symm, nofun⟩

theorem onward_batchLoop (state : WebhookRelay) (outcomes : List RelayOutcome)
    (rest : List RelayEvent) : state.Onward (state.batchLoop outcomes rest).1 := by
  cases rest with
  | nil => exact onward_refl state
  | cons event rest => exact onward_call state event

theorem Onward.withBatches (onward : state.Onward next) (batches : List Batch) :
    state.Onward { next with batches } :=
  ⟨onward.kept, onward.attempts⟩

theorem next_of_ended {phase : Phase} (ended : phase.ended = true) (options : Options)
    (key : Text) (stored : Bool) (delivery : Delivery) :
    phase.next options key stored delivery = phase ∧ phase.makes delivery = [] := by
  cases phase with
  | returned | threw => exact ⟨rfl, rfl⟩
  | asking | answered | delivering | adding | added | sleeping => cases ended

theorem onward_resume (options : Options) (state : WebhookRelay) (index : Nat)
    (delivery : Delivery) : state.Onward (state.resume options index delivery) := by
  cases found : state.invocations[index]? with
  | none =>
      rw [show state.resume options index delivery = state by simp [resume, found]]
      exact onward_refl state
  | some invocation =>
      obtain ⟨inside, _⟩ := List.getElem?_eq_some_iff.mp found
      rw [resume_eq found]
      constructor
      · intro other standing lookup
        by_cases same : index = other
        · subst same
          obtain rfl := Option.some.inj (found.symm.trans lookup)
          refine ⟨_, List.getElem?_set_self inside, rfl, ?_⟩
          intro ended
          exact (next_of_ended ended options _ _ delivery).1
        · exact ⟨standing, (List.getElem?_set_ne same).trans lookup, rfl, fun _ => rfl⟩
      · refine ⟨attempted invocation index delivery, rfl, ?_⟩
        intro attempt added
        obtain ⟨made, makes, rfl⟩ := List.mem_map.mp added
        apply result_eq_none found
        by_contra active
        have none := (next_of_ended (by simpa using active) options [] false delivery).2
        rw [none] at makes
        cases makes

theorem Calls.mono (calls : state.Calls event index) (onward : state.Onward next) :
    next.Calls event index := by
  obtain ⟨invocation, found, key, ended⟩ := calls
  obtain ⟨later, here, same, stays⟩ := onward.kept index invocation found
  refine ⟨later, here, same.trans key, ?_⟩
  intro at_once
  have phase := ended at_once
  exact (stays (phase ▸ at_once)).trans phase

theorem Onward.result (onward : state.Onward next) (ended : state.result index = some phase) :
    next.result index = some phase := by
  obtain ⟨invocation, found, rfl, done⟩ := result_eq_some_iff.mp ended
  obtain ⟨later, here, _, stays⟩ := onward.kept index invocation found
  exact result_eq_some_iff.mpr ⟨later, here, stays done, done⟩

theorem Onward.follows (onward : state.Onward next) (follows : batch.Follows state events calls) :
    batch.Follows next events calls := by
  cases batch with
  | awaiting index rest outcomes =>
      obtain ⟨begun, before, split, split_calls, opened, returned⟩ := follows
      exact ⟨begun, before, split, split_calls, opened.imp fun _ _ calls => calls.mono onward,
        returned.imp fun _ _ ended => onward.result ended⟩
  | returned outcomes =>
      exact ⟨follows.1.imp fun _ _ calls => calls.mono onward,
        follows.2.imp fun _ _ ended => onward.result ended⟩
  | threw error =>
      obtain ⟨begun, rest, before, index, split, split_calls, opened, returned, threw⟩ := follows
      refine ⟨begun, rest, before, index, split, split_calls,
        opened.imp fun _ _ calls => calls.mono onward, ?_, onward.result threw⟩
      intro call earlier
      obtain ⟨outcome, ended⟩ := returned call earlier
      exact ⟨outcome, onward.result ended⟩

theorem Follows.ended (follows : batch.Follows state events calls) :
    ∀ call ∈ calls.dropLast, state.result call ≠ none := by
  intro call member
  cases batch with
  | awaiting index rest outcomes =>
      obtain ⟨begun, before, _, rfl, _, returned⟩ := follows
      rw [List.dropLast_concat] at member
      obtain ⟨outcome, ended⟩ := exists_of_forall₂ returned member
      rw [ended]
      exact nofun
  | returned outcomes =>
      obtain ⟨outcome, ended⟩ := exists_of_forall₂ follows.2 (List.dropLast_subset calls member)
      rw [ended]
      exact nofun
  | threw error =>
      obtain ⟨begun, rest, before, index, _, rfl, _, returned, _⟩ := follows
      rw [List.dropLast_concat] at member
      obtain ⟨outcome, ended⟩ := returned call member
      rw [ended]
      exact nofun

theorem le_last {calls : List Nat} {call last : Nat} (ascending : calls.Pairwise (· < ·))
    (member : call ∈ calls) (latest : last ∈ calls) (final : last ∉ calls.dropLast) :
    call ≤ last := by
  have split : calls.dropLast ++ [last] = calls := by
    have inhabited : calls ≠ [] := List.ne_nil_of_mem latest
    have whole := List.dropLast_append_getLast inhabited
    rw [← whole] at latest
    rcases List.mem_append.mp latest with earlier | here
    · exact absurd earlier final
    · rwa [List.mem_singleton.mp here]
  rw [← split] at member ascending
  rcases List.mem_append.mp member with earlier | here
  · exact ((List.pairwise_append.mp ascending).2.2 call earlier last (List.mem_singleton_self _)).le
  · exact (List.mem_singleton.mp here).le

/-- Deliveries of the last call keep the deliveries of a batch in order. -/
theorem Onward.oneAtATime (onward : state.Onward next)
    (ended : ∀ call ∈ calls.dropLast, state.result call ≠ none)
    (inOrder : state.OneAtATime calls) : next.OneAtATime calls := by
  obtain ⟨added, longer, active⟩ := onward.attempts
  -- each new delivery of the batch belongs to its last call
  have last : ∀ call ∈ (added.map Attempt.invocation).filter (· ∈ calls),
      call ∈ calls ∧ call ∉ calls.dropLast := by
    intro call member
    obtain ⟨made, within⟩ := List.mem_filter.mp member
    obtain ⟨attempt, attempt_added, rfl⟩ := List.mem_map.mp made
    exact ⟨of_decide_eq_true within,
      fun earlier => ended _ earlier (active attempt attempt_added)⟩
  refine ⟨inOrder.ascending, ?_⟩
  rw [longer, List.map_append, List.filter_append, List.pairwise_append]
  refine ⟨inOrder.ordered, ?_, ?_⟩
  · apply List.pairwise_of_forall_mem_list
    intro first first_made second second_made
    exact le_last inOrder.ascending (last first first_made).1 (last second second_made).1
      (last second second_made).2
  · intro first earlier second later
    exact le_last inOrder.ascending (of_decide_eq_true (List.mem_filter.mp earlier).2)
      (last second later).1 (last second later).2

theorem Onward.inOrder (onward : state.Onward next) (inOrder : batch.InOrder state events) :
    batch.InOrder next events := by
  obtain ⟨calls, follows, oneAtATime⟩ := inOrder
  exact ⟨calls, onward.follows follows, onward.oneAtATime (Follows.ended follows) oneAtATime⟩

theorem InOrder.withBatches (inOrder : batch.InOrder state events) (batches : List Batch) :
    batch.InOrder { state with batches } events :=
  ((onward_refl state).withBatches batches).inOrder inOrder

/-! ## The turns of a batch -/

theorem calls_new (state : WebhookRelay) (event : RelayEvent) :
    (state.call event).Calls event state.invocations.length :=
  ⟨relay event, by simp [call], rfl, fun _ => rfl⟩

theorem oneAtATime_nil (state : WebhookRelay) : state.OneAtATime [] :=
  ⟨.nil, by simp⟩

theorem Calls.inside (calls : state.Calls event index) : index < state.invocations.length := by
  obtain ⟨invocation, found, _⟩ := calls
  exact (List.getElem?_eq_some_iff.mp found).1

theorem OneAtATime.call (oneAtATime : state.OneAtATime calls) (sound : state.Sound options)
    (inside : ∀ call ∈ calls, call < state.invocations.length) (event : RelayEvent) :
    (state.call event).OneAtATime (calls ++ [state.invocations.length]) := by
  have none : ∀ attempt ∈ state.attempts, attempt.invocation ≠ state.invocations.length := by
    intro attempt member own
    have unmade := sound.unmade state.invocations.length (by simp)
    rw [made, List.map_eq_nil_iff, List.filter_eq_nil_iff] at unmade
    exact unmade attempt member (decide_eq_true own)
  constructor
  · rw [List.pairwise_append]
    refine ⟨oneAtATime.ascending, List.pairwise_singleton _ _, ?_⟩
    intro earlier member last new
    rw [List.mem_singleton.mp new]
    exact inside earlier member
  · have same : (state.attempts.map Attempt.invocation).filter
        (· ∈ calls ++ [state.invocations.length]) =
        (state.attempts.map Attempt.invocation).filter (· ∈ calls) := by
      apply List.filter_congr
      intro call member
      obtain ⟨attempt, made, rfl⟩ := List.mem_map.mp member
      simp [none attempt made]
    exact same.symm ▸ oneAtATime.ordered

theorem inside_of_calls (opened : List.Forall₂ state.Calls events calls) :
    ∀ call ∈ calls, call < state.invocations.length := by
  intro call member
  obtain ⟨event, calls⟩ := exists_of_forall₂ opened.flip member
  exact Calls.inside calls

theorem inOrder_batchLoop (sound : state.Sound options)
    (opened : List.Forall₂ state.Calls events calls)
    (returned : List.Forall₂ state.Returned calls outcomes) (oneAtATime : state.OneAtATime calls)
    (rest : List RelayEvent) :
    (state.batchLoop outcomes rest).2.InOrder (state.batchLoop outcomes rest).1
      (events ++ rest) := by
  cases rest with
  | nil => exact ⟨calls, by simpa [Batch.Follows] using ⟨opened, returned⟩, oneAtATime⟩
  | cons event rest =>
      have onward := onward_call state event
      refine ⟨calls ++ [state.invocations.length], ?_,
        oneAtATime.call sound (inside_of_calls opened) event⟩
      refine ⟨events ++ [event], calls, by simp, rfl, ?_, ?_⟩
      · apply List.rel_append (opened.imp fun _ _ calls => calls.mono onward)
        exact .cons (calls_new state event) .nil
      · exact returned.imp fun _ _ ended => onward.result ended

theorem inOrder_resumeBatch (sound : state.Sound options) {lists : List (List RelayEvent)}
    (inOrder : List.Forall₂ (Batch.InOrder state) lists state.batches) (index : Nat) :
    List.Forall₂ (Batch.InOrder (state.resumeBatch index)) lists
      (state.resumeBatch index).batches := by
  unfold WebhookRelay.resumeBatch
  split
  · next invocation rest outcomes found =>
      split
      · next outcome result =>
          have onward := onward_batchLoop state (outcomes ++ [outcome]) rest
          simp only [batchLoop_batches]
          apply forall₂_set inOrder found
            (fun _ _ standing => InOrder.withBatches (onward.inOrder standing) _)
          rintro events ⟨calls, ⟨begun, before, rfl, rfl, opened, returned⟩, oneAtATime⟩
          have pushed : List.Forall₂ state.Returned (before ++ [invocation])
              (outcomes ++ [outcome]) := List.rel_append returned (.cons result .nil)
          exact InOrder.withBatches (inOrder_batchLoop sound opened pushed oneAtATime rest) _
      · next error result =>
          apply forall₂_set inOrder found (fun _ _ standing => InOrder.withBatches standing _)
          rintro events ⟨calls, ⟨begun, before, rfl, rfl, opened, returned⟩, oneAtATime⟩
          refine InOrder.withBatches ⟨_, ?_, oneAtATime⟩ _
          refine ⟨begun, rest, before, invocation, rfl, rfl, opened, ?_, result⟩
          intro call member
          exact exists_of_forall₂ returned member
      · exact inOrder
  · exact inOrder

/-- A turn keeps all batches in order. -/
theorem inOrder_take (sound : state.Sound options) {lists : List (List RelayEvent)}
    (inOrder : List.Forall₂ (Batch.InOrder state) lists state.batches) (turn : Turn) :
    List.Forall₂ (Batch.InOrder (state.take options turn)) (lists ++ batchesOf [turn])
      (state.take options turn).batches := by
  cases turn with
  | relay event =>
      simp only [batchesOf, List.filterMap_cons_none, List.filterMap_nil, List.append_nil]
      exact inOrder.imp fun _ _ standing => (onward_call state event).inOrder standing
  | relayBatch events =>
      have onward := onward_batchLoop state [] events
      have new := inOrder_batchLoop sound .nil .nil (oneAtATime_nil state) events
      change List.Forall₂ (Batch.InOrder { (state.batchLoop [] events).1 with batches := _ }) _
        ((state.batchLoop [] events).1.batches ++ [(state.batchLoop [] events).2])
      rw [batchLoop_batches]
      apply List.rel_append
      · exact inOrder.imp fun _ _ standing => InOrder.withBatches (onward.inOrder standing) _
      · exact .cons (InOrder.withBatches new _) .nil
  | resume index delivery =>
      have onward := onward_resume options state index delivery
      have same : (state.resume options index delivery).batches = state.batches := by
        unfold WebhookRelay.resume
        split <;> rfl
      simp only [batchesOf, List.filterMap_cons_none, List.filterMap_nil, List.append_nil]
      change List.Forall₂ _ _ (state.resume options index delivery).batches
      rw [same]
      exact inOrder.imp fun _ _ standing => onward.inOrder standing
  | resumeBatch index =>
      simp only [batchesOf, List.filterMap_cons_none, List.filterMap_nil, List.append_nil]
      exact inOrder_resumeBatch sound inOrder index

theorem Sound.settles (sound : state.Sound options) (calls : state.Calls event index)
    (returned : state.Returned index outcome) : state.Settles event outcome := by
  obtain ⟨invocation, found, key, at_once⟩ := calls
  obtain ⟨same, lookup, phase, _⟩ := result_eq_some_iff.mp returned
  obtain rfl := Option.some.inj (found.symm.trans lookup)
  have member := List.mem_of_getElem? found
  have own := sound.keyed invocation member outcome phase
  rw [Settles, own, key]
  refine ⟨?_, key ▸ sound.vouched invocation member (by rw [phase]; rfl)⟩
  rcases relay_phase event with threw | ⟨_, named⟩
  · rw [threw, phase] at at_once
    cases at_once rfl
  · exact named

end Turns

end WebhookRelay

theorem run_inOrder {options : Options} {start : WebhookRelay} (sound : start.Sound options)
    {lists : List (List RelayEvent)}
    (inOrder : List.Forall₂ (Batch.InOrder start) lists start.batches) (turns : List Turn) :
    List.Forall₂ (Batch.InOrder (run (WebhookRelay.take options) start turns))
      (lists ++ batchesOf turns) (run (WebhookRelay.take options) start turns).batches := by
  induction turns generalizing start lists with
  | nil => simpa [batchesOf] using inOrder
  | cons turn rest inductionHypothesis =>
      have later := inductionHypothesis (sound.take turn)
        (WebhookRelay.inOrder_take sound inOrder turn)
      have joined : batchesOf [turn] ++ batchesOf rest = batchesOf (turn :: rest) := by
        rw [batchesOf, batchesOf, ← List.filterMap_append]
        rfl
      rwa [List.append_assoc, joined] at later

/-- Batches relay their events one after another, and a batch that returns has had every one of
them taken by the endpoint. -/
theorem batches_in_order (options : Options) (turns : List Turn) :
    List.Forall₂ (fun events batch =>
        Batch.InOrder (run (WebhookRelay.take options) .fresh turns) events batch ∧
          ∀ outcomes, batch = .returned outcomes → List.Forall₂
            (run (WebhookRelay.take options) .fresh turns).Settles events outcomes)
      (batchesOf turns) (run (WebhookRelay.take options) .fresh turns).batches := by
  have inOrder := run_inOrder (WebhookRelay.sound_fresh options) .nil turns
  rw [List.nil_append] at inOrder
  apply inOrder.imp
  rintro events batch ⟨calls, follows, oneAtATime⟩
  refine ⟨⟨calls, follows, oneAtATime⟩, ?_⟩
  rintro outcomes rfl
  apply forall₂_trans _ follows.1 follows.2
  intro event index outcome opened returned
  exact (run_sound options turns).settles opened returned

end Relay

end LumenFlow

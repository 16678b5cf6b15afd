import LumenFlow.Relay.AtLeastOnce

/-!
# Calls that do not overlap

When no call for a key starts before every other call for it has ended, a call that finds its key
missing from the store is the first one that delivers it.
-/

namespace LumenFlow

open Kit

namespace Relay

namespace Phase

variable {options : Options} {phase : Phase} {key : Text} {stored : Bool} {delivery : Delivery}
  {attempt : Nat} {lastStatus : Option Int}

theorem ended_next (ended : phase.ended = true) :
    (phase.next options key stored delivery).ended = true := by
  cases phase <;> first | exact ended | cases ended

theorem active_of_committed (committed : phase.committed = true) : phase.ended = false := by
  cases phase <;> first | rfl | cases committed

theorem committed_conclude (committed : (conclude options attempt delivery).committed = true) :
    delivery.succeeded = false := by
  unfold conclude at committed
  split_ifs at committed with succeeded rejected last
  · cases committed
  · cases committed
  · cases committed
  · exact Bool.eq_false_iff.mpr succeeded

/-- A call commits itself to a delivery when it does not find its key in the store, and it stays
committed only after a delivery that has failed. -/
theorem committed_next (committed : (phase.next options key stored delivery).committed = true) :
    phase = .asking ∧ stored = false ∨
      phase.committed = true ∧ ∀ made ∈ phase.makes delivery, made.succeeded = false := by
  cases phase with
  | asking => exact .inl ⟨rfl, by simpa [next, Phase.committed] using committed⟩
  | answered seen =>
      cases seen with
      | true => cases committed
      | false =>
          refine .inr ⟨rfl, ?_⟩
          intro made member
          cases member
  | delivering attempt =>
      refine .inr ⟨rfl, ?_⟩
      intro made member
      rw [List.mem_singleton.mp member]
      exact committed_conclude committed
  | sleeping =>
      refine .inr ⟨rfl, ?_⟩
      intro made member
      cases member
  | adding | added | returned | threw => cases committed

end Phase

namespace WebhookRelay

/-- What turns keep when calls for one key do not overlap. -/
structure Exclusive (state : WebhookRelay) : Prop where
  /-- At most one call for a key has not ended. -/
  alone : ∀ (first second : Nat) (one other : Invocation),
    state.invocations[first]? = some one → state.invocations[second]? = some other →
    one.key = other.key → one.phase.ended = false → other.phase.ended = false → first = second
  once : ∀ key, state.successes key ≤ 1
  /-- A key that has been delivered is in the store or on its way to it. -/
  settled : ∀ key, 0 < state.successes key → key ∈ state.store ∨
    ∃ (index : Nat) (attempt : Nat), state.invocations[index]? = some ⟨key, .adding attempt⟩
  unspent : ∀ (index : Nat) (invocation : Invocation),
    state.invocations[index]? = some invocation → invocation.phase.committed = true →
      state.successes invocation.key = 0

section Turns

variable {options : Options} {state : WebhookRelay} {index other : Nat} {key : Text}
  {invocation : Invocation} {delivery : Delivery} {event : RelayEvent} {stored : Bool}

theorem exclusive_fresh : fresh.Exclusive :=
  ⟨fun _ _ _ _ found => by simp [fresh] at found, fun _ => Nat.zero_le _,
    fun _ some => absurd some (lt_irrefl 0), fun _ _ found => by simp [fresh] at found⟩

theorem Exclusive.withBatches (exclusive : state.Exclusive) (batches : List Batch) :
    ({ state with batches } : WebhookRelay).Exclusive :=
  ⟨exclusive.alone, exclusive.once, exclusive.settled, exclusive.unspent⟩

theorem lookup_call (lookup : (state.call event).invocations[index]? = some invocation) :
    state.invocations[index]? = some invocation ∨
      index = state.invocations.length ∧ invocation = relay event := by
  rw [call, List.getElem?_append] at lookup
  split_ifs at lookup with old
  · exact .inl lookup
  · refine .inr ⟨?_, List.mem_singleton.mp (List.mem_of_getElem? lookup)⟩
    obtain ⟨bound, _⟩ := List.getElem?_eq_some_iff.mp lookup
    simp at bound
    omega

theorem Exclusive.call (exclusive : state.Exclusive)
    (apart : ∀ invocation ∈ state.invocations,
      idempotencyKey event = some invocation.key → invocation.phase.ended = true) :
    (state.call event).Exclusive := by
  -- no other call for the key of the new one is active
  have separate : ∀ (index : Nat) (invocation : Invocation),
      state.invocations[index]? = some invocation → (relay event).key = invocation.key →
      (relay event).phase.ended = false → invocation.phase.ended = false → False := by
    intro index invocation found same active_new active
    rcases relay_phase event with phase | ⟨phase, own⟩
    · rw [phase] at active_new
      cases active_new
    · have ended := apart invocation (List.mem_of_getElem? found) (same ▸ own)
      cases active.symm.trans ended
  constructor
  · intro first second one another lookup_first lookup_second same active other_active
    rcases lookup_call lookup_first with old | ⟨rfl, rfl⟩ <;>
      rcases lookup_call lookup_second with old' | ⟨rfl, rfl⟩
    · exact exclusive.alone first second one another old old' same active other_active
    · exact (separate first one old same.symm other_active active).elim
    · exact (separate second another old' same active other_active).elim
    · rfl
  · exact exclusive.once
  · intro key delivered
    rcases exclusive.settled key delivered with stored | ⟨index, attempt, adding⟩
    · exact .inl stored
    · refine .inr ⟨index, attempt, ?_⟩
      obtain ⟨inside, _⟩ := List.getElem?_eq_some_iff.mp adding
      rwa [WebhookRelay.call, List.getElem?_append_left inside]
  · intro index invocation lookup committed
    rcases lookup_call lookup with old | ⟨rfl, rfl⟩
    · exact exclusive.unspent index invocation old committed
    · rcases relay_phase event with phase | ⟨phase, _⟩ <;> rw [phase] at committed <;>
        cases committed

theorem lookup_resume (found : state.invocations[index]? = some invocation) {here : Invocation}
    (lookup : (state.resume options index delivery).invocations[other]? = some here) :
    index ≠ other ∧ state.invocations[other]? = some here ∨
      index = other ∧ here = { invocation with
        phase := invocation.phase.next options invocation.key
          (state.store.contains invocation.key) delivery } := by
  rw [resume_eq found] at lookup
  by_cases same : index = other
  · subst same
    obtain ⟨inside, _⟩ := List.getElem?_eq_some_iff.mp found
    rw [List.getElem?_set_self inside] at lookup
    exact .inr ⟨rfl, (Option.some.inj lookup).symm⟩
  · exact .inl ⟨same, (List.getElem?_set_ne same).symm.trans lookup⟩

theorem mem_store_resume_of_mem (found : state.invocations[index]? = some invocation)
    (stored : key ∈ state.store) : key ∈ (state.resume options index delivery).store := by
  rw [resume_eq found]
  split
  · exact List.mem_cons_of_mem _ stored
  · exact stored

theorem successes_resume (found : state.invocations[index]? = some invocation) (key : Text) :
    (state.resume options index delivery).successes key = state.successes key +
      if invocation.key = key then (invocation.phase.makes delivery).countP (·.succeeded)
      else 0 := by
  rw [resume_eq found, successes, successes, List.countP_append, attempted, List.countP_map]
  congr 1
  split_ifs with same
  · simp [same, Function.comp_def]
  · simp [same, Function.comp_def]

/-- A turn that obtains a 2xx response is the turn of a committed call, which then adds its key. -/
theorem success_cases (options : Options)
    (succeeds : 0 < (invocation.phase.makes delivery).countP (·.succeeded))
    (key : Text) (stored : Bool) :
    invocation.phase.committed = true ∧
      ∃ attempt, invocation.phase.next options key stored delivery = .adding attempt := by
  obtain ⟨own, phase⟩ := invocation
  cases phase with
  | delivering attempt =>
      have succeeded : delivery.succeeded = true := by
        by_contra failed
        simp [Phase.makes, failed] at succeeds
      exact ⟨rfl, attempt, by simp [Phase.next, Phase.conclude, succeeded]⟩
  | asking | answered | sleeping | adding | added | returned | threw =>
      exact absurd succeeds (lt_irrefl 0)

theorem countP_makes_le (phase : Phase) (delivery : Delivery) :
    (phase.makes delivery).countP (·.succeeded) ≤ 1 := by
  cases phase <;> simp [Phase.makes, List.countP_singleton]
  split <;> omega

theorem active_before (active : (invocation.phase.next options key stored delivery).ended = false) :
    invocation.phase.ended = false := by
  by_contra ended
  rw [Phase.ended_next (by simpa using ended)] at active
  cases active

theorem Exclusive.alone_resume (exclusive : state.Exclusive)
    (found : state.invocations[index]? = some invocation) {first second : Nat}
    {one another : Invocation}
    (lookup_first : (state.resume options index delivery).invocations[first]? = some one)
    (lookup_second : (state.resume options index delivery).invocations[second]? = some another)
    (same : one.key = another.key) (active : one.phase.ended = false)
    (other_active : another.phase.ended = false) : first = second := by
  rcases lookup_resume found lookup_first with ⟨_, old⟩ | ⟨rfl, rfl⟩ <;>
    rcases lookup_resume found lookup_second with ⟨_, old'⟩ | ⟨rfl, rfl⟩
  · exact exclusive.alone first second one another old old' same active other_active
  · exact exclusive.alone first index one invocation old found same active
      (active_before other_active)
  · exact exclusive.alone index second invocation another found old' same
      (active_before active) other_active
  · rfl

theorem Exclusive.once_resume (exclusive : state.Exclusive)
    (found : state.invocations[index]? = some invocation) (key : Text) :
    (state.resume options index delivery).successes key ≤ 1 := by
  rw [successes_resume found]
  split_ifs with own
  · have least := countP_makes_le invocation.phase delivery
    have before := exclusive.once key
    by_cases succeeds : 0 < (invocation.phase.makes delivery).countP (·.succeeded)
    · have committed := (success_cases options succeeds key true).1
      have none := exclusive.unspent index invocation found committed
      rw [own] at none
      omega
    · omega
  · exact exclusive.once key

theorem Exclusive.settled_resume (exclusive : state.Exclusive)
    (found : state.invocations[index]? = some invocation)
    (delivered : 0 < (state.resume options index delivery).successes key) :
    key ∈ (state.resume options index delivery).store ∨ ∃ (place : Nat) (attempt : Nat),
      (state.resume options index delivery).invocations[place]? =
        some ⟨key, .adding attempt⟩ := by
  rw [successes_resume found] at delivered
  obtain ⟨inside, _⟩ := List.getElem?_eq_some_iff.mp found
  by_cases now : invocation.key = key ∧ 0 < (invocation.phase.makes delivery).countP (·.succeeded)
  · obtain ⟨rfl, succeeds⟩ := now
    obtain ⟨_, attempt, adding⟩ := success_cases options succeeds
      invocation.key (state.store.contains invocation.key)
    refine .inr ⟨index, attempt, ?_⟩
    rw [resume_eq found, List.getElem?_set_self inside, adding]
  · have before : 0 < state.successes key := by
      split_ifs at delivered with own
      · have none := Nat.eq_zero_of_not_pos fun succeeds => now ⟨own, succeeds⟩
        omega
      · omega
    rcases exclusive.settled key before with stored | ⟨place, attempt, adding⟩
    · exact .inl (mem_store_resume_of_mem found stored)
    · by_cases here : index = place
      · subst here
        obtain rfl := Option.some.inj (found.symm.trans adding)
        left
        simp [resume_eq found]
      · refine .inr ⟨place, attempt, ?_⟩
        rw [resume_eq found]
        exact (List.getElem?_set_ne here).trans adding

/-- A call that does not find its key in the store is the first one to deliver it. -/
theorem Exclusive.unspent_asking (exclusive : state.Exclusive)
    (found : state.invocations[index]? = some invocation) (asking : invocation.phase = .asking)
    (missing : state.store.contains invocation.key = false) :
    state.successes invocation.key = 0 := by
  by_contra some
  rcases exclusive.settled invocation.key (Nat.pos_of_ne_zero some) with
    kept | ⟨place, attempt, adding⟩
  · cases missing.symm.trans (List.contains_iff_mem.mpr kept)
  · have active : invocation.phase.ended = false := by
      rw [asking]
      rfl
    obtain rfl := exclusive.alone index place invocation _ found adding rfl active rfl
    rw [Option.some.inj (found.symm.trans adding)] at asking
    cases asking

theorem Exclusive.unspent_resume (exclusive : state.Exclusive)
    (found : state.invocations[index]? = some invocation) {here : Invocation}
    (lookup : (state.resume options index delivery).invocations[other]? = some here)
    (committed : here.phase.committed = true) :
    (state.resume options index delivery).successes here.key = 0 := by
  rw [successes_resume found]
  rcases lookup_resume found lookup with ⟨distinct, old⟩ | ⟨rfl, rfl⟩
  · -- another call for the key cannot obtain a response while this one is committed
    have silent : ¬ (invocation.key = here.key ∧
        0 < (invocation.phase.makes delivery).countP (·.succeeded)) := by
      rintro ⟨same, succeeds⟩
      have own := (success_cases options succeeds invocation.key true).1
      exact distinct (exclusive.alone index other invocation here found old same
        (Phase.active_of_committed own) (Phase.active_of_committed committed))
    rw [exclusive.unspent other here old committed]
    split_ifs with same
    · rw [Nat.zero_add]
      exact Nat.eq_zero_of_not_pos fun succeeds => silent ⟨same, succeeds⟩
    · rfl
  · rw [if_pos rfl]
    rcases Phase.committed_next committed with ⟨asking, missing⟩ | ⟨before, failed⟩
    · simp [exclusive.unspent_asking found asking missing, asking, Phase.makes]
    · rw [exclusive.unspent index invocation found before]
      rw [List.countP_eq_zero.mpr (by simpa using failed)]

theorem Exclusive.resume (exclusive : state.Exclusive) (index : Nat) (delivery : Delivery) :
    (state.resume options index delivery).Exclusive := by
  cases found : state.invocations[index]? with
  | none => simpa [WebhookRelay.resume, found] using exclusive
  | some invocation =>
      constructor
      · intro first second one another lookup_first lookup_second
        exact exclusive.alone_resume found lookup_first lookup_second
      · exact exclusive.once_resume found
      · intro key
        exact exclusive.settled_resume found
      · intro other here
        exact exclusive.unspent_resume found

theorem Exclusive.relayBatch (exclusive : state.Exclusive) {events : List RelayEvent}
    (apart : Apart state (.relayBatch events)) : (state.relayBatch events).Exclusive := by
  cases events with
  | nil => exact exclusive.withBatches _
  | cons event rest => exact (exclusive.call (apart event rfl)).withBatches _

theorem Exclusive.resumeBatch (exclusive : state.Exclusive)
    (apart : Apart state (.resumeBatch index)) : (state.resumeBatch index).Exclusive := by
  unfold WebhookRelay.resumeBatch
  split
  · next invocation rest outcomes found =>
      split
      · next outcome result =>
          cases rest with
          | nil => exact exclusive.withBatches _
          | cons event rest =>
              refine (exclusive.call (apart event ?_)).withBatches _
              simp [opens, found, result]
      · exact exclusive.withBatches _
      · exact exclusive
  · exact exclusive

theorem Exclusive.take (exclusive : state.Exclusive) {turn : Turn} (apart : Apart state turn) :
    (state.take options turn).Exclusive := by
  cases turn with
  | relay event => exact exclusive.call (apart event rfl)
  | relayBatch events => exact exclusive.relayBatch apart
  | resume index delivery => exact exclusive.resume index delivery
  | resumeBatch index => exact exclusive.resumeBatch apart

end Turns

end WebhookRelay

/-- Whatever the interleaving of calls and the behaviour of the endpoint, the relay never drops an
undelivered event, and calls for one key that do not overlap obtain at most one 2xx response. -/
theorem relay_never_drops (options : Options) (turns : List Turn) :
    NeverDrops options (run (WebhookRelay.take options) .fresh turns) ∧
      (Along (WebhookRelay.take options) Apart .fresh turns →
        ∀ key, (run (WebhookRelay.take options) .fresh turns).successes key ≤ 1) := by
  refine ⟨(run_sound options turns).neverDrops, fun apart => ?_⟩
  have exclusive : (run (WebhookRelay.take options) .fresh turns).Exclusive := by
    apply run_invariant_along _ WebhookRelay.exclusive_fresh apart
    intro state turn before apart
    exact before.take apart
  exact exclusive.once

namespace Sample

def options : Options := ⟨4, 200, 10000⟩

def event : RelayEvent := ⟨some [49], none⟩

def goOn (index : Nat) : Turn := .resume index (.responded (some 200))

/-- A batch whose event is delivered at its second attempt, and a replay of the event. -/
def replay : List Turn :=
  [.relayBatch [event], goOn 0, goOn 0, .resume 0 (.responded (some 503)), goOn 0, goOn 0, goOn 0,
    goOn 0, .resumeBatch 0, .relay event, goOn 1, goOn 1]

/-- Two calls for one event that both ask the store before the event is in it. -/
def overlapping : List Turn :=
  [.relay event, .relay event, goOn 0, goOn 1, goOn 0, goOn 1, goOn 0, goOn 1]

example : (run (WebhookRelay.take options) .fresh overlapping).successes [49] = 2 := by decide

end Sample

theorem relay_never_drops_replay :
    (run (WebhookRelay.take Sample.options) .fresh Sample.replay).successes [49] ≤ 1 :=
  (relay_never_drops Sample.options Sample.replay).2 (by decide) [49]

end Relay

end LumenFlow

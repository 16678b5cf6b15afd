import LumenFlow.Safety.Requests

/-!
# The index of the outstanding requests

The index lists the stored payment requests, each once.  The clean-up walks through a copy of it
and takes the expired requests out of the index itself.
-/

namespace LumenFlow

open Kit Contract

/-- The index of the payment requests lists what is stored, each request once. -/
structure World.RequestsIndexed (world : World) : Prop where
  distinct : world.requests.ids.Nodup
  exact : ∀ id, id ∈ world.requests.ids ↔ ∃ request, world.getPaymentRequest id = some request

/-- A request is stored under the identifier that has expired. -/
def World.RequestExpired (world : World) (id : Text) : Prop :=
  ∃ request ∈ world.getPaymentRequest id, request.Expired world.timestamp

instance (world : World) (id : Text) : Decidable (world.RequestExpired id) :=
  match found : world.getPaymentRequest id with
  | none => .isFalse fun ⟨_, stored, _⟩ => nomatch found.symm.trans stored
  | some request => decidable_of_iff (request.Expired world.timestamp)
      ⟨fun expired => ⟨request, found, expired⟩, fun ⟨_, stored, expired⟩ =>
        Option.some.inj (found.symm.trans stored) ▸ expired⟩

/-- The expired requests, in the order of the index. -/
def World.expiredRequests (world : World) : List Text :=
  world.requests.ids.filter fun id => world.RequestExpired id

/-- What a clean-up that returns a number does to the requests. -/
structure RequestsCleaned (world : World) (removed : Nat) (next : World) : Prop where
  returned : removed = world.expiredRequests.length
  records : ∀ id, next.getPaymentRequest id =
    if world.RequestExpired id then none else world.getPaymentRequest id
  index : next.requests.ids = world.requests.ids.filter fun id => ¬ world.RequestExpired id
  rest : next = { world with requests := next.requests }

theorem RequestBook.eq_of_parts {first second : RequestBook}
    (records : first.records = second.records) (ids : first.ids = second.ids) : first = second := by
  cases first
  cases second
  obtain rfl := records
  obtain rfl := ids
  rfl

section Indexed

variable {env : Env} {world next : World} {id : Text} {call : Call}

theorem World.RequestsIndexed.put (indexed : world.RequestsIndexed) (request : PaymentRequest) :
    (world.setPaymentRequest request).RequestsIndexed := by
  constructor
  · change (if request.requestId ∈ world.requests.ids then world.requests.ids
      else world.requests.ids ++ [request.requestId]).Nodup
    split
    · exact indexed.distinct
    · next absent =>
        rw [← List.concat_eq_append]
        exact indexed.distinct.concat absent
  · intro id
    have listed : id ∈ (world.setPaymentRequest request).requests.ids ↔
        id = request.requestId ∨ id ∈ world.requests.ids := by
      change id ∈ (if request.requestId ∈ world.requests.ids then world.requests.ids
        else world.requests.ids ++ [request.requestId]) ↔ _
      split
      · next member =>
          refine ⟨.inr, ?_⟩
          rintro (rfl | old)
          · exact member
          · exact old
      · rw [List.mem_append, List.mem_singleton, or_comm]
    rw [listed, indexed.exact]
    change _ ↔ ∃ found, (world.requests.records.put request).get id = some found
    by_cases same : id = request.requestId
    · subst same
      exact iff_of_true (.inl rfl) ⟨request, Table.get_put_self _ request⟩
    · rw [Table.get_put_of_ne same]
      exact or_iff_right same

theorem World.RequestsIndexed.erase (indexed : world.RequestsIndexed) (id : Text) :
    (world.removePaymentRequest id).RequestsIndexed := by
  refine ⟨indexed.distinct.filter _, fun other => ?_⟩
  change other ∈ world.requests.ids.filter (· ≠ id) ↔
    ∃ found, (world.requests.records.erase id).get other = some found
  rw [List.mem_filter, indexed.exact, Table.get_erase]
  by_cases same : other = id
  · simp [same]
  · simp [same]

theorem World.RequestsIndexed.eraseAll (indexed : world.RequestsIndexed) (gone : List Text) :
    (gone.foldl World.removePaymentRequest world).RequestsIndexed := by
  induction gone generalizing world with
  | nil => exact indexed
  | cons id rest inductionHypothesis => exact inductionHypothesis (indexed.erase id)

theorem Call.requestIds_of_silent (silent : .requests ∉ call.parts) :
    .requestIds ∉ call.parts := by
  rcases call with call | call | call | call | call | call | call <;> cases call <;>
    first | exact of_decide_eq_true rfl | exact absurd (of_decide_eq_true rfl) silent

/-! ## The walk of the clean-up -/

@[simp]
theorem World.removePaymentRequest_timestamp (world : World) (id : Text) :
    (world.removePaymentRequest id).timestamp = world.timestamp := rfl

theorem World.get_removePaymentRequest (world : World) (id other : Text) :
    (world.removePaymentRequest id).getPaymentRequest other =
      if other = id then none else world.getPaymentRequest other :=
  Table.get_erase ..

theorem World.requestExpired_of_ne {id other : Text} (different : other ≠ id) :
    (world.removePaymentRequest id).RequestExpired other ↔ world.RequestExpired other := by
  unfold World.RequestExpired
  rw [World.get_removePaymentRequest, if_neg different, World.removePaymentRequest_timestamp]

theorem commits_removeExpiredRequest {removed result : Nat}
    (stored : ∃ request, world.getPaymentRequest id = some request) :
    (removeExpiredRequest world.timestamp removed id).Commits env world result next ↔
      (world.RequestExpired id ∧ removed + 1 ≤ u32Max ∧ result = removed + 1 ∧
          next = world.removePaymentRequest id) ∨
        ¬ world.RequestExpired id ∧ result = removed ∧ next = world := by
  obtain ⟨request, found⟩ := stored
  have expired : world.RequestExpired id ↔ request.expiresAt < world.timestamp :=
    ⟨fun ⟨_, same, late⟩ => Option.some.inj (found.symm.trans same) ▸ late,
      fun late => ⟨request, found, late⟩⟩
  rw [expired]
  simp only [removeExpiredRequest, Tx.commits_bind, Tx.commits_gets]
  constructor
  · rintro ⟨_, _, ⟨rfl, rfl⟩, turn⟩
    simpa [found] using turn
  · intro turn
    refine ⟨_, _, ⟨rfl, rfl⟩, ?_⟩
    simpa [found] using turn

/-- The walk over a part of the index removes the expired requests of that part, whatever the
index has become meanwhile. -/
theorem commits_removeExpiredRequests {names : List Text} (distinct : names.Nodup)
    (stored : ∀ id ∈ names, ∃ request, world.getPaymentRequest id = some request)
    {removed result : Nat} (bound : removed ≤ u32Max) :
    (Tx.fold (removeExpiredRequest world.timestamp) removed names).Commits env world result next ↔
      removed + (names.filter fun id => world.RequestExpired id).length ≤ u32Max ∧
        result = removed + (names.filter fun id => world.RequestExpired id).length ∧
        next = (names.filter fun id => world.RequestExpired id).foldl
          World.removePaymentRequest world := by
  induction names generalizing world removed with
  | nil => simp [bound]
  | cons id rest inductionHypothesis =>
      obtain ⟨absent, distinct⟩ := List.nodup_cons.mp distinct
      obtain ⟨here, stored⟩ := List.forall_mem_cons.mp stored
      have apart {other : Text} (member : other ∈ rest) : other ≠ id := by
        rintro rfl
        exact absent member
      rw [Tx.commits_fold_cons]
      simp only [commits_removeExpiredRequest here]
      by_cases expired : world.RequestExpired id
      · have later : ∀ other ∈ rest, ∃ request,
            (world.removePaymentRequest id).getPaymentRequest other = some request := by
          intro other member
          rw [World.get_removePaymentRequest, if_neg (apart member)]
          exact stored other member
        have same : (rest.filter fun other =>
            (world.removePaymentRequest id).RequestExpired other) =
            rest.filter fun other => world.RequestExpired other := by
          apply List.filter_congr
          intro other member
          rw [decide_eq_decide, World.requestExpired_of_ne (apart member)]
        have size : ((id :: rest).filter fun other => world.RequestExpired other) =
            id :: rest.filter fun other => world.RequestExpired other :=
          List.filter_cons_of_pos (decide_eq_true expired)
        rw [size, List.length_cons, List.foldl_cons, ← same]
        constructor
        · rintro ⟨_, _, ⟨_, fits, rfl, rfl⟩ | ⟨current, _⟩, tail⟩
          · obtain ⟨fits, rfl, rfl⟩ := (inductionHypothesis distinct later fits).mp tail
            exact ⟨by omega, by omega, rfl⟩
          · exact absurd expired current
        · rintro ⟨fits, rfl, rfl⟩
          refine ⟨_, _, .inl ⟨expired, by omega, rfl, rfl⟩, ?_⟩
          exact (inductionHypothesis distinct later (by omega)).mpr ⟨by omega, by omega, rfl⟩
      · have size : ((id :: rest).filter fun other => world.RequestExpired other) =
            rest.filter fun other => world.RequestExpired other :=
          List.filter_cons_of_neg (by simpa using expired)
        rw [size, ← inductionHypothesis distinct stored bound]
        constructor
        · rintro ⟨_, _, ⟨late, _⟩ | ⟨_, rfl, rfl⟩, tail⟩
          · exact absurd late expired
          · exact tail
        · exact fun tail => ⟨_, _, .inr ⟨expired, rfl, rfl⟩, tail⟩

theorem World.removePaymentRequests_eq (world : World) (gone : List Text) :
    let after := gone.foldl World.removePaymentRequest world
    (∀ id, after.getPaymentRequest id = if id ∈ gone then none else world.getPaymentRequest id) ∧
      after.requests.ids = world.requests.ids.filter (fun id => id ∉ gone) ∧
      after = { world with requests := after.requests } := by
  induction gone generalizing world with
  | nil => exact ⟨fun _ => rfl, by simp, rfl⟩
  | cons id rest inductionHypothesis =>
      obtain ⟨records, ids, others⟩ := inductionHypothesis (world.removePaymentRequest id)
      refine ⟨fun other => ?_, ?_, others⟩
      · apply (records other).trans
        rw [World.get_removePaymentRequest]
        by_cases now : other = id
        · simp [now]
        · simp [now]
      · apply ids.trans
        change (world.requests.ids.filter (· ≠ id)).filter _ = _
        rw [List.filter_filter]
        apply List.filter_congr
        intro other _
        by_cases now : other = id <;> simp [now]

theorem RequestsCleaned.unique {removed : Nat} {other : World}
    (cleaned : RequestsCleaned world removed next) (again : RequestsCleaned world removed other) :
    next = other := by
  have records : next.requests.records = other.requests.records :=
    Table.ext_get fun id => (cleaned.records id).trans (again.records id).symm
  have ids : next.requests.ids = other.requests.ids := cleaned.index.trans again.index.symm
  rw [cleaned.rest, again.rest, RequestBook.eq_of_parts records ids]

theorem World.RequestsIndexed.mem_expiredRequests (indexed : world.RequestsIndexed) :
    id ∈ world.expiredRequests ↔ world.RequestExpired id := by
  rw [World.expiredRequests, List.mem_filter, indexed.exact, decide_eq_true_eq]
  exact and_iff_right_of_imp fun ⟨request, stored, _⟩ => ⟨request, stored⟩

theorem World.RequestsIndexed.cleaned (indexed : world.RequestsIndexed) :
    RequestsCleaned world world.expiredRequests.length
      (world.expiredRequests.foldl World.removePaymentRequest world) := by
  obtain ⟨records, ids, others⟩ := world.removePaymentRequests_eq world.expiredRequests
  refine ⟨rfl, fun id => (records id).trans ?_, ids.trans ?_, others⟩
  · simp only [indexed.mem_expiredRequests]
  · simp only [indexed.mem_expiredRequests]

/-- The clean-up of an exact index removes the expired requests and nothing else. -/
theorem World.RequestsIndexed.commits_cleanup (indexed : world.RequestsIndexed) {admin : Address}
    {removed : Nat} :
    (cancelExpiredPaymentRequests admin).Commits env world removed next ↔
      ((env.Authorised admin ∧ world.gov.admin = some admin) ∧
        world.expiredRequests.length ≤ u32Max) ∧ RequestsCleaned world removed next := by
  have stored : ∀ id ∈ world.requests.ids, ∃ request, world.getPaymentRequest id = some request :=
    fun id member => (indexed.exact id).mp member
  have walk := @commits_removeExpiredRequests env world next _ indexed.distinct stored 0 removed
    (Nat.zero_le _)
  rw [Nat.zero_add] at walk
  simp only [cancelExpiredPaymentRequests, Tx.commits_bind, commits_requireAdmin, Tx.commits_gets,
    commits_timestamp, Tx.exists_unit]
  constructor
  · rintro ⟨_, ⟨admitted, rfl⟩, _, _, ⟨rfl, rfl⟩, _, _, ⟨rfl, rfl⟩, removing⟩
    obtain ⟨fits, rfl, rfl⟩ := walk.mp removing
    exact ⟨⟨admitted, fits⟩, indexed.cleaned⟩
  · rintro ⟨⟨admitted, fits⟩, cleaned⟩
    have count := cleaned.returned
    subst count
    refine ⟨_, ⟨admitted, rfl⟩, _, _, ⟨rfl, rfl⟩, _, _, ⟨rfl, rfl⟩, walk.mpr ⟨fits, rfl, ?_⟩⟩
    exact cleaned.unique indexed.cleaned

theorem World.RequestsIndexed.called (indexed : world.RequestsIndexed)
    (committed : call.exec.Commits env world () next) : next.RequestsIndexed := by
  have of_same {before after : World} (same : after.requests = before.requests)
      (indexed : before.RequestsIndexed) : after.RequestsIndexed := by
    refine ⟨same ▸ indexed.distinct, fun id => ?_⟩
    change id ∈ after.requests.ids ↔ ∃ request, after.requests.records.get id = some request
    rw [same]
    exact indexed.exact id
  rcases call.requests_cases with silent | ⟨merchant, requestId, token, amount, memo, ttl, rfl⟩ |
    ⟨payer, requestId, rfl⟩ | ⟨caller, requestId, rfl⟩ | ⟨admin, rfl⟩
  · have writes := call.writes
    have records : next.requests.records = world.requests.records :=
      same_part call.parts committed .requests silent
    have ids : next.requests.ids = world.requests.ids :=
      same_part call.parts committed .requestIds (Call.requestIds_of_silent silent)
    exact of_same (RequestBook.eq_of_parts records ids) indexed
  · obtain ⟨request, _, _, _, _, _, _, rfl⟩ := createPaymentRequest_opens committed
    exact indexed.put request
  · exact of_same (payPaymentRequest_removes committed) (indexed.erase requestId)
  · simp [Call.exec, MultisigCall.exec, Contract.cancelPaymentRequest] at committed
    obtain ⟨_, _, _, _, _, rfl⟩ := committed
    exact indexed.erase requestId
  · obtain ⟨removed, cleaning⟩ := Tx.commits_discard.mp committed
    obtain ⟨_, cleaned⟩ := indexed.commits_cleanup.mp cleaning
    obtain rfl := cleaned.returned
    rw [cleaned.unique indexed.cleaned]
    exact indexed.eraseAll _

end Indexed

section Runs

variable {host : Host} {start : World}

theorem Deployed.requestsIndexed (deployed : Deployed host start) (actions : List Action) :
    (run (step host) start actions).RequestsIndexed := by
  have stepwise : ∀ world action, World.RequestsIndexed world →
      (step host world action).RequestsIndexed := by
    intro world action indexed
    rcases step_cases host world action with
      ⟨auth, permits, call, rfl, succeeded⟩ | ⟨_, bank, sequence, timestamp, same⟩
    · exact indexed.called succeeded.executes
    · rw [same]
      exact ⟨indexed.distinct, indexed.exact⟩
  have initial : start.RequestsIndexed := by
    obtain ⟨bank, timestamp, sequence, _, _, rfl⟩ := deployed
    exact ⟨List.nodup_nil, fun id => by simp [World.deployed]⟩
  exact run_invariant stepwise initial actions

/-- After every run the index lists the stored requests, each once, and a clean-up by the admin
removes the expired ones and nothing else. -/
theorem outstanding_requests_exact (deployed : Deployed host start) (actions : List Action) :
    let world := run (step host) start actions
    world.RequestsIndexed ∧
      ∀ env admin removed next,
        (cancelExpiredPaymentRequests admin).Commits env world removed next ↔
          ((env.Authorised admin ∧ world.gov.admin = some admin) ∧
            world.expiredRequests.length ≤ u32Max) ∧ RequestsCleaned world removed next := by
  intro world
  have indexed : world.RequestsIndexed := deployed.requestsIndexed actions
  exact ⟨indexed, fun _ _ _ _ => indexed.commits_cleanup⟩

/-- A request that has expired. -/
def Sample.forgotten : List Action := opening ++ [
  invokedBy shop (.multisig (.createPaymentRequest shop [1] coin 100 [] 60)),
  .advance 20 100]

theorem outstanding_requests_exact_sample :
    let world := run (step Sample.host) Sample.start Sample.forgotten
    world.expiredRequests = [[1]] ∧ world.RequestsIndexed ∧
      ∀ env admin removed next,
        (cancelExpiredPaymentRequests admin).Commits env world removed next ↔
          ((env.Authorised admin ∧ world.gov.admin = some admin) ∧
            world.expiredRequests.length ≤ u32Max) ∧ RequestsCleaned world removed next :=
  ⟨by decide +kernel, outstanding_requests_exact Sample.deployed_start Sample.forgotten⟩

end Runs

end LumenFlow

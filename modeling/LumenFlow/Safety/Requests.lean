import Mathlib.Data.Nat.SuccPred
import LumenFlow.Safety.Freeze
import LumenFlow.Effect.Accounts
import LumenFlow.Effect.Failures

/-!
# Open payment requests

A request waits for its payer under an identifier that it shares with the payments.  It can be
paid as long as nothing is stored under the identifier and its entry, which is a temporary one,
is there.
-/

namespace LumenFlow

open Kit Contract

/-- Nothing is stored under the identifier of a request that has not expired. -/
def World.Unblocked (world : World) : Prop :=
  ∀ id request, world.requests.records.get id = some request →
    ¬ request.Expired world.timestamp → world.payments.orders.get id = none

/-- The call stores no payment under the identifier of a request of somebody that has not
expired, and opens no request under the identifier of a stored payment. -/
def LeavesRequests (world : World) : Call → Prop
  | .multisig (.createPaymentRequest _ requestId ..) => world.getPayment requestId = none
  | .multisig (.payPaymentRequest ..) => True
  | call => ∀ id ∈ call.orderIds, ∀ request ∈ world.getPaymentRequest id,
      request.Expired world.timestamp

instance (world : World) (call : Call) : Decidable (LeavesRequests world call) := by
  unfold LeavesRequests
  split <;> infer_instance

section Orders

variable {world : World} {call : Call} {after : Accounts} {id : Text}

theorem Call.orderIds_of_silent (silent : .orders ∉ call.parts) : call.orderIds = [] := by
  rcases call with call | call | call | call | call | call | call <;> cases call <;>
    simp [Call.parts, PaymentCall.parts, MultisigCall.parts, Call.orderIds, PaymentCall.terms]
      at silent ⊢

theorem PaymentCall.orderIds_eq {call : PaymentCall} {orders : List PaymentOrder}
    (listed : orders.map PaymentOrder.terms = call.terms) :
    (Call.payment call).orderIds = orders.map PaymentOrder.orderId := by
  rw [Call.orderIds, ← listed, List.map_map]
  rfl

theorem Accounts.Move.stored_cases (move : Accounts.Move world call after)
    {payment : PaymentOrder} (stored : after.orders.get id = some payment) :
    (∃ old, world.payments.orders.get id = some old) ∨ id ∈ call.orderIds := by
  have written (order : PaymentOrder)
      (put : (world.payments.orders.put order).get id = some payment) :
      id = order.orderId ∨ ∃ old, world.payments.orders.get id = some old := by
    rw [Table.get_put] at put
    split at put
    · next same => exact .inl same
    · exact .inr ⟨payment, put⟩
  have rewritten (order : PaymentOrder) {old : PaymentOrder} {orderId : Text}
      (before : world.payments.orders.get orderId = some old) (same : order.orderId = old.orderId)
      (put : (world.payments.orders.put order).get id = some payment) :
      ∃ old, world.payments.orders.get id = some old := by
    rcases written order put with rfl | stored
    · rw [same, Table.key_of_get before]
      exact ⟨old, before⟩
    · exact stored
  cases move with
  | kept => exact .inl ⟨payment, stored⟩
  | dismissed => exact .inl ⟨payment, stored⟩
  | paid call orders listed =>
      rw [Accounts.payAll_orders] at stored
      rcases Table.get_putAll_cases stored with member | ⟨_, before⟩
      · right
        rw [PaymentCall.orderIds_eq listed, ← Table.key_of_get stored]
        exact List.mem_map_of_mem member
      · exact .inl ⟨payment, before⟩
  | statusUpdated caller orderId refundedAmount expectedVersion old before =>
      exact .inl (rewritten (old.refundedTo refundedAmount) before rfl stored)
  | archived admin orderId => exact .inl ⟨payment, Table.sub_erase _ orderId id payment stored⟩
  | cleaned admin batchSize orders swept => exact .inl ⟨payment, swept.sub id payment stored⟩
  | refundExecuted refund old approved before =>
      exact .inl (rewritten (old.refundBy refund.amount (old.version + 1)) before rfl stored)
  | refundForced admin resolution dispute refund old raised rejected before =>
      exact .inl (rewritten (old.refundBy refund.amount old.version) before rfl stored)
  | multisigPaid payer multisig _ =>
      rcases written (multisig.order payer world.timestamp) stored with rfl | before
      · exact .inr (List.mem_singleton_self _)
      · exact .inl before
  | requestPaid payer request _ fresh =>
      rcases written (request.order payer world.timestamp) stored with rfl | before
      · exact .inr (List.mem_singleton_self _)
      · exact .inl before

theorem Accounts.Move.stored_of_mem (move : Accounts.Move world call after)
    (member : id ∈ call.orderIds) : ∃ payment, after.orders.get id = some payment := by
  cases move with
  | kept call silent => simp [Call.orderIds_of_silent silent] at member
  | dismissed => simp [Call.orderIds] at member
  | paid call orders listed distinct =>
      rw [PaymentCall.orderIds_eq listed] at member
      obtain ⟨payment, among, rfl⟩ := List.mem_map.mp member
      rw [Accounts.payAll_orders]
      exact ⟨payment, Table.get_putAll_of_mem distinct among⟩
  | statusUpdated => simp [Call.orderIds, PaymentCall.terms] at member
  | archived => simp [Call.orderIds, PaymentCall.terms] at member
  | cleaned => simp [Call.orderIds, PaymentCall.terms] at member
  | refundExecuted => simp [Call.orderIds] at member
  | refundForced => simp [Call.orderIds] at member
  | multisigPaid payer multisig _ =>
      obtain rfl := List.mem_singleton.mp member
      exact ⟨_, Table.get_put_self world.payments.orders (multisig.order payer world.timestamp)⟩
  | requestPaid payer request _ fresh =>
      obtain rfl := List.mem_singleton.mp member
      exact ⟨_, Table.get_put_self world.payments.orders (request.order payer world.timestamp)⟩

end Orders

section Steps

variable {env : Env} {world next : World} {call : Call}

theorem Call.requests_cases (call : Call) :
    .requests ∉ call.parts ∨
      (∃ merchant requestId token amount memo ttl,
        call = .multisig (.createPaymentRequest merchant requestId token amount memo ttl)) ∨
      (∃ payer requestId, call = .multisig (.payPaymentRequest payer requestId)) ∨
      (∃ caller requestId, call = .multisig (.cancelPaymentRequest caller requestId)) ∨
      ∃ admin, call = .multisig (.cancelExpiredPaymentRequests admin) := by
  cases call with
  | multisig call =>
      cases call with
      | createPaymentRequest => exact .inr (.inl ⟨_, _, _, _, _, _, rfl⟩)
      | payPaymentRequest => exact .inr (.inr (.inl ⟨_, _, rfl⟩))
      | cancelPaymentRequest => exact .inr (.inr (.inr (.inl ⟨_, _, rfl⟩)))
      | cancelExpiredPaymentRequests => exact .inr (.inr (.inr (.inr ⟨_, rfl⟩)))
      | _ => exact .inl (of_decide_eq_true rfl)
  | _ call => cases call <;> exact .inl (of_decide_eq_true rfl)

theorem createPaymentRequest_opens {merchant : Address} {requestId : Text} {token : Address}
    {amount : Int} {memo : Text} {ttl : Nat}
    (committed : (createPaymentRequest merchant requestId token amount memo ttl).Commits env world
      () next) :
    ∃ request : PaymentRequest, request.requestId = requestId ∧ request.merchant = merchant ∧
      (Sized requestId ∧ 0 ≤ request.amount) ∧ world.timestamp ≤ u64Max ∧
      world.requests.records.get requestId = none ∧ ¬ request.Expired world.timestamp ∧
      next = world.setPaymentRequest request := by
  simp [createPaymentRequest, requireTokenAllowed] at committed
  obtain ⟨_, _, positive, long, _, inTime, later, _, free, rfl⟩ := committed
  refine ⟨⟨requestId, merchant, token, amount, memo, world.timestamp + ttl⟩, rfl, rfl,
    ⟨long.2.trans (by decide), positive.le⟩, by omega, free, ?_, rfl⟩
  simp [PaymentRequest.Expired]

theorem payPaymentRequest_removes {payer : Address} {requestId : Text}
    (committed : (payPaymentRequest payer requestId).Commits env world () next) :
    next.requests = (world.removePaymentRequest requestId).requests := by
  simp [payPaymentRequest] at committed
  obtain ⟨_, _, request, stored, _, _, paying, storing, recorded, counting, counted, rfl⟩ :=
    committed
  have records : counting.requests.records = storing.requests.records :=
    same_part [.totals] counted .requests (by simp)
  have ids : counting.requests.ids = storing.requests.ids :=
    same_part [.totals] counted .requestIds (by simp)
  have keptRecords : storing.requests.records = world.requests.records :=
    same_part [.orders, .merchantIds, .payerIds] recorded .requests (by simp)
  have keptIds : storing.requests.ids = world.requests.ids :=
    same_part [.orders, .merchantIds, .payerIds] recorded .requestIds (by simp)
  simp only [World.removePaymentRequest, World.updateRequests, records, ids, keptRecords, keptIds]

theorem payPaymentRequest_closes {payer : Address} {requestId : Text}
    (committed : (payPaymentRequest payer requestId).Commits env world () next) :
    (∃ request, world.requests.records.get requestId = some request) ∧
      next.requests.records = world.requests.records.erase requestId := by
  refine ⟨?_, congrArg RequestBook.records (payPaymentRequest_removes committed)⟩
  simp [payPaymentRequest] at committed
  obtain ⟨_, _, request, stored, _⟩ := committed
  exact ⟨request, stored⟩

theorem cancelPaymentRequest_closes {caller : Address} {requestId : Text}
    (committed : (cancelPaymentRequest caller requestId).Commits env world () next) :
    (∃ request, world.requests.records.get requestId = some request ∧
        request.merchant = caller) ∧
      next.requests.records = world.requests.records.erase requestId := by
  simp [cancelPaymentRequest] at committed
  obtain ⟨_, _, request, stored, merchant, rfl⟩ := committed
  exact ⟨⟨request, stored, merchant⟩, rfl⟩

/-- Only `create_payment_request` opens requests. -/
theorem Call.requests_sub (committed : call.exec.Commits env world () next)
    (created : ∀ merchant requestId token amount memo ttl,
      call ≠ .multisig (.createPaymentRequest merchant requestId token amount memo ttl)) :
    next.requests.records.Sub world.requests.records := by
  rcases call.requests_cases with silent | ⟨_, _, _, _, _, _, rfl⟩ | ⟨payer, requestId, rfl⟩ |
    ⟨caller, requestId, rfl⟩ | ⟨admin, rfl⟩
  · have writes := call.writes
    have same : next.requests.records = world.requests.records :=
      same_part call.parts committed .requests silent
    rw [same]
    exact Table.Sub.refl _
  · exact absurd rfl (created _ _ _ _ _ _)
  · rw [(payPaymentRequest_closes committed).2]
    exact Table.sub_erase _ requestId
  · rw [(cancelPaymentRequest_closes committed).2]
    exact Table.sub_erase _ requestId
  · obtain ⟨_, removed⟩ := Tx.commits_discard.mp committed
    exact (cancelExpiredPaymentRequests_swept removed).sub

theorem Call.requests_same (committed : call.exec.Commits env world () next) {id : Text}
    (stores : id ∈ call.orderIds)
    (paid : ∀ payer requestId, call ≠ .multisig (.payPaymentRequest payer requestId)) :
    next.requests.records = world.requests.records := by
  rcases call.requests_cases with silent | ⟨_, _, _, _, _, _, rfl⟩ | ⟨payer, requestId, rfl⟩ |
    ⟨_, _, rfl⟩ | ⟨_, rfl⟩
  · have writes := call.writes
    exact same_part call.parts committed .requests silent
  · simp [Call.orderIds] at stores
  · exact absurd rfl (paid payer requestId)
  · simp [Call.orderIds] at stores
  · simp [Call.orderIds] at stores

/-- A call keeps the open requests payable exactly if it leaves their identifiers alone. -/
theorem World.Unblocked.kept_iff (unblocked : world.Unblocked)
    (committed : call.exec.Commits env world () next) :
    next.Unblocked ↔ LeavesRequests world call := by
  have move := Call.move committed
  have clock : next.timestamp = world.timestamp := by
    have writes := call.writes
    exact congrArg Prod.fst (same_part call.parts committed .clock call.clock_not_mem_parts)
  unfold LeavesRequests
  split
  · next merchant requestId token amount memo ttl =>
      obtain ⟨request, rfl, _, _, _, _, current, rfl⟩ := createPaymentRequest_opens committed
      constructor
      · intro after
        exact after request.requestId request (Table.get_put_self _ request) current
      · intro free id other stored unexpired
        rcases Table.get_put_cases stored with ⟨rfl, rfl⟩ | stored
        · exact free
        · exact unblocked id other stored unexpired
  · next payer requestId =>
      refine iff_of_true (fun id request stored unexpired => ?_) trivial
      obtain ⟨_, closed⟩ := payPaymentRequest_closes committed
      rw [closed, Table.get_erase] at stored
      split at stored
      · cases stored
      · next other =>
          rw [clock] at unexpired
          by_contra taken
          obtain ⟨payment, found⟩ := Option.ne_none_iff_exists'.mp taken
          rcases move.stored_cases found with ⟨old, before⟩ | own
          · rw [unblocked id request stored unexpired] at before
            cases before
          · exact other (List.mem_singleton.mp own)
  · next created paid =>
      constructor
      · intro after id member request stored
        have kept := Call.requests_same committed member paid
        by_contra unexpired
        obtain ⟨payment, found⟩ := move.stored_of_mem member
        rw [Option.mem_def, World.getPaymentRequest, ← kept] at stored
        have free := after id request stored (by rwa [clock])
        cases free.symm.trans found
      · intro leaves id request stored unexpired
        rw [clock] at unexpired
        have before := Call.requests_sub committed created id request stored
        by_contra taken
        obtain ⟨payment, found⟩ := Option.ne_none_iff_exists'.mp taken
        rcases move.stored_cases found with ⟨old, earlier⟩ | own
        · rw [unblocked id request before unexpired] at earlier
          cases earlier
        · exact unexpired (leaves id own request before)

theorem quiet_of_blocks (blocks : ¬ LeavesRequests world call) :
    .pausing ∉ call.parts ∧ ¬ call.Overlooks world := by
  rcases call with call | call | call | call | call | call | call <;> cases call <;>
    simp [LeavesRequests, Call.orderIds, PaymentCall.terms, Call.parts,
      PaymentCall.parts, MultisigCall.parts, Call.Overlooks] at blocks ⊢

theorem World.Unblocked.unpaused_of_blocks (unblocked : world.Unblocked)
    (committed : call.exec.Commits env world () next) (blocks : ¬ LeavesRequests world call) :
    next.gov.paused = false := by
  obtain ⟨silent, harmless⟩ := quiet_of_blocks blocks
  have writes := call.writes
  have same : next.gov.paused = world.gov.paused :=
    congrArg Pausing.paused (same_part call.parts committed .pausing silent)
  have clock : next.timestamp = world.timestamp :=
    congrArg Prod.fst (same_part call.parts committed .clock call.clock_not_mem_parts)
  rw [same]
  by_contra paused
  have kept := (Call.records_iff committed (by simpa using paused)).mpr harmless
  refine blocks ((unblocked.kept_iff committed).mp fun id request stored unexpired => ?_)
  have requests : next.requests.records = world.requests.records := congrArg Records.requests kept
  have payments : next.payments.orders = world.payments.orders := congrArg Records.payments kept
  rw [requests] at stored
  rw [clock] at unexpired
  rw [payments]
  exact unblocked id request stored unexpired

end Steps

section Payable

variable {host : Host} {world : World} {request : PaymentRequest}

/-- The checks of the payment of a request. -/
structure PaymentRequest.Fulfillable (env : Env) (world : World) (payer : Address)
    (request : PaymentRequest) : Prop where
  sized : Sized request.requestId
  unpaused : world.gov.paused = false
  authorised : env.Authorised payer
  current : world.timestamp ≤ request.expiresAt
  free : world.payments.orders.get request.requestId = none
  permitted : env.permits
    (.transfer request.token payer request.merchant request.amount) = true
  nonneg : 0 ≤ request.amount
  funded : request.amount ≤ world.bank.balance request.token payer
  merchantRoom : (world.payments.merchantIds request.merchant).length < maxPaymentIdsPerAccount
  payerRoom : (world.payments.payerIds payer).length < maxPaymentIdsPerAccount
  counted : world.stats.global.totalPayments + 1 ≤ u32Max

/-- Whoever authorises it passes all checks of the contract; where the tokens are there and both
indexes have room, the payment succeeds. -/
structure PaymentRequest.Payable (host : Host) (world : World) (request : PaymentRequest)
    (payer : Address) (auth : List Address) (permits : TokenCall → Bool) : Prop where
  passes : ∀ error, (Call.multisig (.payPaymentRequest payer request.requestId)).dispatch
    (host.env auth permits) world = .error (.error error) → error = .paymentHistoryLimitExceeded
  succeeds : permits (.transfer request.token payer request.merchant request.amount) = true →
    request.amount ≤ world.bank.balance request.token payer →
    (world.getMerchantPaymentIds request.merchant).length < maxPaymentIdsPerAccount →
    (world.getPayerPaymentIds payer).length < maxPaymentIdsPerAccount →
      Accepted host world auth permits (.multisig (.payPaymentRequest payer request.requestId))

/-- Every request that has not expired can be paid while nothing is paused. -/
def World.RequestsPayable (host : Host) (world : World) : Prop :=
  ∀ id request, world.requests.records.get id = some request →
    ¬ request.Expired world.timestamp → world.gov.paused = false →
      ∀ payer auth permits, (host.env auth permits).Authorised payer →
        request.Payable host world payer auth permits

/-- The identifier and the amount of a request are as `create_payment_request` checks them. -/
def PaymentRequest.Sound (request : PaymentRequest) : Prop :=
  Sized request.requestId ∧ 0 ≤ request.amount

variable {payer : Address} {auth : List Address} {permits : TokenCall → Bool}

theorem payPaymentRequest_fails {env : Env} {error : PaymentError}
    (stored : world.requests.records.get request.requestId = some request)
    (unexpired : ¬ request.Expired world.timestamp) (unpaused : world.gov.paused = false)
    (free : world.payments.orders.get request.requestId = none)
    (failed : (payPaymentRequest payer request.requestId).Fails env world (.error error)) :
    error = .paymentHistoryLimitExceeded := by
  have current : ¬ request.expiresAt < world.timestamp := unexpired
  simp [payPaymentRequest, requireNotPaused, tokenTransfer, tokenAuth, tokenPermits,
    recordPayment, addMerchantPaymentId, addPayerPaymentId, countGlobalPayment, countedPayment,
    unpaused, stored, current, free] at failed
  obtain ⟨_, _, _, ⟨_, limit⟩ | ⟨_, _, limit⟩⟩ := failed
  · exact limit
  · exact limit

/-- The payment of a request makes exactly these checks. -/
theorem payPaymentRequest_succeeds_iff {requestId : Text} :
    Accepted host world auth permits (.multisig (.payPaymentRequest payer requestId)) ↔
      ∃ request, world.requests.records.get requestId = some request ∧
        request.Fulfillable (host.env auth permits) world payer := by
  constructor
  · rintro ⟨next, succeeded⟩
    obtain ⟨sized, executed⟩ := succeeds_iff.mp succeeded
    simp [Call.exec, MultisigCall.exec, payPaymentRequest, recordPayment, addMerchantPaymentId,
      addPayerPaymentId, countGlobalPayment, countedPayment] at executed
    obtain ⟨unpaused, authorised, request, stored, current, free, ⟨_, permitted, nonneg, funded⟩,
      ⟨merchantRoom, payerRoom⟩, counted, _⟩ := executed
    obtain rfl := Table.key_of_get stored
    exact ⟨request, stored, sized, unpaused, authorised, current, free, permitted, nonneg, funded,
      merchantRoom, payerRoom, counted⟩
  · rintro ⟨request, stored, payable⟩
    obtain rfl := Table.key_of_get stored
    have counted : world.stats.global.totalPayments < u32Max := payable.counted
    have committed : ∃ next, (payPaymentRequest payer request.requestId).Commits
        (host.env auth permits) world () next := by
      simp [payPaymentRequest, recordPayment, addMerchantPaymentId, addPayerPaymentId,
        countGlobalPayment, countedPayment, payable.unpaused, payable.authorised, stored,
        payable.current, payable.free, payable.permitted, payable.nonneg, payable.funded,
        payable.merchantRoom, payable.payerRoom, counted]
    obtain ⟨next, executed⟩ := committed
    exact ⟨next, succeeds_iff.mpr ⟨payable.sized, executed⟩⟩

theorem World.Unblocked.payable (unblocked : world.Unblocked)
    (sound : world.requests.records.All PaymentRequest.Sound)
    (counted : world.stats.global.totalPayments < u32Max) : world.RequestsPayable host := by
  intro id request stored unexpired unpaused payer auth permits authorised
  obtain rfl := Table.key_of_get stored
  have free := unblocked _ request stored unexpired
  constructor
  · intro error refused
    rcases Tx.fails_bind.mp refused with trapped | ⟨_, _, fits, failed⟩
    · simp at trapped
    · simp at fits
      rw [fits.2] at failed
      exact payPaymentRequest_fails stored unexpired unpaused free failed
  · intro permitted funded merchantRoom payerRoom
    exact payPaymentRequest_succeeds_iff.mpr ⟨request, stored, (sound _ _ stored).1, unpaused,
      authorised, not_lt.mp unexpired, free, permitted, (sound _ _ stored).2, funded,
      merchantRoom, payerRoom, counted⟩

theorem payPaymentRequest_refused {env : Env} {payment : PaymentOrder}
    (stored : world.requests.records.get request.requestId = some request)
    (unexpired : ¬ request.Expired world.timestamp) (unpaused : world.gov.paused = false)
    (taken : world.payments.orders.get request.requestId = some payment)
    (authorised : env.Authorised payer) :
    (payPaymentRequest payer request.requestId).Fails env world
      (.error .paymentAlreadyExists) := by
  have current : world.timestamp ≤ request.expiresAt := not_lt.mp unexpired
  simp [payPaymentRequest, requireNotPaused, unpaused, authorised, stored, current, taken]

theorem exists_payer (host : Host) : ∃ payer : Address, payer ≠ host.self := by
  by_cases self : host.self = .account 0
  · exact ⟨.account 1, by simp [self]⟩
  · exact ⟨.account 0, Ne.symm self⟩

/-- A payment under the identifier of an open request stands in its way. -/
theorem World.RequestsPayable.unblocked (payable : world.RequestsPayable host)
    (sound : world.requests.records.All PaymentRequest.Sound)
    (unpaused : world.gov.paused = false) : world.Unblocked := by
  intro id request stored unexpired
  obtain rfl := Table.key_of_get stored
  by_contra taken
  obtain ⟨payment, found⟩ := Option.ne_none_iff_exists'.mp taken
  obtain ⟨payer, other⟩ := exists_payer host
  have authorised : (host.env [payer] fun _ => true).Authorised payer :=
    ⟨other, List.mem_singleton_self payer⟩
  have fits : (trapUnless (Call.multisig (.payPaymentRequest payer request.requestId)).Fits).Commits
      (host.env [payer] fun _ => true) world () world :=
    Tx.commits_require.mpr ⟨(sound _ _ stored).1, rfl⟩
  have refused : (Call.multisig (.payPaymentRequest payer request.requestId)).dispatch.Fails
      (host.env [payer] fun _ => true) world (.error .paymentAlreadyExists) :=
    Tx.fails_bind.mpr (.inr ⟨(), world, fits,
      payPaymentRequest_refused stored unexpired unpaused found authorised⟩)
  exact absurd ((payable _ request stored unexpired unpaused payer [payer] _ authorised).passes _
    refused) (by simp)

end Payable

section Runs

/-- An action, or the end of a temporary entry: of a request, or of the index of the requests. -/
inductive RequestEvent where
  | act (action : Action)
  | lapse (requestId : Text)
  | lapseIndex

def RequestEvent.step (host : Host) (world : World) : RequestEvent → World
  | .act action => LumenFlow.step host world action
  | .lapse requestId =>
      world.updateRequests fun book => { book with records := book.records.erase requestId }
  | .lapseIndex => world.updateRequests fun book => { book with ids := [] }

/-- The event is a call that leaves the identifiers of the open requests alone, or none. -/
def RequestEvent.LeavesIds (host : Host) (world : World) : RequestEvent → Prop
  | .act action => AcceptsOnly host LeavesRequests world action
  | .lapse _ | .lapseIndex => True

/-- The entry of a request ends after the request has expired. -/
def RequestEvent.EndsLate (world : World) : RequestEvent → Prop
  | .lapse requestId => ∀ request ∈ world.getPaymentRequest requestId,
      request.Expired world.timestamp
  | .act _ | .lapseIndex => True

instance (host : Host) (world : World) (event : RequestEvent) :
    Decidable (event.LeavesIds host world) :=
  match event with
  | .act action => inferInstanceAs (Decidable (AcceptsOnly host LeavesRequests world action))
  | .lapse _ | .lapseIndex => .isTrue trivial

instance (world : World) (event : RequestEvent) : Decidable (event.EndsLate world) :=
  match event with
  | .lapse _ => inferInstanceAs (Decidable (∀ request ∈ _, _))
  | .act _ | .lapseIndex => .isTrue trivial

variable {host : Host} {world start : World} {action : Action} {event : RequestEvent} {id : Text}

def PaysRequest (host : Host) (id : Text) (world : World) (event : RequestEvent) : Prop :=
  ∃ auth permits payer,
    event = .act (.invoke auth permits (.multisig (.payPaymentRequest payer id))) ∧
    Accepted host world auth permits (.multisig (.payPaymentRequest payer id))

def OpensRequest (host : Host) (id : Text) (world : World) (event : RequestEvent) : Prop :=
  ∃ auth permits merchant token amount memo ttl,
    event = .act (.invoke auth permits
      (.multisig (.createPaymentRequest merchant id token amount memo ttl))) ∧
    Accepted host world auth permits
      (.multisig (.createPaymentRequest merchant id token amount memo ttl))

/-- Its merchant cancels the request. -/
def CancelsRequest (host : Host) (request : PaymentRequest) (world : World)
    (event : RequestEvent) : Prop :=
  ∃ auth permits,
    event = .act (.invoke auth permits
      (.multisig (.cancelPaymentRequest request.merchant request.requestId))) ∧
    Accepted host world auth permits
      (.multisig (.cancelPaymentRequest request.merchant request.requestId))

/-- A request that has not expired stays as it is until it is paid or its merchant cancels it. -/
def RequestsStay (host : Host) (world : World) (event : RequestEvent) : Prop :=
  ∀ id request, world.requests.records.get id = some request →
    ¬ request.Expired world.timestamp →
      (event.step host world).requests.records.get id = some request ∨
        PaysRequest host id world event ∨ CancelsRequest host request world event

/-- Nobody pays a request again before it is opened again. -/
def PaidOnce (host : Host) (start : World) (events : List RequestEvent) : Prop :=
  ∀ id before first during second after,
    events = before ++ first :: (during ++ second :: after) →
      PaysRequest host id (run (RequestEvent.step host) start before) first →
      Along (RequestEvent.step host) (fun world event => ¬ OpensRequest host id world event)
        (first.step host (run (RequestEvent.step host) start before)) during →
      ¬ PaysRequest host id (run (RequestEvent.step host)
        (first.step host (run (RequestEvent.step host) start before)) during) second

theorem requests_of_not_invoke (outside : ∀ auth permits call, action ≠ .invoke auth permits call) :
    (step host world action).requests = world.requests := by
  cases action with
  | invoke auth permits call => exact absurd rfl (outside auth permits call)
  | tokens operation =>
      simp only [step]
      split <;> rfl
  | advance ledgers seconds => rfl

theorem requests_of_refused (refused : ∀ auth permits call, action = .invoke auth permits call →
      ¬ Accepted host world auth permits call) :
    (step host world action).requests = world.requests := by
  cases action with
  | invoke auth permits call => rw [step_of_refused (refused auth permits call rfl)]
  | tokens operation => exact requests_of_not_invoke (by simp)
  | advance ledgers seconds => exact requests_of_not_invoke (by simp)

theorem kept_of_erased {next : World} {requestId : Text} {request : PaymentRequest}
    (closed : next.requests.records = world.requests.records.erase requestId)
    (stored : world.requests.records.get id = some request) :
    next.requests.records.get id = some request ∨ id = requestId := by
  by_cases same : id = requestId
  · exact .inr same
  · rw [closed, Table.get_erase, if_neg same]
    exact .inl stored

theorem requestsStay_accepted {auth : List Address} {permits : TokenCall → Bool} {call : Call}
    (accepted : Accepted host world auth permits call) :
    RequestsStay host world (.act (.invoke auth permits call)) := by
  intro id request stored unexpired
  rw [RequestEvent.step]
  have committed := accepted.succeeds.executes
  rcases call.requests_cases with silent | ⟨_, requestId, _, _, _, _, rfl⟩ |
    ⟨payer, requestId, rfl⟩ | ⟨caller, requestId, rfl⟩ | ⟨admin, rfl⟩
  · have writes := call.writes
    have same : (step host world (.invoke auth permits call)).requests.records =
        world.requests.records := same_part call.parts committed .requests silent
    rw [same]
    exact .inl stored
  · obtain ⟨opened, rfl, _, _, _, free, _, written⟩ := createPaymentRequest_opens committed
    have other : id ≠ opened.requestId := by
      rintro rfl
      rw [stored] at free
      cases free
    rw [written]
    exact .inl ((Table.get_put_of_ne other).trans stored)
  · rcases kept_of_erased (payPaymentRequest_closes committed).2 stored with kept | rfl
    · exact .inl kept
    · exact .inr (.inl ⟨auth, permits, payer, rfl, accepted⟩)
  · obtain ⟨⟨found, here, merchant⟩, closed⟩ := cancelPaymentRequest_closes committed
    rcases kept_of_erased closed stored with kept | rfl
    · exact .inl kept
    · obtain rfl := Option.some.inj (here.symm.trans stored)
      subst merchant
      obtain rfl := Table.key_of_get stored
      exact .inr (.inr ⟨auth, permits, rfl, accepted⟩)
  · obtain ⟨_, removed⟩ := Tx.commits_discard.mp committed
    have swept := cancelExpiredPaymentRequests_swept removed
    left
    rw [(swept id).2 ?_]
    · exact stored
    · rintro ⟨_, other, found, expired⟩
      obtain rfl := Option.some.inj (stored.symm.trans found)
      exact unexpired expired

theorem requestsStay_act (host : Host) (world : World) (action : Action) :
    RequestsStay host world (.act action) := by
  by_cases succeeds : ∃ auth permits call, action = .invoke auth permits call ∧
      Accepted host world auth permits call
  · obtain ⟨auth, permits, call, rfl, accepted⟩ := succeeds
    exact requestsStay_accepted accepted
  · intro id request stored unexpired
    rw [RequestEvent.step, requests_of_refused fun auth permits call same accepted =>
      succeeds ⟨auth, permits, call, same, accepted⟩]
    exact .inl stored

/-- The requests stay exactly if no open one lapses. -/
theorem requestsStay_iff : RequestsStay host world event ↔ event.EndsLate world := by
  cases event with
  | act action => exact iff_of_true (requestsStay_act host world action) trivial
  | lapse requestId =>
      constructor
      · intro stay request stored
        by_contra unexpired
        rcases stay requestId request stored unexpired with kept | ⟨_, _, _, same, _⟩ |
          ⟨_, _, same, _⟩
        · change (world.requests.records.erase requestId).get requestId = some request at kept
          rw [Table.get_erase, if_pos rfl] at kept
          cases kept
        · cases same
        · cases same
      · intro late id request stored unexpired
        left
        change (world.requests.records.erase requestId).get id = some request
        rw [Table.get_erase, if_neg ?_]
        · exact stored
        · rintro rfl
          exact unexpired (late request stored)
  | lapseIndex => exact iff_of_true (fun _ _ stored _ => .inl stored) trivial

theorem closed_until_opened_act (closed : world.requests.records.get id = none)
    (quiet : ¬ OpensRequest host id world (.act action)) :
    (step host world action).requests.records.get id = none := by
  by_contra appears
  obtain ⟨request, stored⟩ := Option.ne_none_iff_exists'.mp appears
  by_cases succeeds : ∃ auth permits call, action = .invoke auth permits call ∧
      Accepted host world auth permits call
  · obtain ⟨auth, permits, call, rfl, accepted⟩ := succeeds
    have committed := accepted.succeeds.executes
    by_cases opening : ∃ merchant requestId token amount memo ttl,
        call = .multisig (.createPaymentRequest merchant requestId token amount memo ttl)
    · obtain ⟨merchant, requestId, token, amount, memo, ttl, rfl⟩ := opening
      obtain ⟨opened, rfl, _, _, _, _, _, written⟩ := createPaymentRequest_opens committed
      rw [written] at stored
      rcases Table.get_put_cases stored with ⟨rfl, _⟩ | before
      · exact quiet ⟨auth, permits, merchant, token, amount, memo, ttl, rfl, accepted⟩
      · cases closed.symm.trans before
    · have sub := Call.requests_sub committed
        fun merchant requestId token amount memo ttl same =>
          opening ⟨merchant, requestId, token, amount, memo, ttl, same⟩
      cases closed.symm.trans (sub id request stored)
  · rw [requests_of_refused fun auth permits call same accepted =>
      succeeds ⟨auth, permits, call, same, accepted⟩, closed] at stored
    cases stored

theorem closed_until_opened (closed : world.requests.records.get id = none)
    (quiet : ¬ OpensRequest host id world event) :
    (event.step host world).requests.records.get id = none := by
  cases event with
  | act action => exact closed_until_opened_act closed quiet
  | lapse requestId =>
      change (world.requests.records.erase requestId).get id = none
      rw [Table.get_erase]
      split
      · rfl
      · exact closed
  | lapseIndex => exact closed

/-- What the runs that leave the open requests alone keep. -/
structure World.RequestsReady (world : World) : Prop where
  unblocked : world.Unblocked
  sound : world.requests.records.All PaymentRequest.Sound
  clock : world.timestamp ≤ u64Max ∨ ∀ id, world.requests.records.get id = none

theorem Deployed.requestsReady (deployed : Deployed host start) : start.RequestsReady := by
  obtain ⟨bank, timestamp, sequence, _, _, rfl⟩ := deployed
  have empty (id : Text) :
      (World.deployed bank timestamp sequence).requests.records.get id = none := rfl
  exact ⟨fun id request stored => by simp [empty] at stored,
    fun id request stored => by simp [empty] at stored, .inr empty⟩

/-- A call leaves requests that are sound, and opens them only while time can be told. -/
theorem Call.requests_sound {env : Env} {next : World} {call : Call}
    (committed : call.exec.Commits env world () next)
    (sound : world.requests.records.All PaymentRequest.Sound)
    (clock : world.timestamp ≤ u64Max ∨ ∀ id, world.requests.records.get id = none) :
    next.requests.records.All PaymentRequest.Sound ∧
      (next.timestamp ≤ u64Max ∨ ∀ id, next.requests.records.get id = none) := by
  have same : next.timestamp = world.timestamp := by
    have writes := call.writes
    exact congrArg Prod.fst (same_part call.parts committed .clock call.clock_not_mem_parts)
  rw [same]
  by_cases opening : ∃ merchant requestId token amount memo ttl,
      call = .multisig (.createPaymentRequest merchant requestId token amount memo ttl)
  · obtain ⟨merchant, requestId, token, amount, memo, ttl, rfl⟩ := opening
    obtain ⟨opened, rfl, _, fits, inTime, _, _, rfl⟩ := createPaymentRequest_opens committed
    refine ⟨fun id request stored => ?_, .inl inTime⟩
    rcases Table.get_put_cases stored with ⟨_, rfl⟩ | before
    · exact fits
    · exact sound id request before
  · have sub := Call.requests_sub committed fun merchant requestId token amount memo ttl same =>
      opening ⟨merchant, requestId, token, amount, memo, ttl, same⟩
    refine ⟨fun id request stored => sound id request (sub id request stored), ?_⟩
    apply clock.imp_right
    intro none id
    by_contra appears
    obtain ⟨request, stored⟩ := Option.ne_none_iff_exists'.mp appears
    cases (none id).symm.trans (sub id request stored)

theorem World.RequestsReady.act (ready : world.RequestsReady)
    (met : AcceptsOnly host LeavesRequests world action) :
    (LumenFlow.step host world action).RequestsReady := by
  cases action with
  | invoke auth permits call =>
      by_cases accepted : Accepted host world auth permits call
      · have committed := accepted.succeeds.executes
        obtain ⟨sound, clock⟩ := Call.requests_sound committed ready.sound ready.clock
        exact ⟨(ready.unblocked.kept_iff committed).mpr (met accepted), sound, clock⟩
      · rwa [step_of_refused accepted]
  | tokens operation =>
      simp only [LumenFlow.step]
      split
      · exact ready
      · exact ⟨ready.unblocked, ready.sound, ready.clock⟩
  | advance ledgers seconds =>
      refine ⟨fun id request stored unexpired => ?_, ready.sound, .inl (Nat.min_le_left _ _)⟩
      rcases ready.clock with inTime | none
      · -- A request that has not expired had not expired before.
        refine ready.unblocked id request stored fun expired => unexpired ?_
        have grown : world.timestamp ≤ min u64Max (world.timestamp + seconds) :=
          le_min inTime (Nat.le_add_right _ _)
        exact lt_of_lt_of_le expired grown
      · cases (none id).symm.trans stored

theorem World.RequestsReady.step (ready : world.RequestsReady)
    (leaves : event.LeavesIds host world) : (event.step host world).RequestsReady := by
  cases event with
  | act action => exact ready.act leaves
  | lapse requestId =>
      have sub : (world.requests.records.erase requestId).Sub world.requests.records :=
        Table.sub_erase _ requestId
      refine ⟨fun id request stored => ready.unblocked id request (sub id request stored),
        fun id request stored => ready.sound id request (sub id request stored), ?_⟩
      refine ready.clock.imp_right fun none id => ?_
      change (world.requests.records.erase requestId).get id = _
      rw [Table.get_erase, none, ite_self]
  | lapseIndex => exact ⟨ready.unblocked, ready.sound, ready.clock⟩

/-- In a ready world an event keeps the requests payable exactly if it leaves them alone. -/
theorem World.RequestsReady.payable_iff (ready : world.RequestsReady)
    (counted : (event.step host world).stats.global.totalPayments < u32Max) :
    (event.step host world).RequestsPayable host ↔ event.LeavesIds host world := by
  constructor
  · intro payable
    cases event with
    | act action =>
        cases action with
        | invoke auth permits call =>
            intro accepted
            have committed := accepted.succeeds.executes
            by_contra blocks
            have unpaused := ready.unblocked.unpaused_of_blocks committed blocks
            have sound := (Call.requests_sound committed ready.sound ready.clock).1
            exact blocks ((ready.unblocked.kept_iff committed).mp
              (payable.unblocked sound unpaused))
        | tokens operation => trivial
        | advance ledgers seconds => trivial
    | lapse requestId => trivial
    | lapseIndex => trivial
  · intro leaves
    have after := ready.step leaves
    exact after.unblocked.payable after.sound counted

/-- From its opening until it is paid, cancelled or expired, a request is there and can be paid,
and it is paid once. -/
structure RequestsHonoured (host : Host) (start : World) (events : List RequestEvent) : Prop where
  payable : Throughout (RequestEvent.step host) (World.RequestsPayable host) start events
  stay : Along (RequestEvent.step host) (RequestsStay host) start events
  once : PaidOnce host start events

theorem paidOnce (host : Host) (start : World) (events : List RequestEvent) :
    PaidOnce host start events := by
  intro id before first during second after split pays quiet again
  obtain ⟨auth, permits, payer, rfl, accepted⟩ := pays
  have closed := (payPaymentRequest_closes accepted.succeeds.executes).2
  have gone := run_invariant_along (fun _ _ => closed_until_opened)
    (by rw [RequestEvent.step, closed, Table.get_erase, if_pos rfl]) quiet
  obtain ⟨_, _, _, rfl, accepted⟩ := again
  obtain ⟨request, stored⟩ := (payPaymentRequest_closes accepted.succeeds.executes).1
  cases gone.symm.trans stored

/-- The requests of a run are honoured exactly if each accepted call leaves the identifiers of the
open requests alone and no entry of an open request ends. -/
theorem requests_honoured_iff (deployed : Deployed host start) (events : List RequestEvent)
    (counted : Throughout (RequestEvent.step host)
      (fun world => world.stats.global.totalPayments < u32Max) start events) :
    RequestsHonoured host start events ↔
      Along (RequestEvent.step host)
        (fun world event => event.LeavesIds host world ∧ event.EndsLate world) start events := by
  have initial := deployed.requestsReady
  have payable : Throughout (RequestEvent.step host) (World.RequestsPayable host) start events ↔
      Along (RequestEvent.step host) (fun world event => event.LeavesIds host world) start events :=
    throughout_iff_along (fun _ _ ready _ counts => ready.payable_iff counts.2)
      (fun _ _ ready _ _ leaves => ready.step leaves) initial
      (initial.unblocked.payable initial.sound counted.here) counted.along
  rw [along_and, ← payable]
  constructor
  · intro honoured
    exact ⟨honoured.payable, along_mono (fun _ _ => requestsStay_iff.mp) honoured.stay⟩
  · rintro ⟨pays, late⟩
    exact ⟨pays, along_mono (fun _ _ => requestsStay_iff.mpr) late, paidOnce host start events⟩

end Runs

/-- Somebody else pays an order under the identifier of an open request. -/
def Sample.squatting : List Action := [
  invokedBy shop (.multisig (.createPaymentRequest shop [1] coin 500 [] 3600)),
  invokedBy rival (.payment (.processPaymentWithNonce rival [1] shop coin 1 [] none 0))]

/-- The request can then not be paid. -/
theorem squatted_request_unpayable :
    ¬ RequestsHonoured Sample.host Sample.start
      ((Sample.opening ++ Sample.squatting).map .act) := by
  have reached : run (RequestEvent.step Sample.host) Sample.start
      ((Sample.opening ++ Sample.squatting).map .act) = Sample.world Sample.squatting :=
    List.foldl_map ..
  have state : (Sample.world Sample.squatting).gov.paused = false ∧
      ((Sample.world Sample.squatting).payments.orders.get [1]).isSome ∧
      ((Sample.world Sample.squatting).requests.records.get [1]).map
        (fun request => (request.requestId, request.expiresAt)) = some ([1], 3600) := by
    decide +kernel
  obtain ⟨unpaused, taken, opened⟩ := state
  obtain ⟨payment, paid⟩ := Option.isSome_iff_exists.mp taken
  obtain ⟨request, stored, terms⟩ := Option.map_eq_some_iff.mp opened
  obtain ⟨named, limit⟩ := Prod.mk.inj terms
  have current : (Sample.world Sample.squatting).timestamp ≤ request.expiresAt := by
    rw [limit]
    decide +kernel
  intro honoured
  have last := honoured.payable _ [] (List.append_nil _).symm
  rw [reached] at last
  have payable := last [1] request stored (not_lt.mpr current) unpaused Sample.payer
    [Sample.payer] (fun _ => true) (by decide)
  have refused : (Call.multisig (.payPaymentRequest Sample.payer request.requestId)).dispatch
      (Sample.host.env [Sample.payer] fun _ => true) (Sample.world Sample.squatting) =
        .error (.error .paymentAlreadyExists) :=
    Tx.fails_bind.mpr (.inr ⟨(), _, Tx.commits_require.mpr ⟨by rw [named]; decide, rfl⟩,
      payPaymentRequest_refused (named ▸ stored) (not_lt.mpr current) unpaused (named ▸ paid)
        (by decide)⟩)
  exact absurd (payable.passes _ refused) (by simp)

/-- A request is paid, and another one is there until its entry ends after its last second. -/
def Sample.honouring : List RequestEvent :=
  (opening ++ [
    invokedBy shop (.multisig (.createPaymentRequest shop [1] coin 500 [] 3600)),
    invokedBy shop (.multisig (.createPaymentRequest shop [2] coin 700 [] 60)),
    invokedBy payer (.multisig (.payPaymentRequest payer [1])),
    .advance 13 61]).map .act ++ [.lapse [2], .lapseIndex]

theorem requests_honoured_iff_sample :
    RequestsHonoured Sample.host Sample.start Sample.honouring := by
  let counts (world : World) : Prop := world.stats.global.totalPayments < u32Max
  have initial : counts Sample.start := by decide
  have next : Along (RequestEvent.step Sample.host)
      (fun world event => counts (event.step Sample.host world)) Sample.start
        Sample.honouring := by
    decide +kernel
  have kept : ∀ world event, counts world → counts (RequestEvent.step Sample.host world event) →
      counts (RequestEvent.step Sample.host world event) := fun _ _ _ below => below
  have counted := throughout_of_along kept initial next
  exact (requests_honoured_iff Sample.deployed_start _ counted).mpr (by decide +kernel)

end LumenFlow

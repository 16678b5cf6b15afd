import Mathlib.Data.List.Sort
import LumenFlow.Kit.Paging
import LumenFlow.Safety.Isolation

/-!
# Paging through the history

The pages of a history that does not change follow each other without a gap and without a
repetition.  While payments change, the payments that stay are shown once as long as they keep
their place beside the payment of each cursor.
-/

namespace LumenFlow

open Kit Contract

/-- Sorting by the comparison of a page orders the payments. -/
structure Host.SortsInOrder (host : Host) : Prop where
  sorts : host.Sorts
  ordered : ∀ sortField sortOrder payments,
    (host.sortUnstableBy (comparePayments sortField sortOrder) payments).Pairwise
      fun first second => comparePayments sortField sortOrder first second ≠ .gt

/-- The stored payments of an index that match a filter. -/
def World.matching (world : World) (ids : List Text) (filter : Option PaymentFilter) :
    List PaymentOrder :=
  (ids.filterMap world.getPayment).filter (matchesFilter · filter)

section Pages

variable {host : Host} {world : World} {ids : List Text} {filter : Option PaymentFilter}
  {sortField : SortField} {sortOrder : SortOrder} {limit : Nat}

theorem matching_nodup (world : World) (distinct : ids.Nodup) (filter : Option PaymentFilter) :
    ((world.matching ids filter).map PaymentOrder.orderId).Nodup := by
  have stored : ((ids.filterMap world.getPayment).map PaymentOrder.orderId).Nodup := by
    rw [show ids.filterMap world.getPayment = ids.filterMap world.payments.orders.get from rfl,
      Table.map_key_filterMap_get]
    exact distinct.filter _
  exact stored.sublist (List.filter_sublist.map _)

theorem sorted_nodup (sorts : host.Sorts) (world : World) (distinct : ids.Nodup)
    (filter : Option PaymentFilter) (sortField : SortField) (sortOrder : SortOrder) :
    ((host.sortUnstableBy (comparePayments sortField sortOrder)
      (world.matching ids filter)).map PaymentOrder.orderId).Nodup :=
  ((sorts _ _).map PaymentOrder.orderId).nodup_iff.mpr (matching_nodup world distinct filter)

theorem startIndex_eq (cursor : Option Text) (sorted : List PaymentOrder) :
    startIndex cursor sorted = Paging.startIndex PaymentOrder.orderId cursor sorted := by
  cases cursor <;> rfl

/-- `build_page` shows what comes after the cursor in the sorted list of the matching payments. -/
theorem buildPage_shows (host : Host) (ids : World → List Text) (limit : Nat)
    (filter : Option PaymentFilter) (sortField : SortField) (sortOrder : SortOrder)
    {fetch : World → Option Text → PaymentPage → Prop}
    (builds : ∀ {world cursor page}, fetch world cursor page →
      page = buildPage host world (ids world) cursor limit filter sortField sortOrder) :
    Paging.Shows PaymentOrder.orderId limit
      (fun world => host.sortUnstableBy (comparePayments sortField sortOrder)
        (world.matching (ids world) filter))
      PaymentPage.payments PaymentPage.nextCursor fetch where
  items_eq fetched := by
    rw [builds fetched]
    simp only [buildPage, startIndex_eq]
    rfl
  next_eq fetched := by
    rw [builds fetched]
    simp only [buildPage, startIndex_eq]
    rfl

/-- The pages that one gets from a fixed state by following the next cursor to its end. -/
def PagesThrough (host : Host) (world : World) (ids : List Text) (limit : Nat)
    (filter : Option PaymentFilter) (sortField : SortField) (sortOrder : SortOrder)
    (pages : List PaymentPage) : Prop :=
  ∃ count, Paging.Walk
    (fun world cursor page =>
      page = buildPage host world ids cursor limit filter sortField sortOrder)
    PaymentPage.nextCursor none (List.replicate count world) pages

/-- The pages show the sorted list piece by piece. -/
structure PageExactly (limit : Nat) (sorted : List PaymentOrder) (pages : List PaymentPage) :
    Prop where
  content : pages.flatMap PaymentPage.payments = sorted
  full : ∀ before page after, pages = before ++ page :: after → after ≠ [] →
    page.payments.length = limit
  ends : ∀ before page after, pages = before ++ page :: after →
    (page.nextCursor = none ↔ before.flatMap PaymentPage.payments ++ page.payments = sorted)
  total : ∀ page ∈ pages, page.totalMatching = sorted.length

theorem total_of_walk {source : World} {cursor : Option Text} {sources : List World}
    {pages : List PaymentPage} (sorts : host.Sorts)
    (walk : Paging.Walk (fun world cursor page =>
      page = buildPage host world ids cursor limit filter sortField sortOrder)
      PaymentPage.nextCursor cursor sources pages)
    (fixed : ∀ other ∈ sources, other = source) :
    ∀ page ∈ pages, page.totalMatching = (source.matching ids filter).length := by
  have total (cursor : Option Text) :
      (buildPage host source ids cursor limit filter sortField sortOrder).totalMatching =
        (source.matching ids filter).length :=
    (sorts _ _).length_eq
  induction walk with
  | last fetched ends =>
      obtain rfl := fixed _ List.mem_cons_self
      intro page member
      obtain rfl := List.mem_singleton.mp member
      rw [fetched, total]
  | more fetched continues rest inductionHypothesis =>
      obtain rfl := fixed _ List.mem_cons_self
      intro page member
      rcases List.mem_cons.mp member with rfl | member
      · rw [fetched, total]
      · exact inductionHypothesis
          (fun other among => fixed other (List.mem_cons_of_mem _ among)) page member

/-- From every state, index, filter and order, following the next cursor ends, and the pages show
the matching payments in order, each once. -/
theorem static_paging_exact (sorts : host.SortsInOrder) (world : World) (distinct : ids.Nodup)
    (positive : 1 ≤ limit) (filter : Option PaymentFilter) (sortField : SortField)
    (sortOrder : SortOrder) :
    (∃! pages, PagesThrough host world ids limit filter sortField sortOrder pages) ∧
      ∀ pages, PagesThrough host world ids limit filter sortField sortOrder pages →
        PageExactly limit
            (host.sortUnstableBy (comparePayments sortField sortOrder)
              (world.matching ids filter)) pages ∧
          (pages.flatMap PaymentPage.payments).Perm (world.matching ids filter) ∧
          ((pages.flatMap PaymentPage.payments).map PaymentOrder.orderId).Nodup ∧
          (pages.flatMap PaymentPage.payments).Pairwise fun first second =>
            comparePayments sortField sortOrder first second ≠ .gt := by
  have builds : ∀ {world cursor page},
      page = buildPage host world ids cursor limit filter sortField sortOrder →
      page = buildPage host world ids cursor limit filter sortField sortOrder := fun same => same
  have shows := buildPage_shows host (fun _ => ids) limit filter sortField sortOrder builds
  have once := sorted_nodup sorts.sorts world distinct filter sortField sortOrder
  have same (count : Nat) : ∀ other ∈ List.replicate count world, other = world :=
    fun other member => List.eq_of_mem_replicate member
  constructor
  · obtain ⟨count, pages, walk⟩ := Paging.Walk.exists shows positive world once
      (fun cursor => ⟨_, rfl⟩) none
    refine ⟨pages, ⟨count, walk⟩, ?_⟩
    rintro others ⟨otherCount, second⟩
    exact second.unique (fun first again => first.trans again.symm) (same _) (same _) walk
  · rintro pages ⟨count, walk⟩
    have content := walk.flatMap_eq shows positive (same count) once
    rw [Paging.after_none] at content
    refine ⟨⟨content, ?_, ?_, ?_⟩, ?_, ?_, ?_⟩
    · intro before page after split more
      refine walk.length_eq shows (fun source member => ?_) page (by simp [split]) ?_
      · rw [same count source member]
        exact once
      · exact fun none => more ((walk.next_eq_none_iff split).mp none)
    · intro before page after split
      exact walk.nothing_left_iff shows positive (same count) once split
    · intro page member
      rw [total_of_walk sorts.sorts walk (same count) page member]
      exact (sorts.sorts _ _).length_eq.symm
    · rw [content]
      exact sorts.sorts _ _
    · rwa [content]
    · rw [content]
      exact sorts.ordered sortField sortOrder _

end Pages

section Sorting

variable {sortField : SortField} {sortOrder : SortOrder}

/-- The first payment may stand before the second. -/
def Precedes (sortField : SortField) (sortOrder : SortOrder) (first second : PaymentOrder) :
    Prop :=
  comparePayments sortField sortOrder first second ≠ .gt

instance : DecidableRel (Precedes sortField sortOrder) := fun first second =>
  inferInstanceAs (Decidable (comparePayments sortField sortOrder first second ≠ .gt))

theorem precedes_date_iff {first second : PaymentOrder} :
    Precedes .date .ascending first second ↔ first.paidAt ≤ second.paidAt := by
  simp [Precedes, comparePayments, compare_gt_iff_gt]

theorem precedes_amount_iff {first second : PaymentOrder} :
    Precedes .amount .ascending first second ↔ first.amount ≤ second.amount := by
  simp [Precedes, comparePayments, compare_gt_iff_gt]

theorem precedes_descending_iff {first second : PaymentOrder} :
    Precedes sortField .descending first second ↔ Precedes sortField .ascending second first := by
  cases sortField <;> simp [Precedes, comparePayments, compare_gt_iff_gt, compare_lt_iff_lt]

instance : Std.Total (Precedes sortField sortOrder) where
  total first second := by
    cases sortOrder <;> cases sortField <;>
      simp only [precedes_descending_iff, precedes_date_iff, precedes_amount_iff] <;>
      exact le_total _ _

instance : IsTrans PaymentOrder (Precedes sortField sortOrder) where
  trans first second third head tail := by
    cases sortOrder <;> cases sortField <;>
      simp only [precedes_descending_iff, precedes_date_iff, precedes_amount_iff] at head tail ⊢ <;>
      omega

/-- A host that sorts by insertion. -/
def Sample.sortingHost : Host :=
  { Sample.host with
    sortUnstableBy := fun comparison payments =>
      payments.insertionSort fun first second => comparison first second ≠ .gt }

theorem Sample.sortingHost_sorts : Sample.sortingHost.SortsInOrder where
  sorts _ payments := List.perm_insertionSort _ payments
  ordered sortField sortOrder payments :=
    List.pairwise_insertionSort (Precedes sortField sortOrder) payments

end Sorting

/-- Three payments of the same payer to the same shop. -/
def Sample.purchases : List Action := [
  invokedBy payer (.payment (.processPaymentWithNonce payer [1] shop coin 5 [] none 0)),
  invokedBy payer (.payment (.processPaymentWithNonce payer [2] shop coin 6 [] none 1)),
  invokedBy payer (.payment (.processPaymentWithNonce payer [3] shop coin 7 [] none 2))]

theorem static_paging_exact_sample :
    ∃! pages, PagesThrough Sample.sortingHost (Sample.world Sample.purchases) [[1], [2], [3]] 2 none
      .amount .descending pages :=
  (static_paging_exact Sample.sortingHost_sorts (Sample.world Sample.purchases)
    (by decide : ([[1], [2], [3]] : List Text).Nodup) (by decide : 1 ≤ 2) none .amount
    .descending).1

/-! ## While payments change -/

/-- Whose history is read. -/
inductive History where
  | merchant (address : Address)
  | payer (address : Address)

/-- A payment history with a fixed filter, order and size of the pages. -/
structure HistoryQuery where
  history : History
  limit : Nat
  filter : Option PaymentFilter
  sortField : SortField
  sortOrder : SortOrder

namespace HistoryQuery

/-- The index that the pages are built from. -/
def ids (query : HistoryQuery) (world : World) : List Text :=
  match query.history with
  | .merchant address => world.getMerchantPaymentIds address
  | .payer address => world.getPayerPaymentIds address

/-- The payment belongs to the history. -/
def Owns (query : HistoryQuery) (payment : PaymentOrder) : Prop :=
  match query.history with
  | .merchant address => payment.merchantAddress = address
  | .payer address => payment.payer = address

instance (query : HistoryQuery) (payment : PaymentOrder) : Decidable (query.Owns payment) := by
  unfold Owns
  split <;> infer_instance

/-- The call that asks for a page. -/
def request (query : HistoryQuery) (cursor : Option Text) : Contract PaymentPage :=
  match query.history with
  | .merchant address => getMerchantPaymentHistory address cursor query.limit query.filter
      query.sortField query.sortOrder
  | .payer address => getPayerPaymentHistory address cursor query.limit query.filter
      query.sortField query.sortOrder

/-- The contract answers the request with the page. -/
def Fetches (host : Host) (query : HistoryQuery) (world : World) (cursor : Option Text)
    (page : PaymentPage) : Prop :=
  ∃ auth permits, (query.request cursor).Commits (host.env auth permits) world page world

/-- The stored payments that the index of the history lists and that match the filter. -/
def listed (query : HistoryQuery) (world : World) : List PaymentOrder :=
  world.matching (query.ids world) query.filter

/-- The payments that the pages show, in their order. -/
def sorted (host : Host) (query : HistoryQuery) (world : World) : List PaymentOrder :=
  host.sortUnstableBy (comparePayments query.sortField query.sortOrder) (query.listed world)

/-- A payment of the history is stored under the identifier and matches the filter. -/
def Holds (query : HistoryQuery) (world : World) (id : Text) : Prop :=
  ∃ payment ∈ world.payments.orders.get id, query.Owns payment ∧
    matchesFilter payment query.filter = true

instance (query : HistoryQuery) (world : World) (id : Text) : Decidable (query.Holds world id) :=
  match stored : world.payments.orders.get id with
  | none => .isFalse (by rintro ⟨payment, found, _⟩; cases stored.symm.trans found)
  | some payment =>
      decidable_of_iff (query.Owns payment ∧ matchesFilter payment query.filter = true)
        ⟨fun holds => ⟨payment, stored, holds⟩, fun ⟨other, found, holds⟩ => by
          obtain rfl := Option.some.inj (stored.symm.trans found)
          exact holds⟩

end HistoryQuery

/-- The worlds in which the pages are asked for, each after some more actions. -/
def requestWorlds (host : Host) (start : World) : List (List Action) → List World
  | [] => []
  | actions :: rest =>
      run (step host) start actions :: requestWorlds host (run (step host) start actions) rest

/-- Whatever happens between the requests for the pages, of which the first has no cursor and
each other one the next cursor of the page before. -/
def HistoryQuery.Walk (host : Host) (query : HistoryQuery) (start : World)
    (between : List (List Action)) (cursors : List (Option Text)) (pages : List PaymentPage) :
    Prop :=
  Paging.Walk (query.Fetches host) PaymentPage.nextCursor none (requestWorlds host start between)
      pages ∧
    cursors = none :: (pages.map PaymentPage.nextCursor).dropLast

/-- The payment is stored and matches the filter whenever a page is asked for. -/
def HistoryQuery.Stays (host : Host) (query : HistoryQuery) (start : World)
    (between : List (List Action)) (id : Text) : Prop :=
  ∀ world ∈ requestWorlds host start between, query.Holds world id

/-- Each payment that stays is shown exactly once. -/
def HistoryQuery.ShowsOnce (host : Host) (query : HistoryQuery) (start : World)
    (between : List (List Action)) (pages : List PaymentPage) : Prop :=
  ∀ id, query.Stays host start between id →
    ((pages.flatMap PaymentPage.payments).map PaymentOrder.orderId).count id = 1

namespace HistoryQuery

/-- The history sorts the stored payment strictly before the other one. -/
def Before (query : HistoryQuery) (world : World) (first second : Text) : Prop :=
  ∃ payment ∈ world.getPayment first, ∃ other ∈ world.getPayment second,
    comparePayments query.sortField query.sortOrder payment other = .lt

/-- The payment keeps its place beside the payment of the cursor: before it, or behind it, where
the cursor stands before everything once its payment is gone or does not match any more. -/
def KeepsPlace (query : HistoryQuery) (here later : World) (cursor name : Text) : Prop :=
  query.Before here cursor name ∧
      (cursor ∈ (query.listed later).map PaymentOrder.orderId → query.Before later cursor name) ∨
    cursor ∈ (query.listed later).map PaymentOrder.orderId ∧ query.Before here name cursor ∧
      query.Before later name cursor

instance (query : HistoryQuery) (world : World) (first second : Text) :
    Decidable (query.Before world first second) :=
  inferInstanceAs (Decidable (∃ _ ∈ _, ∃ _ ∈ _, _ = _))

instance (query : HistoryQuery) (here later : World) (cursor name : Text) :
    Decidable (query.KeepsPlace here later cursor name) :=
  inferInstanceAs (Decidable (_ ∧ (_ → _) ∨ _ ∧ _ ∧ _))

/-- From each request to the next one the listed payments stay the same, or at least those that
stay keep their place beside the payment that the cursor of the next request names. -/
def Undisturbed (query : HistoryQuery) (stays : Text → Prop) :
    List World → List (Option Text) → Prop
  | here :: later :: worlds, _ :: cursor :: cursors =>
      (query.listed later = query.listed here ∨
        ∀ id ∈ cursor, ∀ name, stays name → name ≠ id → query.KeepsPlace here later id name) ∧
        query.Undisturbed stays (later :: worlds) (cursor :: cursors)
  | _, _ => True

/-- At each request the index lists no matching payment twice and all payments that stay, and
from one request to the next the payments that stay keep their place beside the cursor. -/
structure Orderly (host : Host) (query : HistoryQuery) (start : World)
    (between : List (List Action)) (cursors : List (Option Text)) : Prop where
  distinct : ∀ world ∈ requestWorlds host start between,
    ((query.listed world).map PaymentOrder.orderId).Nodup
  listed : ∀ id, query.Stays host start between id →
    ∀ world ∈ requestWorlds host start between, id ∈ query.ids world
  undisturbed : query.Undisturbed (query.Stays host start between)
    (requestWorlds host start between) cursors

end HistoryQuery

section Walks

variable {host : Host} {query : HistoryQuery} {world : World} {id : Text}

theorem HistoryQuery.Fetches.page_eq {cursor : Option Text} {page : PaymentPage}
    (fetched : query.Fetches host world cursor page) :
    page = buildPage host world (query.ids world) cursor query.limit query.filter query.sortField
      query.sortOrder := by
  obtain ⟨auth, permits, committed⟩ := fetched
  unfold HistoryQuery.request at committed
  unfold HistoryQuery.ids
  split at committed
  · next address same =>
      simp [getMerchantPaymentHistory, Host.env] at committed
      exact committed.2.2
  · next address same =>
      simp [getPayerPaymentHistory, Host.env] at committed
      exact committed.2.2

theorem HistoryQuery.Holds.mem_listed (holds : query.Holds world id)
    (listed : id ∈ query.ids world) :
    ∃ payment ∈ query.listed world, payment.orderId = id := by
  obtain ⟨payment, stored, _, accepted⟩ := holds
  refine ⟨payment, List.mem_filter.mpr ⟨?_, accepted⟩, Table.key_of_get stored⟩
  exact List.mem_filterMap.mpr ⟨id, listed, stored⟩

theorem HistoryQuery.stored_of_mem_listed {payment : PaymentOrder}
    (member : payment ∈ query.listed world) :
    world.payments.orders.get payment.orderId = some payment := by
  obtain ⟨id, _, stored⟩ := List.mem_filterMap.mp (List.mem_filter.mp member).1
  obtain rfl := Table.key_of_get stored
  exact stored

theorem not_precedes_of_lt {sortField : SortField} {sortOrder : SortOrder}
    {first second : PaymentOrder} (less : comparePayments sortField sortOrder first second = .lt) :
    ¬ Precedes sortField sortOrder second first := by
  cases sortOrder <;> cases sortField <;>
    simp [Precedes, comparePayments, compare_gt_iff_gt, compare_lt_iff_lt] at less ⊢ <;> omega

section Places

variable {payment : PaymentOrder} {cursor name : Text}

theorem HistoryQuery.mem_sorted_iff (sorts : host.Sorts) :
    id ∈ (query.sorted host world).map PaymentOrder.orderId ↔
      id ∈ (query.listed world).map PaymentOrder.orderId :=
  ((sorts _ _).map PaymentOrder.orderId).mem_iff

theorem HistoryQuery.sorted_distinct (sorts : host.Sorts)
    (distinct : ((query.listed world).map PaymentOrder.orderId).Nodup) :
    ((query.sorted host world).map PaymentOrder.orderId).Nodup :=
  ((sorts _ _).map PaymentOrder.orderId).nodup_iff.mpr distinct

/-- What sorts strictly behind the payment of the cursor comes after it. -/
theorem HistoryQuery.Before.mem_after (sorts : host.SortsInOrder)
    (distinct : ((query.listed world).map PaymentOrder.orderId).Nodup)
    (before : query.Before world cursor name)
    (cursorListed : cursor ∈ (query.listed world).map PaymentOrder.orderId)
    (nameListed : name ∈ (query.listed world).map PaymentOrder.orderId) :
    name ∈ (Paging.after PaymentOrder.orderId (some cursor) (query.sorted host world)).map
      PaymentOrder.orderId := by
  obtain ⟨item, itemMember, rfl⟩ := List.mem_map.mp cursorListed
  obtain ⟨other, otherMember, rfl⟩ := List.mem_map.mp nameListed
  obtain ⟨first, firstStored, second, secondStored, less⟩ := before
  obtain rfl := Option.some.inj (firstStored.symm.trans (stored_of_mem_listed itemMember))
  obtain rfl := Option.some.inj (secondStored.symm.trans (stored_of_mem_listed otherMember))
  have behind := not_precedes_of_lt less
  refine Paging.mem_after_of_not_before (sorted_distinct sorts.sorts distinct)
    (sorts.ordered _ _ _) ((sorts.sorts _ _).mem_iff.mpr itemMember)
    ((sorts.sorts _ _).mem_iff.mpr otherMember) ?_ behind
  intro same
  rw [same] at secondStored
  obtain rfl := Option.some.inj (secondStored.symm.trans firstStored)
  exact behind (Std.Total.total (r := Precedes _ _) _ _ |>.elim id id)

theorem HistoryQuery.Before.not_mem_after (sorts : host.SortsInOrder)
    (distinct : ((query.listed world).map PaymentOrder.orderId).Nodup)
    (before : query.Before world name cursor)
    (cursorListed : cursor ∈ (query.listed world).map PaymentOrder.orderId)
    (nameListed : name ∈ (query.listed world).map PaymentOrder.orderId) :
    name ∉ (Paging.after PaymentOrder.orderId (some cursor) (query.sorted host world)).map
      PaymentOrder.orderId := by
  obtain ⟨item, itemMember, rfl⟩ := List.mem_map.mp cursorListed
  obtain ⟨other, otherMember, rfl⟩ := List.mem_map.mp nameListed
  obtain ⟨first, firstStored, second, secondStored, less⟩ := before
  obtain rfl := Option.some.inj (firstStored.symm.trans (stored_of_mem_listed otherMember))
  obtain rfl := Option.some.inj (secondStored.symm.trans (stored_of_mem_listed itemMember))
  exact Paging.not_mem_after_of_not_behind (sorted_distinct sorts.sorts distinct)
    (sorts.ordered _ _ _) ((sorts.sorts _ _).mem_iff.mpr itemMember)
    ((sorts.sorts _ _).mem_iff.mpr otherMember) (not_precedes_of_lt less)

/-- A payment that keeps its place stays on its side of the cursor. -/
theorem HistoryQuery.KeepsPlace.same_side {here later : World} (sorts : host.SortsInOrder)
    (keeps : query.KeepsPlace here later cursor name)
    (distinct : ((query.listed here).map PaymentOrder.orderId).Nodup)
    (distinctLater : ((query.listed later).map PaymentOrder.orderId).Nodup)
    (cursorListed : cursor ∈ (query.listed here).map PaymentOrder.orderId)
    (nameListed : name ∈ (query.listed here).map PaymentOrder.orderId)
    (nameLater : name ∈ (query.listed later).map PaymentOrder.orderId) :
    name ∈ (Paging.after PaymentOrder.orderId (some cursor) (query.sorted host later)).map
        PaymentOrder.orderId ↔
      name ∈ (Paging.after PaymentOrder.orderId (some cursor) (query.sorted host here)).map
        PaymentOrder.orderId := by
  rcases keeps with ⟨behind, still⟩ | ⟨kept, before, beforeLater⟩
  · refine iff_of_true ?_ (behind.mem_after sorts distinct cursorListed nameListed)
    by_cases kept : cursor ∈ (query.listed later).map PaymentOrder.orderId
    · exact (still kept).mem_after sorts distinctLater kept nameLater
    · -- the cursor is not found, so that the page starts with the first payment
      rw [Paging.after_of_not_mem (mt (mem_sorted_iff sorts.sorts).mp kept)]
      exact (mem_sorted_iff sorts.sorts).mpr nameLater
  · exact iff_of_false (beforeLater.not_mem_after sorts distinctLater kept nameLater)
      (before.not_mem_after sorts distinct cursorListed nameListed)

end Places

/-- In a walk that is not disturbed, the payments that stay are on the same side of each cursor
when it is looked up as when it was handed out. -/
theorem HistoryQuery.Undisturbed.steady {stays : Text → Prop} {worlds : List World}
    {pages : List PaymentPage} {cursor : Option Text} (sorts : host.SortsInOrder)
    (walk : Paging.Walk (query.Fetches host) PaymentPage.nextCursor cursor worlds pages)
    (undisturbed : query.Undisturbed stays worlds
      (cursor :: (pages.map PaymentPage.nextCursor).dropLast))
    (distinct : ∀ world ∈ worlds, ((query.listed world).map PaymentOrder.orderId).Nodup)
    (listed : ∀ id, stays id → ∀ world ∈ worlds,
      id ∈ (query.listed world).map PaymentOrder.orderId) :
    Paging.Steady PaymentOrder.orderId (query.sorted host) PaymentPage.nextCursor stays worlds
      pages := by
  have shows := buildPage_shows host query.ids query.limit query.filter query.sortField
    query.sortOrder (fun {world cursor page} => HistoryQuery.Fetches.page_eq)
  induction walk with
  | last => trivial
  | @more cursor here page worlds pages between fetched continues rest inductionHypothesis =>
      obtain ⟨later, others, rfl⟩ : ∃ later others, worlds = later :: others := by
        cases rest with
        | last => exact ⟨_, _, rfl⟩
        | more => exact ⟨_, _, rfl⟩
      obtain ⟨nextPage, nextPages, rfl⟩ : ∃ nextPage nextPages, pages = nextPage :: nextPages := by
        cases rest with
        | last => exact ⟨_, _, rfl⟩
        | more => exact ⟨_, _, rfl⟩
      rw [List.map_cons, List.map_cons, List.dropLast_cons_cons, continues] at undisturbed
      obtain ⟨sides, afterwards⟩ := undisturbed
      have here_mem : here ∈ here :: later :: others := List.mem_cons_self
      have later_mem : later ∈ here :: later :: others :=
        List.mem_cons_of_mem _ List.mem_cons_self
      refine ⟨fun id isNext name staying => ?_, inductionHypothesis afterwards
        (fun world member => distinct world (List.mem_cons_of_mem _ member))
        (fun name staying world member => listed name staying world
          (List.mem_cons_of_mem _ member))⟩
      obtain rfl := Option.some.inj (continues.symm.trans isNext)
      rcases sides with same | keeps
      · rw [HistoryQuery.sorted, HistoryQuery.sorted, same]
      · by_cases itself : name = between
        · subst itself
          have absent {world : World}
              (distinct : ((query.listed world).map PaymentOrder.orderId).Nodup) :=
            Paging.not_mem_after (HistoryQuery.sorted_distinct sorts.sorts distinct) name
          exact iff_of_false (absent (distinct later later_mem)) (absent (distinct here here_mem))
        · have shown := (shows.next_listed fetched continues).2
          have cursorListed : between ∈ (query.listed here).map PaymentOrder.orderId :=
            (HistoryQuery.mem_sorted_iff sorts.sorts).mp
              (((List.drop_sublist _ _).map PaymentOrder.orderId).subset shown)
          exact (keeps between rfl name staying itself).same_side sorts (distinct here here_mem)
            (distinct later later_mem) cursorListed (listed name staying here here_mem)
            (listed name staying later later_mem)

/-- Whatever happens between the requests, as long as the payments that stay keep their place
beside each cursor, a walk to the end shows each of them exactly once. -/
theorem paging_shows_once (sorts : host.SortsInOrder) (start : World) (query : HistoryQuery)
    (positive : 1 ≤ query.limit) (between : List (List Action)) (cursors : List (Option Text))
    (pages : List PaymentPage) (walk : query.Walk host start between cursors pages)
    (orderly : query.Orderly host start between cursors) :
    query.ShowsOnce host start between pages := by
  obtain ⟨walk, rfl⟩ := walk
  intro id stays
  have shows := buildPage_shows host query.ids query.limit query.filter query.sortField
    query.sortOrder (fun {world cursor page} => HistoryQuery.Fetches.page_eq)
  have listed : ∀ id, query.Stays host start between id →
      ∀ world ∈ requestWorlds host start between,
        id ∈ (query.listed world).map PaymentOrder.orderId := by
    intro id stays world among
    obtain ⟨payment, member, rfl⟩ :=
      (stays world among).mem_listed (orderly.listed id stays world among)
    exact List.mem_map_of_mem member
  have steady := orderly.undisturbed.steady sorts walk orderly.distinct listed
  cases split : requestWorlds host start between with
  | nil =>
      rw [split] at walk
      cases walk
  | cons first rest =>
      have among : first ∈ requestWorlds host start between := by rw [split]; simp
      have distinct : ∀ world ∈ requestWorlds host start between,
          ((query.sorted host world).map PaymentOrder.orderId).Nodup :=
        fun world member =>
          HistoryQuery.sorted_distinct sorts.sorts (orderly.distinct world member)
      have shown : id ∈ (query.sorted host first).map PaymentOrder.orderId :=
        (HistoryQuery.mem_sorted_iff sorts.sorts).mpr (listed id stays first among)
      rw [walk.count_eq shows positive distinct steady stays (by rw [split]; rfl)]
      exact if_pos shown

theorem HistoryQuery.fetches_merchant {address : Address} (ofMerchant :
      query.history = .merchant address) (other : address ≠ host.self)
    (valid : 1 ≤ query.limit ∧ query.limit ≤ 100) (world : World) (cursor : Option Text) :
    query.Fetches host world cursor (buildPage host world (query.ids world) cursor query.limit
      query.filter query.sortField query.sortOrder) := by
  have authorised : (host.env [address] fun _ => true).Authorised address :=
    ⟨other, List.mem_singleton_self address⟩
  refine ⟨[address], fun _ => true, ?_⟩
  unfold HistoryQuery.request HistoryQuery.ids
  simp only [ofMerchant]
  simp [getMerchantPaymentHistory, Host.env] at authorised ⊢
  exact ⟨authorised, Nat.one_le_iff_ne_zero.mp valid.1, valid.2⟩

theorem HistoryQuery.Holds.mem_keys (holds : query.Holds world id) :
    id ∈ world.payments.orders.entries.keys := by
  obtain ⟨payment, stored, _⟩ := holds
  exact Finmap.mem_keys.mpr (Finmap.mem_iff.mpr ⟨payment, stored⟩)

end Walks

namespace Sample

/-- The history of the shop, two payments a page. -/
def shopHistory : HistoryQuery := ⟨.merchant shop, 2, none, .amount, .ascending⟩

/-- The payment that the cursor names is archived before the second page is asked for. -/
def archivingOldest : List (List Action) := [
  opening ++ purchases, [invokedBy admin (.payment (.archivePaymentRecord admin [2]))]]

/-- A cheaper payment arrives and the payment that the cursor names is refunded. -/
def arriving : List (List Action) := [
  opening ++ purchases,
  [invokedBy payer (.payment (.processPaymentWithNonce payer [4] shop coin 1 [] none 3)),
    invokedBy payer (.refund (.initiateRefund payer [9] [2] 6 [])),
    invokedBy shop (.refund (.approveRefund shop [9])),
    invokedBy shop (.refund (.executeRefund [9]))]]

/-- The world in which the first page is asked for, and the one after some more actions. -/
def shopWorld (actions : List Action) : World :=
  run (step sortingHost) (run (step sortingHost) start (opening ++ purchases)) actions

def shopPage (cursor : Option Text) (world : World) : PaymentPage :=
  buildPage sortingHost world (shopHistory.ids world) cursor 2 none .amount .ascending

theorem shopPage_fetched (cursor : Option Text) (world : World) :
    shopHistory.Fetches sortingHost world cursor (shopPage cursor world) :=
  HistoryQuery.fetches_merchant rfl (by decide) (by decide) world cursor

theorem shop_walk {actions : List Action}
    (first : (shopPage none (shopWorld [])).nextCursor = some [2])
    (second : (shopPage (some [2]) (shopWorld actions)).nextCursor = none) :
    shopHistory.Walk sortingHost start [opening ++ purchases, actions] [none, some [2]]
      [shopPage none (shopWorld []), shopPage (some [2]) (shopWorld actions)] :=
  ⟨.more (shopPage_fetched none _) first (.last (shopPage_fetched (some [2]) _) second),
    by rw [← first]; rfl⟩

end Sample

/-- A walk starts again in front of the payments that it has already shown. -/
theorem archived_cursor_repeats :
    ¬ ∀ (start : World) (query : HistoryQuery) (between : List (List Action))
        (cursors : List (Option Text)) (pages : List PaymentPage),
      Deployed Sample.sortingHost start → 1 ≤ query.limit →
      query.Walk Sample.sortingHost start between cursors pages →
        query.ShowsOnce Sample.sortingHost start between pages := by
  intro once
  have walk := Sample.shop_walk (by decide +kernel :
    (Sample.shopPage none (Sample.shopWorld [])).nextCursor = some [2]) (by decide +kernel :
    (Sample.shopPage (some [2]) (Sample.shopWorld [Sample.invokedBy Sample.admin
      (.payment (.archivePaymentRecord Sample.admin [2]))])).nextCursor = none)
  have stays : Sample.shopHistory.Stays Sample.sortingHost Sample.start Sample.archivingOldest
      [1] := by
    have holds : ∀ world ∈ requestWorlds Sample.sortingHost Sample.start Sample.archivingOldest,
        Sample.shopHistory.Holds world [1] := by decide +kernel
    exact holds
  have shown := once Sample.start Sample.shopHistory Sample.archivingOldest _ _
    Sample.deployed_start (by decide) walk [1] stays
  revert shown
  decide +kernel

theorem paging_shows_once_sample :
    Sample.shopHistory.ShowsOnce Sample.sortingHost Sample.start Sample.arriving
      [Sample.shopPage none (Sample.shopWorld []),
        Sample.shopPage (some [2]) (Sample.shopWorld Sample.arriving[1])] := by
  have first : (Sample.shopPage none (Sample.shopWorld [])).nextCursor = some [2] := by
    decide +kernel
  have second : (Sample.shopPage (some [2])
      (Sample.shopWorld Sample.arriving[1])).nextCursor = none := by decide +kernel
  have distinct : ∀ world ∈ requestWorlds Sample.sortingHost Sample.start Sample.arriving,
      ((Sample.shopHistory.listed world).map PaymentOrder.orderId).Nodup := by decide +kernel
  have listed : ∀ world ∈ requestWorlds Sample.sortingHost Sample.start Sample.arriving,
      ∀ id ∈ world.payments.orders.entries.keys, id ∈ Sample.shopHistory.ids world := by
    decide +kernel
  have places : ∀ name ∈ (Sample.shopWorld []).payments.orders.entries.keys, name ≠ [2] →
      Sample.shopHistory.KeepsPlace (Sample.shopWorld []) (Sample.shopWorld Sample.arriving[1])
        [2] name := by decide +kernel
  refine paging_shows_once Sample.sortingHost_sorts Sample.start Sample.shopHistory (by decide)
    Sample.arriving [none, some [2]] _ (Sample.shop_walk first second) ⟨distinct, ?_, ?_⟩
  · intro id stays world among
    exact listed world among id (stays world among).mem_keys
  · refine ⟨.inr fun id named name stays different => ?_, trivial⟩
    obtain rfl := Option.some.inj named
    exact places name (stays _ List.mem_cons_self).mem_keys different

end LumenFlow

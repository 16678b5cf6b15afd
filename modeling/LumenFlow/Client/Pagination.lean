import LumenFlow.Kit.Dialogue
import LumenFlow.Safety.Naming
import LumenFlow.Safety.Paging

/-!
# Fetching all pages

`fetchAllPages` of the SDK as a dialogue, and what it comes to when its pages are those of a
history of the contract that does not change meanwhile.
-/

namespace LumenFlow

open Kit

namespace Client

/-- A page as the client receives it.  The items are missing when they are no array, and a cursor
that is `null` is missing like one that is `undefined`. -/
structure PaginatedPage (Item : Type) where
  items : Option (List Item)
  nextCursor : Option Text

/-- `PaymentErrorCode.InvalidInput` -/
def invalidInput : Nat := 50

/-- `PaymentErrorCode.PaginationLimitExceeded` -/
def paginationLimitExceeded : Nat := 51

/-- What `fetchAllPages` throws: an error of its own, or what `fetchPage` has thrown. -/
inductive PaginationError (Thrown : Type) where
  | thrown (err : Thrown)
  | lumenFlowError (code : Nat) (message : String)
  deriving DecidableEq

variable {Item Thrown : Type}

/-- The answers of `fetchPage`. -/
abbrev PageAnswer (Item Thrown : Type) (_ : Option Text) : Type :=
  Except Thrown (PaginatedPage Item)

/-- A client that asks for pages by their cursors. -/
abbrev Pager (Item Thrown : Type) : Type → Type :=
  Dialogue (Option Text) (PageAnswer Item Thrown) (PaginationError Thrown)

/-- The cursor is there and not the empty string. -/
def truthy (cursor : Option Text) : Bool := cursor.any (· ≠ [])

/-- What is thrown when there are more pages than may be asked for. -/
def limitExceeded : PaginationError Thrown :=
  .lumenFlowError paginationLimitExceeded "Pagination exceeded maximum page count"

/-- The loop, given how many pages it may still ask for. -/
def fetchPages : Nat → List Item → Option Text → Pager Item Thrown (List Item)
  | 0, _, _ => Dialogue.fail limitExceeded
  | left + 1, pages, cursor => do
      match ← (Dialogue.send cursor : Pager Item Thrown (Except Thrown (PaginatedPage Item))) with
      | .error err => Dialogue.fail (.thrown err)
      | .ok page =>
          match page.items with
          | none =>
              Dialogue.fail (.lumenFlowError invalidInput
                "Invalid pagination response: items array is required")
          | some items =>
              if truthy page.nextCursor = false then
                return pages ++ items
              else if page.nextCursor = cursor then
                Dialogue.fail (.lumenFlowError invalidInput
                  "Pagination returned the same cursor twice")
              else
                fetchPages left (pages ++ items) page.nextCursor

structure FetchAllPagesOptions where
  initialCursor : Option Text
  maxPages : Option Nat

def fetchAllPages (options : FetchAllPagesOptions) : Pager Item Thrown (List Item) :=
  fetchPages (options.maxPages.getD 100) [] options.initialCursor

def fetchAllPayments : Pager Item Thrown (List Item) :=
  fetchAllPages ⟨none, none⟩

section Runs

abbrev PageExchange (Item Thrown : Type) : Type :=
  Dialogue.Exchange (Option Text) (PageAnswer Item Thrown)

variable {left : Nat} {pages : List Item} {cursor : Option Text}
  {transcript : List (PageExchange Item Thrown)}
  {outcome : Except (PaginationError Thrown) (List Item)}

/-- A page that says what comes next is followed by the others, unless the pages have run out. -/
theorem runs_fetchPages_succ (runs : (fetchPages (left + 1) pages cursor).Runs transcript outcome) :
    ∃ answer rest, transcript = ⟨cursor, answer⟩ :: rest ∧
      ∀ items next, answer = .ok ⟨some items, next⟩ →
        (truthy next = false → rest = [] ∧ outcome = .ok (pages ++ items)) ∧
          (truthy next = true → next ≠ cursor →
            (fetchPages left (pages ++ items) next).Runs rest outcome) := by
  simp only [fetchPages, Dialogue.runs_bind, Dialogue.runs_send] at runs
  rcases runs with ⟨failure, ⟨answer, _, sent⟩, _⟩ |
    ⟨result, front, rest, rfl, ⟨answer, rfl, sent⟩, goes⟩
  · cases sent
  · obtain rfl := Except.ok.inj sent
    refine ⟨result, rest, rfl, ?_⟩
    rintro items next rfl
    constructor
    · intro last
      simpa [last] using goes
    · intro more other
      simpa [more, other] using goes

end Runs

section Static

/-- How many pages it takes to show so many items. -/
def pageCount (limit size : Nat) : Nat := max 1 ((size + limit - 1) / limit)

theorem pageCount_pos (limit size : Nat) : 0 < pageCount limit size :=
  Nat.lt_of_lt_of_le Nat.one_pos (le_max_left _ _)

theorem pageCount_of_le {limit size : Nat} (positive : 1 ≤ limit) (fits : size ≤ limit) :
    pageCount limit size = 1 := by
  apply max_eq_left
  apply Nat.le_of_lt_succ
  rw [Nat.div_lt_iff_lt_mul positive]
  omega

theorem pageCount_of_lt {limit size : Nat} (positive : 1 ≤ limit) :
    pageCount limit (limit + (size + 1)) = pageCount limit (size + 1) + 1 := by
  have more : (limit + (size + 1) + limit - 1) / limit = (size + 1 + limit - 1) / limit + 1 := by
    rw [← Nat.add_div_right _ positive]
    congr 1
    omega
  have full : 1 ≤ (size + 1 + limit - 1) / limit :=
    (Nat.one_le_div_iff positive).mpr (by omega)
  unfold pageCount
  omega

/-- The page is one of a history of the contract, which is the same for every request. -/
def AnsweredBy (host : Host) (world : World) (query : HistoryQuery)
    (exchange : PageExchange PaymentOrder Thrown) : Prop :=
  ∃ page, query.Fetches host world exchange.question page ∧
    exchange.answer = .ok ⟨some page.payments, page.nextCursor⟩

variable {host : Host} {world : World} {query : HistoryQuery}
  {transcript : List (PageExchange PaymentOrder Thrown)}
  {outcome : Except (PaginationError Thrown) (List PaymentOrder)}

theorem truthy_of_listed (reachable : Reachable host world) (sorts : host.Sorts)
    {cursor : Option Text} {name : Text}
    (listed : name ∈ (Paging.after PaymentOrder.orderId cursor (query.sorted host world)).map
      PaymentOrder.orderId) : truthy (some name) = true := by
  obtain ⟨payment, member, rfl⟩ := List.mem_map.mp listed
  have shown := (sorts _ _).mem_iff.mp (List.mem_of_mem_drop member)
  obtain ⟨id, _, stored⟩ := List.mem_filterMap.mp (List.mem_filter.mp shown).1
  have valid := reachable.named.orders _ payment stored
  simpa [truthy] using List.ne_nil_of_length_pos valid.1

/-- The pages from a cursor on, as far as they may be asked for. -/
theorem fetchPages_static (reachable : Reachable host world) (sorts : host.Sorts)
    (positive : 1 ≤ query.limit) (distinct : (query.ids world).Nodup) {left : Nat}
    {pages : List PaymentOrder} {cursor : Option Text}
    (runs : (fetchPages left pages cursor).Runs transcript outcome)
    (answered : ∀ exchange ∈ transcript, AnsweredBy host world query exchange) :
    let rest := Paging.after PaymentOrder.orderId cursor (query.sorted host world)
    (pageCount query.limit rest.length ≤ left →
      outcome = .ok (pages ++ rest) ∧ transcript.length = pageCount query.limit rest.length) ∧
    (left < pageCount query.limit rest.length →
      outcome = .error limitExceeded ∧ transcript.length = left) := by
  have shows : Paging.Shows PaymentOrder.orderId query.limit (query.sorted host)
      PaymentPage.payments PaymentPage.nextCursor (query.Fetches host) :=
    buildPage_shows host query.ids query.limit query.filter query.sortField query.sortOrder
      HistoryQuery.Fetches.page_eq
  have once : ((query.sorted host world).map PaymentOrder.orderId).Nodup :=
    sorted_nodup sorts world distinct _ _ _
  induction left generalizing pages cursor transcript with
  | zero =>
      obtain ⟨rfl, rfl⟩ := Dialogue.runs_fail.mp runs
      refine ⟨fun fits => ?_, fun _ => ⟨rfl, rfl⟩⟩
      exact absurd ((pageCount_pos _ _).trans_le fits) (lt_irrefl 0)
  | succ left inductionHypothesis =>
      intro remaining
      obtain ⟨answer, later, rfl, continues⟩ := runs_fetchPages_succ runs
      obtain ⟨page, fetched, rfl⟩ := answered _ List.mem_cons_self
      obtain ⟨last, more⟩ := continues _ _ rfl
      have others : ∀ exchange ∈ later, AnsweredBy host world query exchange :=
        fun exchange member => answered exchange (List.mem_cons_of_mem _ member)
      cases next : page.nextCursor with
      | none =>
          obtain ⟨rfl, rfl⟩ := last (by rw [next]; rfl)
          have whole := (shows.items_of_last positive fetched).mp next
          have short : remaining.length ≤ query.limit := by
            by_contra long
            have taken := shows.items_eq fetched
            have size := congrArg List.length (taken.symm.trans whole)
            rw [List.length_take] at size
            change min query.limit remaining.length = remaining.length at size
            omega
          rw [pageCount_of_le positive short, whole]
          refine ⟨fun _ => ⟨rfl, rfl⟩, fun none => ?_⟩
          omega
      | some name =>
          obtain ⟨full, split⟩ := shows.after_next once fetched next
          obtain ⟨long, listed⟩ := shows.next_listed fetched next
          have other : page.nextCursor ≠ cursor := by
            rw [next]
            rintro rfl
            exact Paging.not_mem_after once name listed
          have named : truthy page.nextCursor = true := by
            rw [next]
            exact truthy_of_listed reachable sorts listed
          have goes := more named other
          rw [next] at goes
          obtain ⟨enough, tooFew⟩ := inductionHypothesis goes others
          change remaining = page.payments ++ _ at split
          change query.limit < remaining.length at long
          rw [split, List.length_append, full] at long ⊢
          obtain ⟨fewer, counted⟩ := Nat.exists_eq_succ_of_ne_zero
            (Nat.ne_of_gt (Nat.pos_of_lt_add_right long))
          rw [counted] at enough tooFew ⊢
          rw [pageCount_of_lt positive, List.length_cons, ← List.append_assoc]
          constructor
          · intro fits
            obtain ⟨returned, asked⟩ := enough (Nat.le_of_succ_le_succ fits)
            exact ⟨returned, congrArg (· + 1) asked⟩
          · intro short
            obtain ⟨thrown, asked⟩ := tooFew (Nat.lt_of_succ_lt_succ short)
            exact ⟨thrown, congrArg (· + 1) asked⟩

/-- Over a history that does not change, `fetchAllPages` returns its payments in order, with one
request for each page; and if it may not ask for so many pages, it throws after those it may. -/
theorem fetchAllPages_exact (reachable : Reachable host world) (sorts : host.Sorts)
    (positive : 1 ≤ query.limit) (distinct : (query.ids world).Nodup) (maxPages : Option Nat)
    (runs : (fetchAllPages ⟨none, maxPages⟩).Runs transcript outcome)
    (answered : ∀ exchange ∈ transcript, AnsweredBy host world query exchange) :
    (pageCount query.limit (query.sorted host world).length ≤ maxPages.getD 100 →
      outcome = .ok (query.sorted host world) ∧
        transcript.length = pageCount query.limit (query.sorted host world).length) ∧
    (maxPages.getD 100 < pageCount query.limit (query.sorted host world).length →
      outcome = .error limitExceeded ∧ transcript.length = maxPages.getD 100) :=
  fetchPages_static reachable sorts positive distinct runs answered

end Static

end Client

namespace Sample

open Client

theorem shopWorld_reachable (actions : List Action) : Reachable sortingHost (shopWorld actions) :=
  ⟨start, (opening ++ purchases) ++ actions, deployed_start, (run_append _ _ _).symm⟩

/-- The two pages of the shop's history, as they are asked for. -/
def shopPages (first second : PaymentPage) : List (PageExchange PaymentOrder Empty) := [
  ⟨none, .ok ⟨some first.payments, first.nextCursor⟩⟩,
  ⟨some [2], .ok ⟨some second.payments, second.nextCursor⟩⟩]

theorem runs_shopPages {first second : PaymentPage} (more : first.nextCursor = some [2])
    (last : second.nextCursor = none) :
    (fetchAllPages ⟨none, none⟩).Runs (shopPages first second)
      (.ok (first.payments ++ second.payments)) := by
  rw [shopPages, more, last]
  exact .ask none _ (.ask (some [2]) _ (.finish _))

end Sample

theorem Client.fetchAllPages_exact_sample :
    (Sample.shopPage none (Sample.shopWorld [])).payments ++
        (Sample.shopPage (some [2]) (Sample.shopWorld [])).payments =
      Sample.shopHistory.sorted Sample.sortingHost (Sample.shopWorld []) := by
  have more : (Sample.shopPage none (Sample.shopWorld [])).nextCursor = some [2] := by
    decide +kernel
  have last : (Sample.shopPage (some [2]) (Sample.shopWorld [])).nextCursor = none := by
    decide +kernel
  have fits : pageCount Sample.shopHistory.limit
      (Sample.shopHistory.sorted Sample.sortingHost (Sample.shopWorld [])).length ≤ 100 := by
    decide +kernel
  have answered : ∀ exchange ∈ Sample.shopPages (Sample.shopPage none (Sample.shopWorld []))
        (Sample.shopPage (some [2]) (Sample.shopWorld [])),
      AnsweredBy Sample.sortingHost (Sample.shopWorld []) Sample.shopHistory exchange := by
    intro exchange asked
    rcases List.mem_pair.mp asked with rfl | rfl
    · exact ⟨_, Sample.shopPage_fetched none _, rfl⟩
    · exact ⟨_, Sample.shopPage_fetched (some [2]) _, rfl⟩
  exact Except.ok.inj ((fetchAllPages_exact (Sample.shopWorld_reachable [])
    Sample.sortingHost_sorts.sorts (by decide) (by decide +kernel) none
    (Sample.runs_shopPages more last) answered).1 fits).1

end LumenFlow

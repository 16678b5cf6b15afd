import Mathlib.Data.Prod.Lex
import Mathlib.Data.List.Lex
import LumenFlow.Kit.Arrangement
import LumenFlow.Kit.Failure
import LumenFlow.Safety.Paging

/-!
# The order of the history

A history is sorted by the date or by the amount, and nothing says in which order payments with
the same date or the same amount come.  A cursor that names no payment of the account is taken
for the beginning.
-/

namespace LumenFlow

open Kit Contract

/-- What a history is sorted by, negated where it descends. -/
def sortKey (sortField : SortField) (sortOrder : SortOrder) (payment : PaymentOrder) : Int :=
  let key : Int := match sortField with
    | .date => payment.paidAt
    | .amount => payment.amount
  match sortOrder with
  | .ascending => key
  | .descending => -key

/-- The same, with the order identifier to break ties. -/
def canonicalKey (sortField : SortField) (sortOrder : SortOrder) (payment : PaymentOrder) :
    Int ×ₗ List Nat :=
  toLex (sortKey sortField sortOrder payment, payment.orderId.map UInt8.toNat)

def History.account : History → Address
  | .merchant address | .payer address => address

namespace HistoryQuery

/-- The stored payments of the account that match the filter, sorted by the field and ties by the
order identifier. -/
structure Lists (query : HistoryQuery) (world : World) (payments : List PaymentOrder) : Prop where
  all : ∀ payment, payment ∈ payments ↔ world.getPayment payment.orderId = some payment ∧
    query.Owns payment ∧ matchesFilter payment query.filter = true
  sorted : payments.Pairwise fun first second =>
    canonicalKey query.sortField query.sortOrder first <
      canonicalKey query.sortField query.sortOrder second

/-- The payment comes after the payment that the cursor names. -/
def Follows (query : HistoryQuery) (world : World) (cursor : Option Text)
    (payment : PaymentOrder) : Prop :=
  ∀ id ∈ cursor, ∀ named ∈ world.getPayment id,
    canonicalKey query.sortField query.sortOrder named <
      canonicalKey query.sortField query.sortOrder payment

instance (query : HistoryQuery) (world : World) (cursor : Option Text) :
    DecidablePred (query.Follows world cursor) :=
  fun _ => inferInstanceAs (Decidable (∀ _ ∈ _, ∀ _ ∈ _, _ < _))

/-- The page that shows the first of the remaining payments. -/
def page (query : HistoryQuery) (total : Nat) (remaining : List PaymentOrder) : PaymentPage :=
  let result := remaining.take query.limit
  { payments := result
    nextCursor :=
      if query.limit < remaining.length then result.getLast?.map PaymentOrder.orderId else none
    totalMatching := total }

/-- The page of the payments that follow the cursor. -/
def pageAfter (query : HistoryQuery) (world : World) (cursor : Option Text)
    (payments : List PaymentOrder) : PaymentPage :=
  query.page payments.length (payments.filter (query.Follows world cursor ·))

/-- The cursor is not the identifier of a stored payment of the account. -/
def Foreign (query : HistoryQuery) (world : World) (cursor : Option Text) : Prop :=
  ∃ id ∈ cursor, ∀ payment ∈ world.getPayment id, ¬ query.Owns payment

instance (query : HistoryQuery) (world : World) (cursor : Option Text) :
    Decidable (query.Foreign world cursor) :=
  inferInstanceAs (Decidable (∃ _ ∈ _, ∀ _ ∈ _, ¬ _))

/-- A foreign cursor is refused.  Otherwise the page shows what follows the cursor among the
account's stored payments in their canonical order, however the host sorts. -/
structure Canonical (query : HistoryQuery) (world : World) (cursor : Option Text) : Prop where
  refused : query.Foreign world cursor → ∀ (host : Host) auth permits, host.SortsInOrder →
    (host.env auth permits).Authorised query.history.account →
      (query.request cursor).Fails (host.env auth permits) world (.error .invalidInput)
  shown : ¬ query.Foreign world cursor → ∀ host : Host, host.SortsInOrder → ∀ page,
    query.Fetches host world cursor page → ∃ payments, query.Lists world payments ∧
      page = query.pageAfter world cursor payments

/-- The index lists the stored payments of the account that match, each once. -/
structure Indexed (query : HistoryQuery) (world : World) : Prop where
  distinct : (query.listed world).Nodup
  all : ∀ payment, payment ∈ query.listed world ↔
    world.getPayment payment.orderId = some payment ∧ query.Owns payment ∧
      matchesFilter payment query.filter = true

/-- The listed payments in the canonical order. -/
def canonical (query : HistoryQuery) (world : World) : List PaymentOrder :=
  (query.listed world).insertionSort fun first second =>
    canonicalKey query.sortField query.sortOrder first ≤
      canonicalKey query.sortField query.sortOrder second

/-- The cursor is the account's, and its payment matches or comes before all that do; the index
is complete; and neither the payment of the cursor nor one of the page is as old, or as large, as
another one that matches. -/
structure Certain (query : HistoryQuery) (world : World) (cursor : Option Text) : Prop where
  own : ¬ query.Foreign world cursor
  indexed : query.Indexed world
  reached : ∀ id ∈ cursor, ∀ named ∈ world.getPayment id, named ∈ query.listed world ∨
    ∀ payment ∈ query.listed world, canonicalKey query.sortField query.sortOrder named <
      canonicalKey query.sortField query.sortOrder payment
  untied : ∀ payment ∈ query.listed world,
    cursor = some payment.orderId ∨
        payment ∈ (query.pageAfter world cursor (query.canonical world)).payments →
      Alone (sortKey query.sortField query.sortOrder) (query.listed world) payment

/-- The page after the position of the cursor in a list, or from its start. -/
def cut (query : HistoryQuery) (cursor : Option Text) (payments : List PaymentOrder) :
    PaymentPage :=
  query.page payments.length (payments.drop (startIndex cursor payments))

end HistoryQuery

section Sorting

variable {sortField : SortField} {sortOrder : SortOrder} {first second : PaymentOrder}

theorem precedes_iff : Precedes sortField sortOrder first second ↔
    sortKey sortField sortOrder first ≤ sortKey sortField sortOrder second := by
  cases sortOrder <;> cases sortField <;>
    simp only [precedes_descending_iff, precedes_date_iff, precedes_amount_iff, sortKey] <;> omega

instance : Std.Total fun first second : PaymentOrder =>
    canonicalKey sortField sortOrder first ≤ canonicalKey sortField sortOrder second where
  total _ _ := le_total _ _

instance : IsTrans PaymentOrder fun first second =>
    canonicalKey sortField sortOrder first ≤ canonicalKey sortField sortOrder second where
  trans _ _ _ := le_trans

theorem sortKey_le_of_canonical
    (ordered : canonicalKey sortField sortOrder first ≤ canonicalKey sortField sortOrder second) :
    sortKey sortField sortOrder first ≤ sortKey sortField sortOrder second := by
  rcases Prod.Lex.toLex_le_toLex.mp ordered with less | ⟨same, _⟩
  · exact less.le
  · exact same.le

theorem orderId_of_canonical
    (ordered : canonicalKey sortField sortOrder first ≤ canonicalKey sortField sortOrder second)
    (back : canonicalKey sortField sortOrder second ≤ canonicalKey sortField sortOrder first) :
    first.orderId = second.orderId := by
  have same := (Prod.mk.inj (toLex_inj.mp (le_antisymm ordered back))).2
  exact List.map_injective_iff.mpr (fun _ _ => UInt8.toNat.inj) same

end Sorting

section Pages

variable {query : HistoryQuery} {world other : World} {cursor : Option Text} {host : Host}

theorem HistoryQuery.canonical_arranges (query : HistoryQuery) (world : World) :
    Arranges (sortKey query.sortField query.sortOrder) (query.listed world)
      (query.canonical world) where
  perm := List.perm_insertionSort _ _
  sorted := (List.pairwise_insertionSort _ (query.listed world)).imp sortKey_le_of_canonical

theorem HistoryQuery.sorted_arranges (sorts : host.SortsInOrder) (query : HistoryQuery)
    (world : World) :
    Arranges (sortKey query.sortField query.sortOrder) (query.listed world)
      (query.sorted host world) where
  perm := sorts.sorts _ _
  sorted := (sorts.ordered query.sortField query.sortOrder (query.listed world)).imp
    precedes_iff.mp

open Classical in
/-- A host that makes the list of the items, and sorts all else by insertion. -/
noncomputable def Host.arranging (self : Address) (sortField : SortField) (sortOrder : SortOrder)
    (items list : List PaymentOrder) : Host :=
  { Sample.sortingHost with
    self
    sortUnstableBy := fun comparison payments =>
      if comparison = comparePayments sortField sortOrder ∧ payments = items then list
      else Sample.sortingHost.sortUnstableBy comparison payments }

theorem Host.arranging_sort (self : Address) (sortField : SortField) (sortOrder : SortOrder)
    (items list : List PaymentOrder) :
    (arranging self sortField sortOrder items list).sortUnstableBy
      (comparePayments sortField sortOrder) items = list :=
  if_pos ⟨rfl, rfl⟩

theorem Host.arranging_sorts (self : Address) {sortField : SortField} {sortOrder : SortOrder}
    {items list : List PaymentOrder}
    (arranged : Arranges (sortKey sortField sortOrder) items list) :
    (arranging self sortField sortOrder items list).SortsInOrder := by
  have insertion := Sample.sortingHost_sorts
  constructor
  · intro comparison payments
    by_cases chosen : comparison = comparePayments sortField sortOrder ∧ payments = items
    · obtain ⟨rfl, rfl⟩ := chosen
      rw [arranging_sort]
      exact arranged.perm
    · have sorted := insertion.sorts comparison payments
      rwa [← show _ = Sample.sortingHost.sortUnstableBy _ _ from if_neg chosen] at sorted
  · intro otherField otherOrder payments
    by_cases chosen : comparePayments otherField otherOrder = comparePayments sortField sortOrder ∧
        payments = items
    · rw [chosen.1, chosen.2, arranging_sort]
      exact arranged.sorted.imp precedes_iff.mpr
    · have sorted := insertion.ordered otherField otherOrder payments
      rwa [← show _ = Sample.sortingHost.sortUnstableBy _ _ from if_neg chosen] at sorted

theorem exists_host_sorting (account : Address) {sortField : SortField} {sortOrder : SortOrder}
    {items list : List PaymentOrder}
    (arranged : Arranges (sortKey sortField sortOrder) items list) :
    ∃ host : Host, host.SortsInOrder ∧ account ≠ host.self ∧
      host.sortUnstableBy (comparePayments sortField sortOrder) items = list := by
  obtain ⟨self, other⟩ : ∃ self, account ≠ self := by
    by_cases same : account = .contract 0
    · exact ⟨.account 0, by simp [same]⟩
    · exact ⟨_, same⟩
  exact ⟨_, Host.arranging_sorts self arranged, other, Host.arranging_sort ..⟩

theorem HistoryQuery.request_commits {env : Env} (valid : 1 ≤ query.limit ∧ query.limit ≤ 100)
    (authorised : env.Authorised query.history.account) (world : World) (cursor : Option Text) :
    (query.request cursor).Commits env world (query.cut cursor (query.sorted env.host world))
      world := by
  obtain ⟨history, limit, filter, sortField, sortOrder⟩ := query
  have positive : limit ≠ 0 := Nat.one_le_iff_ne_zero.mp valid.1
  have most : limit ≤ 100 := valid.2
  cases history with
  | merchant address =>
      have allowed : env.Authorised address := authorised
      simp [HistoryQuery.request, getMerchantPaymentHistory, allowed, positive]
      exact ⟨most, rfl⟩
  | payer address =>
      have allowed : env.Authorised address := authorised
      simp [HistoryQuery.request, getPayerPaymentHistory, allowed, positive]
      exact ⟨most, rfl⟩

theorem HistoryQuery.cut_payments (query : HistoryQuery) (cursor : Option Text)
    (payments : List PaymentOrder) : (query.cut cursor payments).payments =
      (Paging.after PaymentOrder.orderId cursor payments).take query.limit := by
  simp only [HistoryQuery.cut, startIndex_eq]
  rfl

theorem HistoryQuery.canonical_sorted (distinct : (query.listed world).Nodup) :
    (query.canonical world).Pairwise fun first second =>
      canonicalKey query.sortField query.sortOrder first <
        canonicalKey query.sortField query.sortOrder second := by
  have perm := (query.canonical_arranges world).perm
  have apart : (query.canonical world).Pairwise fun first second => first ≠ second :=
    perm.nodup_iff.mpr distinct
  have sorted : (query.canonical world).Pairwise fun first second =>
      canonicalKey query.sortField query.sortOrder first ≤
        canonicalKey query.sortField query.sortOrder second :=
    List.pairwise_insertionSort _ (query.listed world)
  refine ((apart.and sorted).imp_of_mem ?_)
  rintro first second firstMember secondMember ⟨different, ordered⟩
  refine lt_of_le_of_ne ordered fun same => different ?_
  have firstStored := stored_of_mem_listed (perm.mem_iff.mp firstMember)
  have secondStored := stored_of_mem_listed (perm.mem_iff.mp secondMember)
  rw [orderId_of_canonical same.le same.ge] at firstStored
  exact Option.some.inj (firstStored.symm.trans secondStored)

theorem HistoryQuery.Lists.unique {first second : List PaymentOrder}
    (lists : query.Lists world first) (again : query.Lists world second) : first = second := by
  refine List.Perm.eq_of_pairwise (fun _ _ _ _ less more => absurd less more.not_gt) lists.sorted
    again.sorted ((List.perm_ext_iff_of_nodup ?_ ?_).mpr fun payment => ?_)
  · exact lists.sorted.imp fun less same => absurd (same ▸ less) (lt_irrefl _)
  · exact again.sorted.imp fun less same => absurd (same ▸ less) (lt_irrefl _)
  · rw [lists.all, again.all]

theorem HistoryQuery.Indexed.lists (indexed : query.Indexed world) :
    query.Lists world (query.canonical world) where
  all payment := (query.canonical_arranges world).perm.mem_iff.trans (indexed.all payment)
  sorted := canonical_sorted indexed.distinct

theorem HistoryQuery.canonical_distinct (distinct : (query.listed world).Nodup) :
    ((query.canonical world).map PaymentOrder.orderId).Nodup := by
  have perm := (query.canonical_arranges world).perm
  refine (perm.nodup_iff.mpr distinct).map_on fun first firstMember second secondMember same => ?_
  have firstStored := stored_of_mem_listed (perm.mem_iff.mp firstMember)
  have secondStored := stored_of_mem_listed (perm.mem_iff.mp secondMember)
  rw [same] at firstStored
  exact Option.some.inj (firstStored.symm.trans secondStored)

theorem HistoryQuery.not_mem_canonical {named : PaymentOrder}
    (stored : world.getPayment named.orderId = some named)
    (unlisted : named ∉ query.listed world) :
    named.orderId ∉ (query.canonical world).map PaymentOrder.orderId := by
  intro again
  obtain ⟨payment, member, same⟩ := List.mem_map.mp again
  have listed := (query.canonical_arranges world).perm.mem_iff.mp member
  have found := stored_of_mem_listed listed
  rw [same] at found
  obtain rfl := Option.some.inj (found.symm.trans stored)
  exact unlisted listed

/-- What follows a listed payment is what stands behind it in the canonical order. -/
theorem HistoryQuery.filter_follows {named : PaymentOrder}
    (distinct : (query.listed world).Nodup) (listed : named ∈ query.listed world) :
    (query.canonical world).filter (query.Follows world (some named.orderId) ·) =
      Paging.after PaymentOrder.orderId (some named.orderId) (query.canonical world) := by
  have stored : world.getPayment named.orderId = some named := stored_of_mem_listed listed
  have member := (query.canonical_arranges world).perm.mem_iff.mpr listed
  have ids := canonical_distinct distinct
  have sorted := canonical_sorted distinct
  obtain ⟨front, rest, split⟩ := List.append_of_mem member
  rw [split] at ids sorted ⊢
  rw [Paging.after_append_cons ids]
  obtain ⟨_, behind, before⟩ := List.pairwise_append.mp sorted
  have follows (payment : PaymentOrder) : query.Follows world (some named.orderId) payment ↔
      canonicalKey query.sortField query.sortOrder named <
        canonicalKey query.sortField query.sortOrder payment := by
    simp [Follows, stored]
  simp only [follows]
  rw [List.filter_append, List.filter_eq_nil_iff.mpr, List.nil_append,
    List.filter_cons_of_neg (by simp), List.filter_eq_self.mpr]
  · intro payment later
    exact decide_eq_true ((List.pairwise_cons.mp behind).1 payment later)
  · intro payment earlier
    simpa using (before payment earlier named List.mem_cons_self).le

theorem HistoryQuery.cut_canonical (distinct : (query.listed world).Nodup)
    (own : ¬ query.Foreign world cursor)
    (reached : ∀ id ∈ cursor, ∀ named ∈ world.getPayment id, named ∈ query.listed world ∨
      ∀ payment ∈ query.listed world, canonicalKey query.sortField query.sortOrder named <
        canonicalKey query.sortField query.sortOrder payment) :
    query.cut cursor (query.canonical world) =
      query.pageAfter world cursor (query.canonical world) := by
  suffices same : (query.canonical world).filter (query.Follows world cursor ·) =
      Paging.after PaymentOrder.orderId cursor (query.canonical world) by
    rw [pageAfter, same, Paging.after, cut, startIndex_eq]
  cases cursor with
  | none =>
      rw [Paging.after_none]
      exact List.filter_eq_self.mpr fun payment _ => decide_eq_true (by simp [Follows])
  | some id =>
      obtain ⟨named, stored⟩ : ∃ named, world.getPayment id = some named := by
        by_contra nothing
        refine own ⟨id, rfl, fun payment stored => absurd ⟨payment, stored⟩ nothing⟩
      obtain rfl := Table.key_of_get stored
      rcases reached _ rfl named stored with listed | first
      · exact filter_follows distinct listed
      · have unlisted : named ∉ query.listed world := fun listed =>
          lt_irrefl _ (first named listed)
        rw [Paging.after_of_not_mem (not_mem_canonical stored unlisted)]
        refine List.filter_eq_self.mpr fun payment member => decide_eq_true ?_
        intro id same other found
        obtain rfl := Option.some.inj same
        obtain rfl := Option.some.inj (stored.symm.trans found)
        exact first payment ((query.canonical_arranges world).perm.mem_iff.mp member)

/-- Where the payments around a page have no ties, all arrangements give the same page. -/
theorem HistoryQuery.Certain.cut_eq (certain : query.Certain world cursor)
    {list : List PaymentOrder}
    (arranged : Arranges (sortKey query.sortField query.sortOrder) (query.listed world) list) :
    query.cut cursor list = query.pageAfter world cursor (query.canonical world) := by
  have canonical := query.canonical_arranges world
  have reached := cut_canonical certain.indexed.distinct certain.own certain.reached
  have named : ∀ payment ∈ query.listed world, cursor = some payment.orderId →
      Alone (sortKey query.sortField query.sortOrder) (query.listed world) payment :=
    fun payment member here => certain.untied payment member (.inl here)
  have start := canonical.startIndex_eq arranged named
  have payments : (Paging.after PaymentOrder.orderId cursor list).take query.limit =
      (Paging.after PaymentOrder.orderId cursor (query.canonical world)).take query.limit := by
    apply canonical.take_after_eq arranged named
    intro payment shown
    have member : payment ∈ query.listed world := by
      apply canonical.perm.mem_iff.mp
      exact (List.drop_sublist _ _).subset ((List.take_sublist _ _).subset shown)
    refine certain.untied payment member (.inr ?_)
    rwa [← reached, HistoryQuery.cut_payments]
  have total : list.length = (query.canonical world).length :=
    (arranged.perm.trans canonical.perm.symm).length_eq
  have remaining : (list.drop (startIndex cursor list)).length =
      ((query.canonical world).drop (startIndex cursor (query.canonical world))).length := by
    rw [List.length_drop, List.length_drop, startIndex_eq, startIndex_eq, start, total]
  have shown : (list.drop (startIndex cursor list)).take query.limit =
      ((query.canonical world).drop (startIndex cursor (query.canonical world))).take
        query.limit := by
    rw [startIndex_eq, startIndex_eq]
    exact payments
  rw [← reached, HistoryQuery.cut, HistoryQuery.cut, HistoryQuery.page, HistoryQuery.page]
  simp only [shown, remaining, total]

/-- If the pages are canonical on all hosts, they are the same for all arrangements. -/
theorem HistoryQuery.Canonical.fixed (canonical : query.Canonical world cursor)
    (own : ¬ query.Foreign world cursor) (valid : 1 ≤ query.limit ∧ query.limit ≤ 100)
    {list : List PaymentOrder}
    (arranged : Arranges (sortKey query.sortField query.sortOrder) (query.listed world) list) :
    ∃ payments, query.Lists world payments ∧
      query.cut cursor list = query.pageAfter world cursor payments := by
  obtain ⟨host, sorts, other, sorted⟩ := exists_host_sorting query.history.account arranged
  have authorised : (host.env [query.history.account] fun _ => true).Authorised
      query.history.account := ⟨other, List.mem_singleton_self _⟩
  have committed := HistoryQuery.request_commits valid authorised world cursor
  obtain ⟨payments, lists, page⟩ := canonical.shown own host sorts _ ⟨_, _, committed⟩
  refine ⟨payments, lists, ?_⟩
  rw [← page, HistoryQuery.sorted]
  exact congrArg (query.cut cursor) sorted.symm

/-- If the page of the canonical list is the canonical page, its cursor is reached. -/
theorem HistoryQuery.reached_of_cut (positive : 1 ≤ query.limit)
    (distinct : (query.listed world).Nodup)
    (same : query.cut cursor (query.canonical world) =
      query.pageAfter world cursor (query.canonical world)) :
    ∀ id ∈ cursor, ∀ named ∈ world.getPayment id, named ∈ query.listed world ∨
      ∀ payment ∈ query.listed world, canonicalKey query.sortField query.sortOrder named <
        canonicalKey query.sortField query.sortOrder payment := by
  intro id isCursor named stored
  obtain rfl := Option.mem_def.mp isCursor
  obtain rfl := Table.key_of_get stored
  by_cases listed : named ∈ query.listed world
  · exact .inl listed
  · refine .inr fun payment member => ?_
    have arranges := query.canonical_arranges world
    have whole : (query.canonical world).take query.limit =
        ((query.canonical world).filter
          (query.Follows world (some named.orderId) ·)).take query.limit := by
      have shown := congrArg PaymentPage.payments same
      rwa [HistoryQuery.cut_payments,
        Paging.after_of_not_mem (not_mem_canonical stored listed)] at shown
    have among := arranges.perm.mem_iff.mpr member
    have sorted := canonical_sorted distinct
    cases split : query.canonical world with
    | nil =>
        rw [split] at among
        cases among
    | cons head rest =>
        -- the first payment is shown, so that it follows the cursor
        have least : head ∈ (query.canonical world).take query.limit := by
          rw [split, List.take_cons positive]
          exact List.mem_cons_self
        rw [whole] at least
        have follows := of_decide_eq_true (List.mem_filter.mp (List.mem_of_mem_take least)).2
        have above := follows named.orderId rfl named stored
        rw [split] at among sorted
        rcases List.mem_cons.mp among with rfl | later
        · exact above
        · exact above.trans ((List.pairwise_cons.mp sorted).1 payment later)

theorem HistoryQuery.Canonical.own (canonical : query.Canonical world cursor)
    (valid : 1 ≤ query.limit ∧ query.limit ≤ 100) : ¬ query.Foreign world cursor := by
  intro foreign
  obtain ⟨host, sorts, other, _⟩ := exists_host_sorting query.history.account
    (query.canonical_arranges world)
  have authorised : (host.env [query.history.account] fun _ => true).Authorised
      query.history.account := ⟨other, List.mem_singleton_self _⟩
  have committed := HistoryQuery.request_commits valid authorised world cursor
  cases committed.symm.trans (canonical.refused foreign host _ _ sorts authorised)

/-- If the pages are canonical, an index that lists own payments only, and none twice, is
complete. -/
theorem HistoryQuery.Canonical.indexed (canonical : query.Canonical world cursor)
    (valid : 1 ≤ query.limit ∧ query.limit ≤ 100) (distinct : (query.ids world).Nodup)
    (owned : ∀ id ∈ query.ids world, ∀ payment ∈ world.getPayment id, query.Owns payment) :
    query.Indexed world := by
  have once : (query.listed world).Nodup := (matching_nodup world distinct query.filter).of_map _
  obtain ⟨payments, lists, same⟩ := canonical.fixed (canonical.own valid) valid
    (query.canonical_arranges world)
  have total : (query.canonical world).length = payments.length :=
    congrArg PaymentPage.totalMatching same
  have within : query.listed world ⊆ payments := by
    intro payment member
    obtain ⟨found, accepted⟩ := List.mem_filter.mp member
    obtain ⟨id, listed, stored⟩ := List.mem_filterMap.mp found
    exact (lists.all payment).mpr
      ⟨stored_of_mem_listed member, owned id listed payment stored, accepted⟩
  have length := (query.canonical_arranges world).perm.length_eq
  have perm : (query.listed world).Perm payments :=
    (once.subperm within).perm_of_length_le (by omega)
  exact ⟨once, fun payment => perm.mem_iff.trans (lists.all payment)⟩

/-- A page is canonical on all hosts where the index is complete, the cursor's payment is the
account's and reached, and nothing on the page, and not its cursor, has a tie; and if the index
lists no payment twice and none of another account, only there. -/
theorem history_canonical_iff (query : HistoryQuery) (world : World) (cursor : Option Text)
    (valid : 1 ≤ query.limit ∧ query.limit ≤ 100) :
    (query.Certain world cursor → query.Canonical world cursor) ∧
      ((query.ids world).Nodup →
        (∀ id ∈ query.ids world, ∀ payment ∈ world.getPayment id, query.Owns payment) →
          query.Canonical world cursor → query.Certain world cursor) := by
  constructor
  · intro certain
    constructor
    · exact fun foreign => absurd foreign certain.own
    · intro _ host sorts page fetched
      refine ⟨_, certain.indexed.lists, ?_⟩
      rw [fetched.page_eq]
      exact certain.cut_eq (query.sorted_arranges sorts world)
  · intro distinct owned canonical
    have own := canonical.own valid
    have indexed := canonical.indexed valid distinct owned
    have arranges := query.canonical_arranges world
    have keys := matching_nodup world distinct query.filter
    have same (list : List PaymentOrder)
        (arranged : Arranges (sortKey query.sortField query.sortOrder) (query.listed world) list) :
        query.cut cursor list = query.pageAfter world cursor (query.canonical world) := by
      obtain ⟨payments, lists, page⟩ := canonical.fixed own valid arranged
      rw [page, lists.unique indexed.lists]
    have reached := HistoryQuery.reached_of_cut valid.1 indexed.distinct (same _ arranges)
    have fixed (list : List PaymentOrder)
        (arranged : Arranges (sortKey query.sortField query.sortOrder) (query.listed world) list) :
        (Paging.after PaymentOrder.orderId cursor list).take query.limit =
          (Paging.after PaymentOrder.orderId cursor (query.canonical world)).take query.limit := by
      rw [← HistoryQuery.cut_payments, ← HistoryQuery.cut_payments, same list arranged,
        same _ arranges]
    refine ⟨own, indexed, reached, fun payment member around => ?_⟩
    rcases around with named | shown
    · exact Arranges.alone_of_cursor keys valid.1 arranges fixed member named
    · rw [← same _ arranges, HistoryQuery.cut_payments] at shown
      exact Arranges.alone_of_shown keys valid.1 arranges fixed shown

/-- Two payments of the same amount at the same time, the one with the larger identifier first. -/
def Sample.twins : List Action := [
  invokedBy payer (.payment (.processPaymentWithNonce payer [2] shop coin 5 [] none 0)),
  invokedBy payer (.payment (.processPaymentWithNonce payer [1] shop coin 5 [] none 1))]

def Sample.twinHistory : HistoryQuery := ⟨.merchant shop, 10, none, .amount, .ascending⟩

theorem HistoryQuery.indexed_of_keys (distinct : (query.listed world).Nodup)
    (owned : ∀ payment ∈ query.listed world, query.Owns payment)
    (all : ∀ id ∈ world.payments.orders.entries.keys, ∀ payment ∈ world.getPayment id,
      query.Owns payment → matchesFilter payment query.filter = true →
        payment ∈ query.listed world) : query.Indexed world where
  distinct := distinct
  all payment := by
    constructor
    · intro member
      exact ⟨stored_of_mem_listed member, owned payment member, (List.mem_filter.mp member).2⟩
    · rintro ⟨stored, owns, accepted⟩
      exact all payment.orderId (Finmap.mem_keys.mpr (Finmap.mem_iff.mpr ⟨payment, stored⟩))
        payment stored owns accepted

/-- The page behind the cheapest of three payments. -/
theorem history_canonical_iff_sample :
    Sample.shopHistory.Canonical (Sample.world Sample.purchases) (some [1]) ∧
      (Sample.shopHistory.pageAfter (Sample.world Sample.purchases) (some [1])
        (Sample.shopHistory.canonical (Sample.world Sample.purchases))).payments.map
          PaymentOrder.orderId = [[2], [3]] := by
  have indexed : Sample.shopHistory.Indexed (Sample.world Sample.purchases) :=
    HistoryQuery.indexed_of_keys (by decide +kernel) (by decide +kernel) (by decide +kernel)
  have apart : ∀ payment ∈ Sample.shopHistory.listed (Sample.world Sample.purchases),
      ∀ other ∈ Sample.shopHistory.listed (Sample.world Sample.purchases),
        sortKey .amount .ascending other = sortKey .amount .ascending payment →
          other = payment := by decide +kernel
  have reached : ∀ id ∈ some [1], ∀ named ∈ (Sample.world Sample.purchases).getPayment id,
      named ∈ Sample.shopHistory.listed (Sample.world Sample.purchases) := by decide +kernel
  exact ⟨(history_canonical_iff Sample.shopHistory (Sample.world Sample.purchases) (some [1])
    (by decide)).1 ⟨by decide +kernel, indexed,
      fun id isCursor named stored => .inl (reached id isCursor named stored),
      fun payment member _ => apart payment member⟩, by decide +kernel⟩

/-- A host that sorts stably leaves the two as they were made, and a cursor that names neither
is not refused. -/
theorem history_not_canonical :
    (¬ ∀ host world, Reachable host world → ∀ (query : HistoryQuery) cursor,
        1 ≤ query.limit ∧ query.limit ≤ 100 → ¬ query.Foreign world cursor →
          query.Canonical world cursor) ∧
      ¬ ∀ host world, Reachable host world → ∀ (query : HistoryQuery) cursor,
        1 ≤ query.limit ∧ query.limit ≤ 100 → query.Foreign world cursor →
          query.Canonical world cursor := by
  constructor
  · intro always
    have own : ¬ Sample.twinHistory.Foreign (Sample.world Sample.twins) none := by
      rintro ⟨id, ⟨⟩, _⟩
    have canonical := always Sample.host _ (Sample.reachable_world Sample.twins)
      Sample.twinHistory none (by decide) own
    obtain ⟨payments, lists, same⟩ := canonical.fixed own (by decide)
      (Sample.twinHistory.sorted_arranges Sample.sortingHost_sorts (Sample.world Sample.twins))
    have indexed : Sample.twinHistory.Indexed (Sample.world Sample.twins) :=
      HistoryQuery.indexed_of_keys (by decide +kernel) (by decide +kernel) (by decide +kernel)
    rw [lists.unique indexed.lists] at same
    have ids := congrArg (fun page => page.payments.map PaymentOrder.orderId) same
    exact absurd ids (by decide +kernel)
  · intro always
    have foreign : Sample.twinHistory.Foreign (Sample.world Sample.twins) (some [9]) :=
      ⟨[9], rfl, by decide +kernel⟩
    have canonical := always Sample.host _ (Sample.reachable_world Sample.twins)
      Sample.twinHistory (some [9]) (by decide) foreign
    exact canonical.own (by decide) foreign

end Pages

end LumenFlow

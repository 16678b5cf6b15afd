import Mathlib.Data.List.Basic

/-!
# Paging through a list

A page shows some items that come after a cursor, which is the key of an item, and names the
last of them as the next cursor when there are more.  A walk asks for page after page, each
time from a source that may have changed.
-/

namespace Kit

variable {Item Key Source Page : Type}

namespace Paging

/-- The first position after the cursor, or the start when the cursor is absent. -/
def startIndex [DecidableEq Key] (key : Item → Key) (cursor : Option Key) (items : List Item) :
    Nat :=
  match cursor with
  | none => 0
  | some cursor =>
      match items.findIdx? (key · = cursor) with
      | some position => position + 1
      | none => 0

/-- The items that come after the cursor. -/
def after [DecidableEq Key] (key : Item → Key) (cursor : Option Key) (items : List Item) :
    List Item :=
  items.drop (startIndex key cursor items)

section After

variable [DecidableEq Key] {key : Item → Key} {items front rest : List Item} {item : Item}

@[simp]
theorem after_none : after key none items = items := rfl

theorem after_append_cons (distinct : ((front ++ item :: rest).map key).Nodup) :
    after key (some (key item)) (front ++ item :: rest) = rest := by
  have others : ∀ other ∈ front, key other ≠ key item := by
    intro other member same
    rw [List.map_append, List.map_cons] at distinct
    exact (List.nodup_append.mp distinct).2.2 (key other) (List.mem_map_of_mem member) (key item)
      List.mem_cons_self same
  have found : (front ++ item :: rest).findIdx? (key · = key item) = some front.length := by
    rw [List.findIdx?_append, List.findIdx?_eq_none_iff.mpr (by simpa using others)]
    simp [List.findIdx?_cons]
  simp only [after, startIndex, found]
  rw [List.drop_append, List.drop_of_length_le (by omega)]
  simp

theorem exists_append_after (key : Item → Key) (cursor : Option Key) (items : List Item) :
    ∃ front, items = front ++ after key cursor items :=
  ⟨items.take _, (List.take_append_drop _ items).symm⟩

theorem nodup_after (distinct : (items.map key).Nodup) (cursor : Option Key) :
    ((after key cursor items).map key).Nodup :=
  distinct.sublist ((List.drop_sublist _ _).map key)

theorem after_last_taken {cursor : Option Key} {limit : Nat} {last : Item}
    (distinct : (items.map key).Nodup)
    (shown : ((after key cursor items).take limit).getLast? = some last) :
    after key (some (key last)) items = (after key cursor items).drop limit := by
  obtain ⟨front, split⟩ := exists_append_after key cursor items
  obtain ⟨init, taken⟩ := List.getLast?_eq_some_iff.mp shown
  have whole : items = (front ++ init) ++ last :: (after key cursor items).drop limit := by
    calc items = front ++ after key cursor items := split
      _ = front ++
          ((after key cursor items).take limit ++ (after key cursor items).drop limit) := by
        rw [List.take_append_drop]
      _ = _ := by rw [taken]; simp
  rw [whole] at distinct
  have behind := after_append_cons distinct
  rwa [← whole] at behind

theorem not_mem_after (distinct : (items.map key).Nodup) (name : Key) :
    name ∉ (after key (some name) items).map key := by
  intro again
  have listed : name ∈ items.map key := ((List.drop_sublist _ items).map key).subset again
  obtain ⟨item, member, rfl⟩ := List.mem_map.mp listed
  obtain ⟨front, rest, rfl⟩ := List.append_of_mem member
  rw [after_append_cons distinct] at again
  rw [List.map_append, List.map_cons] at distinct
  exact (List.nodup_cons.mp (List.nodup_append.mp distinct).2.1).1 again

theorem after_of_not_mem {name : Key} (absent : name ∉ items.map key) :
    after key (some name) items = items := by
  have unfound : items.findIdx? (key · = name) = none := by
    refine List.findIdx?_eq_none_iff.mpr fun item member => decide_eq_false ?_
    rintro rfl
    exact absent (List.mem_map_of_mem member)
  simp only [after, startIndex, unfound, List.drop_zero]

section Ordered

variable {ordered : Item → Item → Prop} {other : Item}

/-- What may not stand before the item of the cursor comes after it. -/
theorem mem_after_of_not_before (distinct : (items.map key).Nodup)
    (sorted : items.Pairwise ordered) (listed : item ∈ items) (member : other ∈ items)
    (different : key other ≠ key item) (behind : ¬ ordered other item) :
    key other ∈ (after key (some (key item)) items).map key := by
  obtain ⟨front, rest, rfl⟩ := List.append_of_mem listed
  rw [after_append_cons distinct]
  have before := (List.pairwise_append.mp sorted).2.2
  rcases List.mem_append.mp member with inFront | inRest
  · exact absurd (before other inFront item List.mem_cons_self) behind
  · rcases List.mem_cons.mp inRest with rfl | inRest
    · exact absurd rfl different
    · exact List.mem_map_of_mem inRest

theorem not_mem_after_of_not_behind (distinct : (items.map key).Nodup)
    (sorted : items.Pairwise ordered) (listed : item ∈ items) (member : other ∈ items)
    (before : ¬ ordered item other) :
    key other ∉ (after key (some (key item)) items).map key := by
  obtain ⟨front, rest, rfl⟩ := List.append_of_mem listed
  rw [after_append_cons distinct]
  have behind := (List.pairwise_cons.mp (List.pairwise_append.mp sorted).2.1).1
  rw [List.map_append, List.map_cons] at distinct
  obtain ⟨_, restDistinct, apart⟩ := List.nodup_append.mp distinct
  intro again
  rcases List.mem_append.mp member with inFront | inRest
  · exact apart _ (List.mem_map_of_mem inFront) _ (List.mem_cons_of_mem _ again) rfl
  · rcases List.mem_cons.mp inRest with rfl | inRest
    · exact (List.nodup_cons.mp restDistinct).1 again
    · exact before (behind other inRest)

end Ordered

theorem after_map {cursor : Option Key} {change : Item → Item}
    (kept : ∀ item, cursor = some (key (change item)) ↔ cursor = some (key item)) :
    after key cursor (items.map change) = (after key cursor items).map change := by
  have start : startIndex key cursor (items.map change) = startIndex key cursor items := by
    cases cursor with
    | none => rfl
    | some name =>
        have same : (fun item => decide (key item = name)) ∘ change =
            fun item => decide (key item = name) := by
          funext item
          rw [Function.comp, decide_eq_decide]
          have here := kept item
          rwa [Option.some.injEq, Option.some.injEq, eq_comm, @eq_comm _ name] at here
        simp only [startIndex, List.findIdx?_map, same]
  rw [after, start, ← List.map_drop]
  rfl

theorem after_getElem (distinct : (items.map key).Nodup) {index : Nat}
    (found : items[index]? = some item) :
    after key (some (key item)) items = items.drop (index + 1) := by
  obtain ⟨bound, here⟩ := List.getElem?_eq_some_iff.mp found
  have split : items = items.take index ++ item :: items.drop (index + 1) := by
    rw [← here, List.getElem_cons_drop, List.take_append_drop]
  rw [split] at distinct
  have behind := after_append_cons distinct
  rwa [← split] at behind

end After

/-- A walk over the sources: it starts with a cursor, goes on from the next cursor of each page,
and ends with a page that names none. -/
inductive Walk (fetch : Source → Option Key → Page → Prop) (next : Page → Option Key) :
    Option Key → List Source → List Page → Prop where
  | last {cursor : Option Key} {source : Source} {page : Page} (fetched : fetch source cursor page)
      (ends : next page = none) : Walk fetch next cursor [source] [page]
  | more {cursor : Option Key} {source : Source} {page : Page} {sources : List Source}
      {pages : List Page} {name : Key} (fetched : fetch source cursor page)
      (continues : next page = some name) (rest : Walk fetch next (some name) sources pages) :
      Walk fetch next cursor (source :: sources) (page :: pages)

section Walk

variable {next : Page → Option Key} {fetch : Source → Option Key → Page → Prop} {source : Source}
  {cursor : Option Key} {page : Page}

theorem Walk.next_eq_none_iff {sources : List Source} {pages : List Page}
    (walk : Walk fetch next cursor sources pages) {before after : List Page}
    (split : pages = before ++ page :: after) : next page = none ↔ after = [] := by
  induction walk generalizing before with
  | last fetched ends =>
      obtain ⟨rfl, same⟩ | ⟨rest, rfl, same⟩ := List.cons_eq_append_iff.mp split
      · obtain ⟨rfl, rfl⟩ := List.cons.inj same
        exact iff_of_true ends rfl
      · cases rest <;> cases same
  | @more _ _ head _ pages _ fetched continues rest inductionHypothesis =>
      cases before with
      | nil =>
          obtain ⟨rfl, rfl⟩ := List.cons.inj split
          refine iff_of_false (by simp [continues]) fun none => ?_
          subst none
          cases rest
      | cons first before =>
          obtain ⟨rfl, same⟩ := List.cons.inj split
          exact inductionHypothesis same

theorem Walk.unique (answer : ∀ {source cursor page other}, fetch source cursor page →
      fetch source cursor other → page = other) {sources others : List Source}
    {pages otherPages : List Page} (fixed : ∀ other ∈ sources, other = source)
    (alike : ∀ other ∈ others, other = source)
    (walk : Walk fetch next cursor sources pages)
    (second : Walk fetch next cursor others otherPages) : pages = otherPages := by
  induction walk generalizing others otherPages with
  | last fetched ends =>
      obtain rfl := fixed _ List.mem_cons_self
      cases second with
      | last again =>
          obtain rfl := alike _ List.mem_cons_self
          rw [answer fetched again]
      | more again continues =>
          obtain rfl := alike _ List.mem_cons_self
          rw [answer fetched again, continues] at ends
          cases ends
  | more fetched continues rest inductionHypothesis =>
      obtain rfl := fixed _ List.mem_cons_self
      cases second with
      | last again ends =>
          obtain rfl := alike _ List.mem_cons_self
          rw [answer fetched again, ends] at continues
          cases continues
      | more again further tail =>
          obtain rfl := alike _ List.mem_cons_self
          obtain rfl := answer fetched again
          obtain rfl := Option.some.inj (continues.symm.trans further)
          rw [inductionHypothesis (fun other member => fixed other (List.mem_cons_of_mem _ member))
            (fun other member => alike other (List.mem_cons_of_mem _ member)) tail]

end Walk

/-- How the pages of a source are made. -/
structure Shows [DecidableEq Key] (key : Item → Key) (limit : Nat) (view : Source → List Item)
    (items : Page → List Item) (next : Page → Option Key)
    (fetch : Source → Option Key → Page → Prop) : Prop where
  items_eq : ∀ {source cursor page}, fetch source cursor page →
    items page = (after key cursor (view source)).take limit
  next_eq : ∀ {source cursor page}, fetch source cursor page →
    next page = if limit < (after key cursor (view source)).length then
      (items page).getLast?.map key else none

/-- Between two requests the names that stay are on the same side of the cursor. -/
def Steady [DecidableEq Key] (key : Item → Key) (view : Source → List Item)
    (next : Page → Option Key) (stays : Key → Prop) : List Source → List Page → Prop
  | source :: later :: sources, page :: pages =>
      (∀ cursor ∈ next page, ∀ name, stays name →
        (name ∈ (after key (some cursor) (view later)).map key ↔
          name ∈ (after key (some cursor) (view source)).map key)) ∧
        Steady key view next stays (later :: sources) pages
  | _, _ => True

section Shows

variable [DecidableEq Key] {key : Item → Key} {limit : Nat} {view : Source → List Item}
  {items : Page → List Item} {next : Page → Option Key}
  {fetch : Source → Option Key → Page → Prop} {source : Source} {cursor : Option Key} {page : Page}
  {name : Key}

/-- A page without a next cursor shows all that is left. -/
theorem Shows.items_of_last (shows : Shows key limit view items next fetch)
    (positive : 0 < limit) (fetched : fetch source cursor page) :
    next page = none ↔ items page = after key cursor (view source) := by
  rw [shows.next_eq fetched, shows.items_eq fetched]
  split
  · next long =>
      have nonempty : (after key cursor (view source)).take limit ≠ [] := by
        intro empty
        have short := congrArg List.length empty
        rw [List.length_take, List.length_nil] at short
        omega
      constructor
      · intro none
        rw [Option.map_eq_none_iff, List.getLast?_eq_none_iff] at none
        exact absurd none nonempty
      · intro whole
        have short := congrArg List.length whole
        rw [List.length_take] at short
        omega
  · next short => simp [List.take_of_length_le (Nat.not_lt.mp short)]

theorem Shows.next_listed (shows : Shows key limit view items next fetch)
    (fetched : fetch source cursor page) (continues : next page = some name) :
    limit < (after key cursor (view source)).length ∧
      name ∈ (after key cursor (view source)).map key := by
  rw [shows.next_eq fetched] at continues
  split at continues
  · next long =>
      obtain ⟨last, shown, rfl⟩ := Option.map_eq_some_iff.mp continues
      rw [shows.items_eq fetched] at shown
      exact ⟨long, List.mem_map_of_mem (List.mem_of_mem_take (List.mem_of_getLast? shown))⟩
  · cases continues

/-- A page with a next cursor is full, and leaves what comes after that cursor. -/
theorem Shows.after_next (shows : Shows key limit view items next fetch)
    (distinct : ((view source).map key).Nodup) (fetched : fetch source cursor page)
    (continues : next page = some name) :
    (items page).length = limit ∧
      after key cursor (view source) = items page ++ after key (some name) (view source) := by
  rw [shows.next_eq fetched] at continues
  split at continues
  · next long =>
      obtain ⟨last, shown, rfl⟩ := Option.map_eq_some_iff.mp continues
      rw [shows.items_eq fetched] at shown ⊢
      rw [after_last_taken distinct shown, List.take_append_drop, List.length_take]
      exact ⟨Nat.min_eq_left (Nat.le_of_lt long), rfl⟩
  · cases continues

/-- In a walk over sources that list each name once, and that keep the names that stay on their
side of each cursor, these are shown once when they come after the first cursor, and otherwise
not. -/
theorem Walk.count_eq [BEq Key] [LawfulBEq Key]
    (shows : Shows key limit view items next fetch) (positive : 0 < limit)
    {sources : List Source} {pages : List Page} (walk : Walk fetch next cursor sources pages)
    (distinct : ∀ source ∈ sources, ((view source).map key).Nodup) {stays : Key → Prop}
    (steady : Steady key view next stays sources pages) (staying : stays name)
    (first : sources.head? = some source) :
    ((pages.flatMap items).map key).count name =
      if name ∈ (after key cursor (view source)).map key then 1 else 0 := by
  induction walk generalizing source with
  | @last cursor only page fetched ends =>
      obtain rfl := Option.some.inj first
      have once := nodup_after (distinct only List.mem_cons_self) cursor
      rw [List.flatMap_cons, List.flatMap_nil, List.append_nil,
        (shows.items_of_last positive fetched).mp ends, once.count]
  | @more cursor here page sources pages between fetched continues rest inductionHypothesis =>
      obtain rfl := Option.some.inj first
      have once := nodup_after (distinct here List.mem_cons_self) cursor
      obtain ⟨_, split⟩ := shows.after_next (distinct here List.mem_cons_self) fetched continues
      have others : ∀ source ∈ sources, ((view source).map key).Nodup :=
        fun source member => distinct source (List.mem_cons_of_mem _ member)
      rw [split, List.map_append] at once
      rw [List.flatMap_cons, List.map_append, List.count_append, split, List.map_append]
      cases sources with
      | nil => cases rest
      | cons later sources =>
          have sides := steady.1 between continues name staying
          rw [inductionHypothesis others steady.2 rfl]
          simp only [sides, List.mem_append]
          have shownOnce := (List.nodup_append.mp once).1
          have apart := (List.nodup_append.mp once).2.2
          rw [shownOnce.count]
          by_cases shown : name ∈ (items page).map key
          · have notLeft : name ∉ (after key (some between) (view here)).map key :=
              fun left => apart name shown name left rfl
            simp only [shown, notLeft, if_true, if_false, or_false]
          · simp only [shown, if_false, Nat.zero_add, false_or]

/-- Over one list that lists each name once, the pages follow each other without a gap. -/
theorem Walk.flatMap_eq (shows : Shows key limit view items next fetch) (positive : 0 < limit)
    {sources : List Source} {pages : List Page} (walk : Walk fetch next cursor sources pages)
    (fixed : ∀ other ∈ sources, other = source) (distinct : ((view source).map key).Nodup) :
    pages.flatMap items = after key cursor (view source) := by
  induction walk with
  | last fetched ends =>
      obtain rfl := fixed _ List.mem_cons_self
      rw [List.flatMap_cons, List.flatMap_nil, List.append_nil]
      exact (shows.items_of_last positive fetched).mp ends
  | more fetched continues rest inductionHypothesis =>
      obtain rfl := fixed _ List.mem_cons_self
      rw [List.flatMap_cons, inductionHypothesis fun other member =>
        fixed other (List.mem_cons_of_mem _ member)]
      exact (shows.after_next distinct fetched continues).2.symm

theorem Walk.length_eq (shows : Shows key limit view items next fetch)
    {sources : List Source} {pages : List Page} (walk : Walk fetch next cursor sources pages)
    (distinct : ∀ source ∈ sources, ((view source).map key).Nodup) :
    ∀ page ∈ pages, next page ≠ none → (items page).length = limit := by
  induction walk with
  | last fetched ends =>
      intro page member continues
      obtain rfl := List.mem_singleton.mp member
      exact absurd ends continues
  | @more _ _ _ _ _ between fetched continues rest inductionHypothesis =>
      intro page member more
      rcases List.mem_cons.mp member with rfl | member
      · exact (shows.after_next (distinct _ List.mem_cons_self) fetched continues).1
      · exact inductionHypothesis
          (fun source among => distinct source (List.mem_cons_of_mem _ among)) page member more

theorem Walk.nothing_left_iff (shows : Shows key limit view items next fetch)
    (positive : 0 < limit) {sources : List Source} {pages : List Page}
    (walk : Walk fetch next cursor sources pages) (fixed : ∀ other ∈ sources, other = source)
    (distinct : ((view source).map key).Nodup) {before rest : List Page}
    (split : pages = before ++ page :: rest) :
    next page = none ↔ before.flatMap items ++ items page = after key cursor (view source) := by
  induction walk generalizing before with
  | last fetched ends =>
      obtain rfl := fixed _ List.mem_cons_self
      obtain ⟨rfl, same⟩ | ⟨later, rfl, same⟩ := List.cons_eq_append_iff.mp split
      · obtain ⟨rfl, rfl⟩ := List.cons.inj same
        exact shows.items_of_last positive fetched
      · cases later <;> cases same
  | more fetched continues rest inductionHypothesis =>
      obtain rfl := fixed _ List.mem_cons_self
      cases before with
      | nil =>
          obtain ⟨rfl, rfl⟩ := List.cons.inj split
          exact shows.items_of_last positive fetched
      | cons first before =>
          obtain ⟨rfl, same⟩ := List.cons.inj split
          rw [inductionHypothesis (fun other member => fixed other (List.mem_cons_of_mem _ member))
            same, (shows.after_next distinct fetched continues).2, List.flatMap_cons,
            List.append_assoc, List.append_cancel_left_eq]

theorem Walk.exists (shows : Shows key limit view items next fetch) (positive : 0 < limit)
    (source : Source) (distinct : ((view source).map key).Nodup)
    (answers : ∀ cursor, ∃ page, fetch source cursor page) (cursor : Option Key) :
    ∃ count pages, Walk fetch next cursor (List.replicate count source) pages := by
  generalize size : (after key cursor (view source)).length = left
  induction left using Nat.strongRecOn generalizing cursor with
  | ind left inductionHypothesis =>
      obtain ⟨page, fetched⟩ := answers cursor
      cases continues : next page with
      | none => exact ⟨1, [page], .last fetched continues⟩
      | some name =>
          obtain ⟨full, split⟩ := shows.after_next distinct fetched continues
          have shrinks := congrArg List.length split
          rw [List.length_append, full, size] at shrinks
          obtain ⟨count, pages, rest⟩ := inductionHypothesis _ (by omega) (some name) rfl
          exact ⟨count + 1, page :: pages, .more fetched continues rest⟩

end Shows

/-- How the pages are made when the next cursor is the first item that a page leaves out.  A
page that starts behind this cursor never shows it. -/
structure Skips [DecidableEq Key] (key : Item → Key) (limit : Nat) (items : Page → List Item)
    (next : Page → Option Key) (fetch : List Item → Option Key → Page → Prop) : Prop where
  items_eq : ∀ {source cursor page}, (∀ name ∈ cursor, name ∈ source.map key) →
    fetch source cursor page → items page = (after key cursor source).take limit
  next_eq : ∀ {source cursor page}, (∀ name ∈ cursor, name ∈ source.map key) →
    fetch source cursor page → next page = (after key cursor source)[limit]?.map key

section Skips

variable [DecidableEq Key] {key : Item → Key} {limit : Nat} {items : Page → List Item}
  {next : Page → Option Key} {fetch : List Item → Option Key → Page → Prop} {source : List Item}
  {cursor : Option Key} {page : Page} {name : Key}

/-- A page with a next cursor leaves out the item of the cursor and what comes behind it. -/
theorem Skips.after_next (skips : Skips key limit items next fetch)
    (distinct : (source.map key).Nodup) (listed : ∀ name ∈ cursor, name ∈ source.map key)
    (fetched : fetch source cursor page) (continues : next page = some name) :
    name ∈ source.map key ∧ ∃ skipped, key skipped = name ∧
      after key cursor source = items page ++ skipped :: after key (some name) source := by
  rw [skips.next_eq listed fetched] at continues
  obtain ⟨skipped, found, rfl⟩ := Option.map_eq_some_iff.mp continues
  obtain ⟨long, rfl⟩ := List.getElem?_eq_some_iff.mp found
  have shown : after key cursor source = items page ++
      (after key cursor source)[limit] :: (after key cursor source).drop (limit + 1) := by
    rw [skips.items_eq listed fetched, List.getElem_cons_drop, List.take_append_drop]
  obtain ⟨front, split⟩ := exists_append_after key cursor source
  have whole : source = (front ++ items page) ++
      (after key cursor source)[limit] :: (after key cursor source).drop (limit + 1) := by
    rw [List.append_assoc, ← shown]
    exact split
  have behind : after key (some (key (after key cursor source)[limit])) source =
      (after key cursor source).drop (limit + 1) := by
    rw [whole] at distinct
    have rest := after_append_cons distinct
    rwa [← whole] at rest
  refine ⟨List.mem_map_of_mem (List.mem_of_mem_drop (List.getElem_mem long)), _, rfl, ?_⟩
  rw [behind]
  exact shown

theorem Skips.items_of_last (skips : Skips key limit items next fetch)
    (listed : ∀ name ∈ cursor, name ∈ source.map key) (fetched : fetch source cursor page)
    (ends : next page = none) : items page = after key cursor source := by
  rw [skips.next_eq listed fetched, Option.map_eq_none_iff, List.getElem?_eq_none_iff] at ends
  rw [skips.items_eq listed fetched, List.take_of_length_le ends]

theorem Walk.sublist_after (skips : Skips key limit items next fetch)
    {sources : List (List Item)} {pages : List Page} (walk : Walk fetch next cursor sources pages)
    (fixed : ∀ other ∈ sources, other = source) (distinct : (source.map key).Nodup)
    (listed : ∀ name ∈ cursor, name ∈ source.map key) :
    (pages.flatMap items).Sublist (after key cursor source) := by
  induction walk with
  | last fetched ends =>
      obtain rfl := fixed _ List.mem_cons_self
      rw [List.flatMap_cons, List.flatMap_nil, List.append_nil,
        skips.items_of_last listed fetched ends]
  | more fetched continues rest inductionHypothesis =>
      obtain rfl := fixed _ List.mem_cons_self
      obtain ⟨member, skipped, _, split⟩ := skips.after_next distinct listed fetched continues
      have later := inductionHypothesis
        (fun other among => fixed other (List.mem_cons_of_mem _ among))
        (fun _ same => Option.mem_some_iff.mp same ▸ member)
      rw [List.flatMap_cons, split]
      exact (List.Sublist.refl _).append (later.cons skipped)

/-- The pages show all that comes after the first cursor exactly when one page holds it. -/
theorem Walk.flatMap_eq_iff (skips : Skips key limit items next fetch)
    {sources : List (List Item)} {pages : List Page} (walk : Walk fetch next cursor sources pages)
    (fixed : ∀ other ∈ sources, other = source) (distinct : (source.map key).Nodup)
    (listed : ∀ name ∈ cursor, name ∈ source.map key) :
    pages.flatMap items = after key cursor source ↔ (after key cursor source).length ≤ limit := by
  cases walk with
  | last fetched ends =>
      obtain rfl := fixed _ List.mem_cons_self
      have all := skips.items_of_last listed fetched ends
      refine iff_of_true (by rw [List.flatMap_cons, List.flatMap_nil, List.append_nil, all]) ?_
      rw [← all, skips.items_eq listed fetched]
      exact List.length_take_le _ _
  | more fetched continues rest =>
      obtain rfl := fixed _ List.mem_cons_self
      obtain ⟨member, skipped, _, split⟩ := skips.after_next distinct listed fetched continues
      have later := rest.sublist_after skips
        (fun other among => fixed other (List.mem_cons_of_mem _ among)) distinct
        (fun _ same => Option.mem_some_iff.mp same ▸ member)
      refine iff_of_false (fun whole => ?_) fun short => ?_
      · -- the item of the next cursor is missing
        rw [List.flatMap_cons, split, List.append_cancel_left_eq] at whole
        have longer := later.length_le
        rw [whole, List.length_cons] at longer
        omega
      · rw [skips.next_eq listed fetched, List.getElem?_eq_none short] at continues
        cases continues

theorem Walk.exists_skipping (skips : Skips key limit items next fetch)
    (distinct : (source.map key).Nodup) (answers : ∀ cursor, ∃ page, fetch source cursor page)
    (listed : ∀ name ∈ cursor, name ∈ source.map key) :
    ∃ count pages, Walk fetch next cursor (List.replicate count source) pages := by
  generalize size : (after key cursor source).length = left
  induction left using Nat.strongRecOn generalizing cursor with
  | ind left inductionHypothesis =>
      obtain ⟨page, fetched⟩ := answers cursor
      cases continues : next page with
      | none => exact ⟨1, [page], .last fetched continues⟩
      | some name =>
          obtain ⟨member, _, _, split⟩ := skips.after_next distinct listed fetched continues
          have shrinks := congrArg List.length split
          rw [List.length_append, List.length_cons, size] at shrinks
          obtain ⟨count, pages, rest⟩ := inductionHypothesis _ (by omega)
            (fun _ same => Option.mem_some_iff.mp same ▸ member) rfl
          exact ⟨count + 1, page :: pages, .more fetched continues rest⟩

end Skips

end Paging

end Kit

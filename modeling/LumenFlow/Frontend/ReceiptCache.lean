import Mathlib.Data.List.Induction
import Mathlib.Data.List.Sort
import LumenFlow.Kit.History

/-!
# The receipt cache

The receipt page keeps the receipts that it has shown in an object store of the browser, up to
`maxEntries` of them.  Transactions of the object store that write run one after another, so a call
is one step; a call whose transaction aborts changes nothing.
-/

namespace LumenFlow

open Kit

namespace Frontend

def maxEntries : Nat := 50

variable {OrderId Receipt : Type}

structure Entry (OrderId Receipt : Type) where
  orderId : OrderId
  data : Receipt
  accessedAt : Nat
  cachedAt : Nat

/-- An object store with the key path `order_id`. -/
structure ObjectStore (OrderId Receipt : Type) where
  entries : List (Entry OrderId Receipt)
  distinct : (entries.map Entry.orderId).Nodup

theorem ObjectStore.eq_of_mem {store : ObjectStore OrderId Receipt}
    {entry other : Entry OrderId Receipt} (here : entry ∈ store.entries)
    (there : other ∈ store.entries) (same : entry.orderId = other.orderId) : entry = other :=
  List.inj_on_of_nodup_map store.distinct here there same

section Transactions

variable [LinearOrder OrderId]

/-- The order of the index on `accessed_at`, in which equal times follow the primary key. -/
def Entry.Precedes (first second : Entry OrderId Receipt) : Prop :=
  first.accessedAt < second.accessedAt ∨
    first.accessedAt = second.accessedAt ∧ first.orderId ≤ second.orderId

instance : DecidableRel (@Entry.Precedes OrderId Receipt _) := fun _ _ =>
  inferInstanceAs (Decidable (_ ∨ _))

namespace ObjectStore

def empty : ObjectStore OrderId Receipt := ⟨[], List.nodup_nil⟩

def get (store : ObjectStore OrderId Receipt) (orderId : OrderId) :
    Option (Entry OrderId Receipt) :=
  store.entries.find? (·.orderId = orderId)

def delete (store : ObjectStore OrderId Receipt) (orderId : OrderId) :
    ObjectStore OrderId Receipt where
  entries := store.entries.filter (·.orderId ≠ orderId)
  distinct := store.distinct.sublist (List.filter_sublist.map _)

def put (store : ObjectStore OrderId Receipt) (entry : Entry OrderId Receipt) :
    ObjectStore OrderId Receipt where
  entries := entry :: (store.delete entry.orderId).entries
  distinct := by
    rw [List.map_cons, List.nodup_cons]
    refine ⟨?_, (store.delete entry.orderId).distinct⟩
    simp [delete]

/-- The least recently used entries go until at most `maxEntries` are left. -/
def evictIfNeeded (store : ObjectStore OrderId Receipt) : ObjectStore OrderId Receipt :=
  if store.entries.length ≤ maxEntries then store
  else
    { entries := (store.entries.insertionSort Entry.Precedes).drop
        (store.entries.length - maxEntries)
      distinct := by
        apply List.Nodup.sublist ((List.drop_sublist _ _).map _)
        exact ((List.perm_insertionSort _ _).map _).nodup_iff.mpr store.distinct }

end ObjectStore

/-- A call of the cache.  In `failed` the transaction of some call aborts. -/
inductive CacheCall (OrderId Receipt : Type) where
  | get (orderId : OrderId) (now : Nat)
  | set (orderId : OrderId) (data : Receipt) (now : Nat)
  | delete (orderId : OrderId)
  | clear
  | failed

namespace ReceiptCache

/-- What the page gets to see. -/
def get (store : ObjectStore OrderId Receipt) (orderId : OrderId) (now : Nat) :
    ObjectStore OrderId Receipt × Option (Receipt × Nat) :=
  match store.get orderId with
  | none => (store, none)
  | some entry => (store.put { entry with accessedAt := now }, some (entry.data, entry.cachedAt))

def set (store : ObjectStore OrderId Receipt) (orderId : OrderId) (data : Receipt) (now : Nat) :
    ObjectStore OrderId Receipt :=
  (store.put ⟨orderId, data, now, now⟩).evictIfNeeded

def take (store : ObjectStore OrderId Receipt) :
    CacheCall OrderId Receipt → ObjectStore OrderId Receipt
  | .get orderId now => (get store orderId now).1
  | .set orderId data now => set store orderId data now
  | .delete orderId => store.delete orderId
  | .clear => .empty
  | .failed => store

end ReceiptCache

end Transactions

/-! ## What the page has done with a receipt -/

inductive CacheNote (OrderId Receipt : Type) where
  | stored (orderId : OrderId) (data : Receipt) (now : Nat)
  | shown (orderId : OrderId) (now : Nat)
  | dropped (orderId : OrderId)
  | cleared

namespace CacheNote

/-- A receipt is stored or shown. -/
def Uses (note : CacheNote OrderId Receipt) (orderId : OrderId) (time : Nat) : Prop :=
  (∃ data, note = .stored orderId data time) ∨ note = .shown orderId time

end CacheNote

/-- As many other receipts as the cache holds have been used at the time or after it. -/
def Crowded (notes : List (CacheNote OrderId Receipt)) (orderId : OrderId) (time : Nat) : Prop :=
  ∃ others : List OrderId, others.Nodup ∧ others.length = maxEntries ∧ orderId ∉ others ∧
    ∀ other ∈ others, ∃ note ∈ notes, ∃ use, time ≤ use ∧ note.Uses other use

theorem Crowded.concat {notes : List (CacheNote OrderId Receipt)} {orderId : OrderId} {time : Nat}
    (crowded : Crowded notes orderId time)
    (note : CacheNote OrderId Receipt) : Crowded (notes ++ [note]) orderId time := by
  obtain ⟨others, distinct, many, missing, used⟩ := crowded
  refine ⟨others, distinct, many, missing, ?_⟩
  intro other member
  obtain ⟨earlier, noted, uses⟩ := used other member
  exact ⟨earlier, List.mem_append_left _ noted, uses⟩

section Notes

variable [LinearOrder OrderId]

/-- What a note says about the entry of an order. -/
def CacheNote.amend (orderId : OrderId) (entry : Option (Entry OrderId Receipt)) :
    CacheNote OrderId Receipt → Option (Entry OrderId Receipt)
  | stored other data now => if other = orderId then some ⟨orderId, data, now, now⟩ else entry
  | shown other now =>
      if other = orderId then entry.map ({ · with accessedAt := now }) else entry
  | dropped other => if other = orderId then none else entry
  | cleared => none

/-- The notes of a call. -/
def note (store : ObjectStore OrderId Receipt) :
    CacheCall OrderId Receipt → List (CacheNote OrderId Receipt)
  | .get orderId now => if (ReceiptCache.get store orderId now).2.isSome then [.shown orderId now]
      else []
  | .set orderId data now => [.stored orderId data now]
  | .delete orderId => [.dropped orderId]
  | .clear => [.cleared]
  | .failed => []

/-- The entry that a cache of any size would hold. -/
def standing (notes : List (CacheNote OrderId Receipt)) (orderId : OrderId) :
    Option (Entry OrderId Receipt) :=
  notes.foldl (CacheNote.amend orderId) none

/-- The store holds what the page last stored, and what is missing was used before the rest. -/
structure ObjectStore.Tracks (store : ObjectStore OrderId Receipt)
    (notes : List (CacheNote OrderId Receipt)) : Prop where
  faithful : ∀ entry ∈ store.entries, standing notes entry.orderId = some entry
  retained : ∀ orderId entry, standing notes orderId = some entry →
    entry ∈ store.entries ∨ Crowded notes orderId entry.accessedAt

/-- The cache tracks the calls and does not outgrow its bound. -/
structure ObjectStore.Keeps (store : ObjectStore OrderId Receipt)
    (notes : List (CacheNote OrderId Receipt)) : Prop extends store.Tracks notes where
  bounded : store.entries.length ≤ maxEntries

section Index

variable {first second third : Entry OrderId Receipt}

theorem Entry.precedes_total (first second : Entry OrderId Receipt) :
    first.Precedes second ∨ second.Precedes first := by
  unfold Precedes
  rcases lt_trichotomy first.accessedAt second.accessedAt with earlier | same | later
  · exact .inl (.inl earlier)
  · rcases le_total first.orderId second.orderId with before | after
    · exact .inl (.inr ⟨same, before⟩)
    · exact .inr (.inr ⟨same.symm, after⟩)
  · exact .inr (.inl later)

theorem Entry.Precedes.trans (head : first.Precedes second) (tail : second.Precedes third) :
    first.Precedes third := by
  rcases head with earlier | ⟨same, before⟩ <;> rcases tail with later | ⟨equal, after⟩
  · exact .inl (earlier.trans later)
  · exact .inl (equal ▸ earlier)
  · exact .inl (same ▸ later)
  · exact .inr ⟨same.trans equal, before.trans after⟩

theorem Entry.Precedes.accessedAt_le (precedes : first.Precedes second) :
    first.accessedAt ≤ second.accessedAt := by
  rcases precedes with earlier | ⟨same, _⟩
  · exact earlier.le
  · exact same.le

instance : Std.Total (@Entry.Precedes OrderId Receipt _) := ⟨Entry.precedes_total⟩

instance : IsTrans (Entry OrderId Receipt) Entry.Precedes := ⟨fun _ _ _ => Entry.Precedes.trans⟩

end Index

section

variable {store : ObjectStore OrderId Receipt} {notes : List (CacheNote OrderId Receipt)}
  {note : CacheNote OrderId Receipt} {entry other : Entry OrderId Receipt} {orderId : OrderId}
  {time : Nat}

namespace ObjectStore

theorem get_eq_some (found : store.get orderId = some entry) :
    entry ∈ store.entries ∧ entry.orderId = orderId :=
  ⟨List.mem_of_find?_eq_some found, by simpa using List.find?_some found⟩

@[simp]
theorem mem_delete : entry ∈ (store.delete orderId).entries ↔
    entry ∈ store.entries ∧ entry.orderId ≠ orderId := by
  simp [delete]

@[simp]
theorem mem_put : other ∈ (store.put entry).entries ↔
    other = entry ∨ other ∈ store.entries ∧ other.orderId ≠ entry.orderId := by
  simp [put]

theorem length_put (member : other ∈ store.entries) (same : other.orderId = entry.orderId) :
    (store.put entry).entries.length ≤ store.entries.length := by
  apply Nat.succ_le_of_lt
  apply List.length_filter_lt_length_iff_exists.mpr
  exact ⟨other, member, by simp [same]⟩

theorem mem_of_evictIfNeeded (kept : entry ∈ store.evictIfNeeded.entries) :
    entry ∈ store.entries := by
  unfold evictIfNeeded at kept
  split at kept
  · exact kept
  · exact (List.mem_insertionSort _).mp (List.mem_of_mem_drop kept)

theorem length_evictIfNeeded (store : ObjectStore OrderId Receipt) :
    store.evictIfNeeded.entries.length = min store.entries.length maxEntries := by
  unfold evictIfNeeded
  split
  · next few => exact (min_eq_left few).symm
  · next many =>
      simp only [List.length_drop, List.length_insertionSort]
      omega

theorem precedes_of_evicted (member : entry ∈ store.entries)
    (gone : entry ∉ store.evictIfNeeded.entries) (stays : other ∈ store.evictIfNeeded.entries) :
    entry.Precedes other := by
  unfold evictIfNeeded at gone stays
  split at gone
  · exact absurd member gone
  · next many =>
      rw [if_neg many] at stays
      have sorted := List.pairwise_insertionSort Entry.Precedes store.entries
      have here := (List.mem_insertionSort Entry.Precedes).mpr member
      rw [← List.take_append_drop (store.entries.length - maxEntries)
        (store.entries.insertionSort Entry.Precedes)] at sorted here
      rcases List.mem_append.mp here with oldest | kept
      · exact (List.pairwise_append.mp sorted).2.2 entry oldest other stays
      · exact absurd kept gone

end ObjectStore

/-! ## The notes -/

theorem standing_concat : standing (notes ++ [note]) orderId =
    note.amend orderId (standing notes orderId) := by
  simp [standing]

theorem used_of_standing (stands : standing notes orderId = some entry) :
    entry.orderId = orderId ∧ ∃ note ∈ notes, note.Uses orderId entry.accessedAt := by
  induction notes using List.reverseRecOn generalizing entry with
  | nil => cases stands
  | append_singleton notes last inductionHypothesis =>
      have earlier : standing notes orderId = some entry → entry.orderId = orderId ∧
          ∃ note ∈ notes ++ [last], note.Uses orderId entry.accessedAt := by
        intro before
        obtain ⟨named, note, member, uses⟩ := inductionHypothesis before
        exact ⟨named, note, List.mem_append_left _ member, uses⟩
      rw [standing_concat] at stands
      cases last with
      | stored name data now =>
          simp only [CacheNote.amend] at stands
          split_ifs at stands with same
          · obtain rfl := Option.some.inj stands
            exact ⟨rfl, _, List.mem_append_right _ (List.mem_singleton_self _),
              .inl ⟨data, same ▸ rfl⟩⟩
          · exact earlier stands
      | shown name now =>
          simp only [CacheNote.amend] at stands
          split_ifs at stands with same
          · obtain ⟨before, found, rfl⟩ := Option.map_eq_some_iff.mp stands
            exact ⟨(inductionHypothesis found).1, _,
              List.mem_append_right _ (List.mem_singleton_self _), .inr (same ▸ rfl)⟩
          · exact earlier stands
      | dropped name =>
          simp only [CacheNote.amend] at stands
          split_ifs at stands with same
          exact earlier stands
      | cleared => cases stands

namespace ObjectStore

/-- Entries that are evicted give way to entries used later. -/
theorem Tracks.evictIfNeeded (tracks : store.Tracks notes) :
    store.evictIfNeeded.Keeps notes := by
  constructor
  · constructor
    · intro entry kept
      exact tracks.faithful entry (mem_of_evictIfNeeded kept)
    · intro orderId entry stands
      rcases tracks.retained orderId entry stands with member | crowded
      · by_cases kept : entry ∈ store.evictIfNeeded.entries
        · exact .inl kept
        · refine .inr ⟨store.evictIfNeeded.entries.map Entry.orderId,
            store.evictIfNeeded.distinct, ?_, ?_, ?_⟩
          · rw [List.length_map, length_evictIfNeeded]
            apply min_eq_right
            by_contra few
            exact kept (by rwa [ObjectStore.evictIfNeeded, if_pos (Nat.le_of_not_le few)])
          · intro named
            obtain ⟨other, stays, same⟩ := List.mem_map.mp named
            have key := (used_of_standing stands).1
            rw [eq_of_mem member (mem_of_evictIfNeeded stays) (key.trans same.symm)] at kept
            exact kept stays
          · intro name named
            obtain ⟨other, stays, rfl⟩ := List.mem_map.mp named
            obtain ⟨_, note, noted, uses⟩ :=
              used_of_standing (tracks.faithful other (mem_of_evictIfNeeded stays))
            exact ⟨note, noted, other.accessedAt,
              (precedes_of_evicted member kept stays).accessedAt_le, uses⟩
      · exact .inr crowded
  · rw [length_evictIfNeeded]
    exact min_le_right _ _

/-- A note about one order leaves the entries of others, so the rest has to be shown for it only. -/
theorem Tracks.amend (tracks : store.Tracks notes) {next : ObjectStore OrderId Receipt}
    (others : ∀ entry, entry.orderId ≠ orderId →
      (entry ∈ next.entries ↔ entry ∈ store.entries))
    (aside : ∀ name ≠ orderId, ∀ entry, note.amend name entry = entry)
    (same : ∀ entry, entry.orderId = orderId →
      (entry ∈ next.entries ↔ note.amend orderId (standing notes orderId) = some entry)) :
    next.Tracks (notes ++ [note]) := by
  constructor
  · intro entry member
    rw [standing_concat]
    by_cases named : entry.orderId = orderId
    · exact named ▸ (same entry named).mp member
    · rw [aside _ named]
      exact tracks.faithful entry ((others entry named).mp member)
  · intro name entry stands
    have key := (used_of_standing stands).1
    rw [standing_concat] at stands
    by_cases named : name = orderId
    · subst named
      exact .inl ((same entry key).mpr stands)
    · rw [aside _ named] at stands
      rcases tracks.retained name entry stands with member | crowded
      · exact .inl ((others entry (key ▸ named)).mpr member)
      · exact .inr (crowded.concat note)

theorem Tracks.put (tracks : store.Tracks notes) (orderId : OrderId) (data : Receipt)
    (now : Nat) :
    (store.put ⟨orderId, data, now, now⟩).Tracks (notes ++ [.stored orderId data now]) := by
  apply tracks.amend
  · intro entry other
    rw [mem_put]
    constructor
    · rintro (rfl | ⟨member, _⟩)
      · exact absurd rfl other
      · exact member
    · exact fun member => .inr ⟨member, other⟩
  · intro name other entry
    exact if_neg other.symm
  · intro entry named
    rw [mem_put, CacheNote.amend, if_pos rfl, Option.some_inj]
    constructor
    · rintro (rfl | ⟨_, different⟩)
      · rfl
      · exact absurd named different
    · exact fun same => .inl same.symm

theorem Tracks.touch (tracks : store.Tracks notes) (found : store.get orderId = some entry)
    (now : Nat) :
    (store.put { entry with accessedAt := now }).Tracks (notes ++ [.shown orderId now]) := by
  obtain ⟨member, rfl⟩ := get_eq_some found
  apply tracks.amend
  · intro other different
    rw [mem_put]
    constructor
    · rintro (rfl | ⟨stored, _⟩)
      · exact absurd rfl different
      · exact stored
    · exact fun stored => .inr ⟨stored, different⟩
  · intro name other entry
    exact if_neg other.symm
  · intro other named
    rw [mem_put, CacheNote.amend, if_pos rfl, tracks.faithful entry member, Option.map_some,
      Option.some_inj]
    constructor
    · rintro (rfl | ⟨_, different⟩)
      · rfl
      · exact absurd named different
    · exact fun same => .inl same.symm

theorem Tracks.delete (tracks : store.Tracks notes) (orderId : OrderId) :
    (store.delete orderId).Tracks (notes ++ [.dropped orderId]) := by
  apply tracks.amend
  · intro entry other
    rw [mem_delete]
    exact and_iff_left other
  · intro name other entry
    exact if_neg other.symm
  · intro entry named
    rw [mem_delete, CacheNote.amend, if_pos rfl]
    exact ⟨fun stored => absurd named stored.2, nofun⟩

theorem keeps_empty : (empty : ObjectStore OrderId Receipt).Keeps [] :=
  ⟨⟨nofun, nofun⟩, Nat.zero_le _⟩

theorem tracks_clear (notes : List (CacheNote OrderId Receipt)) :
    (empty : ObjectStore OrderId Receipt).Tracks (notes ++ [.cleared]) := by
  refine ⟨nofun, ?_⟩
  intro orderId entry stands
  rw [standing_concat] at stands
  cases stands

/-- Each call keeps the cache in step with what the page has done. -/
theorem Keeps.take (keeps : store.Keeps notes) (call : CacheCall OrderId Receipt) :
    (ReceiptCache.take store call).Keeps (notes ++ Frontend.note store call) := by
  cases call with
  | get orderId now =>
      cases found : store.get orderId with
      | none => simpa [ReceiptCache.take, ReceiptCache.get, Frontend.note, found] using keeps
      | some entry =>
          obtain ⟨member, _⟩ := get_eq_some found
          simp only [ReceiptCache.take, ReceiptCache.get, Frontend.note, found,
            Option.isSome_some, if_true]
          exact ⟨keeps.touch found now, (length_put member rfl).trans keeps.bounded⟩
  | set orderId data now => exact (keeps.put orderId data now).evictIfNeeded
  | delete orderId =>
      exact ⟨keeps.delete orderId, (List.length_filter_le _ _).trans keeps.bounded⟩
  | clear => exact ⟨tracks_clear notes, Nat.zero_le _⟩
  | failed => simpa [ReceiptCache.take, Frontend.note] using keeps

end ObjectStore

end

/-- The cache holds at most `maxEntries` receipts, each as it was last stored, and it has lost one
only to as many others that were used no earlier. -/
theorem receipts_kept (calls : List (CacheCall OrderId Receipt)) :
    (run ReceiptCache.take .empty calls).Keeps (history ReceiptCache.take note .empty calls) ∧
      ∀ orderId now data cachedAt,
        (ReceiptCache.get (run ReceiptCache.take .empty calls) orderId now).2 =
            some (data, cachedAt) →
          ∃ entry, standing (history ReceiptCache.take note .empty calls) orderId = some entry ∧
            entry.data = data ∧ entry.cachedAt = cachedAt := by
  have keeps : (run ReceiptCache.take .empty calls).Keeps
      (history ReceiptCache.take note .empty calls) :=
    history_invariant (fun _ _ call keeps => keeps.take call) ObjectStore.keeps_empty calls
  refine ⟨keeps, ?_⟩
  intro orderId now data cachedAt shown
  unfold ReceiptCache.get at shown
  split at shown
  · cases shown
  · next entry found =>
      obtain ⟨member, rfl⟩ := ObjectStore.get_eq_some found
      cases shown
      exact ⟨entry, keeps.faithful entry member, rfl, rfl⟩

end Notes

end Frontend

end LumenFlow

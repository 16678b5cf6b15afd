import LumenFlow.Model.RawStore

/-!
# The migration of the verbose keys

Version 1 has stored its entries under enum keys, and the migration looks for bare symbols.
So it finds nothing, and what version 1 has stored under a name that version 2 abbreviates
is out of reach.
-/

namespace LumenFlow

open RawStore

/-- The entry under a bare symbol. -/
def LegacySymbols.entry (legacy : LegacySymbols) : String → Option Value
  | "CleanupPeriod" => legacy.cleanupPeriod.map .u64
  | "PlatformFeeBps" => legacy.platformFeeBps.map .u32
  | "RefundWindow" => legacy.refundWindow.map .u64
  | "LargePaymentThreshold" => legacy.largePaymentThreshold.map .i128
  | "MinRefundAmount" => legacy.minRefundAmount.map .i128
  | "MultisigExpiryDuration" => legacy.multisigExpiryDuration.map .u64
  | "StoredVersion" => legacy.storedVersion.map .text
  | "MerchantList" => legacy.merchantList.map .addresses
  | "FeeRecipient" => legacy.feeRecipient.map .address
  | _ => none

/-- A store that only version 1 has written: all its keys are enum keys, none of them with a
variant that only version 2 has. -/
structure Version1 where
  store : RawStore
  enumKeys : ∀ durability name, store durability (.symbol name) = none
  unabbreviated : ∀ durability (family : Family) arguments,
    store durability (.variant family.code arguments) = none

/-- What the readers of the abbreviated entries return. -/
@[ext]
structure Readings where
  cleanupPeriod : Option Nat
  merchantList : Option (List Address)
  merchantStats : Address → Option MerchantStats
  merchantPaymentIds : Address → Option (List Text)
  payerPaymentIds : Address → Option (List Text)
  orderRefundIds : Text → Option (List Text)
  largePaymentThreshold : Option Int
  tokenAllowed : Address → Bool
  multisigExpiryDuration : Option Nat
  minRefundAmount : Option Int
  platformFeeBps : Option Nat
  feeRecipient : Option (Option Address)
  refundWindow : Option Nat

namespace RawStore

def readings (names : Family → String) (store : RawStore) : Readings where
  cleanupPeriod := store.getCleanupPeriod names
  merchantList := store.getMerchantList names
  merchantStats := store.getMerchantStats names
  merchantPaymentIds := store.getMerchantPaymentIds names
  payerPaymentIds := store.getPayerPaymentIds names
  orderRefundIds := store.getOrderRefundIds names
  largePaymentThreshold := store.getLargePaymentThreshold names
  tokenAllowed := store.isTokenAllowed names
  multisigExpiryDuration := store.getMultisigExpiryDuration names
  minRefundAmount := store.getMinRefundAmount names
  platformFeeBps := store.getPlatformFeeBps names
  feeRecipient := store.getFeeRecipient names
  refundWindow := store.getRefundWindow names

variable {store next : RawStore} {oldSym newKey : String} {kind : ValueKind}

theorem migrateInstance_entry
    (migrated : store.migrateInstance oldSym newKey kind = some next) :
    next .instanceStorage (.symbol oldSym) = none ∧
      next .instanceStorage (.variant newKey []) =
        (store .instanceStorage (.symbol oldSym)).or
          (store .instanceStorage (.variant newKey [])) ∧
      ∀ key, key ≠ .symbol oldSym → key ≠ .variant newKey [] →
        next .instanceStorage key = store .instanceStorage key := by
  unfold migrateInstance at migrated
  split at migrated
  · next free =>
      obtain rfl := Option.some.inj migrated
      simp [free]
  · next value found =>
      split at migrated
      · obtain rfl := Option.some.inj migrated
        refine ⟨by simp [update_apply], by simp [update_apply, found], fun key other written => ?_⟩
        simp [update_apply, other, written]
      · cases migrated

theorem migrateInstance_of_typed (newKey : String)
    (typed : ∀ value ∈ store .instanceStorage (.symbol oldSym), value.HasKind kind) :
    ∃ next, store.migrateInstance oldSym newKey kind = some next := by
  unfold migrateInstance
  split
  · exact ⟨store, rfl⟩
  · next value found => exact ⟨_, if_pos (typed value found)⟩

/-- The lines of a migration that read different symbols and write different keys do not
disturb each other. -/
theorem migrate_entries {lines : List Renaming}
    (symbols : lines.Pairwise fun line other => line.oldSym ≠ other.oldSym)
    (keys : lines.Pairwise fun line other => line.newKey ≠ other.newKey)
    (typed : ∀ line ∈ lines, ∀ value ∈ store .instanceStorage (.symbol line.oldSym),
      value.HasKind line.kind) :
    ∃ next, lines.foldlM (fun store line =>
        store.migrateInstance line.oldSym line.newKey line.kind) store = some next ∧
      (∀ line ∈ lines, next .instanceStorage (.symbol line.oldSym) = none ∧
        next .instanceStorage (.variant line.newKey []) =
          (store .instanceStorage (.symbol line.oldSym)).or
            (store .instanceStorage (.variant line.newKey []))) ∧
      ∀ key, (∀ line ∈ lines, key ≠ .symbol line.oldSym ∧ key ≠ .variant line.newKey []) →
        next .instanceStorage key = store .instanceStorage key := by
  induction lines generalizing store with
  | nil => exact ⟨store, rfl, by simp, fun _ _ => rfl⟩
  | cons line rest inductionHypothesis =>
      obtain ⟨otherSymbols, symbols⟩ := List.pairwise_cons.mp symbols
      obtain ⟨otherKeys, keys⟩ := List.pairwise_cons.mp keys
      obtain ⟨typedHere, typed⟩ := List.forall_mem_cons.mp typed
      obtain ⟨middle, moved⟩ := migrateInstance_of_typed line.newKey typedHere
      obtain ⟨gone, written, kept⟩ := migrateInstance_entry moved
      have symbolKept : ∀ other ∈ rest, middle .instanceStorage (.symbol other.oldSym) =
          store .instanceStorage (.symbol other.oldSym) := fun other member =>
        kept _ (by simpa using (otherSymbols other member).symm) (by simp)
      have keyKept : ∀ other ∈ rest, middle .instanceStorage (.variant other.newKey []) =
          store .instanceStorage (.variant other.newKey []) := fun other member =>
        kept _ (by simp) (by simpa using (otherKeys other member).symm)
      obtain ⟨next, later, entries, untouched⟩ := inductionHypothesis symbols keys
        (fun other member value found => typed other member value
          (by rwa [← symbolKept other member]))
      refine ⟨next, ?_, List.forall_mem_cons.mpr ⟨⟨?_, ?_⟩, ?_⟩, ?_⟩
      · rw [List.foldlM_cons, moved]
        exact later
      · rw [untouched _ fun other member => ⟨by simpa using otherSymbols other member, by simp⟩]
        exact gone
      · rw [untouched _ fun other member => ⟨by simp, by simpa using otherKeys other member⟩]
        exact written
      · intro other member
        rw [← symbolKept other member, ← keyKept other member]
        exact entries other member
      · intro key apart
        obtain ⟨here, apart⟩ := List.forall_mem_cons.mp apart
        rw [untouched key apart, kept key here.1 here.2]

theorem migrateStorageKeys_of_enumKeys
    (enumKeys : ∀ name, store .instanceStorage (.symbol name) = none) :
    store.migrateStorageKeys = some store := by
  have silent : ∀ lines : List Renaming, lines.foldlM
      (fun store line => store.migrateInstance line.oldSym line.newKey line.kind) store =
        some store := by
    intro lines
    induction lines with
    | nil => rfl
    | cons line rest inductionHypothesis =>
        rw [List.foldlM_cons, migrateInstance, enumKeys]
        exact inductionHypothesis
  exact silent renamings

/-- The store has the settings of the world under the keys of version 2 and under the bare
symbols. -/
structure Represents (store : RawStore) (world : World) : Prop where
  cleanupPeriod : store .instanceStorage (.variant "CP" []) = world.config.cleanupPeriod.map .u64
  platformFeeBps : store .instanceStorage (.variant "PFB" []) =
    world.config.platformFeeBps.map .u32
  refundWindow : store .instanceStorage (.variant "RW" []) = world.config.refundWindow.map .u64
  largePaymentThreshold : store .instanceStorage (.variant "LPT" []) =
    world.config.largePaymentThreshold.map .i128
  minRefundAmount : store .instanceStorage (.variant "MRA" []) =
    world.config.minRefundAmount.map .i128
  multisigExpiryDuration : store .instanceStorage (.variant "MED" []) =
    world.config.multisigExpiryDuration.map .u64
  storedVersion : store .instanceStorage (.variant "SV" []) = world.gov.storedVersion.map .text
  merchantList : (store .instanceStorage (.variant "ML" [])).getD (.addresses []) =
    .addresses world.merchants.list
  feeRecipient : store .instanceStorage (.variant "FR" []) =
    world.config.feeRecipient.map .address
  legacy : ∀ line ∈ renamings, store .instanceStorage (.symbol line.oldSym) =
    world.config.legacy.entry line.oldSym

theorem or_map {Content : Type} (wrap : Content → Value) (old new : Option Content) :
    (old.map wrap).or (new.map wrap) = (World.migrated old new).map wrap := by
  cases old <;> rfl

/-- The migration of the world is the migration of its entries. -/
theorem Represents.migrate {world : World} (represents : store.Represents world) :
    ∃ next, store.migrateStorageKeys = some next ∧ next.Represents world.migrateStorageKeys := by
  have typed : ∀ line ∈ renamings, ∀ value ∈ store .instanceStorage (.symbol line.oldSym),
      value.HasKind line.kind := by
    intro line member value found
    rw [represents.legacy line member] at found
    simp only [renamings, List.mem_cons, List.not_mem_nil, or_false] at member
    rcases member with rfl | rfl | rfl | rfl | rfl | rfl | rfl | rfl | rfl <;>
      · obtain ⟨_, _, rfl⟩ := Option.map_eq_some_iff.mp found
        trivial
  obtain ⟨next, migrated, entries, _⟩ := migrate_entries (by decide) (by decide) typed
  refine ⟨next, migrated, ?_⟩
  have moved (line : Renaming) (member : line ∈ renamings) {entry : Option Value}
      (stored : store .instanceStorage (.variant line.newKey []) = entry) :
      next .instanceStorage (.variant line.newKey []) =
        (world.config.legacy.entry line.oldSym).or entry := by
    rw [(entries line member).2, represents.legacy line member, stored]
  exact {
    cleanupPeriod := by
      rw [moved ⟨"CleanupPeriod", "CP", .u64⟩ (by simp [renamings]) represents.cleanupPeriod]
      exact or_map _ _ _
    platformFeeBps := by
      rw [moved ⟨"PlatformFeeBps", "PFB", .u32⟩ (by simp [renamings]) represents.platformFeeBps]
      exact or_map _ _ _
    refundWindow := by
      rw [moved ⟨"RefundWindow", "RW", .u64⟩ (by simp [renamings]) represents.refundWindow]
      exact or_map _ _ _
    largePaymentThreshold := by
      rw [moved ⟨"LargePaymentThreshold", "LPT", .i128⟩ (by simp [renamings])
        represents.largePaymentThreshold]
      exact or_map _ _ _
    minRefundAmount := by
      rw [moved ⟨"MinRefundAmount", "MRA", .i128⟩ (by simp [renamings]) represents.minRefundAmount]
      exact or_map _ _ _
    multisigExpiryDuration := by
      rw [moved ⟨"MultisigExpiryDuration", "MED", .u64⟩ (by simp [renamings])
        represents.multisigExpiryDuration]
      exact or_map _ _ _
    storedVersion := by
      rw [moved ⟨"StoredVersion", "SV", .text⟩ (by simp [renamings]) represents.storedVersion]
      exact or_map _ _ _
    merchantList := by
      rw [moved ⟨"MerchantList", "ML", .addresses⟩ (by simp [renamings]) rfl]
      cases listed : world.config.legacy.merchantList with
      | none =>
          simp [LegacySymbols.entry, World.migrateStorageKeys, listed, represents.merchantList]
      | some list => simp [LegacySymbols.entry, World.migrateStorageKeys, listed]
    feeRecipient := by
      rw [moved ⟨"FeeRecipient", "FR", .address⟩ (by simp [renamings]) represents.feeRecipient]
      exact or_map _ _ _
    legacy := by
      intro line member
      rw [(entries line member).1]
      simp only [renamings, List.mem_cons, List.not_mem_nil, or_false] at member
      rcases member with rfl | rfl | rfl | rfl | rfl | rfl | rfl | rfl | rfl <;> rfl }

end RawStore

theorem Version1.readings_code (old : Version1) :
    old.store.readings Family.code = RawStore.empty.readings Family.verbose := by
  ext <;>
    simp [readings, getCleanupPeriod, getMerchantList, getMerchantStats, getMerchantPaymentIds,
      getPayerPaymentIds, getOrderRefundIds, getLargePaymentThreshold, isTokenAllowed,
      getMultisigExpiryDuration, getMinRefundAmount, getPlatformFeeBps, getFeeRecipient,
      getRefundWindow, old.unabbreviated, RawStore.empty]

/-- The migration leaves a store of version 1 as it is, and so does a second one.  The readers
return what version 1 has returned exactly if version 1 has returned its defaults. -/
theorem migration_preserves_iff (old : Version1) :
    ∃ migrated, old.store.migrateStorageKeys = some migrated ∧
      migrated.migrateStorageKeys = some migrated ∧
      (∀ durability name arguments, (∀ family : Family, name ≠ family.code) →
        migrated durability (.variant name arguments) =
          old.store durability (.variant name arguments)) ∧
      (migrated.readings Family.code = old.store.readings Family.verbose ↔
        old.store.readings Family.verbose = RawStore.empty.readings Family.verbose) := by
  have same := migrateStorageKeys_of_enumKeys (old.enumKeys .instanceStorage)
  refine ⟨old.store, same, same, fun _ _ _ _ => rfl, ?_⟩
  rw [old.readings_code]
  exact eq_comm

namespace Sample

/-- Version 1 has stored a clean-up period of a minute. -/
def verboseStore : Version1 where
  store := RawStore.empty.update .instanceStorage (.variant "CleanupPeriod" []) (some (.u64 60))
  enumKeys _ _ := by simp [update_apply, RawStore.empty]
  unabbreviated _ family _ := by cases family <;> simp [update_apply, RawStore.empty, Family.code]

end Sample

/-- The clean-up period is lost: the migrated contract goes back to the default. -/
theorem migration_loses_setting :
    ¬ ∀ old : Version1, ∃ migrated, old.store.migrateStorageKeys = some migrated ∧
      migrated.migrateStorageKeys = some migrated ∧
      migrated.readings Family.code = old.store.readings Family.verbose := by
  intro preserves
  obtain ⟨migrated, moved, _, same⟩ := preserves Sample.verboseStore
  rw [migrateStorageKeys_of_enumKeys (Sample.verboseStore.enumKeys .instanceStorage)] at moved
  obtain rfl := Option.some.inj moved
  have period := congrArg Readings.cleanupPeriod same
  revert period
  decide +kernel

end LumenFlow

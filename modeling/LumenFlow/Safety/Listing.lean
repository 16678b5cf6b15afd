import LumenFlow.Kit.Paging
import LumenFlow.Safety.Lockout
import LumenFlow.Effect.Roster

/-!
# Listing the merchants

A page of merchants names the first merchant that it leaves out, and the page that starts with
this cursor begins behind it.  So one merchant is missing between any two pages.
-/

namespace LumenFlow

open Kit Contract

/-- The pages that the admin gets, each asked for with the cursor that the last one named, up to
one that names none. -/
inductive MerchantWalk (env : Env) (admin : Address) (limit : Nat) :
    World → Option Address → List MerchantPage → Prop where
  | last {world next : World} {cursor : Option Address} {page : MerchantPage}
      (answered : (getMerchants admin cursor limit).Commits env world page next)
      (ends : page.nextCursor = none) : MerchantWalk env admin limit world cursor [page]
  | more {world next : World} {cursor : Option Address} {page : MerchantPage} {name : Address}
      {pages : List MerchantPage}
      (answered : (getMerchants admin cursor limit).Commits env world page next)
      (continues : page.nextCursor = some name)
      (rest : MerchantWalk env admin limit next (some name) pages) :
      MerchantWalk env admin limit world cursor (page :: pages)

/-- The pages show each of the registered merchants once, in order, with its profile. -/
structure ListsAll (world : World) (registered : List Address) (pages : List MerchantPage) :
    Prop where
  order : (pages.flatMap MerchantPage.merchants).map Merchant.address = registered
  once : ((pages.flatMap MerchantPage.merchants).map Merchant.address).Nodup
  profiles : ∀ merchant ∈ pages.flatMap MerchantPage.merchants,
    world.getMerchant merchant.address = some merchant

/-- The address passes the check of the admin. -/
structure Administers (env : Env) (admin : Address) (world : World) : Prop where
  unlocked : world.isAuthLockedOut admin = false
  authorised : env.Authorised admin
  named : world.gov.admin = some admin

/-- The profiles of the listed merchants. -/
def World.profiles (world : World) : List Merchant :=
  world.getMerchantList.filterMap world.getMerchant

section Pages

variable {env : Env} {world current next : World} {admin : Address} {limit : Nat}
  {cursor : Option Address} {page : MerchantPage} {pages : List MerchantPage}

theorem commits_getMerchants :
    (getMerchants admin cursor limit).Commits env world page next ↔
      (Administers env admin world ∧ 1 ≤ limit ∧ limit ≤ maxPageLimit) ∧
        page = buildMerchantPage world world.getMerchantList cursor limit ∧
        next = world.clearAuthFailCount admin := by
  simp only [getMerchants, commits_requireAdminRateLimited, commits_requireValidLimit,
    Tx.commits_bind, Tx.commits_gets]
  constructor
  · rintro ⟨_, _, ⟨⟨unlocked, authorised, named⟩, rfl⟩, _, _, ⟨⟨positive, bound⟩, rfl⟩, shown⟩
    exact ⟨⟨⟨unlocked, authorised, named⟩, Nat.pos_of_ne_zero positive, bound⟩, shown⟩
  · rintro ⟨⟨⟨unlocked, authorised, named⟩, positive, bound⟩, shown⟩
    exact ⟨(), _, ⟨⟨unlocked, authorised, named⟩, rfl⟩, (), _,
      ⟨⟨Nat.ne_of_gt positive, bound⟩, rfl⟩, shown⟩

theorem Administers.cleared (administers : Administers env admin world) :
    Administers env admin (world.clearAuthFailCount admin) :=
  ⟨administers.unlocked, administers.authorised, administers.named⟩

theorem buildMerchantPage_congr (same : current.merchants = world.merchants) :
    buildMerchantPage current current.getMerchantList cursor limit =
      buildMerchantPage world world.getMerchantList cursor limit := by
  have profile : current.getMerchant = world.getMerchant := by
    funext address
    change current.merchants.records.get address = world.merchants.records.get address
    rw [same]
  have list : current.getMerchantList = world.getMerchantList :=
    congrArg MerchantBook.list same
  rw [list, buildMerchantPage.eq_def, profile]
  rfl

theorem afterCursor_append_cons {front rest : List Address} {name : Address}
    (absent : name ∉ front) : afterCursor name (front ++ name :: rest) = rest := by
  induction front with
  | nil => exact if_pos rfl
  | cons first front inductionHypothesis =>
      obtain ⟨other, later⟩ := not_or.mp (mt List.mem_cons.mpr absent)
      exact (if_neg (Ne.symm other)).trans (inductionHypothesis later)

/-- In a rostered world every listed merchant has its profile. -/
theorem World.Rostered.profile_exists (rostered : world.Rostered) {address : Address}
    (listed : address ∈ world.merchants.list) :
    ∃ profile, world.getMerchant address = some profile := by
  cases found : world.getMerchant address with
  | none => exact absurd (Option.map_eq_none_iff.mpr found) ((rostered.listed address).mp listed)
  | some profile => exact ⟨profile, rfl⟩

theorem World.Rostered.profiles_eq (rostered : world.Rostered) :
    world.profiles.map Merchant.address = world.merchants.list := by
  have known (address : Address) (listed : address ∈ world.merchants.list) :
      (world.getMerchant address).map Merchant.address = some address := by
    obtain ⟨profile, found⟩ := rostered.profile_exists listed
    rw [found]
    exact congrArg some (Table.key_of_get found)
  rw [World.profiles, List.map_filterMap, List.filterMap_congr known, List.filterMap_some]

theorem World.Rostered.afterCursor_eq (rostered : world.Rostered) {name : Address}
    (listed : name ∈ world.merchants.list) :
    (afterCursor name world.getMerchantList).filterMap world.getMerchant =
      Paging.after Merchant.address (some name) world.profiles := by
  obtain ⟨profile, found⟩ := rostered.profile_exists listed
  obtain rfl : profile.address = name := Table.key_of_get found
  obtain ⟨front, rest, split⟩ := List.append_of_mem listed
  have distinct := rostered.distinct
  rw [split] at distinct
  have absent : profile.address ∉ front := fun member =>
    (List.nodup_append.mp distinct).2.2 _ member _ List.mem_cons_self rfl
  have profiles : world.profiles = front.filterMap world.getMerchant ++
      profile :: rest.filterMap world.getMerchant := by
    rw [World.profiles, getMerchantList, split, List.filterMap_append,
      List.filterMap_cons_some found]
  have once := rostered.distinct
  rw [← rostered.profiles_eq, profiles] at once
  rw [getMerchantList, split, afterCursor_append_cons absent, profiles,
    Paging.after_append_cons once]

/-- The page of a cursor, seen from the list of the profiles. -/
def ShowsProfiles (world : World) (limit : Nat) (source : List Merchant) (cursor : Option Address)
    (page : MerchantPage) : Prop :=
  source = world.profiles ∧ page = buildMerchantPage world world.getMerchantList cursor limit

theorem World.Rostered.skips (rostered : world.Rostered) (limit : Nat) :
    Paging.Skips Merchant.address limit MerchantPage.merchants MerchantPage.nextCursor
      (ShowsProfiles world limit) := by
  have candidates {source : List Merchant} {cursor : Option Address} {page : MerchantPage}
      (listed : ∀ name ∈ cursor, name ∈ source.map Merchant.address)
      (fetched : ShowsProfiles world limit source cursor page) :
      page.merchants = (Paging.after Merchant.address cursor source).take limit ∧
        page.nextCursor =
          (Paging.after Merchant.address cursor source)[limit]?.map Merchant.address := by
    obtain ⟨rfl, rfl⟩ := fetched
    cases cursor with
    | none => exact ⟨rfl, rfl⟩
    | some name =>
        have member := listed name rfl
        rw [rostered.profiles_eq] at member
        rw [← rostered.afterCursor_eq member]
        exact ⟨rfl, rfl⟩
  exact ⟨fun listed fetched => (candidates listed fetched).1,
    fun listed fetched => (candidates listed fetched).2⟩

theorem merchantWalk_iff (administers : Administers env admin current)
    (same : current.merchants = world.merchants) (positive : 1 ≤ limit)
    (bound : limit ≤ maxPageLimit) :
    MerchantWalk env admin limit current cursor pages ↔
      ∃ count, Paging.Walk (ShowsProfiles world limit) MerchantPage.nextCursor cursor
        (List.replicate count world.profiles) pages := by
  constructor
  · intro walk
    induction walk with
    | last answered ends =>
        obtain ⟨_, shown, _⟩ := commits_getMerchants.mp answered
        rw [buildMerchantPage_congr same] at shown
        exact ⟨1, .last ⟨rfl, shown⟩ ends⟩
    | more answered continues rest inductionHypothesis =>
        obtain ⟨_, shown, rfl⟩ := commits_getMerchants.mp answered
        rw [buildMerchantPage_congr same] at shown
        obtain ⟨count, later⟩ := inductionHypothesis administers.cleared same
        exact ⟨count + 1, .more ⟨rfl, shown⟩ continues later⟩
  · rintro ⟨count, walk⟩
    generalize List.replicate count world.profiles = sources at walk
    induction walk generalizing current with
    | last fetched ends =>
        have shown := fetched.2.trans (buildMerchantPage_congr same).symm
        exact .last (commits_getMerchants.mpr ⟨⟨administers, positive, bound⟩, shown, rfl⟩) ends
    | more fetched continues rest inductionHypothesis =>
        have shown := fetched.2.trans (buildMerchantPage_congr same).symm
        exact .more (commits_getMerchants.mpr ⟨⟨administers, positive, bound⟩, shown, rfl⟩)
          continues (inductionHypothesis administers.cleared same)

/-- The walk ends in one way, and it shows every merchant exactly when they fit on one page. -/
theorem World.Rostered.listsAll_iff (rostered : world.Rostered)
    (administers : Administers env admin world) (positive : 1 ≤ limit)
    (bound : limit ≤ maxPageLimit) :
    ∃ pages, (∀ others, MerchantWalk env admin limit world none others ↔ others = pages) ∧
      (ListsAll world world.merchants.list pages ↔ world.merchants.list.length ≤ limit) := by
  have distinct : (world.profiles.map Merchant.address).Nodup := by
    rw [rostered.profiles_eq]
    exact rostered.distinct
  have size : world.profiles.length = world.merchants.list.length := by
    rw [← rostered.profiles_eq, List.length_map]
  have fixed (count : Nat) : ∀ other ∈ List.replicate count world.profiles,
      other = world.profiles := fun other member => List.eq_of_mem_replicate member
  have start : ∀ name ∈ (none : Option Address), name ∈ world.profiles.map Merchant.address :=
    nofun
  obtain ⟨count, pages, walk⟩ := Paging.Walk.exists_skipping (rostered.skips limit) distinct
    (fun _ => ⟨_, rfl, rfl⟩) start
  refine ⟨pages, fun others => ?_, ?_⟩
  · rw [merchantWalk_iff administers rfl positive bound]
    constructor
    · rintro ⟨otherCount, second⟩
      exact second.unique (fun first again => first.2.trans again.2.symm) (fixed _) (fixed _) walk
    · rintro rfl
      exact ⟨count, walk⟩
  · have shown := walk.flatMap_eq_iff (rostered.skips limit) (fixed _) distinct start
    rw [Paging.after_none, size] at shown
    rw [← shown]
    constructor
    · rintro ⟨order, _, _⟩
      have part := walk.sublist_after (rostered.skips limit) (fixed _) distinct start
      apply part.eq_of_length
      rw [Paging.after_none, size, ← order, List.length_map]
    · intro whole
      refine ⟨?_, ?_, fun merchant member => ?_⟩
      · rw [whole, rostered.profiles_eq]
      · rwa [whole]
      · rw [whole] at member
        obtain ⟨address, _, found⟩ := List.mem_filterMap.mp member
        rwa [Table.key_of_get found]

end Pages

section Runs

variable {host : Host} {start : World} {admin : Address} {limit : Nat} {auth : List Address}
  {permits : TokenCall → Bool}

/-- The pages of the merchants come to an end, and they show every registered merchant once and
in order exactly when there are no more of them than fit on one page. -/
theorem merchant_listing_iff (deployed : Deployed host start) (actions : List Action)
    (authorised : (host.env auth permits).Authorised admin)
    (named : (run (step host) start actions).gov.admin = some admin) (positive : 1 ≤ limit)
    (bound : limit ≤ maxPageLimit) :
    let world := run (step host) start actions
    let registered := acceptedEntries host (fun _ _ call => call.registrations) start actions
    ∃ pages,
      (∀ others, MerchantWalk (host.env auth permits) admin limit world none others ↔
        others = pages) ∧
      (ListsAll world registered pages ↔ registered.length ≤ limit) := by
  intro world registered
  have list : world.merchants.list = registered := deployed.merchantList_eq actions
  rw [← list]
  exact (deployed.rostered actions).listsAll_iff
    ⟨(deployed.unlocked actions).not_locked admin, authorised, named⟩ positive bound

theorem merchant_listing_iff_sample :
    ∃ pages,
      (∀ others, MerchantWalk (Sample.host.env [Sample.admin] fun _ => true) Sample.admin 2
        (run (step Sample.host) Sample.start Sample.opening) none others ↔ others = pages) ∧
      (ListsAll (run (step Sample.host) Sample.start Sample.opening)
        (acceptedEntries Sample.host (fun _ _ call => call.registrations) Sample.start
          Sample.opening) pages ↔
        (acceptedEntries Sample.host (fun _ _ call => call.registrations) Sample.start
          Sample.opening).length ≤ 2) :=
  merchant_listing_iff Sample.deployed_start Sample.opening (by decide +kernel) (by decide +kernel)
    (by decide) (by decide)

/-- Of two merchants, one to a page, the second is never shown. -/
theorem merchant_listing_incomplete :
    ¬ ∀ host start actions auth permits admin limit, Deployed host start →
      (host.env auth permits).Authorised admin →
      (run (step host) start actions).gov.admin = some admin → 1 ≤ limit → limit ≤ maxPageLimit →
      ∃ pages,
        MerchantWalk (host.env auth permits) admin limit (run (step host) start actions) none
          pages ∧
        ListsAll (run (step host) start actions)
          (acceptedEntries host (fun _ _ call => call.registrations) start actions) pages := by
  intro complete
  obtain ⟨pages, walk, all⟩ := complete Sample.host Sample.start Sample.opening [Sample.admin]
    (fun _ => true) Sample.admin 1 Sample.deployed_start (by decide +kernel) (by decide +kernel)
    (by decide) (by decide)
  have deployed := Sample.deployed_start
  have administers : Administers (Sample.host.env [Sample.admin] fun _ => true) Sample.admin
      (Sample.world []) :=
    ⟨(deployed.unlocked Sample.opening).not_locked Sample.admin, by decide +kernel,
      by decide +kernel⟩
  have rostered : (Sample.world []).Rostered := deployed.rostered Sample.opening
  obtain ⟨only, unique, exactly⟩ := rostered.listsAll_iff administers (Nat.le_refl 1) (by decide)
  obtain rfl := (unique pages).mp walk
  rw [← deployed.merchantList_eq] at all
  have short := exactly.mp all
  revert short
  decide +kernel

end Runs

end LumenFlow

import LumenFlow.Effect.Batches

/-!
# The groups of a batch

A batch adds up what it owes to each merchant in each token, and makes one transfer for each of
these groups.  Nothing is lost and nothing is added.
-/

namespace LumenFlow

open Kit Contract

/-- The token and the merchant of an item. -/
def BatchPaymentItem.key (item : BatchPaymentItem) : Address × Address :=
  (item.tokenAddress, item.merchantAddress)

def Contract.PaymentGroup.key (group : PaymentGroup) : Address × Address :=
  (group.token, group.merchant)

/-- The sum of the items for a token and a merchant. -/
def totalOwed (items : List BatchPaymentItem) (key : Address × Address) : Int :=
  ((items.filter fun item => item.key = key).map BatchPaymentItem.amount).sum

/-- The sum of the items in a token. -/
def totalSpent (items : List BatchPaymentItem) (token : Address) : Int :=
  ((items.filter fun item => item.tokenAddress = token).map BatchPaymentItem.amount).sum

/-- The groups have the keys of the items, each once and in the order of its first item, and each
group is the sum of the items with its key. -/
structure GroupsOf (items : List BatchPaymentItem) (groups : List PaymentGroup) : Prop where
  distinct : (groups.map PaymentGroup.key).Nodup
  covered : ∀ item ∈ items, item.key ∈ groups.map PaymentGroup.key
  needed : ∀ group ∈ groups, group.key ∈ items.map BatchPaymentItem.key
  totals : ∀ group ∈ groups, group.total = totalOwed items group.key
  ordered : (groups.map PaymentGroup.key).Pairwise fun first second =>
    (items.map BatchPaymentItem.key).idxOf first < (items.map BatchPaymentItem.key).idxOf second

/-- One transfer for each group took from the payer what the items add up to in each token, and
gave to each merchant what the items for it add up to. -/
structure PaysGroups (payer : Address) (items : List BatchPaymentItem)
    (groups : List PaymentGroup) (world next : World) : Prop where
  transfers : next.transfers = (groups.map fun group =>
    ⟨.batchGroup, group.token, payer, group.merchant, group.total⟩).reverse ++ world.transfers
  balances : ∀ token account, next.bank.balance token account =
    world.bank.balance token account + totalOwed items (token, account) -
      if account = payer then totalSpent items token else 0

variable {env : Env} {world next : World} {payer : Address} {item : BatchPaymentItem}
  {items : List BatchPaymentItem} {groups result : List PaymentGroup}

theorem totalOwed_eq (items : List BatchPaymentItem) (key : Address × Address) :
    totalOwed items key = Debt.owed key (items.map BatchPaymentItem.debt) := by
  rw [Debt.owed, List.filter_map, List.map_map]
  rfl

theorem totalSpent_eq (items : List BatchPaymentItem) (token : Address) :
    totalSpent items token = Debt.spent token (items.map BatchPaymentItem.debt) := by
  induction items with
  | nil => rfl
  | cons item rest inductionHypothesis =>
      rw [List.map_cons, Debt.spent_cons, ← inductionHypothesis, totalSpent, totalSpent]
      by_cases same : item.tokenAddress = token
      · subst same
        simp [BatchPaymentItem.debt]
      · have elsewhere : token ≠ item.debt.token := Ne.symm same
        simp [same, elsewhere]

theorem groupsOf_of_collected (collected : groups.map PaymentGroup.debt =
    Debt.collectAll [] (items.map BatchPaymentItem.debt)) : GroupsOf items groups := by
  have keys : groups.map PaymentGroup.key =
      (Debt.collectAll [] (items.map BatchPaymentItem.debt)).map Debt.key := by
    rw [← collected, List.map_map]
    rfl
  have itemKeys : items.map BatchPaymentItem.key =
      (items.map BatchPaymentItem.debt).map Debt.key := by
    rw [List.map_map]
    rfl
  have none : (([] : List (Debt Address Address)).map Debt.key).Nodup := List.nodup_nil
  constructor
  · rw [keys]
    exact Debt.nodup_collectAll none
  · intro item member
    rw [keys, Debt.mem_keys_collectAll]
    exact .inr (List.mem_map_of_mem (List.mem_map_of_mem member))
  · intro group member
    have listed : group.key ∈ groups.map PaymentGroup.key := List.mem_map_of_mem member
    rw [keys, Debt.mem_keys_collectAll, ← itemKeys] at listed
    exact listed.resolve_left List.not_mem_nil
  · intro group member
    have inside : group.debt ∈ groups.map PaymentGroup.debt := List.mem_map_of_mem member
    rw [collected] at inside
    rw [totalOwed_eq]
    exact Debt.amount_of_mem_collectAll inside
  · rw [keys, itemKeys]
    exact Debt.pairwise_collectAll _

/-! ## The sums -/

/-- There is room in the groups for what is still owed to them. -/
structure RoomFor (items : List BatchPaymentItem) (groups : List PaymentGroup) : Prop where
  opened : ∀ group ∈ groups, 0 ≤ group.total ∧ group.total + totalOwed items group.key ≤ i128Max
  others : ∀ item ∈ items, totalOwed items item.key ≤ i128Max

theorem totalOwed_cons (key : Address × Address) (item : BatchPaymentItem)
    (rest : List BatchPaymentItem) :
    totalOwed (item :: rest) key = (if item.key = key then item.amount else 0) +
      totalOwed rest key := by
  rw [totalOwed_eq, totalOwed_eq]
  exact Debt.owed_cons ..

theorem totalOwed_nonneg (positive : ∀ item ∈ items, 0 < item.amount)
    (key : Address × Address) : 0 ≤ totalOwed items key := by
  rw [totalOwed_eq]
  exact Debt.owed_nonneg (List.forall_mem_map.mpr fun item member => (positive item member).le)

theorem totalOwed_cons_self (item : BatchPaymentItem) (rest : List BatchPaymentItem) :
    totalOwed (item :: rest) item.key = item.amount + totalOwed rest item.key := by
  rw [totalOwed_cons, if_pos rfl]

theorem totalOwed_le_cons (positive : 0 < item.amount) (key : Address × Address)
    (rest : List BatchPaymentItem) : totalOwed rest key ≤ totalOwed (item :: rest) key := by
  rw [totalOwed_cons]
  split_ifs <;> omega

theorem RoomFor.add (room : RoomFor (item :: items) groups)
    (positive : ∀ other ∈ item :: items, 0 < other.amount) :
    ∃ updated, (addToGroups groups item).Commits env world updated world ∧
      RoomFor items updated := by
  obtain ⟨here, later⟩ := List.forall_mem_cons.mp positive
  have raised : ∀ group ∈ groups.map (fun group => if group.Takes item then
      { group with total := group.total + item.amount } else group),
      0 ≤ group.total ∧ group.total + totalOwed items group.key ≤ i128Max := by
    refine List.forall_mem_map.mpr fun group member => ?_
    obtain ⟨nonneg, fits⟩ := room.opened group member
    rw [totalOwed_cons] at fits
    by_cases takes : group.Takes item
    · have same : item.key = group.key := (Prod.ext takes.1 takes.2 : group.key = item.key).symm
      rw [if_pos same] at fits
      rw [if_pos takes]
      change 0 ≤ group.total + item.amount ∧
        group.total + item.amount + totalOwed items group.key ≤ i128Max
      omega
    · have other : item.key ≠ group.key := fun same =>
        takes ⟨(congrArg Prod.fst same).symm, (congrArg Prod.snd same).symm⟩
      rw [if_neg other, zero_add] at fits
      rw [if_neg takes]
      exact ⟨nonneg, fits⟩
  have opened : 0 ≤ item.amount ∧ item.amount + totalOwed items item.key ≤ i128Max := by
    rw [← totalOwed_cons_self]
    exact ⟨here.le, room.others item List.mem_cons_self⟩
  have others : ∀ other ∈ items, totalOwed items other.key ≤ i128Max := fun other member =>
    (totalOwed_le_cons here other.key items).trans
      (room.others other (List.mem_cons_of_mem _ member))
  have inRange : ∀ group ∈ groups.map (fun group => if group.Takes item then
      { group with total := group.total + item.amount } else group), InI128 group.total := by
    intro group member
    obtain ⟨nonneg, fits⟩ := raised group member
    have owed := totalOwed_nonneg later group.key
    unfold InI128 i128Min
    omega
  refine ⟨_, Tx.commits_bind.mpr ⟨(), _, Tx.commits_require.mpr ⟨inRange, rfl⟩,
    Tx.commits_pure.mpr ⟨rfl, rfl⟩⟩, ?_, others⟩
  split
  · exact raised
  · exact List.forall_mem_append.mpr ⟨raised, List.forall_mem_singleton.mpr opened⟩

theorem addToGroups_succeeds (positive : ∀ item ∈ items, 0 < item.amount)
    (room : RoomFor items groups) :
    ∃ result, (Tx.fold addToGroups groups items).Commits env world result world := by
  induction items generalizing groups with
  | nil => exact ⟨groups, Tx.commits_fold_nil.mpr ⟨rfl, rfl⟩⟩
  | cons item rest inductionHypothesis =>
      obtain ⟨updated, added, room⟩ := room.add positive
      obtain ⟨_, later⟩ := List.forall_mem_cons.mp positive
      obtain ⟨result, rest⟩ := inductionHypothesis later room
      exact ⟨result, Tx.commits_fold_cons.mpr ⟨updated, world, added, rest⟩⟩

/-! ## The transfers -/

theorem payGroups_logs
    (committed : (Tx.each (fun group => tokenTransfer .batchGroup group.token payer group.merchant
      group.total) groups).Commits env world () next) :
    next.transfers = (groups.map fun group =>
      ⟨.batchGroup, group.token, payer, group.merchant, group.total⟩).reverse ++
        world.transfers := by
  induction groups generalizing world with
  | nil =>
      obtain rfl := Tx.commits_each_nil.mp committed
      rfl
  | cons group rest inductionHypothesis =>
      obtain ⟨middle, head, tail⟩ := Tx.commits_each_cons.mp committed
      obtain ⟨_, _, _, _, rfl⟩ := commits_tokenTransfer.mp head
      rw [inductionHypothesis tail, List.map_cons, List.reverse_cons, List.append_assoc]
      rfl

theorem balance_payGroups {bank : TokenLedger Address Address}
    (collected : groups.map PaymentGroup.debt =
      Debt.collectAll [] (items.map BatchPaymentItem.debt)) (token account : Address) :
    (Debt.payAll payer bank (groups.map PaymentGroup.debt)).balance token account =
      bank.balance token account + totalOwed items (token, account) -
        if account = payer then totalSpent items token else 0 := by
  rw [collected, (Debt.equivalent_collectAll _).payAll_eq, totalOwed_eq, totalSpent_eq]
  exact Debt.balance_payAll_eq ..

theorem Contract.PaymentGroup.debt_injective : Function.Injective PaymentGroup.debt := by
  rintro ⟨⟩ ⟨⟩ same
  cases same
  rfl

theorem exists_groups (items : List BatchPaymentItem) :
    ∃ groups : List PaymentGroup, groups.map PaymentGroup.debt =
      Debt.collectAll [] (items.map BatchPaymentItem.debt) := by
  refine ⟨(Debt.collectAll [] (items.map BatchPaymentItem.debt)).map fun debt =>
    ⟨debt.token, debt.creditor, debt.amount⟩, ?_⟩
  rw [List.map_map]
  exact List.map_id _

theorem batchPayment_paysGroups (committed : (batchPayment payer items).Commits env world () next)
    (built : groups.map PaymentGroup.debt =
      Debt.collectAll [] (items.map BatchPaymentItem.debt)) :
    PaysGroups payer items groups world next := by
  obtain ⟨seenIds, others, validated, paying, stored, stats, _, _, checked, collected, transferred,
    written, rfl⟩ := batchPayment_phases committed
  obtain rfl : others = groups :=
    List.map_injective_iff.mpr PaymentGroup.debt_injective (collected.trans built.symm)
  have rates := validateBatch_rates checked
  obtain ⟨_, _, paid⟩ := payGroups_pays transferred
  have kept := storeBatch_keeps written
  constructor
  · have log := payGroups_logs transferred
    rw [rates] at log
    rw [kept]
    exact log
  · intro token account
    have bank : paying.bank = Debt.payAll payer world.bank (others.map PaymentGroup.debt) := by
      rw [paid, rates]
    rw [kept, ← balance_payGroups collected, ← bank]
    rfl

/-- Grouping positive items whose sums fit in an `i128` neither loses nor adds anything, and a
batch of them moves what its items add up to. -/
theorem batch_groups_exact (positive : ∀ item ∈ items, 0 < item.amount)
    (fits : ∀ item ∈ items, InI128 (totalOwed items item.key)) :
    ∃ groups, GroupsOf items groups ∧
      (∀ env world result next, (Tx.fold addToGroups [] items).Commits env world result next ↔
        result = groups ∧ next = world) ∧
      ∀ env payer world next, (batchPayment payer items).Commits env world () next →
        PaysGroups payer items groups world next := by
  have room : RoomFor items [] := ⟨List.forall_mem_nil _, fun item member => (fits item member).2⟩
  obtain ⟨groups, built⟩ := exists_groups items
  refine ⟨groups, groupsOf_of_collected built, fun env world result next => ?_,
    fun env payer world next committed => batchPayment_paysGroups committed built⟩
  have same {result : List PaymentGroup} {next : World}
      (grouped : (Tx.fold addToGroups [] items).Commits env world result next) :
      result = groups ∧ next = world := by
    obtain ⟨collected, rfl⟩ := addAllToGroups_collects grouped
    exact ⟨List.map_injective_iff.mpr PaymentGroup.debt_injective (collected.trans built.symm), rfl⟩
  constructor
  · exact same
  · rintro ⟨rfl, rfl⟩
    obtain ⟨result, grouped⟩ := addToGroups_succeeds positive room
    obtain ⟨rfl, _⟩ := same grouped
    exact grouped

/-- Two items with one key, and between them items that differ from it in one component. -/
def Sample.basket : List BatchPaymentItem :=
  [⟨[1], shop, coin, 30, [], none, [], []⟩, ⟨[2], rival, coin, 20, [], none, [], []⟩,
    ⟨[3], shop, .contract 6, 5, [], none, [], []⟩, ⟨[4], shop, coin, 12, [], none, [], []⟩]

theorem batch_groups_exact_sample :
    ∃ groups, GroupsOf Sample.basket groups ∧
      (∀ env world result next,
        (Tx.fold addToGroups [] Sample.basket).Commits env world result next ↔
          result = groups ∧ next = world) ∧
      ∀ env payer world next, (batchPayment payer Sample.basket).Commits env world () next →
        PaysGroups payer Sample.basket groups world next :=
  batch_groups_exact (by decide +kernel) (by decide +kernel)

end LumenFlow

import LumenFlow.Safety.Statistics

/-!
# Statistics of a period

What `get_global_payment_stats` returns for a range of dates.  The loops add the shares of the
listed payments that were made in the range: they stop at the number of payments that fits its
integer, and the volumes stay at the largest integer.  A period that is cut in two has the
statistics of its parts together.
-/

namespace LumenFlow

open Kit Contract

instance (dateStart dateEnd : Option Nat) (payment : PaymentOrder) :
    Decidable (payment.Within dateStart dateEnd) := inferInstanceAs (Decidable (_ ∧ _))

/-- What a payment adds to the statistics of a period. -/
def PaymentOrder.shareWithin (dateStart dateEnd : Option Nat) (payment : PaymentOrder) : Totals :=
  if payment.Within dateStart dateEnd then payment.share else 0

/-- The payments that were made in the period, added up, once for each place at which a merchant
lists them. -/
def World.periodTotals (world : World) (dateStart dateEnd : Option Nat) : Totals :=
  Index.tally world.payments.merchantIds world.merchants.list world.payments.orders
    (PaymentOrder.shareWithin dateStart dateEnd)

/-- The counters as the statistics show them: a volume that is too large shows as the largest
integer. -/
def Totals.shown (totals : Totals) (activeMerchants : Nat) : GlobalStats :=
  ⟨totals.payments, min i128Max totals.volume, totals.refunds, min i128Max totals.refundVolume,
    activeMerchants⟩

/-- The statistics of every period are the payments of the period, and those of a period that
is cut at some moment are the statistics of both parts together. -/
structure World.PeriodsExact (host : Host) (world : World) : Prop where
  exactly : ∀ auth permits admin dateStart dateEnd stats next,
    ¬ (dateStart = none ∧ dateEnd = none) →
      ((getGlobalPaymentStats admin dateStart dateEnd).Commits (host.env auth permits) world stats
          next ↔
        (requireAdminRateLimited admin).Commits (host.env auth permits) world () next ∧
          (∀ first ∈ dateStart, ∀ last ∈ dateEnd, first ≤ last) ∧
          (world.periodTotals dateStart dateEnd).payments ≤ u32Max ∧
          stats = (world.periodTotals dateStart dateEnd).shown
            world.stats.global.activeMerchants)
  parts : ∀ auth permits admin dateStart dateEnd moment stats next,
    ¬ (dateStart = none ∧ dateEnd = none) →
      (getGlobalPaymentStats admin dateStart dateEnd).Commits (host.env auth permits) world stats
        next →
      (∀ first ∈ dateStart, first ≤ moment) → (∀ last ∈ dateEnd, moment < last) →
        ∃ before after,
          (getGlobalPaymentStats admin dateStart (some moment)).Commits (host.env auth permits)
            world before next ∧
          (getGlobalPaymentStats admin (some (moment + 1)) dateEnd).Commits
            (host.env auth permits) world after next ∧
          stats = (before.totals + after.totals).shown world.stats.global.activeMerchants

namespace Totals

variable {first second : Totals}

/-- Counters of payments: no volume is negative, and no more payments are refunded than made. -/
structure Tallied (totals : Totals) : Prop where
  nonneg : totals.Nonneg
  refunds : totals.refunds ≤ totals.payments

theorem tallied_zero : Tallied 0 := ⟨⟨le_refl _, le_refl _⟩, le_refl _⟩

theorem Tallied.add (left : first.Tallied) (right : second.Tallied) : (first + second).Tallied :=
  ⟨left.nonneg.add right.nonneg, Nat.add_le_add left.refunds right.refunds⟩

theorem Tallied.sum {counters : List Totals} (tallied : ∀ totals ∈ counters, totals.Tallied) :
    counters.sum.Tallied := by
  induction counters with
  | nil => exact tallied_zero
  | cons head rest inductionHypothesis =>
      obtain ⟨here, later⟩ := List.forall_mem_cons.mp tallied
      rw [List.sum_cons]
      exact here.add (inductionHypothesis later)

theorem saturatingAdd_min {volume amount : Int} (above : 0 ≤ volume) (nonneg : 0 ≤ amount) :
    saturatingAdd (min i128Max volume) amount = min i128Max (volume + amount) := by
  have lower : i128Min ≤ 0 := by decide
  have upper : 0 ≤ i128Max := by decide
  unfold saturatingAdd
  omega

theorem shown_add_shown {active : Nat} (left : first.Tallied) (right : second.Tallied) :
    ((first.shown active).totals + (second.shown active).totals).shown active =
      (first + second).shown active := by
  have upper : 0 ≤ i128Max := by decide
  have cut (left right : Int) (above : 0 ≤ left) (nonneg : 0 ≤ right) :
      min i128Max (min i128Max left + min i128Max right) = min i128Max (left + right) := by
    omega
  have volume := cut _ _ left.nonneg.volume right.nonneg.volume
  have refundVolume := cut _ _ left.nonneg.refundVolume right.nonneg.refundVolume
  exact congrArg₂ (fun volume refundVolume => (⟨first.payments + second.payments, volume,
    first.refunds + second.refunds, refundVolume, active⟩ : GlobalStats)) volume refundVolume

end Totals

namespace PaymentOrder

variable {payment : PaymentOrder} {dateStart dateEnd : Option Nat} {moment : Nat}

theorem shareWithin_tallied (positive : 0 < payment.amount) :
    (payment.shareWithin dateStart dateEnd).Tallied := by
  unfold shareWithin
  split
  · refine ⟨⟨positive.le, le_max_left _ _⟩, ?_⟩
    change (if 0 < payment.refundedAmount then 1 else 0) ≤ 1
    split <;> decide
  · exact Totals.tallied_zero

theorem shareWithin_cut (starts : ∀ first ∈ dateStart, first ≤ moment)
    (ends : ∀ last ∈ dateEnd, moment < last) :
    payment.shareWithin dateStart (some moment) +
        payment.shareWithin (some (moment + 1)) dateEnd =
      payment.shareWithin dateStart dateEnd := by
  rcases Nat.lt_or_ge moment payment.paidAt with late | early
  · have out : ¬ payment.Within dateStart (some moment) := by
      intro within
      have early : payment.paidAt ≤ moment := by simpa using within.2
      exact absurd early (not_le.mpr late)
    have same : payment.Within (some (moment + 1)) dateEnd ↔ payment.Within dateStart dateEnd := by
      have started : dateStart.all (· ≤ payment.paidAt) = true := by
        rw [Option.all_eq_true]
        exact fun first isFirst => decide_eq_true ((starts first isFirst).trans late.le)
      simp [Within, started, Nat.succ_le_of_lt late]
    rw [shareWithin, if_neg out, zero_add, shareWithin, shareWithin, if_congr same rfl rfl]
  · have out : ¬ payment.Within (some (moment + 1)) dateEnd := by
      intro within
      have late : moment + 1 ≤ payment.paidAt := by simpa using within.1
      exact absurd early (not_le.mpr late)
    have same : payment.Within dateStart (some moment) ↔ payment.Within dateStart dateEnd := by
      have unended : dateEnd.all (payment.paidAt ≤ ·) = true := by
        rw [Option.all_eq_true]
        exact fun last isLast => decide_eq_true (early.trans (ends last isLast).le)
      simp [Within, unended, early]
    have nothing : payment.shareWithin (some (moment + 1)) dateEnd = 0 := if_neg out
    rw [nothing, add_zero, shareWithin, shareWithin, if_congr same rfl rfl]

end PaymentOrder

section Aggregation

variable {env : Env} {host : Host} {world next : World} {dateStart dateEnd : Option Nat}
  {active moment : Nat} {stats : GlobalStats} {totals : Totals}

/-- What the payment under an identifier adds to the statistics of a period. -/
def World.shareWithin (world : World) (dateStart dateEnd : Option Nat) : Text → Totals :=
  world.payments.orders.weightAt (PaymentOrder.shareWithin dateStart dateEnd)

theorem World.shareWithin_tallied
    (positive : world.payments.orders.All fun payment => 0 < payment.amount) (id : Text) :
    (world.shareWithin dateStart dateEnd id).Tallied := by
  unfold World.shareWithin Table.weightAt
  cases stored : world.payments.orders.get id with
  | none => exact Totals.tallied_zero
  | some payment => exact PaymentOrder.shareWithin_tallied (positive id payment stored)

theorem World.shareWithin_of_get {id : Text} {payment : PaymentOrder}
    (stored : world.payments.orders.get id = some payment) :
    world.shareWithin dateStart dateEnd id = payment.shareWithin dateStart dateEnd := by
  rw [World.shareWithin, Table.weightAt, stored]
  rfl

/-- What the payments that a merchant lists add to the statistics of a period. -/
def World.listedWithin (world : World) (dateStart dateEnd : Option Nat) (merchant : Address) :
    Totals :=
  ((world.getMerchantPaymentIds merchant).map (world.shareWithin dateStart dateEnd)).sum

theorem World.periodTotals_eq_sum : world.periodTotals dateStart dateEnd =
    (world.merchants.list.map (world.listedWithin dateStart dateEnd)).sum :=
  Index.sum_listing _

theorem World.periodTotals_tallied
    (positive : world.payments.orders.All fun payment => 0 < payment.amount) :
    (world.periodTotals dateStart dateEnd).Tallied := by
  apply Totals.Tallied.sum
  intro totals member
  obtain ⟨id, _, rfl⟩ := List.mem_map.mp member
  exact world.shareWithin_tallied positive id

theorem World.periodTotals_cut (starts : ∀ first ∈ dateStart, first ≤ moment)
    (ends : ∀ last ∈ dateEnd, moment < last) :
    world.periodTotals dateStart (some moment) +
        world.periodTotals (some (moment + 1)) dateEnd =
      world.periodTotals dateStart dateEnd :=
  Index.tally_add_tally fun _ => PaymentOrder.shareWithin_cut starts ends

theorem commits_addToRange {id : Text}
    (positive : world.payments.orders.All fun payment => 0 < payment.amount)
    (tallied : totals.Tallied) (fits : totals.payments ≤ u32Max) :
    (addToRange dateStart dateEnd (totals.shown active) id).Commits env world stats next ↔
      (totals + world.shareWithin dateStart dateEnd id).payments ≤ u32Max ∧
        stats = (totals + world.shareWithin dateStart dateEnd id).shown active ∧ next = world := by
  cases stored : world.payments.orders.get id with
  | none =>
      have nothing : world.shareWithin dateStart dateEnd id = 0 := by
        rw [World.shareWithin, Table.weightAt, stored]
        rfl
      have found : world.getPayment id = none := stored
      rw [nothing, add_zero]
      simp [addToRange, found, fits]
  | some payment =>
      have found : world.getPayment id = some payment := stored
      rw [World.shareWithin_of_get stored]
      by_cases inside : payment.Within dateStart dateEnd
      · have share : payment.shareWithin dateStart dateEnd = payment.share := if_pos inside
        have amount : 0 ≤ payment.amount := (positive id payment stored).le
        have volume := Totals.saturatingAdd_min tallied.nonneg.volume amount
        rw [share]
        unfold PaymentOrder.Within at inside
        by_cases refunded : 0 < payment.refundedAmount
        · have unit : payment.share = ⟨1, payment.amount, 1, payment.refundedAmount⟩ := by
            simp [PaymentOrder.share, refunded, refunded.le]
          have refundVolume := Totals.saturatingAdd_min tallied.nonneg.refundVolume refunded.le
          have room : totals.payments + 1 ≤ u32Max → totals.refunds + 1 ≤ u32Max :=
            (Nat.succ_le_succ tallied.refunds).trans
          rw [unit]
          simp [addToRange, found, inside, countedPayment, refunded, Totals.shown, volume,
            refundVolume]
          intro counted
          have fewer : totals.refunds < u32Max := room counted
          simp [fewer, and_comm]
        · have unit : payment.share = ⟨1, payment.amount, 0, 0⟩ :=
            PaymentOrder.share_of_unrefunded (not_lt.mp refunded)
          rw [unit]
          simp [addToRange, found, inside, countedPayment, refunded, Totals.shown, volume,
            and_assoc, and_comm]
      · have nothing : payment.shareWithin dateStart dateEnd = 0 := if_neg inside
        rw [nothing, add_zero]
        unfold PaymentOrder.Within at inside
        simp [addToRange, found, inside, fits]

/-- The payments of a merchant in the period are counted. -/
theorem commits_foldRange {ids : List Text}
    (positive : world.payments.orders.All fun payment => 0 < payment.amount)
    (tallied : totals.Tallied) (fits : totals.payments ≤ u32Max) :
    (Tx.fold (addToRange dateStart dateEnd) (totals.shown active) ids).Commits env world stats
        next ↔
      (totals + (ids.map (world.shareWithin dateStart dateEnd)).sum).payments ≤ u32Max ∧
        stats = (totals + (ids.map (world.shareWithin dateStart dateEnd)).sum).shown active ∧
        next = world :=
  Tx.commits_fold_sum (Totals.shown · active) Totals.Tallied (·.payments ≤ u32Max)
    (fun _ _ => (Nat.le_add_right _ _).trans)
    (fun _ id tallied => tallied.add (world.shareWithin_tallied positive id))
    (fun _ _ _ _ tallied fits => commits_addToRange positive tallied fits) tallied fits

theorem commits_foldMerchants {merchants : List Address}
    (positive : world.payments.orders.All fun payment => 0 < payment.amount)
    (tallied : totals.Tallied) (fits : totals.payments ≤ u32Max) :
    (Tx.fold (fun stats merchant => do
        let ids ← read (·.getMerchantPaymentIds merchant)
        Tx.fold (addToRange dateStart dateEnd) stats ids) (totals.shown active)
        merchants).Commits env world stats next ↔
      (totals + (merchants.map (world.listedWithin dateStart dateEnd)).sum).payments ≤ u32Max ∧
        stats = (totals + (merchants.map (world.listedWithin dateStart dateEnd)).sum).shown
          active ∧
        next = world := by
  refine Tx.commits_fold_sum (Totals.shown · active) Totals.Tallied (·.payments ≤ u32Max)
    (fun _ _ => (Nat.le_add_right _ _).trans) (fun _ merchant tallied => tallied.add ?_)
    (fun totals merchant stats next tallied fits => ?_) tallied fits
  · apply Totals.Tallied.sum
    intro share member
    obtain ⟨id, _, rfl⟩ := List.mem_map.mp member
    exact world.shareWithin_tallied positive id
  · simp only [Tx.commits_bind, Tx.commits_gets]
    constructor
    · rintro ⟨ids, middle, ⟨rfl, rfl⟩, folded⟩
      exact (commits_foldRange positive tallied fits).mp folded
    · intro counted
      exact ⟨_, world, ⟨rfl, rfl⟩, (commits_foldRange positive tallied fits).mpr counted⟩

/-- The statistics of a period are returned to the admin when its bounds are in order and the
number of payments fits. -/
theorem commits_getGlobalPaymentStats {admin : Address}
    (positive : world.payments.orders.All fun payment => 0 < payment.amount)
    (bounded : ¬ (dateStart = none ∧ dateEnd = none)) :
    (getGlobalPaymentStats admin dateStart dateEnd).Commits env world stats next ↔
      (requireAdminRateLimited admin).Commits env world () next ∧
        (∀ first ∈ dateStart, ∀ last ∈ dateEnd, first ≤ last) ∧
        (world.periodTotals dateStart dateEnd).payments ≤ u32Max ∧
        stats = (world.periodTotals dateStart dateEnd).shown
          world.stats.global.activeMerchants := by
  have total : (0 : Totals) +
      (world.merchants.list.map (world.listedWithin dateStart dateEnd)).sum =
        world.periodTotals dateStart dateEnd :=
    (zero_add _).trans World.periodTotals_eq_sum.symm
  -- the check of the admin leaves everything alone that the loops read
  let cleared := world.clearAuthFailCount admin
  have kept : cleared.payments.orders.All fun payment => 0 < payment.amount := positive
  have loops {stats : GlobalStats} {next : World} :
      (Tx.fold (fun stats merchant => do
          let ids ← read (·.getMerchantPaymentIds merchant)
          Tx.fold (addToRange dateStart dateEnd) stats ids)
          ((0 : Totals).shown world.stats.global.activeMerchants) world.merchants.list).Commits env
            cleared stats next ↔
        (world.periodTotals dateStart dateEnd).payments ≤ u32Max ∧
          stats = (world.periodTotals dateStart dateEnd).shown
            world.stats.global.activeMerchants ∧ next = cleared := by
    rw [← total]
    exact commits_foldMerchants kept Totals.tallied_zero (Nat.zero_le _)
  constructor
  · intro committed
    obtain ⟨_, _, admitted, committed⟩ := Tx.commits_bind.mp committed
    obtain ⟨guard, rfl⟩ := commits_requireAdminRateLimited.mp admitted
    obtain ⟨_, _, checked, committed⟩ := Tx.commits_bind.mp committed
    obtain ⟨ordered, rfl⟩ := Tx.commits_failIf.mp checked
    obtain ⟨_, _, taken, committed⟩ := Tx.commits_bind.mp committed
    obtain ⟨rfl, rfl⟩ := Tx.commits_gets.mp taken
    obtain ⟨unbounded, _⟩ | ⟨_, committed⟩ := Tx.commits_ite.mp committed
    · exact absurd unbounded bounded
    obtain ⟨_, _, taken, committed⟩ := Tx.commits_bind.mp committed
    obtain ⟨rfl, rfl⟩ := Tx.commits_gets.mp taken
    obtain ⟨fits, same, rfl⟩ := loops.mp committed
    refine ⟨admitted, fun first isFirst last isLast => ?_, fits, same⟩
    exact not_lt.mp fun reversed => ordered ⟨first, isFirst, last, isLast, reversed⟩
  · rintro ⟨admitted, ordered, fits, same⟩
    obtain ⟨_, rfl⟩ := commits_requireAdminRateLimited.mp admitted
    refine Tx.commits_bind.mpr ⟨(), cleared, admitted, ?_⟩
    refine Tx.commits_bind.mpr ⟨(), cleared, Tx.commits_failIf.mpr ⟨?_, rfl⟩, ?_⟩
    · rintro ⟨first, isFirst, last, isLast, reversed⟩
      exact absurd (ordered first isFirst last isLast) (not_le.mpr reversed)
    refine Tx.commits_bind.mpr ⟨_, cleared, Tx.commits_gets.mpr ⟨rfl, rfl⟩, ?_⟩
    refine Tx.commits_ite.mpr (.inr ⟨bounded, ?_⟩)
    exact Tx.commits_bind.mpr ⟨_, cleared, Tx.commits_gets.mpr ⟨rfl, rfl⟩,
      loops.mpr ⟨fits, same, rfl⟩⟩

end Aggregation

/-- In every reachable world the statistics of a period are those of the payments of the period,
each as often as it is listed, and those of a period that is cut in two are the statistics of its
parts together. -/
theorem periods_exact {host : Host} {world : World} (reachable : Reachable host world) :
    world.PeriodsExact host := by
  have positive : world.payments.orders.All fun payment => 0 < payment.amount :=
    fun id payment stored => (reachable.sound.orders id payment stored).2
  refine ⟨fun auth permits admin dateStart dateEnd stats next bounded =>
    commits_getGlobalPaymentStats positive bounded, ?_⟩
  intro auth permits admin dateStart dateEnd moment stats next bounded committed starts ends
  obtain ⟨admitted, ordered, fits, rfl⟩ := (commits_getGlobalPaymentStats positive bounded).mp
    committed
  let before := world.periodTotals dateStart (some moment)
  let after := world.periodTotals (some (moment + 1)) dateEnd
  have together : before + after = world.periodTotals dateStart dateEnd :=
    World.periodTotals_cut starts ends
  have left : before.Tallied := World.periodTotals_tallied positive
  have right : after.Tallied := World.periodTotals_tallied positive
  rw [← together] at fits ⊢
  have fewer : before.payments ≤ u32Max := (Nat.le_add_right _ _).trans fits
  have fewerAfter : after.payments ≤ u32Max := (Nat.le_add_left _ _).trans fits
  refine ⟨before.shown world.stats.global.activeMerchants,
    after.shown world.stats.global.activeMerchants,
    (commits_getGlobalPaymentStats positive (by simp)).mpr ⟨admitted, ?_, fewer, rfl⟩,
    (commits_getGlobalPaymentStats positive (by simp)).mpr ⟨admitted, ?_, fewerAfter, rfl⟩,
    (Totals.shown_add_shown left right).symm⟩
  · rintro first isFirst last ⟨⟩
    exact starts first isFirst
  · rintro first ⟨⟩ last isLast
    exact ends last isLast

/-- A payment of 500 with a refund of 200, and a day later a payment of 60. -/
def Sample.twoDays : List Action := refunding ++ [
  .advance 17280 86400,
  invokedBy payer (.payment (.processPaymentWithNonce payer [3] shop coin 60 [] none 1))]

theorem periods_exact_sample :
    ∃ next, (getGlobalPaymentStats Sample.admin (some 3600) none).Commits
      (Sample.host.env [Sample.admin] fun _ => true) (Sample.world Sample.twoDays)
      ⟨1, 60, 0, 0, 2⟩ next := by
  have later : (Sample.world Sample.twoDays).periodTotals (some 3600) none = ⟨1, 60, 0, 0⟩ := by
    decide +kernel
  have merchants : (Sample.world Sample.twoDays).stats.global.activeMerchants = 2 := by
    decide +kernel
  have admitted : (requireAdminRateLimited Sample.admin).Commits
      (Sample.host.env [Sample.admin] fun _ => true) (Sample.world Sample.twoDays) ()
      ((Sample.world Sample.twoDays).clearAuthFailCount Sample.admin) :=
    commits_requireAdminRateLimited.mpr
      ⟨⟨by decide +kernel, ⟨by decide, List.mem_singleton_self _⟩, by decide +kernel⟩, rfl⟩
  have periods := periods_exact (Sample.reachable_world Sample.twoDays)
  refine ⟨_, (periods.exactly _ _ _ _ _ _ _ (by simp)).mpr ⟨admitted, by simp, ?_, ?_⟩⟩
  · rw [later]
    decide
  · rw [later, merchants]
    decide

end LumenFlow

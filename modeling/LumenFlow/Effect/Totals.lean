import Mathlib.Algebra.BigOperators.Group.List.Basic
import LumenFlow.Effect.Parts

/-!
# Counters of payments and refunds

The four counters that the contract keeps globally and for each merchant.  The volumes are
added up with saturation, so the counters are sums only as long as none of them saturates.
-/

namespace LumenFlow

open Kit

def MerchantStats.totals (stats : MerchantStats) : Totals :=
  ⟨stats.totalPayments, stats.totalVolume, stats.totalRefunds, stats.totalRefundVolume⟩

namespace Totals

attribute [ext] Totals

instance : AddCommMonoid Totals where
  zero := ⟨0, 0, 0, 0⟩
  add first second :=
    ⟨first.payments + second.payments, first.volume + second.volume,
      first.refunds + second.refunds, first.refundVolume + second.refundVolume⟩
  nsmul times totals :=
    ⟨times * totals.payments, times * totals.volume, times * totals.refunds,
      times * totals.refundVolume⟩
  add_assoc first second third := by ext <;> apply add_assoc
  zero_add totals := by ext <;> apply zero_add
  add_zero totals := by ext <;> apply add_zero
  add_comm first second := by ext <;> apply add_comm
  nsmul_zero totals := by ext <;> apply zero_mul
  nsmul_succ times totals := by
    ext
    · exact Nat.succ_mul times totals.payments
    · change ((times + 1 : Nat) : Int) * totals.volume = _
      rw [Nat.cast_succ, add_mul, one_mul]
      rfl
    · exact Nat.succ_mul times totals.refunds
    · change ((times + 1 : Nat) : Int) * totals.refundVolume = _
      rw [Nat.cast_succ, add_mul, one_mul]
      rfl

section Fields

variable (first second : Totals) (times : Nat)

@[simp]
theorem payments_zero : (0 : Totals).payments = 0 := rfl

@[simp]
theorem volume_zero : (0 : Totals).volume = 0 := rfl

@[simp]
theorem refunds_zero : (0 : Totals).refunds = 0 := rfl

@[simp]
theorem refundVolume_zero : (0 : Totals).refundVolume = 0 := rfl

@[simp]
theorem payments_add : (first + second).payments = first.payments + second.payments := rfl

@[simp]
theorem volume_add : (first + second).volume = first.volume + second.volume := rfl

@[simp]
theorem refunds_add : (first + second).refunds = first.refunds + second.refunds := rfl

@[simp]
theorem refundVolume_add :
    (first + second).refundVolume = first.refundVolume + second.refundVolume := rfl

@[simp]
theorem payments_nsmul : (times • first).payments = times * first.payments := rfl

@[simp]
theorem volume_nsmul : (times • first).volume = times * first.volume := rfl

@[simp]
theorem refunds_nsmul : (times • first).refunds = times * first.refunds := rfl

@[simp]
theorem refundVolume_nsmul : (times • first).refundVolume = times * first.refundVolume := rfl

end Fields

theorem add_left_cancel {first second third : Totals} (same : first + second = first + third) :
    second = third := by
  have payments := congrArg Totals.payments same
  have volume := congrArg Totals.volume same
  have refunds := congrArg Totals.refunds same
  have refundVolume := congrArg Totals.refundVolume same
  simp at payments volume refunds refundVolume
  exact Totals.ext payments volume refunds refundVolume

/-- Count a payment. -/
@[simps]
def pay (totals : Totals) (amount : Int) : Totals :=
  { totals with
    payments := totals.payments + 1
    volume := saturatingAdd totals.volume amount }

/-- Count a refund. -/
@[simps]
def refund (totals : Totals) (amount : Int) : Totals :=
  { totals with
    refunds := totals.refunds + 1
    refundVolume := saturatingAdd totals.refundVolume amount }

/-- Count payments, one after the other. -/
def payAll (totals : Totals) (amounts : List Int) : Totals := amounts.foldl pay totals

@[simp]
theorem payAll_nil (totals : Totals) : totals.payAll [] = totals := rfl

@[simp]
theorem payAll_cons (totals : Totals) (amount : Int) (rest : List Int) :
    totals.payAll (amount :: rest) = (totals.pay amount).payAll rest := rfl

/-- The volume is away from the limits at which it saturates. -/
def Inside (volume : Int) : Prop := i128Min < volume ∧ volume < i128Max

instance (volume : Int) : Decidable (Inside volume) := inferInstanceAs (Decidable (_ ∧ _))

/-- No counter has saturated. -/
structure Unsaturated (totals : Totals) : Prop where
  volume : Inside totals.volume
  refundVolume : Inside totals.refundVolume

instance (totals : Totals) : Decidable totals.Unsaturated :=
  decidable_of_iff (Inside totals.volume ∧ Inside totals.refundVolume)
    ⟨fun ⟨volume, refundVolume⟩ => ⟨volume, refundVolume⟩,
      fun unsaturated => ⟨unsaturated.volume, unsaturated.refundVolume⟩⟩

/-- The counters of one payment. -/
def ofPayment (amount : Int) : Totals := ⟨1, amount, 0, 0⟩

/-- The counters of one refund. -/
def ofRefund (amount : Int) : Totals := ⟨0, 0, 1, amount⟩

section Exact

variable {totals : Totals} {amount : Int} {amounts : List Int} {volume : Int}

theorem saturatingAdd_lower (above : i128Min < volume) (positive : 0 < amount) :
    i128Min < saturatingAdd volume amount := by
  have limits : i128Min < i128Max := by decide
  unfold saturatingAdd
  omega

/-- A sum that is below the limit is exact, and so was the summand. -/
theorem saturatingAdd_exact (above : i128Min < volume) (positive : 0 < amount)
    (below : saturatingAdd volume amount < i128Max) :
    saturatingAdd volume amount = volume + amount ∧ volume < i128Max := by
  unfold saturatingAdd at below ⊢
  omega

theorem pay_exact (above : i128Min < totals.volume) (positive : 0 < amount)
    (below : (totals.pay amount).volume < i128Max) :
    totals.pay amount = totals + ofPayment amount := by
  ext
  · rfl
  · exact (saturatingAdd_exact above positive below).1
  · rfl
  · exact (add_zero totals.refundVolume).symm

theorem refund_exact (above : i128Min < totals.refundVolume) (positive : 0 < amount)
    (below : (totals.refund amount).refundVolume < i128Max) :
    totals.refund amount = totals + ofRefund amount := by
  ext
  · rfl
  · exact (add_zero totals.volume).symm
  · rfl
  · exact (saturatingAdd_exact above positive below).1

theorem payAll_exact (positive : ∀ amount ∈ amounts, 0 < amount)
    (above : i128Min < totals.volume) (below : (totals.payAll amounts).volume < i128Max) :
    totals.payAll amounts = totals + (amounts.map ofPayment).sum ∧ totals.volume < i128Max := by
  induction amounts generalizing totals with
  | nil => exact ⟨(add_zero totals).symm, below⟩
  | cons amount rest inductionHypothesis =>
      obtain ⟨here, later⟩ := List.forall_mem_cons.mp positive
      have lower : i128Min < (totals.pay amount).volume := saturatingAdd_lower above here
      obtain ⟨tail, middle⟩ := inductionHypothesis later lower below
      rw [payAll_cons, tail, pay_exact above here middle, List.map_cons, List.sum_cons, add_assoc]
      exact ⟨rfl, (saturatingAdd_exact above here middle).2⟩

end Exact

end Totals

end LumenFlow

import Mathlib.Algebra.Order.Floor.Ring
import Mathlib.Algebra.Order.Floor.Semifield
import Mathlib.Data.Int.Log
import Mathlib.Data.Nat.Log
import Mathlib.Data.Rat.Floor

/-!
# Rounding to double precision

A double has a significand of 53 bits; a number between two doubles is rounded to the nearer one,
and to the one with an even significand when it lies half-way.  The shortest decimal of a double
is the multiple of the largest power of ten that is rounded to it.
-/

namespace Kit

namespace Double

/-- A quotient rounded to the nearest integer, ties to even. -/
def halfEven (quotient remainder divisor : ℕ) : ℕ :=
  if 2 * remainder < divisor then quotient
  else if divisor < 2 * remainder then quotient + 1
  else quotient + quotient % 2

/-- The distance between the doubles next to a natural number. -/
def spacing (number : ℕ) : ℕ := 2 ^ (Nat.log 2 number - 52)

/-- The double nearest to a natural number. -/
def roundNat (number : ℕ) : ℕ :=
  halfEven (number / spacing number) (number % spacing number) (spacing number) * spacing number

/-- The double nearest to an integer. -/
def roundInt (number : ℤ) : ℤ := number.sign * roundNat number.natAbs

/-- The integer nearest to a rational number, ties to even. -/
def nearest (number : ℚ) : ℕ :=
  let floor := ⌊number⌋₊
  if number - floor < 1 / 2 then floor
  else if 1 / 2 < number - floor then floor + 1
  else floor + floor % 2

/-- The distance between the doubles next to a rational number that is not negative. -/
def unit (number : ℚ) : ℚ := 2 ^ max (Int.log 2 number - 52) (-1074)

/-- The double nearest to a rational number that is not negative. -/
def roundAbs (number : ℚ) : ℚ := nearest (number / unit number) * unit number

/-- The double nearest to a rational number, without a bound on its size. -/
def roundRat (number : ℚ) : ℚ :=
  if number.den = 1 then roundInt number.num
  else (if number < 0 then -1 else 1) * roundAbs |number|

/-- The sum of two doubles. -/
def add (first second : ℚ) : ℚ := roundRat (first + second)

/-- The difference of two doubles. -/
def sub (first second : ℚ) : ℚ := roundRat (first - second)

/-- A rounded number that is not an infinity. -/
def finite (rounded : ℚ) : Option ℚ :=
  if |rounded| < 2 ^ 1024 then some rounded else none

/-- The two multiples of a unit around a number, the nearer one first. -/
def around (number unit : ℕ) : List ℕ :=
  let low := number / unit * unit
  let high := low + unit
  if halfEven (number / unit) (number % unit) unit = number / unit then [low, high]
  else [high, low]

/-- The shortest decimal that is rounded to a double below `10 ^ 22`. -/
def shortest (number : ℕ) : ℕ :=
  (((List.range 22).reverse.flatMap fun zeros => around number (10 ^ zeros)).find?
    (roundNat · = number)).getD number

/-! ## Rounding -/

theorem halfEven_bounds (quotient remainder divisor : ℕ) :
    quotient ≤ halfEven quotient remainder divisor ∧
      halfEven quotient remainder divisor ≤ quotient + 1 := by
  unfold halfEven
  split_ifs <;> omega

theorem spacing_pos (number : ℕ) : 0 < spacing number := Nat.two_pow_pos _

theorem roundNat_exact {significand zeros : ℕ} (low : 2 ^ 52 ≤ significand)
    (high : significand < 2 ^ 53) :
    roundNat (significand * 2 ^ zeros) = significand * 2 ^ zeros := by
  have bits : Nat.log 2 (significand * 2 ^ zeros) = 52 + zeros := by
    apply Nat.log_eq_of_pow_le_of_lt_pow
    · rw [pow_add]
      exact Nat.mul_le_mul_right _ low
    · rw [add_right_comm, pow_add]
      exact Nat.mul_lt_mul_of_pos_right high (Nat.two_pow_pos zeros)
  have unit : spacing (significand * 2 ^ zeros) = 2 ^ zeros := by
    rw [spacing, bits, Nat.add_sub_cancel_left]
  rw [roundNat, unit, Nat.mul_div_cancel _ (Nat.two_pow_pos zeros), Nat.mul_mod_left]
  simp [halfEven]

theorem roundNat_small {number : ℕ} (small : number < 2 ^ 53) : roundNat number = number := by
  have bits : Nat.log 2 number ≤ 52 :=
    Nat.le_of_lt_succ (Nat.log_lt_of_lt_pow' (by decide) small)
  have unit : spacing number = 1 := by
    rw [spacing, Nat.sub_eq_zero_of_le bits, pow_zero]
  rw [roundNat, unit]
  simp [halfEven, Nat.mod_one]

theorem significand_bounds {number : ℕ} (large : 2 ^ 52 ≤ number) :
    2 ^ 52 ≤ number / spacing number ∧ number / spacing number < 2 ^ 53 := by
  have nonzero : number ≠ 0 := fun zero => absurd (zero ▸ large) (by decide)
  have bits : 52 ≤ Nat.log 2 number := Nat.le_log_of_pow_le (by decide) large
  have low := Nat.pow_log_le_self 2 nonzero
  have high := Nat.lt_pow_succ_log_self (by decide : 1 < 2) number
  have split : Nat.log 2 number = 52 + (Nat.log 2 number - 52) := by omega
  constructor
  · rw [Nat.le_div_iff_mul_le (spacing_pos number), spacing, ← pow_add, ← split]
    exact low
  · rw [Nat.div_lt_iff_lt_mul (spacing_pos number), spacing, ← pow_add,
      show 53 + (Nat.log 2 number - 52) = Nat.log 2 number + 1 by omega]
    exact high

theorem roundNat_roundNat (number : ℕ) : roundNat (roundNat number) = roundNat number := by
  by_cases small : number < 2 ^ 53
  · rw [roundNat_small small, roundNat_small small]
  · have large : 2 ^ 52 ≤ number := by omega
    obtain ⟨low, high⟩ := significand_bounds large
    obtain ⟨least, most⟩ := halfEven_bounds (number / spacing number) (number % spacing number)
      (spacing number)
    rw [roundNat.eq_1 number]
    by_cases carry : halfEven (number / spacing number) (number % spacing number)
        (spacing number) < 2 ^ 53
    · exact roundNat_exact (low.trans least) carry
    · -- rounding up has produced one more bit
      rw [show halfEven (number / spacing number) (number % spacing number) (spacing number) =
        2 ^ 52 * 2 by omega, spacing, mul_assoc, ← pow_succ']
      exact roundNat_exact le_rfl (by decide)

theorem roundNat_le (number : ℕ) : roundNat number ≤ 2 * number := by
  by_cases small : number < 2 ^ 53
  · rw [roundNat_small small]
    omega
  · have large : 2 ^ 52 ≤ number := by omega
    obtain ⟨low, _⟩ := significand_bounds large
    obtain ⟨_, most⟩ := halfEven_bounds (number / spacing number) (number % spacing number)
      (spacing number)
    have whole := Nat.div_mul_le_self number (spacing number)
    calc roundNat number
        ≤ (number / spacing number + 1) * spacing number := Nat.mul_le_mul_right _ most
      _ ≤ (number / spacing number + number / spacing number) * spacing number :=
          Nat.mul_le_mul_right _ (by omega)
      _ = 2 * (number / spacing number * spacing number) := by ring
      _ ≤ 2 * number := Nat.mul_le_mul_left 2 whole

theorem natAbs_roundInt (number : ℤ) : (roundInt number).natAbs = roundNat number.natAbs := by
  rw [roundInt, Int.natAbs_mul, Int.natAbs_natCast]
  by_cases zero : number = 0
  · rw [zero]
    decide
  · rw [Int.natAbs_sign_of_ne_zero zero, one_mul]

theorem roundInt_small {number : ℤ} (small : |number| < 2 ^ 53) : roundInt number = number := by
  have bound : number.natAbs < 2 ^ 53 := by
    rw [Int.abs_eq_natAbs] at small
    exact_mod_cast small
  rw [roundInt, roundNat_small bound, Int.sign_mul_natAbs]

theorem roundInt_roundInt (number : ℤ) : roundInt (roundInt number) = roundInt number := by
  rw [roundInt.eq_1 (roundInt number), natAbs_roundInt, roundNat_roundNat, ← natAbs_roundInt,
    Int.sign_mul_natAbs]

theorem abs_roundInt_le (number : ℤ) : |roundInt number| ≤ 2 * |number| := by
  rw [Int.abs_eq_natAbs, Int.abs_eq_natAbs, natAbs_roundInt]
  exact_mod_cast roundNat_le number.natAbs

theorem roundNat_shortest {number : ℕ} (double : roundNat number = number) :
    roundNat (shortest number) = number := by
  unfold shortest
  cases found : ((List.range 22).reverse.flatMap fun zeros =>
      around number (10 ^ zeros)).find? (roundNat · = number) with
  | none => exact double
  | some decimal => simpa using List.find?_some found

/-- The shortest decimal of an integer of double precision is rounded to the integer. -/
theorem roundInt_shortest {number : ℤ} (double : roundInt number = number) :
    roundInt (if number < 0 then -(shortest number.natAbs : ℤ) else shortest number.natAbs) =
      number := by
  have exact_ : roundNat (shortest number.natAbs) = number.natAbs :=
    roundNat_shortest (by rw [← natAbs_roundInt, double])
  rcases Nat.eq_zero_or_pos (shortest number.natAbs) with zero | positive
  · rw [zero, roundNat_small (by decide)] at exact_
    obtain rfl := Int.natAbs_eq_zero.mp exact_.symm
    exact double
  · have sign : (shortest number.natAbs : ℤ).sign = 1 :=
      Int.sign_eq_one_of_pos (by exact_mod_cast positive)
    split_ifs with negative
    · rw [roundInt, Int.natAbs_neg, Int.natAbs_natCast, exact_, Int.sign_neg, sign]
      omega
    · rw [roundInt, Int.natAbs_natCast, exact_, sign]
      omega

/-! ## Order -/

theorem nearest_natCast (number : ℕ) : nearest number = number := by
  simp [nearest]

theorem floor_le_nearest (number : ℚ) : ⌊number⌋₊ ≤ nearest number := by
  unfold nearest
  dsimp only
  split_ifs <;> omega

theorem nearest_le_floor (number : ℚ) : nearest number ≤ ⌊number⌋₊ + 1 := by
  unfold nearest
  dsimp only
  split_ifs <;> omega

theorem nearest_mono {first second : ℚ} (le : first ≤ second) :
    nearest first ≤ nearest second := by
  rcases (Nat.floor_mono le).lt_or_eq with less | same
  · calc nearest first
        ≤ ⌊first⌋₊ + 1 := nearest_le_floor first
      _ ≤ ⌊second⌋₊ := less
      _ ≤ nearest second := floor_le_nearest second
  · -- the parts after the point decide
    unfold nearest
    dsimp only
    rw [same]
    split_ifs <;> first | omega | linarith

theorem unit_pos (number : ℚ) : 0 < unit number := zpow_pos two_pos _

theorem roundAbs_nonneg (number : ℚ) : 0 ≤ roundAbs number :=
  mul_nonneg (Nat.cast_nonneg _) (unit_pos number).le

/-- A multiple of the unit of a number is a bound for the number once it is rounded. -/
theorem roundAbs_le {number : ℚ} {count : ℕ} (le : number ≤ count * unit number) :
    roundAbs number ≤ count * unit number := by
  have scaled : number / unit number ≤ count := (div_le_iff₀ (unit_pos number)).mpr le
  have nearer := nearest_mono scaled
  rw [nearest_natCast] at nearer
  exact mul_le_mul_of_nonneg_right (by exact_mod_cast nearer) (unit_pos number).le

theorem le_roundAbs {number : ℚ} {count : ℕ} (le : count * unit number ≤ number) :
    count * unit number ≤ roundAbs number := by
  have scaled : count ≤ number / unit number := (le_div_iff₀ (unit_pos number)).mpr le
  have nearer := nearest_mono scaled
  rw [nearest_natCast] at nearer
  exact mul_le_mul_of_nonneg_right (by exact_mod_cast nearer) (unit_pos number).le

theorem roundAbs_mono {first second : ℚ} (positive : 0 < first) (le : first ≤ second) :
    roundAbs first ≤ roundAbs second := by
  have logs : Int.log 2 first ≤ Int.log 2 second := Int.log_mono_right positive le
  by_cases same : unit first = unit second
  · rw [roundAbs, roundAbs, same]
    have scaled : first / unit second ≤ second / unit second :=
      div_le_div_of_nonneg_right le (unit_pos second).le
    exact mul_le_mul_of_nonneg_right (by exact_mod_cast nearest_mono scaled) (unit_pos second).le
  · -- a power of two lies between the numbers, which is a multiple of either unit
    have apart : max (Int.log 2 first - 52) (-1074) ≠ max (Int.log 2 second - 52) (-1074) :=
      fun equal => same (by rw [unit, unit, equal])
    have normal : max (Int.log 2 second - 52) (-1074) = Int.log 2 second - 52 := by omega
    have split {number : ℚ} {exponent : ℤ} (exponents : max (Int.log 2 number - 52) (-1074) +
        exponent.toNat = Int.log 2 second) :
        ((2 ^ exponent.toNat : ℕ) : ℚ) * unit number = 2 ^ Int.log 2 second := by
      rw [unit, Nat.cast_pow, Nat.cast_ofNat, ← zpow_natCast, ← zpow_add₀ two_ne_zero, add_comm,
        exponents]
    have below : first ≤ 2 ^ Int.log 2 second := by
      have bound : first < 2 ^ (Int.log 2 first + 1) := Int.lt_zpow_succ_log_self one_lt_two first
      exact bound.le.trans (zpow_le_zpow_right₀ one_le_two (by omega))
    have above : (2 : ℚ) ^ Int.log 2 second ≤ second :=
      Int.zpow_log_le_self one_lt_two (positive.trans_le le)
    have splitFirst := @split first (Int.log 2 second - max (Int.log 2 first - 52) (-1074))
      (by omega)
    have splitSecond := @split second 52 (by omega)
    calc roundAbs first
        ≤ 2 ^ Int.log 2 second := by
          rw [← splitFirst] at below ⊢
          exact roundAbs_le below
      _ ≤ roundAbs second := by
          rw [← splitSecond] at above ⊢
          exact le_roundAbs above

theorem nearest_div (number : ℕ) {divisor : ℕ} (positive : 0 < divisor) :
    nearest ((number : ℚ) / divisor) =
      halfEven (number / divisor) (number % divisor) divisor := by
  have wide : (0 : ℚ) < divisor := by exact_mod_cast positive
  have rest : (number : ℚ) / divisor - (number / divisor : ℕ) =
      (number % divisor : ℕ) / divisor := by
    rw [sub_eq_iff_eq_add, div_eq_iff wide.ne', add_mul, div_mul_cancel₀ _ wide.ne']
    exact_mod_cast (Nat.mod_add_div' number divisor).symm
  have low : (number % divisor : ℕ) / (divisor : ℚ) < 1 / 2 ↔
      2 * (number % divisor) < divisor := by
    rw [div_lt_div_iff₀ wide two_pos]
    norm_cast
    omega
  have high : 1 / 2 < (number % divisor : ℕ) / (divisor : ℚ) ↔
      divisor < 2 * (number % divisor) := by
    rw [div_lt_div_iff₀ two_pos wide]
    norm_cast
    omega
  have floor : ⌊(number : ℚ) / divisor⌋₊ = number / divisor := Nat.floor_div_eq_div number divisor
  simp only [nearest, halfEven, floor, rest, low, high]

theorem roundNat_eq (number : ℕ) : (roundNat number : ℚ) = roundAbs number := by
  by_cases small : number < 2 ^ 53
  · have bits : Nat.log 2 number ≤ 52 :=
      Nat.le_of_lt_succ (Nat.log_lt_of_lt_pow' (by decide) small)
    have fine : unit number = (2 ^ (52 - Nat.log 2 number) : ℚ)⁻¹ := by
      rw [unit, Int.log_natCast, max_eq_left (by omega), ← zpow_natCast, ← zpow_neg]
      congr 1
      omega
    rw [roundNat_small small, roundAbs, fine, div_inv_eq_mul]
    have whole : (number : ℚ) * 2 ^ (52 - Nat.log 2 number) =
        (number * 2 ^ (52 - Nat.log 2 number) : ℕ) := by push_cast; rfl
    rw [whole, nearest_natCast, ← whole]
    exact (mul_inv_cancel_right₀ (pow_ne_zero _ two_ne_zero) _).symm
  · have large : 2 ^ 52 ≤ number := by omega
    have bits : 52 ≤ Nat.log 2 number := Nat.le_log_of_pow_le (by decide) large
    have coarse : unit number = (spacing number : ℚ) := by
      rw [unit, Int.log_natCast, max_eq_left (by omega), spacing, Nat.cast_pow, Nat.cast_ofNat,
        ← zpow_natCast]
      congr 1
      omega
    rw [roundNat, roundAbs, coarse, nearest_div number (spacing_pos number), Nat.cast_mul]

theorem roundAbs_zero : roundAbs 0 = 0 := by
  simp [roundAbs, nearest]

theorem roundRat_eq (number : ℚ) :
    roundRat number = (if number < 0 then -1 else 1) * roundAbs |number| := by
  unfold roundRat
  split_ifs with whole negative negative
  · have num : (number.num : ℚ) = number := Rat.coe_int_num_of_den_eq_one whole
    have below : number.num < 0 := Rat.num_neg.mpr negative
    have magnitude : (number.num.natAbs : ℚ) = |number| := by
      rw [Nat.cast_natAbs, Int.cast_abs, num]
    rw [roundInt, Int.sign_eq_neg_one_of_neg below, ← magnitude, ← roundNat_eq]
    push_cast
    rfl
  · have num : (number.num : ℚ) = number := Rat.coe_int_num_of_den_eq_one whole
    have magnitude : (number.num.natAbs : ℚ) = |number| := by
      rw [Nat.cast_natAbs, Int.cast_abs, num]
    rcases (not_lt.mp negative).eq_or_lt with rfl | positive
    · simp [roundInt, roundAbs_zero]
    · rw [roundInt, Int.sign_eq_one_of_pos (Rat.num_pos.mpr positive), ← magnitude,
        ← roundNat_eq]
      push_cast
      rfl
  · rfl
  · rfl

theorem roundRat_mono {first second : ℚ} (le : first ≤ second) :
    roundRat first ≤ roundRat second := by
  have signed (number : ℚ) := roundAbs_nonneg |number|
  rw [roundRat_eq, roundRat_eq]
  split_ifs with negative below below
  · rw [abs_of_neg negative, abs_of_neg below, neg_one_mul, neg_one_mul, neg_le_neg_iff]
    exact roundAbs_mono (neg_pos.mpr below) (neg_le_neg le)
  · linarith [signed first, signed second]
  · exact absurd (le.trans_lt below) negative
  · rcases (not_lt.mp negative).eq_or_lt with rfl | positive
    · rw [abs_zero, roundAbs_zero, mul_zero, one_mul]
      exact signed second
    · rw [abs_of_pos positive, abs_of_pos (positive.trans_le le), one_mul, one_mul]
      exact roundAbs_mono positive le

theorem add_mono_left {first second : ℚ} (third : ℚ) (le : first ≤ second) :
    add first third ≤ add second third :=
  roundRat_mono (add_le_add_left le third)

theorem sub_mono_right (first : ℚ) {second third : ℚ} (le : second ≤ third) :
    sub first third ≤ sub first second :=
  roundRat_mono (sub_le_sub_left le first)

end Double

end Kit

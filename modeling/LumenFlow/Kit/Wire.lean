import Mathlib.Tactic.Common
import Mathlib.Tactic.NormNum

/-!
# Wire formats

Fixed-width big-endian integers and padded variable-length data, as lists of
bytes, with the lemmas that read a field back out of a concatenation.
-/

namespace Kit.Wire

/-- The `count` low-order bytes of a number, most significant first. -/
def bigEndian : Nat → Nat → List UInt8
  | 0, _ => []
  | count + 1, value => UInt8.ofNat (value / 256 ^ count) :: bigEndian count value

/-- The 128-bit two's complement of an integer, most significant byte first. -/
def bigEndianI128 (value : Int) : List UInt8 :=
  bigEndian 16 (value % 2 ^ 128).toNat

/-- Data followed by zero bytes up to a multiple of four. -/
def padded (data : List UInt8) : List UInt8 :=
  data ++ List.replicate ((4 - data.length % 4) % 4) 0

/-- The length of the data as four bytes, and the data padded. -/
def opaqueVar (data : List UInt8) : List UInt8 :=
  bigEndian 4 data.length ++ padded data

@[simp]
theorem length_bigEndian (count value : Nat) : (bigEndian count value).length = count := by
  induction count with
  | zero => rfl
  | succ count inductionHypothesis => simp [bigEndian, inductionHypothesis]

@[simp]
theorem length_bigEndianI128 (value : Int) : (bigEndianI128 value).length = 16 := by
  simp [bigEndianI128]

theorem bigEndian_add (high low value : Nat) :
    bigEndian (high + low) value = bigEndian high (value / 256 ^ low) ++ bigEndian low value := by
  induction high with
  | zero => simp [bigEndian]
  | succ high inductionHypothesis =>
      have digit : value / 256 ^ (high + low) = value / 256 ^ low / 256 ^ high := by
        rw [Nat.div_div_eq_div_mul, ← pow_add, Nat.add_comm low]
      rw [Nat.succ_add, bigEndian, inductionHypothesis, bigEndian, List.cons_append, digit]

theorem bigEndian_mod {count first second : Nat}
    (same : bigEndian count first = bigEndian count second) :
    first % 256 ^ count = second % 256 ^ count := by
  induction count with
  | zero => simp [Nat.mod_one]
  | succ count inductionHypothesis =>
      simp only [bigEndian, List.cons.injEq] at same
      have top : first / 256 ^ count % 256 = second / 256 ^ count % 256 := by
        have digits := congrArg UInt8.toNat same.1
        simpa [UInt8.toNat_ofNat'] using digits
      have low := inductionHypothesis same.2
      rw [pow_succ, Nat.mod_mul, Nat.mod_mul, top, low]

theorem bigEndian_injective {count first second : Nat} (firstFits : first < 256 ^ count)
    (secondFits : second < 256 ^ count)
    (same : bigEndian count first = bigEndian count second) : first = second := by
  have equal := bigEndian_mod same
  rwa [Nat.mod_eq_of_lt firstFits, Nat.mod_eq_of_lt secondFits] at equal

theorem bigEndianI128_injective {first second : Int}
    (firstLow : -2 ^ 127 ≤ first) (firstHigh : first ≤ 2 ^ 127 - 1)
    (secondLow : -2 ^ 127 ≤ second) (secondHigh : second ≤ 2 ^ 127 - 1)
    (same : bigEndianI128 first = bigEndianI128 second) : first = second := by
  have firstPos : 0 ≤ first % 2 ^ 128 := Int.emod_nonneg _ (by norm_num)
  have secondPos : 0 ≤ second % 2 ^ 128 := Int.emod_nonneg _ (by norm_num)
  have firstLt : first % 2 ^ 128 < 2 ^ 128 := Int.emod_lt_of_pos _ (by norm_num)
  have secondLt : second % 2 ^ 128 < 2 ^ 128 := Int.emod_lt_of_pos _ (by norm_num)
  have digits : (first % 2 ^ 128).toNat = (second % 2 ^ 128).toNat :=
    bigEndian_injective (by norm_num; omega) (by norm_num; omega) same
  omega

theorem append_cancel {first second firstRest secondRest : List UInt8}
    (lengths : first.length = second.length)
    (same : first ++ firstRest = second ++ secondRest) :
    first = second ∧ firstRest = secondRest :=
  List.append_inj same lengths

@[simp]
theorem length_padded (data : List UInt8) :
    (padded data).length = data.length + (4 - data.length % 4) % 4 := by
  simp [padded]

@[simp]
theorem length_opaqueVar (data : List UInt8) :
    (opaqueVar data).length = 4 + (data.length + (4 - data.length % 4) % 4) := by
  simp [opaqueVar]

/-- Variable-length data can be read back from the front of a message. -/
theorem opaqueVar_append_injective {first second firstRest secondRest : List UInt8}
    (firstFits : first.length < 2 ^ 32) (secondFits : second.length < 2 ^ 32)
    (same : opaqueVar first ++ firstRest = opaqueVar second ++ secondRest) :
    first = second ∧ firstRest = secondRest := by
  simp only [opaqueVar, padded, List.append_assoc] at same
  obtain ⟨lengthBytes, rest⟩ := append_cancel (by simp) same
  have lengths : first.length = second.length :=
    bigEndian_injective (by norm_num; omega) (by norm_num; omega) lengthBytes
  obtain ⟨data, padding⟩ := append_cancel lengths rest
  rw [lengths] at padding
  exact ⟨data, List.append_cancel_left padding⟩

end Kit.Wire

import Mathlib.Data.List.Basic
import Mathlib.Data.List.TakeWhile
import Mathlib.Tactic.Common
import Mathlib.Tactic.IntervalCases

/-!
# The URL-safe base64 encoding

Three bytes are written as four characters of six bits each, and a rest of one or two bytes as two
or three characters, without padding.  The reader is lenient: it takes the characters of the plain
alphabet as well, stops at a padding character and skips what is in neither alphabet.
-/

namespace Kit

namespace Base64Url

/-- The character for six bits. -/
def digit (sextet : Nat) : Char :=
  if sextet < 26 then Char.ofNat (65 + sextet)
  else if sextet < 52 then Char.ofNat (71 + sextet)
  else if sextet < 62 then Char.ofNat (sextet - 4)
  else if sextet = 62 then '-'
  else '_'

/-- The six bits that a character stands for. -/
def sextet (char : Char) : Option Nat :=
  if 'A' ≤ char ∧ char ≤ 'Z' then some (char.toNat - 65)
  else if 'a' ≤ char ∧ char ≤ 'z' then some (char.toNat - 71)
  else if '0' ≤ char ∧ char ≤ '9' then some (char.toNat + 4)
  else if char = '-' ∨ char = '+' then some 62
  else if char = '_' ∨ char = '/' then some 63
  else none

/-- The sextets of a string of bytes. -/
def sextets : List UInt8 → List Nat
  | [] => []
  | [a] => [a.toNat / 4, a.toNat % 4 * 16]
  | [a, b] => [a.toNat / 4, a.toNat % 4 * 16 + b.toNat / 16, b.toNat % 16 * 4]
  | a :: b :: c :: rest =>
      a.toNat / 4 :: (a.toNat % 4 * 16 + b.toNat / 16) :: (b.toNat % 16 * 4 + c.toNat / 64) ::
        c.toNat % 64 :: sextets rest

/-- The bytes that sextets stand for; a single last sextet is dropped. -/
def bytes : List Nat → List UInt8
  | [] | [_] => []
  | [p, q] => [UInt8.ofNat (p * 4 + q / 16)]
  | [p, q, r] => [UInt8.ofNat (p * 4 + q / 16), UInt8.ofNat (q % 16 * 16 + r / 4)]
  | p :: q :: r :: s :: rest =>
      UInt8.ofNat (p * 4 + q / 16) :: UInt8.ofNat (q % 16 * 16 + r / 4) ::
        UInt8.ofNat (r % 4 * 64 + s) :: bytes rest

def encode (data : List UInt8) : List Char := (sextets data).map digit

def decode (text : List Char) : List UInt8 :=
  bytes ((text.takeWhile (· ≠ '=')).filterMap sextet)

/-! ## The alphabet -/

theorem sextet_digit {value : Nat} (small : value < 64) : sextet (digit value) = some value := by
  interval_cases value <;> rfl

theorem digit_ne_padding {value : Nat} (small : value < 64) : digit value ≠ '=' := by
  interval_cases value <;> decide

theorem digit_ne_dot (value : Nat) : digit value ≠ '.' := by
  by_cases small : value < 64
  · interval_cases value <;> decide
  · rw [digit, if_neg (by omega), if_neg (by omega), if_neg (by omega), if_neg (by omega)]
    decide

theorem dot_notMem_encode (data : List UInt8) : '.' ∉ encode data := by
  rw [encode, List.mem_map]
  rintro ⟨value, _, dot⟩
  exact digit_ne_dot value dot

/-! ## The round trip -/

theorem sextets_lt (data : List UInt8) : ∀ value ∈ sextets data, value < 64 := by
  induction data using sextets.induct with
  | case1 => exact nofun
  | case2 a =>
      have := a.toNat_lt
      simp only [sextets, List.forall_mem_cons, List.not_mem_nil, false_implies, implies_true,
        and_true]
      omega
  | case3 a b =>
      have := a.toNat_lt
      have := b.toNat_lt
      simp only [sextets, List.forall_mem_cons, List.not_mem_nil, false_implies, implies_true,
        and_true]
      omega
  | case4 a b c rest inductionHypothesis =>
      have := a.toNat_lt
      have := b.toNat_lt
      have := c.toNat_lt
      simp only [sextets, List.forall_mem_cons]
      exact ⟨by omega, by omega, by omega, by omega, inductionHypothesis⟩

theorem ofNat_eq {value : Nat} {byte : UInt8} (same : value = byte.toNat) :
    UInt8.ofNat value = byte := by
  rw [same, UInt8.ofNat_toNat]

theorem bytes_sextets (data : List UInt8) : bytes (sextets data) = data := by
  induction data using sextets.induct with
  | case1 => rfl
  | case2 a =>
      have := a.toNat_lt
      rw [sextets, bytes, ofNat_eq (by omega : _ = a.toNat)]
  | case3 a b =>
      have := a.toNat_lt
      have := b.toNat_lt
      rw [sextets, bytes, ofNat_eq (by omega : _ = a.toNat), ofNat_eq (by omega : _ = b.toNat)]
  | case4 a b c rest inductionHypothesis =>
      have := a.toNat_lt
      have := b.toNat_lt
      have := c.toNat_lt
      rw [sextets, bytes, inductionHypothesis, ofNat_eq (by omega : _ = a.toNat),
        ofNat_eq (by omega : _ = b.toNat), ofNat_eq (by omega : _ = c.toNat)]

theorem decode_encode (data : List UInt8) : decode (encode data) = data := by
  have small := sextets_lt data
  have whole : (encode data).takeWhile (· ≠ '=') = encode data := by
    rw [List.takeWhile_eq_self_iff]
    intro char member
    obtain ⟨value, present, rfl⟩ := List.mem_map.mp member
    simpa using digit_ne_padding (small value present)
  have read : (encode data).filterMap sextet = sextets data := by
    rw [encode, List.filterMap_map]
    calc (sextets data).filterMap (sextet ∘ digit)
        = (sextets data).filterMap some := by
          apply List.filterMap_congr
          intro value present
          exact sextet_digit (small value present)
      _ = sextets data := List.filterMap_some
  rw [decode, whole, read, bytes_sextets]

end Base64Url

end Kit

import LumenFlow.Kit.Double
import LumenFlow.Security.Strings

/-!
# Numbers of JavaScript

`Number(text)` and the text of a number, as the language defines them.  The two signed zeros are
one number here.
-/

namespace LumenFlow

open Kit

namespace Security

/-! ## From texts to numbers -/

def splitSign : JsString → Bool × JsString
  | '-' :: rest => (true, rest)
  | '+' :: rest => (false, rest)
  | text => (false, text)

/-- The integer that a text of digits writes, with an optional sign. -/
def decimalInteger (text : JsString) : Option ℤ :=
  let (negative, digits) := splitSign text
  if digits ≠ [] ∧ digits.all Char.isDigit then
    let value : ℤ := Nat.ofDigitChars 10 digits 0
    some (if negative then -value else value)
  else none

/-- White space and line terminators. -/
def isSpace (char : Char) : Bool :=
  let code := char.toNat
  (9 ≤ code && code ≤ 13) || (0x2000 ≤ code && code ≤ 0x200a) ||
    [0x20, 0xa0, 0x1680, 0x2028, 0x2029, 0x202f, 0x205f, 0x3000, 0xfeff].contains code

def trim (text : JsString) : JsString :=
  ((text.dropWhile isSpace).reverse.dropWhile isSpace).reverse

/-- A decimal literal with a fraction or an exponent. -/
def decimalLiteral (text : JsString) : Option ℚ := do
  let (negative, unsigned) := splitSign text
  let (whole, rest) := unsigned.span Char.isDigit
  let (fraction, rest) :=
    match rest with
    | '.' :: rest => rest.span Char.isDigit
    | _ => ([], rest)
  let digits := whole ++ fraction
  let exponent ←
    match rest with
    | [] => some 0
    | 'e' :: exponent | 'E' :: exponent => decimalInteger exponent
    | _ => none
  if digits = [] then none
  else
    let value : ℚ := Nat.ofDigitChars 10 digits 0 * 10 ^ (exponent - fraction.length)
    Double.finite (Double.roundRat (if negative then -value else value))

/-- The value of a hexadecimal digit. -/
def hexDigit (char : Char) : ℕ :=
  if char.isDigit then char.toNat - 48
  else if 'a' ≤ char ∧ char ≤ 'f' then char.toNat - 87
  else if 'A' ≤ char ∧ char ≤ 'F' then char.toNat - 55
  else 16

def radixLiteral (base : ℕ) (digits : JsString) : Option ℚ :=
  if digits ≠ [] ∧ digits.all fun digit => hexDigit digit < base then
    let value := digits.foldl (fun value digit => value * base + hexDigit digit) 0
    Double.finite (Double.roundNat value)
  else none

/-- The texts that do not consist of digits with a sign. -/
def otherNumber (text : JsString) : Option ℚ :=
  match trim text with
  | [] => some 0
  | '0' :: 'x' :: digits | '0' :: 'X' :: digits => radixLiteral 16 digits
  | '0' :: 'o' :: digits | '0' :: 'O' :: digits => radixLiteral 8 digits
  | '0' :: 'b' :: digits | '0' :: 'B' :: digits => radixLiteral 2 digits
  | literal => decimalLiteral literal

/-- `Number(text)`, if it is finite. -/
def toNumber (text : JsString) : Option ℚ :=
  match decimalInteger text with
  | some value => Double.finite (Double.roundInt value)
  | none => otherNumber text

/-! ## From numbers to texts -/

/-- The text of an integer below `10 ^ 21`. -/
def integerText (value : ℤ) : JsString :=
  let digits := Nat.toDigits 10 (Double.shortest value.natAbs)
  if value < 0 then '-' :: digits else digits

/-- The shortest digits of a positive number and the power of ten that they are multiplied with. -/
def shortestDigits (value : ℚ) : ℕ × ℤ :=
  let candidates := (List.range 650).flatMap fun index =>
    let power : ℤ := 310 - index
    let scaled := value / 10 ^ power
    let low := ⌊scaled⌋₊
    if scaled - low ≤ 1 / 2 then [(low, power), (low + 1, power)]
    else [(low + 1, power), (low, power)]
  (candidates.find? fun (digits, power) => Double.roundRat (digits * 10 ^ power) = value).getD
    (0, 0)

def exponentText (digits : JsString) (exponent : ℤ) : JsString :=
  let mantissa :=
    match digits with
    | first :: second :: rest => first :: '.' :: second :: rest
    | _ => digits
  let sign := if exponent < 0 then '-' else '+'
  mantissa ++ 'e' :: sign :: Nat.toDigits 10 exponent.natAbs

/-- The text of a finite number. -/
def numberText (value : ℚ) : JsString :=
  if value.den = 1 ∧ |value.num| < 10 ^ 21 then integerText value.num
  else
    let sign := if value < 0 then ['-'] else []
    let (significand, power) := shortestDigits |value|
    let digits := Nat.toDigits 10 significand
    let point : ℤ := digits.length + power
    if 10 ^ 21 ≤ |value| then sign ++ exponentText digits (point - 1)
    else if 0 < point then
      sign ++ digits.take point.toNat ++ '.' :: digits.drop point.toNat
    else if -6 < point then
      sign ++ '0' :: '.' :: List.replicate (-point).toNat '0' ++ digits
    else sign ++ exponentText digits (point - 1)

/-! ## Integers -/

section Integers

variable {value : ℤ} {text : JsString} {char : Char}

theorem splitSign_digits (digits : text.all Char.isDigit = true) :
    splitSign text = (false, text) := by
  unfold splitSign
  split
  · exact absurd digits (by simp)
  · exact absurd digits (by simp)
  · rfl

theorem digits_all (number : ℕ) : (Nat.toDigits 10 number).all Char.isDigit = true := by
  rw [List.all_eq_true]
  intro digit member
  exact Nat.isDigit_of_mem_toDigits (by decide) (by decide) member

theorem decimalInteger_integerText (value : ℤ) : decimalInteger (integerText value) =
    some (if value < 0 then -(Double.shortest value.natAbs : ℤ)
      else Double.shortest value.natAbs) := by
  have all := digits_all (Double.shortest value.natAbs)
  have some : Nat.toDigits 10 (Double.shortest value.natAbs) ≠ [] := Nat.toDigits_ne_nil
  unfold decimalInteger integerText
  split_ifs with negative
  · simp [splitSign, some, all, Nat.ofDigitChars_ten_toDigits]
  · simp [splitSign_digits all, some, all, Nat.ofDigitChars_ten_toDigits]

/-- An integer of double precision is read back from its text. -/
theorem toNumber_integerText (double : Double.roundInt value = value)
    (small : |value| < 10 ^ 21) : toNumber (integerText value) = some (value : ℚ) := by
  have finite : |(value : ℚ)| < 2 ^ 1024 := by
    calc |(value : ℚ)| < 10 ^ 21 := by exact_mod_cast small
      _ ≤ 2 ^ 70 := by norm_num
      _ ≤ 2 ^ 1024 := pow_le_pow_right₀ (by norm_num) (by norm_num)
  rw [toNumber, decimalInteger_integerText]
  simp only [Double.roundInt_shortest double, Double.finite, if_pos finite]

theorem mem_integerText (member : char ∈ integerText value) :
    char = '-' ∨ char.isDigit = true := by
  unfold integerText at member
  split_ifs at member with negative
  · rcases List.mem_cons.mp member with sign | digit
    · exact .inl sign
    · exact .inr (List.all_eq_true.mp (digits_all _) char digit)
  · exact .inr (List.all_eq_true.mp (digits_all _) char member)

theorem dot_notMem_integerText (value : ℤ) : '.' ∉ integerText value := by
  intro member
  rcases mem_integerText member with sign | digit
  · exact absurd sign (by decide)
  · exact absurd digit (by decide)

theorem numberText_integer (small : |value| < 10 ^ 21) :
    numberText (value : ℚ) = integerText value := by
  rw [numberText, if_pos ⟨Rat.den_intCast value, by rwa [Rat.num_intCast]⟩, Rat.num_intCast]

theorem numberText_large (large : 10 ^ 21 ≤ |value|) :
    ∃ before after, numberText (value : ℚ) = before ++ 'e' :: after ∧ '.' ∉ after := by
  have scale : (10 : ℚ) ^ 21 ≤ |(value : ℚ)| := by exact_mod_cast large
  rw [numberText, if_neg (by rw [Rat.num_intCast]; exact fun both => not_lt.mpr large both.2)]
  simp only [if_pos scale, exponentText, ← List.append_assoc]
  refine ⟨_, _, rfl, ?_⟩
  intro dot
  rcases List.mem_cons.mp dot with sign | digit
  · split_ifs at sign <;> exact absurd sign (by decide)
  · exact absurd (List.all_eq_true.mp (digits_all _) '.' digit) (by decide)

end Integers

end Security

end LumenFlow

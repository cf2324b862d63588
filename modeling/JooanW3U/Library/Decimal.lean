import Mathlib.Algebra.Group.Nat.Defs
import Mathlib.Data.List.TakeWhile
import Mathlib.Data.Int.Notation

/-!
Owns decimal numerals as text: the digits of an integer, what `strtod` reads of a
text, and the whole number the nearest double of a numeral is, if any.

Does not own hexadecimal numerals, infinities or NaN.
-/

namespace JooanW3U.Library.Decimal

/-! ## Integers -/

/-- `%d`. -/
def ofInt (value : Int) : List Char :=
  if value < 0 then '-' :: Nat.toDigits 10 value.natAbs else Nat.toDigits 10 value.natAbs

theorem isDigit_of_mem_toDigits {value : Nat} {c : Char} (digit : c ∈ Nat.toDigits 10 value) :
    c.isDigit = true :=
  Nat.isDigit_of_mem_toDigits (by decide) (by decide) digit

/-- A bound on the digits bounds the text. -/
theorem length_ofInt_le {value : Int} {digits : Nat} (positive : 0 < digits)
    (bounded : value.natAbs < 10 ^ digits) : (ofInt value).length ≤ digits + 1 := by
  have short := (Nat.length_toDigits_le_iff (by decide : 1 < 10) positive).2 bounded
  unfold ofInt
  split <;> simp <;> omega

theorem ofInt_of_nonneg {value : Int} (nonneg : 0 ≤ value) :
    ofInt value = Nat.toDigits 10 value.natAbs := by
  simp [ofInt, show ¬ value < 0 by omega]

/-! ## Numerals -/

/-- What `strtod` converts. -/
structure Numeral where
  negative : Bool
  whole : List Char
  fraction : List Char
  exponent : Int
deriving Repr, DecidableEq

def scanSign : List Char → Bool × List Char
  | '-' :: rest => (true, rest)
  | '+' :: rest => (false, rest)
  | rest => (false, rest)

/-- A point needs a digit on one side. -/
def scanFraction (whole : List Char) : List Char → List Char × List Char
  | '.' :: rest =>
      let fraction := rest.takeWhile Char.isDigit
      if whole = [] ∧ fraction = [] then ([], '.' :: rest)
      else (fraction, rest.dropWhile Char.isDigit)
  | rest => ([], rest)

/-- An exponent needs a digit; without one its mark is not read. -/
def scanExponent : List Char → Int × List Char
  | [] => (0, [])
  | mark :: rest =>
      if mark = 'e' ∨ mark = 'E' then
        let (negative, afterSign) := scanSign rest
        let digits := afterSign.takeWhile Char.isDigit
        let value : Int := Nat.ofDigitChars 10 digits 0
        if digits = [] then (0, mark :: rest)
        else (if negative then -value else value, afterSign.dropWhile Char.isDigit)
      else (0, mark :: rest)

/-- The numeral `strtod` converts at the head of the text, and what follows it. -/
def scan (text : List Char) : Option (Numeral × List Char) :=
  let (negative, afterSign) := scanSign text
  let whole := afterSign.takeWhile Char.isDigit
  let (fraction, afterFraction) := scanFraction whole (afterSign.dropWhile Char.isDigit)
  let (exponent, rest) := scanExponent afterFraction
  if whole = [] ∧ fraction = [] then none
  else some (⟨negative, whole, fraction, exponent⟩, rest)

/-- The numeral of a number written without a fraction and an exponent. -/
def Numeral.ofInt (value : Int) : Numeral :=
  ⟨value < 0, Nat.toDigits 10 value.natAbs, [], 0⟩

private theorem takeWhile_toDigits (value : Nat) :
    (Nat.toDigits 10 value).takeWhile Char.isDigit = Nat.toDigits 10 value := by
  rw [List.takeWhile_eq_self_iff]
  exact fun c => isDigit_of_mem_toDigits

private theorem dropWhile_toDigits (value : Nat) :
    (Nat.toDigits 10 value).dropWhile Char.isDigit = [] := by
  rw [List.dropWhile_eq_nil_iff]
  exact fun c => isDigit_of_mem_toDigits

private theorem scanSign_toDigits (value : Nat) :
    scanSign (Nat.toDigits 10 value) = (false, Nat.toDigits 10 value) := by
  have digits : ∀ c ∈ Nat.toDigits 10 value, c.isDigit = true :=
    fun c => isDigit_of_mem_toDigits
  unfold scanSign
  split
  · rename_i rest shape
    exact absurd (digits '-' (by simp [shape])) (by decide)
  · rename_i rest shape
    exact absurd (digits '+' (by simp [shape])) (by decide)
  · rfl

/-- `strtod` reads back the whole text of an integer. -/
theorem scan_ofInt (value : Int) : scan (ofInt value) = some (Numeral.ofInt value, []) := by
  have sign : scanSign (ofInt value) = (decide (value < 0), Nat.toDigits 10 value.natAbs) := by
    by_cases negative : value < 0
    · simp [ofInt, negative, scanSign]
    · simp [ofInt, negative, scanSign_toDigits]
  have digits := @Nat.toDigits_ne_nil value.natAbs 10
  simp [scan, sign, takeWhile_toDigits, dropWhile_toDigits, scanFraction, scanExponent, digits,
    Numeral.ofInt]

/-! ## Doubles -/

/-- How many halves of the smallest double make one. -/
def underflow : Nat := 2 ^ 1075

/-- The double nearest to a quotient, when it is a whole number under 2^32. Under
half of the smallest double the quotient is zero; a whole number `n` is nearest when
the distance is at most half the step of the doubles on that side of `n`. -/
def nearestWhole (numerator denominator : Nat) : Option Nat :=
  if numerator * underflow ≤ denominator then some 0
  else if 2 ^ 32 * denominator ≤ numerator then none
  else
    let whole := (2 * numerator + denominator) / (2 * denominator)
    let under := numerator < whole * denominator
    let distance :=
      if under then whole * denominator - numerator else numerator - whole * denominator
    let place := Nat.log2 (2 * whole - if under then 1 else 0)
    if whole ≠ 0 ∧ distance * 2 ^ (54 - place) ≤ denominator then some whole else none

/-- The value of a numeral as a double, when that is a whole number up to 2^32 either
way. A power of ten past the digits decides without being computed. -/
def Numeral.toWhole (numeral : Numeral) : Option Int :=
  let digits := numeral.whole ++ numeral.fraction
  let mantissa := Nat.ofDigitChars 10 digits 0
  let power := numeral.exponent - numeral.fraction.length
  let magnitude : Option Nat :=
    if mantissa = 0 then some 0
    else if 10 < power then none
    else if 0 ≤ power then nearestWhole (mantissa * 10 ^ power.natAbs) 1
    else if (digits.length + 330 : Int) < -power then some 0
    else nearestWhole mantissa (10 ^ power.natAbs)
  magnitude.map fun magnitude : Nat =>
    if numeral.negative then -(magnitude : Int) else magnitude

/-- The value of a numeral as a double, when that is a whole number of an `int`. -/
def Numeral.toInt (numeral : Numeral) : Option Int :=
  numeral.toWhole.filter fun value => -2147483648 ≤ value ∧ value ≤ 2147483647

/-- A whole number under 2^32 is a double. -/
theorem nearestWhole_one {value : Nat} (bounded : value < 2 ^ 32) :
    nearestWhole value 1 = some value := by
  by_cases zero : value = 0
  · simp [nearestWhole, zero]
  · have large : ¬ value * underflow ≤ 1 := by
      have many : 1 < underflow := by
        unfold underflow
        exact @Nat.one_lt_two_pow 1075 (by decide)
      have := Nat.le_mul_of_pos_left underflow (Nat.pos_of_ne_zero zero)
      omega
    have whole : (2 * value + 1) / 2 = value := by omega
    have small : ¬ 4294967296 ≤ value := by omega
    simp [nearestWhole, large, small, whole, zero]

/-- An `int` is read back from its own text. -/
theorem toInt_ofInt {value : Int} (low : -2147483648 ≤ value) (high : value ≤ 2147483647) :
    (Numeral.ofInt value).toInt = some value := by
  obtain ⟨whole, digits⟩ : ∃ whole, value.natAbs = whole := ⟨_, rfl⟩
  have magnitude : nearestWhole whole 1 = some whole := nearestWhole_one (by omega)
  by_cases zero : value = 0
  · subst zero
    rfl
  · have nonzero : whole ≠ 0 := by omega
    by_cases negative : value < 0
    · have mirrored : -(whole : Int) = value := by omega
      simp [Numeral.toInt, Numeral.toWhole, Numeral.ofInt, Nat.ofDigitChars_ten_toDigits, digits,
        magnitude, nonzero, negative, mirrored, low, high]
    · have same : (whole : Int) = value := by omega
      simp [Numeral.toInt, Numeral.toWhole, Numeral.ofInt, Nat.ofDigitChars_ten_toDigits, digits,
        magnitude, nonzero, negative, same, low, high]

example : (scan "-12.50e1,".toList).map (·.1.toInt) = some (some (-125)) := by decide +kernel

end JooanW3U.Library.Decimal

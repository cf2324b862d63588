import Mathlib.Data.List.Basic
import Mathlib.Data.Int.Notation

/-!
Owns the C library text functions the media service calls: the `%Nd` conversion
of `sscanf`, and comparisons of NUL-terminated text. A C string is the list of
its characters, one for each byte, without the terminator.
-/

namespace JooanW3U.Media

/-- `isspace` in the C locale. -/
def isSpace (c : Char) : Bool :=
  c = ' ' || ('\t' ≤ c && c ≤ '\r')

theorem digit_black {c : Char} (digit : c.isDigit = true) : isSpace c = false := by
  rw [Char.isDigit_iff_toNat] at digit
  by_contra space
  simp only [isSpace, Bool.not_eq_false, Bool.or_eq_true, Bool.and_eq_true, decide_eq_true_eq,
    Char.le_def, UInt32.le_iff_toNat_le] at space
  rcases space with rfl | ⟨-, low⟩
  · exact absurd digit (by decide)
  · have small : c.toNat ≤ 13 := low
    have large : 48 ≤ c.toNat := digit.1
    exact absurd (Nat.le_trans large small) (by decide)

/-- At most `width` leading decimal digits, and what follows them. -/
def takeDigits : Nat → List Char → List Char × List Char
  | 0, text => ([], text)
  | _ + 1, [] => ([], [])
  | width + 1, c :: rest =>
      if c.isDigit then
        let (digits, after) := takeDigits width rest
        (c :: digits, after)
      else ([], c :: rest)

/-- The value of a run of decimal digits. -/
def digitsValue (digits : List Char) : Nat :=
  digits.foldl (fun value c => value * 10 + (c.toNat - '0'.toNat)) 0

theorem digitsValue_toDigits (number : Nat) : digitsValue (Nat.toDigits 10 number) = number := by
  have read := @Nat.ofDigitChars_toDigits 10 number (by decide) (by decide)
  rw [Nat.ofDigitChars_eq_foldl] at read
  simp only [digitsValue, Nat.mul_comm _ 10]
  exact read

/-- The unsigned part of a `%Nd` conversion: one digit at least. -/
def scanDigits (width : Nat) (text : List Char) : Option (Nat × List Char) :=
  match takeDigits width text with
  | ([], _) => none
  | (digits, after) => some (digitsValue digits, after)

/-- `sscanf` with `%Nd`: white space is skipped, a sign counts in the width. -/
def scanInt (width : Nat) (text : List Char) : Option (Int × List Char) :=
  match text.dropWhile isSpace with
  | '-' :: rest => (scanDigits (width - 1) rest).map fun (value, after) => (-(value : Int), after)
  | '+' :: rest => (scanDigits (width - 1) rest).map fun (value, after) => ((value : Int), after)
  | rest => (scanDigits width rest).map fun (value, after) => ((value : Int), after)

/-- A literal character of an `sscanf` format. -/
def scanChar (expected : Char) : List Char → Option (List Char)
  | c :: rest => if c = expected then some rest else none
  | [] => none

/-- `!strcasecmp(a, b)` in the C locale. -/
def sameIgnoringCase (a b : List Char) : Bool :=
  a.map Char.toLower = b.map Char.toLower

end JooanW3U.Media

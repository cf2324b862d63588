import JooanW3U.Library.Calendar
import JooanW3U.Media.CreatedTime
import Mathlib.Data.Rat.Floor

/-!
Owns what a Created stamp denotes: the dates and times of day of its grammar, and the
instant in UTC. Main result: `created_time` answers a well-formed stamp with that instant
and refuses a date that does not exist.
-/

namespace JooanW3U.Media

open JooanW3U.Library.Calendar

/-! ### The days of the civil calendar -/

/-- The days before the first of March of a year, from that of the year 0. -/
def marchDays (year : Int) : Int :=
  year / 400 * 146097 + (year % 400 * 365 + year % 400 / 4 - year % 400 / 100)

theorem marchDays_succ {year : Nat} :
    marchDays (year + 1 : Nat) = marchDays year + 365 + if isLeap (year + 1) then 1 else 0 := by
  unfold marchDays isLeap
  split <;> rename_i leap <;> simp at leap <;> push_cast <;> omega

/-- The year that began in March, for the months from it on. -/
def marchYear (date : Date) : Int := if date.month ≤ 2 then (date.year : Int) - 1 else date.year

/-- The days before a month in a year that begins in March. -/
def monthDaysBefore (month : Nat) : Int :=
  (153 * (if month ≤ 2 then (month : Int) + 9 else (month : Int) - 3) + 2) / 5

theorem civilDays_date {date : Date} (year : 1 ≤ date.year) :
    civilDays date.year date.month date.day =
      marchDays (marchYear date) + monthDaysBefore date.month + date.day - 1 - 719468 := by
  have known := date.month_mem
  have nonneg : 0 ≤ marchYear date := by
    unfold marchYear
    split <;> omega
  have yearOf : (if (date.month : Int) ≤ 2 then (date.year : Int) - 1 else date.year) =
      marchYear date := by
    unfold marchYear
    split <;> split <;> omega
  have era : (marchYear date).tdiv 400 = marchYear date / 400 :=
    Int.tdiv_eq_ediv_of_nonneg nonneg
  have inEra : marchYear date - marchYear date / 400 * 400 = marchYear date % 400 := by omega
  have fourth : (marchYear date % 400).tdiv 4 = marchYear date % 400 / 4 :=
    Int.tdiv_eq_ediv_of_nonneg (by omega)
  have hundredth : (marchYear date % 400).tdiv 100 = marchYear date % 400 / 100 :=
    Int.tdiv_eq_ediv_of_nonneg (by omega)
  have months : (153 * (if (date.month : Int) > 2 then (date.month : Int) - 3 else date.month + 9)
      + 2).tdiv 5 = monthDaysBefore date.month := by
    unfold monthDaysBefore
    rw [Int.tdiv_eq_ediv_of_nonneg (by split <;> omega)]
    split <;> split <;> omega
  unfold civilDays
  dsimp only
  rw [yearOf, if_pos nonneg, era, inEra, fourth, hundredth, months]
  unfold marchDays
  omega

/-- Within a year that begins in March a month begins where the one before it ends. -/
theorem monthDaysBefore_succ (year : Nat) {month : Nat} (low : 1 ≤ month) (high : month < 12)
    (other : month ≠ 2) :
    monthDaysBefore (month + 1) = monthDaysBefore month + monthLength year month := by
  interval_cases month
  all_goals simp only [monthLength, monthDaysBefore]
  all_goals omega

/-- `civil_days` counts one more for each successive date. -/
theorem civilDays_next {date : Date} (year : 1 ≤ date.year) :
    civilDays date.next.year date.next.month date.next.day =
      civilDays date.year date.month date.day + 1 := by
  have known := date.month_mem
  have later : 1 ≤ date.next.year := by
    rcases date.next_cases with ⟨y, -⟩ | ⟨-, -, y, -⟩ | ⟨-, -, y, -⟩ <;> omega
  rw [civilDays_date later, civilDays_date year]
  rcases date.next_cases with ⟨y, m, d⟩ | ⟨last, early, y, m, d⟩ | ⟨last, december, y, m, d⟩
  · have same : marchYear date.next = marchYear date := by
      unfold marchYear
      rw [y, m]
    rw [same, m, d]
    push_cast
    omega
  · by_cases february : date.month = 2
    · have first : marchYear date.next = (date.year - 1 + 1 : Nat) := by
        unfold marchYear
        rw [y, m, february]
        omega
      have second : marchYear date = (date.year - 1 : Nat) := by
        unfold marchYear
        rw [february]
        omega
      have back : date.year - 1 + 1 = date.year := Nat.sub_add_cancel year
      have length : date.day = if isLeap date.year then 29 else 28 := by
        rw [last, february]
        rfl
      rw [first, second, marchDays_succ, back, m, february, d, length]
      unfold monthDaysBefore
      split <;> omega
    · have same : marchYear date.next = marchYear date := by
        unfold marchYear
        rw [y, m]
        split <;> split <;> omega
      rw [same, m, d, monthDaysBefore_succ date.year known.1 early february, last]
      push_cast
      omega
  · have same : marchYear date.next = marchYear date := by
      unfold marchYear
      rw [y, m, december]
      push_cast
      omega
    rw [same, m, d, december, last]
    unfold monthDaysBefore
    omega

/-- 1970-01-01. -/
def epoch : Date := .newYear 1970

theorem year_iterate (days : Nat) : 1970 ≤ (Date.next^[days] epoch).year := by
  induction days with
  | zero => exact Nat.le_refl 1970
  | succ days inductionHypothesis =>
      rw [Function.iterate_succ_apply']
      have stepped := (Date.next^[days] epoch).next_cases
      rcases stepped with ⟨y, -⟩ | ⟨-, -, y, -⟩ | ⟨-, -, y, -⟩ <;> omega

theorem civilDays_iterate (days : Nat) :
    civilDays (Date.next^[days] epoch).year (Date.next^[days] epoch).month
      (Date.next^[days] epoch).day = days := by
  induction days with
  | zero => exact (by decide : civilDays 1970 1 1 = 0)
  | succ days inductionHypothesis =>
      have year := year_iterate days
      rw [Function.iterate_succ_apply', civilDays_next (by omega), inductionHypothesis]
      push_cast
      rfl

/-! ### The grammar of stamps -/

inductive Zone
  | utc
  | apart (east : Bool) (hours minutes : Fin 100)
deriving Repr, DecidableEq

/-- A well-formed stamp: fields of two digits after a year of four, an optional fraction
and a zone. -/
structure Stamp where
  year : Fin 10000
  month : Fin 100
  day : Fin 100
  hour : Fin 100
  minute : Fin 100
  second : Fin 100
  fraction : Option (List Char)
  zone : Zone
  digits : ∀ text ∈ fraction, text ≠ [] ∧ text.all Char.isDigit = true

def twoDigits (number : Nat) : List Char :=
  [Nat.digitChar (number / 10), Nat.digitChar (number % 10)]

def fourDigits (number : Nat) : List Char := twoDigits (number / 100) ++ twoDigits (number % 100)

namespace Zone

def text : Zone → List Char
  | .utc => ['Z']
  | .apart east hours minutes =>
      (if east then '+' else '-') :: (twoDigits hours ++ ':' :: twoDigits minutes)

/-- Seconds east of UTC. -/
def seconds : Zone → Int
  | .utc => 0
  | .apart east hours minutes =>
      let apart : Int := hours.val * 3600 + minutes.val * 60
      if east then apart else -apart

/-- A zone of at most fourteen hours. -/
def Allowed : Zone → Prop
  | .utc => True
  | .apart _ hours minutes => minutes.val ≤ 59 ∧ hours.val * 60 + minutes.val ≤ 14 * 60

instance (zone : Zone) : Decidable zone.Allowed :=
  match zone with
  | .utc => isTrue trivial
  | .apart _ hours minutes =>
      inferInstanceAs (Decidable (minutes.val ≤ 59 ∧ hours.val * 60 + minutes.val ≤ 14 * 60))

end Zone

namespace Stamp

def fractionText (stamp : Stamp) : List Char :=
  match stamp.fraction with
  | none => []
  | some digits => '.' :: digits

def text (stamp : Stamp) : List Char :=
  fourDigits stamp.year ++ '-' :: (twoDigits stamp.month ++ '-' :: (twoDigits stamp.day ++
    'T' :: (twoDigits stamp.hour ++ ':' :: (twoDigits stamp.minute ++ ':' ::
      (twoDigits stamp.second ++ (stamp.fractionText ++ stamp.zone.text))))))

/-- The part of a second. -/
def part (stamp : Stamp) : ℚ :=
  match stamp.fraction with
  | none => 0
  | some digits => digitsValue digits / 10 ^ digits.length

/-- The date of the stamp. -/
def Names (stamp : Stamp) (date : Date) : Prop :=
  date.year = stamp.year.val ∧ date.month = stamp.month.val ∧ date.day = stamp.day.val

/-- The instant of the stamp, in seconds from the start of 1970 in UTC, where its date
comes that many days after 1970-01-01. -/
def instant (stamp : Stamp) (days : Nat) : ℚ :=
  days * 86400 + stamp.hour.val * 3600 + stamp.minute.val * 60 + stamp.second.val + stamp.part -
    stamp.zone.seconds

/-- The stamps the service reads. -/
structure Accepted (stamp : Stamp) : Prop where
  year : 1970 ≤ stamp.year.val
  date : ∃ date, stamp.Names date
  hour : stamp.hour.val ≤ 23
  minute : stamp.minute.val ≤ 59
  second : stamp.second.val ≤ 59
  fraction : ∀ digits ∈ stamp.fraction, digits.length ≤ 9
  zone : stamp.zone.Allowed

end Stamp

/-! ### Reading a stamp -/

theorem digitChar_reads : ∀ digit < 10,
    (Nat.digitChar digit).isDigit = true ∧ isSpace (Nat.digitChar digit) = false ∧
      Nat.digitChar digit ≠ '-' ∧ Nat.digitChar digit ≠ '+' ∧
        (Nat.digitChar digit).toNat - 48 = digit := by
  decide

/-- Two digits are a whole `%2d`. -/
theorem scanInt_two {tens units : Nat} (small : tens < 10) (smaller : units < 10)
    (rest : List Char) :
    scanInt 2 (Nat.digitChar tens :: Nat.digitChar units :: rest) =
      some (((tens * 10 + units : Nat) : Int), rest) := by
  obtain ⟨digit, black, minus, plus, first⟩ := digitChar_reads tens small
  obtain ⟨digit', -, -, -, second⟩ := digitChar_reads units smaller
  simp only [scanInt, List.dropWhile_cons, black, Bool.false_eq_true, if_false]
  simp [scanDigits, takeDigits, digit, digit', digitsValue, first, second, minus, plus]

/-- Four digits are a whole `%4d`. -/
theorem scanInt_four {a b c d : Nat} (smallA : a < 10) (smallB : b < 10) (smallC : c < 10)
    (smallD : d < 10) (rest : List Char) :
    scanInt 4 (Nat.digitChar a :: Nat.digitChar b :: Nat.digitChar c :: Nat.digitChar d :: rest) =
      some (((((a * 10 + b) * 10 + c) * 10 + d : Nat) : Int), rest) := by
  obtain ⟨digit, black, minus, plus, first⟩ := digitChar_reads a smallA
  obtain ⟨digit₂, -, -, -, second⟩ := digitChar_reads b smallB
  obtain ⟨digit₃, -, -, -, third⟩ := digitChar_reads c smallC
  obtain ⟨digit₄, -, -, -, fourth⟩ := digitChar_reads d smallD
  simp only [scanInt, List.dropWhile_cons, black, Bool.false_eq_true, if_false]
  simp [scanDigits, takeDigits, digit, digit₂, digit₃, digit₄, digitsValue, first, second, third,
    fourth, minus, plus]

theorem scanInt_twoDigits {number : Nat} (small : number < 100) (rest : List Char) :
    scanInt 2 (twoDigits number ++ rest) = some ((number : Int), rest) := by
  have whole : number / 10 * 10 + number % 10 = number := by omega
  have read := scanInt_two (show number / 10 < 10 by omega) (show number % 10 < 10 by omega) rest
  rw [whole] at read
  exact read

theorem scanInt_fourDigits {number : Nat} (small : number < 10000) (rest : List Char) :
    scanInt 4 (fourDigits number ++ rest) = some ((number : Int), rest) := by
  have whole : ((number / 100 / 10 * 10 + number / 100 % 10) * 10 + number % 100 / 10) * 10 +
      number % 100 % 10 = number := by omega
  have read := scanInt_four (show number / 100 / 10 < 10 by omega)
    (show number / 100 % 10 < 10 by omega) (show number % 100 / 10 < 10 by omega)
    (show number % 100 % 10 < 10 by omega) rest
  rw [whole] at read
  exact read

namespace Stamp

variable (stamp : Stamp)

/-- What stands behind the fields that `sscanf` reads. -/
def tail : List Char := stamp.fractionText ++ stamp.zone.text

theorem scanTime_text :
    scanTime stamp.text =
      some ⟨stamp.year.val, stamp.month.val, stamp.day.val, stamp.hour.val, stamp.minute.val,
        stamp.second.val, stamp.tail⟩ := by
  simp only [scanTime, text, tail, scanInt_fourDigits stamp.year.isLt,
    scanInt_twoDigits stamp.month.isLt, scanInt_twoDigits stamp.day.isLt,
    scanInt_twoDigits stamp.hour.isLt, scanInt_twoDigits stamp.minute.isLt,
    scanInt_twoDigits stamp.second.isLt, scanChar, if_true, Option.bind_eq_bind, Option.bind_some]
  rfl

theorem length_text : stamp.text.length - stamp.tail.length = 19 := by
  simp only [text, tail, fourDigits, twoDigits, List.length_append, List.length_cons,
    List.length_nil]
  omega

theorem zone_head : ∃ c rest, stamp.zone.text = c :: rest ∧ c.isDigit = false ∧ c ≠ '.' := by
  cases stamp.zone with
  | utc => exact ⟨'Z', [], rfl, by decide, by decide⟩
  | apart east hours minutes =>
      cases east with
      | true => exact ⟨'+', _, rfl, by decide, by decide⟩
      | false => exact ⟨'-', _, rfl, by decide, by decide⟩

/-- A fraction of at most nine digits is dropped. -/
theorem dropFraction_tail :
    dropFraction stamp.tail =
      if ∀ digits ∈ stamp.fraction, digits.length ≤ 9 then some stamp.zone.text else none := by
  obtain ⟨c, rest, zone, black, other⟩ := stamp.zone_head
  unfold tail fractionText
  cases found : stamp.fraction with
  | none =>
      rw [List.nil_append, zone, if_pos nofun]
      unfold dropFraction
      split
      · rename_i same
        exact absurd (List.cons.inj same).1 other
      · rfl
  | some digits =>
      obtain ⟨more, decimal⟩ := stamp.digits digits found
      have all : ∀ c ∈ digits, c.isDigit = true := List.all_eq_true.mp decimal
      have taken : (digits ++ c :: rest).takeWhile Char.isDigit = digits := by
        rw [List.takeWhile_append_of_pos all, List.takeWhile_cons_of_neg (by simp [black]),
          List.append_nil]
      have left : (digits ++ c :: rest).dropWhile Char.isDigit = c :: rest := by
        rw [List.dropWhile_append_of_pos all, List.dropWhile_cons_of_neg (by simp [black])]
      have some_digits : digits.isEmpty = false := by
        cases digits with
        | nil => exact absurd rfl more
        | cons => rfl
      simp only [List.cons_append, zone, dropFraction, taken, left, some_digits, Bool.or_false,
        decide_eq_true_eq, Option.mem_some_iff, forall_eq']
      split <;> split <;> first | rfl | omega

theorem digit_digitChar {number : Nat} (small : number < 10) :
    digit (Nat.digitChar number) = number := by
  obtain ⟨-, -, -, -, value⟩ := digitChar_reads number small
  have large : 48 ≤ (Nat.digitChar number).toNat := by
    revert number
    decide
  unfold digit
  omega

theorem zoneOffset_text :
    zoneOffset stamp.zone.text =
      if stamp.zone.Allowed then some stamp.zone.seconds else none := by
  cases stamp.zone with
  | utc => rfl
  | apart east hours minutes =>
      obtain ⟨h, small⟩ := hours
      obtain ⟨m, small'⟩ := minutes
      obtain ⟨one, -⟩ := digitChar_reads (h / 10) (by omega)
      obtain ⟨two, -⟩ := digitChar_reads (h % 10) (by omega)
      obtain ⟨three, -⟩ := digitChar_reads (m / 10) (by omega)
      obtain ⟨four, -⟩ := digitChar_reads (m % 10) (by omega)
      have hour : digit (Nat.digitChar (h / 10)) * 10 + digit (Nat.digitChar (h % 10)) = h := by
        rw [digit_digitChar (by omega), digit_digitChar (by omega)]
        omega
      have minute : digit (Nat.digitChar (m / 10)) * 10 + digit (Nat.digitChar (m % 10)) = m := by
        rw [digit_digitChar (by omega), digit_digitChar (by omega)]
        omega
      have allowed : (Zone.apart east ⟨h, small⟩ ⟨m, small'⟩).Allowed ↔
          ¬((h : Int) > 14 ∨ (m : Int) > 59 ∨ (h : Int) = 14 ∧ (m : Int) ≠ 0) := by
        unfold Zone.Allowed
        dsimp only
        omega
      cases east <;>
        simp [zoneOffset, Zone.text, twoDigits, one, two, three, four, hour, minute, allowed,
          Zone.seconds]
      all_goals split <;> split <;> first | rfl | omega

/-- The seconds of the stamp where its date comes that many days after 1970-01-01. -/
def wholeSeconds (days : Int) : Int :=
  days * 86400 + stamp.hour.val * 3600 + stamp.minute.val * 60 + stamp.second.val -
    stamp.zone.seconds

end Stamp

theorem isLeap_cast (year : Nat) :
    ((year : Int) % 4 = 0 && ((year : Int) % 100 ≠ 0 || (year : Int) % 400 = 0)) = isLeap year := by
  have fourth : ((year : Int) % 4 = 0) = (year % 4 = 0) := by
    rw [eq_iff_iff]
    omega
  have hundredth : ((year : Int) % 100 = 0) = (year % 100 = 0) := by
    rw [eq_iff_iff]
    omega
  have last : ((year : Int) % 400 = 0) = (year % 400 = 0) := by
    rw [eq_iff_iff]
    omega
  simp only [isLeap, fourth, hundredth, last, ne_eq]

/-- The length of a month as `created_time` has it. -/
theorem monthDays_eq (year : Nat) {month : Nat} (low : 1 ≤ month) (high : month ≤ 12) :
    monthDays.getD ((month : Int) - 1).toNat 0 +
      (if (month : Int) = 2 && (year : Int) % 4 = 0 &&
        ((year : Int) % 100 ≠ 0 || (year : Int) % 400 = 0) then 1 else 0) =
      (monthLength year month : Int) := by
  rw [Bool.and_assoc, isLeap_cast]
  interval_cases month
  all_goals simp [monthDays, monthLength]
  split <;> rfl

/-- The checks of `created_time` on the fields it has read. -/
structure InRange (t : ScannedTime) : Prop where
  year : 1970 ≤ t.year ∧ t.year ≤ 9999
  month : 1 ≤ t.month ∧ t.month ≤ 12
  hour : 0 ≤ t.hour ∧ t.hour ≤ 23
  minute : 0 ≤ t.minute ∧ t.minute ≤ 59
  second : 0 ≤ t.second ∧ t.second ≤ 59
  day : 1 ≤ t.day ∧ t.day ≤ monthLength t.year.toNat t.month.toNat

theorem inRange_iff (t : ScannedTime) :
    (¬(t.year < 1970 || t.year > 9999 || t.month < 1 || t.month > 12 || t.day < 1 ||
        t.hour < 0 || t.hour > 23 || t.minute < 0 || t.minute > 59 ||
        t.second < 0 || t.second > 59) = true ∧
      ¬t.day > monthDays.getD (t.month - 1).toNat 0 +
        (if (t.month = 2 && t.year % 4 = 0 && ((¬t.year % 100 = 0) || t.year % 400 = 0)) = true
          then 1 else 0)) ↔ InRange t := by
  simp only [Bool.or_eq_true, decide_eq_true_eq, not_or, not_lt, gt_iff_lt]
  have length : 1970 ≤ t.year → 1 ≤ t.month → t.month ≤ 12 →
      monthDays.getD (t.month - 1).toNat 0 +
        (if (t.month = 2 && t.year % 4 = 0 && ((¬t.year % 100 = 0) || t.year % 400 = 0)) = true
          then 1 else 0) = (monthLength t.year.toNat t.month.toNat : Int) := by
    intro year low high
    have days := monthDays_eq t.year.toNat (show 1 ≤ t.month.toNat by omega)
      (show t.month.toNat ≤ 12 by omega)
    rw [Int.toNat_of_nonneg (by omega), Int.toNat_of_nonneg (by omega)] at days
    exact days
  constructor
  · rintro ⟨⟨⟨⟨⟨⟨⟨⟨⟨⟨⟨y, y'⟩, m⟩, m'⟩, d⟩, h⟩, h'⟩, mi⟩, mi'⟩, se⟩, se'⟩, last⟩
    rw [length y m m'] at last
    exact ⟨⟨y, y'⟩, ⟨m, m'⟩, ⟨h, h'⟩, ⟨mi, mi'⟩, ⟨se, se'⟩, ⟨d, last⟩⟩
  · rintro ⟨⟨y, y'⟩, ⟨m, m'⟩, ⟨h, h'⟩, ⟨mi, mi'⟩, ⟨se, se'⟩, ⟨d, last⟩⟩
    rw [length y m m']
    exact ⟨⟨⟨⟨⟨⟨⟨⟨⟨⟨⟨y, y'⟩, m⟩, m'⟩, d⟩, h⟩, h'⟩, mi⟩, mi'⟩, se⟩, se'⟩, last⟩

/-- What is accepted has passed every check. -/
theorem createdTime_eq_some_iff {s : List Char} {value : Int} :
    createdTime s = some value ↔
      ∃ t, scanTime s = some t ∧ s.length - t.rest.length = 19 ∧ InRange t ∧
        ∃ p, dropFraction t.rest = some p ∧ ∃ offset, zoneOffset p = some offset ∧
          civilDays t.year t.month t.day * 86400 + t.hour * 3600 + t.minute * 60 + t.second -
            offset = value := by
  unfold createdTime
  rw [Option.bind_eq_bind, Option.bind_eq_some_iff]
  apply exists_congr
  intro t
  apply and_congr_right
  intro scanned
  simp only [Option.bind_eq_bind, Option.bind_none, Option.ite_none_left_eq_some,
    Option.bind_eq_some_iff, Option.pure_def, Option.some.injEq, ne_eq, not_not]
  apply and_congr_right'
  rw [← and_assoc]
  exact and_congr_left' (inRange_iff t)

theorem InRange.date {t : ScannedTime} (inRange : InRange t) :
    ∃ date : Date, (date.year : Int) = t.year ∧ (date.month : Int) = t.month ∧
      (date.day : Int) = t.day := by
  have year := inRange.year
  have month := inRange.month
  obtain ⟨first, last⟩ := inRange.day
  refine ⟨⟨t.year.toNat, t.month.toNat, t.day.toNat, by omega, by omega⟩, ?_, ?_, ?_⟩ <;> simp <;>
    omega

namespace Stamp

variable (stamp : Stamp)

/-- The stamps that are read, and what they are read as. -/
theorem createdTime_text {value : Int} :
    createdTime stamp.text = some value ↔
      stamp.Accepted ∧
        value = stamp.wholeSeconds (civilDays stamp.year.val stamp.month.val stamp.day.val) := by
  rw [createdTime_eq_some_iff]
  constructor
  · rintro ⟨t, scanned, -, inRange, p, dropped, offset, zoned, rfl⟩
    rw [stamp.scanTime_text, Option.some.injEq] at scanned
    subst scanned
    rw [stamp.dropFraction_tail] at dropped
    split at dropped
    · rename_i short
      cases dropped
      rw [stamp.zoneOffset_text] at zoned
      split at zoned
      · rename_i allowed
        cases zoned
        obtain ⟨date, y, m, d⟩ := inRange.date
        have year := inRange.year
        have hour := inRange.hour
        have minute := inRange.minute
        have second := inRange.second
        dsimp only at y m d year hour minute second
        refine ⟨⟨by omega, ⟨date, by omega, by omega, by omega⟩, by omega, by omega, by omega, short,
          allowed⟩, rfl⟩
      · cases zoned
    · cases dropped
  · rintro ⟨accepted, rfl⟩
    obtain ⟨date, y, m, d⟩ := accepted.date
    have known := date.month_mem
    have first := date.day_pos
    have last := date.day_le
    have year := accepted.year
    have hour := accepted.hour
    have minute := accepted.minute
    have second := accepted.second
    rw [y, m, d] at last
    refine ⟨_, stamp.scanTime_text, stamp.length_text, ?_, stamp.zone.text, ?_, stamp.zone.seconds, ?_,
      rfl⟩
    · have small := stamp.year.isLt
      have inside : (stamp.day.val : Int) ≤
          monthLength (stamp.year.val : Int).toNat (stamp.month.val : Int).toNat := by
        rw [Int.toNat_natCast, Int.toNat_natCast]
        omega
      constructor <;> dsimp only <;> omega
    · rw [stamp.dropFraction_tail, if_pos accepted.fraction]
    · rw [stamp.zoneOffset_text, if_pos accepted.zone]

theorem foldl_digits_lt {digits : List Char} (decimal : digits.all Char.isDigit = true)
    (value : Nat) :
    digits.foldl (fun value c => value * 10 + (c.toNat - '0'.toNat)) value <
      (value + 1) * 10 ^ digits.length := by
  induction digits generalizing value with
  | nil => simp
  | cons c rest inductionHypothesis =>
      rw [List.all_cons, Bool.and_eq_true] at decimal
      have bound : c.toNat - '0'.toNat ≤ 9 := by
        have inside := Char.isDigit_iff_toNat.mp decimal.1
        have zero : '0'.toNat = 48 := rfl
        have nine : '9'.toNat = 57 := rfl
        omega
      calc (c :: rest).foldl (fun value c => value * 10 + (c.toNat - '0'.toNat)) value
          < (value * 10 + (c.toNat - '0'.toNat) + 1) * 10 ^ rest.length :=
            inductionHypothesis decimal.2 _
        _ ≤ (value + 1) * 10 * 10 ^ rest.length :=
            Nat.mul_le_mul_right _ (by omega)
        _ = (value + 1) * 10 ^ (c :: rest).length := by
            rw [List.length_cons, Nat.pow_succ']
            ring

/-- A fraction is less than a second. -/
theorem part_mem : 0 ≤ stamp.part ∧ stamp.part < 1 := by
  unfold part
  cases found : stamp.fraction with
  | none => norm_num
  | some digits =>
      have below : digitsValue digits < 10 ^ digits.length := by
        have fold := foldl_digits_lt (stamp.digits digits found).2 0
        rwa [Nat.zero_add, Nat.one_mul] at fold
      have positive : (0 : ℚ) < 10 ^ digits.length := by positivity
      dsimp only
      rw [div_lt_one positive]
      exact ⟨by positivity, by exact_mod_cast below⟩

/-- The whole seconds of the instant. -/
theorem floor_instant (days : Nat) : ⌊stamp.instant days⌋ = stamp.wholeSeconds days := by
  rw [Int.floor_eq_iff]
  have part := stamp.part_mem
  unfold instant wholeSeconds
  push_cast
  constructor <;> linarith

/-- The value is the instant of the stamp, in whole seconds. -/
def Denotes (value : Int) : Prop :=
  ∃ days, stamp.Names (Date.next^[days] epoch) ∧ value = ⌊stamp.instant days⌋

theorem denotes_of_accepted (accepted : stamp.Accepted) :
    stamp.Denotes
      (stamp.wholeSeconds (civilDays stamp.year.val stamp.month.val stamp.day.val)) := by
  obtain ⟨date, y, m, d⟩ := accepted.date
  have year := accepted.year
  obtain ⟨days, reached⟩ := Date.exists_iterate 1970 date (by omega)
  have counted := civilDays_iterate days
  rw [epoch, reached, y, m, d] at counted
  refine ⟨days, ?_, ?_⟩
  · rw [epoch, reached]
    exact ⟨y, m, d⟩
  · rw [stamp.floor_instant, counted]

end Stamp

/-- `civil_days` counts the dates from 1970-01-01 on, which are all dates of 1970 and later;
`created_time` reads exactly the stamps in its range, as the instant they denote, and no
text at all whose date does not exist. -/
theorem created_time_denotes :
    ((∀ days : Nat, civilDays (Date.next^[days] epoch).year (Date.next^[days] epoch).month
        (Date.next^[days] epoch).day = days) ∧
      ∀ date : Date, 1970 ≤ date.year → ∃ days, Date.next^[days] epoch = date) ∧
    (∀ stamp : Stamp, ((createdTime stamp.text).isSome = true ↔ stamp.Accepted) ∧
      ∀ value, createdTime stamp.text = some value → stamp.Denotes value) ∧
    ∀ text t, scanTime text = some t →
      (¬∃ date : Date, (date.year : Int) = t.year ∧ (date.month : Int) = t.month ∧
        (date.day : Int) = t.day) → createdTime text = none := by
  refine ⟨⟨civilDays_iterate, Date.exists_iterate 1970⟩, fun stamp => ⟨?_, ?_⟩, ?_⟩
  · rw [Option.isSome_iff_exists]
    constructor
    · rintro ⟨value, read⟩
      exact (stamp.createdTime_text.mp read).1
    · intro accepted
      exact ⟨_, stamp.createdTime_text.mpr ⟨accepted, rfl⟩⟩
  · intro value read
    obtain ⟨accepted, rfl⟩ := stamp.createdTime_text.mp read
    exact stamp.denotes_of_accepted accepted
  · intro text t scanned missing
    rw [Option.eq_none_iff_forall_not_mem]
    intro value read
    obtain ⟨t', scanned', -, inRange, -⟩ := createdTime_eq_some_iff.mp read
    rw [scanned, Option.some.injEq] at scanned'
    subst scanned'
    exact missing inRange.date

end JooanW3U.Media

import Mathlib.Data.Nat.Notation
import Mathlib.Logic.Function.Iterate
import Mathlib.Tactic.IntervalCases

/-!
Owns the dates of the Gregorian calendar, in their order: the date after a date, and the
dates that follow a first of January.

Does not own any count of days.
-/

namespace JooanW3U.Library.Calendar

def isLeap (year : Nat) : Bool :=
  year % 4 = 0 && (year % 100 ≠ 0 || year % 400 = 0)

/-- The days of a month; no month but the twelve has days. -/
def monthLength (year : Nat) : Nat → Nat
  | 1 | 3 | 5 | 7 | 8 | 10 | 12 => 31
  | 4 | 6 | 9 | 11 => 30
  | 2 => if isLeap year then 29 else 28
  | _ => 0

/-- A date that exists. -/
@[ext]
structure Date where
  year : Nat
  month : Nat
  day : Nat
  day_pos : 1 ≤ day
  day_le : day ≤ monthLength year month
deriving Repr, DecidableEq

namespace Date

theorem month_mem (date : Date) : 1 ≤ date.month ∧ date.month ≤ 12 := by
  by_contra outside
  have none : monthLength date.year date.month = 0 := by
    unfold monthLength
    split <;> first | rfl | omega
  exact absurd date.day_le (by have := date.day_pos; omega)

theorem monthLength_pos (year : Nat) {month : Nat} (low : 1 ≤ month) (high : month ≤ 12) :
    1 ≤ monthLength year month := by
  interval_cases month
  all_goals simp only [monthLength]
  all_goals first | omega | (split <;> omega)

/-- The first of January. -/
def newYear (year : Nat) : Date := ⟨year, 1, 1, Nat.le_refl 1, (by decide : 1 ≤ 31)⟩

/-- The date after a date. -/
def next (date : Date) : Date :=
  if more : date.day < monthLength date.year date.month then
    ⟨date.year, date.month, date.day + 1, Nat.le_add_left 1 date.day, more⟩
  else if early : date.month < 12 then
    ⟨date.year, date.month + 1, 1, Nat.le_refl 1,
      monthLength_pos date.year (Nat.le_add_left 1 date.month) early⟩
  else newYear (date.year + 1)

/-- What the date after a date can be. -/
theorem next_cases (date : Date) :
    (date.next.year = date.year ∧ date.next.month = date.month ∧ date.next.day = date.day + 1) ∨
    (date.day = monthLength date.year date.month ∧ date.month < 12 ∧
      date.next.year = date.year ∧ date.next.month = date.month + 1 ∧ date.next.day = 1) ∨
    (date.day = 31 ∧ date.month = 12 ∧
      date.next.year = date.year + 1 ∧ date.next.month = 1 ∧ date.next.day = 1) := by
  have whole := date.day_le
  have known := date.month_mem
  unfold next
  split
  · exact .inl ⟨rfl, rfl, rfl⟩
  · rename_i last
    have ends : date.day = monthLength date.year date.month :=
      Nat.le_antisymm whole (Nat.le_of_not_lt last)
    split
    · rename_i early
      exact .inr (.inl ⟨ends, early, rfl, rfl, rfl⟩)
    · have december : date.month = 12 := by omega
      have length : date.day = 31 := by
        rw [ends, december]
        rfl
      exact .inr (.inr ⟨length, december, rfl, rfl, rfl⟩)

/-- Every date but the first of a January follows a date of its year; that of a year after
the first follows one of the year before. -/
theorem exists_next (date : Date) (after : date ≠ newYear date.year ∨ 0 < date.year) :
    ∃ before : Date, before.next = date ∧
      (before.year = date.year ∨ date = newYear date.year ∧ before.year + 1 = date.year) := by
  have known := date.month_mem
  have first := date.day_pos
  have whole := date.day_le
  by_cases start : date.day = 1
  · by_cases january : date.month = 1
    · have same : date = newYear date.year := Date.ext rfl january start
      have later : 0 < date.year := after.resolve_left fun other => other same
      refine ⟨⟨date.year - 1, 12, 31, by decide, (Nat.le_refl 31)⟩, ?_, .inr ⟨same, ?_⟩⟩
      · conv => rhs; rw [same]
        have back : date.year - 1 + 1 = date.year := Nat.sub_add_cancel later
        simp [next, monthLength, back]
      · exact Nat.sub_add_cancel later
    · have length := @monthLength_pos date.year (date.month - 1) (by omega) (by omega)
      refine ⟨⟨date.year, date.month - 1, monthLength date.year (date.month - 1), length,
        Nat.le_refl _⟩, ?_, .inl rfl⟩
      have early : date.month - 1 < 12 := by omega
      have back : date.month - 1 + 1 = date.month := by omega
      ext <;> simp [next, early, back, start]
  · refine ⟨⟨date.year, date.month, date.day - 1, by omega, by omega⟩, ?_, .inl rfl⟩
    have more : date.day - 1 < monthLength date.year date.month := by omega
    have back : date.day - 1 + 1 = date.day := by omega
    ext <;> simp [next, more, back]

/-- Dates in their order. -/
def rank (date : Date) : Nat := date.year * 400 + date.month * 32 + date.day

theorem rank_next (date : Date) : date.rank < date.next.rank := by
  have known := date.month_mem
  have bound : monthLength date.year date.month ≤ 31 := by
    unfold monthLength
    split <;> first | omega | (split <;> omega)
  have whole := date.day_le
  unfold rank
  rcases date.next_cases with ⟨y, m, d⟩ | ⟨-, -, y, m, d⟩ | ⟨last, december, y, m, d⟩
  · rw [y, m, d]
    omega
  · rw [y, m, d]
    omega
  · rw [y, m, d, last, december]
    omega

/-- The dates from a first of January on are those that follow it. -/
theorem exists_iterate (year : Nat) (date : Date) (later : year ≤ date.year) :
    ∃ days, next^[days] (newYear year) = date := by
  induction ranked : date.rank using Nat.strong_induction_on generalizing date with
  | _ rank inductionHypothesis =>
      by_cases start : date = newYear year
      · exact ⟨0, start.symm⟩
      · have after : date ≠ newYear date.year ∨ 0 < date.year := by
          by_cases same : date.year = year
          · rw [same]
            exact .inl start
          · exact .inr (by omega)
        obtain ⟨before, follows, years⟩ := date.exists_next after
        have fewer : before.rank < rank := by
          rw [← ranked, ← follows]
          exact before.rank_next
        have inside : year ≤ before.year := by
          rcases years with same | ⟨first, earlier⟩
          · rw [same]
            exact later
          · have other : date.year ≠ year := fun same => start (same ▸ first)
            omega
        obtain ⟨days, reached⟩ := inductionHypothesis before.rank fewer before inside rfl
        exact ⟨days + 1, by rw [Function.iterate_succ_apply', reached, follows]⟩

end Date

end JooanW3U.Library.Calendar

import Mathlib.Logic.Function.Basic

/-!
Owns the unbounded failure counter that a fixed login table stands for: one
window a key, opened by the key's first failure and open for `span` from then
on, the answer `blocked` from `limit` failures on, and the clearing of a window
by a success that comes below the limit.

Does not own the table that stores it, the unit of time, or what a key is.
-/

namespace JooanW3U.Library

universe u

/-- The failures of one key since the first of them. -/
structure FailureWindow where
  since : Nat
  failures : Nat
  deriving Repr, DecidableEq

/-- How many failures block a key, and for how long after the first. -/
structure FailurePolicy where
  limit : Nat
  span : Nat

/-- The windows of every key ever seen, with no bound on their number. -/
abbrev FailureWindows (Key : Type u) := Key → Option FailureWindow

namespace FailureWindows

variable {Key : Type u} (policy : FailurePolicy)

/-- The key's window, if it has not ended by `now`. -/
def live (windows : FailureWindows Key) (key : Key) (now : Nat) : Option FailureWindow :=
  (windows key).filter fun window => decide (now < window.since + policy.span)

def blocked (windows : FailureWindows Key) (key : Key) (now : Nat) : Bool :=
  match live policy windows key now with
  | some window => decide (policy.limit ≤ window.failures)
  | none => false

/-- The window of a key after one more result. -/
def noted (window : Option FailureWindow) (now : Nat) (ok : Bool) : Option FailureWindow :=
  match window, ok with
  | none, true => none
  | none, false => some ⟨now, 1⟩
  | some window, false => some { window with failures := window.failures + 1 }
  | some window, true =>
      if window.failures < policy.limit then none else some window

def note [DecidableEq Key] (windows : FailureWindows Key) (key : Key) (now : Nat) (ok : Bool) :
    FailureWindows Key :=
  Function.update windows key (noted policy (live policy windows key now) now ok)

variable {policy} {windows : FailureWindows Key} {key : Key} {now : Nat}

theorem live_eq_some {window : FailureWindow} :
    live policy windows key now = some window ↔
      windows key = some window ∧ now < window.since + policy.span := by
  simp [live, Option.filter_eq_some_iff]

/-- A window still open later was open before. -/
theorem live_of_later {later : Nat} {window : FailureWindow} (notBefore : now ≤ later)
    (open_ : live policy windows key later = some window) :
    live policy windows key now = some window := by
  rw [live_eq_some] at open_ ⊢
  exact ⟨open_.1, by omega⟩

theorem live_at_later {later : Nat} {window : FailureWindow}
    (open_ : live policy windows key now = some window)
    (notEnded : later < window.since + policy.span) :
    live policy windows key later = some window := by
  rw [live_eq_some] at open_ ⊢
  exact ⟨open_.1, notEnded⟩

theorem blocked_iff :
    blocked policy windows key now = true ↔
      ∃ window, live policy windows key now = some window ∧ policy.limit ≤ window.failures := by
  unfold blocked
  cases found : live policy windows key now with
  | none => simp
  | some window => simp

theorem live_note_of_ne [DecidableEq Key] {other : Key} {time : Nat} {ok : Bool}
    (different : other ≠ key) :
    live policy (note policy windows key now ok) other time = live policy windows other time := by
  simp [live, note, Function.update_of_ne different]

/-- Every result leaves only a window that is open at its own time. -/
theorem live_note_self [DecidableEq Key] {ok : Bool} (spanPositive : 0 < policy.span) :
    live policy (note policy windows key now ok) key now =
      noted policy (live policy windows key now) now ok := by
  show Option.filter _ (Function.update windows key _ key) = _
  rw [Function.update_self]
  cases found : live policy windows key now with
  | none => cases ok <;> simp [noted, spanPositive]
  | some window =>
      have notEnded := (live_eq_some.mp found).2
      cases ok with
      | false => simp [noted, notEnded]
      | true =>
          by_cases below : window.failures < policy.limit
          · simp [noted, below]
          · simp [noted, below, notEnded]

end FailureWindows

end JooanW3U.Library

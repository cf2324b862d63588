import JooanW3U.Library.Runs
import Mathlib.Tactic.SplitIfs

/-!
Owns the fixed-window rate limiter: a window admits at most `limit` requests, and
the first request `span` or more after its opening opens the next one. Main result:
any closed interval of the length `span` holds at most twice `limit` admissions.

Does not own the further reasons for which a limiter may refuse.
-/

namespace JooanW3U.Library.RateWindow

structure Policy where
  limit : Nat
  span : Nat
  positive : 0 < span

structure Window where
  opened : Nat
  admitted : Nat
deriving DecidableEq, Repr

/-- A request's time, and what became of it. -/
structure Outcome where
  time : Nat
  admitted : Bool
deriving DecidableEq, Repr

/-- The window that a request at `time` falls into. -/
def Window.rolled (policy : Policy) (window : Window) (time : Nat) : Window :=
  if policy.span ≤ time - window.opened then ⟨time, 0⟩ else window

/-- A request is admitted below the limit only; it may be refused for any reason. -/
def Step (policy : Policy) (window : Window) (outcome : Outcome) (next : Window) : Prop :=
  next = ⟨(window.rolled policy outcome.time).opened,
      (window.rolled policy outcome.time).admitted + outcome.admitted.toNat⟩ ∧
    next.admitted ≤ policy.limit

/-- The admissions from `first` until `span` later. -/
def admissions (policy : Policy) (first : Nat) (outcomes : List Outcome) : Nat :=
  outcomes.countP fun outcome =>
    outcome.admitted && decide (first ≤ outcome.time ∧ outcome.time ≤ first + policy.span)

/-- How many of the requests still to come are admitted in an interval, by where the
interval begins relative to the window. -/
def room (policy : Policy) (first : Nat) (window : Window) : Nat :=
  if first + policy.span < window.opened then 0
  else if first < window.opened then policy.limit - window.admitted
  else if first < window.opened + policy.span then 2 * policy.limit - window.admitted
  else 2 * policy.limit

theorem room_le (policy : Policy) (first : Nat) (window : Window) :
    room policy first window ≤ 2 * policy.limit := by
  unfold room
  split_ifs <;> omega

theorem admissions_cons (policy : Policy) (first : Nat) (outcome : Outcome)
    (outcomes : List Outcome) :
    admissions policy first (outcome :: outcomes) = admissions policy first outcomes +
      if first ≤ outcome.time ∧ outcome.time ≤ first + policy.span
        then outcome.admitted.toNat else 0 := by
  rw [admissions, List.countP_cons, admissions]
  congr 1
  by_cases inside : first ≤ outcome.time ∧ outcome.time ≤ first + policy.span
  · rw [if_pos inside, decide_eq_true inside, Bool.and_true]
    cases outcome.admitted <;> rfl
  · rw [if_neg inside, decide_eq_false inside, Bool.and_false]
    rfl

/-- One request uses up the room it takes. -/
theorem Step.room {policy : Policy} {window next : Window} {outcome : Outcome}
    (step : Step policy window outcome next) (after : window.opened ≤ outcome.time)
    (below : window.admitted ≤ policy.limit) (first : Nat) :
    room policy first next +
      (if first ≤ outcome.time ∧ outcome.time ≤ first + policy.span
        then outcome.admitted.toNat else 0) ≤ room policy first window := by
  obtain ⟨rfl, fits⟩ := step
  have positive := policy.positive
  unfold Window.rolled at fits ⊢
  unfold RateWindow.room
  by_cases reopens : policy.span ≤ outcome.time - window.opened
  · simp only [if_pos reopens] at fits ⊢
    split_ifs <;> omega
  · simp only [if_neg reopens] at fits ⊢
    split_ifs <;> omega

theorem Step.opened_le {policy : Policy} {window next : Window} {outcome : Outcome}
    (step : Step policy window outcome next) (after : window.opened ≤ outcome.time) :
    next.opened ≤ outcome.time := by
  obtain ⟨rfl, -⟩ := step
  unfold Window.rolled
  split_ifs
  · exact Nat.le_refl _
  · exact after

/-- What a whole run admits in an interval fits into the room its start leaves. -/
theorem run_admissions_le {policy : Policy} {window final : Window} {outcomes : List Outcome}
    (run : Run (Step policy) window outcomes final)
    (sorted : outcomes.Pairwise fun early late => early.time ≤ late.time)
    (after : ∀ outcome ∈ outcomes, window.opened ≤ outcome.time)
    (below : window.admitted ≤ policy.limit) (first : Nat) :
    admissions policy first outcomes ≤ room policy first window := by
  induction run with
  | nil window => exact Nat.zero_le _
  | @cons window next final outcome outcomes step _ inductionHypothesis =>
      obtain ⟨ahead, rest⟩ := List.pairwise_cons.mp sorted
      have here := after outcome List.mem_cons_self
      have opened := step.opened_le here
      have later := inductionHypothesis rest
        (fun other listed => Nat.le_trans opened (ahead other listed)) step.2
      have used := step.room here below first
      rw [admissions_cons]
      omega

/-- Any closed interval of the length of a window holds at most two windows' admissions. -/
theorem run_rate_le {policy : Policy} {window final : Window} {outcomes : List Outcome}
    (run : Run (Step policy) window outcomes final)
    (sorted : outcomes.Pairwise fun early late => early.time ≤ late.time)
    (after : ∀ outcome ∈ outcomes, window.opened ≤ outcome.time)
    (below : window.admitted ≤ policy.limit) (first : Nat) :
    admissions policy first outcomes ≤ 2 * policy.limit :=
  Nat.le_trans (run_admissions_le run sorted after below first) (room_le policy first window)

end JooanW3U.Library.RateWindow

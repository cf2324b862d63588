import JooanW3U.Media.PlatformSafety
import Mathlib.Tactic.Linarith
import Mathlib.Tactic.NormNum

/-!
Owns the target of an exact move on either backend: when it is the reachable position
nearest to the requested one. Coordinates are rationals, and the conversions to whole
numbers are those of the code.

Does not own whether a move is accepted, nor how the head gets to its target.
-/

namespace JooanW3U.Media.Platform

/-- No reachable position is nearer. -/
def Nearest (low high : Int) (requested : ℚ) (target : Int) : Prop :=
  low ≤ target ∧ target ≤ high ∧
    ∀ position : Int, low ≤ position → position ≤ high →
      |requested - target| ≤ |requested - position|

/-- One axis of the position a move asks for, on the replay backend. -/
def replayAimed (kind : Move) (value : ℚ) (here : Int) : ℚ :=
  match kind with
  | .steps => value
  | .absolute => value * 100
  | .relative => here + value * 100
  | .relativeFov => here + value * 50

/-- The target of an axis that reaches from `low` to `high`. -/
def axisTarget (low high : Int) (requested : ℚ) : Int :=
  clamp (toInt32 (lround requested)) low high

/-! ### Rounding -/

theorem lround_near (value : ℚ) : |value - lround value| ≤ 1 / 2 := by
  unfold lround
  split
  · have below := Int.floor_le (value + 1 / 2)
    have above := Int.lt_floor_add_one (value + 1 / 2)
    rw [abs_le]
    constructor <;> linarith
  · have below := Int.floor_le (-value + 1 / 2)
    have above := Int.lt_floor_add_one (-value + 1 / 2)
    rw [abs_le]
    push_cast
    constructor <;> linarith

/-- What is rounded first and clamped after is the nearest reachable position. -/
theorem clamp_nearest {low high : Int} (travel : low ≤ high) {requested : ℚ} {rounded : Int}
    (near : |requested - rounded| ≤ 1 / 2) :
    Nearest low high requested (clamp rounded low high) := by
  obtain ⟨below, above⟩ := abs_le.mp near
  refine ⟨(clamp_inside travel rounded).1, (clamp_inside travel rounded).2,
    fun position from_low to_high => ?_⟩
  unfold clamp
  split
  · rename_i under
    -- The request is under the lowest position.
    have gap : (rounded : ℚ) + 1 ≤ low := by exact_mod_cast under
    have order : (low : ℚ) ≤ position := by exact_mod_cast from_low
    rw [abs_of_nonpos (by linarith), abs_of_nonpos (by linarith)]
    linarith
  · split
    · rename_i beyond
      have gap : (high : ℚ) + 1 ≤ rounded := by exact_mod_cast beyond
      have order : (position : ℚ) ≤ high := by exact_mod_cast to_high
      rw [abs_of_nonneg (by linarith), abs_of_nonneg (by linarith)]
      linarith
    · rcases lt_trichotomy position rounded with under | same | beyond
      · have gap : (position : ℚ) + 1 ≤ rounded := by exact_mod_cast under
        rw [abs_of_nonneg (show (0 : ℚ) ≤ requested - position by linarith)]
        exact near.trans (by linarith)
      · rw [same]
      · have gap : (rounded : ℚ) + 1 ≤ position := by exact_mod_cast beyond
        rw [abs_of_nonpos (show requested - (position : ℚ) ≤ 0 by linarith)]
        exact near.trans (by linarith)

/-- Past the highest position by a step or more, only that one is nearest. -/
theorem nearest_above {low high target : Int} {requested : ℚ} (travel : low ≤ high)
    (past : (high : ℚ) ≤ requested) (nearest : Nearest low high requested target) :
    target = high := by
  obtain ⟨-, within, least⟩ := nearest
  have closer := least high travel (Int.le_refl _)
  have order : (target : ℚ) ≤ high := by exact_mod_cast within
  rw [abs_of_nonneg (by linarith), abs_of_nonneg (by linarith)] at closer
  have reached : (high : ℚ) ≤ target := by linarith
  exact Int.le_antisymm within (by exact_mod_cast reached)

theorem nearest_below {low high target : Int} {requested : ℚ} (travel : low ≤ high)
    (past : requested ≤ low) (nearest : Nearest low high requested target) : target = low := by
  obtain ⟨within, -, least⟩ := nearest
  have closer := least low (Int.le_refl _) travel
  have order : (low : ℚ) ≤ target := by exact_mod_cast within
  rw [abs_of_nonpos (by linarith), abs_of_nonpos (by linarith)] at closer
  have reached : (target : ℚ) ≤ low := by linarith
  exact Int.le_antisymm (by exact_mod_cast reached) within

/-! ### The conversion to `int` -/

/-- The rounded request fits an `int`, or what is left of it lies past the end it is
beyond. -/
def Converts (low high rounded : Int) : Prop :=
  (-2147483648 ≤ rounded ∧ rounded < 2147483648) ∨
    (2147483648 ≤ rounded ∧ high ≤ toInt32 rounded) ∨
      (rounded < -2147483648 ∧ toInt32 rounded ≤ low)

instance (low high rounded : Int) : Decidable (Converts low high rounded) :=
  inferInstanceAs (Decidable (_ ∨ _))

theorem toInt32_fits {value : Int} (low : -2147483648 ≤ value) (high : value < 2147483648) :
    toInt32 value = value := by
  unfold toInt32
  rw [Int.bmod_eq_iff (by decide)]
  omega

/-- The ends of a travel, which an `int` can hold. -/
structure Travel (low high : Int) : Prop where
  order : low < high
  least : -2147483648 ≤ low
  most : high < 2147483648

theorem axisTarget_nearest_iff {low high : Int} (travel : Travel low high) (requested : ℚ) :
    Nearest low high requested (axisTarget low high requested) ↔
      Converts low high (lround requested) := by
  obtain ⟨wide, least, most⟩ := travel
  have order : low ≤ high := Int.le_of_lt wide
  have near := lround_near requested
  obtain ⟨below, above⟩ := abs_le.mp near
  have nearest := clamp_nearest order near
  by_cases beyond : 2147483648 ≤ lround requested
  · have past : (high : ℚ) ≤ requested := by
      have gap : (high : ℚ) + 1 ≤ lround requested := by exact_mod_cast (by omega)
      linarith
    have top := nearest_above order past nearest
    constructor
    · intro reached
      have is := nearest_above order past reached
      refine .inr (.inl ⟨beyond, ?_⟩)
      unfold axisTarget clamp at is
      split at is
      · omega
      · split at is <;> omega
    · rintro (fits | up | down)
      · omega
      · have is : axisTarget low high requested = high := by
          unfold axisTarget clamp
          split
          · omega
          · split <;> omega
        rw [is.trans top.symm]
        exact nearest
      · omega
  · by_cases under : lround requested < -2147483648
    · have past : requested ≤ low := by
        have gap : (lround requested : ℚ) + 1 ≤ low := by exact_mod_cast (by omega)
        linarith
      have bottom := nearest_below order past nearest
      constructor
      · intro reached
        have is := nearest_below order past reached
        refine .inr (.inr ⟨under, ?_⟩)
        unfold axisTarget clamp at is
        split at is
        · omega
        · split at is <;> omega
      · rintro (fits | up | down)
        · omega
        · omega
        · have is : axisTarget low high requested = low := by
            unfold axisTarget clamp
            split
            · rfl
            · split <;> omega
          rw [is.trans bottom.symm]
          exact nearest
    · have fits : -2147483648 ≤ lround requested ∧ lround requested < 2147483648 := by omega
      apply iff_of_true
      · unfold axisTarget
        rw [toInt32_fits fits.1 fits.2]
        exact nearest
      · exact .inl fits

/-! ### Moves -/

/-- The targets of an accepted move, from the state it leaves. -/
theorem move_targets {kind : Move} {x y speed : ℚ} {now : Nat} {a : Answers} {m after : Machine}
    (moved : jipc_platform_move kind x y speed now a m = (.ok (), after)) :
    after.target_x = axisTarget 0 after.pan_max
        (aimed kind x after.pan_sign after.x after.pan_max JIPC_FOV_HALF_PAN) ∧
      after.target_y = axisTarget 0 after.tilt_max
        (aimed kind y after.tilt_sign after.y after.tilt_max JIPC_FOV_HALF_TILT) := by
  unfold jipc_platform_move at moved
  split at moved
  · cases moved
  · split at moved
    · cases moved
    · split at moved
      · cases moved
      · split at moved
        · cases moved
        · split at moved
          · cases moved
          · cases moved
            exact ⟨rfl, rfl⟩

/-- A move from (2040, 600) in a travel of 4080 by 1230. -/
def stepsFrom (x y : ℚ) : Reply × Machine :=
  jipc_platform_move .steps x y 0 0 (driverAt 2040 600 "4080" "1230") homedBoot.machine

def isTaken (replied : Reply × Machine) : Bool := replied.1.isOk

theorem taken_eq {replied : Reply × Machine} (accepted : isTaken replied = true) :
    replied = (.ok (), replied.2) := by
  obtain ⟨reply, m⟩ := replied
  cases reply with
  | ok done => rfl
  | error _ => exact absurd accepted Bool.false_ne_true

end JooanW3U.Media.Platform

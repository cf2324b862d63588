import Mathlib.Order.Basic

/-!
Owns a quantizer of the naturals: cells of given widths, one behind the other from 0, each
with its middle for a level. Main results: a number is in one cell, cells and levels are in
order, and a level is within half a width of what is in its cell.

Does not own signs, codes, or any choice of widths.
-/

namespace JooanW3U.Library.Cells

variable (width : Nat → Nat)

/-- Where a cell begins. -/
def lower : Nat → Nat
  | 0 => 0
  | cell + 1 => lower cell + width cell

/-- The number is in the cell. -/
def InCell (cell number : Nat) : Prop :=
  lower width cell ≤ number ∧ number < lower width (cell + 1)

/-- The middle of a cell. -/
def level (cell : Nat) : Nat := lower width cell + width cell / 2

variable {width}

theorem lower_mono {cell other : Nat} (below : cell ≤ other) :
    lower width cell ≤ lower width other := by
  induction below with
  | refl => exact Nat.le_refl _
  | step _ inductionHypothesis => exact Nat.le_trans inductionHypothesis (Nat.le_add_right _ _)

theorem InCell.mono {cell other number more : Nat} (here : InCell width cell number)
    (there : InCell width other more) (below : number ≤ more) : cell ≤ other := by
  by_contra above
  have order : lower width (other + 1) ≤ lower width cell := lower_mono (Nat.lt_of_not_le above)
  have begins := here.1
  have ends := there.2
  omega

theorem InCell.unique {cell other number : Nat} (here : InCell width cell number)
    (there : InCell width other number) : cell = other :=
  Nat.le_antisymm (here.mono there (Nat.le_refl _)) (there.mono here (Nat.le_refl _))

/-- In a cell that is not empty the middle, and the number before the middle. -/
theorem level_inCell {cell : Nat} (wide : 2 ≤ width cell) :
    InCell width cell (level width cell) ∧ InCell width cell (level width cell - 1) := by
  have half : 1 ≤ width cell / 2 := by omega
  constructor
  · refine ⟨Nat.le_add_right _ _, ?_⟩
    rw [level, lower]
    omega
  · refine ⟨?_, ?_⟩
    · rw [level]
      omega
    · rw [level, lower]
      omega

theorem level_mono {cell other : Nat} (below : cell ≤ other) :
    level width cell ≤ level width other := by
  rcases Nat.eq_or_lt_of_le below with rfl | less
  · exact Nat.le_refl _
  · have order : lower width (cell + 1) ≤ lower width other := lower_mono less
    rw [lower] at order
    rw [level, level]
    omega

/-- A number is within half a width of its level. -/
theorem InCell.near {cell number : Nat} (here : InCell width cell number) :
    number + 1 ≤ level width cell + (width cell - width cell / 2) ∧
      level width cell ≤ number + width cell / 2 := by
  obtain ⟨begins, ends⟩ := here
  rw [lower] at ends
  rw [level]
  omega

end JooanW3U.Library.Cells

import Mathlib.Data.List.Basic
import Mathlib.Data.List.Perm.Basic
import Mathlib.Logic.Equiv.Basic
import Mathlib.Tactic.SplitIfs

/-!
Owns sequences of exchanges of neighbours in a list. Main results: the reversed
sequence undoes one; a sequence of exchanges that do not touch each other undoes
itself; and a descending run of exchanges, which turns its items round by one,
undoes itself exactly on lists that alternate.

Does not own exchanges of items further apart.
-/

namespace JooanW3U.Library.AdjacentSwaps

universe u

variable {α : Type u}

/-- Exchange an item and the next one, if both are there. -/
def swapAt (items : List α) (position : Nat) : List α :=
  match items[position]?, items[position + 1]? with
  | some first, some second => (items.set position second).set (position + 1) first
  | _, _ => items

def swaps (items : List α) (positions : List Nat) : List α := positions.foldl swapAt items

@[simp] theorem swapAt_length (items : List α) (position : Nat) :
    (swapAt items position).length = items.length := by
  unfold swapAt
  split
  · rw [List.length_set, List.length_set]
  · rfl

@[simp] theorem swaps_length (items : List α) (positions : List Nat) :
    (swaps items positions).length = items.length := by
  induction positions generalizing items with
  | nil => rfl
  | cons position positions inductionHypothesis =>
      rw [swaps, List.foldl_cons, ← swaps, inductionHypothesis, swapAt_length]

/-- An exchange as a permutation of the positions. -/
theorem swapAt_getElem? {items : List α} {position : Nat} (inside : position + 1 < items.length)
    (index : Nat) :
    (swapAt items position)[index]? = items[Equiv.swap position (position + 1) index]? := by
  have before : position < items.length := by omega
  unfold swapAt
  rw [List.getElem?_eq_getElem before, List.getElem?_eq_getElem inside]
  by_cases first : index = position
  · subst first
    rw [Equiv.swap_apply_left, List.getElem?_set_ne (by omega), List.getElem?_set_self before,
      List.getElem?_eq_getElem inside]
  · by_cases second : index = position + 1
    · subst second
      rw [Equiv.swap_apply_right, List.getElem?_set_self (by rw [List.length_set]; exact inside),
        List.getElem?_eq_getElem before]
    · rw [Equiv.swap_apply_of_ne_of_ne first second, List.getElem?_set_ne (by omega),
        List.getElem?_set_ne (by omega)]

theorem swapAt_outside {items : List α} {position : Nat} (outside : items.length ≤ position + 1) :
    swapAt items position = items := by
  unfold swapAt
  rw [List.getElem?_eq_none outside]
  split
  · contradiction
  · rfl

theorem swapAt_swapAt (items : List α) (position : Nat) :
    swapAt (swapAt items position) position = items := by
  by_cases inside : position + 1 < items.length
  · apply List.ext_getElem?
    intro index
    rw [swapAt_getElem? (by rw [swapAt_length]; exact inside), swapAt_getElem? inside,
      Equiv.swap_apply_self]
  · have outside := Nat.le_of_not_lt inside
    rw [swapAt_outside outside, swapAt_outside outside]

/-- Exchanges that do not touch each other may be made in either order. -/
theorem swapAt_comm (items : List α) {first second : Nat} (apart : first + 1 < second) :
    swapAt (swapAt items first) second = swapAt (swapAt items second) first := by
  by_cases inside : second + 1 < items.length
  · apply List.ext_getElem?
    intro index
    have early : first + 1 < items.length := by omega
    rw [swapAt_getElem? (by rw [swapAt_length]; exact inside), swapAt_getElem? early,
      swapAt_getElem? (by rw [swapAt_length]; exact early), swapAt_getElem? inside]
    congr 1
    simp only [Equiv.swap_apply_def]
    split_ifs <;> omega
  · have outside := Nat.le_of_not_lt inside
    rw [swapAt_outside (by rw [swapAt_length]; exact outside), swapAt_outside outside]

/-! ### Undoing a sequence -/

theorem swaps_append (items : List α) (early late : List Nat) :
    swaps items (early ++ late) = swaps (swaps items early) late := List.foldl_append

theorem swaps_reverse (items : List α) (positions : List Nat) :
    swaps (swaps items positions) positions.reverse = items := by
  induction positions generalizing items with
  | nil => rfl
  | cons position positions inductionHypothesis =>
      rw [List.reverse_cons, swaps_append]
      have inner := inductionHypothesis (swapAt items position)
      exact (congrArg (swapAt · position) inner).trans (swapAt_swapAt items position)

/-- Exchanges that do not touch each other undo themselves. -/
theorem swaps_swaps {positions : List Nat}
    (apart : ∀ first ∈ positions, ∀ second ∈ positions, first < second → first + 1 < second)
    (items : List α) : swaps (swaps items positions) positions = items := by
  have order : ∀ start : List α, swaps start positions = swaps start positions.reverse := by
    intro start
    refine (List.reverse_perm positions).symm.foldl_eq' ?_ start
    intro first inFirst second inSecond between
    rcases Nat.lt_trichotomy first second with less | rfl | more
    · exact swapAt_comm between (apart first inFirst second inSecond less)
    · rfl
    · exact (swapAt_comm between (apart second inSecond first inFirst more)).symm
  rw [order (swaps items positions)]
  exact swaps_reverse items positions

/-! ### A descending run -/

/-- `count`, …, 1. -/
def descend : Nat → List Nat
  | 0 => []
  | count + 1 => (count + 1) :: descend count

theorem descend_bounds {count position : Nat} (listed : position ∈ descend count) :
    1 ≤ position ∧ position ≤ count := by
  induction count with
  | zero => cases listed
  | succ count inductionHypothesis =>
      rcases List.mem_cons.mp listed with rfl | later
      · omega
      · have bounds := inductionHypothesis later
        omega

/-- A position no exchange touches. -/
theorem swaps_untouched {items : List α} {positions : List Nat} {index : Nat}
    (away : ∀ position ∈ positions, index ≠ position ∧ index ≠ position + 1) :
    (swaps items positions)[index]? = items[index]? := by
  induction positions generalizing items with
  | nil => rfl
  | cons position positions inductionHypothesis =>
      have here := away position List.mem_cons_self
      have rest := @inductionHypothesis (swapAt items position)
        fun other listed => away other (List.mem_cons_of_mem _ listed)
      refine rest.trans ?_
      by_cases inside : position + 1 < items.length
      · rw [swapAt_getElem? inside, Equiv.swap_apply_of_ne_of_ne here.1 here.2]
      · rw [swapAt_outside (Nat.le_of_not_lt inside)]

/-- The last item the run touches comes to the front. -/
theorem descend_first {items : List α} {count : Nat} (inside : count + 1 < items.length) :
    (swaps items (descend count))[1]? = items[count + 1]? := by
  induction count generalizing items with
  | zero => rfl
  | succ count inductionHypothesis =>
      have moved := @inductionHypothesis (swapAt items (count + 1))
        (by rw [swapAt_length]; omega)
      refine moved.trans ?_
      rw [swapAt_getElem? inside, Equiv.swap_apply_left]

/-- The others move up by one. -/
theorem descend_next {items : List α} {count : Nat} (inside : count + 1 < items.length)
    {index : Nat} (low : 1 ≤ index) (high : index ≤ count) :
    (swaps items (descend count))[index + 1]? = items[index]? := by
  induction count generalizing items with
  | zero => omega
  | succ count inductionHypothesis =>
      by_cases last : index = count + 1
      · subst last
        have still := @swaps_untouched _ (swapAt items (count + 1)) (descend count) (count + 1 + 1)
          fun position listed => by
            have bounds := descend_bounds listed
            omega
        refine still.trans ?_
        rw [swapAt_getElem? inside, Equiv.swap_apply_right]
      · have moved := @inductionHypothesis (swapAt items (count + 1))
          (by rw [swapAt_length]; omega) (by omega)
        refine moved.trans ?_
        rw [swapAt_getElem? inside, Equiv.swap_apply_of_ne_of_ne last (by omega)]

/-- From the first item on, every item is the one two further on. -/
def Alternates (items : List α) (count : Nat) : Prop :=
  ∀ index, 1 ≤ index → index < count → items[index]? = items[index + 2]?

instance [DecidableEq α] (items : List α) (count : Nat) : Decidable (Alternates items count) :=
  decidable_of_iff (∀ index ∈ List.range count, 1 ≤ index → items[index]? = items[index + 2]?) <| by
    simp only [List.mem_range, Alternates]
    exact forall_congr' fun index => ⟨fun h low high => h high low, fun h high low => h low high⟩

theorem Alternates.odd {items : List α} {count : Nat} (alternates : Alternates items count)
    (half : Nat) (start : Nat) (low : 1 ≤ start) (bound : start + 2 * half ≤ count + 1) :
    items[start]? = items[start + 2 * half]? := by
  induction half with
  | zero => rfl
  | succ half inductionHypothesis =>
      have step := alternates (start + 2 * half) (by omega) (by omega)
      rw [inductionHypothesis (by omega), step]
      rfl

/-- A run over an even number of items undoes itself exactly when they alternate. -/
theorem descend_twice_iff {items : List α} {count : Nat} (odd : count % 2 = 1)
    (inside : count + 1 < items.length) :
    swaps (swaps items (descend count)) (descend count) = items ↔ Alternates items count := by
  have turned : count + 1 < (swaps items (descend count)).length := by
    rw [swaps_length]
    exact inside
  have twice : ∀ index, 1 ≤ index → index < count →
      (swaps (swaps items (descend count)) (descend count))[index + 2]? = items[index]? := by
    intro index low high
    rw [descend_next turned (by omega) (by omega), descend_next inside low (by omega)]
  constructor
  · intro same index low high
    have moved := twice index low high
    rw [same] at moved
    exact moved.symm
  · intro alternates
    apply List.ext_getElem?
    intro index
    by_cases away : index = 0 ∨ count + 1 < index
    · rw [swaps_untouched, swaps_untouched] <;> intro position listed <;>
        have bounds := descend_bounds listed <;> omega
    · obtain ⟨half, shape⟩ : ∃ half, count = 2 * half + 1 := ⟨count / 2, by omega⟩
      by_cases first : index = 1
      · rw [first, descend_first turned]
        have moved := alternates.odd half 1 (by omega) (by omega)
        rw [moved]
        rw [descend_next inside (by omega) (Nat.le_refl count), shape, Nat.add_comm]
      · by_cases second : index = 2
        · rw [second, show (2 : Nat) = 1 + 1 by rfl, descend_next turned (by omega) (by omega),
            descend_first inside]
          have moved := alternates.odd half 2 (by omega) (by omega)
          rw [moved, show count + 1 = 2 + 2 * half by omega]
        · obtain ⟨earlier, rfl⟩ : ∃ earlier, index = earlier + 2 := ⟨index - 2, by omega⟩
          rw [twice earlier (by omega) (by omega)]
          exact alternates earlier (by omega) (by omega)

end JooanW3U.Library.AdjacentSwaps

import Mathlib.Logic.Function.Basic
import Mathlib.Data.List.Basic
import Mathlib.Data.Nat.ModEq

/-!
Owns overwriting rings: a writer numbers its items from one and keeps the last
`capacity` of them. Main result: within that window a slot holds the item the
log of everything written has at its number.

Does not own readers or their cursors.
-/

namespace JooanW3U.Library

universe u

structure BroadcastRing (α : Type u) where
  capacity : Nat
  slots : Nat → α
  count : Nat

namespace BroadcastRing

variable {α : Type u}

def push (ring : BroadcastRing α) (item : α) : BroadcastRing α where
  capacity := ring.capacity
  slots := Function.update ring.slots (ring.count % ring.capacity) item
  count := ring.count + 1

/-- The slot of the item with this number. -/
def item (ring : BroadcastRing α) (number : Nat) : α :=
  ring.slots ((number - 1) % ring.capacity)

/-- Number of the oldest item not yet overwritten. -/
def oldest (ring : BroadcastRing α) : Nat :=
  if ring.count > ring.capacity then ring.count - ring.capacity + 1 else 1

@[simp] theorem push_capacity (ring : BroadcastRing α) (item : α) :
    (ring.push item).capacity = ring.capacity := rfl

@[simp] theorem push_count (ring : BroadcastRing α) (item : α) :
    (ring.push item).count = ring.count + 1 := rfl

/-- The ring was written the items of `log`, in order. -/
structure Holds (ring : BroadcastRing α) (log : List α) : Prop where
  positive : 0 < ring.capacity
  counted : ring.count = log.length
  kept : ∀ index item, log[index]? = some item → log.length ≤ index + ring.capacity →
    ring.slots (index % ring.capacity) = item

/-- Two numbers of one window share a slot only when they are equal. -/
theorem mod_ne_of_window {capacity low high : Nat} (below : low < high)
    (window : high < low + capacity) : low % capacity ≠ high % capacity := by
  intro same
  have divides := (Nat.modEq_iff_dvd' (Nat.le_of_lt below)).mp same
  have large := Nat.le_of_dvd (by omega) divides
  omega

theorem getElem?_concat_cases {log : List α} {item found : α} {index : Nat}
    (member : (log ++ [item])[index]? = some found) :
    log[index]? = some found ∨ (index = log.length ∧ found = item) := by
  by_cases older : index < log.length
  · rw [List.getElem?_append_left older] at member
    exact .inl member
  · have inside := (List.getElem?_eq_some_iff.mp member).1
    rw [List.length_append, List.length_singleton] at inside
    have newest : index = log.length := by omega
    subst newest
    rw [List.getElem?_concat_length] at member
    exact .inr ⟨rfl, (Option.some.inj member).symm⟩

theorem getElem?_of_prefix {log grown : List α} {item : α} {index : Nat} (grows : log <+: grown)
    (found : log[index]? = some item) : grown[index]? = some item := by
  obtain ⟨inside, rfl⟩ := List.getElem?_eq_some_iff.mp found
  exact List.prefix_iff_getElem?.mp grows index inside

theorem Holds.push {ring : BroadcastRing α} {log : List α} (holds : Holds ring log) (item : α) :
    Holds (ring.push item) (log ++ [item]) where
  positive := holds.positive
  counted := by
    rw [push_count, holds.counted, List.length_append, List.length_singleton]
  kept index found member window := by
    rw [List.length_append, List.length_singleton, push_capacity] at window
    simp only [BroadcastRing.push]
    rcases getElem?_concat_cases member with old | ⟨rfl, rfl⟩
    · have older := (List.getElem?_eq_some_iff.mp old).1
      have apart : index % ring.capacity ≠ ring.count % ring.capacity := by
        rw [holds.counted]
        exact mod_ne_of_window older (by omega)
      rw [Function.update_of_ne apart]
      exact holds.kept index found old (by omega)
    · rw [holds.counted, Function.update_self]

/-- An item that is not overwritten yet is the log's. -/
theorem Holds.item {ring : BroadcastRing α} {log : List α} (holds : Holds ring log) {number : Nat}
    (low : ring.oldest ≤ number) (high : number ≤ ring.count) :
    log[number - 1]? = some (ring.item number) := by
  have positive := holds.positive
  have counted := holds.counted
  have first : 1 ≤ number ∧ ring.count < number + ring.capacity := by
    unfold oldest at low
    split at low <;> omega
  have inside : number - 1 < log.length := by omega
  have found := List.getElem?_eq_getElem inside
  rw [found, BroadcastRing.item, holds.kept _ _ found (by omega)]

end BroadcastRing

end JooanW3U.Library

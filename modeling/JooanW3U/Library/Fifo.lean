import Mathlib.Data.List.Basic
import Mathlib.Data.List.Sublists

/-!
Owns plain queues with their history: what was taken in, what waits, and what came out,
each item with its place among those taken in. Main result: what came out is in the order
in which it was taken in, and nothing comes out twice.

Does not own how a queue is stored.
-/

namespace JooanW3U.Library

universe u

structure Fifo (α : Type u) where
  accepted : List α
  waiting : List (α × Nat)
  played : List (α × Nat)

namespace Fifo

variable {α : Type u}

def empty : Fifo α := ⟨[], [], []⟩

def accept (fifo : Fifo α) (items : List α) : Fifo α where
  accepted := fifo.accepted ++ items
  waiting := fifo.waiting ++ items.zipIdx fifo.accepted.length
  played := fifo.played

def dropOldest (fifo : Fifo α) (count : Nat) : Fifo α :=
  { fifo with waiting := fifo.waiting.drop count }

def keepOldest (fifo : Fifo α) (count : Nat) : Fifo α :=
  { fifo with waiting := fifo.waiting.take count }

def play (fifo : Fifo α) (count : Nat) : Fifo α where
  accepted := fifo.accepted
  waiting := fifo.waiting.drop count
  played := fifo.played ++ fifo.waiting.take count

/-- Everything that came out or waits is in its order. -/
def Ordered (fifo : Fifo α) : Prop :=
  List.Sublist (fifo.played ++ fifo.waiting) fifo.accepted.zipIdx

theorem ordered_empty : (empty : Fifo α).Ordered := List.Sublist.refl _

theorem Ordered.accept {fifo : Fifo α} (ordered : fifo.Ordered) (items : List α) :
    (fifo.accept items).Ordered := by
  unfold Ordered Fifo.accept
  rw [List.zipIdx_append, ← List.append_assoc, Nat.zero_add]
  exact List.Sublist.append ordered (List.Sublist.refl _)

theorem Ordered.dropOldest {fifo : Fifo α} (ordered : fifo.Ordered) (count : Nat) :
    (fifo.dropOldest count).Ordered :=
  (List.Sublist.append (List.Sublist.refl _) (List.drop_sublist _ _)).trans ordered

theorem Ordered.keepOldest {fifo : Fifo α} (ordered : fifo.Ordered) (count : Nat) :
    (fifo.keepOldest count).Ordered :=
  (List.Sublist.append (List.Sublist.refl _) (List.take_sublist _ _)).trans ordered

theorem Ordered.play {fifo : Fifo α} (ordered : fifo.Ordered) (count : Nat) :
    (fifo.play count).Ordered := by
  unfold Ordered Fifo.play
  rw [List.append_assoc, List.take_append_drop]
  exact ordered

/-- No item comes out twice: each place is played once, and the places go up. -/
theorem Ordered.places_ascend {fifo : Fifo α} (ordered : fifo.Ordered) :
    (fifo.played.map Prod.snd).Pairwise (· < ·) := by
  have whole : (fifo.accepted.zipIdx.map Prod.snd).Pairwise (· < ·) := by
    rw [List.zipIdx_map_snd]
    exact List.pairwise_lt_range'
  have part : List.Sublist fifo.played fifo.accepted.zipIdx :=
    (List.sublist_append_left _ _).trans ordered
  exact whole.sublist (part.map Prod.snd)

/-- The items that came out are some of those taken in, in their order. -/
theorem Ordered.played_sublist {fifo : Fifo α} (ordered : fifo.Ordered) :
    List.Sublist (fifo.played.map Prod.fst) fifo.accepted := by
  have part : List.Sublist fifo.played fifo.accepted.zipIdx :=
    (List.sublist_append_left _ _).trans ordered
  have items := part.map Prod.fst
  rwa [List.zipIdx_map_fst] at items

@[simp] theorem waiting_dropOldest (fifo : Fifo α) (count : Nat) :
    (fifo.dropOldest count).waiting = fifo.waiting.drop count := rfl

@[simp] theorem waiting_keepOldest (fifo : Fifo α) (count : Nat) :
    (fifo.keepOldest count).waiting = fifo.waiting.take count := rfl

theorem mem_of_dropOldest {fifo : Fifo α} {count : Nat} {entry : α × Nat}
    (member : entry ∈ (fifo.dropOldest count).waiting) : entry ∈ fifo.waiting :=
  List.mem_of_mem_drop member

theorem mem_of_keepOldest {fifo : Fifo α} {count : Nat} {entry : α × Nat}
    (member : entry ∈ (fifo.keepOldest count).waiting) : entry ∈ fifo.waiting :=
  List.mem_of_mem_take member

theorem length_dropOldest_le (fifo : Fifo α) (count : Nat) :
    (fifo.dropOldest count).waiting.length ≤ fifo.waiting.length :=
  (List.drop_sublist _ _).length_le

theorem length_keepOldest_le (fifo : Fifo α) (count : Nat) :
    (fifo.keepOldest count).waiting.length ≤ fifo.waiting.length :=
  (List.take_sublist _ _).length_le

theorem mem_accept {fifo : Fifo α} {items : List α} {entry : α × Nat}
    (member : entry ∈ (fifo.accept items).waiting) : entry ∈ fifo.waiting ∨ entry.1 ∈ items := by
  rcases List.mem_append.mp member with old | new
  · exact .inl old
  · exact .inr (List.fst_mem_of_mem_zipIdx new)

@[simp] theorem waiting_accept (fifo : Fifo α) (items : List α) :
    (fifo.accept items).waiting.map Prod.fst = fifo.waiting.map Prod.fst ++ items := by
  rw [accept, List.map_append, List.zipIdx_map_fst]

end Fifo

end JooanW3U.Library

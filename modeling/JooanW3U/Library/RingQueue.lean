import JooanW3U.Library.BroadcastRing

/-!
Owns queues kept in an array that wraps: the next item out is at `head`, and `count`
items follow it around the end. Main results: each operation is one on the list of the
waiting items.

Does not own what an item means, or who may put one in.
-/

namespace JooanW3U.Library

universe u

/-- A queue with room for `capacity` items; what is no longer waiting stays in its slot. -/
structure RingQueue (capacity : Nat) (α : Type u) where
  slots : Fin capacity → α
  head : Nat
  count : Nat
  headInside : head < capacity
  countInside : count ≤ capacity

namespace RingQueue

variable {α : Type u} {capacity : Nat}

/-- The slot of the item that comes out after `offset` others. -/
def slot (queue : RingQueue capacity α) (offset : Nat) : Fin capacity :=
  ⟨(queue.head + offset) % capacity, Nat.mod_lt _ (Nat.zero_lt_of_lt queue.headInside)⟩

def get (queue : RingQueue capacity α) (offset : Nat) : α := queue.slots (queue.slot offset)

/-- The items that wait, the next one out first. -/
def toList (queue : RingQueue capacity α) : List α := (List.range queue.count).map queue.get

/-- A queue with nothing waiting, its head back at the start. -/
def clear (queue : RingQueue capacity α) : RingQueue capacity α where
  slots := queue.slots
  head := 0
  count := 0
  headInside := Nat.zero_lt_of_lt queue.headInside
  countInside := Nat.zero_le _

/-- The queue without its next `items`. -/
def drop (queue : RingQueue capacity α) (items : Nat) : RingQueue capacity α where
  slots := queue.slots
  head := (queue.head + min items queue.count) % capacity
  count := queue.count - min items queue.count
  headInside := Nat.mod_lt _ (Nat.zero_lt_of_lt queue.headInside)
  countInside := Nat.le_trans (Nat.sub_le _ _) queue.countInside

/-- The queue with the last items cut off. -/
def truncate (queue : RingQueue capacity α) (items : Nat) : RingQueue capacity α where
  slots := queue.slots
  head := queue.head
  count := min items queue.count
  headInside := queue.headInside
  countInside := Nat.le_trans (Nat.min_le_right _ _) queue.countInside

/-- The loop that copies items behind those that wait. -/
def write (queue : RingQueue capacity α) : List α → Nat → (Fin capacity → α)
  | [], _ => queue.slots
  | item :: items, offset =>
      write { queue with slots := Function.update queue.slots (queue.slot offset) item } items
        (offset + 1)

/-- The queue with more items behind those that wait, for which it has room. -/
def push (queue : RingQueue capacity α) (items : List α)
    (room : queue.count + items.length ≤ capacity) : RingQueue capacity α where
  slots := queue.write items queue.count
  head := queue.head
  count := queue.count + items.length
  headInside := queue.headInside
  countInside := room

@[simp] theorem length_toList (queue : RingQueue capacity α) :
    queue.toList.length = queue.count := by
  rw [toList, List.length_map, List.length_range]

@[simp] theorem count_clear (queue : RingQueue capacity α) : queue.clear.count = 0 := rfl

@[simp] theorem count_drop (queue : RingQueue capacity α) (items : Nat) :
    (queue.drop items).count = queue.count - items := by
  show queue.count - min items queue.count = _
  omega

@[simp] theorem count_truncate (queue : RingQueue capacity α) (items : Nat) :
    (queue.truncate items).count = min items queue.count := rfl

@[simp] theorem count_push (queue : RingQueue capacity α) (items : List α)
    (room : queue.count + items.length ≤ capacity) :
    (queue.push items room).count = queue.count + items.length := rfl

@[simp] theorem toList_clear (queue : RingQueue capacity α) : queue.clear.toList = [] := rfl

theorem toList_eq_nil {queue : RingQueue capacity α} : queue.toList = [] ↔ queue.count = 0 := by
  rw [← List.length_eq_zero_iff, length_toList]

@[simp] theorem toList_truncate (queue : RingQueue capacity α) (items : Nat) :
    (queue.truncate items).toList = queue.toList.take items := by
  unfold toList
  rw [← List.map_take, List.take_range]
  rfl

@[simp] theorem toList_drop (queue : RingQueue capacity α) (items : Nat) :
    (queue.drop items).toList = queue.toList.drop items := by
  unfold toList
  rw [← List.map_drop, List.range_eq_range', List.range_eq_range', List.drop_range',
    List.range'_eq_map_range, List.range'_eq_map_range, List.map_map, List.map_map, count_drop]
  apply List.map_congr_left
  intro offset inside
  have waiting := List.mem_range.mp inside
  have all : min items queue.count = items := by omega
  simp only [Function.comp, get, slot, drop, all, Nat.mod_add_mod, Nat.zero_add, Nat.mul_one,
    Nat.add_assoc]

/-- Two offsets within one turn of the ring have two slots. -/
theorem slot_ne (queue : RingQueue capacity α) {low high : Nat} (below : low < high)
    (inside : high < capacity) : queue.slot low ≠ queue.slot high := by
  intro same
  have ends : (queue.head + low) % capacity = (queue.head + high) % capacity :=
    congrArg Fin.val same
  exact BroadcastRing.mod_ne_of_window (by omega) (by omega) ends

/-- The slots before the ones that are written stay as they are. -/
theorem write_before (queue : RingQueue capacity α) (items : List α) {offset before : Nat}
    (room : offset + items.length ≤ capacity) (earlier : before < offset) :
    queue.write items offset (queue.slot before) = queue.get before := by
  induction items generalizing queue offset with
  | nil => rfl
  | cons item items inductionHypothesis =>
      rw [List.length_cons] at room
      have rest := inductionHypothesis
        { queue with slots := Function.update queue.slots (queue.slot offset) item }
        (show offset + 1 + items.length ≤ capacity by omega) (by omega)
      have apart := queue.slot_ne earlier (show offset < capacity by omega)
      exact rest.trans (Function.update_of_ne apart _ _)

/-- The items that are written, read back in their order. -/
theorem write_read (queue : RingQueue capacity α) (items : List α) {offset : Nat}
    (room : offset + items.length ≤ capacity) :
    (List.range' offset items.length).map (fun place => queue.write items offset (queue.slot place)) =
      items := by
  induction items generalizing queue offset with
  | nil => rfl
  | cons item items inductionHypothesis =>
      rw [List.length_cons] at room ⊢
      have rest := inductionHypothesis
        { queue with slots := Function.update queue.slots (queue.slot offset) item }
        (show offset + 1 + items.length ≤ capacity by omega)
      have first := write_before
        { queue with slots := Function.update queue.slots (queue.slot offset) item } items
        (show offset + 1 + items.length ≤ capacity by omega) (Nat.lt_succ_self offset)
      rw [List.range'_succ, List.map_cons]
      exact congrArg₂ List.cons (first.trans (Function.update_self _ _ _)) rest

@[simp] theorem toList_push (queue : RingQueue capacity α) (items : List α)
    (room : queue.count + items.length ≤ capacity) :
    (queue.push items room).toList = queue.toList ++ items := by
  have split : List.range (queue.count + items.length) =
      List.range queue.count ++ List.range' queue.count items.length := by
    rw [List.range_eq_range', List.range_eq_range', ← List.range'_append_1, Nat.zero_add]
  unfold toList
  rw [count_push, split, List.map_append]
  congr 1
  · apply List.map_congr_left
    intro offset inside
    exact queue.write_before items room (List.mem_range.mp inside)
  · exact queue.write_read items room

end RingQueue

end JooanW3U.Library

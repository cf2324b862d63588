import Mathlib.Data.List.Basic

/-!
Owns forests of labelled nodes with a gap before each node and one at the end, as a first child
and a next sibling each, and the table of their nodes in the order in which they begin.

Does not own what the labels and gaps are.
-/

namespace JooanW3U.Library

universe u v

inductive Forest (Label : Type u) (Gap : Type v)
  | last (gap : Gap)
  | node (gap : Gap) (label : Label) (inner after : Forest Label Gap)
deriving Repr, DecidableEq

namespace Forest

variable {Label : Type u} {Gap : Type v}

def size : Forest Label Gap → Nat
  | last _ => 0
  | node _ _ inner after => inner.size + 1 + after.size

/-- How many nodes stand within each other. -/
def depth : Forest Label Gap → Nat
  | last _ => 0
  | node _ _ inner after => max (inner.depth + 1) after.depth

/-- There is no node. -/
def isLeaf : Forest Label Gap → Bool
  | last _ => true
  | node .. => false

def All (holds : Label → Prop) : Forest Label Gap → Prop
  | last _ => True
  | node _ label inner after => holds label ∧ inner.All holds ∧ after.All holds

/-- A node, with the place of its parent in the table. -/
structure Row (Label : Type u) (Gap : Type v) where
  parent : Option Nat
  label : Label
  inner : Forest Label Gap
deriving Repr, DecidableEq

/-- The table of a forest whose first node gets the place. -/
def rows (parent : Option Nat) (place : Nat) : Forest Label Gap → List (Row Label Gap)
  | last _ => []
  | node _ label inner after =>
      ⟨parent, label, inner⟩ ::
        (inner.rows (some place) (place + 1) ++ after.rows parent (place + 1 + inner.size))

theorem rows_length (forest : Forest Label Gap) (parent : Option Nat) (place : Nat) :
    (forest.rows parent place).length = forest.size := by
  induction forest generalizing parent place with
  | last => rfl
  | node gap label inner after innerHypothesis afterHypothesis =>
      rw [rows, List.length_cons, List.length_append, innerHypothesis, afterHypothesis, size]
      omega

end Forest

/-! ### Places in a table -/

section Table

variable {Row : Type u} {Other : Type v}

/-- The places of the rows with a property. -/
def placesOf (holds : Row → Bool) (table : List Row) : List Nat :=
  table.zipIdx.filterMap fun (row, place) => if holds row then some place else none

theorem mem_placesOf {holds : Row → Bool} {table : List Row} {place : Nat} :
    place ∈ placesOf holds table ↔ ∃ row, table[place]? = some row ∧ holds row = true := by
  rw [placesOf, List.mem_filterMap]
  constructor
  · rintro ⟨⟨row, at_⟩, listed, found⟩
    have here := List.mem_zipIdx_iff_getElem?.mp listed
    dsimp only at found here
    split at found
    · rename_i held
      cases found
      exact ⟨row, here, held⟩
    · cases found
  · rintro ⟨row, here, held⟩
    exact ⟨(row, place), List.mem_zipIdx_iff_getElem?.mpr here, if_pos held⟩

/-- Where every row is made from one of another table, the places are the same. -/
theorem placesOf_map (make : Other → Row) (holds : Row → Bool) (table : List Other) :
    placesOf holds (table.map make) = placesOf (fun row => holds (make row)) table := by
  rw [placesOf, placesOf, List.zipIdx_map, List.filterMap_map]
  rfl

/-- A first row without the property does not count. -/
theorem placesOf_drop_one {holds : Row → Bool} {first : Row} (without : holds first = false)
    (rest : List Row) :
    (((first :: rest).zipIdx.drop 1).filterMap fun (row, place) =>
      if holds row then some place else none) = placesOf holds (first :: rest) := by
  simp [placesOf, List.zipIdx_cons, without]

end Table

end JooanW3U.Library

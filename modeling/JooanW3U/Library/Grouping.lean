import Mathlib.Data.List.Basic

/-!
Owns the cutting of a list of items into groups: a new group begins at an item that opens one,
once the group before it holds an item that carries one.

Does not own what the items are.
-/

namespace JooanW3U.Library.Grouping

universe u

variable {Item : Type u} (carries opens : Item → Bool)

/-- The groups of the items that follow those of a group. -/
def groupsFrom : List Item → List Item → List (List Item)
  | group, [] => if group.isEmpty then [] else [group]
  | group, item :: rest =>
      if group.any carries && opens item then group :: groupsFrom [item] rest
      else groupsFrom (group ++ [item]) rest

def groups (items : List Item) : List (List Item) := groupsFrom carries opens [] items

variable {carries opens}

theorem groupsFrom_flatten (group items : List Item) :
    (groupsFrom carries opens group items).flatten = group ++ items := by
  induction items generalizing group with
  | nil => cases group <;> simp [groupsFrom]
  | cons item rest inductionHypothesis =>
      rw [groupsFrom]
      split
      · rw [List.flatten_cons, inductionHypothesis]
        rfl
      · rw [inductionHypothesis, List.append_assoc]
        rfl

/-- The first group begins with the items there are. -/
theorem groupsFrom_head {group items first : List Item} {later : List (List Item)}
    (cut : groupsFrom carries opens group items = first :: later) : group <+: first := by
  induction items generalizing group with
  | nil =>
      rw [groupsFrom] at cut
      split at cut
      · cases cut
      · cases cut
        exact List.prefix_rfl
  | cons item rest inductionHypothesis =>
      rw [groupsFrom] at cut
      split at cut
      · cases cut
        exact List.prefix_rfl
      · exact (List.prefix_append group [item]).trans (inductionHypothesis cut)

theorem groupsFrom_ne_nil {group : List Item} (begun : group ≠ []) (items : List Item) :
    groupsFrom carries opens group items ≠ [] := by
  induction items generalizing group with
  | nil =>
      rw [groupsFrom, if_neg (by simpa using begun)]
      exact List.cons_ne_nil _ _
  | cons item rest inductionHypothesis =>
      rw [groupsFrom]
      split
      · exact List.cons_ne_nil _ _
      · exact inductionHypothesis (List.append_ne_nil_of_left_ne_nil begun _)

/-- An item that opens a group cuts it off from a group that is carried. -/
theorem groupsFrom_eq_cons_groups {group : List Item} (carried : group.any carries = true)
    {items : List Item} (opened : ∀ item ∈ items.head?, opens item = true) :
    groupsFrom carries opens group items = group :: groups carries opens items := by
  cases items with
  | nil =>
      have begun : group ≠ [] := by
        rintro rfl
        cases carried
      rw [groupsFrom, if_neg (by simpa using begun)]
      rfl
  | cons item rest =>
      rw [groupsFrom, carried, opened item rfl]
      rfl

/-- An item that does not open a group keeps it from ending there. -/
theorem groupsFrom_ne_cons {group : List Item} {item : Item} (joins : opens item = false)
    (rest : List Item) (later : List (List Item)) :
    groupsFrom carries opens group (item :: rest) ≠ group :: later := by
  intro cut
  rw [groupsFrom, joins, Bool.and_false, if_neg Bool.false_ne_true] at cut
  have longer := (groupsFrom_head cut).length_le
  rw [List.length_append, List.length_singleton] at longer
  omega

end JooanW3U.Library.Grouping

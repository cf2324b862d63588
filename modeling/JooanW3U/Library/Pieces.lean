import Mathlib.Data.List.Basic

/-!
Owns a stream that arrives in pieces: leaving out its front, the piece that then comes
first, and the stretches of the stream that lie within one piece.

Does not own how a reader takes bytes off the stream.
-/

namespace JooanW3U.Library.Pieces

universe u

variable {α : Type u}

/-- The stream without its first `n` elements; a piece that is used up is gone. -/
def drop : Nat → List (List α) → List (List α)
  | _, [] => []
  | n, piece :: rest =>
      if n < piece.length then piece.drop n :: rest else drop (n - piece.length) rest

/-- What is left of the piece the stream stands in. -/
def first (pieces : List (List α)) : List α := (drop 0 pieces).headD []

/-- The `length` elements from `offset` on are part of one piece. -/
def Within (pieces : List (List α)) (offset length : Nat) : Prop :=
  ∃ early piece late, pieces = early ++ piece :: late ∧ early.flatten.length ≤ offset ∧
    offset + length ≤ early.flatten.length + piece.length

/-- Nothing but the elements of the stream and their order decides what `drop` leaves out. -/
@[simp] theorem flatten_drop (n : Nat) (pieces : List (List α)) :
    (drop n pieces).flatten = pieces.flatten.drop n := by
  induction pieces generalizing n with
  | nil => simp [drop]
  | cons piece rest inductionHypothesis =>
      unfold drop
      split
      · next inside =>
          rw [List.flatten_cons, List.flatten_cons,
            List.drop_append_of_le_length (Nat.le_of_lt inside)]
      · next beyond =>
          rw [inductionHypothesis, List.flatten_cons, List.drop_append,
            List.drop_eq_nil_of_le (Nat.le_of_not_lt beyond), List.nil_append]

@[simp] theorem drop_drop (m n : Nat) (pieces : List (List α)) :
    drop m (drop n pieces) = drop (n + m) pieces := by
  induction pieces generalizing n with
  | nil => simp [drop]
  | cons piece rest inductionHypothesis =>
      by_cases inside : n < piece.length
      · have opened : drop n (piece :: rest) = piece.drop n :: rest := by
          simp only [drop, if_pos inside]
        rw [opened]
        by_cases still : m < piece.length - n
        · have whole : n + m < piece.length := by omega
          simp only [drop, List.length_drop, if_pos still, if_pos whole, List.drop_drop]
        · have passed : ¬n + m < piece.length := by omega
          have same : m - (piece.length - n) = n + m - piece.length := by omega
          simp only [drop, List.length_drop, if_neg still, if_neg passed, same]
      · have passed : ¬n + m < piece.length := by omega
        have same : n - piece.length + m = n + m - piece.length := by omega
        have opened : drop n (piece :: rest) = drop (n - piece.length) rest := by
          simp only [drop, if_neg inside]
        rw [opened, inductionHypothesis, same]
        simp only [drop, if_neg passed]

theorem first_drop (n : Nat) (pieces : List (List α)) :
    first (drop n pieces) = (drop n pieces).headD [] := by
  rw [first, drop_drop, Nat.add_zero]

/-- Empty pieces are never stood in. -/
theorem first_ne_nil {pieces : List (List α)} (more : pieces.flatten ≠ []) : first pieces ≠ [] := by
  induction pieces with
  | nil => exact absurd rfl more
  | cons piece rest inductionHypothesis =>
      cases piece with
      | nil => exact inductionHypothesis more
      | cons head tail =>
          intro empty
          exact List.cons_ne_nil head tail empty

/-- The piece that comes first is the front of the stream. -/
theorem first_isPrefix (pieces : List (List α)) : first pieces <+: pieces.flatten := by
  have whole := flatten_drop 0 pieces
  rw [List.drop_zero] at whole
  rw [← whole, first]
  cases drop 0 pieces with
  | nil => exact List.nil_prefix
  | cons piece rest => exact List.prefix_append piece rest.flatten

/-- A stretch lies within one piece when the piece that stands at its start holds it all. -/
theorem within_iff {pieces : List (List α)} {offset length : Nat} (some_length : 0 < length) :
    Within pieces offset length ↔ length ≤ (first (drop offset pieces)).length := by
  rw [first_drop]
  induction pieces generalizing offset with
  | nil =>
      constructor
      · rintro ⟨early, piece, late, none_left, -⟩
        exact absurd none_left.symm (List.append_ne_nil_of_right_ne_nil _ (List.cons_ne_nil _ _))
      · intro short
        exact absurd short (Nat.not_le_of_lt some_length)
  | cons piece rest inductionHypothesis =>
      by_cases inside : offset < piece.length
      · simp only [drop, if_pos inside, List.headD_cons, List.length_drop]
        constructor
        · rintro ⟨early, other, late, split, before, fits⟩
          cases early with
          | nil =>
              have same : piece = other := (List.cons.inj split).1
              rw [← same, List.flatten_nil, List.length_nil] at fits
              omega
          | cons head early =>
              have same : piece = head := (List.cons.inj split).1
              rw [← same, List.flatten_cons, List.length_append] at before
              omega
        · intro fits
          refine ⟨[], piece, rest, rfl, Nat.zero_le _, ?_⟩
          rw [List.flatten_nil, List.length_nil]
          omega
      · simp only [drop, if_neg inside]
        rw [← inductionHypothesis]
        constructor
        · rintro ⟨early, other, late, split, before, fits⟩
          cases early with
          | nil =>
              have same : piece = other := (List.cons.inj split).1
              rw [← same, List.flatten_nil, List.length_nil] at fits
              omega
          | cons head early =>
              obtain ⟨same, split⟩ := List.cons.inj split
              rw [← same, List.flatten_cons, List.length_append] at before fits
              exact ⟨early, other, late, split, by omega, by omega⟩
        · rintro ⟨early, other, late, split, before, fits⟩
          refine ⟨piece :: early, other, late, by rw [split, List.cons_append], ?_, ?_⟩ <;>
            rw [List.flatten_cons, List.length_append] <;> omega

end JooanW3U.Library.Pieces

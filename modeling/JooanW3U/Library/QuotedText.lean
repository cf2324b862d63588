import Mathlib.Data.List.Basic
import Mathlib.Data.List.Infix

/-!
Owns texts as pieces between marks, such as the strings and the gaps of a text in
quotes. Main result: the search for a quoted word finds the first piece that is the
word, whether that piece is a string or a gap between two.

Does not own what the pieces mean.
-/

namespace JooanW3U.Library.QuotedText

universe u

variable {α : Type u}

/-- What stands behind the first occurrence of `word`. -/
def behind [DecidableEq α] (word : List α) : List α → Option (List α)
  | [] => if word = [] then some [] else none
  | c :: rest => if word <+: c :: rest then some ((c :: rest).drop word.length) else behind word rest

/-- Pieces with a mark between each two. -/
def joined (mark : α) : List (List α) → List α
  | [] => []
  | [piece] => piece
  | piece :: next :: rest => piece ++ mark :: joined mark (next :: rest)

/-- The pieces behind the first one that is `word` and has a mark behind it. -/
def behindPiece [DecidableEq α] (word : List α) : List (List α) → Option (List (List α))
  | piece :: next :: rest =>
      if piece = word then some (next :: rest) else behindPiece word (next :: rest)
  | _ => none

variable {mark : α} {word : List α}

theorem joined_cons (piece : List α) {rest : List (List α)} (more : rest ≠ []) :
    joined mark (piece :: rest) = piece ++ mark :: joined mark rest := by
  cases rest with
  | nil => exact absurd rfl more
  | cons next rest => rfl

/-- A marked word begins a marked text only if they are the same word. -/
theorem marked_prefix_iff (word_plain : mark ∉ word) {piece : List α} (piece_plain : mark ∉ piece)
    (rest : List α) : word ++ [mark] <+: piece ++ mark :: rest ↔ piece = word := by
  induction word generalizing piece with
  | nil =>
      cases piece with
      | nil => exact ⟨fun _ => rfl, fun _ => ⟨rest, rfl⟩⟩
      | cons c piece =>
          constructor
          · intro begins
            have same := (List.cons_prefix_cons.mp begins).1
            exact absurd List.mem_cons_self (same ▸ piece_plain)
          · exact nofun
  | cons c word inductionHypothesis =>
      cases piece with
      | nil =>
          constructor
          · intro begins
            have same := (List.cons_prefix_cons.mp begins).1
            exact absurd List.mem_cons_self (same ▸ word_plain)
          · exact nofun
      | cons d piece =>
          have inner := inductionHypothesis (fun listed => word_plain (List.mem_cons_of_mem _ listed))
            (fun listed => piece_plain (List.mem_cons_of_mem _ listed))
          rw [List.cons_append, List.cons_append, List.cons_prefix_cons, inner, List.cons.injEq,
            eq_comm]

variable [DecidableEq α]

theorem behindPiece_suffix {pieces rest : List (List α)}
    (found : behindPiece word pieces = some rest) : rest <:+ pieces := by
  fun_induction behindPiece word pieces with
  | case1 next rest' =>
      cases found
      exact List.suffix_cons _ _
  | case2 piece next rest' other inductionHypothesis =>
      exact (inductionHypothesis found).trans (List.suffix_cons _ _)
  | case3 => cases found

/-- Without a mark there is no quoted word. -/
theorem behind_plain {needle text : List α} (plain : mark ∉ text) :
    behind (mark :: needle) text = none := by
  induction text with
  | nil => rfl
  | cons c rest inductionHypothesis =>
      have other : ¬ mark :: needle <+: c :: rest := by
        intro begins
        have same := (List.cons_prefix_cons.mp begins).1
        exact plain (same ▸ List.mem_cons_self)
      rw [behind, if_neg other]
      exact inductionHypothesis fun listed => plain (List.mem_cons_of_mem _ listed)

/-- The search passes over what has no mark in it. -/
theorem behind_skip {needle start : List α} (plain : mark ∉ start) (rest : List α) :
    behind (mark :: needle) (start ++ rest) = behind (mark :: needle) rest := by
  induction start with
  | nil => rfl
  | cons c start inductionHypothesis =>
      have other : ¬ mark :: needle <+: c :: (start ++ rest) := by
        intro begins
        have same := (List.cons_prefix_cons.mp begins).1
        exact plain (same ▸ List.mem_cons_self)
      rw [List.cons_append, behind, if_neg other]
      exact inductionHypothesis fun listed => plain (List.mem_cons_of_mem _ listed)

/-- The quoted word is found behind the first piece that is the word. -/
theorem behind_joined (word_plain : mark ∉ word) {first : List α} (first_plain : mark ∉ first)
    {pieces : List (List α)} (plain : ∀ piece ∈ pieces, mark ∉ piece) :
    behind (mark :: (word ++ [mark])) (joined mark (first :: pieces)) =
      (behindPiece word pieces).map (joined mark) := by
  induction pieces generalizing first with
  | nil => exact behind_plain first_plain
  | cons piece rest inductionHypothesis =>
      have piece_plain := plain piece List.mem_cons_self
      have later := inductionHypothesis piece_plain
        fun other listed => plain other (List.mem_cons_of_mem _ listed)
      rw [joined_cons first (List.cons_ne_nil _ _), behind_skip first_plain, behind]
      cases rest with
      | nil =>
          have short : ¬ mark :: (word ++ [mark]) <+: mark :: joined mark [piece] := by
            intro begins
            have inner := (List.cons_prefix_cons.mp begins).2
            exact piece_plain (inner.subset (List.mem_append_right _ List.mem_cons_self))
          rw [if_neg short]
          exact later
      | cons next rest =>
          have begins := marked_prefix_iff word_plain piece_plain (joined mark (next :: rest))
          rw [joined_cons piece (List.cons_ne_nil _ _)] at later ⊢
          rw [behindPiece]
          by_cases same : piece = word
          · rw [if_pos (List.cons_prefix_cons.mpr ⟨rfl, begins.mpr same⟩), if_pos same, same]
            simp
          · rw [if_neg fun both => same (begins.mp (List.cons_prefix_cons.mp both).2), if_neg same]
            exact later

end JooanW3U.Library.QuotedText

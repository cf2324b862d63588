import Mathlib.Data.List.DropRight

/-!
Owns reading text line by line into a buffer of bounded size, the lines of a text, and
trimming: lines that were written are read back whole, and a text without margins is its
own trimming.

Does not own what a line says.
-/

namespace JooanW3U.Library.Lines

universe u

variable {α : Type u} [DecidableEq α]

/-- At most `limit` items, up to and with the first `mark`, and what follows them. -/
def takeLine (mark : α) : Nat → List α → List α × List α
  | 0, text => ([], text)
  | _ + 1, [] => ([], [])
  | limit + 1, c :: rest =>
      if c = mark then ([c], rest)
      else
        let (line, after) := takeLine mark limit rest
        (c :: line, after)

theorem takeLine_append (mark : α) (limit : Nat) (text : List α) :
    (takeLine mark limit text).1 ++ (takeLine mark limit text).2 = text := by
  induction limit generalizing text with
  | zero => rfl
  | succ limit inductionHypothesis =>
      cases text with
      | nil => rfl
      | cons c rest =>
          have whole := inductionHypothesis rest
          unfold takeLine
          split
          · rfl
          · simp only [List.cons_append, whole]

/-- A line that fits is taken with its mark and nothing after it. -/
theorem takeLine_line {mark : α} {line : List α} (unmarked : mark ∉ line) {limit : Nat}
    (fits : line.length < limit) (rest : List α) :
    takeLine mark limit (line ++ mark :: rest) = (line ++ [mark], rest) := by
  induction line generalizing limit with
  | nil =>
      obtain ⟨limit, rfl⟩ := Nat.exists_eq_add_of_lt fits
      simp [takeLine]
  | cons c line inductionHypothesis =>
      obtain ⟨other, unmarked⟩ := List.ne_and_not_mem_of_not_mem_cons unmarked
      cases limit with
      | zero => exact absurd fits (Nat.not_lt_zero _)
      | succ limit =>
          have taken := inductionHypothesis unmarked (Nat.lt_of_succ_lt_succ fits)
          simp only [List.cons_append, takeLine, if_neg (Ne.symm other), taken]

/-- Something is taken while something is left. -/
theorem takeLine_shorter (mark : α) (limit : Nat) {text : List α} (more : text ≠ []) :
    (takeLine mark (limit + 1) text).2.length < text.length := by
  have whole := congrArg List.length (takeLine_append mark (limit + 1) text)
  cases text with
  | nil => exact absurd rfl more
  | cons c rest =>
      have some_taken : 0 < (takeLine mark (limit + 1) (c :: rest)).1.length := by
        unfold takeLine
        split <;> simp
      simp only [List.length_append] at whole
      omega

/-! ### All the lines -/

/-- The lines of a text behind what is read of the first; the last one may lack its mark. -/
def linesFrom (mark : α) : List α → List α → List (List α)
  | line, [] => if line = [] then [] else [line]
  | line, c :: rest =>
      if c = mark then line :: linesFrom mark [] rest else linesFrom mark (line ++ [c]) rest

def lines (mark : α) (text : List α) : List (List α) := linesFrom mark [] text

/-- Lines written one after another, each with its mark. -/
def written (mark : α) (lines : List (List α)) : List α := lines.flatMap fun line => line ++ [mark]

theorem linesFrom_line {mark : α} {line : List α} (unmarked : mark ∉ line) (start rest : List α) :
    linesFrom mark start (line ++ mark :: rest) = (start ++ line) :: linesFrom mark [] rest := by
  induction line generalizing start with
  | nil => rw [List.nil_append, linesFrom, if_pos rfl, List.append_nil]
  | cons c line inductionHypothesis =>
      obtain ⟨other, unmarked⟩ := List.ne_and_not_mem_of_not_mem_cons unmarked
      rw [List.cons_append, linesFrom, if_neg (Ne.symm other), inductionHypothesis unmarked,
        List.append_assoc, List.singleton_append]

/-- What is written is read back, whatever follows. -/
theorem lines_written {mark : α} {ls : List (List α)} (unmarked : ∀ line ∈ ls, mark ∉ line)
    (rest : List α) : lines mark (written mark ls ++ rest) = ls ++ lines mark rest := by
  induction ls with
  | nil => rfl
  | cons line ls inductionHypothesis =>
      have others := inductionHypothesis fun other listed =>
        unmarked other (List.mem_cons_of_mem _ listed)
      have first : written mark (line :: ls) ++ rest = line ++ mark :: (written mark ls ++ rest) := by
        simp [written]
      rw [first, lines, linesFrom_line (unmarked line List.mem_cons_self), List.nil_append,
        List.cons_append]
      exact congrArg (line :: ·) others

theorem lines_of_written {mark : α} {ls : List (List α)} (unmarked : ∀ line ∈ ls, mark ∉ line) :
    lines mark (written mark ls) = ls := by
  have whole := lines_written unmarked []
  rw [List.append_nil] at whole
  exact whole.trans (List.append_nil ls)

/-! ### Margins -/

variable (space : α → Bool)

/-- The text without the `space` at its ends. -/
def trim (text : List α) : List α := (text.dropWhile space).rdropWhile space

omit [DecidableEq α] in
/-- A text that neither starts nor ends with `space` is its own trimming. -/
theorem trim_bare {text : List α} (head : text.head?.any space = false)
    (last : text.getLast?.any space = false) : trim space text = text := by
  have left : text.dropWhile space = text := by
    cases text with
    | nil => rfl
    | cons c rest =>
        have bare : ¬space c = true := by simpa using head
        exact List.dropWhile_cons_of_neg bare
  rw [trim, left]
  cases text using List.reverseRecOn with
  | nil => rfl
  | append_singleton init c =>
      have bare : ¬space c = true := by simpa using last
      exact List.rdropWhile_concat_neg space init c bare

omit [DecidableEq α] in
/-- The space after a text is trimmed with it. -/
theorem trim_concat {text : List α} (head : text.head?.any space = false) (more : text ≠ []) {c : α}
    (isSpace : space c = true) (last : text.getLast?.any space = false) :
    trim space (text ++ [c]) = text := by
  have bare : trim space text = text := trim_bare space head last
  cases text with
  | nil => exact absurd rfl more
  | cons first rest =>
      have opens : ¬space first = true := by simpa using head
      rw [trim, List.dropWhile_cons_of_neg opens] at bare
      rw [trim, List.cons_append, List.dropWhile_cons_of_neg opens, ← List.cons_append,
        List.rdropWhile_concat_pos space _ c isSpace]
      exact bare

end JooanW3U.Library.Lines

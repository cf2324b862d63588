import Mathlib.Logic.Function.Basic

/-!
Owns a process's table of file descriptors, with the POSIX calls that change it, and
label tables kept beside it: when every descriptor carries the label of its file.

Does not own what files or labels are, nor which free number an operating system chooses.
-/

namespace JooanW3U.Library

universe u v

/-- What each descriptor refers to, if it is open. -/
abbrev Descriptors (File : Type u) : Type u :=
  Int → Option File

namespace Descriptors

variable {File : Type u}

/-- A number that the system can choose for a new descriptor. -/
def Free (table : Descriptors File) (limit descriptor : Int) : Prop :=
  0 ≤ descriptor ∧ descriptor < limit ∧ table descriptor = none

instance (table : Descriptors File) (limit descriptor : Int) :
    Decidable (Free table limit descriptor) :=
  have : Decidable (table descriptor = none) := decidable_of_iff _ Option.isNone_iff_eq_none
  inferInstanceAs (Decidable (_ ∧ _ ∧ _))

def put (table : Descriptors File) (descriptor : Int) (file : Option File) : Descriptors File :=
  Function.update table descriptor file

/-- A new descriptor for the file: the chosen number, if it is free, or a failure. -/
def install (limit : Int) (file : File) (choice : Option Int) (table : Descriptors File) :
    Option Int × Descriptors File :=
  match choice with
  | none => (none, table)
  | some descriptor =>
      if Free table limit descriptor then (some descriptor, table.put descriptor (some file))
      else (none, table)

/-- The number is free again, whatever the call returns. -/
def close (descriptor : Int) (table : Descriptors File) : Descriptors File :=
  table.put descriptor none

def dup (limit : Int) (descriptor : Int) (choice : Option Int) (table : Descriptors File) :
    Option Int × Descriptors File :=
  match table descriptor with
  | none => (none, table)
  | some file => install limit file choice table

/-- A destination that is open is closed first, the source itself is left alone. -/
def dup2 (limit : Int) (source destination : Int) (succeeds : Bool) (table : Descriptors File) :
    Option Int × Descriptors File :=
  match table source with
  | none => (none, table)
  | some file =>
      if source = destination then (some destination, table)
      else if succeeds ∧ 0 ≤ destination ∧ destination < limit then
        (some destination, table.put destination (some file))
      else (none, table)

/-- Unlike `dup2`, equal numbers are an error. -/
def dup3 (limit : Int) (source destination : Int) (succeeds : Bool) (table : Descriptors File) :
    Option Int × Descriptors File :=
  if source = destination then (none, table) else dup2 limit source destination succeeds table

/-! ## Labels -/

section Labels

variable {Label : Type v}

/-- Each descriptor carries its file's label, and one that is closed carries none. -/
def Labelled (blank : Label) (label : File → Label) (labels : Int → Label)
    (table : Descriptors File) : Prop :=
  ∀ descriptor, labels descriptor = (table descriptor).elim blank label

variable {blank : Label} {label : File → Label} {labels : Int → Label} {table : Descriptors File}

theorem Labelled.put (labelled : Labelled blank label labels table) (descriptor : Int)
    (file : Option File) :
    Labelled blank label (Function.update labels descriptor (file.elim blank label))
      (table.put descriptor file) := by
  intro other
  unfold Descriptors.put
  by_cases same : other = descriptor
  · rw [same, Function.update_self, Function.update_self]
  · rw [Function.update_of_ne same, Function.update_of_ne same, labelled]

/-- A file without a label goes where no label is. -/
theorem Labelled.put_blank (labelled : Labelled blank label labels table) {descriptor : Int}
    (free : table descriptor = none) {file : File} (plain : label file = blank) :
    Labelled blank label labels (table.put descriptor (some file)) := by
  have same : Function.update labels descriptor ((some file).elim blank label) = labels := by
    show Function.update labels descriptor (label file) = labels
    have before : labels descriptor = blank := by
      rw [labelled, free]
      rfl
    rw [plain, ← before, Function.update_eq_self]
  have placed := labelled.put descriptor (some file)
  rwa [same] at placed

end Labels

end Descriptors

end JooanW3U.Library

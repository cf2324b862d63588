import Mathlib.Logic.Function.Basic

/-!
Owns directories of regular files: exclusive creation, writing, renaming and
unlinking by name, and what each leaves at every other name.

Does not own open descriptors, permissions or what a power cut does to data that
was not synchronized.
-/

namespace JooanW3U.Library

universe u v

abbrev Directory (Name : Type u) (Content : Type v) := Name → Option Content

namespace Directory

variable {Name : Type u} {Content : Type v} [DecidableEq Name]

def put (directory : Directory Name Content) (name : Name) (content : Content) :
    Directory Name Content :=
  Function.update directory name (some content)

def unlink (directory : Directory Name Content) (name : Name) : Directory Name Content :=
  Function.update directory name none

/-- Creation that refuses a name in use. -/
def createExclusive (directory : Directory Name Content) (name : Name) (empty : Content) :
    Option (Directory Name Content) :=
  match directory name with
  | some _ => none
  | none => some (directory.put name empty)

/-- The file moves to the new name, over whatever had it. -/
def rename (directory : Directory Name Content) (old new : Name) :
    Option (Directory Name Content) :=
  match directory old with
  | none => none
  | some content => some ((directory.unlink old).put new content)

variable {directory : Directory Name Content} {name other : Name} {content : Content}

@[simp] theorem put_same : directory.put name content name = some content :=
  Function.update_self ..

theorem put_other (different : other ≠ name) : directory.put name content other = directory other :=
  Function.update_of_ne different ..

@[simp] theorem unlink_same : directory.unlink name name = none :=
  Function.update_self ..

theorem unlink_other (different : other ≠ name) : directory.unlink name other = directory other :=
  Function.update_of_ne different ..

theorem createExclusive_free {empty : Content} (free : directory name = none) :
    directory.createExclusive name empty = some (directory.put name empty) := by
  rw [createExclusive, free]

theorem createExclusive_taken {empty : Content} (taken : directory name = some content) :
    directory.createExclusive name empty = none := by
  rw [createExclusive, taken]

theorem rename_some {old new : Name} (source : directory old = some content) :
    directory.rename old new = some ((directory.unlink old).put new content) := by
  rw [rename, source]

end Directory

end JooanW3U.Library

import JooanW3U.Library.Directory

/-!
Owns `jipc_atomic_file`: a file is written under a name of its own and renamed over the
one it replaces. Main result: what the path holds afterwards, by whether the rename was
reached, and what the call reports.

Does not own the directories of the path or a power cut.
-/

namespace JooanW3U.Media

open JooanW3U.Library

abbrev Path := List Char

abbrev Disk := Directory Path (List Char)

/-- What the kernel answers to the calls of `jipc_atomic_file`. -/
structure FileCalls where
  /-- The six characters `mkstemp` chose, if it made the file. -/
  mkstemp : Option (List Char)
  fchmod : Bool
  /-- The bytes that were written before `write` failed, if it did. -/
  writeFails : Option Nat
  fsync : Bool
  close : Bool
  rename : Bool
  unlink : Bool
  parentOpen : Bool
  parentFsync : Bool
  deriving Repr, DecidableEq

namespace FileCalls

/-- The temporary file was made, written and renamed. -/
def renames (calls : FileCalls) : Bool :=
  calls.fchmod && calls.writeFails.isNone && calls.fsync && calls.close && calls.rename

/-- What the temporary file holds when it is closed. -/
def content (calls : FileCalls) (data : List Char) : List Char :=
  if calls.fchmod = true then calls.writeFails.elim data data.take else []

/-- The directory of the path is opened and synchronized. -/
def settles (path : Path) (calls : FileCalls) : Bool :=
  decide (path.length < 1024) && calls.parentOpen && calls.parentFsync

end FileCalls

def temporaryName (path : Path) (suffix : List Char) : Path := path ++ ".tmp.".toList ++ suffix

def jipc_atomic_file (path : Path) (data : List Char) (calls : FileCalls) (disk : Disk) :
    Bool × Disk :=
  if 1100 ≤ (temporaryName path "XXXXXX".toList).length then (false, disk)
  else
    match calls.mkstemp with
    | none => (false, disk)
    | some suffix =>
        let temporary := temporaryName path suffix
        -- A name in use is not what `mkstemp` chooses.
        match disk.createExclusive temporary [] with
        | none => (false, disk)
        | some disk =>
            let disk := disk.put temporary (calls.content data)
            let moved := if calls.renames = true then disk.rename temporary path else none
            match moved with
            | none => (false, if calls.unlink = true then disk.unlink temporary else disk)
            | some disk => (calls.settles path, disk)

variable {path : Path} {data : List Char} {calls : FileCalls} {disk : Disk}

theorem temporaryName_ne (path : Path) (suffix : List Char) : path ≠ temporaryName path suffix := by
  intro same
  have length := congrArg List.length same
  have mark : ".tmp.".toList.length = 5 := rfl
  simp only [temporaryName, List.length_append, mark] at length
  omega

/-- The call comes as far as the rename, and that succeeds. -/
def replaces (path : Path) (calls : FileCalls) (disk : Disk) : Bool :=
  decide ((temporaryName path "XXXXXX".toList).length < 1100) &&
    calls.mkstemp.any (fun suffix => (disk (temporaryName path suffix)).isNone) && calls.renames

/-- A call that gets past its rename leaves the data at the path, and reports how the
directory fared. -/
theorem jipc_atomic_file_replaces (replaced : replaces path calls disk = true) :
    (jipc_atomic_file path data calls disk).2 path = some data ∧
      (jipc_atomic_file path data calls disk).1 = calls.settles path := by
  simp only [replaces, Bool.and_eq_true, decide_eq_true_eq, Option.any_eq_true] at replaced
  obtain ⟨⟨short, suffix, made, free⟩, renames⟩ := replaced
  have fits : ¬1100 ≤ (temporaryName path "XXXXXX".toList).length := by omega
  have whole : calls.content data = data := by
    simp only [FileCalls.renames, Bool.and_eq_true, Option.isNone_iff_eq_none] at renames
    simp only [FileCalls.content, renames, if_true, Option.elim_none]
  simp only [jipc_atomic_file, if_neg fits, made,
    Directory.createExclusive_free (Option.isNone_iff_eq_none.mp free), if_pos renames, whole,
    Directory.rename_some Directory.put_same, Directory.put_same, and_self]

/-- Any other call fails and leaves the path as it was. -/
theorem jipc_atomic_file_keeps (kept : replaces path calls disk = false) :
    (jipc_atomic_file path data calls disk).2 path = disk path ∧
      (jipc_atomic_file path data calls disk).1 = false := by
  unfold jipc_atomic_file
  by_cases long : 1100 ≤ (temporaryName path "XXXXXX".toList).length
  · rw [if_pos long]
    exact ⟨rfl, rfl⟩
  rw [if_neg long]
  split
  · exact ⟨rfl, rfl⟩
  · next suffix made =>
      have other := temporaryName_ne path suffix
      cases free : disk (temporaryName path suffix) with
      | some content =>
          simp only [Directory.createExclusive_taken free, and_self]
      | none =>
          have stuck : ¬calls.renames = true := by
            intro renames
            have short : (temporaryName path "XXXXXX".toList).length < 1100 := by omega
            simp only [replaces, short, decide_true, made, Option.any_some, free, Option.isNone_none,
              renames, Bool.and_self, Bool.true_eq_false] at kept
          simp only [Directory.createExclusive_free free, if_neg stuck]
          refine ⟨?_, trivial⟩
          split
          · rw [Directory.unlink_other other, Directory.put_other other, Directory.put_other other]
          · rw [Directory.put_other other, Directory.put_other other]

end JooanW3U.Media

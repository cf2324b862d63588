import Mathlib.Data.List.DropRight
import Mathlib.Data.List.Infix

/-!
Owns the three files a boot of the media layer reads, `boot-handoff.sh`, `camera.ini`
and `deployment.env`, the release they name, and how `apply-media-update.sh` stages
them for another release.

A file is the list of its lines. Does not own the checks of the package.
-/

namespace JooanW3U.Media.StagedRelease

abbrev Line := List Char

abbrev File := List Line

inductive Name
  | bootHandoff
  | cameraIni
  | deploymentEnv
deriving Repr, DecidableEq

/-! ### What `sed` and the shell do to a line -/

/-- `s/^key//p`. -/
def dropKey (key line : Line) : Option Line :=
  if key <+: line then some (line.drop key.length) else none

/-- `sed -n s/^key//p`. -/
def values (key : Line) (file : File) : List Line := file.filterMap (dropKey key)

/-- `s#^key.*#key value#`, without the space. -/
def setValue (key value line : Line) : Line := if key <+: line then key ++ value else line

/-- `s#old#new#g` for texts without special characters; the number is how much of an
occurrence is still to be passed over. -/
def replaceAll (old new : Line) : Nat → Line → Line
  | _, [] => []
  | passed + 1, _ :: rest => replaceAll old new passed rest
  | 0, c :: rest =>
      if old <+: c :: rest then new ++ replaceAll old new (old.length - 1) rest
      else c :: replaceAll old new 0 rest

/-- `${path%/*}`. -/
def directory (path : Line) : Line :=
  if '/' ∈ path then (path.rdropWhile (· ≠ '/')).dropLast else path

/-- `${path##*/}`. -/
def lastPart (path : Line) : Line := path.rtakeWhile (· ≠ '/')

/-! ### The release a file names -/

/-- The directories of the releases a file names: those of the libraries `camera.ini` has
loaded, and what `deployment.env` sets `JIPC_RELEASE` to. `boot-handoff.sh` reads that
variable and names no release itself. -/
def named : Name → File → List Line
  | .bootHandoff, _ => []
  | .cameraIni, file => (values "libimp=".toList file).map directory
  | .deploymentEnv, file => values "JIPC_RELEASE=".toList file

/-- The fields of the release manifest that are staged. -/
structure Package where
  release : Line
  app : Line
  imp : Line
  atomic : Line
  impSha256 : Line
deriving Repr, DecidableEq

/-- `new=${old%/*}/$release`. -/
def newRelease (old : Line) (package : Package) : Line := directory old ++ '/' :: package.release

/-- The line of `deployment.env` for the new release. -/
def stageLine (new : Line) (package : Package) (line : Line) : Line :=
  setValue "JIPC_LIBIMP_SHA256=".toList package.impSha256
    (setValue "JIPC_ATOMIC_MD5=".toList package.atomic
      (setValue "JIPC_IMP_MD5=".toList package.imp
        (setValue "JIPC_APP_MD5=".toList package.app
          (setValue "JIPC_RELEASE=".toList new line))))

/-- The `.next` files of `apply-media-update.sh`. -/
def stage (old : Line) (package : Package) (before : Name → File) : Name → File
  | .bootHandoff => before .bootHandoff
  | .cameraIni =>
      (before .cameraIni).map (replaceAll (old ++ ['/']) (newRelease old package ++ ['/']) 0)
  | .deploymentEnv =>
      (before .deploymentEnv).map (stageLine (newRelease old package) package)

/-! ### Values of a line -/

theorem dropKey_append (key value : Line) : dropKey key (key ++ value) = some value := by
  rw [dropKey, if_pos (List.prefix_append key value), List.drop_left]

theorem dropKey_eq_some {key line value : Line} :
    dropKey key line = some value ↔ line = key ++ value := by
  constructor
  · intro found
    unfold dropKey at found
    split at found
    · rename_i starts
      obtain ⟨rest, rfl⟩ := starts
      rw [List.drop_left] at found
      rw [Option.some.inj found]
    · cases found
  · rintro rfl
    exact dropKey_append key value

/-- Setting a key sets its value where the line has one. -/
theorem dropKey_setValue (key value line : Line) :
    dropKey key (setValue key value line) = (dropKey key line).map fun _ => value := by
  unfold setValue
  split
  · rename_i starts
    rw [dropKey_append, dropKey, if_pos starts, Option.map_some]
  · rename_i other
    rw [dropKey, if_neg other, Option.map_none]

/-- Setting a key leaves the value of a key that neither begins with it nor begins it. -/
theorem dropKey_setValue_ne {key other : Line} (value line : Line) (apart : ¬key <+: other)
    (apart' : ¬other <+: key) : dropKey key (setValue other value line) = dropKey key line := by
  unfold setValue
  split
  · rename_i starts
    have missing : ∀ rest, other <+: rest → ¬key <+: rest := by
      intro rest one two
      cases List.prefix_or_prefix_of_prefix one two with
      | inl shorter => exact apart' shorter
      | inr longer => exact apart longer
    rw [dropKey, dropKey, if_neg (missing _ starts),
      if_neg (missing _ (List.prefix_append other value))]
  · rfl

theorem values_stageLine (new : Line) (package : Package) (file : File) :
    values "JIPC_RELEASE=".toList (file.map (stageLine new package)) =
      (values "JIPC_RELEASE=".toList file).map fun _ => new := by
  unfold values
  rw [List.filterMap_map, List.map_filterMap]
  congr 1
  funext line
  unfold stageLine
  rw [Function.comp_apply, dropKey_setValue_ne _ _ (by decide) (by decide),
    dropKey_setValue_ne _ _ (by decide) (by decide),
    dropKey_setValue_ne _ _ (by decide) (by decide),
    dropKey_setValue_ne _ _ (by decide) (by decide), dropKey_setValue]

/-! ### Replaced paths -/

section Replaced

variable {old new : Line}

/-- Paths are absolute, so a replacement leaves what stands before the first slash. -/
theorem dropKey_replaceAll {key : Line} (relative : '/' ∉ key) (oldRoot : old.head? = some '/')
    (newRoot : new.head? = some '/') (line : Line) :
    dropKey key (replaceAll old new 0 line) = (dropKey key line).map (replaceAll old new 0) := by
  induction key generalizing line with
  | nil => rfl
  | cons k key inductionHypothesis =>
      have notSlash : '/' ≠ k := fun same => relative (same ▸ List.mem_cons_self)
      have later : '/' ∉ key := fun member => relative (List.mem_cons_of_mem k member)
      cases line with
      | nil => rfl
      | cons c rest =>
          rw [replaceAll]
          split
          · rename_i starts
            -- both the line and what replaces its beginning start with a slash
            have opens : c = '/' := by
              cases old with
              | nil => cases oldRoot
              | cons o old =>
                  rw [List.head?_cons, Option.some.injEq] at oldRoot
                  rw [← (List.cons_prefix_cons.mp starts).1, oldRoot]
            have missed : ¬(k :: key) <+: c :: rest := by
              intro same
              exact notSlash (((List.cons_prefix_cons.mp same).1.trans opens).symm)
            rw [dropKey, dropKey, if_neg missed, if_neg, Option.map_none]
            intro same
            cases new with
            | nil => cases newRoot
            | cons n new =>
                rw [List.head?_cons, Option.some.injEq] at newRoot
                rw [List.cons_append] at same
                exact notSlash (((List.cons_prefix_cons.mp same).1.trans newRoot).symm)
          · have step := inductionHypothesis later rest
            unfold dropKey at step ⊢
            simp only [List.cons_prefix_cons, List.length_cons, List.drop_succ_cons]
            by_cases same : k = c
            · simp only [same, true_and]
              exact step
            · simp only [same, false_and, if_false, Option.map_none]

/-- Nothing is replaced in a text without a slash. -/
theorem replaceAll_relative (oldRoot : old.head? = some '/') {text : Line} (bare : '/' ∉ text) :
    replaceAll old new 0 text = text := by
  induction text with
  | nil => rfl
  | cons c rest inductionHypothesis =>
      have missed : ¬old <+: c :: rest := by
        intro starts
        have inside : '/' ∈ old := List.mem_of_head? oldRoot
        exact bare (starts.subset inside)
      rw [replaceAll, if_neg missed, inductionHypothesis fun member => bare (List.mem_cons_of_mem c member)]

theorem replaceAll_passed (passed text : Line) :
    replaceAll old new passed.length (passed ++ text) = replaceAll old new 0 text := by
  induction passed with
  | nil => rfl
  | cons _ passed inductionHypothesis => exact inductionHypothesis

/-- An occurrence at the beginning is replaced. -/
theorem replaceAll_occurrence (oldRoot : old.head? = some '/') (text : Line) :
    replaceAll old new 0 (old ++ text) = new ++ replaceAll old new 0 text := by
  cases old with
  | nil => cases oldRoot
  | cons o old =>
      have starts : o :: old <+: o :: (old ++ text) := List.prefix_append (o :: old) text
      rw [List.cons_append, replaceAll, if_pos starts, List.length_cons, Nat.add_sub_cancel,
        replaceAll_passed]

end Replaced

/-! ### Directories -/

theorem rdropWhile_slash {file : Line} (bare : '/' ∉ file) (path : Line) :
    (path ++ '/' :: file).rdropWhile (fun c => decide (c ≠ '/')) = path ++ ['/'] := by
  induction file using List.reverseRecOn with
  | nil => exact List.rdropWhile_concat_neg _ path '/' (by decide)
  | append_singleton file c inductionHypothesis =>
      have other : c ≠ '/' := fun same => bare (same ▸ List.mem_append_right file List.mem_cons_self)
      have earlier : '/' ∉ file := fun member => bare (List.mem_append_left _ member)
      rw [← List.cons_append, ← List.append_assoc,
        List.rdropWhile_concat_pos _ _ c (by exact decide_eq_true other)]
      exact inductionHypothesis earlier

theorem directory_slash {file : Line} (bare : '/' ∉ file) (path : Line) :
    directory (path ++ '/' :: file) = path := by
  rw [directory, if_pos (List.mem_append_right path List.mem_cons_self), rdropWhile_slash bare,
    List.dropLast_concat]

/-- A path whose directory begins with a slash is that directory, a slash and a name. -/
theorem eq_of_directory {path parent : Line} (root : parent.head? = some '/')
    (same : directory path = parent) :
    ∃ file, '/' ∉ file ∧ path = parent ++ '/' :: file := by
  have inside : '/' ∈ path := by
    by_contra bare
    rw [directory, if_neg bare] at same
    exact bare (same ▸ List.mem_of_head? root)
  obtain ⟨reversed, rest, apart, bare⟩ := List.eq_append_cons_of_mem (List.mem_reverse.mpr inside)
  have whole : path = rest.reverse ++ '/' :: reversed.reverse := by
    rw [← List.reverse_reverse path, apart]
    simp
  have bareName : '/' ∉ reversed.reverse := fun member => bare (List.mem_reverse.mp member)
  rw [whole, directory_slash bareName] at same
  exact ⟨reversed.reverse, bareName, by rw [whole, same]⟩

theorem lastPart_slash {file : Line} (bare : '/' ∉ file) (path : Line) :
    lastPart (path ++ '/' :: file) = file := by
  have split : (path ++ '/' :: file).rdropWhile (fun c => decide (c ≠ '/')) ++
      lastPart (path ++ '/' :: file) = path ++ '/' :: file := List.rdropWhile_append_rtakeWhile
  rw [rdropWhile_slash bare, List.append_assoc, List.append_right_inj] at split
  exact (List.cons.inj split).2

theorem directory_root {path : Line} (root : path.head? = some '/') :
    (directory path ++ ['/']).head? = some '/' := by
  cases path with
  | nil => cases root
  | cons c rest =>
      rw [List.head?_cons, Option.some.injEq] at root
      subst root
      rw [directory, if_pos List.mem_cons_self]
      have front := List.rdropWhile_prefix (fun c => decide (c ≠ '/')) ('/' :: rest)
      cases kept : List.rdropWhile (fun c => decide (c ≠ '/')) ('/' :: rest) with
      | nil => rfl
      | cons first more =>
          rw [kept] at front
          cases more with
          | nil => rfl
          | cons second more =>
              rw [(List.cons_prefix_cons.mp front).1]
              rfl

/-! ### What the staged files name -/

section Staged

variable {old : Line} {package : Package} {before : Name → File}

theorem newRelease_root (root : old.head? = some '/') :
    (newRelease old package).head? = some '/' := by
  have opens := directory_root root
  unfold newRelease
  cases parent : directory old with
  | nil => rfl
  | cons c rest =>
      rw [parent] at opens
      exact opens

theorem newRelease_ne (bare : '/' ∉ package.release) (other : lastPart old ≠ package.release) :
    newRelease old package ≠ old := by
  intro same
  rw [← same, newRelease, lastPart_slash bare] at other
  exact other rfl

/-- The staged `deployment.env` sets the new release wherever the old one was set. -/
theorem named_stage_deploymentEnv :
    named .deploymentEnv (stage old package before .deploymentEnv) =
      (named .deploymentEnv (before .deploymentEnv)).map fun _ => newRelease old package :=
  values_stageLine (newRelease old package) package (before .deploymentEnv)

/-- The staged `camera.ini` has its libraries in the new release where it had them in the
old one. -/
theorem named_stage_cameraIni (root : old.head? = some '/')
    (runs : ∀ release ∈ named .cameraIni (before .cameraIni), release = old) :
    named .cameraIni (stage old package before .cameraIni) =
      (named .cameraIni (before .cameraIni)).map fun _ => newRelease old package := by
  have oldRoot : (old ++ ['/']).head? = some '/' := by
    rw [List.head?_append, root]
    rfl
  have newRoot : (newRelease old package ++ ['/']).head? = some '/' := by
    rw [List.head?_append, newRelease_root root]
    rfl
  simp only [named, values, stage] at *
  rw [List.filterMap_map, List.map_filterMap, List.map_filterMap, List.map_filterMap]
  apply List.filterMap_congr
  intro line member
  rw [Function.comp_apply, dropKey_replaceAll (by decide) oldRoot newRoot]
  cases found : dropKey "libimp=".toList line with
  | none => rfl
  | some path =>
      have inOld : directory path = old :=
        runs _ (List.mem_map_of_mem (List.mem_filterMap.mpr ⟨line, member, found⟩))
      obtain ⟨file, bare, whole⟩ := eq_of_directory root inOld
      have moved : replaceAll (old ++ ['/']) (newRelease old package ++ ['/']) 0
          ((old ++ ['/']) ++ file) = (newRelease old package ++ ['/']) ++ file := by
        rw [replaceAll_occurrence oldRoot, replaceAll_relative oldRoot bare]
      rw [List.append_assoc, List.append_assoc, List.singleton_append] at moved
      simp only [Option.map_some, whole, moved, directory_slash bare]

end Staged

end JooanW3U.Media.StagedRelease

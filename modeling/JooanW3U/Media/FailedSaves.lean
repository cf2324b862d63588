import JooanW3U.Media.AtomicFile
import JooanW3U.Media.Config
import JooanW3U.Media.PresetCatalogue

/-!
Owns the changes that are saved when they are made: the preset operations, the
configuration patch and the recording switch, each with its rollback, over
`jipc_atomic_file`. Main result: a failed change leaves memory and file as they were
exactly where it did not fail behind its rename.

Does not own what the changes do while they succeed.
-/

namespace JooanW3U.Media

open JooanW3U.Library Platform

/-- The parts of `jipc_app` that are saved, and the disk. `presetsPath` is the path of the
platform's state; `native` is an environment that asks for the native encoder. -/
structure SavedState where
  machine : Machine
  presetsPath : Path
  native : Bool
  config : Config
  record_active : Bool
  record_error : String
  restart : Bool
  disk : Disk

inductive Change
  /-- `jipc_platform_control`, `jipc_platform_preset_create`. -/
  | control (request : Request) (now : Nat) (answers : Answers)
  | patch (json : List Char)
  /-- `jipc_record_set`; `storage` is a recording directory that could be made and written. -/
  | record (enabled : Int) (storage : Bool)

/-- A change, and how the calls of its save go. -/
structure Call where
  change : Change
  /-- `jipc_mkdirs` of the state directory. -/
  mkdirs : Bool
  files : FileCalls

namespace SavedState

/-- What a save gives to `jipc_atomic_file`, if it comes to that. -/
abbrev Save := Option (Path × List Char)

def commit (save : Save) (files : FileCalls) (disk : Disk) : Bool × Disk :=
  match save with
  | none => (false, disk)
  | some (path, text) => jipc_atomic_file path text files disk

/-- The platform where its save succeeds. -/
def wanted (r : Request) (now : Nat) (a : Answers) (app : SavedState) : Reply × Machine :=
  platform_control r now { a with presetsSaved := true } app.machine

/-- `presets_save` is the last call of an operation: it is given the presets the
operation would leave. -/
def presetsSave (r : Request) (now : Nat) (a : Answers) (mkdirs : Bool) (app : SavedState) : Save :=
  if accepts (app.wanted r now a).1 = true ∧ mkdirs = true then
    (presets_save false (app.wanted r now a).2.presets).map fun text => (app.presetsPath, text)
  else none

def control (r : Request) (now : Nat) (a : Answers) (mkdirs : Bool) (files : FileCalls)
    (app : SavedState) : Bool × SavedState :=
  if r.operation.savesPresets then
    let saved := commit (app.presetsSave r now a mkdirs) files app.disk
    let (reply, machine) :=
      platform_control r now { a with presetsSaved := saved.1 } app.machine
    (accepts reply, { app with machine, disk := saved.2 })
  else
    let (reply, machine) := platform_control r now a app.machine
    (accepts reply, { app with machine })

def configSave (c : Config) : Save := c.saveText.map fun text => (c.path, text)

def jipc_config_patch (json : List Char) (files : FileCalls) (app : SavedState) : Bool × SavedState :=
  match patchConfig app.native json app.config with
  | .error _ => (false, app)
  | .ok (next, restart) =>
      match commit (configSave next) files app.disk with
      | (false, disk) => (false, { app with disk })
      | (true, disk) =>
          (true, { app with
            config := next, record_active := next.flag .recording
            restart := app.restart || restart, disk })

/-- The recording switch is refused before it is saved. -/
def recordRefused (enabled : Int) (storage : Bool) : Prop :=
  (enabled ≠ 0 ∧ enabled ≠ 1) ∨ (enabled = 1 ∧ storage = false)

instance (enabled : Int) (storage : Bool) : Decidable (recordRefused enabled storage) :=
  inferInstanceAs (Decidable (_ ∨ _))

def jipc_record_set (enabled : Int) (storage : Bool) (files : FileCalls) (app : SavedState) :
    Bool × SavedState :=
  if recordRefused enabled storage then (false, app)
  else
    let cfg := app.config.setFlag .recording (enabled = 1)
    match commit (configSave cfg) files app.disk with
    | (false, disk) => (false, { app with disk })
    | (true, disk) =>
        (true, { app with config := cfg, record_active := enabled = 1, record_error := "", disk })

/-- A call's report and what it leaves. -/
def apply (call : Call) (app : SavedState) : Bool × SavedState :=
  match call.change with
  | .control r now a => app.control r now a call.mkdirs call.files
  | .patch json => app.jipc_config_patch json call.files
  | .record enabled storage => app.jipc_record_set enabled storage call.files

/-- The save a call comes to. -/
def save (call : Call) (app : SavedState) : Save :=
  match call.change with
  | .control r now a =>
      if r.operation.savesPresets then app.presetsSave r now a call.mkdirs else none
  | .patch json =>
      match patchConfig app.native json app.config with
      | .error _ => none
      | .ok (next, _) => configSave next
  | .record enabled storage =>
      if recordRefused enabled storage then none
      else configSave (app.config.setFlag .recording (enabled = 1))

/-- The file of what a call changes. -/
def file (call : Call) (app : SavedState) : Path :=
  match call.change with
  | .control .. => app.presetsPath
  | _ => app.config.path

/-- Memory is as it was: the presets, the configuration and what follows from it. -/
structure SameMemory (app after : SavedState) : Prop where
  presets : after.machine.presets = app.machine.presets
  config : after.config = app.config
  recording : after.record_active = app.record_active ∧ after.record_error = app.record_error
  restart : after.restart = app.restart

/-- If the call reports a failure, memory and the file the next start loads are as they
were. -/
def FailsCleanly (call : Call) (app : SavedState) : Prop :=
  (app.apply call).1 = false →
    SameMemory app (app.apply call).2 ∧
      (app.apply call).2.disk (app.file call) = app.disk (app.file call)

/-- The call's save replaces a file that held something else, and then its directory
cannot be opened or synchronized. -/
def FailsLate (call : Call) (app : SavedState) : Prop :=
  ∃ path text, app.save call = some (path, text) ∧ replaces path call.files app.disk = true ∧
    call.files.settles path = false ∧ app.disk path ≠ some text

/-! ## The save of a call -/

/-- What a commit leaves at its path. -/
theorem commit_none (files : FileCalls) (disk : Disk) : commit none files disk = (false, disk) := rfl

section Commit

variable {save : Save} {files : FileCalls} {disk : Disk}

/-- A save that fails leaves the file, unless it has replaced it already. -/
theorem commit_failed {path : Path} (target : ∀ text other, save = some (other, text) → other = path)
    (failed : (commit save files disk).1 = false)
    (notLate : ∀ text, save = some (path, text) → replaces path files disk = true →
      files.settles path = false → disk path = some text) :
    (commit save files disk).2 path = disk path := by
  cases given : save with
  | none => rfl
  | some pair =>
      obtain ⟨other, text⟩ := pair
      obtain rfl := target text other given
      rw [given] at failed
      by_cases replaced : replaces other files disk = true
      · obtain ⟨holds, reports⟩ := @jipc_atomic_file_replaces _ text _ _ replaced
        have unsettled : files.settles other = false := reports.symm.trans failed
        rw [notLate text given replaced unsettled]
        exact holds
      · exact (jipc_atomic_file_keeps (Bool.not_eq_true _ ▸ replaced)).1

theorem commit_late {path : Path} {text : List Char} (replaced : replaces path files disk = true)
    (unsettled : files.settles path = false) :
    (commit (some (path, text)) files disk).1 = false ∧
      (commit (some (path, text)) files disk).2 path = some text := by
  obtain ⟨holds, reports⟩ := @jipc_atomic_file_replaces _ text _ _ replaced
  exact ⟨reports.trans unsettled, holds⟩

end Commit

/-! ## The presets -/

theorem keepIfSaved_refused {message : String} {slot : Nat} {preset : Option SavedPreset}
    {a : Answers} {m : Machine} (failed : a.presetsSaved = false) :
    accepts (keepIfSaved message slot preset a m).1 = false := by
  unfold keepIfSaved
  rw [if_neg (by simp [failed])]
  rfl

theorem perform_refused {r : Request} {value : Int} {now : Nat} {a : Answers} {m : Machine}
    (saves : r.operation.savesPresets) (failed : a.presetsSaved = false) :
    accepts (perform r value now a m).1 = false := by
  unfold perform
  rcases saves with set | rename | remove
  · simp only [set]
    unfold control_preset_set
    split
    · rfl
    · simp only
      split
      · rfl
      · exact keepIfSaved_refused failed
  · simp only [rename]
    unfold control_preset_rename
    split
    · rfl
    · rfl
    · split
      · rfl
      · exact keepIfSaved_refused failed
  · simp only [remove]
    unfold control_preset_remove
    split
    · rfl
    · exact keepIfSaved_refused failed

theorem dispatch_refused {r : Request} {value : Int} {now : Nat} {a : Answers} {m : Machine}
    (saves : r.operation.savesPresets) (failed : a.presetsSaved = false) :
    accepts (dispatch r value now a m).1 = false := by
  unfold dispatch
  split
  · rfl
  · split
    · rfl
    · exact perform_refused saves failed

/-- An operation whose save fails is refused. -/
theorem platform_control_refused {r : Request} {now : Nat} {a : Answers} {m : Machine}
    (saves : r.operation.savesPresets) (failed : a.presetsSaved = false) :
    accepts (platform_control r now a m).1 = false := by
  unfold platform_control
  split
  · rfl
  · split
    · rfl
    · split
      · rfl
      · split
        · split
          · rfl
          · exact dispatch_refused saves failed
        · exact dispatch_refused saves failed

/-- A refused operation leaves the presets. -/
theorem platform_control_presets {r : Request} {now : Nat} {a : Answers} {m : Machine}
    (refused : accepts (platform_control r now a m).1 = false) :
    (platform_control r now a m).2.presets = m.presets := by
  apply (platform_control_saves r now a m).unsaved
  rw [Request.saved, refused, Bool.and_false]

/-! ## Failures -/

variable {app : SavedState} {call : Call}

/-- What a failed call does to memory is undone. -/
theorem apply_failed (failed : (app.apply call).1 = false) :
    SameMemory app (app.apply call).2 := by
  unfold apply at failed ⊢
  split
  · next r now a change =>
      simp only [change] at failed
      unfold control at failed ⊢
      split
      · next saves =>
          rw [if_pos saves] at failed
          exact ⟨platform_control_presets failed, rfl, ⟨rfl, rfl⟩, rfl⟩
      · next other =>
          rw [if_neg other] at failed
          exact ⟨platform_control_presets failed, rfl, ⟨rfl, rfl⟩, rfl⟩
  · next json change =>
      simp only [change] at failed
      unfold jipc_config_patch at failed ⊢
      split
      · exact ⟨rfl, rfl, ⟨rfl, rfl⟩, rfl⟩
      · next next restart patched =>
          simp only [patched] at failed
          split
          · exact ⟨rfl, rfl, ⟨rfl, rfl⟩, rfl⟩
          · next disk ran =>
              rw [ran] at failed
              exact absurd failed nofun
  · next enabled storage change =>
      simp only [change] at failed
      unfold jipc_record_set at failed ⊢
      split
      · exact ⟨rfl, rfl, ⟨rfl, rfl⟩, rfl⟩
      · next allowed =>
          rw [if_neg allowed] at failed
          simp only at failed ⊢
          split
          · exact ⟨rfl, rfl, ⟨rfl, rfl⟩, rfl⟩
          · next disk ran =>
              rw [ran] at failed
              exact absurd failed nofun

/-- The disk after a call is what its save leaves. -/
theorem apply_disk (app : SavedState) (call : Call) :
    (app.apply call).2.disk = (commit (app.save call) call.files app.disk).2 := by
  unfold apply save
  split
  · unfold control
    split
    · rfl
    · rfl
  · unfold jipc_config_patch
    split
    · rfl
    · split
      · next ran => rw [ran]
      · next ran => rw [ran]
  · unfold jipc_record_set
    simp only
    split
    · rfl
    · split
      · next ran => rw [ran]
      · next ran => rw [ran]

/-- A call fails when its save does. -/
theorem apply_refused {path : Path} {text : List Char} (saves : app.save call = some (path, text))
    (failed : (commit (app.save call) call.files app.disk).1 = false) :
    (app.apply call).1 = false := by
  unfold save at saves failed
  unfold apply
  split
  · next r now a change =>
      simp only [change] at saves failed
      by_cases kind : r.operation.savesPresets
      · rw [if_pos kind] at failed
        unfold control
        rw [if_pos kind]
        exact platform_control_refused kind failed
      · rw [if_neg kind] at saves
        exact absurd saves nofun
  · next json change =>
      simp only [change] at saves failed
      unfold jipc_config_patch
      split
      · rfl
      · next patched =>
          simp only [patched] at failed
          split
          · rfl
          · next ran =>
              rw [ran] at failed
              exact absurd failed nofun
  · next enabled storage change =>
      simp only [change] at saves failed
      unfold jipc_record_set
      split
      · rfl
      · next allowed =>
          rw [if_neg allowed] at failed
          simp only
          split
          · rfl
          · next ran =>
              rw [ran] at failed
              exact absurd failed nofun

/-- A call whose save succeeds reports success. -/
theorem apply_accepted {path : Path} {text : List Char} (saves : app.save call = some (path, text))
    (done : (commit (app.save call) call.files app.disk).1 = true) :
    (app.apply call).1 = true := by
  unfold save at saves done
  unfold apply
  split
  · next r now a change =>
      simp only [change] at saves done
      by_cases kind : r.operation.savesPresets
      · rw [if_pos kind] at saves done
        unfold control
        simp only [if_pos kind, done]
        unfold presetsSave at saves
        split at saves
        · next accepted => exact accepted.1
        · exact absurd saves nofun
      · rw [if_neg kind] at saves
        exact absurd saves nofun
  · next json change =>
      simp only [change] at saves done
      unfold jipc_config_patch
      split
      · next patched =>
          simp only [patched] at saves
          exact absurd saves nofun
      · next patched =>
          simp only [patched] at done
          split
          · next ran =>
              rw [ran] at done
              exact absurd done nofun
          · rfl
  · next enabled storage change =>
      simp only [change] at saves done
      unfold jipc_record_set
      split
      · next refused =>
          rw [if_pos refused] at saves
          exact absurd saves nofun
      · next allowed =>
          rw [if_neg allowed] at done
          simp only
          split
          · next ran =>
              rw [ran] at done
              exact absurd done nofun
          · rfl

theorem patchSetting_path {setting : Setting} {value : Json} {c next : Config}
    (patched : patchSetting setting value c = some next) : next.path = c.path := by
  unfold patchSetting at patched
  split at patched
  · split at patched
    · rw [← Option.some.inj patched]
      rfl
    · exact absurd patched nofun
  · rw [← Option.some.inj patched]
    rfl
  · obtain ⟨number, -, rfl⟩ := Option.map_eq_some_iff.mp patched
    rfl
  · exact absurd patched nofun

theorem patchSettings_path {members : List (List Char × Json)} {c next : Config}
    {restart restarts : Bool}
    (patched : patchSettings members c restart = some (next, restarts)) : next.path = c.path := by
  induction members generalizing c restart with
  | nil =>
      obtain ⟨rfl, -⟩ := Prod.mk.inj (Option.some.inj patched)
      rfl
  | cons member rest inductionHypothesis =>
      rw [patchSettings] at patched
      split at patched
      · exact absurd patched nofun
      · split at patched
        · exact absurd patched nofun
        · split at patched
          · exact absurd patched nofun
          · split at patched
            · exact absurd patched nofun
            · next setting =>
                exact (inductionHypothesis patched).trans (patchSetting_path setting)

theorem patchConfig_path {native : Bool} {json : List Char} {c next : Config} {restart : Bool}
    (patched : patchConfig native json c = .ok (next, restart)) : next.path = c.path := by
  unfold patchConfig at patched
  split at patched
  · exact absurd patched nofun
  · split at patched
    · split at patched
      · exact absurd patched nofun
      · next settings =>
          split at patched
          · exact absurd patched nofun
          · obtain ⟨rfl, rfl⟩ := Prod.mk.inj (Except.ok.inj patched)
            exact patchSettings_path settings
    · exact absurd patched nofun

/-- A call saves into its own file. -/
theorem save_path {path : Path} {text : List Char} (saves : app.save call = some (path, text)) :
    path = app.file call := by
  unfold save at saves
  unfold file
  split at saves
  · next change =>
      rw [change]
      split at saves
      · unfold presetsSave at saves
        split at saves
        · obtain ⟨_, -, same⟩ := Option.map_eq_some_iff.mp saves
          exact (congrArg Prod.fst same).symm
        · exact absurd saves nofun
      · exact absurd saves nofun
  · next change =>
      rw [change]
      split at saves
      · exact absurd saves nofun
      · next patched =>
          obtain ⟨_, -, same⟩ := Option.map_eq_some_iff.mp saves
          exact (congrArg Prod.fst same).symm.trans (patchConfig_path patched)
  · next change =>
      rw [change]
      split at saves
      · exact absurd saves nofun
      · obtain ⟨_, -, same⟩ := Option.map_eq_some_iff.mp saves
        exact (congrArg Prod.fst same).symm

/-- A failure behind the rename keeps what it wrote. -/
theorem fails_late (late : app.FailsLate call) : ¬app.FailsCleanly call := by
  obtain ⟨path, text, saves, replaced, unsettled, different⟩ := late
  intro clean
  have late := @commit_late call.files app.disk path text replaced unsettled
  rw [← saves] at late
  have undone := (clean (apply_refused saves late.1)).2
  rw [apply_disk, ← save_path saves, late.2] at undone
  exact different undone.symm

theorem fails_cleanly (notLate : ¬app.FailsLate call) : app.FailsCleanly call := by
  intro failed
  refine ⟨apply_failed failed, ?_⟩
  rw [apply_disk]
  apply commit_failed
  · intro text other saves
    exact save_path saves
  · cases saves : app.save call with
    | none => rfl
    | some pair =>
        rw [← saves]
        by_contra done
        have accepted := apply_accepted saves (by simpa using done)
        rw [accepted] at failed
        exact absurd failed nofun
  · intro text saves replaced unsettled
    by_contra different
    exact notLate ⟨_, text, saves, replaced, unsettled, different⟩

/-- A failed change leaves memory and its file as they were exactly where it does not
fail behind the rename of other content. -/
theorem failed_change_undone (app : SavedState) (call : Call) :
    app.FailsCleanly call ↔ ¬app.FailsLate call :=
  ⟨fun clean late => fails_late late clean, fails_cleanly⟩

/-- A camera without presets, on an empty disk. -/
def emptyState : SavedState where
  machine := homedBoot.machine
  presetsPath := "/opt/state/presets.v2.json".toList
  native := false
  config := ⟨"/opt/media.conf".toList, fun _ => [], fun _ => 0, fun _ => false⟩
  record_active := false
  record_error := ""
  restart := false
  disk := fun _ => none

/-- A preset is created, and only the directory cannot be synchronized. -/
def unsettledCreation : Call where
  change :=
    .control ⟨.preset_set, 0, 0, some "Yard".toList, true⟩ 1000 (driverAt 2000 600 "4080" "1230")
  mkdirs := true
  files := ⟨some "000000".toList, true, none, true, true, true, true, true, false⟩

/-- The creation is reported as failed and memory forgets it; the next start loads it. -/
theorem failed_change_kept :
    ¬∀ (app : SavedState) (call : Call), app.FailsCleanly call := by
  intro claimed
  have failed : (emptyState.apply unsettledCreation).1 = false := by decide +kernel
  have written : ((emptyState.apply unsettledCreation).2.disk emptyState.presetsPath).isSome = true :=
    by decide +kernel
  have undone := (claimed emptyState unsettledCreation failed).2
  rw [show emptyState.file unsettledCreation = emptyState.presetsPath from rfl] at undone
  rw [undone] at written
  exact absurd written nofun

end SavedState

end JooanW3U.Media

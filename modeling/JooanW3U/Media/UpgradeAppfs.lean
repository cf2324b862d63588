import JooanW3U.Library.Errexit
import JooanW3U.Media.StagedRelease

/-!
Owns `upgrade-appfs.sh` from the point where its preconditions have passed: the stop of
the media owner, the commit of the three configuration files, the flash write and its
rollback. Any of its commands may fail; what a failing one leaves is part of the pattern
of failures. Main result: the exact patterns under which the script leaves files that
name a release other than the one in the partition.

Does not own the power, and no command here fails only in part besides the copy of a
file and the flash write.
-/

namespace JooanW3U.Media.UpgradeAppfs

open JooanW3U.Library JooanW3U.Library.Errexit JooanW3U.Media.StagedRelease

/-! ### Commands and their failures -/

inductive Owner
  | native
  | syslog
deriving Repr, DecidableEq

def Owner.name : Owner → String
  | .native => "jooanipc-open"
  | .syslog => "syslogd"

/-- Where `stop_owner` asks for the process; the numbers count the seconds waited. -/
inductive Asked
  | first
  | terminated (second : Nat)
  | waited
  | killed (second : Nat)
  | last
deriving Repr, DecidableEq

/-- What is written to the flash: `image` or `backup`. -/
inductive Source
  | image
  | backup
deriving Repr, DecidableEq

inductive Message
  | note (text : String)
  | abort (why : String)
deriving Repr, DecidableEq

/-- The commands and tests of the script whose status counts, in its order; the attempts
of the rollback are numbered. -/
inductive Command
  | log (message : Message)
  | same (owner : Owner) (asked : Asked)
  | terminate (owner : Owner)
  | sleepStop (owner : Owner) (asked : Asked)
  | kill (owner : Owner)
  | sleepFeeder
  | feederAlive
  | feederHolds
  | readTaint
  | untainted
  | detached
  | saveBackup
  | readBackup
  | syncBackup
  | dropCaches
  | mapped (task : String)
  | referenced
  | unmount
  | syncAbort
  | move (name : Name)
  | allowHandoff
  | allowFiles
  | syncCommit
  | flash (source : Source) (attempt : Nat)
  | readBack (source : Source) (attempt : Nat)
  | sleepRollback (attempt : Nat)
  | copy (name : Name)
  | allowRestoredHandoff
  | allowRestoredFiles
  | syncRestore
  | syncEnd
  | spaceLeft
  | reboot
deriving Repr, DecidableEq

/-- A pattern of failing commands, with the process of the feeder, the tasks that are
looked at and what the commands leave: the copy of the partition in RAM, a flash write
the partition and a failed copy its file. -/
structure Pattern (Image : Type) where
  ok : Command → Bool
  feeder : Nat
  tasks : List String
  saved : Image
  flashed : Source → Nat → Image
  torn : Name → File

/-- The update that is staged, over what the camera runs: `old` is the release
`deployment.env` names, and `camera.ini` names no other. -/
structure Upgrade (Image : Type) where
  old : Line
  package : Package
  before : Name → File
  oldImage : Image
  newImage : Image
  root : old.head? = some '/'
  bare : '/' ∉ package.release
  other : lastPart old ≠ package.release
  names_env : named .deploymentEnv (before .deploymentEnv) = [old]
  names_ini : ∀ release ∈ named .cameraIni (before .cameraIni), release = old
  images_ne : oldImage ≠ newImage

variable {Image : Type}

namespace Upgrade

def new (upgrade : Upgrade Image) : Line := newRelease upgrade.old upgrade.package

def next (upgrade : Upgrade Image) : Name → File :=
  stage upgrade.old upgrade.package upgrade.before

end Upgrade

/-- The files, what is staged for them and kept of them, the partition and its copy in
RAM, the maintenance lock and what was logged, the last first. -/
structure Camera (Image : Type) where
  config : Name → File
  staged : Name → Option File
  kept : Name → File
  partition : Image
  backup : Option Image
  locked : Bool
  logged : List Message

/-- The preconditions have passed. -/
def start (upgrade : Upgrade Image) : Camera Image where
  config := upgrade.before
  staged name := some (upgrade.next name)
  kept := upgrade.before
  partition := upgrade.oldImage
  backup := none
  locked := true
  logged := []

inductive Ending
  | exited
  | rebooted
deriving Repr, DecidableEq

abbrev Shell (Image : Type) := Script (Camera Image) Ending

/-! ### The script -/

section Script

variable (pattern : Pattern Image)

/-- A command that changes nothing modelled here. -/
def run (command : Command) : Shell Image :=
  Errexit.command .exited (fun _ => pattern.ok command) id id

def test (command : Command) : Attempt (Camera Image) := ask fun _ => pattern.ok command

def log (message : Message) : Shell Image :=
  Errexit.command .exited (fun _ => pattern.ok (.log message))
    (fun camera => { camera with logged := message :: camera.logged }) id

def exit : Shell Image := fun camera => .ended .exited camera

/-- `die`, with the message it makes of its reason. -/
def die (message : Message) : Shell Image := steps [log pattern message, exit]

/-- `reboot -f`; where it fails the script ends. -/
def reboot : Shell Image := fun camera =>
  if pattern.ok .reboot then .ended .rebooted camera else .ended .exited camera

def abortReboot (why : String) : Shell Image :=
  steps
    [log pattern (.abort ("before flash: " ++ why ++ "; rebooting into the unchanged appfs")),
      run pattern .syncAbort, reboot pattern]

/-- The loop of `stop_owner`, with the seconds it still waits. -/
def waitGone (owner : Owner) (asked : Nat → Asked) : Nat → Nat → Shell Image
  | 0, _ => skip
  | left + 1, second =>
      onlyIf (test pattern (.same owner (asked second)))
        (steps
          [run pattern (.sleepStop owner (asked second)), waitGone owner asked left (second + 1)])

def stopOwner (owner : Owner) (patience : Nat) : Shell Image :=
  steps
    [orElse (test pattern (.same owner .first))
        (abortReboot pattern (owner.name ++ " identity changed")),
      orElse (test pattern (.terminate owner)) (abortReboot pattern ("cannot stop " ++ owner.name)),
      waitGone pattern owner .terminated patience 0,
      onlyIf (test pattern (.same owner .waited))
        (steps [run pattern (.kill owner), waitGone pattern owner .killed 15 0]),
      onlyIf (test pattern (.same owner .last))
        (abortReboot pattern (owner.name ++ " remains alive")),
      log pattern (.note (owner.name ++ " stopped"))]

section Digests

variable {Digest : Type} [DecidableEq Digest] (md5 : Image → Digest) (upgrade : Upgrade Image)

/-- Lines 115 to 144: the media owner is stopped, the watchdog handed over, the partition
copied to RAM and unmounted. -/
def stopMedia : Shell Image :=
  steps
    [log pattern (.note "preconditions passed; stopping native media and transferring watchdog"),
      stopOwner pattern .native 30,
      run pattern .sleepFeeder,
      orElse (test pattern .feederAlive) (abortReboot pattern "rootfs watchdog feeder failed"),
      orElse (test pattern .feederHolds) (abortReboot pattern "rootfs feeder does not own watchdog"),
      log pattern (.note ("rootfs watchdog feeder owns watchdog: " ++ toString pattern.feeder)),
      stopOwner pattern .syslog 5,
      run pattern .readTaint,
      orElse (test pattern .untainted) (abortReboot pattern "kernel media fault"),
      orElse (test pattern .detached) (abortReboot pattern "media DMA did not detach"),
      Errexit.command .exited (fun _ => pattern.ok .saveBackup)
        (fun camera => { camera with backup := some pattern.saved }) id,
      orElse
        (ask fun camera =>
          pattern.ok .readBackup && decide (camera.backup.map md5 = some (md5 upgrade.oldImage)))
        (abortReboot pattern "RAM rollback checksum mismatch"),
      run pattern .syncBackup,
      run pattern .dropCaches,
      log pattern (.note "old appfs backed up in RAM; checking all task references"),
      steps
        (pattern.tasks.map fun task =>
          onlyIf (test pattern (.mapped task))
            (abortReboot pattern ("appfs mapping remains: " ++ task))),
      onlyIf (test pattern .referenced) (abortReboot pattern "appfs descriptor/path remains"),
      orElse (test pattern .unmount) (abortReboot pattern "ordinary appfs unmount refused")]

/-- `mv name.next name`. -/
def move (name : Name) : Shell Image :=
  Errexit.command .exited
    (fun camera => pattern.ok (.move name) && (camera.staged name).isSome)
    (fun camera =>
      { camera with
        config := Function.update camera.config name ((camera.staged name).getD [])
        staged := Function.update camera.staged name none }) id

/-- `cp name.before name`. -/
def copy (name : Name) : Shell Image :=
  Errexit.command .exited (fun _ => pattern.ok (.copy name))
    (fun camera =>
      { camera with config := Function.update camera.config name (camera.kept name) })
    fun camera => { camera with config := Function.update camera.config name (pattern.torn name) }

/-- Lines 147 to 153. -/
def commit : Shell Image :=
  steps
    [log pattern (.note "appfs unmounted; committing paths and flashing verified image"),
      move pattern .bootHandoff, move pattern .cameraIni, move pattern .deploymentEnv,
      run pattern .allowHandoff, run pattern .allowFiles, run pattern .syncCommit]

def restoreConfig : Shell Image :=
  steps
    [copy pattern .bootHandoff, copy pattern .cameraIni, copy pattern .deploymentEnv,
      run pattern .allowRestoredHandoff, run pattern .allowRestoredFiles, run pattern .syncRestore]

/-- `flashcp -v source /dev/mtd4`. -/
def flash (source : Source) (attempt : Nat) : Attempt (Camera Image) := fun camera =>
  (pattern.ok (.flash source attempt), { camera with partition := pattern.flashed source attempt })

/-- `[ "$(hash /dev/mtd4)" = "$sum" ]`. -/
def readBack (source : Source) (attempt : Nat) (sum : Digest) : Attempt (Camera Image) :=
  ask fun camera => pattern.ok (.readBack source attempt) && decide (md5 camera.partition = sum)

def rollbackFailed (tries : Nat) : Message :=
  .abort ("rollback failed " ++ toString tries ++
    " times; camera kept up for manual recovery (docs/RECOVERY.md), images in /tmp")

def retrying (tries : Nat) : Message :=
  .note ("rollback attempt " ++ toString tries ++ " failed; retrying")

/-- The `until` loop of the rollback. -/
def rollback (tries : Nat) : Shell Image :=
  orElse
    ((flash pattern .backup tries).andThen
      (readBack pattern md5 .backup tries (md5 upgrade.oldImage)))
    (if tries + 1 < 3 then
      steps
        [log pattern (retrying (tries + 1)), run pattern (.sleepRollback tries), rollback (tries + 1)]
    else die pattern (rollbackFailed (tries + 1)))
termination_by 3 - tries

/-- Lines 157 to 172. -/
def undo : Shell Image :=
  steps
    [log pattern (.note "flash verification failed; restoring original appfs and configuration"),
      rollback pattern md5 upgrade 0,
      restoreConfig pattern,
      log pattern (.note "original appfs and configuration restored"),
      run pattern .syncEnd,
      reboot pattern]

/-- Lines 155 and 174 to 177. -/
def finish : Shell Image :=
  steps
    [log pattern (.note "flashcp and complete partition readback passed"),
      run pattern .syncEnd,
      orElse (test pattern .spaceLeft)
        (die pattern (.abort "config space low after install; feeder retained")),
      log pattern (.note "rebooting into internal-flash native release"),
      reboot pattern]

/-- The script from the point where its preconditions have passed. -/
def upgradeAppfs : Shell Image :=
  steps
    [stopMedia pattern md5 upgrade, commit pattern,
      ifThen
        ((flash pattern .image 0).andThen (readBack pattern md5 .image 0 (md5 upgrade.newImage)))
        (finish pattern) (undo pattern md5 upgrade)]

end Digests

end Script

/-! ### What is asked of the end -/

namespace Upgrade

/-- The image of the release is completely in the partition. -/
def Holds (upgrade : Upgrade Image) (partition : Image) (release : Line) : Prop :=
  release = upgrade.new ∧ partition = upgrade.newImage ∨
    release = upgrade.old ∧ partition = upgrade.oldImage

instance [DecidableEq Image] (upgrade : Upgrade Image) (partition : Image) (release : Line) :
    Decidable (upgrade.Holds partition release) :=
  inferInstanceAs (Decidable (release = upgrade.new ∧ partition = upgrade.newImage ∨
    release = upgrade.old ∧ partition = upgrade.oldImage))

/-- A file names a release other than the one in the partition. -/
def Mismatched (upgrade : Upgrade Image) (camera : Camera Image) : Prop :=
  ∃ name, ∃ release ∈ named name (camera.config name), ¬upgrade.Holds camera.partition release

/-- The camera stays up with the lock held, and the failed rollback is reported. -/
def KeptUp (ending : Ending) (camera : Camera Image) : Prop :=
  ending = .exited ∧ camera.locked = true ∧ rollbackFailed 3 ∈ camera.logged

def Sound (upgrade : Upgrade Image) (ending : Ending) (camera : Camera Image) : Prop :=
  ¬upgrade.Mismatched camera ∨ KeptUp ending camera

end Upgrade

/-! ### The patterns that are not undone -/

namespace Pattern

variable (pattern : Pattern Image)

def waits (owner : Owner) (asked : Nat → Asked) : Nat → Nat → Prop
  | 0, _ => True
  | left + 1, second =>
      pattern.ok (.same owner (asked second)) = true →
        pattern.ok (.sleepStop owner (asked second)) = true ∧
          waits owner asked left (second + 1)

/-- The process is there, is asked to stop and is gone in time. -/
def stops (owner : Owner) (patience : Nat) : Prop :=
  pattern.ok (.same owner .first) = true ∧ pattern.ok (.terminate owner) = true ∧
    pattern.waits owner .terminated patience 0 ∧
    (pattern.ok (.same owner .waited) = true →
      pattern.ok (.kill owner) = true ∧ pattern.waits owner .killed 15 0) ∧
    (pattern.ok (.same owner .last) = true → False) ∧
    pattern.ok (.log (.note (owner.name ++ " stopped"))) = true

section Digests

variable {Digest : Type} [DecidableEq Digest] (md5 : Image → Digest) (upgrade : Upgrade Image)

/-- Everything up to the unmount of the partition succeeds. -/
def unmounts : Prop :=
  pattern.ok (.log (.note
      "preconditions passed; stopping native media and transferring watchdog")) = true ∧
    pattern.stops .native 30 ∧ pattern.ok .sleepFeeder = true ∧ pattern.ok .feederAlive = true ∧
    pattern.ok .feederHolds = true ∧
    pattern.ok (.log (.note
      ("rootfs watchdog feeder owns watchdog: " ++ toString pattern.feeder))) = true ∧
    pattern.stops .syslog 5 ∧ pattern.ok .readTaint = true ∧ pattern.ok .untainted = true ∧
    pattern.ok .detached = true ∧ pattern.ok .saveBackup = true ∧
    (pattern.ok .readBackup = true ∧ md5 pattern.saved = md5 upgrade.oldImage) ∧
    pattern.ok .syncBackup = true ∧ pattern.ok .dropCaches = true ∧
    pattern.ok (.log (.note
      "old appfs backed up in RAM; checking all task references")) = true ∧
    (∀ task ∈ pattern.tasks, pattern.ok (.mapped task) = true → False) ∧
    (pattern.ok .referenced = true → False) ∧ pattern.ok .unmount = true

/-- The commands of the commit after the three moves. -/
def settles : Prop :=
  pattern.ok .allowHandoff = true ∧ pattern.ok .allowFiles = true ∧ pattern.ok .syncCommit = true

/-- The commit is reached and its first two moves succeed. -/
def commits : Prop :=
  pattern.unmounts md5 upgrade ∧
    pattern.ok (.log (.note
      "appfs unmounted; committing paths and flashing verified image")) = true ∧
    pattern.ok (.move .bootHandoff) = true ∧ pattern.ok (.move .cameraIni) = true

/-- The flash write succeeds, and the partition reads back as the image written. -/
def writes (source : Source) (attempt : Nat) (image : Image) : Bool :=
  pattern.ok (.flash source attempt) && (pattern.ok (.readBack source attempt) &&
    decide (md5 (pattern.flashed source attempt) = md5 image))

/-- A rollback attempt is followed by another. -/
def retries (tries : Nat) : Prop :=
  pattern.ok (.log (retrying (tries + 1))) = true ∧ pattern.ok (.sleepRollback tries) = true

/-- The old files are copied back, but for `deployment.env` where what is left of it
names no other release. -/
def restores : Prop :=
  pattern.ok (.copy .bootHandoff) = true ∧ pattern.ok (.copy .cameraIni) = true ∧
    (pattern.ok (.copy .deploymentEnv) = true ∨
      ∀ release ∈ named .deploymentEnv (pattern.torn .deploymentEnv), release = upgrade.old)

/-- How the rollback from an attempt on leaves the files of the new release. -/
inductive RollbackSlip : Nat → Prop
  /-- The old image is back and a copy of the old files fails. -/
  | unrestored {tries : Nat} :
      pattern.writes md5 .backup tries upgrade.oldImage = true → ¬pattern.restores upgrade →
        RollbackSlip tries
  /-- The message of a failed attempt cannot be written, or the wait after it fails. -/
  | abandoned {tries : Nat} :
      pattern.writes md5 .backup tries upgrade.oldImage = false → tries + 1 < 3 →
        ¬pattern.retries tries → pattern.flashed .backup tries ≠ upgrade.newImage →
          RollbackSlip tries
  /-- The last attempt fails and that cannot be reported. -/
  | unreported {tries : Nat} :
      pattern.writes md5 .backup tries upgrade.oldImage = false → ¬tries + 1 < 3 →
        pattern.ok (.log (rollbackFailed (tries + 1))) = false →
          pattern.flashed .backup tries ≠ upgrade.newImage → RollbackSlip tries
  | later {tries : Nat} :
      pattern.writes md5 .backup tries upgrade.oldImage = false → tries + 1 < 3 →
        pattern.retries tries → RollbackSlip (tries + 1) → RollbackSlip tries

/-- How the script leaves files of a release that is not in the partition. -/
inductive Slip : Prop
  /-- `deployment.env` cannot be moved after a `camera.ini` that names the new release. -/
  | mixed :
      pattern.commits md5 upgrade → pattern.ok (.move .deploymentEnv) = false →
        named .cameraIni (upgrade.before .cameraIni) ≠ [] → Slip
  /-- All files are moved, and a command before the flash write fails. -/
  | unflashed :
      pattern.commits md5 upgrade → pattern.ok (.move .deploymentEnv) = true →
        ¬pattern.settles → Slip
  /-- The flash write fails, and so does the message about it. -/
  | unannounced :
      pattern.commits md5 upgrade → pattern.ok (.move .deploymentEnv) = true →
        pattern.settles → pattern.writes md5 .image 0 upgrade.newImage = false →
          pattern.ok (.log (.note
            "flash verification failed; restoring original appfs and configuration")) = false →
            pattern.flashed .image 0 ≠ upgrade.newImage → Slip
  | rollback :
      pattern.commits md5 upgrade → pattern.ok (.move .deploymentEnv) = true →
        pattern.settles → pattern.writes md5 .image 0 upgrade.newImage = false →
          pattern.ok (.log (.note
            "flash verification failed; restoring original appfs and configuration")) = true →
            pattern.RollbackSlip md5 upgrade 0 → Slip

end Digests

end Pattern

/-! ### Which files the camera has -/

namespace Upgrade

variable (upgrade : Upgrade Image)

/-- The files where those in `moved` are the staged ones. -/
def mixed (moved : Name → Bool) (name : Name) : File :=
  if moved name then upgrade.next name else upgrade.before name

def image (moved : Bool) : Image := if moved then upgrade.newImage else upgrade.oldImage

theorem new_ne : upgrade.new ≠ upgrade.old := newRelease_ne upgrade.bare upgrade.other

theorem holds_new {partition : Image} :
    upgrade.Holds partition upgrade.new ↔ partition = upgrade.newImage := by
  unfold Holds
  simp [upgrade.new_ne]

theorem holds_old {partition : Image} :
    upgrade.Holds partition upgrade.old ↔ partition = upgrade.oldImage := by
  unfold Holds
  simp [upgrade.new_ne.symm]

theorem named_env (moved : Name → Bool) :
    named .deploymentEnv (upgrade.mixed moved .deploymentEnv) =
      [if moved .deploymentEnv then upgrade.new else upgrade.old] := by
  unfold mixed
  split
  · unfold next
    rw [named_stage_deploymentEnv, upgrade.names_env]
    rfl
  · exact upgrade.names_env

theorem named_ini (moved : Name → Bool) :
    named .cameraIni (upgrade.mixed moved .cameraIni) =
      (named .cameraIni (upgrade.before .cameraIni)).map fun _ =>
        if moved .cameraIni then upgrade.new else upgrade.old := by
  unfold mixed
  split
  · exact named_stage_cameraIni upgrade.root upgrade.names_ini
  · symm
    conv => rhs; rw [← List.map_id (named .cameraIni (upgrade.before .cameraIni))]
    exact List.map_congr_left fun release member => (upgrade.names_ini release member).symm

/-- The files fit the partition where `camera.ini`, if it names a release, and
`deployment.env` do. -/
theorem mismatched_iff {moved : Name → Bool} {camera : Camera Image}
    (config : camera.config = upgrade.mixed moved) :
    ¬upgrade.Mismatched camera ↔
      (named .cameraIni (upgrade.before .cameraIni) ≠ [] →
        camera.partition = upgrade.image (moved .cameraIni)) ∧
      camera.partition = upgrade.image (moved .deploymentEnv) := by
  have holds : ∀ newer : Bool,
      upgrade.Holds camera.partition (if newer then upgrade.new else upgrade.old) ↔
        camera.partition = upgrade.image newer := by
    intro newer
    cases newer with
    | false => exact upgrade.holds_old
    | true => exact upgrade.holds_new
  have fits : ¬upgrade.Mismatched camera ↔ ∀ name,
      ∀ release ∈ named name (camera.config name), upgrade.Holds camera.partition release := by
    simp only [Mismatched, not_exists, not_and, not_not]
  rw [fits, config]
  constructor
  · intro every
    have env := every .deploymentEnv
    have ini := every .cameraIni
    rw [upgrade.named_env] at env
    rw [upgrade.named_ini] at ini
    refine ⟨fun some => ?_, (holds _).mp (env _ List.mem_cons_self)⟩
    obtain ⟨release, member⟩ := List.exists_mem_of_ne_nil _ some
    exact (holds _).mp (ini _ (List.mem_map.mpr ⟨release, member, rfl⟩))
  · rintro ⟨ini, env⟩ name
    cases name with
    | bootHandoff => exact nofun
    | cameraIni =>
        rw [upgrade.named_ini]
        intro release member
        obtain ⟨first, inside, rfl⟩ := List.mem_map.mp member
        exact (holds _).mpr (ini (List.ne_nil_of_mem inside))
    | deploymentEnv =>
        rw [upgrade.named_env]
        intro release member
        rw [List.mem_singleton.mp member]
        exact (holds _).mpr env

end Upgrade

/-- The files and the partition, with nothing but notes in the log. -/
structure Ready (upgrade : Upgrade Image) (moved : Name → Bool) (partition : Image)
    (camera : Camera Image) : Prop where
  config : camera.config = upgrade.mixed moved
  kept : camera.kept = upgrade.before
  partition : camera.partition = partition
  locked : camera.locked = true
  notes : ∀ message ∈ camera.logged, ∃ text, message = .note text

namespace Ready

variable {upgrade : Upgrade Image} {moved : Name → Bool} {partition : Image} {camera : Camera Image}

theorem note (ready : Ready upgrade moved partition camera) (text : String) :
    Ready upgrade moved partition { camera with logged := .note text :: camera.logged } where
  config := ready.config
  kept := ready.kept
  partition := ready.partition
  locked := ready.locked
  notes := by
    intro message member
    cases List.mem_cons.mp member with
    | inl same => exact ⟨text, same⟩
    | inr earlier => exact ready.notes message earlier

theorem not_keptUp (ready : Ready upgrade moved partition camera) (ending : Ending) :
    ¬Upgrade.KeptUp ending camera := by
  rintro ⟨_, _, reported⟩
  obtain ⟨text, same⟩ := ready.notes _ reported
  cases same

theorem sound_iff (ready : Ready upgrade moved partition camera) (ending : Ending) :
    upgrade.Sound ending camera ↔
      (named .cameraIni (upgrade.before .cameraIni) ≠ [] →
        partition = upgrade.image (moved .cameraIni)) ∧
      partition = upgrade.image (moved .deploymentEnv) := by
  unfold Upgrade.Sound
  rw [or_iff_left (ready.not_keptUp ending), upgrade.mismatched_iff ready.config, ready.partition]

/-- With all files staged the end is sound where the new image is in the partition. -/
theorem sound_iff_new (ready : Ready upgrade (fun _ => true) partition camera) (ending : Ending) :
    upgrade.Sound ending camera ↔ partition = upgrade.newImage := by
  rw [ready.sound_iff]
  exact and_iff_right_of_imp fun same _ => same

theorem sound_old (ready : Ready upgrade (fun _ => false) upgrade.oldImage camera)
    (ending : Ending) : upgrade.Sound ending camera :=
  (ready.sound_iff ending).mpr ⟨fun _ => rfl, rfl⟩

end Ready

/-- Whatever was logged: the old files and the old image. -/
structure Intact (upgrade : Upgrade Image) (camera : Camera Image) : Prop where
  config : camera.config = upgrade.before
  partition : camera.partition = upgrade.oldImage

theorem Intact.sound {upgrade : Upgrade Image} {camera : Camera Image}
    (intact : Intact upgrade camera) (ending : Ending) : upgrade.Sound ending camera := by
  have config : camera.config = upgrade.mixed fun _ => false := intact.config
  exact .inl ((upgrade.mismatched_iff config).mpr
    ⟨fun _ => intact.partition, intact.partition⟩)

/-! ### The stop of the media owner -/

section Stop

variable {pattern : Pattern Image} {upgrade : Upgrade Image}

/-- Before the commit, with the copy of the partition that is in RAM. -/
structure Stopping (upgrade : Upgrade Image) (backup : Option Image) (camera : Camera Image) :
    Prop extends Ready upgrade (fun _ => false) upgrade.oldImage camera where
  staged : camera.staged = fun name => some (upgrade.next name)
  backup : camera.backup = backup

variable {backup : Option Image}

theorem Stopping.intact {camera : Camera Image} (stopping : Stopping upgrade backup camera) :
    Intact upgrade camera :=
  ⟨stopping.config, stopping.partition⟩

theorem passes_run (pattern : Pattern Image) {invariant left : Camera Image → Prop}
    (kept : ∀ camera, invariant camera → left camera) (command : Command) :
    Passes invariant (pattern.ok command = true) (run pattern command) invariant left :=
  passes_command (fun _ _ => Iff.rfl) (fun _ holds => holds) kept

theorem passes_neutral (pattern : Pattern Image) (invariant : Camera Image → Prop)
    (command : Command) :
    Passes invariant (pattern.ok command = true) (run pattern command) invariant invariant :=
  passes_run pattern (fun _ same => same) command

theorem passes_note (text : String) :
    Passes (Stopping upgrade backup) (pattern.ok (.log (.note text)) = true)
      (log pattern (.note text)) (Stopping upgrade backup) (Intact upgrade) := by
  apply passes_command (fun _ _ => Iff.rfl)
  · intro camera stopping
    exact ⟨stopping.toReady.note text, stopping.staged, stopping.backup⟩
  · intro camera stopping
    exact stopping.intact

theorem passes_reboot {invariant after : Camera Image → Prop} :
    Passes invariant False (reboot pattern) after invariant := by
  intro camera holds
  unfold wp reboot
  cases pattern.ok .reboot <;> exact ⟨not_false, holds⟩

/-- An abort ends with the files and the image as they were. -/
theorem passes_abortReboot (why : String) :
    Passes (Stopping upgrade backup) False (abortReboot pattern why) (Stopping upgrade backup)
      (Intact upgrade) := by
  have logs : Passes (Stopping upgrade backup)
      (pattern.ok (.log (.abort ("before flash: " ++ why ++ "; rebooting into the unchanged appfs")))
        = true)
      (log pattern (.abort ("before flash: " ++ why ++ "; rebooting into the unchanged appfs")))
      (Intact upgrade) (Intact upgrade) :=
    passes_command (fun _ _ => Iff.rfl) (fun _ stopping => ⟨stopping.config, stopping.partition⟩)
      fun _ stopping => stopping.intact
  apply (passes_cons logs (passes_cons (passes_neutral pattern _ _)
    (passes_cons passes_reboot passes_nil))).congr
  simp

theorem passes_test (command : Command) (why : String) :
    Passes (Stopping upgrade backup) (pattern.ok command = true)
      (orElse (test pattern command) (abortReboot pattern why)) (Stopping upgrade backup)
      (Intact upgrade) :=
  passes_orElse (fun _ _ => Iff.rfl) (passes_abortReboot why)

theorem passes_refuse (command : Command) (why : String) :
    Passes (Stopping upgrade backup) (pattern.ok command = true → False)
      (onlyIf (test pattern command) (abortReboot pattern why)) (Stopping upgrade backup)
      (Intact upgrade) :=
  passes_onlyIf (fun _ _ => Iff.rfl) (passes_abortReboot why)

theorem passes_waitGone (owner : Owner) (asked : Nat → Asked) (seconds second : Nat) :
    Passes (Stopping upgrade backup) (pattern.waits owner asked seconds second)
      (waitGone pattern owner asked seconds second) (Stopping upgrade backup) (Intact upgrade) := by
  induction seconds generalizing second with
  | zero => exact passes_skip
  | succ seconds inductionHypothesis =>
      apply passes_onlyIf (fun _ _ => Iff.rfl)
      apply (passes_cons (passes_run pattern (fun _ => Stopping.intact) _)
        (passes_cons (inductionHypothesis (second + 1)) passes_nil)).congr
      simp

theorem passes_stopOwner (owner : Owner) (patience : Nat) :
    Passes (Stopping upgrade backup) (pattern.stops owner patience)
      (stopOwner pattern owner patience) (Stopping upgrade backup) (Intact upgrade) := by
  have kills : Passes (Stopping upgrade backup)
      (pattern.ok (.kill owner) = true ∧ pattern.waits owner .killed 15 0)
      (steps [run pattern (.kill owner), waitGone pattern owner .killed 15 0])
      (Stopping upgrade backup) (Intact upgrade) := by
    apply (passes_cons (passes_run pattern (fun _ => Stopping.intact) _)
      (passes_cons (passes_waitGone owner .killed 15 0) passes_nil)).congr
    simp
  unfold stopOwner
  refine Passes.congr
    (passes_cons (passes_test _ _) (passes_cons (passes_test _ _)
      (passes_cons (passes_waitGone _ _ _ _) (passes_cons (passes_onlyIf (fun _ _ => Iff.rfl) kills)
        (passes_cons (passes_refuse _ _) (passes_cons (passes_note _) passes_nil)))))) ?_
  unfold Pattern.stops
  simp only [and_true]

variable {Digest : Type} [DecidableEq Digest] {md5 : Image → Digest}

/-- The media owner is stopped and the partition unmounted exactly where every command up
to there succeeds; otherwise the files and the image are as they were. -/
theorem passes_stopMedia :
    Passes (Stopping upgrade none) (pattern.unmounts md5 upgrade) (stopMedia pattern md5 upgrade)
      (Stopping upgrade (some pattern.saved)) (Intact upgrade) := by
  have saves : Passes (Stopping upgrade none) (pattern.ok .saveBackup = true)
      (Errexit.command Ending.exited (fun _ => pattern.ok .saveBackup)
        (fun camera => { camera with backup := some pattern.saved }) id)
      (Stopping upgrade (some pattern.saved)) (Intact upgrade) := by
    apply passes_command (fun _ _ => Iff.rfl)
    · intro camera stopping
      exact ⟨⟨stopping.config, stopping.kept, stopping.partition, stopping.locked, stopping.notes⟩,
        stopping.staged, rfl⟩
    · intro camera stopping
      exact stopping.intact
  have checks : Passes (Stopping upgrade (some pattern.saved))
      (pattern.ok .readBackup = true ∧ md5 pattern.saved = md5 upgrade.oldImage)
      (orElse
        (ask fun camera =>
          pattern.ok .readBackup && decide (camera.backup.map md5 = some (md5 upgrade.oldImage)))
        (abortReboot pattern "RAM rollback checksum mismatch"))
      (Stopping upgrade (some pattern.saved)) (Intact upgrade) := by
    apply passes_orElse _ (passes_abortReboot _)
    intro camera stopping
    rw [stopping.backup, Bool.and_eq_true, decide_eq_true_eq, Option.map_some, Option.some.injEq]
  unfold stopMedia
  refine Passes.congr
    (passes_cons (passes_note _) (passes_cons (passes_stopOwner _ _)
      (passes_cons (passes_run pattern (fun _ => Stopping.intact) _) (passes_cons (passes_test _ _)
        (passes_cons (passes_test _ _) (passes_cons (passes_note _)
          (passes_cons (passes_stopOwner _ _) (passes_cons (passes_run pattern (fun _ => Stopping.intact) _)
            (passes_cons (passes_test _ _) (passes_cons (passes_test _ _) (passes_cons saves
              (passes_cons checks (passes_cons (passes_run pattern (fun _ => Stopping.intact) _)
                (passes_cons (passes_run pattern (fun _ => Stopping.intact) _) (passes_cons (passes_note _)
                  (passes_cons (passes_all (fun _ => passes_refuse _ _) _) (passes_cons (passes_refuse _ _)
                    (passes_cons (passes_test _ _) passes_nil)))))))))))))))))) ?_
  unfold Pattern.unmounts
  simp only [and_true]

end Stop

/-! ### The commit and what follows it -/

section Commit

variable {pattern : Pattern Image} {upgrade : Upgrade Image} {moved : Name → Bool}
  {partition : Image} {camera : Camera Image}

/-- During the commit: the files moved are no longer staged. -/
structure Committing (upgrade : Upgrade Image) (moved : Name → Bool) (camera : Camera Image) :
    Prop extends Ready upgrade moved upgrade.oldImage camera where
  staged : camera.staged = fun name => if moved name then none else some (upgrade.next name)

theorem Stopping.committing {backup : Option Image} (stopping : Stopping upgrade backup camera) :
    Committing upgrade (fun _ => false) camera :=
  ⟨stopping.toReady, stopping.staged⟩

theorem passes_announce (text : String) :
    Passes (Ready upgrade moved partition) (pattern.ok (.log (.note text)) = true)
      (log pattern (.note text)) (Ready upgrade moved partition) (Ready upgrade moved partition) :=
  passes_command (fun _ _ => Iff.rfl) (fun _ ready => ready.note text) fun _ ready => ready

theorem passes_move (pattern : Pattern Image) (name : Name) {next : Name → Bool} (unmoved : moved name = false)
    (moves : next = Function.update moved name true) :
    Passes (Committing upgrade moved) (pattern.ok (.move name) = true) (move pattern name)
      (Committing upgrade next) (Committing upgrade moved) := by
  subst moves
  apply passes_command
  · intro camera committing
    simp [committing.staged, unmoved]
  · intro camera committing
    refine ⟨⟨?_, committing.kept, committing.partition, committing.locked, committing.notes⟩, ?_⟩
    · funext other
      by_cases same : other = name
      · subst same
        simp [committing.staged, unmoved, Upgrade.mixed]
      · simp [same, committing.config, Upgrade.mixed]
    · funext other
      by_cases same : other = name
      · subst same
        simp
      · simp [same, committing.staged]
  · intro camera committing
    exact committing

theorem passes_copy (pattern : Pattern Image) (name : Name) {next : Name → Bool} {left : Camera Image → Prop}
    (copies : next = Function.update moved name false)
    (fails : ∀ camera, Ready upgrade moved partition camera → left
      { camera with config := Function.update camera.config name (pattern.torn name) }) :
    Passes (Ready upgrade moved partition) (pattern.ok (.copy name) = true) (copy pattern name)
      (Ready upgrade next partition) left := by
  subst copies
  apply passes_command (fun _ _ => Iff.rfl) _ fails
  intro camera ready
  refine ⟨?_, ready.kept, ready.partition, ready.locked, ready.notes⟩
  funext other
  by_cases same : other = name
  · subst same
    simp [ready.kept, Upgrade.mixed]
  · simp [same, ready.config, Upgrade.mixed]

/-- The old image is in the partition and `deployment.env` names the new release. -/
structure Stuck (upgrade : Upgrade Image) (camera : Camera Image) : Prop where
  env : camera.config .deploymentEnv = upgrade.next .deploymentEnv
  partition : camera.partition = upgrade.oldImage
  notes : ∀ message ∈ camera.logged, ∃ text, message = .note text

theorem Stuck.not_sound (stuck : Stuck upgrade camera) (ending : Ending) :
    ¬upgrade.Sound ending camera := by
  rintro (fits | ⟨_, _, reported⟩)
  · apply fits
    refine ⟨.deploymentEnv, upgrade.new, ?_, ?_⟩
    · rw [stuck.env]
      have staged := upgrade.named_env fun _ => true
      exact staged ▸ List.mem_cons_self
    · rw [upgrade.holds_new, stuck.partition]
      exact upgrade.images_ne
  · obtain ⟨text, same⟩ := stuck.notes _ reported
    cases same

/-- The last copy failed: `deployment.env` is what is left of it. -/
structure Cut (pattern : Pattern Image) (upgrade : Upgrade Image) (camera : Camera Image) :
    Prop where
  config : camera.config =
    Function.update upgrade.before .deploymentEnv (pattern.torn .deploymentEnv)
  partition : camera.partition = upgrade.oldImage
  notes : ∀ message ∈ camera.logged, ∃ text, message = .note text

theorem Cut.sound_iff (cut : Cut pattern upgrade camera) (ending : Ending) :
    upgrade.Sound ending camera ↔
      ∀ release ∈ named .deploymentEnv (pattern.torn .deploymentEnv), release = upgrade.old := by
  have quiet : ¬Upgrade.KeptUp ending camera := by
    rintro ⟨_, _, reported⟩
    obtain ⟨text, same⟩ := cut.notes _ reported
    cases same
  have holds : ∀ release, upgrade.Holds camera.partition release ↔ release = upgrade.old := by
    intro release
    unfold Upgrade.Holds
    simp [cut.partition, upgrade.images_ne]
  unfold Upgrade.Sound
  rw [or_iff_left quiet]
  simp only [Upgrade.Mismatched, not_exists, not_and, not_not, holds]
  constructor
  · intro every release member
    apply every .deploymentEnv release
    rw [cut.config, Function.update_self]
    exact member
  · intro env name release member
    rw [cut.config] at member
    cases name with
    | bootHandoff => exact absurd member List.not_mem_nil
    | cameraIni => exact upgrade.names_ini release member
    | deploymentEnv =>
        rw [Function.update_self] at member
        exact env release member

theorem stuck_of_failed {name : Name} (newer : moved .deploymentEnv = true)
    (other : name ≠ .deploymentEnv) (camera : Camera Image)
    (ready : Ready upgrade moved upgrade.oldImage camera) :
    Stuck upgrade
      { camera with config := Function.update camera.config name (pattern.torn name) } where
  env := by
    show Function.update camera.config name (pattern.torn name) .deploymentEnv = _
    rw [Function.update_of_ne other.symm, ready.config, Upgrade.mixed, if_pos newer]
  partition := ready.partition
  notes := ready.notes

/-- `deployment.env` is the only file that is not yet back. -/
def onlyEnv : Name → Bool := Function.update (fun _ => false) .deploymentEnv true

theorem cut_of_failed (camera : Camera Image) (ready : Ready upgrade onlyEnv upgrade.oldImage camera) :
    Cut pattern upgrade
      { camera with
        config := Function.update camera.config .deploymentEnv (pattern.torn .deploymentEnv) } where
  config := by
    rw [ready.config]
    funext name
    cases name <;> rfl
  partition := ready.partition
  notes := ready.notes

/-- What follows the last copy changes no file. -/
theorem wp_restored {goes : Camera Image → Prop}
    (onward : ∀ camera, Ready upgrade (fun _ => false) upgrade.oldImage camera → goes camera)
    (ready : Ready upgrade (fun _ => false) upgrade.oldImage camera) :
    wp (steps [run pattern .allowRestoredHandoff, run pattern .allowRestoredFiles,
      run pattern .syncRestore]) goes upgrade.Sound camera := by
  have runs := passes_neutral pattern (Ready upgrade (fun _ => false) upgrade.oldImage)
  have passes := passes_cons (runs .allowRestoredHandoff)
    (passes_cons (runs .allowRestoredFiles) (passes_cons (runs .syncRestore) passes_nil))
  exact passes.safe ready onward fun ending _ left => left.sound_old ending

/-- The old files are back, or what is left of `deployment.env` names no other release. -/
theorem wp_restoreConfig {goes : Camera Image → Prop}
    (onward : ∀ camera, Ready upgrade (fun _ => false) upgrade.oldImage camera → goes camera)
    (ready : Ready upgrade (fun _ => true) upgrade.oldImage camera) :
    wp (restoreConfig pattern) goes upgrade.Sound camera ↔ pattern.restores upgrade := by
  have unsound : ∀ ending camera, Stuck upgrade camera → (upgrade.Sound ending camera ↔ False) :=
    fun ending camera stuck => iff_false_intro (stuck.not_sound ending)
  have lastCopy : onlyEnv = Function.update (Function.update (fun _ => true) .bootHandoff false)
      .cameraIni false := by
    funext name
    cases name <;> rfl
  have noneLeft : (fun _ => false) = Function.update onlyEnv .deploymentEnv false := by
    funext name
    cases name <;> rfl
  unfold restoreConfig Pattern.restores
  have third : ∀ camera, Ready upgrade onlyEnv upgrade.oldImage camera →
      (wp (steps [copy pattern .deploymentEnv, run pattern .allowRestoredHandoff,
        run pattern .allowRestoredFiles, run pattern .syncRestore]) goes upgrade.Sound camera ↔
        pattern.ok (.copy .deploymentEnv) = true ∨
          ∀ release ∈ named .deploymentEnv (pattern.torn .deploymentEnv), release = upgrade.old) := by
    intro camera ready
    rw [(passes_copy pattern _ noneLeft cut_of_failed).wp_cons_iff ready
      (fun camera ready => iff_true_intro (wp_restored onward ready))
      fun ending camera cut => cut.sound_iff ending]
    tauto
  have second : ∀ camera,
      Ready upgrade (Function.update (fun _ => true) .bootHandoff false) upgrade.oldImage camera →
      (wp (steps [copy pattern .cameraIni, copy pattern .deploymentEnv,
        run pattern .allowRestoredHandoff, run pattern .allowRestoredFiles,
        run pattern .syncRestore]) goes upgrade.Sound camera ↔ _) := fun camera ready =>
    (passes_copy pattern _ lastCopy (stuck_of_failed rfl nofun)).wp_cons_iff ready third unsound
  rw [(passes_copy pattern .bootHandoff rfl (stuck_of_failed rfl nofun)).wp_cons_iff ready second unsound]
  tauto

section Digests

variable {Digest : Type} [DecidableEq Digest] {md5 : Image → Digest}

theorem writes_test (source : Source) (attempt : Nat) (image : Image) (camera : Camera Image) :
    (flash pattern source attempt).andThen (readBack pattern md5 source attempt (md5 image)) camera =
      (pattern.writes md5 source attempt image,
        { camera with partition := pattern.flashed source attempt }) := by
  unfold Attempt.andThen flash readBack ask Pattern.writes
  cases pattern.ok (.flash source attempt) <;> rfl

theorem Ready.flashed (ready : Ready upgrade moved partition camera) (image : Image) :
    Ready upgrade moved image { camera with partition := image } :=
  ⟨ready.config, ready.kept, rfl, ready.locked, ready.notes⟩

/-- A partition that reads back with the checksum of an image is that image. -/
theorem flashed_of_writes {source : Source} {attempt : Nat} {image : Image}
    (told : ∀ other, md5 other = md5 image → other = image)
    (written : pattern.writes md5 source attempt image = true) :
    pattern.flashed source attempt = image := by
  unfold Pattern.writes at written
  rw [Bool.and_eq_true, Bool.and_eq_true, decide_eq_true_eq] at written
  exact told _ written.2.2

/-- A rollback that is given up ends soundly where that is reported, or where the new
image is in the partition after all. -/
theorem wp_giveUp {goes : Camera Image → Prop} {tries : Nat} (last : tries = 3)
    (ready : Ready upgrade (fun _ => true) partition camera) :
    wp (die pattern (rollbackFailed tries)) goes upgrade.Sound camera ↔
      (pattern.ok (.log (rollbackFailed tries)) = true ∨ partition = upgrade.newImage) := by
  subst last
  have logs : Passes (Ready upgrade (fun _ => true) partition)
      (pattern.ok (.log (rollbackFailed 3)) = true) (log pattern (rollbackFailed 3))
      (fun camera => camera.locked = true ∧ rollbackFailed 3 ∈ camera.logged)
      (Ready upgrade (fun _ => true) partition) :=
    passes_command (fun _ _ => Iff.rfl) (fun _ ready => ⟨ready.locked, List.mem_cons_self⟩)
      fun _ ready => ready
  have exits : ∀ camera : Camera Image, camera.locked = true ∧ rollbackFailed 3 ∈ camera.logged →
      (wp (steps [exit]) goes upgrade.Sound camera ↔ True) := by
    intro camera reported
    apply iff_true_intro
    rw [wp_singleton]
    exact .inr ⟨rfl, reported⟩
  unfold die
  rw [logs.wp_cons_iff ready exits fun ending camera ready => ready.sound_iff_new ending]
  tauto

theorem rollbackSlip_iff_of_written {tries : Nat}
    (written : pattern.writes md5 .backup tries upgrade.oldImage = true) :
    pattern.RollbackSlip md5 upgrade tries ↔ ¬pattern.restores upgrade := by
  constructor
  · intro slip
    cases slip with
    | unrestored _ unrestored => exact unrestored
    | abandoned failed => exact absurd written (by simp [failed])
    | unreported failed => exact absurd written (by simp [failed])
    | later failed => exact absurd written (by simp [failed])
  · exact .unrestored written

theorem rollbackSlip_iff_of_more {tries : Nat}
    (failed : pattern.writes md5 .backup tries upgrade.oldImage = false) (more : tries + 1 < 3) :
    pattern.RollbackSlip md5 upgrade tries ↔
      ¬pattern.retries tries ∧ pattern.flashed .backup tries ≠ upgrade.newImage ∨
        pattern.retries tries ∧ pattern.RollbackSlip md5 upgrade (tries + 1) := by
  constructor
  · intro slip
    cases slip with
    | unrestored written => exact absurd written (by simp [failed])
    | abandoned _ _ stopped left => exact .inl ⟨stopped, left⟩
    | unreported _ last => exact absurd more last
    | later _ _ again slip => exact .inr ⟨again, slip⟩
  · rintro (⟨stopped, left⟩ | ⟨again, slip⟩)
    · exact .abandoned failed more stopped left
    · exact .later failed more again slip

theorem rollbackSlip_iff_of_last {tries : Nat}
    (failed : pattern.writes md5 .backup tries upgrade.oldImage = false) (last : ¬tries + 1 < 3) :
    pattern.RollbackSlip md5 upgrade tries ↔
      pattern.ok (.log (rollbackFailed (tries + 1))) = false ∧
        pattern.flashed .backup tries ≠ upgrade.newImage := by
  constructor
  · intro slip
    cases slip with
    | unrestored written => exact absurd written (by simp [failed])
    | abandoned _ more => exact absurd more last
    | unreported _ _ silent left => exact ⟨silent, left⟩
    | later _ more => exact absurd more last
  · rintro ⟨silent, left⟩
    exact .unreported failed last silent left

/-- The rollback ends soundly, and what follows it does, where none of its slips happens.
The induction is on the attempts that are left. -/
theorem wp_rollback {goes : Camera Image → Prop}
    (told : ∀ image, md5 image = md5 upgrade.oldImage → image = upgrade.oldImage)
    (onward : ∀ camera, Ready upgrade (fun _ => true) upgrade.oldImage camera →
      (goes camera ↔ pattern.restores upgrade))
    {tries : Nat} (few : tries < 3) (ready : Ready upgrade (fun _ => true) partition camera) :
    wp (rollback pattern md5 upgrade tries) goes upgrade.Sound camera ↔
      ¬pattern.RollbackSlip md5 upgrade tries := by
  induction tries using rollback.induct generalizing partition camera with
  | case1 tries inductionHypothesis =>
      have flashed := ready.flashed (pattern.flashed .backup tries)
      rw [rollback, wp_orElse, writes_test]
      cases written : pattern.writes md5 .backup tries upgrade.oldImage with
      | true =>
          rw [if_pos rfl, rollbackSlip_iff_of_written written, not_not]
          rw [flashed_of_writes told written] at flashed ⊢
          exact onward _ flashed
      | false =>
          rw [if_neg Bool.false_ne_true]
          by_cases more : tries + 1 < 3
          · have again : ∀ camera,
                Ready upgrade (fun _ => true) (pattern.flashed .backup tries) camera →
                (wp (steps [rollback pattern md5 upgrade (tries + 1)]) goes upgrade.Sound camera ↔
                  ¬pattern.RollbackSlip md5 upgrade (tries + 1)) := by
              intro camera ready
              rw [wp_singleton]
              exact inductionHypothesis more more ready
            have sleeps : ∀ camera,
                Ready upgrade (fun _ => true) (pattern.flashed .backup tries) camera →
                (wp (steps [run pattern (.sleepRollback tries), rollback pattern md5 upgrade (tries + 1)])
                  goes upgrade.Sound camera ↔ _) := fun camera ready =>
              (passes_neutral pattern _ _).wp_cons_iff ready again
                fun ending camera ready => ready.sound_iff_new ending
            rw [if_pos more, rollbackSlip_iff_of_more written more]
            unfold Pattern.retries retrying
            rw [(passes_announce _).wp_cons_iff flashed sleeps
              fun ending camera ready => ready.sound_iff_new ending]
            tauto
          · have last : tries + 1 = 3 := by omega
            rw [if_neg more, rollbackSlip_iff_of_last written more, wp_giveUp last flashed]
            simp only [← Bool.not_eq_true]
            tauto

/-- Once the old files and the old image are back every end is sound. -/
theorem wp_restoredEnd (ready : Ready upgrade (fun _ => false) upgrade.oldImage camera) :
    wp (steps
      [log pattern (.note "original appfs and configuration restored"), run pattern .syncEnd,
        reboot pattern]) (fun _ => False) upgrade.Sound camera := by
  exact Passes.safe (passes_cons (passes_announce _) (passes_cons (passes_neutral pattern _ _)
    (passes_cons passes_reboot passes_nil))) ready (fun _ impossible => impossible)
    fun ending _ left => left.sound_old ending

/-- Whatever was logged: the new files and the new image. -/
structure Installed (upgrade : Upgrade Image) (camera : Camera Image) : Prop where
  config : camera.config = upgrade.mixed fun _ => true
  partition : camera.partition = upgrade.newImage

theorem Installed.sound (installed : Installed upgrade camera) (ending : Ending) :
    upgrade.Sound ending camera :=
  .inl ((upgrade.mismatched_iff installed.config).mpr
    ⟨fun _ => installed.partition, installed.partition⟩)

theorem passes_report (message : Message) :
    Passes (Installed upgrade) (pattern.ok (.log message) = true) (log pattern message)
      (Installed upgrade) (Installed upgrade) :=
  passes_command (fun _ _ => Iff.rfl)
    (fun _ installed => ⟨installed.config, installed.partition⟩) fun _ installed => installed

theorem passes_exit {invariant after : Camera Image → Prop} :
    Passes invariant False exit after invariant :=
  fun _ holds => ⟨not_false, holds⟩

/-- Once the new image is in the partition with all its files every end is sound. -/
theorem wp_finish (ready : Ready upgrade (fun _ => true) upgrade.newImage camera) :
    wp (finish pattern) (fun _ => False) upgrade.Sound camera := by
  have dies : Passes (Installed upgrade) False
      (die pattern (.abort "config space low after install; feeder retained"))
      (Installed upgrade) (Installed upgrade) :=
    (passes_cons (passes_report _) (passes_cons passes_exit passes_nil)).congr (by simp)
  have installed : Installed upgrade camera := ⟨ready.config, ready.partition⟩
  exact Passes.safe (passes_cons (passes_report _) (passes_cons (passes_neutral pattern _ _)
    (passes_cons (passes_orElse (fun _ _ => Iff.rfl) dies) (passes_cons (passes_report _)
      (passes_cons passes_reboot passes_nil))))) installed (fun _ impossible => impossible)
    fun ending _ left => left.sound ending

/-- A flash write that failed is undone, or its end reported, where no slip of the
rollback happens. -/
theorem wp_undo (told : ∀ image, md5 image = md5 upgrade.oldImage → image = upgrade.oldImage)
    (ready : Ready upgrade (fun _ => true) partition camera) :
    wp (undo pattern md5 upgrade) (fun _ => False) upgrade.Sound camera ↔
      (pattern.ok (.log (.note
          "flash verification failed; restoring original appfs and configuration")) = true ∧
          ¬pattern.RollbackSlip md5 upgrade 0 ∨
        ¬pattern.ok (.log (.note
          "flash verification failed; restoring original appfs and configuration")) = true ∧
          partition = upgrade.newImage) := by
  have onward : ∀ camera, Ready upgrade (fun _ => true) upgrade.oldImage camera →
      (wp (steps
        [restoreConfig pattern, log pattern (.note "original appfs and configuration restored"),
          run pattern .syncEnd, reboot pattern]) (fun _ => False) upgrade.Sound camera ↔
        pattern.restores upgrade) := by
    intro camera ready
    rw [wp_cons]
    exact wp_restoreConfig (fun camera ready => wp_restoredEnd ready) ready
  have rolls : ∀ camera, Ready upgrade (fun _ => true) partition camera →
      (wp (steps
        [rollback pattern md5 upgrade 0, restoreConfig pattern,
          log pattern (.note "original appfs and configuration restored"), run pattern .syncEnd,
          reboot pattern]) (fun _ => False) upgrade.Sound camera ↔
        ¬pattern.RollbackSlip md5 upgrade 0) := by
    intro camera ready
    rw [wp_cons]
    exact wp_rollback told onward (by decide) ready
  unfold undo
  exact (passes_announce _).wp_cons_iff ready rolls fun ending camera ready =>
    ready.sound_iff_new ending

/-- After all files are moved, the run ends soundly where no command before the flash
write fails, and the write does or its rollback has no slip. -/
theorem wp_flash
    (toldNew : ∀ image, md5 image = md5 upgrade.newImage → image = upgrade.newImage)
    (toldOld : ∀ image, md5 image = md5 upgrade.oldImage → image = upgrade.oldImage)
    (ready : Ready upgrade (fun _ => true) partition camera) :
    wp (ifThen
        ((flash pattern .image 0).andThen (readBack pattern md5 .image 0 (md5 upgrade.newImage)))
        (finish pattern) (undo pattern md5 upgrade)) (fun _ => False) upgrade.Sound camera ↔
      (pattern.writes md5 .image 0 upgrade.newImage = true ∨
        pattern.ok (.log (.note
          "flash verification failed; restoring original appfs and configuration")) = true ∧
          ¬pattern.RollbackSlip md5 upgrade 0 ∨
        ¬pattern.ok (.log (.note
          "flash verification failed; restoring original appfs and configuration")) = true ∧
          pattern.flashed .image 0 = upgrade.newImage) := by
  have flashed := ready.flashed (pattern.flashed .image 0)
  rw [wp_ifThen, writes_test]
  cases written : pattern.writes md5 .image 0 upgrade.newImage with
  | true =>
      rw [flashed_of_writes toldNew written] at flashed ⊢
      rw [if_pos rfl]
      simp only [true_or, iff_true]
      exact wp_finish flashed
  | false =>
      rw [if_neg Bool.false_ne_true]
      simp only [Bool.false_eq_true, false_or]
      exact wp_undo toldOld flashed

/-- The files moved before `deployment.env`. -/
def butEnv : Name → Bool := Function.update (fun _ => true) .deploymentEnv false

theorem Committing.sound_iff (committing : Committing upgrade moved camera) (ending : Ending) :
    upgrade.Sound ending camera ↔
      (named .cameraIni (upgrade.before .cameraIni) ≠ [] → moved .cameraIni = false) ∧
        moved .deploymentEnv = false := by
  have old : ∀ newer : Bool, upgrade.oldImage = upgrade.image newer ↔ newer = false := by
    intro newer
    cases newer with
    | false => exact iff_of_true rfl rfl
    | true => exact iff_of_false upgrade.images_ne (by decide)
  rw [committing.toReady.sound_iff, old, old]

theorem wp_settle {goes : Camera Image → Prop} {onward : Prop}
    (goesIff : ∀ camera, Ready upgrade (fun _ => true) upgrade.oldImage camera →
      (goes camera ↔ onward))
    (ready : Ready upgrade (fun _ => true) upgrade.oldImage camera) :
    wp (steps
      [run pattern .allowHandoff, run pattern .allowFiles, run pattern .syncCommit])
      goes upgrade.Sound camera ↔ pattern.settles ∧ onward := by
  have runs := passes_neutral pattern (Ready upgrade (fun _ => true) upgrade.oldImage)
  have passes := passes_cons (runs .allowHandoff)
    (passes_cons (runs .allowFiles) (passes_cons (runs .syncCommit) passes_nil))
  have unsound : ∀ (ending : Ending) (camera : Camera Image),
      Ready upgrade (fun _ => true) upgrade.oldImage camera →
        (upgrade.Sound ending camera ↔ False) := fun ending camera ready =>
    (ready.sound_iff_new ending).trans (iff_false_intro upgrade.images_ne)
  rw [passes.wp_iff ready goesIff unsound]
  unfold Pattern.settles
  tauto

/-- A commit cut short is sound where no file that names the new release was moved. -/
theorem wp_commit {goes : Camera Image → Prop} {onward : Prop}
    (goesIff : ∀ camera, Ready upgrade (fun _ => true) upgrade.oldImage camera →
      (goes camera ↔ onward)) (committing : Committing upgrade (fun _ => false) camera) :
    wp (commit pattern) goes upgrade.Sound camera ↔
      (pattern.ok (.log (.note
          "appfs unmounted; committing paths and flashing verified image")) = true →
        pattern.ok (.move .bootHandoff) = true → pattern.ok (.move .cameraIni) = true →
          (pattern.ok (.move .deploymentEnv) = true ∧ pattern.settles ∧ onward ∨
            ¬pattern.ok (.move .deploymentEnv) = true ∧
              named .cameraIni (upgrade.before .cameraIni) = [])) := by
  have envLeft : butEnv = Function.update (Function.update (fun _ => false) .bootHandoff true)
      .cameraIni true := by
    funext name
    cases name <;> rfl
  have noneLeft : (fun _ => true) = Function.update butEnv .deploymentEnv true := by
    funext name
    cases name <;> rfl
  have announces : Passes (Committing upgrade fun _ => false)
      (pattern.ok (.log (.note
        "appfs unmounted; committing paths and flashing verified image")) = true)
      (log pattern (.note "appfs unmounted; committing paths and flashing verified image"))
      (Committing upgrade fun _ => false) (Committing upgrade fun _ => false) :=
    passes_command (fun _ _ => Iff.rfl)
      (fun _ committing => ⟨committing.toReady.note _, committing.staged⟩)
      fun _ committing => committing
  have third : ∀ camera, Committing upgrade butEnv camera →
      (wp (steps
        [move pattern .deploymentEnv, run pattern .allowHandoff, run pattern .allowFiles,
          run pattern .syncCommit]) goes upgrade.Sound camera ↔ _) := fun camera committing =>
    (passes_move pattern _ rfl noneLeft).wp_cons_iff committing
      (fun camera committing => wp_settle goesIff committing.toReady)
      fun ending camera committing => committing.sound_iff ending
  have second : ∀ camera,
      Committing upgrade (Function.update (fun _ => false) .bootHandoff true) camera →
      (wp (steps
        [move pattern .cameraIni, move pattern .deploymentEnv, run pattern .allowHandoff,
          run pattern .allowFiles, run pattern .syncCommit]) goes upgrade.Sound camera ↔ _) :=
    fun camera committing =>
      (passes_move pattern _ rfl envLeft).wp_cons_iff committing third
        fun ending camera committing => committing.sound_iff ending
  have first : ∀ camera, Committing upgrade (fun _ => false) camera →
      (wp (steps
        [move pattern .bootHandoff, move pattern .cameraIni, move pattern .deploymentEnv,
          run pattern .allowHandoff, run pattern .allowFiles, run pattern .syncCommit])
        goes upgrade.Sound camera ↔ _) := fun camera committing =>
    (passes_move pattern _ rfl rfl).wp_cons_iff committing second
      fun ending camera committing => committing.sound_iff ending
  unfold commit
  rw [announces.wp_cons_iff committing first
    fun ending camera committing => committing.sound_iff ending]
  have unmoved : Function.update (fun _ => false) Name.bootHandoff true .cameraIni = false ∧
    Function.update (fun _ => false) Name.bootHandoff true .deploymentEnv = false := ⟨rfl, rfl⟩
  have moved : butEnv .cameraIni = true ∧ butEnv .deploymentEnv = false := ⟨rfl, rfl⟩
  rw [unmoved.1, unmoved.2, moved.1, moved.2]
  simp only [implies_true, and_self, and_true, Bool.true_eq_false, imp_false, not_not]
  tauto

theorem slip_iff :
    pattern.Slip md5 upgrade ↔
      pattern.commits md5 upgrade ∧
        (¬pattern.ok (.move .deploymentEnv) = true ∧
            named .cameraIni (upgrade.before .cameraIni) ≠ [] ∨
          pattern.ok (.move .deploymentEnv) = true ∧
            (¬pattern.settles ∨
              pattern.settles ∧ ¬pattern.writes md5 .image 0 upgrade.newImage = true ∧
                (¬pattern.ok (.log (.note
                    "flash verification failed; restoring original appfs and configuration"))
                    = true ∧ pattern.flashed .image 0 ≠ upgrade.newImage ∨
                  pattern.ok (.log (.note
                    "flash verification failed; restoring original appfs and configuration"))
                    = true ∧ pattern.RollbackSlip md5 upgrade 0))) := by
  simp only [Bool.not_eq_true]
  constructor
  · intro slip
    cases slip with
    | mixed commits unmoved some => exact ⟨commits, .inl ⟨unmoved, some⟩⟩
    | unflashed commits moved unsettled => exact ⟨commits, .inr ⟨moved, .inl unsettled⟩⟩
    | unannounced commits moved settled failed silent left =>
        exact ⟨commits, .inr ⟨moved, .inr ⟨settled, failed, .inl ⟨silent, left⟩⟩⟩⟩
    | rollback commits moved settled failed said slip =>
        exact ⟨commits, .inr ⟨moved, .inr ⟨settled, failed, .inr ⟨said, slip⟩⟩⟩⟩
  · rintro ⟨commits, ⟨unmoved, some⟩ | ⟨moved, unsettled |
      ⟨settled, failed, ⟨silent, left⟩ | ⟨said, slip⟩⟩⟩⟩
    · exact .mixed commits unmoved some
    · exact .unflashed commits moved unsettled
    · exact .unannounced commits moved settled failed silent left
    · exact .rollback commits moved settled failed said slip

/-- The upgrade ends, and where it does the files name the release in the partition or the
camera is kept up with the failed rollback reported, exactly where no slip happens. -/
theorem upgrade_sound_iff (md5 : Image → Digest) (upgrade : Upgrade Image) (pattern : Pattern Image)
    (toldNew : ∀ image, md5 image = md5 upgrade.newImage → image = upgrade.newImage)
    (toldOld : ∀ image, md5 image = md5 upgrade.oldImage → image = upgrade.oldImage) :
    (upgradeAppfs pattern md5 upgrade (start upgrade)).Ends upgrade.Sound ↔
      ¬pattern.Slip md5 upgrade := by
  have starts : Stopping upgrade none (start upgrade) :=
    ⟨⟨rfl, rfl, rfl, rfl, nofun⟩, rfl, rfl⟩
  have flashes : ∀ camera, Ready upgrade (fun _ => true) upgrade.oldImage camera →
      (wp (steps [ifThen
        ((flash pattern .image 0).andThen (readBack pattern md5 .image 0 (md5 upgrade.newImage)))
        (finish pattern) (undo pattern md5 upgrade)]) (fun _ => False) upgrade.Sound camera ↔ _) :=
    fun camera ready => (wp_singleton _).trans (wp_flash toldNew toldOld ready)
  have commits : ∀ camera, Stopping upgrade (some pattern.saved) camera →
      (wp (steps [commit pattern, ifThen
        ((flash pattern .image 0).andThen (readBack pattern md5 .image 0 (md5 upgrade.newImage)))
        (finish pattern) (undo pattern md5 upgrade)]) (fun _ => False) upgrade.Sound camera ↔ _) :=
    fun camera stopping => (wp_cons _ _).trans (wp_commit flashes stopping.committing)
  rw [ends_iff_wp]
  unfold upgradeAppfs
  rw [passes_stopMedia.wp_cons_iff starts commits
    fun ending camera intact => iff_true_intro (intact.sound ending), slip_iff]
  unfold Pattern.commits
  tauto

end Digests

end Commit

/-! ### A camera -/

section Sample

def sampleRelease : Line := "/mnt/mtd/releases/aaaaaaaa-bbbbbbbb".toList

def sampleFiles : Name → File
  | .bootHandoff => ["#!/bin/sh".toList]
  | .cameraIni => ["backend=imp".toList, "libimp=".toList ++ sampleRelease ++ "/libimp.so".toList]
  | .deploymentEnv => ["JIPC_RELEASE=".toList ++ sampleRelease, "JIPC_APP_MD5=1111".toList]

/-- An update of the camera; the images are told apart by one byte. -/
def sampleUpgrade : Upgrade (List Nat) where
  old := sampleRelease
  package := ⟨"cccccccc-dddddddd".toList, ['4'], ['5'], ['7'], ['6']⟩
  before := sampleFiles
  oldImage := [1]
  newImage := [2]
  root := by decide
  bare := by decide
  other := by decide
  names_env := by decide
  names_ini := by decide
  images_ne := by decide

/-- Nothing fails but the commands given: the processes stop at the first signal. -/
def samplePattern (failing : List Command) : Pattern (List Nat) where
  ok
    | .same _ asked => decide (asked = .first)
    | .mapped _ => false
    | .referenced => false
    | command => decide (command ∉ failing)
  feeder := 400
  tasks := ["/proc/1/task/1"]
  saved := [1]
  flashed
    | .image, _ => [2]
    | .backup, _ => [1]
  torn _ := []

theorem upgrade_sound_iff_sample :
    (upgradeAppfs (samplePattern []) id sampleUpgrade (start sampleUpgrade)).Ends
        sampleUpgrade.Sound ↔
      ¬(samplePattern []).Slip id sampleUpgrade :=
  upgrade_sound_iff id sampleUpgrade (samplePattern []) (fun _ same => same) fun _ same => same

/-- The last of the three moves fails: the script is over with `camera.ini` of the new
release, `deployment.env` of the old one and the old image. -/
theorem failed_move_leaves_mixture :
    ¬(upgradeAppfs (samplePattern [.move .deploymentEnv]) id sampleUpgrade
      (start sampleUpgrade)).Ends sampleUpgrade.Sound := by
  rintro (fits | ⟨_, _, reported⟩)
  · apply fits
    exact ⟨.cameraIni, sampleUpgrade.new, by decide, by decide⟩
  · revert reported
    decide

end Sample

end JooanW3U.Media.UpgradeAppfs

import JooanW3U.Library.Latch
import JooanW3U.Library.Runs

/-!
Owns the media part of `local.rc` with the scripts it starts, `native-boot.sh` and
`boot-handoff.sh`: the marker files in `/opt/jooanipc-open`, what each script does to
them, and which boots any sequence of boots can choose.

Every command of the two scripts may fail or be cut off, but for the `sync` of the
handoff; the rename in `local.rc` is only cut off. A loop that waits is one check: it
passes, runs out or is cut off, and changes no file. Does not own what the media daemon
does, nor the commands that a user clears `native-failed` with.
-/

namespace JooanW3U.Runtime.NativeBoot

open JooanW3U.Library JooanW3U.Library.Crash

/-! ### Files -/

/-- The marker files of `/opt/jooanipc-open`, with their texts. -/
structure Files where
  native_trial : Option String
  native_trial_new : Option String
  native_failed : Option String
  boot_trial : Option String
  boot_trial_new : Option String
deriving Repr, DecidableEq

/-- How the media daemon is to be started in a boot; `rescue` leaves the camera to the
guarded OEM application. -/
inductive Path
  | native
  | handoff
  | rescue
deriving Repr, DecidableEq

/-- What the scripts leave in their order. `started` follows the first marker,
`launching` the network; `transfer` follows the handoff's latch. Process numbers are left
out of the messages. -/
inductive Mark
  | chose (path : Path)
  | started
  | launching
  | native_qualified
  | transfer
  | handoff_qualified
  | logged (message : String)
deriving Repr, DecidableEq

abbrev Machine := Device Files Mark

abbrev Shell := Script Machine Bool

/-- A boot: which of `enabled`, `native` and the two scripts it finds, its identity, how
late the storage was when the boot before ended, and the fates of its commands. -/
structure Boot where
  enabled : Bool
  native : Bool
  native_boot_readable : Bool
  boot_handoff_readable : Bool
  id : String
  lag : Nat
  fates : List Fate
deriving Repr, DecidableEq

/-! ### Commands -/

/-- A command that changes no marker file. -/
def attempt : Shell := .run .check

/-- A text cut off while it is printed: not opened yet, or any beginning. -/
def printed (text : String) (count : Nat) (old : Option String) : Option String :=
  match count with
  | 0 => old
  | count + 1 => some (String.ofList (text.toList.take count))

/-- `log`. -/
def log (message : String) : Shell := Device.mark (.logged message)

/-- `printf … > native-trial.new`. -/
def print_trial (text : String) : Shell :=
  .run (Device.file true (fun files => some { files with native_trial_new := some text })
    fun count files => { files with native_trial_new := printed text count files.native_trial_new })

/-- `mv -f native-trial.new native-trial`; cut off, the file may have both names. -/
def move_trial : Shell :=
  .run (Device.file true
    (fun files => files.native_trial_new.map fun text =>
      { files with native_trial := some text, native_trial_new := none })
    (Device.torn fun files =>
      { files with native_trial := files.native_trial_new.or files.native_trial }))

/-! ### native-boot.sh -/

def stage (boot : Boot) (text : String) : Shell :=
  .steps [
    print_trial ("boot=" ++ boot.id ++ "\nstage=" ++ text ++ "\n"),
    move_trial,
    .run (Device.sync true)]

/-- `fail`, before it exits; the feeder is stopped unless the daemon was launched. -/
def fail (boot : Boot) (launched : Bool) (message : String) : Shell :=
  .steps [
    log (message ++ "; native-trial kept, the next boot uses the OEM handoff"),
    (stage boot ("failed: " ++ message)).ignore,
    if launched then pure true else attempt.ignore]

/-- Commands that each `fail` with their message. -/
def needs (boot : Boot) (launched : Bool) (messages : List String) : Shell :=
  .steps (messages.map fun message => attempt.otherwise (fail boot launched message))

def release_files : List String := ["jooanipc-open", "libimp.so", "libatomic.so.1"]

def checksum_messages : List String :=
  release_files.flatMap fun name =>
    ["cannot checksum " ++ name, "release checksum mismatch: " ++ name]

/-- From the lock to the first marker. -/
def begin_boot (boot : Boot) : Shell :=
  .steps [
    attempt, -- boot_id
    attempt.otherwise (.steps [
      log "boot lock held by another boot script; not launching the media daemon",
      stage boot "failed: boot lock held by another boot script"]),
    stage boot "start"]

/-- From the first marker to the end of the qualification. -/
def qualify_boot (boot : Boot) : Shell :=
  .steps [
    Device.mark .started,
    needs boot false
      (["deployment manifest missing", "release path or storage not qualified",
        "release missing"] ++
        checksum_messages ++ ["configuration rejected", "native boot requires motor_home=1"]),
    (stage boot "network").ignore,
    needs boot false ["Wi-Fi/DHCP did not provide the gateway"],
    log "network ready",
    Device.mark .launching,
    (stage boot "launch").ignore,
    needs boot false [
      "rootfs watchdog feeder missing",
      "cannot stop the rootfs watchdog feeder",
      "rootfs watchdog feeder did not exit"],
    attempt.ignore, -- the daemon, in the background, and its pid file
    needs boot true ["media daemon vanished"],
    attempt.ignore,
    needs boot true [
      "media daemon exited; its armed watchdog resets the camera",
      "media daemon did not become ready"],
    log "media daemon ready; qualifying for 185 seconds",
    (stage boot "qualify").ignore,
    needs boot true [
      "media daemon lost health during qualification",
      "pan/tilt homing failed",
      "pan/tilt homing did not complete",
      "media daemon lost health during final network check",
      "network did not stay healthy"],
    attempt.ignore] -- $run/qualified

/-- `rm -f native-trial native-trial.new`; cut off, it may have removed only the first. -/
def remove_trial : Shell :=
  .run (Device.file true
    (fun files => some { files with native_trial := none, native_trial_new := none })
    (Device.torn fun files => { files with native_trial := none }))

def finish_boot : Shell :=
  .steps [
    Device.mark .native_qualified,
    remove_trial.ignore,
    Script.ignore (.run (Device.sync true)),
    log "native boot qualified; OEM application never started"]

def native_boot (boot : Boot) : Shell :=
  attempt.andThen
    (if boot.enabled && boot.native then
      .steps [begin_boot boot, qualify_boot boot, finish_boot]
    else pure true)

/-! ### boot-handoff.sh -/

/-- `fail` of the handoff, before it exits. -/
def keep_owner (message : String) : Shell :=
  log (message ++ "; leaving current owner alone (trial marker retained if set)")

def handoff_needs (messages : List String) : Shell :=
  .steps (messages.map fun message => attempt.otherwise (keep_owner message))

/-- `[ ! -f boot-trial ]`. -/
def no_boot_trial : Shell :=
  Script.get fun machine => machine.storage.live.boot_trial.isNone

/-- From the calibration to the last check before the latch. -/
def check_handoff : Shell :=
  .steps [
    handoff_needs [
      "syslog did not appear",
      "cannot mark syslog",
      "fresh motor calibration was not observed"],
    log "fresh OEM motor calibration observed",
    handoff_needs
      (["deployment manifest missing", "invalid release path", "invalid Wi-Fi BSSID",
        "Wi-Fi AP pin requires its proven frequency in MHz", "invalid Wi-Fi frequency",
        "invalid Wi-Fi frequency", "existing network controller unavailable",
        "network/controller/storage not committed and healthy", "release missing"] ++
        checksum_messages ++
        ["configuration rejected", "expected exactly one OEM media owner",
          "expected exactly one OEM watchdog owner"]),
    attempt, -- the start time of jooanipc
    attempt, -- the start time of my_watch_dog
    handoff_needs [
      "native media owner already exists",
      "network/controller changed before transfer"]]

/-- `printf … > boot-trial.new`. -/
def print_boot_trial (boot : Boot) : Shell :=
  .run (Device.file true
    (fun files => some { files with boot_trial_new := some (boot.id ++ "\n") })
    fun count files =>
      { files with boot_trial_new := printed (boot.id ++ "\n") count files.boot_trial_new })

/-- `mv boot-trial.new boot-trial`; cut off, the file may have both names. -/
def move_boot_trial : Shell :=
  .run (Device.file true
    (fun files => files.boot_trial_new.map fun text =>
      { files with boot_trial := some text, boot_trial_new := none })
    (Device.torn fun files =>
      { files with boot_trial := files.boot_trial_new.or files.boot_trial }))

/-- The persistent failure latch. -/
def latch_handoff (boot : Boot) : Shell :=
  .steps [
    (print_boot_trial boot).otherwise (keep_owner "cannot write boot trial"),
    move_boot_trial.otherwise (keep_owner "cannot persist boot trial"),
    .run (Device.sync false)]

/-- From the old watchdog to the end of the qualification. -/
def transfer_handoff : Shell :=
  .steps [
    handoff_needs [
      "watchdog identity changed",
      "cannot stop old watchdog",
      "cannot stop old watchdog",
      "old watchdog did not exit",
      "OEM media identity changed",
      "cannot stop OEM media",
      "cannot stop OEM media",
      "OEM media did not exit",
      "kernel/IVDC/media descriptors did not detach; reset required",
      "cannot time final network handoff"],
    attempt, -- the uptime while the network settles
    handoff_needs ["network did not settle after OEM stop; armed watchdog will recover"],
    attempt.ignore, -- /tmp/jooanipc-open.homed
    log "OEM media detached; transferring the armed watchdog to native media",
    attempt.ignore, -- the daemon, in the background, and its pid file
    handoff_needs ["new process vanished"],
    attempt.ignore,
    handoff_needs [
      "native service exited; armed watchdog will recover",
      "native service did not become ready"],
    log "native service ready; qualifying for 185 seconds",
    handoff_needs [
      "native trial lost health; armed watchdog will recover",
      "native health lost during final network qualification",
      "final controller health did not recover",
      "final native health check failed"],
    attempt.ignore] -- $run/qualified

/-- `rm -f boot-trial`. -/
def remove_boot_trial : Shell :=
  .run (Device.file true (fun files => some { files with boot_trial := none })
    (Device.torn fun files => { files with boot_trial := none }))

def finish_handoff : Shell :=
  .steps [
    Device.mark .handoff_qualified,
    remove_boot_trial.ignore,
    .run (Device.sync false),
    log "boot handoff qualified; network controller, SSH and native watchdog retained"]

/-- The script without arguments; a boot has one holder of the lock. -/
def boot_handoff (boot : Boot) : Shell :=
  attempt.andThen do
    if ← attempt then
      attempt.andThen
        (if boot.enabled then
          .steps [
            no_boot_trial.otherwise
              (keep_owner "previous boot trial did not qualify; guarded OEM rescue selected"),
            check_handoff,
            latch_handoff boot,
            Device.mark .transfer,
            transfer_handoff,
            finish_handoff]
        else pure true)
    else pure true

/-! ### local.rc -/

/-- `mv -f native-trial native-failed`; cut off, the file may have both names. -/
def latch_native : Shell :=
  .run (Device.file false
    (fun files => files.native_trial.map fun text =>
      { files with native_failed := some text, native_trial := none })
    (Device.torn fun files =>
      { files with native_failed := files.native_trial.or files.native_failed }))

/-- The script of the path, which starts nothing for the rescue. -/
def start (boot : Boot) : Path → Shell
  | .native => native_boot boot
  | .handoff => boot_handoff boot
  | .rescue => pure true

/-- The boot's path, where `native-failed` is there or not. -/
def choose (boot : Boot) (failed : Bool) : Path :=
  if boot.native && !failed && boot.native_boot_readable then .native
  else if boot.boot_handoff_readable then .handoff
  else .rescue

/-- `if [ -f native-trial ]`. -/
def latch_trial : Shell := do
  if ← Script.get fun machine => machine.storage.live.native_trial.isSome then
    latch_native.ignore
  else pure true

/-- The media part of the hook. -/
def local_rc (boot : Boot) : Shell :=
  if boot.enabled then do
    let _ ← latch_trial
    let failed ← Script.get fun machine => machine.storage.live.native_failed.isSome
    let _ ← Device.mark (.chose (choose boot failed))
    start boot (choose boot failed)
  else Device.mark (.chose .rescue)

/-- One boot after another: what a power loss has left, and what the hook makes of it. -/
def power_on (machine : Machine) (boot : Boot) : Machine :=
  (local_rc boot boot.fates (machine.restart boot.lag)).state

/-- The marks of these boots, oldest first. -/
def marks (storage : Storage Files) (boots : List Boot) : List Mark :=
  (boots.foldl power_on ⟨storage, []⟩).log

/-! ### The two latches -/

/-- A native boot past its first marker, until it qualifies. -/
def native_latch : Latch Files Mark where
  begins
    | .started | .launching => true
    | _ => false
  settles
    | .native_qualified => true
    | _ => false
  barred
    | .chose .native => true
    | _ => false
  latched files := files.native_trial.isSome || files.native_failed.isSome

/-- A handoff past its latch, until it qualifies. -/
def handoff_latch : Latch Files Mark where
  begins
    | .transfer => true
    | _ => false
  settles
    | .handoff_qualified => true
    | _ => false
  barred
    | .transfer => true
    | _ => false
  latched files := files.boot_trial.isSome

/-! ### Commands that keep an invariant -/

/-- What the commands that both scripts are built from keep. -/
structure Stable (Invariant : Machine → Prop) : Prop where
  log : ∀ message, Keeps Invariant (log message)
  print_trial : ∀ text, Keeps Invariant (print_trial text)
  move_trial : Keeps Invariant move_trial
  sync : ∀ mayFail, Keeps Invariant (.run (Device.sync mayFail))

section Stable

variable {Invariant : Machine → Prop}

theorem attempt_keeps : Keeps Invariant attempt := keeps_check

theorem Stable.stage (stable : Stable Invariant) (boot : Boot) (text : String) :
    Keeps Invariant (stage boot text) :=
  keeps_andThen (stable.print_trial _)
    (keeps_andThen stable.move_trial (keeps_andThen (stable.sync true) (keeps_pure true)))

theorem Stable.fail (stable : Stable Invariant) (boot : Boot) (launched : Bool)
    (message : String) : Keeps Invariant (fail boot launched message) := by
  refine keeps_andThen (stable.log _) (keeps_andThen (keeps_ignore (stable.stage boot _))
    (keeps_andThen ?_ (keeps_pure true)))
  exact keeps_ite (fun _ => keeps_pure true) fun _ => keeps_ignore attempt_keeps

theorem Stable.needs (stable : Stable Invariant) (boot : Boot) (launched : Bool)
    (messages : List String) : Keeps Invariant (needs boot launched messages) := by
  refine keeps_steps fun step member => ?_
  obtain ⟨message, -, rfl⟩ := List.mem_map.mp member
  exact keeps_otherwise attempt_keeps (stable.fail boot launched message)

theorem Stable.handoff_needs (stable : Stable Invariant) (messages : List String) :
    Keeps Invariant (handoff_needs messages) := by
  refine keeps_steps fun step member => ?_
  obtain ⟨message, -, rfl⟩ := List.mem_map.mp member
  exact keeps_otherwise attempt_keeps (stable.log _)

theorem Stable.check_handoff (stable : Stable Invariant) : Keeps Invariant check_handoff :=
  keeps_andThen (stable.handoff_needs _) (keeps_andThen (stable.log _)
    (keeps_andThen (stable.handoff_needs _) (keeps_andThen attempt_keeps
      (keeps_andThen attempt_keeps (keeps_andThen (stable.handoff_needs _) (keeps_pure true))))))

/-- The qualification, for an invariant that its two marks keep as well. -/
theorem Stable.qualify_boot (stable : Stable Invariant)
    (started : Keeps Invariant (Device.mark .started))
    (launching : Keeps Invariant (Device.mark .launching)) (boot : Boot) :
    Keeps Invariant (qualify_boot boot) := by
  have staged : ∀ text, Keeps Invariant (NativeBoot.stage boot text).ignore :=
    fun text => keeps_ignore (stable.stage boot text)
  have ignored : Keeps Invariant attempt.ignore := keeps_ignore attempt_keeps
  refine keeps_andThen started (keeps_andThen (stable.needs boot _ _) ?_)
  refine keeps_andThen (staged _) (keeps_andThen (stable.needs boot _ _) ?_)
  refine keeps_andThen (stable.log _) (keeps_andThen launching (keeps_andThen (staged _) ?_))
  refine keeps_andThen (stable.needs boot _ _) (keeps_andThen ignored ?_)
  refine keeps_andThen (stable.needs boot _ _) (keeps_andThen ignored ?_)
  refine keeps_andThen (stable.needs boot _ _) (keeps_andThen (stable.log _) ?_)
  refine keeps_andThen (staged _) (keeps_andThen (stable.needs boot _ _) ?_)
  exact keeps_andThen ignored (keeps_pure true)

theorem Stable.transfer_handoff (stable : Stable Invariant) :
    Keeps Invariant transfer_handoff := by
  have ignored : Keeps Invariant attempt.ignore := keeps_ignore attempt_keeps
  refine keeps_andThen (stable.handoff_needs _) ?_
  refine keeps_andThen attempt_keeps (keeps_andThen (stable.handoff_needs _) ?_)
  refine keeps_andThen ignored (keeps_andThen (stable.log _) (keeps_andThen ignored ?_))
  refine keeps_andThen (stable.handoff_needs _) (keeps_andThen ignored ?_)
  refine keeps_andThen (stable.handoff_needs _) (keeps_andThen (stable.log _) ?_)
  exact keeps_andThen (stable.handoff_needs _) (keeps_andThen ignored (keeps_pure true))

end Stable

/-! ### The native latch -/

theorem log_holds_native (message : String) : Keeps native_latch.Holds (log message) :=
  Latch.keeps_holds_mark rfl rfl

theorem print_trial_respects (text : String) :
    native_latch.Respects (fun files => some { files with native_trial_new := some text })
      fun count files =>
        { files with native_trial_new := printed text count files.native_trial_new } where
  effect files after latched printed := by
    cases Option.some.inj printed
    exact latched
  torn _ _ latched := latched

theorem move_trial_respects :
    native_latch.Respects
      (fun files => files.native_trial_new.map fun text =>
        { files with native_trial := some text, native_trial_new := none })
      (Device.torn fun files =>
        { files with native_trial := files.native_trial_new.or files.native_trial }) := by
  refine Latch.respects_torn (fun files after _ moved => ?_) fun files latched => ?_
  · obtain ⟨text, -, rfl⟩ := Option.map_eq_some_iff.mp moved
    rfl
  · simp only [native_latch, Bool.or_eq_true] at latched ⊢
    rcases latched with trial | failed
    · exact .inl (by rw [Option.isSome_or, trial, Bool.or_true])
    · exact .inr failed

theorem stable_settled : Stable native_latch.Settled where
  log _ := Latch.keeps_settled_mark rfl
  print_trial _ := Latch.keeps_settled_file
  move_trial := Latch.keeps_settled_file
  sync _ := Latch.keeps_settled_sync

theorem stable_holds_native : Stable native_latch.Holds where
  log := log_holds_native
  print_trial text := (print_trial_respects text).keeps_holds
  move_trial := move_trial_respects.keeps_holds
  sync _ := Latch.keeps_holds_sync

theorem stable_armed : Stable native_latch.Armed where
  log message := (log_holds_native message).and Latch.keeps_latched_mark
  print_trial text := (stable_holds_native.print_trial text).and
    (print_trial_respects text).keeps_latched
  move_trial := stable_holds_native.move_trial.and move_trial_respects.keeps_latched
  sync mayFail := (stable_holds_native.sync mayFail).and Latch.keeps_latched_sync

/-- A mark that begins a native boot, under its marker. -/
theorem keeps_armed_mark {mark : Mark} (free : native_latch.barred mark = false) :
    Keeps native_latch.Armed (Device.mark mark) :=
  Device.triple_mark fun _ armed =>
    ⟨armed.1.note (fun barred => absurd (free.symm.trans barred) Bool.false_ne_true)
      fun _ => armed.2, armed.2⟩

/-- A stage that succeeds has put the marker where no power loss removes it. -/
theorem stage_readies (boot : Boot) (text : String) :
    Triple native_latch.Settled (stage boot text)
      (fun ok machine => if ok then native_latch.Ready machine else native_latch.Settled machine)
      native_latch.Settled := by
  refine triple_steps_keep Latch.keeps_settled_file (fun _ settled => settled) ?_
  refine triple_steps_cons _ (Latch.triple_marker_file fun files after moved => ?_) ?_
  · obtain ⟨text, -, rfl⟩ := Option.map_eq_some_iff.mp moved
    rfl
  · exact triple_steps_cons _ Latch.triple_marker_sync (triple_steps_nil fun _ ready => ready)

theorem begin_boot_readies (boot : Boot) :
    Triple native_latch.Settled (begin_boot boot)
      (fun ok machine => if ok then native_latch.Ready machine else native_latch.Settled machine)
      native_latch.Settled := by
  refine triple_steps_keep attempt_keeps (fun _ settled => settled) ?_
  refine triple_steps_keep ?_ (fun _ settled => settled) ?_
  · refine keeps_otherwise attempt_keeps (keeps_andThen (stable_settled.log _) ?_)
    exact keeps_andThen (stable_settled.stage boot _) (keeps_pure true)
  · exact triple_steps_cons _ (stage_readies boot "start") (triple_steps_nil fun _ ready => ready)

theorem finish_boot_settles :
    Triple native_latch.Holds finish_boot (fun _ => native_latch.Holds) native_latch.Holds := by
  refine triple_steps_cons native_latch.Settled
    (Device.triple_mark fun _ holds => holds.settle rfl rfl rfl) ?_
  have removed : Keeps native_latch.Settled (.steps [remove_trial.ignore,
      Script.ignore (.run (Device.sync true)),
      log "native boot qualified; OEM application never started"]) :=
    keeps_andThen (keeps_ignore Latch.keeps_settled_file)
      (keeps_andThen (keeps_ignore Latch.keeps_settled_sync)
        (keeps_andThen (stable_settled.log _) (keeps_pure true)))
  exact removed.consequence (fun _ settled => settled) (fun _ _ settled => settled.1)
    fun _ settled => settled.1

/-- A native boot that finds nothing owed keeps the latch, wherever it stops. -/
theorem native_boot_latches (boot : Boot) :
    Triple native_latch.Settled (native_boot boot) (fun _ => native_latch.Holds)
      native_latch.Holds := by
  have enters : ∀ machine, native_latch.Settled machine → native_latch.Holds machine :=
    fun _ settled => settled.1
  have leaves : ∀ machine, native_latch.Armed machine → native_latch.Holds machine :=
    fun _ armed => armed.1
  refine triple_andThen_keep (attempt_keeps.consequence (fun _ settled => settled)
    (fun _ _ settled => settled) enters) enters ?_
  refine triple_ite (fun _ => ?_) fun _ => triple_pure enters
  refine triple_steps_cons native_latch.Ready ((begin_boot_readies boot).consequence
    (fun _ settled => settled) ?_ enters) ?_
  · intro ok machine begun
    cases ok with
    | true => exact begun
    | false => exact enters machine begun
  refine triple_steps_cons native_latch.Holds ((stable_armed.qualify_boot (keeps_armed_mark rfl)
    (keeps_armed_mark rfl) boot).consequence (fun _ ready => ⟨ready.1.1, ready.2⟩) ?_ leaves) ?_
  · intro ok machine armed
    cases ok with
    | true => exact leaves machine armed
    | false => exact leaves machine armed
  · refine triple_steps_keep finish_boot_settles (fun _ holds => holds) ?_
    exact triple_steps_nil fun _ holds => holds

theorem boot_handoff_keeps_native (boot : Boot) :
    Keeps native_latch.Holds (boot_handoff boot) := by
  have owner : ∀ message, Keeps native_latch.Holds (keep_owner message) :=
    fun message => log_holds_native _
  have printed : Keeps native_latch.Holds (print_boot_trial boot) := by
    refine Latch.Respects.keeps_holds
      ⟨fun files after latched printed => ?_, fun _ _ latched => latched⟩
    cases Option.some.inj printed
    exact latched
  have moved : Keeps native_latch.Holds move_boot_trial := by
    refine Latch.Respects.keeps_holds (Latch.respects_torn (fun files after latched moved => ?_)
      fun _ latched => latched)
    obtain ⟨text, -, rfl⟩ := Option.map_eq_some_iff.mp moved
    exact latched
  have removed : Keeps native_latch.Holds remove_boot_trial := by
    refine Latch.Respects.keeps_holds (Latch.respects_torn (fun files after latched removed => ?_)
      fun _ latched => latched)
    cases Option.some.inj removed
    exact latched
  refine keeps_andThen attempt_keeps (keeps_bind attempt_keeps fun locked => ?_)
  refine keeps_ite (fun _ => ?_) fun _ => keeps_pure true
  refine keeps_andThen attempt_keeps (keeps_ite (fun _ => ?_) fun _ => keeps_pure true)
  refine keeps_andThen (keeps_otherwise (keeps_get _) (owner _)) ?_
  refine keeps_andThen stable_holds_native.check_handoff (keeps_andThen ?_ ?_)
  · exact keeps_andThen (keeps_otherwise printed (owner _)) (keeps_andThen
      (keeps_otherwise moved (owner _)) (keeps_andThen Latch.keeps_holds_sync (keeps_pure true)))
  refine keeps_andThen (Latch.keeps_holds_mark rfl rfl) ?_
  refine keeps_andThen stable_holds_native.transfer_handoff (keeps_andThen ?_ (keeps_pure true))
  refine keeps_andThen (Latch.keeps_holds_mark rfl rfl) (keeps_andThen (keeps_ignore removed) ?_)
  exact keeps_andThen Latch.keeps_holds_sync (keeps_andThen (log_holds_native _) (keeps_pure true))

theorem latch_native_respects :
    native_latch.Respects
      (fun files => files.native_trial.map fun text =>
        { files with native_failed := some text, native_trial := none })
      (Device.torn fun files =>
        { files with native_failed := files.native_trial.or files.native_failed }) := by
  refine Latch.respects_torn (fun files after _ moved => ?_) fun files latched => ?_
  · obtain ⟨text, -, rfl⟩ := Option.map_eq_some_iff.mp moved
    rfl
  · simp only [native_latch, Bool.or_eq_true] at latched ⊢
    rcases latched with trial | failed
    · exact .inl trial
    · exact .inr (by rw [Option.isSome_or, failed, Bool.or_true])

/-- The hook goes on only when no trial marker is left. -/
theorem latch_trial_clears :
    Triple native_latch.Holds latch_trial
      (fun _ machine => native_latch.Holds machine ∧ machine.storage.live.native_trial = none)
      native_latch.Holds := by
  refine triple_bind (fun found machine => native_latch.Holds machine ∧
    machine.storage.live.native_trial.isSome = found) (triple_get fun _ holds => ⟨holds, rfl⟩)
    fun found => ?_
  cases found with
  | false =>
      exact triple_pure fun _ reached =>
        ⟨reached.1, Option.isNone_iff_eq_none.mp (Option.isSome_eq_false_iff.mp reached.2)⟩
  | true =>
      refine triple_bind (fun _ machine => native_latch.Holds machine ∧
        machine.storage.live.native_trial = none) (triple_run ?_ ?_ ?_) fun _ =>
          triple_pure fun _ reached => reached
      · intro machine after reached changed
        obtain ⟨files, moved, rfl⟩ := Option.map_eq_some_iff.mp changed
        refine ⟨latch_native_respects.changed reached.1 moved, ?_⟩
        obtain ⟨text, -, rfl⟩ := Option.map_eq_some_iff.mp moved
        rfl
      · intro machine reached unchanged
        have missing : machine.storage.live.native_trial = none :=
          Option.map_eq_none_iff.mp (Option.map_eq_none_iff.mp unchanged)
        exact ⟨reached.1, missing⟩
      · exact fun machine count reached =>
          ⟨fun failing => absurd failing Bool.false_ne_true,
            latch_native_respects.tore reached.1 count⟩

theorem choose_native {boot : Boot} {failed : Bool} (chosen : choose boot failed = .native) :
    failed = false := by
  cases failed with
  | false => rfl
  | true =>
      unfold choose at chosen
      rw [Bool.not_true, Bool.and_false, Bool.false_and] at chosen
      split at chosen
      · rename_i impossible
        exact absurd impossible Bool.false_ne_true
      · split at chosen <;> exact absurd chosen nofun

/-- The script of the chosen path, for what was found on the way to it. -/
theorem start_latches (boot : Boot) (path : Path) :
    Triple (fun machine => native_latch.Holds machine ∧
        (path = .native → native_latch.Settled machine))
      (start boot path) (fun _ => native_latch.Holds) native_latch.Holds := by
  cases path with
  | native =>
      exact (native_boot_latches boot).consequence (fun _ reached => reached.2 rfl)
        (fun _ _ holds => holds) fun _ holds => holds
  | handoff =>
      exact (boot_handoff_keeps_native boot).consequence (fun _ reached => reached.1)
        (fun _ _ holds => holds) fun _ holds => holds
  | rescue => exact triple_pure fun _ reached => reached.1

theorem local_rc_keeps_native (boot : Boot) : Keeps native_latch.Holds (local_rc boot) := by
  refine triple_ite (fun _ => ?_) fun _ => Latch.keeps_holds_mark rfl rfl
  refine triple_bind _ latch_trial_clears fun _ => ?_
  refine triple_bind (fun failed machine => native_latch.Holds machine ∧
    (failed = false → native_latch.Settled machine)) (triple_get fun machine reached => ?_)
    fun failed => ?_
  · refine ⟨reached.1, fun absent => reached.1.settled ?_⟩
    simp only [native_latch, reached.2, absent, Option.isSome_none, Bool.or_self]
  refine triple_bind (fun _ machine => native_latch.Holds machine ∧
    (choose boot failed = .native → native_latch.Settled machine))
    (Device.triple_mark fun machine reached => ?_) fun _ => start_latches boot _
  have settled : choose boot failed = .native → native_latch.Settled machine :=
    fun chosen => reached.2 (choose_native chosen)
  refine ⟨reached.1.note (fun barred => ?_) nofun, fun chosen => (settled chosen).note rfl⟩
  cases path : choose boot failed with
  | native => exact (settled path).2
  | handoff =>
      rw [path] at barred
      exact absurd barred Bool.false_ne_true
  | rescue =>
      rw [path] at barred
      exact absurd barred Bool.false_ne_true

/-! ### The handoff's latch -/

theorem log_holds_handoff (message : String) : Keeps handoff_latch.Holds (log message) :=
  Latch.keeps_holds_mark rfl rfl

theorem stable_holds_handoff : Stable handoff_latch.Holds where
  log := log_holds_handoff
  print_trial text := by
    refine Latch.Respects.keeps_holds
      ⟨fun files after latched printed => ?_, fun _ _ latched => latched⟩
    cases Option.some.inj printed
    exact latched
  move_trial := by
    refine Latch.Respects.keeps_holds (Latch.respects_torn (fun files after latched moved => ?_)
      fun _ latched => latched)
    obtain ⟨text, -, rfl⟩ := Option.map_eq_some_iff.mp moved
    exact latched
  sync _ := Latch.keeps_holds_sync

theorem stable_settled_handoff : Stable handoff_latch.Settled where
  log _ := Latch.keeps_settled_mark rfl
  print_trial _ := Latch.keeps_settled_file
  move_trial := Latch.keeps_settled_file
  sync _ := Latch.keeps_settled_sync

theorem native_boot_keeps_handoff (boot : Boot) :
    Keeps handoff_latch.Holds (native_boot boot) := by
  have stable := stable_holds_handoff
  have marks : ∀ mark, handoff_latch.begins mark = false → handoff_latch.barred mark = false →
      Keeps handoff_latch.Holds (Device.mark mark) :=
    fun _ quiet free => Latch.keeps_holds_mark quiet free
  have removed : Keeps handoff_latch.Holds remove_trial := by
    refine Latch.Respects.keeps_holds (Latch.respects_torn (fun files after latched removed => ?_)
      fun _ latched => latched)
    cases Option.some.inj removed
    exact latched
  refine keeps_andThen attempt_keeps (keeps_ite (fun _ => ?_) fun _ => keeps_pure true)
  refine keeps_andThen ?_ (keeps_andThen
    (stable.qualify_boot (marks _ rfl rfl) (marks _ rfl rfl) boot)
    (keeps_andThen ?_ (keeps_pure true)))
  · refine keeps_andThen attempt_keeps (keeps_andThen (keeps_otherwise attempt_keeps ?_) ?_)
    · exact keeps_andThen (stable.log _) (keeps_andThen (stable.stage boot _) (keeps_pure true))
    · exact keeps_andThen (stable.stage boot _) (keeps_pure true)
  · exact keeps_andThen (marks _ rfl rfl) (keeps_andThen (keeps_ignore removed)
      (keeps_andThen (keeps_ignore (stable.sync true))
        (keeps_andThen (stable.log _) (keeps_pure true))))

/-- The handoff goes on only when no trial marker stands, so nothing is owed. -/
theorem no_boot_trial_settles (message : String) :
    Triple handoff_latch.Holds (no_boot_trial.otherwise (keep_owner message))
      (fun ok machine => if ok then handoff_latch.Settled machine else handoff_latch.Holds machine)
      handoff_latch.Holds := by
  refine triple_otherwise handoff_latch.Holds ?_ (log_holds_handoff _)
  refine triple_get fun machine holds => ?_
  cases absent : machine.storage.live.boot_trial with
  | none => exact holds.settled (congrArg Option.isSome absent)
  | some text => exact holds

/-- The latch that is in place before the transfer. -/
theorem latch_handoff_readies (boot : Boot) :
    Triple handoff_latch.Settled (latch_handoff boot)
      (fun ok machine => if ok then handoff_latch.Ready machine else handoff_latch.Settled machine)
      handoff_latch.Settled := by
  refine triple_steps_keep (keeps_otherwise Latch.keeps_settled_file (stable_settled_handoff.log _))
    (fun _ settled => settled) ?_
  refine triple_steps_cons _ (triple_otherwise _
    (Latch.triple_marker_file fun files after moved => ?_)
    (stable_settled_handoff.log _)) ?_
  · obtain ⟨text, -, rfl⟩ := Option.map_eq_some_iff.mp moved
    rfl
  · exact triple_steps_cons _ Latch.triple_marker_sync (triple_steps_nil fun _ ready => ready)

theorem finish_handoff_settles :
    Triple handoff_latch.Holds finish_handoff (fun _ => handoff_latch.Holds)
      handoff_latch.Holds := by
  refine triple_steps_cons handoff_latch.Settled
    (Device.triple_mark fun _ holds => holds.settle rfl rfl rfl) ?_
  have removed : Keeps handoff_latch.Settled (.steps [remove_boot_trial.ignore,
      .run (Device.sync false),
      log "boot handoff qualified; network controller, SSH and native watchdog retained"]) :=
    keeps_andThen (keeps_ignore Latch.keeps_settled_file)
      (keeps_andThen Latch.keeps_settled_sync
        (keeps_andThen (stable_settled_handoff.log _) (keeps_pure true)))
  exact removed.consequence (fun _ settled => settled) (fun _ _ settled => settled.1)
    fun _ settled => settled.1

theorem boot_handoff_keeps_handoff (boot : Boot) :
    Keeps handoff_latch.Holds (boot_handoff boot) := by
  have enters : ∀ machine, handoff_latch.Settled machine → handoff_latch.Holds machine :=
    fun _ settled => settled.1
  refine keeps_andThen attempt_keeps (keeps_bind attempt_keeps fun locked => ?_)
  refine keeps_ite (fun _ => ?_) fun _ => keeps_pure true
  refine keeps_andThen attempt_keeps (keeps_ite (fun _ => ?_) fun _ => keeps_pure true)
  refine triple_steps_cons _ (no_boot_trial_settles _) ?_
  refine triple_steps_keep (stable_settled_handoff.check_handoff.consequence
    (fun _ settled => settled) (fun _ _ settled => settled) enters) enters ?_
  refine triple_steps_cons handoff_latch.Ready ((latch_handoff_readies boot).consequence
    (fun _ settled => settled) (fun ok machine reached => ?_) enters) ?_
  · cases ok with
    | true => exact reached
    | false => exact enters machine reached
  refine triple_steps_cons handoff_latch.Holds (Device.triple_mark fun machine ready =>
    ready.1.1.note (fun _ => ready.1.2) fun _ => ready.2) ?_
  refine triple_steps_keep stable_holds_handoff.transfer_handoff (fun _ holds => holds) ?_
  refine triple_steps_keep finish_handoff_settles (fun _ holds => holds) ?_
  exact triple_steps_nil fun _ holds => holds

theorem local_rc_keeps_handoff (boot : Boot) : Keeps handoff_latch.Holds (local_rc boot) := by
  have chose : ∀ path, Keeps handoff_latch.Holds (Device.mark (.chose path)) :=
    fun path => Latch.keeps_holds_mark rfl rfl
  have moved : Keeps handoff_latch.Holds latch_native := by
    refine Latch.Respects.keeps_holds (Latch.respects_torn (fun files after latched moved => ?_)
      fun _ latched => latched)
    obtain ⟨text, -, rfl⟩ := Option.map_eq_some_iff.mp moved
    exact latched
  refine keeps_ite (fun _ => ?_) fun _ => chose .rescue
  refine keeps_bind (keeps_bind (keeps_get _) fun found =>
    keeps_ite (fun _ => keeps_ignore moved) fun _ => keeps_pure true) fun _ => ?_
  refine keeps_bind (keeps_get _) fun failed => keeps_bind (chose _) fun _ => ?_
  cases choose boot failed with
  | native => exact native_boot_keeps_handoff boot
  | handoff => exact boot_handoff_keeps_handoff boot
  | rescue => exact keeps_pure true

/-! ### Any sequence of boots -/

/-- Both latches hold after any boots, each cut off or failing anywhere. -/
theorem latches_hold (storage : Storage Files) (boots : List Boot) :
    native_latch.Holds (boots.foldl power_on ⟨storage, []⟩) ∧
      handoff_latch.Holds (boots.foldl power_on ⟨storage, []⟩) := by
  constructor
  · exact foldl_preserves (fun machine boot holds =>
      (local_rc_keeps_native boot).state boot.fates (holds.restart boot.lag)) boots
      (Latch.holds_nil storage)
  · exact foldl_preserves (fun machine boot holds =>
      (local_rc_keeps_handoff boot).state boot.fates (holds.restart boot.lag)) boots
      (Latch.holds_nil storage)

/-- After a native boot that passed its first marker, and so after any that launched the
daemon or tried to, the boots take the handoff or the rescue until it has qualified. -/
def FallsBack (log : List Mark) : Prop :=
  ∀ before tried between path after,
    log = before ++ tried :: (between ++ .chose path :: after) →
    tried = .started ∨ tried = .launching →
    .native_qualified ∉ between → path = .handoff ∨ path = .rescue

/-- A handoff trial is not followed by another before it has qualified. -/
def TriesOnce (log : List Mark) : Prop :=
  ∀ before between after,
    log = before ++ .transfer :: (between ++ .transfer :: after) → .handoff_qualified ∈ between

theorem boots_latched (storage : Storage Files) (boots : List Boot) :
    FallsBack (marks storage boots) ∧ TriesOnce (marks storage boots) := by
  have holds := latches_hold storage boots
  constructor
  · intro before tried between path after split attempted unqualified
    have begun : native_latch.begins tried = true ∧ native_latch.settles tried = false := by
      rcases attempted with rfl | rfl
      · exact ⟨rfl, rfl⟩
      · exact ⟨rfl, rfl⟩
    cases path with
    | native =>
        obtain ⟨settled, member, settles⟩ := holds.1.settles_between begun.1 begun.2 rfl split
        have qualified : settled = .native_qualified := by
          cases settled with
          | native_qualified => rfl
          | _ => exact absurd settles Bool.false_ne_true
        exact absurd (qualified ▸ member) unqualified
    | handoff => exact .inl rfl
    | rescue => exact .inr rfl
  · intro before between after split
    have begun : handoff_latch.begins .transfer = true := rfl
    obtain ⟨settled, member, settles⟩ := holds.2.settles_between begun rfl rfl split
    have qualified : settled = .handoff_qualified := by
      cases settled with
      | handoff_qualified => rfl
      | _ => exact absurd settles Bool.false_ne_true
    exact qualified ▸ member

end JooanW3U.Runtime.NativeBoot

import JooanW3U.Media.PlatformSafety
import JooanW3U.Media.PresetFile

/-!
Owns the preset catalogue over whole runs of the platform together with its file.
Main result: while the writes succeed, the catalogue is well formed and its file
loads as the whole of it, whatever the clients ask for and the driver answers.

Does not own failing writes or the replay backend's head.
-/

namespace JooanW3U.Media.Platform

open JooanW3U.Library

/-! ## Everything else keeps the catalogue -/

/-- The travel is one `motor_limits` accepts or the factory's. -/
def Machine.Bounded (m : Machine) : Prop :=
  (0 ≤ m.pan_max ∧ m.pan_max ≤ 8600) ∧ 0 ≤ m.tilt_max ∧ m.tilt_max ≤ 2000

/-- The presets are as they were and the travel stays bounded. -/
def Frames (m m' : Machine) : Prop :=
  m'.presets = m.presets ∧ (m.Bounded → m'.Bounded)

theorem Frames.same {m m' : Machine} (presets : m'.presets = m.presets)
    (limits : m'.limits = m.limits) : Frames m m' := by
  obtain ⟨pan, tilt⟩ := Prod.mk.inj limits
  refine ⟨presets, fun bounded => ?_⟩
  unfold Machine.Bounded
  rw [pan, tilt]
  exact bounded

theorem Frames.refl (m : Machine) : Frames m m := .same rfl rfl

theorem Frames.trans {first middle last : Machine} (left : Frames first middle)
    (right : Frames middle last) : Frames first last :=
  ⟨right.1.trans left.1, fun bounded => right.2 (left.2 bounded)⟩

theorem Sensed.frames {m m' : Machine} (sensed : Sensed m m') : Frames m m' := by
  obtain ⟨_, _, _, _, _, rfl, -⟩ := sensed
  exact .same rfl rfl

/-- What an attempt's every outcome keeps, the outcome it had keeps. -/
theorem frames_of_ran {attempt : Attempt Machine} {m m' : Machine} {done : Bool}
    (frames : ∀ m, Frames m (attempt m).2) (ran : attempt m = (done, m')) : Frames m m' := by
  have kept := frames m
  rwa [ran] at kept

theorem andThen_frames {first second : Attempt Machine} (left : ∀ m, Frames m (first m).2)
    (right : ∀ m, Frames m (second m).2) (m : Machine) : Frames m (first.andThen second m).2 :=
  Attempt.andThen_related Frames Frames.trans left right m

section Frames

variable (a : Answers) (now : Nat) (m : Machine)

theorem ioctl_frames (request : Bool → Act) (taken : Bool) (m : Machine) :
    Frames m (ioctl request taken m).2 :=
  .same rfl rfl

theorem motor_read_frames (reading : Option MotorPosition) (m : Machine) :
    Frames m (motor_read reading m).2 :=
  (motor_read_sensed reading m).frames

theorem motor_limits_frames (info : Option (List Name)) (m : Machine) :
    Frames m (motor_limits info m).2 := by
  unfold motor_limits
  split
  · exact .refl m
  · next limits scanned =>
      have bounds := infoLimits_bounds scanned
      have bounded : (0 ≤ limits.1 ∧ limits.1 ≤ 8600) ∧ 0 ≤ limits.2 ∧ limits.2 ≤ 2000 := by omega
      exact ⟨rfl, fun _ => bounded⟩

theorem motor_open_device_frames (m : Machine) : Frames m (motor_open_device a m).2 := by
  have calls := andThen_frames (motor_limits_frames a.info)
    (andThen_frames (ioctl_frames (.speed MOTOR_RATE) a.openSpeed) (motor_read_frames a.openReading))
  have opening : Frames m { m with motor_fd := true } := .same rfl rfl
  unfold motor_open_device
  split
  · exact .refl m
  · split
    · exact .refl m
    · split
      · next ran => exact opening.trans (frames_of_ran calls ran)
      · next m' ran =>
          have closing : Frames m' { m' with motor_fd := false } := .same rfl rfl
          exact (opening.trans (frames_of_ran calls ran)).trans closing

theorem motor_stop_motion_frames (a : Halt) (m : Machine) :
    Frames m (motor_stop_motion a m).2 := by
  have clearing : Frames m m.cleared := .same rfl rfl
  exact clearing.trans (motor_stop_motion_sensed a m).frames

theorem worker_error_frames (a : Halt) (m : Machine) : Frames m (worker_error a m) :=
  (motor_stop_motion_frames a m).trans (.same rfl rfl)

theorem position_track_frames (written : Bool) (m : Machine) :
    Frames m (position_track written now m) := by
  unfold position_track
  split
  · exact .same rfl rfl
  · split
    · exact .same rfl rfl
    · split
      · exact .refl m
      · exact .same rfl rfl

theorem home_sweep_frames (m : Machine) : Frames m (home_sweep now a m).2 := by
  unfold home_sweep
  simp only
  split
  · exact .same rfl rfl
  · split
    · exact .same rfl rfl
    · exact .same rfl rfl

theorem motor_home_begin_frames (m : Machine) : Frames m (motor_home_begin now a m).2 :=
  andThen_frames
    (andThen_frames (motor_stop_motion_frames a.halt) (ioctl_frames (.speed HOME_SPEED) a.speed))
    (home_sweep_frames a now) m

theorem homingFails_frames : Frames m (m.homingFails a) :=
  (.same rfl rfl : Frames m { m with homing := .idle }).trans (worker_error_frames a.error _)

theorem home_complete_frames : Frames m (home_complete now a m) := by
  unfold home_complete
  simp only
  split
  · exact .same rfl rfl
  · exact .same rfl rfl

theorem home_tick_frames : Frames m (home_tick now a m) := by
  have settled := andThen_frames (ioctl_frames .stop a.stop)
    (andThen_frames (motor_limits_frames a.info) (motor_read_frames a.again))
  unfold home_tick
  split
  · exact homingFails_frames a m
  · split
    · exact .refl m
    · split
      · next ran =>
          exact (frames_of_ran (motor_read_frames a.reading) ran).trans (homingFails_frames a _)
      · next ran =>
          have read := frames_of_ran (motor_read_frames a.reading) ran
          split
          · exact read
          · split
            · exact read
            · split
              · exact read.trans (.same rfl rfl)
              · split
                · next ran =>
                    exact (read.trans (frames_of_ran settled ran)).trans (homingFails_frames a _)
                · next ran =>
                    exact (read.trans (frames_of_ran settled ran)).trans
                      (home_complete_frames a now _)

theorem reset_returned_frames (failed : Bool) : Frames m (reset_returned now failed a m) := by
  have looped : Frames m { m with worker := .loop } := .same rfl rfl
  unfold reset_returned
  simp only
  split
  · exact looped.trans (homingFails_frames a _)
  · exact .same rfl rfl

theorem send_frames (purpose : Purpose) (dx dy : Int) : Frames m (send purpose dx dy a m) := by
  rw [send_cases]
  split
  · exact (.same rfl rfl : Frames m (m.atSpeed a)).trans (worker_error_frames a.error _)
  · simp only
    split
    · exact (.same rfl rfl : Frames m _).trans (worker_error_frames a.error _)
    · exact .same rfl rfl

theorem next_move_frames : Frames m (next_move now a m) := by
  unfold next_move
  split
  · simp only
    split
    · exact motor_stop_motion_frames a.halt m
    · exact send_frames a m .goto _ _
  · split
    · simp only
      have sent : Frames m { m with manual_sent := true } := .same rfl rfl
      split
      · exact sent.trans (motor_stop_motion_frames a.halt _)
      · exact sent.trans (send_frames a _ .manual _ _)
    · exact motor_stop_motion_frames a.halt m

theorem native_tick_frames : Frames m (native_tick now a m) := by
  have stopped := andThen_frames (ioctl_frames .stop a.stop) (motor_read_frames a.again)
  unfold native_tick
  split
  · exact home_tick_frames a now m
  · split
    · exact .refl m
    · split
      · exact worker_error_frames a.error m
      · split
        · split
          · next m' ran =>
              have log : Frames m' (m'.log .expired) := .same rfl rfl
              exact (frames_of_ran (motor_stop_motion_frames a.halt) ran).trans log
          · next m' ran =>
              have log : Frames m' (m'.log .expired) := .same rfl rfl
              exact ((frames_of_ran (motor_stop_motion_frames a.halt) ran).trans log).trans
                (worker_error_frames a.error _)
        · split
          · next ran =>
              exact (frames_of_ran (motor_read_frames a.reading) ran).trans
                (worker_error_frames a.error _)
          · next ran =>
              have read := frames_of_ran (motor_read_frames a.reading) ran
              split
              · split
                · exact read
                · split
                  · next ran =>
                      exact (read.trans (frames_of_ran stopped ran)).trans
                        (worker_error_frames a.error _)
                  · next m' ran =>
                      have ended : Frames m' { m' with chunk_active := false } := .same rfl rfl
                      exact ((read.trans (frames_of_ran stopped ran)).trans ended).trans
                        (next_move_frames a now _)
              · exact read.trans (next_move_frames a now _)

theorem worker_turn_frames : Frames m (worker_turn now a m) := by
  unfold worker_turn
  split
  · exact (motor_stop_motion_frames a.halt m).trans (.same rfl rfl)
  · simp only
    split
    · exact native_tick_frames a now m
    · exact (native_tick_frames a now m).trans (position_track_frames now a.positionWritten _)

/-! ### Client operations -/

theorem control_motion_frames (nudge : Bool) (value value2 : Int) :
    Frames m (control_motion nudge value value2 now a m).2 := by
  simp only [control_motion]
  split
  · exact .same rfl rfl
  · split
    · next ran => exact frames_of_ran (motor_stop_motion_frames a.halt) ran
    · next ran => exact (frames_of_ran (motor_stop_motion_frames a.halt) ran).trans (.same rfl rfl)

theorem control_stop_frames : Frames m (control_stop a m).2 := by
  unfold control_stop
  split
  · next ran => exact frames_of_ran (motor_stop_motion_frames a.halt) ran
  · next ran => exact frames_of_ran (motor_stop_motion_frames a.halt) ran

theorem saveFirst_frames (sensed written : Bool) : Frames m (saveFirst sensed written m) := by
  unfold saveFirst
  split
  · exact .same rfl rfl
  · exact .refl m

theorem control_recalibrate_frames : Frames m (control_recalibrate now a m).2 := by
  have ready : Frames m
      ({ saveFirst (motor_read a.reading m).1 a.positionWritten (motor_read a.reading m).2 with
        patrol_move := false }.accept .recalibrate) :=
    ((motor_read_frames a.reading m).trans (saveFirst_frames _ _ _)).trans (.same rfl rfl)
  unfold control_recalibrate
  simp only
  split
  · next ran => exact ready.trans (frames_of_ran (motor_home_begin_frames a now) ran)
  · next ran =>
      exact (ready.trans (frames_of_ran (motor_home_begin_frames a now) ran)).trans
        (worker_error_frames a.error _)

theorem control_preset_goto_frames (patrol : Bool) (value : Int) :
    Frames m (control_preset_goto patrol value now a m).2 := by
  unfold control_preset_goto
  split
  · exact .refl m
  · split
    · exact .refl m
    · split
      · next ran => exact frames_of_ran (motor_stop_motion_frames a.halt) ran
      · next ran => exact (frames_of_ran (motor_stop_motion_frames a.halt) ran).trans (.same rfl rfl)

theorem jipc_platform_move_frames (kind : Move) (x y speed : ℚ) :
    Frames m (jipc_platform_move kind x y speed now a m).2 := by
  unfold jipc_platform_move
  split
  · exact .refl m
  · split
    · next ran => exact frames_of_ran (motor_open_device_frames a) ran
    · next ran =>
        have opened := frames_of_ran (motor_open_device_frames a) ran
        split
        · exact opened
        · split
          · exact opened
          · split
            · next ran => exact opened.trans (frames_of_ran (motor_stop_motion_frames a.halt) ran)
            · next ran =>
                exact (opened.trans (frames_of_ran (motor_stop_motion_frames a.halt) ran)).trans
                  (.same rfl rfl)

theorem jipc_platform_privacy_frames (on : Bool) (slot : Int) :
    Frames m (jipc_platform_privacy on slot now a m).2 := by
  have parking : Frames m (m.parking on slot) := .same rfl rfl
  have halted := andThen_frames (motor_open_device_frames a) (motor_stop_motion_frames a.halt)
  unfold jipc_platform_privacy
  simp only
  split
  · exact parking
  · split
    · next ran => exact parking.trans (frames_of_ran halted ran)
    · next m' ran =>
        have stopped := parking.trans (frames_of_ran halted ran)
        split
        · have here : Frames m' (m'.returnHere m.privacy) := by
            unfold Machine.returnHere
            split
            · exact .same rfl rfl
            · exact .refl m'
          exact (stopped.trans here).trans (.same rfl rfl)
        · split
          · split
            · exact stopped.trans (.same rfl rfl)
            · exact stopped.trans (.same rfl rfl)
            · exact stopped
          · exact stopped

theorem read_status_frames : Frames m (read_status a m) := by
  unfold read_status
  split
  · exact .refl m
  · exact andThen_frames (motor_open_device_frames a) (motor_read_frames a.reading) m

theorem jipc_platform_start_frames : Frames m (jipc_platform_start now a m) := by
  have begun : ∀ m : Machine, Frames m (motor_home_begin now a (m.log (.accepted .start))).2 :=
    fun m => (.same rfl rfl : Frames m (m.log (.accepted .start))).trans
      (motor_home_begin_frames a now _)
  have attempted := andThen_frames (motor_open_device_frames a) begun
  unfold jipc_platform_start
  split
  · exact .refl m
  · split
    · next ran => exact frames_of_ran attempted ran
    · next ran => exact (frames_of_ran attempted ran).trans (worker_error_frames a.error _)

end Frames

/-! ## The catalogue's operations -/

/-- The operations that save the presets. -/
def Operation.savesPresets (operation : Operation) : Prop :=
  operation = preset_set ∨ operation = preset_rename ∨ operation = preset_remove

instance (operation : Operation) : Decidable operation.savesPresets :=
  inferInstanceAs (Decidable (_ ∨ _))

def accepts (reply : Reply) : Bool :=
  match reply with
  | .ok _ => true
  | .error _ => false

structure Machine.Catalogued (m : Machine) : Prop where
  presets : WellFormed false m.presets
  bounded : m.Bounded

/-- The presets stay a catalogue, and change only where this is true. -/
structure Saves (saved : Bool) (m m' : Machine) : Prop where
  catalogued : m.Catalogued → m'.Catalogued
  unsaved : saved = false → m'.presets = m.presets

theorem Frames.saves {m m' : Machine} (frames : Frames m m') (saved : Bool) : Saves saved m m' where
  catalogued := fun catalogued =>
    ⟨frames.1.symm ▸ catalogued.presets, frames.2 catalogued.bounded⟩
  unsaved := fun _ => frames.1

theorem Frames.before {first middle last : Machine} {saved : Bool} (frames : Frames first middle)
    (saves : Saves saved middle last) : Saves saved first last where
  catalogued := fun catalogued => saves.catalogued ((frames.saves saved).catalogued catalogued)
  unsaved := fun no => (saves.unsaved no).trans frames.1

theorem keepIfSaved_saves {message : String} {slot : Nat} {preset : Option SavedPreset}
    {a : Answers} {m : Machine}
    (wellFormed : m.Catalogued → WellFormed false (m.presets.set slot preset)) :
    Saves (accepts (keepIfSaved message slot preset a m).1) m
      (keepIfSaved message slot preset a m).2 := by
  unfold keepIfSaved
  split
  · exact ⟨fun catalogued => ⟨wellFormed catalogued, catalogued.bounded⟩, nofun⟩
  · exact ⟨id, fun _ => rfl⟩

theorem nameTaken_free {presets : List (Option SavedPreset)} {slot : Nat} {name : Name}
    (free : ¬nameTaken presets slot name = true) (other : Nat) (q : SavedPreset)
    (different : other ≠ slot) (found : presets[other]? = some (some q)) :
    sameIgnoringCase name q.name = false := by
  have unused := List.any_eq_false.mp (Bool.not_eq_true _ ▸ free) (some q, other)
    (List.mem_zipIdx_iff_getElem?.mpr found)
  simpa [different] using unused

theorem presetAt_mem {presets : List (Option SavedPreset)} {slot : Int} {preset : SavedPreset}
    (found : presetAt presets slot = some preset) : some preset ∈ presets := by
  unfold presetAt at found
  split at found
  · rw [List.getD_eq_getElem?_getD] at found
    cases place : presets[(slot - 1).toNat]? with
    | none => exact absurd found (by rw [place]; nofun)
    | some kept =>
        rw [place, Option.getD_some] at found
        exact found ▸ List.mem_of_getElem? place
  · exact absurd found nofun

/-- After a reading the position is one the catalogue may hold. -/
theorem motor_read_valid {reading : Option MotorPosition} {m m' : Machine} (bounded : m.Bounded)
    (read : motor_read reading m = (true, m')) : coordinatesValid false m'.x m'.y := by
  rcases motor_read_cases reading m with failed | ⟨position, ok⟩
  · exact absurd (failed.symm.trans read) (by simp)
  · obtain ⟨-, rfl⟩ := Prod.mk.inj (ok.symm.trans read)
    obtain ⟨⟨panLow, panHigh⟩, tiltLow, tiltHigh⟩ := bounded
    have across := clamp_inside panLow position.x
    have along := clamp_inside tiltLow position.y
    exact ⟨across.1, across.2.trans panHigh, along.1, along.2.trans tiltHigh⟩

theorem control_preset_set_saves {value : Int} {name : Option Name} (a : Answers) (m : Machine)
    (slot : m.presets.length ≤ PRESET_COUNT → 1 ≤ value ∧ value ≤ PRESET_COUNT)
    (valid : ∀ text, name = some text → preset_name_valid text = true) :
    Saves (accepts (control_preset_set value name a m).1) m (control_preset_set value name a m).2 := by
  have halted := andThen_frames (motor_stop_motion_frames a.halt) (motor_read_frames a.reading)
  unfold control_preset_set
  split
  · next ran => exact (frames_of_ran halted ran).saves _
  · next m' ran =>
      have frames := frames_of_ran halted ran
      simp only
      split
      · exact frames.saves _
      · next free =>
          obtain ⟨stopped, halts, read⟩ := Attempt.andThen_eq_true ran
          have bounded := (frames_of_ran (motor_stop_motion_frames a.halt) halts).2
          have placed : m.Bounded → coordinatesValid false m'.x m'.y :=
            fun before => motor_read_valid (bounded before) read
          refine ⟨fun catalogued => ?_, fun unsaved => ?_⟩
          · have before := (frames.saves true).catalogued catalogued
            refine (keepIfSaved_saves fun _ => ?_).catalogued before
            apply before.presets.set _ (placed catalogued.bounded) (nameTaken_free free)
            cases name with
            | some text => exact valid text rfl
            | none =>
                cases kept : presetAt m'.presets value with
                | some previous => exact before.presets.names previous (presetAt_mem kept)
                | none =>
                    have inside := slot catalogued.presets.slots.le
                    have number : value = ((value - 1).toNat + 1 : Nat) := by omega
                    rw [Option.getD_none, Option.elim_none, number]
                    exact presetName_valid _ (by omega)
          · unfold keepIfSaved at unsaved ⊢
            split at unsaved
            · exact absurd unsaved nofun
            · next failed =>
                rw [if_neg failed]
                exact frames.1

theorem control_preset_rename_saves {value : Int} {name : Option Name} (a : Answers) (m : Machine)
    (valid : ∀ text, name = some text → preset_name_valid text = true) :
    Saves (accepts (control_preset_rename value name a m).1) m
      (control_preset_rename value name a m).2 := by
  unfold control_preset_rename
  split
  · exact (Frames.refl m).saves _
  · exact (Frames.refl m).saves _
  · next text preset found =>
      split
      · exact (Frames.refl m).saves _
      · next free =>
          refine keepIfSaved_saves fun catalogued => ?_
          exact catalogued.presets.set (valid text rfl)
            (catalogued.presets.coordinates preset (presetAt_mem found)) (nameTaken_free free)

theorem control_preset_remove_saves (value : Int) (a : Answers) (m : Machine) :
    Saves (accepts (control_preset_remove value a m).1) m (control_preset_remove value a m).2 := by
  unfold control_preset_remove
  split
  · next ran => exact (frames_of_ran (motor_stop_motion_frames a.halt) ran).saves _
  · next ran =>
      apply (frames_of_ran (motor_stop_motion_frames a.halt) ran).before
      exact keepIfSaved_saves fun catalogued => catalogued.presets.remove _

/-! ## A request -/

/-- The call has written the presets' file. -/
def Request.saved (r : Request) (now : Nat) (a : Answers) (m : Machine) : Bool :=
  r.operation.savesPresets && accepts (platform_control r now a m).1

/-- A check that did not refuse. -/
theorem passed {refused : Prop} [Decidable refused] {message : String} {rest : Option String}
    (none_left : (if refused then some message else rest) = none) : ¬refused ∧ rest = none := by
  by_cases refuses : refused
  · rw [if_pos refuses] at none_left
    exact absurd none_left nofun
  · exact ⟨refuses, by rwa [if_neg refuses] at none_left⟩

/-- What `platform_control` has checked of a request it does not refuse. -/
theorem Request.checked {r : Request} (valid : r.invalid = none) :
    ¬(r.operation.preset_op ∧ (r.value < 1 ∨ r.value > PRESET_COUNT) ∧
        ¬(r.allocates = true ∧ r.operation = .preset_set ∧ r.value = 0)) ∧
      ∀ text, r.name = some text → preset_name_valid text = true := by
  unfold Request.invalid at valid
  split at valid
  · exact absurd valid nofun
  · obtain ⟨-, valid⟩ := passed valid
    obtain ⟨slot, valid⟩ := passed valid
    obtain ⟨-, valid⟩ := passed valid
    obtain ⟨-, valid⟩ := passed valid
    obtain ⟨name, -⟩ := passed valid
    refine ⟨slot, fun text given => ?_⟩
    simpa [given] using name

/-- A request to set a preset is for one of the slots. -/
theorem allocate_slot {r : Request} {m : Machine} {value : Int} (valid : r.invalid = none)
    (slots : m.presets.length ≤ PRESET_COUNT) (sets : r.operation = .preset_set)
    (given : allocate r m = some value) : 1 ≤ value ∧ value ≤ PRESET_COUNT := by
  unfold allocate at given
  split at given
  · obtain ⟨number, found, rfl⟩ := Option.map_eq_some_iff.mp given
    cases search : m.presets.findIdx? (·.isNone) with
    | none =>
        rw [search] at found
        exact absurd found nofun
    | some index =>
        obtain ⟨below, -⟩ := List.findIdx?_eq_some_iff_getElem.mp search
        rw [search] at found
        obtain rfl := Option.some.inj found
        omega
  · next asked =>
      obtain rfl := Option.some.inj given
      have checked := (Request.checked valid).1
      by_contra outside
      exact checked ⟨.inl sets, by omega, asked⟩

theorem perform_saves (r : Request) (value : Int) (now : Nat) (a : Answers) (m : Machine)
    (slot : r.operation = .preset_set → m.presets.length ≤ PRESET_COUNT →
      1 ≤ value ∧ value ≤ PRESET_COUNT)
    (valid : ∀ text, r.name = some text → preset_name_valid text = true) :
    Saves (r.operation.savesPresets && accepts (perform r value now a m).1) m
      (perform r value now a m).2 := by
  unfold perform
  cases operation : r.operation with
  | preset_set => exact control_preset_set_saves a m (slot operation) valid
  | preset_rename => exact control_preset_rename_saves a m valid
  | preset_remove => exact control_preset_remove_saves value a m
  | ptz => exact (control_motion_frames a now m _ _ _).saves _
  | ptz_nudge => exact (control_motion_frames a now m _ _ _).saves _
  | ptz_stop => exact (control_stop_frames a m).saves _
  | ptz_recalibrate => exact (control_recalibrate_frames a now m).saves _
  | preset_goto => exact (control_preset_goto_frames a now m _ _).saves _
  | preset_patrol => exact (control_preset_goto_frames a now m _ _).saves _
  | night | ircut | white_light | pilot_led | speaker_enable | ir_mode | other =>
      apply Frames.saves
      exact .same rfl rfl

theorem dispatch_saves (r : Request) (value : Int) (now : Nat) (a : Answers) (m : Machine)
    (slot : r.operation = .preset_set → m.presets.length ≤ PRESET_COUNT →
      1 ≤ value ∧ value ≤ PRESET_COUNT)
    (valid : ∀ text, r.name = some text → preset_name_valid text = true) :
    Saves (r.operation.savesPresets && accepts (dispatch r value now a m).1) m
      (dispatch r value now a m).2 := by
  unfold dispatch
  split
  · exact (Frames.refl m).saves _
  · split
    · exact (Frames.refl m).saves _
    · exact perform_saves r value now a m slot valid

/-- A request keeps the catalogue well formed, and leaves it alone unless it has saved it. -/
theorem platform_control_saves (r : Request) (now : Nat) (a : Answers) (m : Machine) :
    Saves (r.saved now a m) m (platform_control r now a m).2 := by
  unfold Request.saved platform_control
  split
  · exact (Frames.refl m).saves _
  · next valid =>
      split
      · exact (Frames.refl m).saves _
      · split
        · exact (Frames.refl m).saves _
        · next value given =>
            have slot := fun sets slots => allocate_slot valid slots sets given
            split
            · split
              · next ran => exact (frames_of_ran (motor_open_device_frames a) ran).saves _
              · next ran =>
                  have frames := frames_of_ran (motor_open_device_frames a) ran
                  rw [← frames.1] at slot
                  exact frames.before
                    (dispatch_saves r value now a _ slot (Request.checked valid).2)
            · exact dispatch_saves r value now a m slot (Request.checked valid).2

/-! ## Runs with the file -/

/-- The platform with the file of its presets. -/
structure Kept where
  machine : Machine
  file : Stored

/-- The entry writes the presets' file. -/
def Entry.saved (e : Entry) (m : Machine) : Bool :=
  match e.event with
  | .control r => r.saved e.now e.answers m
  | _ => false

/-- The file after an entry: the text `presets_save` made, where it was written. -/
def Kept.write (s : Kept) (e : Entry) (machine : Machine) : Stored :=
  if e.saved s.machine = true then (presets_save false machine.presets).elim s.file .file
  else s.file

/-- A step whose write, if it comes to one, succeeds. -/
def Kept.step (s : Kept) (e : Entry) : Option Kept :=
  if e.answers.presetsSaved = true then
    (Platform.step s.machine e).map fun machine => { machine, file := s.write e machine }
  else none

theorem call_saves {e : Entry} {m m' : Machine}
    (called : e.call m = some m') : Saves (e.saved m) m m' := by
  have entered : ∀ {machine : Machine}, some machine = some m' → Frames m machine →
      Saves false m m' := by
    intro machine same frames
    exact Option.some.inj same ▸ frames.saves false
  unfold Entry.call at called
  split at called
  · exact absurd called nofun
  · cases event : e.event with
    | control r =>
        simp only [event] at called
        rw [Entry.saved, event, ← Option.some.inj called]
        exact platform_control_saves r e.now e.answers m
    | move kind x y speed =>
        simp only [event] at called
        rw [Entry.saved, event]
        exact entered called (jipc_platform_move_frames e.answers e.now m kind x y speed)
    | privacy on slot =>
        simp only [event] at called
        rw [Entry.saved, event]
        exact entered called (jipc_platform_privacy_frames e.answers e.now m on slot)
    | status =>
        simp only [event] at called
        rw [Entry.saved, event]
        exact entered called (read_status_frames e.answers m)
    | start =>
        simp only [event] at called
        rw [Entry.saved, event]
        exact entered called (jipc_platform_start_frames e.answers e.now m)
    | appStop =>
        simp only [event] at called
        rw [Entry.saved, event]
        exact entered called (.same rfl rfl)
    | quit =>
        simp only [event] at called
        rw [Entry.saved, event]
        have leaving : Frames m { m with quitting := true } := .same rfl rfl
        exact entered called (leaving.trans (motor_stop_motion_frames e.answers.halt _))
    | worker =>
        simp only [event] at called
        exact absurd called nofun
    | resetReturns failed =>
        simp only [event] at called
        exact absurd called nofun

/-- No step touches the catalogue but a request that saves it. -/
theorem step_saves {e : Entry} {m m' : Machine}
    (stepped : Platform.step m e = some m') : Saves (e.saved m) m m' := by
  unfold Platform.step at stepped
  split at stepped
  · rw [← Option.some.inj stepped]
    exact (worker_turn_frames e.answers e.now m).saves _
  · exact absurd stepped nofun
  · next failed now event _ =>
      rw [← Option.some.inj stepped]
      exact ((reset_returned_frames e.answers now m failed).trans
        (position_track_frames now e.answers.positionWritten _)).saves _
  · exact absurd stepped nofun
  · exact call_saves stepped

/-- The catalogue is well formed and the next start would load it as it is. -/
structure Kept.Sound (legacy : Stored) (s : Kept) : Prop where
  catalogued : s.machine.Catalogued
  loads : presets_load false s.file legacy = some s.machine.presets

theorem Kept.Sound.step {legacy : Stored} {s s' : Kept} {e : Entry} (sound : s.Sound legacy)
    (stepped : s.step e = some s') : s'.Sound legacy := by
  unfold Kept.step at stepped
  split at stepped
  case isFalse => exact absurd stepped nofun
  obtain ⟨machine, moved, rfl⟩ := Option.map_eq_some_iff.mp stepped
  have saves := step_saves moved
  have after := saves.catalogued sound.catalogued
  refine ⟨after, ?_⟩
  by_cases saved : e.saved s.machine = true
  · obtain ⟨text, wrote, loads⟩ := presets_load_save after.presets legacy
    simp only [Kept.write, if_pos saved, wrote, Option.elim_some]
    exact loads
  · have same := saves.unsaved (Bool.not_eq_true _ ▸ saved)
    simp only [Kept.write, if_neg saved, same]
    exact sound.loads

theorem WellFormed.apart {replay : Bool} {presets : List (Option SavedPreset)}
    (wellFormed : WellFormed replay presets) {i j : Nat} {p q : SavedPreset}
    (first : presets[i]? = some (some p)) (second : presets[j]? = some (some q))
    (different : i ≠ j) : sameIgnoringCase p.name q.name = false := by
  have ordered := List.pairwise_iff_getElem.mp wellFormed.distinct
  obtain ⟨below, left⟩ := List.getElem?_eq_some_iff.mp first
  obtain ⟨above, right⟩ := List.getElem?_eq_some_iff.mp second
  rcases Nat.lt_or_gt_of_ne different with less | more
  · exact ordered i j below above less p left q right
  · rw [sameIgnoringCase_symm]
    exact ordered j i above below more q right p left

/-- After any run in which the writes succeed, the presets have printable names that
differ by more than case, and both the text `presets_save` makes of them and the file
on the disk load as the whole catalogue. -/
theorem catalogue_survives_every_run (boot : Boot) (file legacy : Stored)
    (loaded : presets_load false file legacy = some boot.catalogue.presets)
    (entries : List Entry) (s : Kept) (ran : runs Kept.step ⟨boot.machine, file⟩ entries = some s) :
    (∀ preset, some preset ∈ s.machine.presets → PrintableName preset.name) ∧
      (∀ (i j : Nat) (p q : SavedPreset), s.machine.presets[i]? = some (some p) →
        s.machine.presets[j]? = some (some q) → i ≠ j →
          sameIgnoringCase p.name q.name = false) ∧
      (∃ text, presets_save false s.machine.presets = some text ∧
        presets_load false (.file text) legacy = some s.machine.presets) ∧
      presets_load false s.file legacy = some s.machine.presets := by
  have bounded : boot.machine.Bounded := by
    simp only [Machine.Bounded, Boot.machine, platform_get]
    decide
  have initially : Kept.Sound legacy ⟨boot.machine, file⟩ :=
    ⟨⟨presets_load_wellFormed loaded, bounded⟩, loaded⟩
  have sound : s.Sound legacy :=
    (run_of_runs ran).preserves (fun _ _ _ sound step => sound.step step) initially
  have catalogue := sound.catalogued.presets
  exact ⟨fun preset member => preset_name_valid_printable (catalogue.names preset member),
    fun _ _ _ _ first second different => catalogue.apart first second different,
    presets_load_save catalogue legacy, sound.loads⟩

/-- A preset is created with a name of quotes and a backslash, one with the default
name; the first is renamed to the same letters in the other case, the second removed. -/
def catalogueEntries : List Entry :=
  let answers := driverAt 2000 600 "4080" "1230"
  [⟨.control ⟨.preset_set, 0, 0, some "\"Yard\" \\u0000".toList, true⟩, 1000, answers⟩,
    ⟨.control ⟨.preset_set, 0, 0, none, true⟩, 2000, answers⟩,
    ⟨.control ⟨.preset_rename, 1, 0, some "\"YARD\" \\U0000".toList, false⟩, 3000, answers⟩,
    ⟨request .preset_remove 2 0, 4000, answers⟩]

theorem catalogue_survives_every_run_renamed :
    ∃ s, runs Kept.step ⟨homedBoot.machine, .missing⟩ catalogueEntries = some s ∧
      s.machine.presets = some ⟨2000, 600, "\"YARD\" \\U0000".toList⟩ :: List.replicate 15 none ∧
        presets_load false s.file .missing = some s.machine.presets := by
  have evaluated : (runs Kept.step ⟨homedBoot.machine, .missing⟩ catalogueEntries).map
      (fun s => s.machine.presets) =
        some (some ⟨2000, 600, "\"YARD\" \\U0000".toList⟩ :: List.replicate 15 none) := by
    decide +kernel
  obtain ⟨s, ran, presets⟩ := Option.map_eq_some_iff.mp evaluated
  have facts := catalogue_survives_every_run homedBoot .missing .missing rfl catalogueEntries s ran
  exact ⟨s, ran, presets, facts.2.2.2⟩

end JooanW3U.Media.Platform

import JooanW3U.Media.PanTilt
import JooanW3U.Media.PlatformControl

/-!
Owns the refinement of the platform's entries to the abstract head: every entry,
whatever the driver answers, is a run of the head's steps.  The two lapses of the
head are taken only where an entry's own condition fails.
-/

namespace JooanW3U.Media.Platform

open JooanW3U.Library

/-- What the abstract head sees of a machine. -/
def Machine.head (m : Machine) : Head where
  opened := m.motor_fd
  x := m.x
  y := m.y
  pan_max := m.pan_max
  tilt_max := m.tilt_max
  goto := if m.goto_active = true then some (m.target_x, m.target_y) else none
  leased := decide (m.lease_until ≠ 0)
  sent := m.manual_sent
  homing := decide (m.homing ≠ .idle)
  trusted := m.position_trusted
  stored := m.presets.filterMap (Option.map fun preset => (preset.x, preset.y))
  saved := m.saved
  acts := m.acts

/-- From a sound state the code's step is a run of the head. -/
def Reaches (lapses : Lapses) (m m' : Machine) : Prop :=
  m.head.Sound → HeadRun lapses m.head m'.head

namespace Reaches

variable {lapses : Lapses}

theorem same {m m' : Machine} (unseen : m'.head = m.head) : Reaches lapses m m' := by
  intro _
  rw [unseen]

theorem refl (m : Machine) : Reaches lapses m m := same rfl

theorem trans {first middle last : Machine} (left : Reaches lapses first middle)
    (right : Reaches lapses middle last) : Reaches lapses first last := by
  intro sound
  have early := left sound
  exact early.trans (right (HeadRun.preserves sound_step early sound))

theorem sound {m m' : Machine} (reaches : Reaches lapses m m') (sound : m.head.Sound) :
    m'.head.Sound :=
  HeadRun.preserves sound_step (reaches sound) sound

theorem step {m m' : Machine} (stepped : m.head.Sound → HeadStep lapses m.head m'.head) :
    Reaches lapses m m' :=
  fun sound => .single (stepped sound)

/-- A sound state may be assumed. -/
theorem ofSound {m m' : Machine} (reaches : m.head.Sound → Reaches lapses m m') :
    Reaches lapses m m' :=
  fun sound => reaches sound sound

end Reaches

/-! ## Readings -/

/-- A reading and a routine request leave all but the sensed position and the log. -/
def Sensed (m m' : Machine) : Prop :=
  ∃ x y moving known more,
    m' = { m with x, y, moving, known, acts := m.acts ++ more } ∧
      ∀ act ∈ more, act.isRoutine = true

namespace Sensed

theorem refl (m : Machine) : Sensed m m :=
  ⟨m.x, m.y, m.moving, m.known, [], by simp, by simp⟩

theorem trans {first middle last : Machine} (left : Sensed first middle)
    (right : Sensed middle last) : Sensed first last := by
  obtain ⟨_, _, _, _, more, rfl, routine⟩ := left
  obtain ⟨x, y, moving, known, rest, rfl, routine'⟩ := right
  refine ⟨x, y, moving, known, more ++ rest, by simp, ?_⟩
  intro act member
  rcases List.mem_append.mp member with early | late
  · exact routine act early
  · exact routine' act late

theorem rested {m m' : Machine} (sensed : Sensed m m') :
    Sensed m { m' with moving := false } := by
  obtain ⟨x, y, _, known, more, rfl, routine⟩ := sensed
  exact ⟨x, y, false, known, more, rfl, routine⟩

end Sensed

section

variable (lapses : Lapses)

theorem clamp_inside {low high : Int} (ordered : low ≤ high) (value : Int) :
    low ≤ clamp value low high ∧ clamp value low high ≤ high := by
  unfold clamp
  split
  · exact ⟨Int.le_refl low, ordered⟩
  · split <;> omega

/-- The reading `motor_read` accepts under these limits. -/
def accepted (limits : Int × Int) (reading : Option MotorPosition) : Option MotorPosition :=
  reading.filter fun position => position.accepted limits.1 limits.2

def Machine.limits (m : Machine) : Int × Int := (m.pan_max, m.tilt_max)

theorem motor_read_eq (reading : Option MotorPosition) {m : Machine} (opened : m.motor_fd = true) :
    motor_read reading m =
      match accepted m.limits reading with
      | some position => (true, m.sense position)
      | none => (false, m) := by
  cases reading with
  | none => simp [motor_read, accepted]
  | some position =>
      by_cases inRange : position.accepted m.pan_max m.tilt_max <;>
        simp [motor_read, accepted, Machine.limits, Option.filter_some, opened, inRange]

/-- `motor_read` fails and changes nothing, or stores the position it was given. -/
theorem motor_read_cases (reading : Option MotorPosition) (m : Machine) :
    motor_read reading m = (false, m) ∨
      ∃ position, motor_read reading m = (true, m.sense position) := by
  by_cases opened : m.motor_fd = true
  · rw [motor_read_eq reading opened]
    cases accepted m.limits reading with
    | none => exact .inl rfl
    | some position => exact .inr ⟨position, rfl⟩
  · left
    simp [motor_read, opened]

theorem motor_read_accepted {reading : Option MotorPosition} {m m' : Machine}
    (read : motor_read reading m = (true, m')) : (accepted m.limits reading).isSome = true := by
  by_cases opened : m.motor_fd = true
  · rw [motor_read_eq reading opened] at read
    cases reading : accepted m.limits reading with
    | none =>
        rw [reading] at read
        exact absurd (congrArg Prod.fst read) Bool.false_ne_true
    | some position => rfl
  · exact absurd read (by simp [motor_read, opened])

theorem motor_read_done {reading : Option MotorPosition} {m : Machine} (opened : m.motor_fd = true)
    (inRange : (accepted m.limits reading).isSome = true) : (motor_read reading m).1 = true := by
  obtain ⟨position, same⟩ := Option.isSome_iff_exists.mp inRange
  rw [motor_read_eq reading opened, same]

theorem sense_sensed (position : MotorPosition) (m : Machine) : Sensed m (m.sense position) :=
  ⟨_, _, _, true, [.position _ _ _], rfl, by simp [Act.isRoutine]⟩

theorem sense_inside {m : Machine} (sound : m.head.Sound) (position : MotorPosition) :
    (m.sense position).head.InBox (m.sense position).x (m.sense position).y := by
  have across := clamp_inside sound.travel.1 position.x
  have along := clamp_inside sound.travel.2 position.y
  exact ⟨across.1, across.2, along.1, along.2⟩

theorem motor_read_sensed (reading : Option MotorPosition) (m : Machine) :
    Sensed m (motor_read reading m).2 := by
  rcases motor_read_cases reading m with failed | ⟨position, read⟩
  · rw [failed]
    exact .refl m
  · rw [read]
    exact sense_sensed position m

theorem motor_read_reaches (reading : Option MotorPosition) (m : Machine) :
    Reaches lapses m (motor_read reading m).2 := by
  rcases motor_read_cases reading m with failed | ⟨position, read⟩
  · rw [failed]
    exact .refl m
  · rw [read]
    exact .step fun sound => .sensed _ (sense_inside sound position)

theorem motor_read_inside {reading : Option MotorPosition} {m m' : Machine}
    (sound : m.head.Sound) (read : motor_read reading m = (true, m')) :
    m'.head.InBox m'.x m'.y := by
  rcases motor_read_cases reading m with failed | ⟨position, ok⟩
  · exact absurd (failed.symm.trans read) (by simp)
  · obtain ⟨-, rfl⟩ := Prod.mk.inj (ok.symm.trans read)
    exact sense_inside sound position

theorem ioctl_sensed (request : Bool → Act) (taken : Bool) (routine : (request taken).isRoutine = true)
    (m : Machine) : Sensed m (ioctl request taken m).2 :=
  ⟨m.x, m.y, m.moving, m.known, [request taken], rfl, by simpa using routine⟩

theorem stop_reaches (taken : Bool) (m : Machine) :
    Reaches lapses m (ioctl .stop taken m).2 :=
  .step fun _ => .stop taken

theorem speed_reaches (rate : Int) (taken : Bool) (m : Machine) :
    Reaches lapses m (ioctl (.speed rate) taken m).2 :=
  .step fun _ => .speed rate taken

/-! ## Stopping -/

theorem cleared_reaches (m : Machine) : Reaches lapses m m.cleared :=
  .step fun _ => .halted

/-- MOTOR_STOP and a reading, as in `motor_stop_motion` and after a displacement. -/
theorem stopAndRead_sensed (taken : Bool) (reading : Option MotorPosition) (m : Machine) :
    Sensed m ((ioctl .stop taken).andThen (motor_read reading) m).2 :=
  Attempt.andThen_related Sensed Sensed.trans (ioctl_sensed .stop taken rfl) (motor_read_sensed reading) m

theorem stopAndRead_reaches (taken : Bool) (reading : Option MotorPosition)
    (m : Machine) : Reaches lapses m ((ioctl .stop taken).andThen (motor_read reading) m).2 :=
  Attempt.andThen_related (Reaches lapses) Reaches.trans (stop_reaches lapses taken) (motor_read_reaches lapses reading) m

theorem motor_stop_motion_sensed (a : Halt) (m : Machine) :
    Sensed m.cleared (motor_stop_motion a m).2 := by
  unfold motor_stop_motion
  by_cases opened : m.motor_fd = true
  · have sensed := stopAndRead_sensed a.stop a.reading m.cleared
    rw [if_pos opened]
    split
    · next rest same =>
        rw [same] at sensed
        exact sensed.rested
    · next rest same =>
        rw [same] at sensed
        exact sensed
  · rw [if_neg opened]
    exact (Sensed.refl m.cleared).rested

theorem motor_stop_motion_reaches (a : Halt) (m : Machine) :
    Reaches lapses m (motor_stop_motion a m).2 := by
  apply (cleared_reaches lapses m).trans
  unfold motor_stop_motion
  by_cases opened : m.motor_fd = true
  · have reaches := stopAndRead_reaches lapses a.stop a.reading m.cleared
    rw [if_pos opened]
    split
    · next rest same =>
        rw [same] at reaches
        exact reaches.trans (.same rfl)
    · next rest same =>
        rw [same] at reaches
        exact reaches
  · rw [if_neg opened]
    exact .same rfl

/-- Where both succeeded the position is fresh. -/
theorem stopAndRead_inside {taken : Bool} {reading : Option MotorPosition} {m m' : Machine}
    (sound : m.head.Sound)
    (ran : (ioctl .stop taken).andThen (motor_read reading) m = (true, m')) :
    m'.head.InBox m'.x m'.y := by
  obtain ⟨asked, stopped, read⟩ := Attempt.andThen_eq_true ran
  have stop := (stop_reaches ⟨true, true⟩ taken m).sound sound
  rw [stopped] at stop
  exact motor_read_inside stop read

theorem motor_stop_motion_inside {a : Halt} {m m' : Machine} (sound : m.head.Sound)
    (opened : m.motor_fd = true) (stopped : motor_stop_motion a m = (true, m')) :
    m'.head.InBox m'.x m'.y := by
  rw [motor_stop_motion, if_pos opened] at stopped
  split at stopped
  · next rest ran =>
      obtain ⟨-, rfl⟩ := Prod.mk.inj stopped
      have halted := (cleared_reaches ⟨true, true⟩ m).sound sound
      exact (stopAndRead_inside halted ran : rest.head.InBox rest.x rest.y)
  · exact absurd (congrArg Prod.fst stopped) Bool.false_ne_true

/-- What an opening may change. -/
def Opened (m m' : Machine) : Prop :=
  ∃ motor_fd pan_max tilt_max x y moving known more,
    m' = { m with motor_fd, pan_max, tilt_max, x, y, moving, known, acts := m.acts ++ more } ∧
      ∀ act ∈ more, act.isRoutine = true

theorem Sensed.opened {m m' : Machine} (sensed : Sensed m m') : Opened m m' := by
  obtain ⟨x, y, moving, known, more, rfl, routine⟩ := sensed
  exact ⟨_, _, _, x, y, moving, known, more, rfl, routine⟩

theorem Opened.set (motor_fd : Bool) (pan_max tilt_max : Int) (m : Machine) :
    Opened m { m with motor_fd, pan_max, tilt_max } :=
  ⟨motor_fd, pan_max, tilt_max, m.x, m.y, m.moving, m.known, [], by simp, by simp⟩

theorem Opened.trans {first middle last : Machine} (left : Opened first middle)
    (right : Opened middle last) : Opened first last := by
  obtain ⟨_, _, _, _, _, _, _, more, rfl, routine⟩ := left
  obtain ⟨motor_fd, pan_max, tilt_max, x, y, moving, known, rest, rfl, routine'⟩ := right
  refine ⟨motor_fd, pan_max, tilt_max, x, y, moving, known, more ++ rest, by simp, ?_⟩
  intro act member
  rcases List.mem_append.mp member with early | late
  · exact routine act early
  · exact routine' act late

theorem Opened.still {m m' : Machine} (opened : Opened m m') (still : m.head.Still) :
    m'.head.Still := by
  obtain ⟨_, _, _, _, _, _, _, _, rfl, -⟩ := opened
  exact still

theorem Opened.idle {m m' : Machine} (opened : Opened m m') (idle : m.head.homing = false) :
    m'.head.homing = false := by
  obtain ⟨_, _, _, _, _, _, _, _, rfl, -⟩ := opened
  exact idle

theorem Opened.kept {m m' : Machine} (opened : Opened m m') :
    m'.homing = m.homing ∧ m'.position_trusted = m.position_trusted ∧ m'.privacy = m.privacy := by
  obtain ⟨_, _, _, _, _, _, _, _, rfl, -⟩ := opened
  exact ⟨rfl, rfl, rfl⟩

theorem infoLimits_bounds {info : Option (List Name)} {limits : Int × Int}
    (scanned : infoLimits info = some limits) :
    (100 ≤ limits.1 ∧ limits.1 ≤ 8600) ∧ 100 ≤ limits.2 ∧ limits.2 ≤ 2000 := by
  cases info with
  | none => exact absurd scanned nofun
  | some lines =>
      simp only [infoLimits] at scanned
      split at scanned
      · exact absurd scanned nofun
      · have := Option.some.inj scanned
        subst this
        omega

theorem motor_limits_opened (info : Option (List Name)) (m : Machine) :
    Opened m (motor_limits info m).2 := by
  unfold motor_limits
  split
  · exact (Sensed.refl m).opened
  · next limits _ => exact .set m.motor_fd limits.1 limits.2 m

theorem motor_limits_reaches (info : Option (List Name)) {m : Machine} (still : m.head.Still) :
    Reaches lapses m (motor_limits info m).2 := by
  unfold motor_limits
  split
  · exact .refl m
  · next limits scanned =>
      have bounds := infoLimits_bounds scanned
      exact .step fun _ => .limits bounds.1.1 bounds.2.1 still

/-- New limits and what follows them, while nothing moves the head. -/
theorem measured_reaches (info : Option (List Name)) {rest : Attempt Machine}
    (follows : ∀ m, Reaches lapses m (rest m).2) {m : Machine} (still : m.head.Still) :
    Reaches lapses m ((motor_limits info).andThen rest m).2 := by
  have first := motor_limits_reaches lapses info still
  cases measured : motor_limits info m with
  | mk done middle =>
      rw [measured] at first
      cases done with
      | false => rwa [Attempt.andThen_refused measured]
      | true =>
          rw [Attempt.andThen_done measured]
          exact first.trans (follows middle)

def openCalls (a : Answers) : Attempt Machine :=
  (motor_limits a.info).andThen
    ((ioctl (.speed MOTOR_RATE) a.openSpeed).andThen (motor_read a.openReading))

theorem openCalls_opened (a : Answers) (m : Machine) : Opened m (openCalls a m).2 := by
  apply Attempt.andThen_related Opened Opened.trans (motor_limits_opened a.info)
  apply Attempt.andThen_related Opened Opened.trans
  · exact fun m => (ioctl_sensed _ a.openSpeed rfl m).opened
  · exact fun m => (motor_read_sensed a.openReading m).opened

theorem openCalls_reaches (a : Answers) {m : Machine} (still : m.head.Still) :
    Reaches lapses m (openCalls a m).2 := by
  apply measured_reaches lapses a.info _ still
  exact Attempt.andThen_related (Reaches lapses) Reaches.trans (speed_reaches lapses _ _)
    (motor_read_reaches lapses _)

theorem motor_open_device_opened (a : Answers) (m : Machine) :
    Opened m (motor_open_device a m).2 := by
  unfold motor_open_device
  split
  · exact (Sensed.refl m).opened
  · split
    · exact (Sensed.refl m).opened
    · have opened := openCalls_opened a { m with motor_fd := true }
      have setting : Opened m { m with motor_fd := true } := .set true m.pan_max m.tilt_max m
      split
      · next m' ran =>
          rw [openCalls, ran] at opened
          exact setting.trans opened
      · next m' ran =>
          rw [openCalls, ran] at opened
          have closing : Opened m' { m' with motor_fd := false } :=
            .set false m'.pan_max m'.tilt_max m'
          exact (setting.trans opened).trans closing

theorem motor_open_device_reaches (a : Answers) (m : Machine) :
    Reaches lapses m (motor_open_device a m).2 := by
  unfold motor_open_device
  split
  · exact .refl m
  · next closed =>
      split
      · exact .refl m
      · refine .ofSound fun sound => ?_
        obtain ⟨still, idle⟩ := sound.closed (by simpa [Machine.head] using closed)
        have setting : Reaches lapses m { m with motor_fd := true } :=
          .step fun _ => .device true still idle
        have opened := openCalls_opened a { m with motor_fd := true }
        have reaches : Reaches lapses { m with motor_fd := true } _ :=
          openCalls_reaches lapses a still
        split
        · next m' ran =>
            rw [openCalls, ran] at reaches
            exact setting.trans reaches
        · next m' ran =>
            rw [openCalls, ran] at reaches opened
            apply (setting.trans reaches).trans
            exact .step fun _ => .device false (opened.still still) (opened.idle idle)

def SameDevice (m m' : Machine) : Prop := m'.motor_fd = m.motor_fd

theorem SameDevice.trans {first middle last : Machine} (left : SameDevice first middle)
    (right : SameDevice middle last) : SameDevice first last :=
  Eq.trans right left

theorem Sensed.fd {m m' : Machine} (sensed : Sensed m m') : SameDevice m m' := by
  obtain ⟨_, _, _, _, _, rfl, -⟩ := sensed
  exact rfl

theorem openCalls_fd (a : Answers) (m : Machine) : SameDevice m (openCalls a m).2 := by
  apply Attempt.andThen_related SameDevice SameDevice.trans
  · intro m
    unfold motor_limits
    split <;> exact rfl
  · apply Attempt.andThen_related SameDevice SameDevice.trans
    · exact fun _ => rfl
    · exact fun m => (motor_read_sensed a.openReading m).fd

/-- A device that was opened is open. -/
theorem motor_open_device_fd {a : Answers} {m m' : Machine}
    (ran : motor_open_device a m = (true, m')) : m'.motor_fd = true := by
  unfold motor_open_device at ran
  split at ran
  · next opened =>
      obtain ⟨-, rfl⟩ := Prod.mk.inj ran
      exact opened
  · split at ran
    · exact absurd (congrArg Prod.fst ran) Bool.false_ne_true
    · have kept := openCalls_fd a { m with motor_fd := true }
      split at ran
      · next called =>
          obtain ⟨-, rfl⟩ := Prod.mk.inj ran
          rw [openCalls, called] at kept
          exact kept
      · exact absurd (congrArg Prod.fst ran) Bool.false_ne_true

theorem worker_error_reaches (a : Halt) (m : Machine) :
    Reaches lapses m (worker_error a m) :=
  (motor_stop_motion_reaches lapses a m).trans (.same rfl)

/-! ## Homing -/

/-- The answers with which `motor_stop_motion` succeeds on an open device. -/
def Halt.ok (limits : Int × Int) (a : Halt) : Prop :=
  a.stop = true ∧ (accepted limits a.reading).isSome = true

theorem motor_stop_motion_ok {a : Halt} {m m' : Machine} (opened : m.motor_fd = true)
    (stopped : motor_stop_motion a m = (true, m')) : a.ok m.limits := by
  rw [motor_stop_motion, if_pos opened] at stopped
  split at stopped
  · next rest ran =>
      obtain ⟨middle, taken, read⟩ := Attempt.andThen_eq_true ran
      obtain ⟨stop, rfl⟩ := Prod.mk.inj taken
      have same : (accepted (m.cleared.log (.stop a.stop)).limits a.reading).isSome = true :=
        motor_read_accepted read
      exact ⟨stop, same⟩
  · exact absurd (congrArg Prod.fst stopped) Bool.false_ne_true

instance (limits : Int × Int) (a : Halt) : Decidable (a.ok limits) :=
  inferInstanceAs (Decidable (_ ∧ _))

/-- The driver takes a run's stop and speed but not its reset or its sweep. -/
def beginFails (limits : Int × Int) (a : Answers) : Prop :=
  a.halt.ok limits ∧ a.speed = true ∧ ¬(a.reset = true ∧ a.move = true)

instance (limits : Int × Int) (a : Answers) : Decidable (beginFails limits a) :=
  inferInstanceAs (Decidable (_ ∧ _))

theorem lastAccepted_routine {acts more : List Act} (routine : ∀ act ∈ more, act.isRoutine = true) :
    lastAccepted (acts ++ more) = lastAccepted acts := by
  apply lastSet_append
  intro act member
  have := routine act member
  cases act <;> simp_all [Act.isRoutine, Act.command?]

theorem settled_routine {acts more : List Act} (routine : ∀ act ∈ more, act.isRoutine = true) :
    settled (acts ++ more) = settled acts := by
  apply lastSet_append
  intro act member
  have := routine act member
  cases act <;> simp_all [Act.isRoutine, Act.settles]

theorem home_sweep_reaches (now : Nat) {a : Answers} {m : Machine} (opened : m.motor_fd = true)
    (still : m.head.Still)
    (homes : ∀ command, lastAccepted m.acts = some command → command.homes)
    (fresh : settled m.acts = false)
    (refusal : ¬(a.reset = true ∧ a.move = true) →
      lapses.staleTrust = true ∨ m.position_trusted = false) :
    Reaches lapses m (home_sweep now a m).2 := by
  unfold home_sweep
  by_cases reset : a.reset = false
  · rw [if_pos reset]
    exact .step fun _ => .resetRefused (refusal (by simp [reset]))
  · rw [if_neg reset]
    by_cases move : a.move = false
    · rw [if_pos move, move]
      exact .step fun _ => .sweepRefused homes fresh (refusal (by simp [move]))
    · have taken : a.move = true := by simpa using move
      rw [if_neg move, taken]
      exact .step fun _ => .begun still opened homes fresh

/-- Routine requests leave what the log says of the commands. -/
theorem Sensed.standing {m m' : Machine} (sensed : Sensed m m') :
    lastAccepted m'.acts = lastAccepted m.acts ∧ settled m'.acts = settled m.acts := by
  obtain ⟨_, _, _, _, more, rfl, routine⟩ := sensed
  exact ⟨lastAccepted_routine routine, settled_routine routine⟩

theorem motor_home_begin_reaches (now : Nat) {a : Answers} {m : Machine}
    (opened : m.motor_fd = true)
    (homes : ∀ command, lastAccepted m.acts = some command → command.homes)
    (fresh : settled m.acts = false)
    (lapse : lapses.staleTrust = true ∨ m.position_trusted = false ∨ ¬beginFails m.limits a) :
    Reaches lapses m (motor_home_begin now a m).2 := by
  have reaches : Reaches lapses m
      ((motor_stop_motion a.halt).andThen (ioctl (.speed HOME_SPEED) a.speed) m).2 :=
    Attempt.andThen_related (Reaches lapses) Reaches.trans
      (motor_stop_motion_reaches lapses a.halt) (speed_reaches lapses HOME_SPEED a.speed) m
  unfold motor_home_begin
  cases ran : (motor_stop_motion a.halt).andThen (ioctl (.speed HOME_SPEED) a.speed) m with
  | mk done middle =>
      rw [ran] at reaches
      cases done with
      | false =>
          rw [Attempt.andThen_refused ran]
          exact reaches
      | true =>
          rw [Attempt.andThen_done ran]
          obtain ⟨halted, stopped, asked⟩ := Attempt.andThen_eq_true ran
          have speed : a.speed = true := congrArg Prod.fst asked
          have ok := motor_stop_motion_ok opened stopped
          have sensed : Sensed m.cleared middle := by
            have stop := motor_stop_motion_sensed a.halt m
            have ask := ioctl_sensed (.speed HOME_SPEED) a.speed rfl halted
            rw [stopped] at stop
            rw [asked] at ask
            exact stop.trans ask
          obtain ⟨last, same⟩ := sensed.standing
          have cleared : middle.motor_fd = true ∧ middle.head.Still ∧
              middle.position_trusted = m.position_trusted := by
            obtain ⟨_, _, _, _, _, rfl, -⟩ := sensed
            exact ⟨opened, ⟨rfl, rfl⟩, rfl⟩
          apply reaches.trans
          apply home_sweep_reaches lapses now cleared.1 cleared.2.1
          · rw [last]
            exact homes
          · rw [same]
            exact fresh
          · -- The driver took the stop and the speed, so a refusal is a lapse.
            intro refused
            rw [cleared.2.2]
            rcases lapse with stale | distrusted | runs
            · exact .inl stale
            · exact .inr distrusted
            · exact absurd ⟨ok, speed, refused⟩ runs

theorem homingFails_reaches (a : Answers) {m : Machine}
    (lapse : lapses.staleTrust = true ∨ m.position_trusted = false) :
    Reaches lapses m (m.homingFails a) := by
  have ended : Reaches lapses m { m with homing := .idle } := .step fun _ => .homingFailed lapse
  exact ended.trans (worker_error_reaches lapses a.error _)

theorem homeTarget_inside {m : Machine} (here : m.head.InBox m.x m.y)
    (travel : 0 ≤ m.pan_max ∧ 0 ≤ m.tilt_max) :
    ∀ x y, homeTarget m = some (x, y) → m.head.InBox x y := by
  have clamped : ∀ x y, m.head.InBox (clamp x 0 m.pan_max) (clamp y 0 m.tilt_max) := by
    intro x y
    have across := clamp_inside travel.1 x
    have along := clamp_inside travel.2 y
    exact ⟨across.1, across.2, along.1, along.2⟩
  intro x y target
  unfold homeTarget at target
  split at target
  · obtain ⟨rfl, rfl⟩ := Prod.mk.inj (Option.some.inj target)
    split
    · exact ⟨here.1, here.2.1, (clamped 0 m.privacy_y).2.2⟩
    · exact clamped m.privacy_x m.privacy_y
  · split at target
    · next savedX savedY _ =>
        split at target
        · obtain ⟨rfl, rfl⟩ := Prod.mk.inj (Option.some.inj target)
          exact clamped savedX savedY
        · exact absurd target nofun
    · exact absurd target nofun

theorem home_complete_reaches (now : Nat) (a : Answers) {m : Machine} (homing : m.homing ≠ .idle)
    (here : m.head.InBox m.x m.y) : Reaches lapses m (home_complete now a m) := by
  refine .step fun sound => ?_
  have running : m.head.homing = true := by simpa [Machine.head] using homing
  have still := sound.stillHoming running
  have idle : m.goto_active = false := by
    by_contra going
    exact absurd still.1 (by simp [Machine.head, going])
  have ended : (home_complete now a m).head =
      { m.head with homing := false, trusted := true, goto := homeTarget m }.log .homed := by
    have same : homeTarget { m with
        homing := .idle, homed := true, position_trusted := true
        marker := m.marker || a.markerMade, acts := m.acts ++ [.homed] } = homeTarget m := rfl
    simp only [home_complete, Machine.log, same]
    cases homeTarget m with
    | none => simp [Machine.head, Head.log, idle]
    | some target => simp [Machine.head, Head.log]
  rw [ended]
  exact .homed running (homeTarget_inside here sound.travel)

/-- The driver's answers with which a homing run completes. -/
def homeEnds (a : Answers) : Prop :=
  a.stop = true ∧ ∃ limits ∈ infoLimits a.info, (accepted limits a.again).isSome = true

instance (a : Answers) : Decidable (homeEnds a) :=
  inferInstanceAs (Decidable (_ ∧ _))

/-- A tick at which a homing run times out or the driver fails it. -/
def homeTickFails (now : Nat) (a : Answers) (m : Machine) : Prop :=
  m.homing_until ≤ now ∨
    (m.homing_settle ≤ now ∧
      match accepted m.limits a.reading with
      | none => True
      | some position => position.moving ≠ 1 ∧ m.homing = .reset ∧ ¬homeEnds a)

instance (now : Nat) (a : Answers) (m : Machine) : Decidable (homeTickFails now a m) := by
  unfold homeTickFails
  split <;> infer_instance

/-- The calls that end a homing run. -/
def endCalls (a : Answers) : Attempt Machine :=
  (ioctl .stop a.stop).andThen ((motor_limits a.info).andThen (motor_read a.again))

theorem endCalls_reaches (a : Answers) {m : Machine} (still : m.head.Still) :
    Reaches lapses m (endCalls a m).2 := by
  have asked : Reaches lapses m (m.log (.stop a.stop)) := stop_reaches lapses a.stop m
  by_cases taken : a.stop = true
  · have stopped : ioctl .stop a.stop m = (true, m.log (.stop a.stop)) := by simp [ioctl, taken]
    rw [endCalls, Attempt.andThen_done stopped]
    exact asked.trans (measured_reaches lapses a.info (motor_read_reaches lapses a.again) still)
  · have refused : ioctl .stop a.stop m = (false, m.log (.stop a.stop)) := by simp [ioctl, taken]
    rw [endCalls, Attempt.andThen_refused refused]
    exact asked

theorem endCalls_opened (a : Answers) (m : Machine) : Opened m (endCalls a m).2 := by
  apply Attempt.andThen_related Opened Opened.trans
  · exact fun m => (ioctl_sensed _ a.stop rfl m).opened
  · apply Attempt.andThen_related Opened Opened.trans (motor_limits_opened a.info)
    exact fun m => (motor_read_sensed a.again m).opened

theorem endCalls_done {a : Answers} {m : Machine} (opened : m.motor_fd = true)
    (ends : homeEnds a) : (endCalls a m).1 = true := by
  obtain ⟨taken, limits, scanned, reading⟩ := ends
  have stopped : ioctl .stop a.stop m = (true, m.log (.stop a.stop)) := by simp [ioctl, taken]
  have measured : motor_limits a.info (m.log (.stop a.stop)) =
      (true, { m.log (.stop a.stop) with pan_max := limits.1, tilt_max := limits.2 }) := by
    simp [motor_limits, Option.mem_def.mp scanned]
  rw [endCalls, Attempt.andThen_done stopped, Attempt.andThen_done measured]
  exact motor_read_done opened reading

/-- Calls that all succeeded leave a fresh position within the new limits. -/
theorem endCalls_inside {a : Answers} {m m' : Machine} (sound : m.head.Sound)
    (still : m.head.Still) (ran : endCalls a m = (true, m')) : m'.head.InBox m'.x m'.y := by
  obtain ⟨stopped, asked, rest⟩ := Attempt.andThen_eq_true ran
  obtain ⟨measured, scanned, read⟩ := Attempt.andThen_eq_true rest
  obtain ⟨-, rfl⟩ := Prod.mk.inj asked
  have logged : (m.log (.stop a.stop)).head.Sound := (stop_reaches ⟨true, true⟩ a.stop m).sound sound
  have within : measured.head.Sound := by
    have reaches : Reaches ⟨true, true⟩ (m.log (.stop a.stop)) _ :=
      motor_limits_reaches ⟨true, true⟩ a.info still
    rw [scanned] at reaches
    exact reaches.sound logged
  exact motor_read_inside within read

theorem home_tick_reaches (now : Nat) {a : Answers} {m : Machine} (opened : m.motor_fd = true)
    (homing : m.homing ≠ .idle)
    (lapse : lapses.staleTrust = true ∨ m.position_trusted = false ∨ ¬homeTickFails now a m) :
    Reaches lapses m (home_tick now a m) := by
  have failing : homeTickFails now a m →
      lapses.staleTrust = true ∨ m.position_trusted = false := by
    intro fails
    rcases lapse with stale | distrusted | runs
    · exact .inl stale
    · exact .inr distrusted
    · exact absurd fails runs
  unfold home_tick
  by_cases late : m.homing_until ≤ now
  · rw [if_pos late]
    exact homingFails_reaches lapses a (failing (.inl late))
  rw [if_neg late]
  by_cases early : now < m.homing_settle
  · rw [if_pos early]
    exact .refl m
  rw [if_neg early, motor_read_eq a.reading opened]
  cases reading : accepted m.limits a.reading with
  | none =>
      apply homingFails_reaches lapses a
      apply failing
      exact .inr ⟨by omega, by simp [reading]⟩
  | some position =>
      have sensed : Reaches lapses m (m.sense position) :=
        .step fun sound => .sensed _ (sense_inside sound position)
      apply sensed.trans
      have phase : (m.sense position).homing = m.homing := rfl
      have calls : (ioctl .stop a.stop).andThen ((motor_limits a.info).andThen
          (motor_read a.again)) (m.sense position) = endCalls a (m.sense position) := rfl
      dsimp only
      rw [phase, calls]
      by_cases moving : (m.sense position).moving = true
      · rw [if_pos moving]
        exact .refl _
      rw [if_neg moving]
      by_cases far : m.homing = .sweep ∧ (m.sense position).x ≠ HOME_PAN_STEPS
      · rw [if_pos far]
        exact .refl _
      rw [if_neg far]
      by_cases sweeping : m.homing = .sweep
      · rw [if_pos sweeping]
        refine .step fun _ => ?_
        have running : (m.sense position).head.homing = true := by
          simp [Machine.head, Machine.sense, Machine.log, sweeping]
        have rammed : ({ m.sense position with
            homing := .reset, moving := true, worker := .resetting now }.log .reset).head =
            (m.sense position).head.log .reset := by
          simp [Machine.head, Head.log, Machine.sense, Machine.log, sweeping]
        rw [rammed]
        exact .rammed running
      rw [if_neg sweeping]
      refine .ofSound fun sound => ?_
      have running : (m.sense position).head.homing = true := decide_eq_true homing
      have still := sound.stillHoming running
      have reaches := endCalls_reaches lapses a still
      have kept : (endCalls a (m.sense position)).2.homing = m.homing ∧
          (endCalls a (m.sense position)).2.position_trusted = m.position_trusted :=
        have same := (endCalls_opened a (m.sense position)).kept
        ⟨same.1, same.2.1⟩
      cases ran : endCalls a (m.sense position) with
      | mk done final =>
          rw [ran] at reaches kept
          cases done with
          | true =>
              have here := endCalls_inside sound still ran
              exact reaches.trans (home_complete_reaches lapses now a (kept.1 ▸ homing) here)
          | false =>
              have broken : ¬homeEnds a := by
                intro ends
                have done : (endCalls a (m.sense position)).1 = true := endCalls_done opened ends
                rw [ran] at done
                exact absurd done Bool.false_ne_true
              have atRest : position.moving ≠ 1 := by
                simpa [Machine.sense, Machine.log] using moving
              have inReset : m.homing = .reset := by
                cases phase : m.homing <;> simp_all
              apply reaches.trans
              apply homingFails_reaches lapses a
              rw [kept.2]
              apply failing
              exact .inr ⟨by omega, by simp [reading, atRest, inReset, broken]⟩

end

end JooanW3U.Media.Platform

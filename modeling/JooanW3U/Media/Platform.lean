import Mathlib.Data.Rat.Floor
import JooanW3U.Library.Attempt
import JooanW3U.Media.CText

/-!
Owns the native pan/tilt platform: its state under the platform lock, the driver
calls, homing, the worker's tick, the controls, exact moves and privacy.  An entry
is one locked section; what the driver and the files answer in it is its input.
The worker leaves the lock only inside the driver's homing reset, which is a
phase of its own.

Does not own the replay backend, which has no driver, the preset catalogue's file
format, the reported status or the system's error texts, which an answer carries.
-/

namespace JooanW3U.Media.Platform

open JooanW3U.Library

def PAN_MAX : Int := 4080
def TILT_MAX : Int := 1230
def MOTOR_RATE : Int := 450
def NUDGE_RATE : Int := 540
def PRESET_COUNT : Nat := 16
def HOME_PAN_STEPS : Int := 4080
def HOME_SPEED : Int := 450
def JIPC_FOV_HALF_PAN : Int := 405
def JIPC_FOV_HALF_TILT : Int := 220
def MANUAL_LEASE_US : Nat := 1200000
def NUDGE_US : Nat := 350000
def PRESET_LIMIT_US : Nat := 45000000
def HOME_STAGE_US : Nat := 60000000
def HOME_SETTLE_US : Nat := 1000000
def POSITION_QUIET_US : Nat := 5000000

def clamp (value minimum maximum : Int) : Int :=
  if value < minimum then minimum else if value > maximum then maximum else value

/-! ## State -/

/-- The commands that clear a fault and take the head. -/
inductive Command
  | manual
  | move
  | preset
  | privacy
  | recalibrate
  | start
  deriving Repr, DecidableEq

/-- What a MOTOR_MOVE is for. -/
inductive Purpose
  | sweep
  | goto
  | manual
  deriving Repr, DecidableEq

/-- The requests to the driver and the marks of the log.  A request carries
whether the driver took it; a MOTOR_MOVE also where the head was and the limits. -/
inductive Act
  | stop (taken : Bool)
  | speed (rate : Int) (taken : Bool)
  | reset
  | move (purpose : Purpose) (x y pan_max tilt_max dx dy : Int) (taken : Bool)
  | position (x y : Int) (moving : Bool)
  | accepted (command : Command)
  /-- The stop at a lease's expiry has been issued. -/
  | expired
  /-- A homing run has completed. -/
  | homed
  /-- `position_save`, and whether the file was written. -/
  | saved (x y : Int) (written : Bool)
  deriving Repr, DecidableEq

inductive Homing
  | idle
  | sweep
  | reset
  deriving Repr, DecidableEq

/-- Where the worker is: at its loop head, inside the driver's reset since the
tick at this time, or gone. -/
inductive Worker
  | loop
  | resetting (now : Nat)
  | exited
  deriving Repr, DecidableEq

/-- A C string, one character for each byte. -/
abbrev Name := List Char

structure SavedPreset where
  x : Int
  y : Int
  name : Name
  deriving Repr, DecidableEq

/-- The GPIO outputs; -1 is unknown. -/
structure Lights where
  night : Int
  ir_off : Int
  white_light : Int
  pilot_led : Int
  speaker_enable : Int
  speaker_used : Bool
  gpio_used : Bool
  deriving Repr, DecidableEq

/-- `platform_state` with `replay` off.  `saved` and `returning` are the saved and
the return position with their valid flags; `marker` is HOMED_MARKER; `acts` is
the log, which nothing reads. -/
structure Machine where
  motor_home : Bool
  marker : Bool
  app_stop : Bool
  quitting : Bool
  worker : Worker
  motor_fd : Bool
  x : Int
  y : Int
  known : Bool
  moving : Bool
  chunk_active : Bool
  faulted : Bool
  vx : Int
  vy : Int
  goto_active : Bool
  target_x : Int
  target_y : Int
  manual_sent : Bool
  nudge : Bool
  pan_max : Int
  tilt_max : Int
  rate : Int
  generation : Nat
  pan_sign : Int
  tilt_sign : Int
  lights : Lights
  lease_until : Nat
  goto_until : Nat
  presets : List (Option SavedPreset)
  homing : Homing
  homed : Bool
  saved : Option (Int × Int)
  position_trusted : Bool
  homing_until : Nat
  homing_settle : Nat
  position_quiet_until : Nat
  goto_rate : Int
  patrol_move : Bool
  privacy : Bool
  privacy_x : Int
  privacy_y : Int
  returning : Option (Int × Int)
  acts : List Act

def Machine.log (act : Act) (m : Machine) : Machine :=
  { m with acts := m.acts ++ [act] }

/-! ## Answers -/

structure MotorPosition where
  x : Int
  y : Int
  moving : Int
  deriving Repr, DecidableEq

/-- The answers to the calls of `motor_stop_motion`: MOTOR_STOP and MOTOR_POSITION. -/
structure Halt where
  stop : Bool
  reading : Option MotorPosition

/-- What the driver and the files answer to the calls of one entry; `none` is a call
that failed.  `info` is the lines of MOTOR_INFO, `again` the second reading of a
tick, `error` belongs to `worker_error`. -/
structure Answers where
  opened : Bool
  info : Option (List Name)
  openSpeed : Bool
  openReading : Option MotorPosition
  halt : Halt
  reading : Option MotorPosition
  stop : Bool
  again : Option MotorPosition
  speed : Bool
  reset : Bool
  move : Bool
  error : Halt
  /-- `jipc_atomic_file` of the position, `presets_save`, the marker, `gpio_output`. -/
  positionWritten : Bool
  presetsSaved : Bool
  markerMade : Bool
  gpio : Bool
  /-- `strerror(errno)` -/
  errno : String

/-! ## The driver -/

/-- The range check of `motor_read`. -/
def MotorPosition.accepted (position : MotorPosition) (pan_max tilt_max : Int) : Prop :=
  0 ≤ position.x ∧ position.x ≤ pan_max + 100 ∧ 0 ≤ position.y ∧ position.y ≤ tilt_max + 100 ∧
    0 ≤ position.moving ∧ position.moving ≤ 1

instance (position : MotorPosition) (pan_max tilt_max : Int) :
    Decidable (position.accepted pan_max tilt_max) :=
  inferInstanceAs (Decidable (_ ∧ _))

/-- The position `motor_read` stores. -/
def Machine.sense (position : MotorPosition) (m : Machine) : Machine :=
  let x := clamp position.x 0 m.pan_max
  let y := clamp position.y 0 m.tilt_max
  let moving := decide (position.moving = 1)
  { m with x, y, moving, known := true }.log (.position x y moving)

def motor_read (reading : Option MotorPosition) : Attempt Machine := fun m =>
  match m.motor_fd, reading with
  | true, some position =>
      if position.accepted m.pan_max m.tilt_max then (true, m.sense position) else (false, m)
  | _, _ => (false, m)

/-- A request whose answer is only taken or not. -/
def ioctl (request : Bool → Act) (taken : Bool) : Attempt Machine := fun m =>
  (taken, m.log (request taken))

/-- `sscanf(line, "max steps %d", &n)`. -/
def scanMaxSteps (line : Name) : Option Int := do
  let rest ← if "max".toList.isPrefixOf line then some (line.drop 3) else none
  let rest := rest.dropWhile isSpace
  let rest ← if "steps".toList.isPrefixOf rest then some (rest.drop 5) else none
  (scanInt rest.length rest).map Prod.fst

/-- The loop of `motor_limits` over the lines of MOTOR_INFO. -/
def scanInfo : List Name → Option Bool → Int × Int → Int × Int
  | [], _, limits => limits
  | line :: rest, axis, limits =>
      if "Horizontal motor".toList <:+: line then scanInfo rest (some false) limits
      else if "Vertical motor".toList <:+: line then scanInfo rest (some true) limits
      else
        match axis, scanMaxSteps line with
        | some false, some n => scanInfo rest axis (n, limits.2)
        | some true, some n => scanInfo rest axis (limits.1, n)
        | _, _ => scanInfo rest axis limits

/-- The limits MOTOR_INFO gives, if `motor_limits` accepts them. -/
def infoLimits (info : Option (List Name)) : Option (Int × Int) :=
  match info with
  | none => none
  | some lines =>
      let limits := scanInfo lines none (0, 0)
      if limits.1 < 100 ∨ limits.1 > 8600 ∨ limits.2 < 100 ∨ limits.2 > 2000 then none
      else some limits

def motor_limits (info : Option (List Name)) : Attempt Machine := fun m =>
  match infoLimits info with
  | none => (false, m)
  | some limits => (true, { m with pan_max := limits.1, tilt_max := limits.2 })

def motor_open_device (a : Answers) : Attempt Machine := fun m =>
  if m.motor_fd = true then (true, m)
  else if a.opened = false then (false, m)
  else
    match (motor_limits a.info).andThen ((ioctl (.speed MOTOR_RATE) a.openSpeed).andThen
        (motor_read a.openReading)) { m with motor_fd := true } with
    | (true, m) => (true, m)
    | (false, m) => (false, { m with motor_fd := false })

/-- The fields `motor_stop_motion` clears before it asks the driver. -/
def Machine.cleared (m : Machine) : Machine :=
  { m with
    vx := 0, vy := 0, goto_active := false, chunk_active := false, lease_until := 0
    manual_sent := false, nudge := false, generation := m.generation + 1 }

def motor_stop_motion (a : Halt) : Attempt Machine := fun m =>
  if m.motor_fd = true then
    match (ioctl .stop a.stop).andThen (motor_read a.reading) m.cleared with
    | (true, m) => (true, { m with moving := false })
    | (false, m) => (false, m)
  else (true, { m.cleared with moving := false })

def worker_error (a : Halt) (m : Machine) : Machine :=
  { (motor_stop_motion a m).2 with faulted := true }

/-! ## Last position -/

def position_save (written : Bool) (m : Machine) : Machine :=
  { m with saved := if written then some (m.x, m.y) else m.saved }.log (.saved m.x m.y written)

def position_track (written : Bool) (now : Nat) (m : Machine) : Machine :=
  if m.known = false ∨ m.position_trusted = false ∨ m.faulted = true ∨ m.homing ≠ .idle ∨
      m.moving = true ∨ m.goto_active = true ∨ m.privacy = true ∨ m.patrol_move = true ∨
      m.lease_until ≠ 0 ∨ m.saved = some (m.x, m.y) then
    { m with position_quiet_until := 0 }
  else if m.position_quiet_until = 0 then
    { m with position_quiet_until := now + POSITION_QUIET_US }
  else if now < m.position_quiet_until then m
  else position_save written { m with position_quiet_until := 0 }

/-! ## Homing -/

/-- The end of `motor_home_begin`, from MOTOR_RESET on. -/
def home_sweep (now : Nat) (a : Answers) : Attempt Machine := fun m =>
  let m := m.log .reset
  if a.reset = false then (false, m)
  else
    let m := m.log (.move .sweep m.x m.y m.pan_max m.tilt_max (HOME_PAN_STEPS / 2) 0 a.move)
    if a.move = false then (false, m)
    else
      (true, { m with
        homing := .sweep, homed := false, moving := true
        homing_until := now + HOME_STAGE_US, homing_settle := now + HOME_SETTLE_US })

def motor_home_begin (now : Nat) (a : Answers) : Attempt Machine :=
  ((motor_stop_motion a.halt).andThen (ioctl (.speed HOME_SPEED) a.speed)).andThen
    (home_sweep now a)

def Machine.homingFails (m : Machine) (a : Answers) : Machine :=
  worker_error a.error { m with homing := .idle }

/-- Where the head goes when homing has ended. -/
def homeTarget (m : Machine) : Option (Int × Int) :=
  if m.privacy = true then
    some (if m.privacy_x < 0 then m.x else clamp m.privacy_x 0 m.pan_max,
      clamp m.privacy_y 0 m.tilt_max)
  else
    match m.saved with
    | some (x, y) =>
        if x ≠ m.x ∨ y ≠ m.y then some (clamp x 0 m.pan_max, clamp y 0 m.tilt_max) else none
    | none => none

def home_complete (now : Nat) (a : Answers) (m : Machine) : Machine :=
  let m := { m with
    homing := .idle, homed := true, position_trusted := true
    marker := m.marker || a.markerMade }
  let m := m.log .homed
  match homeTarget m with
  | some (x, y) =>
      { m with
        target_x := x, target_y := y, goto_active := true, goto_rate := 0
        goto_until := now + PRESET_LIMIT_US }
  | none => m

def home_tick (now : Nat) (a : Answers) (m : Machine) : Machine :=
  if m.homing_until ≤ now then m.homingFails a
  else if now < m.homing_settle then m
  else
    match motor_read a.reading m with
    | (false, m) => m.homingFails a
    | (true, m) =>
        if m.moving = true then m
        else if m.homing = .sweep ∧ m.x ≠ HOME_PAN_STEPS then m
        else if m.homing = .sweep then
          -- The lock is released for the driver's reset.
          { m with homing := .reset, moving := true, worker := .resetting now }.log .reset
        else
          match (ioctl .stop a.stop).andThen ((motor_limits a.info).andThen
              (motor_read a.again)) m with
          | (false, m) => m.homingFails a
          | (true, m) => home_complete now a m

/-- What `home_tick` does when the driver's reset returns. -/
def reset_returned (now : Nat) (failed : Bool) (a : Answers) (m : Machine) : Machine :=
  let m := { m with worker := .loop }
  if failed = true then m.homingFails a
  else { m with homing_until := now + HOME_STAGE_US, homing_settle := now + HOME_SETTLE_US }

/-! ## The worker's tick -/

/-- The end of `native_tick`: MOTOR_SPEED and MOTOR_MOVE. -/
def send (purpose : Purpose) (dx dy : Int) (a : Answers) (m : Machine) : Machine :=
  let speed := if m.goto_active = true then
      (if m.goto_rate ≠ 0 then m.goto_rate else MOTOR_RATE)
    else m.rate
  match (ioctl (.speed speed) a.speed).andThen
      (ioctl (.move purpose m.x m.y m.pan_max m.tilt_max dx dy) a.move) m with
  | (false, m) => worker_error a.error m
  | (true, m) => { m with moving := true, chunk_active := true }

/-- The displacement of a manual move. -/
def manualMove (now : Nat) (m : Machine) : Int × Int :=
  let budget : Int :=
    if m.nudge = true then
      (m.rate.toNat * (m.lease_until - now + 100000) / 1000000 : Nat) + 1
    else if m.vx ≠ 0 then m.pan_max else m.tilt_max
  if m.vx ≠ 0 then
    (clamp (m.x + if m.vx < 0 then -budget else budget) 0 m.pan_max - m.x, 0)
  else if m.vy ≠ 0 then
    (0, clamp (m.y + if m.vy < 0 then -budget else budget) 0 m.tilt_max - m.y)
  else (0, 0)

/-- The displacement of a goto: one axis at a time. -/
def gotoMove (m : Machine) : Int × Int :=
  (m.target_x - m.x, if m.target_x - m.x = 0 then m.target_y - m.y else 0)

/-- `native_tick` from where no earlier displacement is running. -/
def next_move (now : Nat) (a : Answers) (m : Machine) : Machine :=
  if m.goto_active = true then
    let move := gotoMove m
    if move = (0, 0) then (motor_stop_motion a.halt m).2
    else send .goto move.1 move.2 a m
  else if m.lease_until ≠ 0 ∧ m.manual_sent = false then
    let move := manualMove now m
    let m := { m with manual_sent := true }
    if move = (0, 0) then (motor_stop_motion a.halt m).2
    else send .manual move.1 move.2 a m
  else (motor_stop_motion a.halt m).2

def native_tick (now : Nat) (a : Answers) (m : Machine) : Machine :=
  if m.homing ≠ .idle ∧ m.motor_fd = true then home_tick now a m
  else if m.motor_fd = false ∨ m.faulted = true ∨
      (m.goto_active = false ∧ m.lease_until = 0 ∧ m.chunk_active = false) then m
  else if m.goto_active = true ∧ m.goto_until ≤ now then worker_error a.error m
  else if m.lease_until ≠ 0 ∧ m.lease_until ≤ now then
    match motor_stop_motion a.halt m with
    | (true, m) => m.log .expired
    | (false, m) => worker_error a.error (m.log .expired)
  else
    match motor_read a.reading m with
    | (false, m) => worker_error a.error m
    | (true, m) =>
        if m.chunk_active = true then
          if m.moving = true then m
          else
            match (ioctl .stop a.stop).andThen (motor_read a.again) m with
            | (false, m) => worker_error a.error m
            | (true, m) => next_move now a { m with chunk_active := false }
        else next_move now a m

/-- One turn of `platform_worker` at its loop head. -/
def worker_turn (now : Nat) (a : Answers) (m : Machine) : Machine :=
  if m.quitting = true ∨ m.app_stop = true then
    { (motor_stop_motion a.halt m).2 with worker := .exited }
  else
    let m := native_tick now a m
    match m.worker with
    | .resetting _ => m
    | _ => position_track a.positionWritten now m

end JooanW3U.Media.Platform

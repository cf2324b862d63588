import JooanW3U.Library.Runs
import JooanW3U.Media.Platform

/-!
Owns the entry points of the native pan/tilt platform over its machine: the
controls with their refusals, exact moves, privacy, status reads, the boot's
homing, and the system's step.

Doubles are rationals here and the arithmetic on them is exact.
-/

namespace JooanW3U.Media.Platform

open JooanW3U.Library

/-- What a call returns: the text `fail` writes is the error. -/
abbrev Reply := Except String Unit

/-- The operation names of `platform_control`. -/
inductive Operation
  | ptz
  | ptz_nudge
  | ptz_stop
  | ptz_recalibrate
  | preset_set
  | preset_goto
  | preset_remove
  | preset_rename
  | preset_patrol
  | night
  | ircut
  | white_light
  | pilot_led
  | speaker_enable
  | ir_mode
  | other (operation : String)
  deriving Repr, DecidableEq

namespace Operation

def motion (operation : Operation) : Prop :=
  operation = ptz ∨ operation = ptz_nudge

def preset_op (operation : Operation) : Prop :=
  operation = preset_set ∨ operation = preset_goto ∨ operation = preset_remove ∨
    operation = preset_rename ∨ operation = preset_patrol

instance (operation : Operation) : Decidable operation.motion :=
  inferInstanceAs (Decidable (_ ∨ _))

instance (operation : Operation) : Decidable operation.preset_op :=
  inferInstanceAs (Decidable (_ ∨ _))

/-- The operations that open the motor device first. -/
def opensMotor (operation : Operation) : Prop :=
  operation.motion ∨ operation = ptz_recalibrate ∨
    (operation.preset_op ∧ operation ≠ preset_remove ∧ operation ≠ preset_rename)

/-- The operations refused while homing. -/
def waitsForHoming (operation : Operation) : Prop :=
  operation.motion ∨ operation = ptz_recalibrate ∨
    (operation.preset_op ∧ operation ≠ preset_rename) ∨ operation = ptz_stop

/-- The operations refused while privacy is on. -/
def waitsForPrivacy (operation : Operation) : Prop :=
  operation.motion ∨ operation = ptz_recalibrate ∨ operation = preset_goto ∨
    operation = preset_patrol ∨ operation = preset_set

instance (operation : Operation) : Decidable operation.opensMotor :=
  inferInstanceAs (Decidable (_ ∨ _))

instance (operation : Operation) : Decidable operation.waitsForHoming :=
  inferInstanceAs (Decidable (_ ∨ _))

instance (operation : Operation) : Decidable operation.waitsForPrivacy :=
  inferInstanceAs (Decidable (_ ∨ _))

end Operation

/-- The arguments of `platform_control`; `allocates` is a caller that passes
`allocated_slot`. -/
structure Request where
  operation : Operation
  value : Int
  value2 : Int
  name : Option Name
  allocates : Bool

/-! ## Names -/

/-- The scalar values XML admits, from the least one a sequence of this length may
encode. -/
def scalar (least cp : Nat) : Bool :=
  least ≤ cp && cp ≤ 0x10ffff && !(0xd800 ≤ cp && cp ≤ 0xdfff) && cp ≠ 0xfffe && cp ≠ 0xffff

def continues (c : Char) : Bool := c.toNat / 64 = 2

/-- The loop of `preset_name_valid`. -/
def printable : List Char → Bool
  | [] => true
  | c :: rest =>
      let lead := c.toNat
      if lead < 32 || lead = 127 then false
      else if lead < 128 then printable rest
      else if 0xc2 ≤ lead && lead ≤ 0xdf then
        match rest with
        | c₁ :: rest =>
            continues c₁ && scalar 0x80 (lead % 32 * 64 + c₁.toNat % 64) && printable rest
        | _ => false
      else if 0xe0 ≤ lead && lead ≤ 0xef then
        match rest with
        | c₁ :: c₂ :: rest =>
            continues c₁ && continues c₂ &&
              scalar 0x800 ((lead % 16 * 64 + c₁.toNat % 64) * 64 + c₂.toNat % 64) &&
              printable rest
        | _ => false
      else if 0xf0 ≤ lead && lead ≤ 0xf4 then
        match rest with
        | c₁ :: c₂ :: c₃ :: rest =>
            continues c₁ && continues c₂ && continues c₃ &&
              scalar 0x10000
                (((lead % 8 * 64 + c₁.toNat % 64) * 64 + c₂.toNat % 64) * 64 + c₃.toNat % 64) &&
              printable rest
        | _ => false
      else false

def preset_name_valid (name : Name) : Bool :=
  name ≠ [] && name.length ≤ 64 && printable name

/-- A valid slot other than this one has the name, ignoring case. -/
def nameTaken (presets : List (Option SavedPreset)) (slot : Nat) (name : Name) : Bool :=
  presets.zipIdx.any fun (preset, index) =>
    index ≠ slot && preset.any fun preset => sameIgnoringCase name preset.name

/-- The preset in a slot, counted from 1. -/
def presetAt (presets : List (Option SavedPreset)) (slot : Int) : Option SavedPreset :=
  if 1 ≤ slot ∧ slot ≤ PRESET_COUNT then presets.getD (slot - 1).toNat none else none

/-! ## Controls -/

/-- The checks of `platform_control` before it takes the lock. -/
def Request.invalid (r : Request) : Option String :=
  match r.operation with
  | .other operation => some ("unsupported platform operation: " ++ operation)
  | operation =>
      if operation.motion ∧
          (r.value < -100 ∨ r.value > 100 ∨ r.value2 < -100 ∨ r.value2 > 100) then
        some "PTZ velocity must be between -100 and 100"
      else if operation.preset_op ∧ (r.value < 1 ∨ r.value > PRESET_COUNT) ∧
          ¬(r.allocates = true ∧ operation = .preset_set ∧ r.value = 0) then
        some "preset slot must be between 1 and 16"
      else if (operation = .night ∨ operation = .ircut) ∧ r.value = 2 then
        some "automatic day/night requires an unverified sensor exposure ABI; select day=0 or night=1"
      else if ¬operation.motion ∧ ¬operation.preset_op ∧ operation ≠ .ptz_stop ∧
          (r.value < 0 ∨ r.value > 1) then
        some "control value must be 0 or 1"
      else if r.name.any (fun name => !preset_name_valid name) then
        some "preset name requires 1..64 printable UTF-8 bytes"
      else none

/-- The slot a request is for, the first free one if it asks for one. -/
def allocate (r : Request) (m : Machine) : Option Int :=
  if r.allocates = true ∧ r.operation = .preset_set ∧ r.value = 0 then
    (m.presets.findIdx? (·.isNone)).map fun index => (index : Int) + 1
  else some r.value

/-- A command has taken the head: the fault is cleared. -/
def Machine.accept (command : Command) (m : Machine) : Machine :=
  { m with faulted := false }.log (.accepted command)

/-- The axis of the larger speed. -/
def oneAxis (vx vy : Int) : Int × Int :=
  if vx.natAbs ≥ vy.natAbs then (vx, 0) else (0, vy)

def control_motion (nudge : Bool) (value value2 : Int) (now : Nat) (a : Answers) (m : Machine) :
    Reply × Machine :=
  let v := oneAxis (value * m.pan_sign) (value2 * m.tilt_sign)
  -- A concurrent nudge in the same direction is not extended.
  if m.nudge = nudge ∧ m.vx = v.1 ∧ m.vy = v.2 ∧ m.lease_until ≠ 0 then
    let lease_until := if nudge = true then m.lease_until else now + MANUAL_LEASE_US
    (.ok (), { m with lease_until, patrol_move := false }.accept .manual)
  else
    match motor_stop_motion a.halt m with
    | (false, m) => (.error ("stop previous motion: " ++ a.errno), m)
    | (true, m) =>
        let rate := if nudge = true then NUDGE_RATE
          else clamp ((v.1.natAbs + v.2.natAbs) * 9) 100 900
        let lease_until := if v.1 ≠ 0 ∨ v.2 ≠ 0 then
            now + (if nudge = true then NUDGE_US else MANUAL_LEASE_US)
          else 0
        (.ok (), { m with
          vx := v.1, vy := v.2, nudge, rate, lease_until, patrol_move := false }.accept .manual)

def control_stop (a : Answers) (m : Machine) : Reply × Machine :=
  match motor_stop_motion a.halt m with
  | (false, m) => (.error ("motor stop: " ++ a.errno), m)
  | (true, m) => (.ok (), m)

/-- `presets_save` after a change, which is taken back when it fails. -/
def keepIfSaved (message : String) (slot : Nat) (preset : Option SavedPreset) (a : Answers)
    (m : Machine) : Reply × Machine :=
  if a.presetsSaved = true then (.ok (), { m with presets := m.presets.set slot preset })
  else (.error (message ++ a.errno), m)

def presetName (value : Int) : Name :=
  ("Preset " ++ toString value).toList

def control_preset_set (value : Int) (name : Option Name) (a : Answers) (m : Machine) :
    Reply × Machine :=
  match (motor_stop_motion a.halt).andThen (motor_read a.reading) m with
  | (false, m) => (.error ("motor position: " ++ a.errno), m)
  | (true, m) =>
      let previous := presetAt m.presets value
      let effective := name.getD (previous.elim (presetName value) SavedPreset.name)
      if nameTaken m.presets (value - 1).toNat effective = true then
        (.error "preset name already exists", m)
      else keepIfSaved "save preset: " (value - 1).toNat (some ⟨m.x, m.y, effective⟩) a m

def control_preset_rename (value : Int) (name : Option Name) (a : Answers) (m : Machine) :
    Reply × Machine :=
  match name, presetAt m.presets value with
  | none, _ => (.error "preset_rename requires a name", m)
  | some _, none => (.error "preset slot is empty", m)
  | some name, some preset =>
      if nameTaken m.presets (value - 1).toNat name = true then
        (.error "preset name already exists", m)
      else keepIfSaved "rename preset: " (value - 1).toNat (some { preset with name }) a m

def control_preset_remove (value : Int) (a : Answers) (m : Machine) : Reply × Machine :=
  match motor_stop_motion a.halt m with
  | (false, m) => (.error "motor stop failed", m)
  | (true, m) => keepIfSaved "remove preset: " (value - 1).toNat none a m

/-- The position before a recalibration is saved in case the camera restarts first. -/
def saveFirst (sensed written : Bool) (m : Machine) : Machine :=
  if sensed = true ∧ m.position_trusted = true ∧ m.saved ≠ some (m.x, m.y) then
    position_save written m
  else m

def control_recalibrate (now : Nat) (a : Answers) (m : Machine) : Reply × Machine :=
  let sensed := motor_read a.reading m
  let m := saveFirst sensed.1 a.positionWritten sensed.2
  match motor_home_begin now a ({ m with patrol_move := false }.accept .recalibrate) with
  | (true, m) => (.ok (), m)
  | (false, m) => (.error ("motor homing: " ++ a.errno), worker_error a.error m)

/-- The head is sent to a target. -/
def Machine.sendTo (x y : Int) (goto_until : Nat) (goto_rate : Int) (patrol_move : Bool)
    (command : Command) (m : Machine) : Machine :=
  { m with
    target_x := x, target_y := y, goto_until, goto_active := true, goto_rate
    patrol_move }.accept command

def control_preset_goto (patrol : Bool) (value : Int) (now : Nat) (a : Answers) (m : Machine) :
    Reply × Machine :=
  match presetAt m.presets value with
  | none => (.error "preset slot is empty", m)
  | some preset =>
      if preset.x > m.pan_max ∨ preset.y > m.tilt_max then
        (.error "preset exceeds calibrated motor travel", m)
      else
        match motor_stop_motion a.halt m with
        | (false, m) => (.error ("motor stop: " ++ a.errno), m)
        | (true, m) =>
            (.ok (), m.sendTo preset.x preset.y (now + PRESET_LIMIT_US) 0 patrol .preset)

/-- The operations on the GPIO outputs. -/
def control_gpio (operation : Operation) (value : Int) (a : Answers) (lights : Lights) :
    Reply × Lights :=
  match operation with
  | .ir_mode =>
      (if lights.night ≠ 0 ∧ a.gpio = false then .error ("infrared GPIO: " ++ a.errno) else .ok (),
        { lights with ir_off := value })
  | .white_light =>
      if a.gpio = true then (.ok (), { lights with gpio_used := true, white_light := value })
      else (.error ("GPIO60: " ++ a.errno), { lights with gpio_used := true })
  | .speaker_enable =>
      if a.gpio = true then (.ok (), { lights with speaker_used := true, speaker_enable := value })
      else (.error ("GPIO63: " ++ a.errno), { lights with speaker_used := true })
  | .pilot_led =>
      if a.gpio = true then (.ok (), { lights with gpio_used := true, pilot_led := value })
      else (.error ("GPIO58: " ++ a.errno), { lights with gpio_used := true })
  | _ =>
      if a.gpio = true then (.ok (), { lights with gpio_used := true, night := value })
      else (.error ("IR-cut/infrared GPIO: " ++ a.errno), { lights with gpio_used := true })

/-- The operation itself, once nothing has refused it. -/
def perform (r : Request) (value : Int) (now : Nat) (a : Answers) (m : Machine) :
    Reply × Machine :=
  match r.operation with
  | .ptz => control_motion false value r.value2 now a m
  | .ptz_nudge => control_motion true value r.value2 now a m
  | .ptz_stop => control_stop a m
  | .preset_set => control_preset_set value r.name a m
  | .preset_rename => control_preset_rename value r.name a m
  | .preset_remove => control_preset_remove value a m
  | .ptz_recalibrate => control_recalibrate now a m
  | .preset_goto => control_preset_goto false value now a m
  | .preset_patrol => control_preset_goto true value now a m
  | operation =>
      let (reply, lights) := control_gpio operation value a m.lights
      (reply, { m with lights })

/-- `platform_control` behind the device: the refusals of homing and privacy. -/
def dispatch (r : Request) (value : Int) (now : Nat) (a : Answers) (m : Machine) :
    Reply × Machine :=
  if m.homing ≠ .idle ∧ r.operation.waitsForHoming then
    (.error "pan/tilt homing in progress", m)
  else if m.privacy = true ∧ r.operation.waitsForPrivacy then
    (.error "privacy mode is on", m)
  else perform r value now a m

def platform_control (r : Request) (now : Nat) (a : Answers) (m : Machine) : Reply × Machine :=
  match r.invalid with
  | some message => (.error message, m)
  | none =>
      if m.app_stop = true ∨ m.quitting = true then (.error "application is stopping", m)
      else
        match allocate r m with
        | none => (.error "all preset slots are occupied", m)
        | some value =>
            if r.operation.opensMotor then
              match motor_open_device a m with
              | (false, m) => (.error ("motor device: " ++ a.errno), m)
              | (true, m) => dispatch r value now a m
            else dispatch r value now a m

/-! ## Exact moves -/

inductive Move
  | absolute
  | relative
  | relativeFov
  | steps
  deriving Repr, DecidableEq

/-- `lround`: half away from zero. -/
def lround (value : ℚ) : Int :=
  if 0 ≤ value then ⌊value + 1 / 2⌋ else -⌊-value + 1 / 2⌋

/-- The conversion to `int`, which keeps the low 32 bits. -/
def toInt32 (value : Int) : Int := value.bmod 4294967296

/-- One axis of the position a move asks for. -/
def aimed (kind : Move) (value : ℚ) (sign here travel halfView : Int) : ℚ :=
  match kind with
  | .steps => value
  | .absolute => (value * sign + 1) / 2 * travel
  | .relativeFov => here + value * sign * halfView
  | .relative => here + value * sign * (travel / 2)

def jipc_platform_move (kind : Move) (x y speed : ℚ) (now : Nat) (a : Answers) (m : Machine) :
    Reply × Machine :=
  if m.app_stop = true ∨ m.quitting = true then (.error "application is stopping", m)
  else
    match motor_open_device a m with
    | (false, m) => (.error ("motor device: " ++ a.errno), m)
    | (true, m) =>
        if m.homing ≠ .idle then (.error "pan/tilt homing in progress", m)
        else if m.privacy = true then (.error "privacy mode is on", m)
        else
          match motor_stop_motion a.halt m with
          | (false, m) => (.error ("motor stop: " ++ a.errno), m)
          | (true, m) =>
              let tx := aimed kind x m.pan_sign m.x m.pan_max JIPC_FOV_HALF_PAN
              let ty := aimed kind y m.tilt_sign m.y m.tilt_max JIPC_FOV_HALF_TILT
              let target_x := clamp (toInt32 (lround tx)) 0 m.pan_max
              let target_y := clamp (toInt32 (lround ty)) 0 m.tilt_max
              let goto_rate :=
                if 0 < speed then clamp (toInt32 (lround (speed * 900))) 100 900 else 0
              let rate := if goto_rate ≠ 0 then goto_rate else MOTOR_RATE
              let distance := (target_x - m.x).natAbs + (target_y - m.y).natAbs
              (.ok (), m.sendTo target_x target_y
                (now + distance * 1000000 / rate.toNat + 10000000) goto_rate false .move)

/-! ## Privacy -/

/-- The position privacy parks at, as it is set before the device is opened. -/
def Machine.parked (slot : Int) (m : Machine) : Int × Int :=
  match presetAt m.presets slot with
  | some preset => (preset.x, preset.y)
  | none => (-1, m.tilt_max)

/-- The head's own position as the return target, where privacy was off and the
position is calibrated. -/
def Machine.returnHere (was : Bool) (m : Machine) : Machine :=
  if was = false ∧ m.known = true ∧ m.position_trusted = true then
    { m with returning := some (m.x, m.y) }
  else m

/-- The privacy fields of a request, which are set before anything can fail. -/
def Machine.parking (on : Bool) (slot : Int) (m : Machine) : Machine :=
  let parked := if on = true then m.parked slot else (m.privacy_x, m.privacy_y)
  { m with privacy_x := parked.1, privacy_y := parked.2, privacy := on }

def jipc_platform_privacy (on : Bool) (slot : Int) (now : Nat) (a : Answers) (m : Machine) :
    Reply × Machine :=
  let was := m.privacy
  let m := m.parking on slot
  -- Homing's end goes to the right place.
  if m.homing ≠ .idle then (.ok (), m)
  else
    match (motor_open_device a).andThen (motor_stop_motion a.halt) m with
    | (false, m) => (.error ("motor: " ++ a.errno), m)
    | (true, m) =>
        if on = true then
          let m := m.returnHere was
          let target_x := if m.privacy_x < 0 then m.x else m.privacy_x
          (.ok (), m.sendTo target_x m.privacy_y (now + PRESET_LIMIT_US) 0 false .privacy)
        else if was = true then
          match m.returning, m.saved with
          | some (x, y), _ =>
              (.ok (), { m with returning := none }.sendTo x y (now + PRESET_LIMIT_US) 0 false
                .privacy)
          | none, some (x, y) => (.ok (), m.sendTo x y (now + PRESET_LIMIT_US) 0 false .privacy)
          | none, none => (.ok (), m)
        else (.ok (), m)

/-! ## Status, start and stop -/

/-- What `jipc_platform_status` and `jipc_platform_steps` do to the state. -/
def read_status (a : Answers) (m : Machine) : Machine :=
  if m.homing ≠ .idle then m
  else ((motor_open_device a).andThen (motor_read a.reading) m).2

def jipc_platform_start (now : Nat) (a : Answers) (m : Machine) : Machine :=
  if m.motor_home = false ∨ m.marker = true then m
  else
    match (motor_open_device a).andThen (fun m => motor_home_begin now a (m.log (.accepted .start)))
        m with
    | (true, m) => m
    | (false, m) => worker_error a.error m

/-- `jipc_platform_stop` up to the join with the worker; it holds the lifetime lock
from here to its end. -/
def jipc_platform_stop (a : Answers) (m : Machine) : Machine :=
  (motor_stop_motion a.halt { m with quitting := true }).2

def coordinate_valid (x y : Int) : Prop :=
  0 ≤ x ∧ x ≤ 8600 ∧ 0 ≤ y ∧ y ≤ 2000

instance (x y : Int) : Decidable (coordinate_valid x y) :=
  inferInstanceAs (Decidable (_ ∧ _))

/-- The slots `presets_load` leaves. -/
structure Catalogue where
  presets : List (Option SavedPreset)
  slots : presets.length = PRESET_COUNT
  coordinates : ∀ preset ∈ presets, preset.all (fun p => coordinate_valid p.x p.y)

/-- `position_load` on the two numbers of the position file. -/
def position_load (file : Option (Int × Int)) : Option (Int × Int) :=
  file.filter fun (x, y) => 0 ≤ x ∧ x ≤ PAN_MAX ∧ 0 ≤ y ∧ y ≤ TILT_MAX

/-- The state `platform_get` makes. -/
def platform_get (motor_home marker : Bool) (flip0 : Nat) (position : Option (Int × Int))
    (catalogue : Catalogue) : Machine where
  motor_home := motor_home
  marker := marker
  app_stop := false
  quitting := false
  worker := .loop
  motor_fd := false
  x := 0
  y := 0
  known := false
  moving := false
  chunk_active := false
  faulted := false
  vx := 0
  vy := 0
  goto_active := false
  target_x := 0
  target_y := 0
  manual_sent := false
  nudge := false
  pan_max := PAN_MAX
  tilt_max := TILT_MAX
  rate := 0
  generation := 0
  pan_sign := if flip0 % 2 = 0 then 1 else -1
  tilt_sign := if flip0 / 2 % 2 = 0 then 1 else -1
  lights := ⟨-1, 0, -1, -1, -1, false, false⟩
  lease_until := 0
  goto_until := 0
  presets := catalogue.presets
  homing := .idle
  homed := false
  saved := position_load position
  position_trusted := !motor_home || marker
  homing_until := 0
  homing_settle := 0
  position_quiet_until := 0
  goto_rate := 0
  patrol_move := false
  privacy := false
  privacy_x := 0
  privacy_y := 0
  returning := none
  acts := []

/-! ## The system -/

inductive Event
  | control (request : Request)
  | move (kind : Move) (x y speed : ℚ)
  | privacy (on : Bool) (slot : Int)
  | status
  | start
  | worker
  | resetReturns (failed : Bool)
  /-- `app->stop` is set. -/
  | appStop
  | quit

/-- One locked section: its event, the clock, and what the driver and files answer. -/
structure Entry where
  event : Event
  now : Nat
  answers : Answers

/-- An entry from the outside; after `quit` the lifetime lock keeps them all out. -/
def Entry.call (entry : Entry) (m : Machine) : Option Machine :=
  if m.quitting = true then none
  else
    match entry.event with
    | .control request => some (platform_control request entry.now entry.answers m).2
    | .move kind x y speed =>
        some (jipc_platform_move kind x y speed entry.now entry.answers m).2
    | .privacy on slot => some (jipc_platform_privacy on slot entry.now entry.answers m).2
    | .status => some (read_status entry.answers m)
    | .start => some (jipc_platform_start entry.now entry.answers m)
    | .appStop => some { m with app_stop := true }
    | .quit => some (jipc_platform_stop entry.answers m)
    | _ => none

def step (m : Machine) (entry : Entry) : Option Machine :=
  match entry.event, m.worker with
  | .worker, .loop => some (worker_turn entry.now entry.answers m)
  | .worker, _ => none
  | .resetReturns failed, .resetting now =>
      some (position_track entry.answers.positionWritten now
        (reset_returned now failed entry.answers m))
  | .resetReturns _, _ => none
  | _, _ => entry.call m

end JooanW3U.Media.Platform

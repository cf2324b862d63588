import JooanW3U.Media.Controls

/-!
Owns what the engine of `controls.c` decides under the controls mutex: day or night, the
white light, privacy mode; and the patches, notes and triggers that come between its ticks.

A tick that reads the exposure gives the mutex back for it, so it is two steps here. The
calls of the backend after a decision, the saving and the status texts have no part. The
clock is the monotonic one, the wall clock is the one that can be set; both in
microseconds, and the kernel keeps the latter from going before 1970.
-/

namespace JooanW3U.Media.ControlsEngine

open JooanW3U.Library

def EV_READ_US : Nat := 5000000
def ZONE_READ_US : Nat := 60000000

/-- `local_minutes`. -/
def localMinutes (s : Settings) (time : Nat) : Int :=
  let minutes := (((time / 60 : Nat) : Int) + s.utcOffsetMin).tmod 1440
  if minutes < 0 then minutes + 1440 else minutes

def secondsToday (s : Settings) (time : Nat) : Int :=
  let seconds := ((time : Int) + s.utcOffsetMin * 60).tmod 86400
  if seconds < 0 then seconds + 86400 else seconds

/-- The wait for an edge, which is not now. -/
def edgeWait (today edge : Int) : Int :=
  if edge * 60 - today ≤ 0 then edge * 60 - today + 86400 else edge * 60 - today

/-- `next_boundary_s`. -/
def nextBoundaryS (s : Settings) (time : Nat) (start stop : Int) : Int :=
  min (edgeWait (secondsToday s time) stop) (min (edgeWait (secondsToday s time) start) 86400)

/-- The hold between automatic switches, the settling of a start, and whether there is an
exposure report and a vendor config to read. -/
structure Config where
  autoHoldUs : Nat
  autoSettleUs : Nat
  exposure : Bool
  oem : Bool

/-- The part of `controls_state` that decides. Before the first tick nothing is active. -/
structure Engine where
  controls : Privacy.Controls
  activeNight : Option Bool
  activeWhite : Option Int
  ev : Int
  evValid : Bool
  evAt : Nat
  condSince : Nat
  triggerUntil : Nat
  strobeUntil : Nat
  switchedAt : Nat
  autoSettleAt : Nat
  autoSettling : Bool
  wlOverride : Int
  wlOverrideUntil : Nat
  zone : Option Int
  zoneAt : Nat

/-! ### Day or night -/

/-- What a tick decides on day or night, with the timers it leaves. -/
structure Choice where
  night : Bool
  startedDay : Bool
  condSince : Nat
  autoSettleAt : Nat
  autoSettling : Bool
deriving Repr, DecidableEq

/-- A choice that touches no timer. -/
def Engine.keep (e : Engine) (night : Bool) : Choice :=
  ⟨night, false, e.condSince, e.autoSettleAt, e.autoSettling⟩

/-- When a start has settled; the first of its ticks sets it. -/
def Engine.settleAt (config : Config) (e : Engine) (now : Nat) : Nat :=
  if e.autoSettling then e.autoSettleAt else now + config.autoSettleUs

/-- The exposure reads as dark. -/
def Engine.dark (e : Engine) : Bool := e.controls.settings.nightEv ≤ e.ev

/-- A start: day, until the exposure has settled. Staying in day starts no hold. -/
def Engine.settle (config : Config) (e : Engine) (now : Nat) : Choice :=
  if now < e.settleAt config now then ⟨false, false, e.condSince, e.settleAt config now, true⟩
  else ⟨e.dark, !e.dark, e.condSince, e.settleAt config now, false⟩

/-- The reading asks for the other mode. -/
def Engine.want (e : Engine) (night : Bool) : Bool :=
  if night then e.ev ≤ e.controls.settings.dayEv else e.controls.settings.nightEv ≤ e.ev

/-- Since when it does; 0 is not at all. -/
def Engine.since (e : Engine) (night : Bool) (now : Nat) : Nat :=
  if e.want night then (if e.condSince = 0 then now else e.condSince) else 0

/-- It has for the configured wait, and the hold of the last switch is over. -/
def Engine.due (config : Config) (e : Engine) (night : Bool) (now : Nat) : Bool :=
  e.want night && e.controls.settings.waitS.toNat * 1000000 ≤ now - e.since night now &&
    (e.switchedAt = 0 || config.autoHoldUs ≤ now - e.switchedAt)

def Engine.follow (config : Config) (e : Engine) (night : Bool) (now : Nat) : Choice :=
  if e.due config night now then ⟨!night, false, 0, e.autoSettleAt, e.autoSettling⟩
  else ⟨night, false, e.since night now, e.autoSettleAt, e.autoSettling⟩

def Engine.autoNight (config : Config) (e : Engine) (now : Nat) : Choice :=
  if e.evValid = false then e.keep (e.activeNight.getD false)
  else
    match e.activeNight with
    | none => e.settle config now
    | some night => if e.autoSettling then e.settle config now else e.follow config night now

def Engine.night (config : Config) (e : Engine) (minutes : Int) (now : Nat) : Choice :=
  if e.controls.settings.nightMode = 0 then e.keep false
  else if e.controls.settings.nightMode = 1 then e.keep true
  else if e.controls.settings.nightMode = 3 then
    e.keep (inWindow minutes e.controls.settings.nightFrom e.controls.settings.nightUntil)
  else e.autoNight config now

/-! ### The white light -/

/-- A trigger, then a manual change until the next schedule boundary, then the schedule,
then the manual state. -/
def Engine.white (e : Engine) (minutes : Int) (now : Nat) : Int × Engine :=
  if e.strobeUntil ≠ 0 ∧ now < e.strobeUntil then ((now / 500000 % 2 : Nat), e)
  else if e.triggerUntil ≠ 0 ∧ now < e.triggerUntil then (1, { e with strobeUntil := 0 })
  else if e.controls.settings.wlSchedule ≠ 0 ∧ e.wlOverrideUntil ≠ 0 ∧
      now < e.wlOverrideUntil then
    (e.wlOverride, { e with strobeUntil := 0, triggerUntil := 0 })
  else if e.controls.settings.wlSchedule ≠ 0 then
    (if inWindow minutes e.controls.settings.wlFrom e.controls.settings.wlUntil then 1 else 0,
      { e with strobeUntil := 0, triggerUntil := 0, wlOverrideUntil := 0 })
  else (e.controls.settings.whiteLight, { e with strobeUntil := 0, triggerUntil := 0 })

/-! ### A tick -/

/-- The zone is read now and then, and the camera's zone wins. -/
def Engine.refreshed (config : Config) (e : Engine) (vendor : Option (List Char)) (now : Nat) :
    Engine :=
  let read := config.oem && (e.zoneAt = 0 || ZONE_READ_US ≤ now - e.zoneAt)
  let zone := if read then Controls.cameraZone vendor else e.zone
  { e with
    controls :=
      { e.controls with
        settings := Controls.zoned e.controls.settings zone, applied := true, applyPicture := false }
    zone := zone
    zoneAt := if read then now else e.zoneAt }

/-- The decisions of a tick. -/
def Engine.decided (config : Config) (e : Engine) (minutes : Int) (now : Nat) : Engine :=
  let choice := e.night config minutes now
  let white := e.white minutes now
  let privacy := Privacy.privacyWanted e.controls e.controls.settings minutes now
  { white.2 with
    controls := { e.controls with activePrivacy := some privacy }
    activeNight := some choice.night
    activeWhite := some white.1
    condSince := choice.condSince
    autoSettleAt := choice.autoSettleAt
    autoSettling := choice.autoSettling
    switchedAt :=
      if choice.startedDay then 0
      else if some choice.night = e.activeNight then e.switchedAt
      else now }

/-- `reading` is the time of a tick that reads the exposure. -/
structure State where
  engine : Engine
  clock : Nat
  wall : Nat
  reading : Option Nat

def State.settings (state : State) : Settings := state.engine.controls.settings

def State.time (state : State) : Nat := state.wall / 1000000

def State.decided (config : Config) (state : State) (e : Engine) (now : Nat) : State :=
  { state with
    engine := e.decided config (localMinutes e.controls.settings state.time) now
    reading := none }

def Engine.readsNow (config : Config) (e : Engine) (now : Nat) : Bool :=
  config.exposure && e.controls.settings.nightMode = 2 &&
    (e.evAt = 0 || EV_READ_US ≤ now - e.evAt)

/-- A tick from its fresh zone on, up to its reading or to the end. -/
def State.proceeds (config : Config) (state : State) (e : Engine) : State :=
  if e.readsNow config state.clock then
    { state with engine := { e with evAt := state.clock }, reading := some state.clock }
  else state.decided config e state.clock

def State.tick (config : Config) (state : State) (vendor : Option (List Char)) : State :=
  state.proceeds config (state.engine.refreshed config vendor state.clock)

/-- The exposure report has been read, if it could be. -/
def Engine.noted (e : Engine) (ev : Option Int) : Engine :=
  { e with evValid := ev.isSome, ev := ev.getD e.ev }

/-! ### The other threads -/

/-- The engine after an accepted patch. -/
def Engine.patched (e : Engine) (root : Json) (next : Settings) (now time : Nat) : Engine :=
  let before := e.controls.settings
  let edge := now + (nextBoundaryS next time next.privacyFrom next.privacyUntil).toNat * 1000000
  let light := ((root.get? "white_light".toList).bind fun light => light.get? "on".toList).isSome
  { e with
    controls := Controls.patched e.controls root next edge
    wlOverrideUntil := if light then 0 else e.wlOverrideUntil
    condSince :=
      if next.nightMode ≠ before.nightMode ∨ next.nightEv ≠ before.nightEv ∨
          next.dayEv ≠ before.dayEv then 0
      else e.condSince }

/-- `jipc_controls_patch`. -/
def Engine.patch (e : Engine) (text : List Char) (now time : Nat) : Except String Engine :=
  match Json.parse text with
  | none => .error "the request must be a JSON object"
  | some root =>
      if root.isObject then do
        let next ← Media.patch root e.controls.settings
        return e.patched root next now time
      else .error "the request must be a JSON object"

/-- `jipc_controls_note`. -/
def Engine.note (e : Engine) (operation : ControlOperation) (value value2 : Int)
    (now time : Nat) : Engine :=
  let s := e.controls.settings
  let noted := { e with controls := { e.controls with settings := s.note operation value value2 } }
  match operation with
  | .night | .ircut =>
      if value = 0 ∨ value = 1 then { noted with activeNight := some (value = 1) } else noted
  | .whiteLight =>
      { noted with
        wlOverride := if s.wlSchedule ≠ 0 then value else e.wlOverride
        wlOverrideUntil :=
          if s.wlSchedule ≠ 0 then now + (nextBoundaryS s time s.wlFrom s.wlUntil).toNat * 1000000
          else e.wlOverrideUntil
        triggerUntil := 0
        strobeUntil := 0
        activeWhite := some value }
  | _ => noted

inductive Event
  | passes (us : Nat)
  | setsWall (wall : Nat)
  | patch (text : List Char)
  | note (operation : ControlOperation) (value value2 : Int)
  | trigger (us : Nat)
  | strobe (us : Nat)
  | tick (vendor : Option (List Char))
  | read (ev : Option Int)

/-- One step of one thread. -/
def step (config : Config) (state : State) : Event → State
  | .passes us => { state with clock := state.clock + us, wall := state.wall + us }
  | .setsWall wall => { state with wall := wall }
  | .patch text =>
      match state.engine.patch text state.clock state.time with
      | .ok engine => { state with engine := engine }
      | .error _ => state
  | .note operation value value2 =>
      { state with
        engine := state.engine.note operation value value2 state.clock state.time }
  | .trigger us =>
      { state with engine := { state.engine with triggerUntil := state.clock + us } }
  | .strobe us =>
      { state with
        engine := { state.engine with strobeUntil := if us = 0 then 0 else state.clock + us } }
  | .tick vendor =>
      match state.reading with
      | none => state.tick config vendor
      | some _ => state
  | .read ev =>
      match state.reading with
      | none => state
      | some now => state.decided config (state.engine.noted ev) now

def Steps (config : Config) (state : State) (event : Event) (after : State) : Prop :=
  after = step config state event

section Steps

variable {config : Config} {state : State}

theorem step_tick (idle : state.reading = none) (vendor : Option (List Char)) :
    step config state (.tick vendor) = state.tick config vendor := by
  rw [step, idle]

theorem step_tick_waits {now : Nat} (reads : state.reading = some now)
    (vendor : Option (List Char)) : step config state (.tick vendor) = state := by
  rw [step, reads]

theorem step_read {now : Nat} (reads : state.reading = some now) (ev : Option Int) :
    step config state (.read ev) = state.decided config (state.engine.noted ev) now := by
  rw [step, reads]

theorem step_read_idle (idle : state.reading = none) (ev : Option Int) :
    step config state (.read ev) = state := by
  rw [step, idle]

theorem step_patch {text : List Char} {engine : Engine}
    (accepted : state.engine.patch text state.clock state.time = .ok engine) :
    step config state (.patch text) = { state with engine := engine } := by
  rw [step, accepted]

theorem step_patch_rejected {text : List Char} {error : String}
    (rejected : state.engine.patch text state.clock state.time = .error error) :
    step config state (.patch text) = state := by
  rw [step, rejected]

/-- An accepted patch is a JSON object whose settings are taken over. -/
theorem patch_ok {e after : Engine} {text : List Char} {now time : Nat}
    (accepted : e.patch text now time = .ok after) :
    ∃ root next, Json.parse text = some root ∧ root.isObject = true ∧
      Media.patch root e.controls.settings = .ok next ∧ after = e.patched root next now time := by
  unfold Engine.patch at accepted
  cases parsed : Json.parse text with
  | none =>
      rw [parsed] at accepted
      cases accepted
  | some root =>
      rw [parsed] at accepted
      by_cases object : root.isObject = true
      · simp only [object, if_true] at accepted
        cases applied : Media.patch root e.controls.settings with
        | error message =>
            rw [applied] at accepted
            cases accepted
        | ok next =>
            rw [applied] at accepted
            exact ⟨root, next, rfl, object, applied, (Except.ok.inj accepted).symm⟩
      · simp only [object] at accepted
        cases accepted

end Steps

/-- What `jipc_controls_start` leaves, with the settings it loaded. -/
def State.initial (settings : Settings) (clock wall : Nat) : State where
  engine :=
    { controls :=
        { settings := settings, applied := false, applyPicture := false, activePrivacy := none
          privacyOverride := false, overrideUntil := 0, coveredAt := 0 }
      activeNight := none
      activeWhite := none
      ev := 0
      evValid := false
      evAt := 0
      condSince := 0
      triggerUntil := 0
      strobeUntil := 0
      switchedAt := 0
      autoSettleAt := 0
      autoSettling := false
      wlOverride := 0
      wlOverrideUntil := 0
      zone := none
      zoneAt := 0 }
  clock := clock
  wall := wall
  reading := none

end JooanW3U.Media.ControlsEngine

import Mathlib.Data.Int.Notation

/-!
Owns the settings record of `controls.c`: its fields, its defaults, the manual
controls that are noted in it and the schedule window.

The C integers are unbounded here; a flag is an integer as in the source. The
patrol stops are a list, without the unused entries of the array.
-/

namespace JooanW3U.Media

structure Picture where
  brightness : Int
  contrast : Int
  saturation : Int
  sharpness : Int
  denoise : Int
deriving Repr, DecidableEq

structure PatrolStop where
  slot : Int
  dwellS : Int
deriving Repr, DecidableEq

structure Settings where
  nightMode : Int
  irOff : Int
  nightEv : Int
  dayEv : Int
  waitS : Int
  nightFrom : Int
  nightUntil : Int
  whiteLight : Int
  wlSchedule : Int
  wlFrom : Int
  wlUntil : Int
  triggerS : Int
  pilotLed : Int
  micMute : Int
  antiFlicker : Int
  utcOffsetMin : Int
  sirenSound : Int
  sirenVolume : Int
  sirenSeconds : Int
  sirenStrobe : Int
  overlayOn : Int
  overlayCorner : Int
  overlayFormat : Int
  overlayName : List Char
  pic0 : Picture
  pic1 : Picture
  patrolOn : Int
  patrolPauseS : Int
  stops : List PatrolStop
  privacyOn : Int
  privacySchedule : Int
  privacyFrom : Int
  privacyUntil : Int
  privacySlot : Int
  homeSet : Int
  homeX : Int
  homeY : Int
deriving Repr, DecidableEq

namespace Settings

def defaults : Settings where
  nightMode := 0
  irOff := 0
  nightEv := 30000
  dayEv := 5000
  waitS := 60
  nightFrom := 18 * 60 + 30
  nightUntil := 6 * 60
  whiteLight := 0
  wlSchedule := 0
  wlFrom := 19 * 60
  wlUntil := 23 * 60
  triggerS := 120
  pilotLed := 0
  micMute := 0
  antiFlicker := 0
  utcOffsetMin := 0
  sirenSound := 0
  sirenVolume := 100
  sirenSeconds := 30
  sirenStrobe := 0
  overlayOn := 0
  overlayCorner := 0
  overlayFormat := 0
  overlayName := []
  pic0 := ⟨128, 128, 128, 128, 128⟩
  pic1 := ⟨128, 128, 128, 128, 128⟩
  patrolOn := 0
  patrolPauseS := 120
  stops := []
  privacyOn := 0
  privacySchedule := 0
  privacyFrom := 22 * 60
  privacyUntil := 6 * 60
  privacySlot := 0
  homeSet := 0
  homeX := 0
  homeY := 0

def pic (settings : Settings) (lens : Nat) : Picture :=
  if lens = 0 then settings.pic0 else settings.pic1

/-- Change the picture of a lens; a lens the camera does not have is nothing. -/
def onPic (settings : Settings) (lens : Int) (change : Picture → Picture) : Settings :=
  if lens = 0 then { settings with pic0 := change settings.pic0 }
  else if lens = 1 then { settings with pic1 := change settings.pic1 }
  else settings

end Settings

/-- Inside [from, until), which may wrap past midnight. -/
def inWindow (now start stop : Int) : Bool :=
  if start = stop then false
  else if start < stop then start ≤ now ∧ now < stop
  else start ≤ now ∨ now < stop

/-- The operations of `jipc_backend_control` the settings or the lenses depend on. -/
inductive ControlOperation
  | night
  | ircut
  | whiteLight
  | pilotLed
  | micMute
  | antiFlicker
  | brightness
  | contrast
  | saturation
  | sharpness
  | denoise
  | privacyCover
  | other
deriving Repr, DecidableEq

/-- What `jipc_controls_note` keeps of a successful control. -/
def Settings.note (settings : Settings) (operation : ControlOperation) (value value2 : Int) :
    Settings :=
  match operation with
  | .night | .ircut =>
      if value = 0 ∨ value = 1 then { settings with nightMode := value } else settings
  | .whiteLight =>
      if settings.wlSchedule ≠ 0 then settings else { settings with whiteLight := value }
  | .pilotLed => { settings with pilotLed := value }
  | .micMute => { settings with micMute := value }
  | .antiFlicker => { settings with antiFlicker := value }
  | .brightness => settings.onPic value2 fun picture => { picture with brightness := value }
  | .contrast => settings.onPic value2 fun picture => { picture with contrast := value }
  | .saturation => settings.onPic value2 fun picture => { picture with saturation := value }
  | .sharpness => settings.onPic value2 fun picture => { picture with sharpness := value }
  | .denoise => settings.onPic value2 fun picture => { picture with denoise := value }
  | .privacyCover | .other => settings

end JooanW3U.Media

import JooanW3U.Library.Json
import JooanW3U.Media.CText
import JooanW3U.Media.Settings

/-!
Owns the JSON of the camera settings: the checked patch of a client or of the saved
file, the saved text, and loading it. Main result: settings within the ranges of the
patch come back from their own text.

Does not own the live status that `jipc_controls_json` adds.
-/

namespace JooanW3U.Media

open JooanW3U.Library

def nightNames : List String := ["day", "night", "auto", "schedule"]

def irNames : List String := ["night", "off"]

def flickerNames : List String := ["off", "50", "60"]

def sirenNames : List String := ["alarm", "two_tone", "pulse", "chime"]

def corners : List String := ["top-left", "top-right", "bottom-left", "bottom-right"]

def formats : List String := ["ymd", "dmy", "mdy"]

/-! ### Times of day -/

def timeDigit (value : Nat) : Char := Char.ofNat (48 + value)

def hhmm (minutes : Int) : List Char :=
  -- `(unsigned)minutes % 1440u`
  let m := (minutes % 4294967296).toNat % 1440
  [timeDigit (m / 600), timeDigit (m / 60 % 10), ':', timeDigit (m % 60 / 10), timeDigit (m % 10)]

def parseHhmm (text : List Char) : Option Int := do
  let (h, s) ← scanInt 2 text
  let s ← scanChar ':' s
  let (m, s) ← scanInt 2 s
  if s ≠ [] ∨ h < 0 ∨ h > 23 ∨ m < 0 ∨ m > 59 then none else some (h * 60 + m)

/-! ### Checked members

Each keeps the current value when the member is missing. -/

def getInt (object : Json) (key : String) (low high current : Int) : Except String Int :=
  match object.get? key.toList with
  | none => .ok current
  | some item =>
      match item.toInt? with
      | some value =>
          if value < low ∨ value > high then
            .error s!"{key} must be a whole number from {low} to {high}"
          else .ok value
      | none => .error s!"{key} must be a whole number from {low} to {high}"

def getBool (object : Json) (key : String) (current : Int) : Except String Int :=
  match object.get? key.toList with
  | none => .ok current
  | some (.bool value) => .ok (if value then 1 else 0)
  | some _ => .error s!"{key} must be true or false"

def getTime (object : Json) (key : String) (current : Int) : Except String Int :=
  match object.get? key.toList with
  | none => .ok current
  | some (.string text) =>
      match parseHhmm text with
      | some minutes => .ok minutes
      | none => .error s!"{key} must be a time like 18:30"
  | some _ => .error s!"{key} must be a time like 18:30"

/-- The place of a string among names. -/
def nameIndex (names : List String) : Json → Option Int
  | .string text =>
      let texts := names.map String.toList
      if text ∈ texts then some (texts.idxOf text) else none
  | _ => none

/-- A member that is one of the names, else the error. -/
def getNamed (object : Json) (key : String) (names : List String) (error : String)
    (current : Int) : Except String Int :=
  match object.get? key.toList with
  | none => .ok current
  | some item =>
      match nameIndex names item with
      | some index => .ok index
      | none => .error error

def getName (object : Json) (key : String) (names : List String) (current : Int) :
    Except String Int :=
  getNamed object key names s!"{key} has an unknown value" current

/-! ### The patch -/

/-- Patch with a member of the root that has to be an object. -/
def onObject (root : Json) (key : String) (settings : Settings)
    (change : Json → Except String Settings) : Except String Settings :=
  match root.get? key.toList with
  | none => .ok settings
  | some member => if member.isObject then change member else .error s!"{key} must be an object"

def patchNight (root : Json) (s : Settings) : Except String Settings :=
  onObject root "night" s fun night => do
    let nightMode ← getName night "mode" nightNames s.nightMode
    let irOff ← getName night "ir" irNames s.irOff
    let nightEv ← getInt night "night_ev" 1 10000000 s.nightEv
    let dayEv ← getInt night "day_ev" 1 10000000 s.dayEv
    let waitS ← getInt night "wait_s" 1 3600 s.waitS
    let nightFrom ← getTime night "from" s.nightFrom
    let nightUntil ← getTime night "until" s.nightUntil
    if dayEv ≥ nightEv then .error "the day level must be below the night level"
    else .ok { s with nightMode, irOff, nightEv, dayEv, waitS, nightFrom, nightUntil }

/-- A schedule: enabled, from, until. -/
def patchSchedule (parent : Json) (enabled start stop : Int) : Except String (Int × Int × Int) :=
  match parent.get? "schedule".toList with
  | none => .ok (enabled, start, stop)
  | some schedule =>
      if schedule.isObject then do
        let enabled ← getBool schedule "enabled" enabled
        let start ← getTime schedule "from" start
        let stop ← getTime schedule "until" stop
        return (enabled, start, stop)
      else .error "schedule must be an object"

def patchWhiteLight (root : Json) (s : Settings) : Except String Settings :=
  onObject root "white_light" s fun light => do
    let whiteLight ← getBool light "on" s.whiteLight
    let triggerS ← getInt light "trigger_s" 5 3600 s.triggerS
    let (wlSchedule, wlFrom, wlUntil) ← patchSchedule light s.wlSchedule s.wlFrom s.wlUntil
    return { s with whiteLight, triggerS, wlSchedule, wlFrom, wlUntil }

def patchStop (stop : Json) : Except String PatrolStop :=
  if stop.isObject ∧ (stop.get? "slot".toList).isSome then do
    let slot ← getInt stop "slot" 1 16 0
    let dwellS ← getInt stop "dwell_s" 3 3600 10
    return { slot, dwellS }
  else .error "each stop needs a slot"

def patchStops (patrol : Json) (stops : List PatrolStop) : Except String (List PatrolStop) :=
  match patrol.get? "stops".toList with
  | none => .ok stops
  | some (.array items) =>
      if items.length > 16 then .error "stops must be a list of at most 16"
      else items.mapM patchStop
  | some _ => .error "stops must be a list of at most 16"

def patchPatrol (root : Json) (s : Settings) : Except String Settings :=
  onObject root "patrol" s fun patrol => do
    let patrolOn ← getBool patrol "enabled" s.patrolOn
    let patrolPauseS ← getInt patrol "pause_s" 0 3600 s.patrolPauseS
    let stops ← patchStops patrol s.stops
    return { s with patrolOn, patrolPauseS, stops }

def patchSiren (root : Json) (s : Settings) : Except String Settings :=
  onObject root "siren" s fun siren => do
    let sirenSound ←
      getNamed siren "sound" sirenNames "sound must be alarm, two_tone, pulse or chime" s.sirenSound
    let sirenVolume ← getInt siren "volume" 1 100 s.sirenVolume
    let sirenSeconds ← getInt siren "seconds" 1 300 s.sirenSeconds
    let sirenStrobe ← getBool siren "strobe" s.sirenStrobe
    return { s with sirenSound, sirenVolume, sirenSeconds, sirenStrobe }

/-- Plain text of the timestamp's font, as many characters as it has room for. -/
def overlayNameFits (text : List Char) : Bool :=
  text.length ≤ 16 && text.all fun c => 32 ≤ c.toNat && c.toNat ≤ 126

def patchOverlayName (overlay : Json) (name : List Char) : Except String (List Char) :=
  match overlay.get? "name".toList with
  | none => .ok name
  | some (.string text) =>
      if overlayNameFits text then .ok text
      else .error "name must be plain text of at most 16 characters"
  | some _ => .error "name must be plain text of at most 16 characters"

def patchOverlay (root : Json) (s : Settings) : Except String Settings :=
  onObject root "overlay" s fun overlay => do
    let overlayOn ← getBool overlay "enabled" s.overlayOn
    let overlayCorner ←
      getNamed overlay "position" corners
        "position must be top-left, top-right, bottom-left or bottom-right" s.overlayCorner
    let overlayFormat ←
      getNamed overlay "format" formats "format must be ymd, dmy or mdy" s.overlayFormat
    let overlayName ← patchOverlayName overlay s.overlayName
    return { s with overlayOn, overlayCorner, overlayFormat, overlayName }

def patchPrivacy (root : Json) (s : Settings) : Except String Settings :=
  onObject root "privacy" s fun privacy => do
    let privacyOn ← getBool privacy "on" s.privacyOn
    let privacySlot ← getInt privacy "slot" 0 16 s.privacySlot
    let (privacySchedule, privacyFrom, privacyUntil) ←
      patchSchedule privacy s.privacySchedule s.privacyFrom s.privacyUntil
    return { s with privacyOn, privacySlot, privacySchedule, privacyFrom, privacyUntil }

def patchHome (root : Json) (s : Settings) : Except String Settings :=
  match root.get? "home".toList with
  | none => .ok s
  | some home =>
      if home.isObject ∧ (home.get? "x".toList).isSome ∧ (home.get? "y".toList).isSome then do
        let homeX ← getInt home "x" (-100) 8600 s.homeX
        let homeY ← getInt home "y" (-100) 2000 s.homeY
        return { s with homeX, homeY, homeSet := 1 }
      else .error "home needs x and y"

/-- The members of the root that are not objects. -/
def patchRoot (root : Json) (s : Settings) : Except String Settings := do
  let pilotLed ← getBool root "pilot_led" s.pilotLed
  let micMute ← getBool root "mic_mute" s.micMute
  let antiFlicker ← getName root "anti_flicker" flickerNames s.antiFlicker
  let utcOffsetMin ← getInt root "utc_offset_min" (-720) 840 s.utcOffsetMin
  return { s with pilotLed, micMute, antiFlicker, utcOffsetMin }

def patchPicture (entry : Json) (picture : Picture) : Except String Picture :=
  match entry with
  | .null => .ok picture
  | .object _ => do
      let brightness ← getInt entry "brightness" 0 255 picture.brightness
      let contrast ← getInt entry "contrast" 0 255 picture.contrast
      let saturation ← getInt entry "saturation" 0 255 picture.saturation
      let sharpness ← getInt entry "sharpness" 0 255 picture.sharpness
      let denoise ← getInt entry "denoise" 0 255 picture.denoise
      return { brightness, contrast, saturation, sharpness, denoise }
  | _ => .error "picture entries must be objects"

def patchPictures (root : Json) (s : Settings) : Except String Settings :=
  match root.get? "picture".toList with
  | none => .ok s
  | some (.array entries) =>
      match entries with
      | [] => .ok s
      | [first] => do
          let pic0 ← patchPicture first s.pic0
          return { s with pic0 }
      | [first, second] => do
          let pic0 ← patchPicture first s.pic0
          let pic1 ← patchPicture second s.pic1
          return { s with pic0, pic1 }
      | _ => .error "picture must be a list of at most two lenses"
  | some _ => .error "picture must be a list of at most two lenses"

/-- Settings with a patch applied; nothing changes on error. -/
def patch (root : Json) (s : Settings) : Except String Settings := do
  let s ← patchNight root s
  let s ← patchWhiteLight root s
  let s ← patchPatrol root s
  let s ← patchSiren root s
  let s ← patchOverlay root s
  let s ← patchPrivacy root s
  let s ← patchHome root s
  let s ← patchRoot root s
  patchPictures root s

/-! ### The saved text -/

def nameOf (names : List String) (value : Int) : Json := .string (names.getD value.toNat "").toList

def flag (value : Int) : Json := .bool (value ≠ 0)

def timeOf (minutes : Int) : Json := .string (hhmm minutes)

def nightJson (s : Settings) : Json :=
  .object
    [("mode".toList, nameOf nightNames s.nightMode),
      ("ir".toList, .string (if s.irOff ≠ 0 then "off" else "night").toList),
      ("night_ev".toList, .ofInt s.nightEv), ("day_ev".toList, .ofInt s.dayEv),
      ("wait_s".toList, .ofInt s.waitS), ("from".toList, timeOf s.nightFrom),
      ("until".toList, timeOf s.nightUntil)]

def scheduleJson (enabled start stop : Int) : Json :=
  .object
    [("enabled".toList, flag enabled), ("from".toList, timeOf start), ("until".toList, timeOf stop)]

def whiteLightJson (s : Settings) : Json :=
  .object
    [("on".toList, flag s.whiteLight), ("trigger_s".toList, .ofInt s.triggerS),
      ("schedule".toList, scheduleJson s.wlSchedule s.wlFrom s.wlUntil)]

def pictureJson (picture : Picture) : Json :=
  .object
    [("brightness".toList, .ofInt picture.brightness), ("contrast".toList, .ofInt picture.contrast),
      ("saturation".toList, .ofInt picture.saturation),
      ("sharpness".toList, .ofInt picture.sharpness), ("denoise".toList, .ofInt picture.denoise)]

def stopJson (stop : PatrolStop) : Json :=
  .object [("slot".toList, .ofInt stop.slot), ("dwell_s".toList, .ofInt stop.dwellS)]

def patrolJson (s : Settings) : Json :=
  .object
    [("enabled".toList, flag s.patrolOn), ("pause_s".toList, .ofInt s.patrolPauseS),
      ("stops".toList, .array (s.stops.map stopJson))]

def sirenJson (s : Settings) : Json :=
  .object
    [("sound".toList, nameOf sirenNames s.sirenSound), ("volume".toList, .ofInt s.sirenVolume),
      ("seconds".toList, .ofInt s.sirenSeconds), ("strobe".toList, flag s.sirenStrobe)]

def overlayJson (s : Settings) : Json :=
  .object
    [("enabled".toList, flag s.overlayOn), ("position".toList, nameOf corners s.overlayCorner),
      ("format".toList, nameOf formats s.overlayFormat), ("name".toList, .string s.overlayName)]

def privacyJson (s : Settings) : Json :=
  .object
    [("on".toList, flag s.privacyOn), ("slot".toList, .ofInt s.privacySlot),
      ("schedule".toList, scheduleJson s.privacySchedule s.privacyFrom s.privacyUntil)]

def homeJson (s : Settings) : Json :=
  .object [("x".toList, .ofInt s.homeX), ("y".toList, .ofInt s.homeY)]

def settingsJson (s : Settings) (withVersion : Bool) : Json :=
  .object
    ((if withVersion then [("v".toList, .ofInt 1)] else []) ++
      [("night".toList, nightJson s), ("white_light".toList, whiteLightJson s),
        ("pilot_led".toList, flag s.pilotLed), ("mic_mute".toList, flag s.micMute),
        ("anti_flicker".toList, nameOf flickerNames s.antiFlicker),
        ("utc_offset_min".toList, .ofInt s.utcOffsetMin),
        ("picture".toList, .array [pictureJson s.pic0, pictureJson s.pic1]),
        ("patrol".toList, patrolJson s), ("siren".toList, sirenJson s),
        ("overlay".toList, overlayJson s), ("privacy".toList, privacyJson s)] ++
      if s.homeSet ≠ 0 then [("home".toList, homeJson s)] else [])

/-- The file `save` writes. -/
def save (s : Settings) : List Char := (settingsJson s true).print ++ ['\n']

/-- The settings `load` takes from a file, and the error it logs. -/
def load (file : List Char) : Settings × Option String :=
  match Json.parse ((file.take 4095).takeWhile (· ≠ Json.nul)) with
  | none => (.defaults, some "not valid JSON")
  | some root =>
      match patch root .defaults with
      | .ok settings => (settings, none)
      | .error error => (.defaults, some error)

example : load (save .defaults) = (.defaults, none) := by decide +kernel

/-! ### Ranges -/

def Within (low high value : Int) : Prop := low ≤ value ∧ value ≤ high

instance (low high value : Int) : Decidable (Within low high value) :=
  inferInstanceAs (Decidable (low ≤ value ∧ value ≤ high))

structure Picture.Loadable (picture : Picture) : Prop where
  brightness : Within 0 255 picture.brightness
  contrast : Within 0 255 picture.contrast
  saturation : Within 0 255 picture.saturation
  sharpness : Within 0 255 picture.sharpness
  denoise : Within 0 255 picture.denoise

structure PatrolStop.Loadable (stop : PatrolStop) : Prop where
  slot : Within 1 16 stop.slot
  dwellS : Within 3 3600 stop.dwellS

/-- Every field is in the range the patch checks. -/
structure Settings.Loadable (s : Settings) : Prop where
  nightMode : Within 0 3 s.nightMode
  irOff : Within 0 1 s.irOff
  nightEv : Within 1 10000000 s.nightEv
  dayEv : Within 1 10000000 s.dayEv
  levels : s.dayEv < s.nightEv
  waitS : Within 1 3600 s.waitS
  nightFrom : Within 0 1439 s.nightFrom
  nightUntil : Within 0 1439 s.nightUntil
  whiteLight : Within 0 1 s.whiteLight
  wlSchedule : Within 0 1 s.wlSchedule
  wlFrom : Within 0 1439 s.wlFrom
  wlUntil : Within 0 1439 s.wlUntil
  triggerS : Within 5 3600 s.triggerS
  pilotLed : Within 0 1 s.pilotLed
  micMute : Within 0 1 s.micMute
  antiFlicker : Within 0 2 s.antiFlicker
  utcOffsetMin : Within (-720) 840 s.utcOffsetMin
  sirenSound : Within 0 3 s.sirenSound
  sirenVolume : Within 1 100 s.sirenVolume
  sirenSeconds : Within 1 300 s.sirenSeconds
  sirenStrobe : Within 0 1 s.sirenStrobe
  overlayOn : Within 0 1 s.overlayOn
  overlayCorner : Within 0 3 s.overlayCorner
  overlayFormat : Within 0 2 s.overlayFormat
  overlayName : overlayNameFits s.overlayName = true
  pic0 : s.pic0.Loadable
  pic1 : s.pic1.Loadable
  patrolOn : Within 0 1 s.patrolOn
  patrolPauseS : Within 0 3600 s.patrolPauseS
  stopCount : s.stops.length ≤ 16
  stops : ∀ stop ∈ s.stops, stop.Loadable
  privacyOn : Within 0 1 s.privacyOn
  privacySchedule : Within 0 1 s.privacySchedule
  privacyFrom : Within 0 1439 s.privacyFrom
  privacyUntil : Within 0 1439 s.privacyUntil
  privacySlot : Within 0 16 s.privacySlot
  homeSet : Within 0 1 s.homeSet
  homeX : Within (-100) 8600 s.homeX
  homeY : Within (-100) 2000 s.homeY
  noHome : s.homeSet = 0 → s.homeX = 0 ∧ s.homeY = 0

/-! ### A member comes back -/

section Members

variable {object : Json} {key : String} {current value : Int}

theorem getInt_ofInt {low high : Int} (found : object.get? key.toList = some (.ofInt value))
    (within : Within low high value) (least : -2147483648 ≤ low) (most : high ≤ 2147483647) :
    getInt object key low high current = .ok value := by
  obtain ⟨above, below⟩ := within
  have read : (Json.ofInt value).toInt? = some value :=
    Json.toInt?_ofInt (by omega) (by omega)
  have inside : ¬ (value < low ∨ value > high) := by omega
  simp only [getInt, found, read, inside, if_false]

theorem getBool_flag (found : object.get? key.toList = some (flag value))
    (within : Within 0 1 value) : getBool object key current = .ok value := by
  obtain ⟨above, below⟩ := within
  obtain rfl | rfl : value = 0 ∨ value = 1 := by omega
  · simp [getBool, found, flag]
  · simp [getBool, found, flag]

theorem timeDigit_reads : ∀ digit < 10,
    (timeDigit digit).isDigit = true ∧ isSpace (timeDigit digit) = false ∧
      timeDigit digit ≠ '-' ∧ timeDigit digit ≠ '+' ∧
        (timeDigit digit).toNat - 48 = digit := by
  decide

/-- Two digits are a whole `%2d`. -/
theorem scanInt_digits {tens units : Nat} (small : tens < 10) (smaller : units < 10)
    (rest : List Char) :
    scanInt 2 (timeDigit tens :: timeDigit units :: rest) =
      some (((tens * 10 + units : Nat) : Int), rest) := by
  obtain ⟨digit, black, minus, plus, tensValue⟩ := timeDigit_reads tens small
  obtain ⟨digit', -, -, -, unitsValue⟩ := timeDigit_reads units smaller
  simp only [scanInt, List.dropWhile_cons, black, Bool.false_eq_true, if_false]
  simp [scanDigits, takeDigits, digit, digit', digitsValue, tensValue, unitsValue, minus, plus]

theorem parseHhmm_hhmm {minutes : Int} (within : Within 0 1439 minutes) :
    parseHhmm (hhmm minutes) = some minutes := by
  obtain ⟨above, below⟩ := within
  obtain ⟨m, rfl⟩ := Int.eq_ofNat_of_zero_le above
  have same : ((m : Int) % 4294967296).toNat % 1440 = m := by omega
  have hours := scanInt_digits (show m / 600 < 10 by omega) (show m / 60 % 10 < 10 by omega)
    (':' :: timeDigit (m % 60 / 10) :: timeDigit (m % 10) :: [])
  have rest := scanInt_digits (show m % 60 / 10 < 10 by omega) (show m % 10 < 10 by omega) []
  have hour : m / 600 * 10 + m / 60 % 10 = m / 60 := by omega
  have minute : m % 60 / 10 * 10 + m % 10 = m % 60 := by omega
  simp only [parseHhmm, hhmm, same, hours, rest, hour, minute, scanChar, Option.bind_eq_bind,
    Option.bind_some, if_true]
  simp
  omega

theorem getTime_timeOf (found : object.get? key.toList = some (timeOf value))
    (within : Within 0 1439 value) : getTime object key current = .ok value := by
  simp [getTime, found, timeOf, parseHhmm_hhmm within]

theorem getNamed_nameOf {names : List String} {error : String}
    (found : object.get? key.toList = some (nameOf names value))
    (within : Within 0 (names.length - 1) value) (distinct : (names.map String.toList).Nodup) :
    getNamed object key names error current = .ok value := by
  obtain ⟨above, below⟩ := within
  obtain ⟨index, rfl⟩ := Int.eq_ofNat_of_zero_le above
  have bound : index < names.length := by omega
  have bound' : index < (names.map String.toList).length := by simpa using bound
  have text : (names.getD index "").toList = (names.map String.toList)[index] := by simp [bound]
  have member := List.getElem_mem bound'
  have place := distinct.idxOf_getElem index bound'
  simp only [getNamed, found, nameOf, nameIndex, Int.toNat_natCast, text, member, place, if_true]

end Members

/-! ### A section comes back -/

section Sections

variable (root : Json) {s : Settings} (base : Settings)

theorem getName_nameOf {object : Json} {key : String} {current value : Int} {names : List String}
    (found : object.get? key.toList = some (nameOf names value))
    (within : Within 0 (names.length - 1) value) (distinct : (names.map String.toList).Nodup) :
    getName object key names current = .ok value :=
  getNamed_nameOf found within distinct

theorem irName {value : Int} (within : Within 0 1 value) :
    Json.string (if value ≠ 0 then "off" else "night").toList = nameOf irNames value := by
  obtain ⟨above, below⟩ := within
  obtain rfl | rfl : value = 0 ∨ value = 1 := by omega
  · rfl
  · rfl

theorem patchNight_json (found : root.get? "night".toList = some (nightJson s))
    (loadable : s.Loadable) :
    patchNight root base =
      .ok { base with
        nightMode := s.nightMode, irOff := s.irOff, nightEv := s.nightEv, dayEv := s.dayEv,
        waitS := s.waitS, nightFrom := s.nightFrom, nightUntil := s.nightUntil } := by
  have mode : getName (nightJson s) "mode" nightNames base.nightMode = .ok s.nightMode :=
    getName_nameOf rfl loadable.nightMode (by decide)
  have ir : getName (nightJson s) "ir" irNames base.irOff = .ok s.irOff :=
    getName_nameOf (by rw [← irName loadable.irOff]; rfl) loadable.irOff (by decide)
  have nightEv : getInt (nightJson s) "night_ev" 1 10000000 base.nightEv = .ok s.nightEv :=
    getInt_ofInt rfl loadable.nightEv (by decide) (by decide)
  have dayEv : getInt (nightJson s) "day_ev" 1 10000000 base.dayEv = .ok s.dayEv :=
    getInt_ofInt rfl loadable.dayEv (by decide) (by decide)
  have wait : getInt (nightJson s) "wait_s" 1 3600 base.waitS = .ok s.waitS :=
    getInt_ofInt rfl loadable.waitS (by decide) (by decide)
  have start : getTime (nightJson s) "from" base.nightFrom = .ok s.nightFrom :=
    getTime_timeOf rfl loadable.nightFrom
  have stop : getTime (nightJson s) "until" base.nightUntil = .ok s.nightUntil :=
    getTime_timeOf rfl loadable.nightUntil
  have levels : ¬ s.dayEv ≥ s.nightEv := by
    have := loadable.levels
    omega
  have object : (nightJson s).isObject = true := rfl
  simp only [patchNight, onObject, found, object, if_true, mode, ir, nightEv, dayEv, wait, start,
    stop, bind, Except.bind, levels, if_false]

theorem patchSchedule_json {parent : Json} {enabled start stop enabled' start' stop' : Int}
    (found : parent.get? "schedule".toList = some (scheduleJson enabled start stop))
    (on : Within 0 1 enabled) (opens : Within 0 1439 start) (closes : Within 0 1439 stop) :
    patchSchedule parent enabled' start' stop' = .ok (enabled, start, stop) := by
  have enabledRead : getBool (scheduleJson enabled start stop) "enabled" enabled' = .ok enabled :=
    getBool_flag rfl on
  have startRead : getTime (scheduleJson enabled start stop) "from" start' = .ok start :=
    getTime_timeOf rfl opens
  have stopRead : getTime (scheduleJson enabled start stop) "until" stop' = .ok stop :=
    getTime_timeOf rfl closes
  have object : (scheduleJson enabled start stop).isObject = true := rfl
  simp only [patchSchedule, found, object, if_true, enabledRead, startRead, stopRead, bind,
    Except.bind, pure, Except.pure]

theorem patchWhiteLight_json (found : root.get? "white_light".toList = some (whiteLightJson s))
    (loadable : s.Loadable) :
    patchWhiteLight root base =
      .ok { base with
        whiteLight := s.whiteLight, triggerS := s.triggerS, wlSchedule := s.wlSchedule,
        wlFrom := s.wlFrom, wlUntil := s.wlUntil } := by
  have on : getBool (whiteLightJson s) "on" base.whiteLight = .ok s.whiteLight :=
    getBool_flag rfl loadable.whiteLight
  have trigger : getInt (whiteLightJson s) "trigger_s" 5 3600 base.triggerS = .ok s.triggerS :=
    getInt_ofInt rfl loadable.triggerS (by decide) (by decide)
  have schedule :
      patchSchedule (whiteLightJson s) base.wlSchedule base.wlFrom base.wlUntil =
        .ok (s.wlSchedule, s.wlFrom, s.wlUntil) :=
    patchSchedule_json rfl loadable.wlSchedule loadable.wlFrom loadable.wlUntil
  have object : (whiteLightJson s).isObject = true := rfl
  simp only [patchWhiteLight, onObject, found, object, if_true, on, trigger, schedule, bind,
    Except.bind, pure, Except.pure]

theorem patchStop_json {stop : PatrolStop} (loadable : stop.Loadable) :
    patchStop (stopJson stop) = .ok stop := by
  have slot : getInt (stopJson stop) "slot" 1 16 0 = .ok stop.slot :=
    getInt_ofInt rfl loadable.slot (by decide) (by decide)
  have dwell : getInt (stopJson stop) "dwell_s" 3 3600 10 = .ok stop.dwellS :=
    getInt_ofInt rfl loadable.dwellS (by decide) (by decide)
  have complete :
      (stopJson stop).isObject = true ∧ ((stopJson stop).get? "slot".toList).isSome = true :=
    ⟨rfl, rfl⟩
  simp only [patchStop, complete, and_self, if_true, slot, dwell, bind, Except.bind, pure,
    Except.pure]

theorem mapM_patchStop {stops : List PatrolStop} (loadable : ∀ stop ∈ stops, stop.Loadable) :
    (stops.map stopJson).mapM patchStop = .ok stops := by
  induction stops with
  | nil => rfl
  | cons stop stops inductionHypothesis =>
      have first := patchStop_json (loadable stop (by simp))
      have others := inductionHypothesis fun other member => loadable other (by simp [member])
      simp only [List.map_cons, List.mapM_cons, first, others, bind, Except.bind, pure, Except.pure]

theorem patchPatrol_json (found : root.get? "patrol".toList = some (patrolJson s))
    (loadable : s.Loadable) :
    patchPatrol root base =
      .ok { base with
        patrolOn := s.patrolOn, patrolPauseS := s.patrolPauseS, stops := s.stops } := by
  have on : getBool (patrolJson s) "enabled" base.patrolOn = .ok s.patrolOn :=
    getBool_flag rfl loadable.patrolOn
  have pause : getInt (patrolJson s) "pause_s" 0 3600 base.patrolPauseS = .ok s.patrolPauseS :=
    getInt_ofInt rfl loadable.patrolPauseS (by decide) (by decide)
  have stops : patchStops (patrolJson s) base.stops = .ok s.stops := by
    have list : (patrolJson s).get? "stops".toList = some (.array (s.stops.map stopJson)) := rfl
    have few : ¬ (s.stops.map stopJson).length > 16 := by
      simpa using loadable.stopCount
    simp only [patchStops, list, few, if_false, mapM_patchStop loadable.stops]
  have object : (patrolJson s).isObject = true := rfl
  simp only [patchPatrol, onObject, found, object, if_true, on, pause, stops, bind, Except.bind,
    pure, Except.pure]

theorem patchSiren_json (found : root.get? "siren".toList = some (sirenJson s))
    (loadable : s.Loadable) :
    patchSiren root base =
      .ok { base with
        sirenSound := s.sirenSound, sirenVolume := s.sirenVolume, sirenSeconds := s.sirenSeconds,
        sirenStrobe := s.sirenStrobe } := by
  have sound :
      getNamed (sirenJson s) "sound" sirenNames "sound must be alarm, two_tone, pulse or chime"
        base.sirenSound = .ok s.sirenSound :=
    getNamed_nameOf rfl loadable.sirenSound (by decide)
  have volume : getInt (sirenJson s) "volume" 1 100 base.sirenVolume = .ok s.sirenVolume :=
    getInt_ofInt rfl loadable.sirenVolume (by decide) (by decide)
  have seconds : getInt (sirenJson s) "seconds" 1 300 base.sirenSeconds = .ok s.sirenSeconds :=
    getInt_ofInt rfl loadable.sirenSeconds (by decide) (by decide)
  have strobe : getBool (sirenJson s) "strobe" base.sirenStrobe = .ok s.sirenStrobe :=
    getBool_flag rfl loadable.sirenStrobe
  have object : (sirenJson s).isObject = true := rfl
  simp only [patchSiren, onObject, found, object, if_true, sound, volume, seconds, strobe, bind,
    Except.bind, pure, Except.pure]

theorem patchOverlay_json (found : root.get? "overlay".toList = some (overlayJson s))
    (loadable : s.Loadable) :
    patchOverlay root base =
      .ok { base with
        overlayOn := s.overlayOn, overlayCorner := s.overlayCorner,
        overlayFormat := s.overlayFormat, overlayName := s.overlayName } := by
  have on : getBool (overlayJson s) "enabled" base.overlayOn = .ok s.overlayOn :=
    getBool_flag rfl loadable.overlayOn
  have corner :
      getNamed (overlayJson s) "position" corners
        "position must be top-left, top-right, bottom-left or bottom-right" base.overlayCorner =
          .ok s.overlayCorner :=
    getNamed_nameOf rfl loadable.overlayCorner (by decide)
  have format :
      getNamed (overlayJson s) "format" formats "format must be ymd, dmy or mdy"
        base.overlayFormat = .ok s.overlayFormat :=
    getNamed_nameOf rfl loadable.overlayFormat (by decide)
  have name : patchOverlayName (overlayJson s) base.overlayName = .ok s.overlayName := by
    have text : (overlayJson s).get? "name".toList = some (.string s.overlayName) := rfl
    simp only [patchOverlayName, text, loadable.overlayName, if_true]
  have object : (overlayJson s).isObject = true := rfl
  simp only [patchOverlay, onObject, found, object, if_true, on, corner, format, name, bind,
    Except.bind, pure, Except.pure]

theorem patchPrivacy_json (found : root.get? "privacy".toList = some (privacyJson s))
    (loadable : s.Loadable) :
    patchPrivacy root base =
      .ok { base with
        privacyOn := s.privacyOn, privacySlot := s.privacySlot,
        privacySchedule := s.privacySchedule, privacyFrom := s.privacyFrom,
        privacyUntil := s.privacyUntil } := by
  have on : getBool (privacyJson s) "on" base.privacyOn = .ok s.privacyOn :=
    getBool_flag rfl loadable.privacyOn
  have slot : getInt (privacyJson s) "slot" 0 16 base.privacySlot = .ok s.privacySlot :=
    getInt_ofInt rfl loadable.privacySlot (by decide) (by decide)
  have schedule :
      patchSchedule (privacyJson s) base.privacySchedule base.privacyFrom base.privacyUntil =
        .ok (s.privacySchedule, s.privacyFrom, s.privacyUntil) :=
    patchSchedule_json rfl loadable.privacySchedule loadable.privacyFrom loadable.privacyUntil
  have object : (privacyJson s).isObject = true := rfl
  simp only [patchPrivacy, onObject, found, object, if_true, on, slot, schedule, bind, Except.bind,
    pure, Except.pure]

/-- A home position is read back; without one there is nothing to read. -/
theorem patchHome_json
    (found : root.get? "home".toList = if s.homeSet ≠ 0 then some (homeJson s) else none)
    (loadable : s.Loadable) (unset : base.homeSet = 0 ∧ base.homeX = 0 ∧ base.homeY = 0) :
    patchHome root base =
      .ok { base with homeSet := s.homeSet, homeX := s.homeX, homeY := s.homeY } := by
  by_cases set : s.homeSet = 0
  · obtain ⟨zeroX, zeroY⟩ := loadable.noHome set
    have same : { base with homeSet := 0, homeX := 0, homeY := 0 } = base := by
      cases base
      simp only [Settings.mk.injEq, true_and]
      simpa [eq_comm] using unset
    rw [if_neg (by omega)] at found
    simp only [patchHome, found, set, zeroX, zeroY, same]
  · have one : s.homeSet = 1 := by
      obtain ⟨above, below⟩ := loadable.homeSet
      omega
    have x : getInt (homeJson s) "x" (-100) 8600 base.homeX = .ok s.homeX :=
      getInt_ofInt rfl loadable.homeX (by decide) (by decide)
    have y : getInt (homeJson s) "y" (-100) 2000 base.homeY = .ok s.homeY :=
      getInt_ofInt rfl loadable.homeY (by decide) (by decide)
    have complete :
        (homeJson s).isObject = true ∧ ((homeJson s).get? "x".toList).isSome = true ∧
          ((homeJson s).get? "y".toList).isSome = true :=
      ⟨rfl, rfl, rfl⟩
    rw [if_pos (by omega)] at found
    simp only [patchHome, found, complete, and_self, if_true, x, y, one, bind, Except.bind, pure,
      Except.pure]

theorem patchPicture_json {picture current : Picture} (loadable : picture.Loadable) :
    patchPicture (pictureJson picture) current = .ok picture := by
  have brightness :
      getInt (pictureJson picture) "brightness" 0 255 current.brightness =
        .ok picture.brightness :=
    getInt_ofInt rfl loadable.brightness (by decide) (by decide)
  have contrast :
      getInt (pictureJson picture) "contrast" 0 255 current.contrast = .ok picture.contrast :=
    getInt_ofInt rfl loadable.contrast (by decide) (by decide)
  have saturation :
      getInt (pictureJson picture) "saturation" 0 255 current.saturation =
        .ok picture.saturation :=
    getInt_ofInt rfl loadable.saturation (by decide) (by decide)
  have sharpness :
      getInt (pictureJson picture) "sharpness" 0 255 current.sharpness = .ok picture.sharpness :=
    getInt_ofInt rfl loadable.sharpness (by decide) (by decide)
  have denoise :
      getInt (pictureJson picture) "denoise" 0 255 current.denoise = .ok picture.denoise :=
    getInt_ofInt rfl loadable.denoise (by decide) (by decide)
  unfold patchPicture
  split
  · rename_i shape
    exact absurd shape (by simp [pictureJson])
  · simp only [brightness, contrast, saturation, sharpness, denoise, bind, Except.bind, pure,
      Except.pure]
  · rename_i shape
    exact absurd rfl (shape _)

end Sections

/-! ### The settings come back -/

/-- The patch of the defaults with the JSON of loadable settings gives them back, one
section after the other. -/
theorem patch_settingsJson {s : Settings} (loadable : s.Loadable) :
    patch (settingsJson s true) .defaults = .ok s := by
  have home :
      (settingsJson s true).get? "home".toList =
        if s.homeSet ≠ 0 then some (homeJson s) else none := by
    unfold settingsJson
    by_cases set : s.homeSet ≠ 0
    · rw [if_pos set, if_pos set]
      rfl
    · rw [if_neg set, if_neg set]
      rfl
  have roots (base : Settings) :
      patchRoot (settingsJson s true) base =
        .ok { base with
          pilotLed := s.pilotLed, micMute := s.micMute, antiFlicker := s.antiFlicker,
          utcOffsetMin := s.utcOffsetMin } := by
    have led : getBool (settingsJson s true) "pilot_led" base.pilotLed = .ok s.pilotLed :=
      getBool_flag rfl loadable.pilotLed
    have mute : getBool (settingsJson s true) "mic_mute" base.micMute = .ok s.micMute :=
      getBool_flag rfl loadable.micMute
    have flicker :
        getName (settingsJson s true) "anti_flicker" flickerNames base.antiFlicker =
          .ok s.antiFlicker :=
      getName_nameOf rfl loadable.antiFlicker (by decide)
    have zone :
        getInt (settingsJson s true) "utc_offset_min" (-720) 840 base.utcOffsetMin =
          .ok s.utcOffsetMin :=
      getInt_ofInt rfl loadable.utcOffsetMin (by decide) (by decide)
    simp only [patchRoot, led, mute, flicker, zone, bind, Except.bind, pure, Except.pure]
  have pictures (base : Settings) :
      patchPictures (settingsJson s true) base =
        .ok { base with pic0 := s.pic0, pic1 := s.pic1 } := by
    have found :
        (settingsJson s true).get? "picture".toList =
          some (.array [pictureJson s.pic0, pictureJson s.pic1]) :=
      rfl
    simp only [patchPictures, found, patchPicture_json loadable.pic0,
      patchPicture_json loadable.pic1, bind, Except.bind, pure, Except.pure]
  unfold patch
  rw [patchNight_json (settingsJson s true) _ rfl loadable]
  simp only [bind, Except.bind]
  rw [patchWhiteLight_json (settingsJson s true) _ rfl loadable]
  simp only
  rw [patchPatrol_json (settingsJson s true) _ rfl loadable]
  simp only
  rw [patchSiren_json (settingsJson s true) _ rfl loadable]
  simp only
  rw [patchOverlay_json (settingsJson s true) _ rfl loadable]
  simp only
  rw [patchPrivacy_json (settingsJson s true) _ rfl loadable]
  simp only
  rw [patchHome_json (settingsJson s true) _ home loadable ⟨rfl, rfl, rfl⟩]
  simp only [roots, pictures]

/-! ### The text is a C string that fits -/

section Text

variable {value low high : Int}

theorem fits_ofInt (room : Nat) (value : Int) : Json.Fits room (.ofInt value) := by
  simpa [Json.ofInt, Json.Fits] using Json.isNumeral_ofInt value

theorem fits_flag (room : Nat) (value : Int) : Json.Fits room (flag value) := by
  simp [flag, Json.Fits]

theorem fits_nameOf (room : Nat) {names : List String}
    (whole : ∀ name ∈ names, Json.nul ∉ name.toList) (value : Int) :
    Json.Fits room (nameOf names value) := by
  simp only [nameOf, Json.Fits, List.getD_eq_getElem?_getD]
  cases found : names[value.toNat]? with
  | none => simp
  | some name => simpa using whole name (List.mem_of_getElem? found)

theorem timeDigit_ne_nul : ∀ digit < 10, Json.nul ≠ timeDigit digit := by
  decide

theorem fits_timeOf (room : Nat) (minutes : Int) : Json.Fits room (timeOf minutes) := by
  have colon : Json.nul ≠ ':' := by decide
  simp only [timeOf, hhmm, Json.Fits, List.mem_cons, List.not_mem_nil, or_false, not_or, colon,
    not_false_eq_true, true_and]
  refine ⟨?_, ?_, ?_, ?_⟩ <;> exact timeDigit_ne_nul _ (by omega)

theorem overlayName_whole {name : List Char} (fits : overlayNameFits name = true) :
    Json.nul ∉ name := by
  intro member
  simp only [overlayNameFits, Bool.and_eq_true, List.all_eq_true] at fits
  have printable := fits.2 _ member
  exact absurd printable (by decide)

theorem fits_stops (room : Nat) (stops : List PatrolStop) :
    Json.ItemsFit (room + 1) (stops.map stopJson) := by
  induction stops with
  | nil => simp [Json.ItemsFit]
  | cons stop stops inductionHypothesis =>
      refine ⟨?_, inductionHypothesis⟩
      simp [stopJson, Json.Fits, Json.MembersFit, Json.MemberFits, fits_ofInt, Json.nul]

theorem fits_settingsJson {s : Settings} (loadable : s.Loadable) :
    Json.Fits Json.nestingLimit (settingsJson s true) := by
  have night := @fits_nameOf 998 nightNames (by decide) s.nightMode
  have siren := @fits_nameOf 998 sirenNames (by decide) s.sirenSound
  have corner := @fits_nameOf 998 corners (by decide) s.overlayCorner
  have format := @fits_nameOf 998 formats (by decide) s.overlayFormat
  have flicker := @fits_nameOf 999 flickerNames (by decide) s.antiFlicker
  have ir : Json.nul ∉ (if s.irOff ≠ 0 then "off" else "night").toList := by
    split <;> decide
  have name := overlayName_whole loadable.overlayName
  have stops := fits_stops 996 s.stops
  have last :
      Json.MembersFit 999 (if s.homeSet ≠ 0 then [("home".toList, homeJson s)] else []) := by
    split
    · simp [Json.MembersFit, Json.MemberFits, homeJson, Json.Fits, fits_ofInt, Json.nul]
    · simp [Json.MembersFit]
  simp only [Json.nul] at ir name
  simp [settingsJson, Json.Fits, Json.MembersFit, Json.MemberFits, Json.ItemsFit, nightJson,
    whiteLightJson, scheduleJson, patrolJson, sirenJson, overlayJson, privacyJson, pictureJson,
    Json.nestingLimit, fits_ofInt, fits_flag, fits_timeOf, night, siren, corner, format, flicker,
    stops, Json.nul]
  have all := And.intro ir (And.intro name last)
  simpa using all

/-- A number of the settings is short. -/
theorem ofInt_length (within : Within low high value) (least : -10000000 ≤ low)
    (most : high ≤ 10000000) : (Json.ofInt value).print.length ≤ 9 := by
  obtain ⟨above, below⟩ := within
  have bounded : value.natAbs < 10 ^ 8 := by omega
  simpa [Json.ofInt, Json.print] using Decimal.length_ofInt_le (by decide) bounded

theorem flag_length (value : Int) : (flag value).print.length ≤ 5 := by
  unfold flag
  cases decide (value ≠ 0) <;> decide

theorem timeOf_length (minutes : Int) : (timeOf minutes).print.length ≤ 32 := by
  have bound := Json.printString_length_le (hhmm minutes)
  simp only [timeOf, Json.print]
  simp only [hhmm, List.length_cons, List.length_nil] at bound ⊢
  omega

theorem nameOf_length {names : List String} (short : ∀ name ∈ names, name.toList.length ≤ 12)
    (value : Int) : (nameOf names value).print.length ≤ 74 := by
  have bound := Json.printString_length_le (names.getD value.toNat "").toList
  have few : (names.getD value.toNat "").toList.length ≤ 12 := by
    simp only [List.getD_eq_getElem?_getD]
    cases found : names[value.toNat]? with
    | none => simp
    | some name => simpa using short name (List.mem_of_getElem? found)
  simp only [nameOf, Json.print]
  omega

theorem nightJson_length {s : Settings} (loadable : s.Loadable) :
    (nightJson s).print.length ≤ 400 := by
  have mode := @nameOf_length nightNames (by decide) s.nightMode
  have ir := Json.printString_length_le (if s.irOff ≠ 0 then "off" else "night").toList
  have short : (if s.irOff ≠ 0 then "off" else "night").toList.length ≤ 5 := by
    split <;> decide
  have nightEv := ofInt_length loadable.nightEv (by decide) (by decide)
  have dayEv := ofInt_length loadable.dayEv (by decide) (by decide)
  have waitS := ofInt_length loadable.waitS (by decide) (by decide)
  have start := timeOf_length s.nightFrom
  have stop := timeOf_length s.nightUntil
  simp (disch := decide) only [nightJson, Json.print_string, Json.print_object_length,
    Json.printMembers_length, Json.printMembers_nil, List.length_cons, List.length_nil,
    String.reduceToList]
  omega

theorem scheduleJson_length (enabled start stop : Int) :
    (scheduleJson enabled start stop).print.length ≤ 120 := by
  have on := flag_length enabled
  have opens := timeOf_length start
  have closes := timeOf_length stop
  simp (disch := decide) only [scheduleJson, Json.print_object_length, Json.printMembers_length,
    Json.printMembers_nil, List.length_cons, List.length_nil, String.reduceToList]
  omega

theorem whiteLightJson_length {s : Settings} (loadable : s.Loadable) :
    (whiteLightJson s).print.length ≤ 200 := by
  have on := flag_length s.whiteLight
  have trigger := ofInt_length loadable.triggerS (by decide) (by decide)
  have schedule := scheduleJson_length s.wlSchedule s.wlFrom s.wlUntil
  simp (disch := decide) only [whiteLightJson, Json.print_object_length, Json.printMembers_length,
    Json.printMembers_nil, List.length_cons, List.length_nil, String.reduceToList]
  omega

theorem pictureJson_length {picture : Picture} (loadable : picture.Loadable) :
    (pictureJson picture).print.length ≤ 130 := by
  have brightness := ofInt_length loadable.brightness (by decide) (by decide)
  have contrast := ofInt_length loadable.contrast (by decide) (by decide)
  have saturation := ofInt_length loadable.saturation (by decide) (by decide)
  have sharpness := ofInt_length loadable.sharpness (by decide) (by decide)
  have denoise := ofInt_length loadable.denoise (by decide) (by decide)
  simp (disch := decide) only [pictureJson, Json.print_object_length, Json.printMembers_length,
    Json.printMembers_nil, List.length_cons, List.length_nil, String.reduceToList]
  omega

theorem stopJson_length {stop : PatrolStop} (loadable : stop.Loadable) :
    (stopJson stop).print.length ≤ 45 := by
  have slot := ofInt_length loadable.slot (by decide) (by decide)
  have dwell := ofInt_length loadable.dwellS (by decide) (by decide)
  simp (disch := decide) only [stopJson, Json.print_object_length, Json.printMembers_length,
    Json.printMembers_nil, List.length_cons, List.length_nil, String.reduceToList]
  omega

theorem stopItems_length {stops : List PatrolStop} (loadable : ∀ stop ∈ stops, stop.Loadable) :
    (Json.printItems (stops.map stopJson)).length ≤ 46 * stops.length + 1 := by
  induction stops with
  | nil => simp [Json.printItems]
  | cons stop stops inductionHypothesis =>
      have first := stopJson_length (loadable stop (by simp))
      have others := inductionHypothesis fun other member => loadable other (by simp [member])
      simp only [List.map_cons, Json.printItems, List.length_cons, List.length_append]
      omega

theorem stops_length {stops : List PatrolStop} (loadable : ∀ stop ∈ stops, stop.Loadable) :
    (Json.array (stops.map stopJson)).print.length ≤ 46 * stops.length + 2 := by
  cases stops with
  | nil => simp [Json.print]
  | cons stop stops =>
      have first := stopJson_length (loadable stop (by simp))
      have others := @stopItems_length stops fun other member => loadable other (by simp [member])
      simp only [List.map_cons, Json.print, List.length_cons, List.length_append]
      omega

theorem patrolJson_length {s : Settings} (loadable : s.Loadable) :
    (patrolJson s).print.length ≤ 800 := by
  have on := flag_length s.patrolOn
  have pause := ofInt_length loadable.patrolPauseS (by decide) (by decide)
  have stops := stops_length loadable.stops
  have count := loadable.stopCount
  simp (disch := decide) only [patrolJson, Json.print_object_length, Json.printMembers_length,
    Json.printMembers_nil, List.length_cons, List.length_nil, String.reduceToList]
  omega

theorem sirenJson_length {s : Settings} (loadable : s.Loadable) :
    (sirenJson s).print.length ≤ 150 := by
  have sound := @nameOf_length sirenNames (by decide) s.sirenSound
  have volume := ofInt_length loadable.sirenVolume (by decide) (by decide)
  have seconds := ofInt_length loadable.sirenSeconds (by decide) (by decide)
  have strobe := flag_length s.sirenStrobe
  simp (disch := decide) only [sirenJson, Json.print_object_length, Json.printMembers_length,
    Json.printMembers_nil, List.length_cons, List.length_nil, String.reduceToList]
  omega

theorem overlayJson_length {s : Settings} (loadable : s.Loadable) :
    (overlayJson s).print.length ≤ 300 := by
  have on := flag_length s.overlayOn
  have corner := @nameOf_length corners (by decide) s.overlayCorner
  have format := @nameOf_length formats (by decide) s.overlayFormat
  have name := Json.printString_length_le s.overlayName
  have short : s.overlayName.length ≤ 16 := by
    have fits := loadable.overlayName
    simp only [overlayNameFits, Bool.and_eq_true, decide_eq_true_eq] at fits
    exact fits.1
  simp (disch := decide) only [overlayJson, Json.print_string, Json.print_object_length,
    Json.printMembers_length, Json.printMembers_nil, List.length_cons, List.length_nil,
    String.reduceToList]
  omega

theorem privacyJson_length {s : Settings} (loadable : s.Loadable) :
    (privacyJson s).print.length ≤ 170 := by
  have on := flag_length s.privacyOn
  have slot := ofInt_length loadable.privacySlot (by decide) (by decide)
  have schedule := scheduleJson_length s.privacySchedule s.privacyFrom s.privacyUntil
  simp (disch := decide) only [privacyJson, Json.print_object_length, Json.printMembers_length,
    Json.printMembers_nil, List.length_cons, List.length_nil, String.reduceToList]
  omega

theorem homeJson_length {s : Settings} (loadable : s.Loadable) :
    (homeJson s).print.length ≤ 40 := by
  have x := ofInt_length loadable.homeX (by decide) (by decide)
  have y := ofInt_length loadable.homeY (by decide) (by decide)
  simp (disch := decide) only [homeJson, Json.print_object_length, Json.printMembers_length,
    Json.printMembers_nil, List.length_cons, List.length_nil, String.reduceToList]
  omega

/-- The saved text fits in the buffer of `load`. -/
theorem save_length {s : Settings} (loadable : s.Loadable) : (save s).length ≤ 4095 := by
  have night := nightJson_length loadable
  have light := whiteLightJson_length loadable
  have led := flag_length s.pilotLed
  have mute := flag_length s.micMute
  have flicker := @nameOf_length flickerNames (by decide) s.antiFlicker
  have zone := ofInt_length loadable.utcOffsetMin (by decide) (by decide)
  have first := pictureJson_length loadable.pic0
  have second := pictureJson_length loadable.pic1
  have patrol := patrolJson_length loadable
  have siren := sirenJson_length loadable
  have overlay := overlayJson_length loadable
  have privacy := privacyJson_length loadable
  have home := homeJson_length loadable
  have version : (Json.ofInt 1).print.length = 1 := by decide
  have last :
      (Json.printMembers (if s.homeSet ≠ 0 then [("home".toList, homeJson s)] else [])).length ≤
        49 := by
    split
    · simp (disch := decide) only [Json.printMembers_length, Json.printMembers_nil,
        List.length_cons, List.length_nil, String.reduceToList]
      omega
    · decide
  simp (disch := decide) only [save, settingsJson, Json.print_object_length,
    Json.printMembers_length, Json.print_array_length, Json.printItems_length,
    Json.printItems_nil, List.length_append, List.length_cons,
    List.length_nil, List.cons_append, List.nil_append, String.reduceToList, if_true, version]
  simp only [String.reduceToList] at last
  omega

end Text

/-- Loadable settings come back from the file `save` writes, whole. -/
theorem load_save {s : Settings} (loadable : s.Loadable) : load (save s) = (s, none) := by
  have fits := fits_settingsJson loadable
  have whole : Json.Whole (save s) := (Json.print_whole _ fits).append (by decide)
  have text : ((save s).take 4095).takeWhile (· ≠ Json.nul) = save s := by
    rw [List.take_of_length_le (save_length loadable), List.takeWhile_eq_self_iff]
    exact fun c member => by simpa using whole c member
  have parsed : Json.parse (save s) = some (settingsJson s true) :=
    Json.parse_print fits (Json.ends_cons (by decide) [])
  simp only [load, text, parsed, patch_settingsJson loadable]

/-! ### A patch keeps the ranges -/

section Ranges

variable {object root : Json} {key : String} {current value : Int} {s after : Settings}

theorem bind_ok {α β : Type} {first : Except String α} {next : α → Except String β}
    {result : β} (accepted : (first >>= next) = .ok result) :
    ∃ middle, first = .ok middle ∧ next middle = .ok result := by
  cases first with
  | error => simp [bind, Except.bind] at accepted
  | ok middle => exact ⟨middle, rfl, accepted⟩

/-- A number that is there is in its range. -/
theorem getInt_present {low high : Int} (accepted : getInt object key low high current = .ok value)
    (present : (object.get? key.toList).isSome = true) : Within low high value := by
  unfold getInt at accepted
  split at accepted
  · simp_all
  · split at accepted
    · split at accepted
      · simp at accepted
      · simp only [Except.ok.injEq] at accepted
        subst accepted
        constructor <;> omega
    · simp at accepted

theorem getInt_within {low high : Int} (accepted : getInt object key low high current = .ok value)
    (within : Within low high current) : Within low high value := by
  by_cases present : (object.get? key.toList).isSome = true
  · exact getInt_present accepted present
  · simp_all [getInt]

theorem getBool_within (accepted : getBool object key current = .ok value)
    (within : Within 0 1 current) : Within 0 1 value := by
  unfold getBool at accepted
  split at accepted
  · simp_all
  · simp only [Except.ok.injEq] at accepted
    subst accepted
    split <;> decide
  · simp at accepted

theorem parseHhmm_within {text : List Char} {minutes : Int}
    (parsed : parseHhmm text = some minutes) : Within 0 1439 minutes := by
  simp only [parseHhmm, Option.bind_eq_bind, Option.bind_eq_some_iff] at parsed
  obtain ⟨hour, -, rest, -, minute, -, checked⟩ := parsed
  split at checked
  · simp at checked
  · simp only [Option.some.injEq] at checked
    subst checked
    constructor <;> omega

theorem getTime_within (accepted : getTime object key current = .ok value)
    (within : Within 0 1439 current) : Within 0 1439 value := by
  unfold getTime at accepted
  split at accepted
  · simp_all
  · split at accepted
    · rename_i parsed
      simp only [Except.ok.injEq] at accepted
      exact accepted ▸ parseHhmm_within parsed
    · simp at accepted
  · simp at accepted

theorem getNamed_within {names : List String} {error : String}
    (accepted : getNamed object key names error current = .ok value)
    (within : Within 0 (names.length - 1) current) : Within 0 (names.length - 1) value := by
  unfold getNamed at accepted
  split at accepted
  · simp_all
  · split at accepted
    · rename_i item found index place
      simp only [Except.ok.injEq] at accepted
      subst accepted
      unfold nameIndex at place
      split at place
      · simp only at place
        split at place
        · rename_i text member
          have bound := List.idxOf_lt_length_of_mem member
          simp only [Option.some.injEq] at place
          subst place
          simp only [List.length_map] at bound
          constructor <;> omega
        · simp at place
      · simp at place
    · simp at accepted

theorem onObject_keeps {change : Json → Except String Settings} {Holds : Settings → Prop}
    (kept : ∀ member after, change member = .ok after → Holds after) (holds : Holds s)
    (accepted : onObject root key s change = .ok after) : Holds after := by
  unfold onObject at accepted
  split at accepted
  · simp_all
  · split at accepted
    · exact kept _ _ accepted
    · simp at accepted

theorem patchNight_loadable (loadable : s.Loadable) (accepted : patchNight root s = .ok after) :
    after.Loadable := by
  refine onObject_keeps (fun night after accepted => ?_) loadable accepted
  obtain ⟨mode, readMode, accepted⟩ := bind_ok accepted
  obtain ⟨ir, readIr, accepted⟩ := bind_ok accepted
  obtain ⟨nightEv, readNightEv, accepted⟩ := bind_ok accepted
  obtain ⟨dayEv, readDayEv, accepted⟩ := bind_ok accepted
  obtain ⟨wait, readWait, accepted⟩ := bind_ok accepted
  obtain ⟨start, readStart, accepted⟩ := bind_ok accepted
  obtain ⟨stop, readStop, accepted⟩ := bind_ok accepted
  split at accepted
  · simp at accepted
  · rename_i levels
    simp only [Except.ok.injEq] at accepted
    subst accepted
    exact { loadable with
      nightMode := getNamed_within readMode loadable.nightMode
      irOff := getNamed_within readIr loadable.irOff
      nightEv := getInt_within readNightEv loadable.nightEv
      dayEv := getInt_within readDayEv loadable.dayEv
      levels := Int.not_le.1 levels
      waitS := getInt_within readWait loadable.waitS
      nightFrom := getTime_within readStart loadable.nightFrom
      nightUntil := getTime_within readStop loadable.nightUntil }

theorem patchSchedule_within {enabled start stop : Int} {patched : Int × Int × Int}
    (on : Within 0 1 enabled) (opens : Within 0 1439 start) (closes : Within 0 1439 stop)
    (accepted : patchSchedule object enabled start stop = .ok patched) :
    Within 0 1 patched.1 ∧ Within 0 1439 patched.2.1 ∧ Within 0 1439 patched.2.2 := by
  unfold patchSchedule at accepted
  split at accepted
  · simp only [Except.ok.injEq] at accepted
    subst accepted
    exact ⟨on, opens, closes⟩
  · split at accepted
    · obtain ⟨enabled', readEnabled, accepted⟩ := bind_ok accepted
      obtain ⟨start', readStart, accepted⟩ := bind_ok accepted
      obtain ⟨stop', readStop, accepted⟩ := bind_ok accepted
      simp only [pure, Except.pure, Except.ok.injEq] at accepted
      subst accepted
      exact ⟨getBool_within readEnabled on, getTime_within readStart opens,
        getTime_within readStop closes⟩
    · simp at accepted

theorem patchWhiteLight_loadable (loadable : s.Loadable)
    (accepted : patchWhiteLight root s = .ok after) : after.Loadable := by
  refine onObject_keeps (fun light after accepted => ?_) loadable accepted
  obtain ⟨on, readOn, accepted⟩ := bind_ok accepted
  obtain ⟨trigger, readTrigger, accepted⟩ := bind_ok accepted
  obtain ⟨schedule, readSchedule, accepted⟩ := bind_ok accepted
  simp only [pure, Except.pure, Except.ok.injEq] at accepted
  subst accepted
  obtain ⟨enabled, start, stop⟩ :=
    patchSchedule_within loadable.wlSchedule loadable.wlFrom loadable.wlUntil readSchedule
  exact { loadable with
    whiteLight := getBool_within readOn loadable.whiteLight
    triggerS := getInt_within readTrigger loadable.triggerS
    wlSchedule := enabled
    wlFrom := start
    wlUntil := stop }

theorem patchStop_loadable {item : Json} {stop : PatrolStop}
    (accepted : patchStop item = .ok stop) : stop.Loadable := by
  unfold patchStop at accepted
  split at accepted
  · rename_i complete
    obtain ⟨slot, readSlot, accepted⟩ := bind_ok accepted
    obtain ⟨dwell, readDwell, accepted⟩ := bind_ok accepted
    simp only [pure, Except.pure, Except.ok.injEq] at accepted
    subst accepted
    exact ⟨getInt_present readSlot complete.2, getInt_within readDwell (by decide)⟩
  · simp at accepted

theorem mapM_patchStop_loadable {items : List Json} {stops : List PatrolStop}
    (accepted : items.mapM patchStop = .ok stops) :
    stops.length = items.length ∧ ∀ stop ∈ stops, stop.Loadable := by
  induction items generalizing stops with
  | nil =>
      simp only [List.mapM_nil, pure, Except.pure, Except.ok.injEq] at accepted
      subst accepted
      simp
  | cons item items inductionHypothesis =>
      rw [List.mapM_cons] at accepted
      obtain ⟨first, readFirst, accepted⟩ := bind_ok accepted
      obtain ⟨others, readOthers, accepted⟩ := bind_ok accepted
      simp only [pure, Except.pure, Except.ok.injEq] at accepted
      subst accepted
      obtain ⟨count, ranges⟩ := inductionHypothesis readOthers
      have head := patchStop_loadable readFirst
      simp_all

theorem patchStops_loadable {stops stops' : List PatrolStop} (few : stops.length ≤ 16)
    (ranges : ∀ stop ∈ stops, stop.Loadable) (accepted : patchStops object stops = .ok stops') :
    stops'.length ≤ 16 ∧ ∀ stop ∈ stops', stop.Loadable := by
  unfold patchStops at accepted
  split at accepted
  · simp_all
  · split at accepted
    · simp at accepted
    · obtain ⟨count, ranges'⟩ := mapM_patchStop_loadable accepted
      exact ⟨by omega, ranges'⟩
  · simp at accepted

theorem patchPatrol_loadable (loadable : s.Loadable)
    (accepted : patchPatrol root s = .ok after) : after.Loadable := by
  refine onObject_keeps (fun patrol after accepted => ?_) loadable accepted
  obtain ⟨on, readOn, accepted⟩ := bind_ok accepted
  obtain ⟨pause, readPause, accepted⟩ := bind_ok accepted
  obtain ⟨stops, readStops, accepted⟩ := bind_ok accepted
  simp only [pure, Except.pure, Except.ok.injEq] at accepted
  subst accepted
  obtain ⟨few, ranges⟩ := patchStops_loadable loadable.stopCount loadable.stops readStops
  exact { loadable with
    patrolOn := getBool_within readOn loadable.patrolOn
    patrolPauseS := getInt_within readPause loadable.patrolPauseS
    stopCount := few
    stops := ranges }

theorem patchSiren_loadable (loadable : s.Loadable) (accepted : patchSiren root s = .ok after) :
    after.Loadable := by
  refine onObject_keeps (fun siren after accepted => ?_) loadable accepted
  obtain ⟨sound, readSound, accepted⟩ := bind_ok accepted
  obtain ⟨volume, readVolume, accepted⟩ := bind_ok accepted
  obtain ⟨seconds, readSeconds, accepted⟩ := bind_ok accepted
  obtain ⟨strobe, readStrobe, accepted⟩ := bind_ok accepted
  simp only [pure, Except.pure, Except.ok.injEq] at accepted
  subst accepted
  exact { loadable with
    sirenSound := getNamed_within readSound loadable.sirenSound
    sirenVolume := getInt_within readVolume loadable.sirenVolume
    sirenSeconds := getInt_within readSeconds loadable.sirenSeconds
    sirenStrobe := getBool_within readStrobe loadable.sirenStrobe }

theorem patchOverlayName_fits {name name' : List Char} (fits : overlayNameFits name = true)
    (accepted : patchOverlayName object name = .ok name') : overlayNameFits name' = true := by
  unfold patchOverlayName at accepted
  split at accepted
  · simp_all
  · split at accepted
    · simp_all
    · simp at accepted
  · simp at accepted

theorem patchOverlay_loadable (loadable : s.Loadable)
    (accepted : patchOverlay root s = .ok after) : after.Loadable := by
  refine onObject_keeps (fun overlay after accepted => ?_) loadable accepted
  obtain ⟨on, readOn, accepted⟩ := bind_ok accepted
  obtain ⟨corner, readCorner, accepted⟩ := bind_ok accepted
  obtain ⟨format, readFormat, accepted⟩ := bind_ok accepted
  obtain ⟨name, readName, accepted⟩ := bind_ok accepted
  simp only [pure, Except.pure, Except.ok.injEq] at accepted
  subst accepted
  exact { loadable with
    overlayOn := getBool_within readOn loadable.overlayOn
    overlayCorner := getNamed_within readCorner loadable.overlayCorner
    overlayFormat := getNamed_within readFormat loadable.overlayFormat
    overlayName := patchOverlayName_fits loadable.overlayName readName }

theorem patchPrivacy_loadable (loadable : s.Loadable)
    (accepted : patchPrivacy root s = .ok after) : after.Loadable := by
  refine onObject_keeps (fun privacy after accepted => ?_) loadable accepted
  obtain ⟨on, readOn, accepted⟩ := bind_ok accepted
  obtain ⟨slot, readSlot, accepted⟩ := bind_ok accepted
  obtain ⟨schedule, readSchedule, accepted⟩ := bind_ok accepted
  simp only [pure, Except.pure, Except.ok.injEq] at accepted
  subst accepted
  obtain ⟨enabled, start, stop⟩ :=
    patchSchedule_within loadable.privacySchedule loadable.privacyFrom loadable.privacyUntil
      readSchedule
  exact { loadable with
    privacyOn := getBool_within readOn loadable.privacyOn
    privacySlot := getInt_within readSlot loadable.privacySlot
    privacySchedule := enabled
    privacyFrom := start
    privacyUntil := stop }

theorem patchHome_loadable (loadable : s.Loadable) (accepted : patchHome root s = .ok after) :
    after.Loadable := by
  unfold patchHome at accepted
  split at accepted
  · simp_all
  · split at accepted
    · obtain ⟨x, readX, accepted⟩ := bind_ok accepted
      obtain ⟨y, readY, accepted⟩ := bind_ok accepted
      simp only [pure, Except.pure, Except.ok.injEq] at accepted
      subst accepted
      exact { loadable with
        homeSet := (by decide : Within 0 1 1)
        homeX := getInt_within readX loadable.homeX
        homeY := getInt_within readY loadable.homeY
        noHome := fun unset => absurd unset (by decide : ¬ (1 : Int) = 0) }
    · simp at accepted

theorem patchRoot_loadable (loadable : s.Loadable) (accepted : patchRoot root s = .ok after) :
    after.Loadable := by
  obtain ⟨led, readLed, accepted⟩ := bind_ok accepted
  obtain ⟨mute, readMute, accepted⟩ := bind_ok accepted
  obtain ⟨flicker, readFlicker, accepted⟩ := bind_ok accepted
  obtain ⟨zone, readZone, accepted⟩ := bind_ok accepted
  simp only [pure, Except.pure, Except.ok.injEq] at accepted
  subst accepted
  exact { loadable with
    pilotLed := getBool_within readLed loadable.pilotLed
    micMute := getBool_within readMute loadable.micMute
    antiFlicker := getNamed_within readFlicker loadable.antiFlicker
    utcOffsetMin := getInt_within readZone loadable.utcOffsetMin }

theorem patchPicture_loadable {entry : Json} {picture picture' : Picture}
    (loadable : picture.Loadable) (accepted : patchPicture entry picture = .ok picture') :
    picture'.Loadable := by
  unfold patchPicture at accepted
  split at accepted
  · simp_all
  · obtain ⟨brightness, readBrightness, accepted⟩ := bind_ok accepted
    obtain ⟨contrast, readContrast, accepted⟩ := bind_ok accepted
    obtain ⟨saturation, readSaturation, accepted⟩ := bind_ok accepted
    obtain ⟨sharpness, readSharpness, accepted⟩ := bind_ok accepted
    obtain ⟨denoise, readDenoise, accepted⟩ := bind_ok accepted
    simp only [pure, Except.pure, Except.ok.injEq] at accepted
    subst accepted
    exact {
      brightness := getInt_within readBrightness loadable.brightness
      contrast := getInt_within readContrast loadable.contrast
      saturation := getInt_within readSaturation loadable.saturation
      sharpness := getInt_within readSharpness loadable.sharpness
      denoise := getInt_within readDenoise loadable.denoise }
  · simp at accepted

theorem patchPictures_loadable (loadable : s.Loadable)
    (accepted : patchPictures root s = .ok after) : after.Loadable := by
  unfold patchPictures at accepted
  split at accepted
  · simp_all
  · split at accepted
    · simp_all
    · obtain ⟨pic0, readFirst, accepted⟩ := bind_ok accepted
      simp only [pure, Except.pure, Except.ok.injEq] at accepted
      subst accepted
      exact { loadable with pic0 := patchPicture_loadable loadable.pic0 readFirst }
    · obtain ⟨pic0, readFirst, accepted⟩ := bind_ok accepted
      obtain ⟨pic1, readSecond, accepted⟩ := bind_ok accepted
      simp only [pure, Except.pure, Except.ok.injEq] at accepted
      subst accepted
      exact { loadable with
        pic0 := patchPicture_loadable loadable.pic0 readFirst
        pic1 := patchPicture_loadable loadable.pic1 readSecond }
    · simp at accepted
  · simp at accepted

/-- Whatever a patch holds, loadable settings stay loadable. -/
theorem patch_loadable (loadable : s.Loadable) (accepted : patch root s = .ok after) :
    after.Loadable := by
  obtain ⟨night, readNight, accepted⟩ := bind_ok accepted
  obtain ⟨light, readLight, accepted⟩ := bind_ok accepted
  obtain ⟨patrol, readPatrol, accepted⟩ := bind_ok accepted
  obtain ⟨siren, readSiren, accepted⟩ := bind_ok accepted
  obtain ⟨overlay, readOverlay, accepted⟩ := bind_ok accepted
  obtain ⟨privacy, readPrivacy, accepted⟩ := bind_ok accepted
  obtain ⟨home, readHome, accepted⟩ := bind_ok accepted
  obtain ⟨roots, readRoot, accepted⟩ := bind_ok accepted
  have nightLoadable := patchNight_loadable loadable readNight
  have lightLoadable := patchWhiteLight_loadable nightLoadable readLight
  have patrolLoadable := patchPatrol_loadable lightLoadable readPatrol
  have sirenLoadable := patchSiren_loadable patrolLoadable readSiren
  have overlayLoadable := patchOverlay_loadable sirenLoadable readOverlay
  have privacyLoadable := patchPrivacy_loadable overlayLoadable readPrivacy
  have homeLoadable := patchHome_loadable privacyLoadable readHome
  have rootLoadable := patchRoot_loadable homeLoadable readRoot
  exact patchPictures_loadable rootLoadable accepted

end Ranges

theorem defaults_loadable : Settings.defaults.Loadable := by
  have picture : Picture.Loadable ⟨128, 128, 128, 128, 128⟩ := by
    constructor <;> decide
  constructor
  case pic0 => exact picture
  case pic1 => exact picture
  case stops => simp [Settings.defaults]
  all_goals decide

end JooanW3U.Media

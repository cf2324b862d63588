import JooanW3U.Library.Runs
import JooanW3U.Media.Privacy
import JooanW3U.Media.SettingsJson

/-!
Owns the writers of the camera settings: client patches, manual controls noted after
`jipc_backend_control`, and the engine's refresh of the zone. Main result: when the
saved settings of a run can be loaded again.

A manual control is two steps, the decision and the note, as other threads take the
controls mutex between them. Motion, the siren and the lights have no part here.
-/

namespace JooanW3U.Media.Controls

open JooanW3U.Library

structure Config where
  sensors : Nat
  imp : Bool
  audio : Bool

/-! ### The vendor's zone -/

/-- `fgets` with room for so many characters. -/
def fgets : Nat → List Char → List Char × List Char
  | 0, text => ([], text)
  | _ + 1, [] => ([], [])
  | room + 1, c :: rest =>
      if c = '\n' then ([c], rest)
      else
        let (line, after) := fgets room rest
        (c :: line, after)

/-- The text from the first occurrence on. -/
def strstr (needle : List Char) : List Char → Option (List Char)
  | [] => if needle = [] then some [] else none
  | c :: rest => if needle.isPrefixOf (c :: rest) then some (c :: rest) else strstr needle rest

/-- `sscanf` with `GMT%c%2d:%2d`, and the checks after it. -/
def scanZone (text : List Char) : Option Int :=
  match text.drop 3 with
  | [] => none
  | sign :: rest => do
      let (h, rest) ← scanInt 2 rest
      let rest ← scanChar ':' rest
      let (m, _) ← scanInt 2 rest
      if (sign = '+' ∨ sign = '-') ∧ h ≤ 14 ∧ m ≤ 59 then
        some ((if sign = '-' then -1 else 1) * (h * 60 + m))
      else none

/-- The zone a line of the vendor config holds; the outer `none` is a line without one. -/
def zoneLine (line : List Char) : Option (Option Int) := do
  let at_ ← strstr "\"GmtTz\"".toList (line.takeWhile (· ≠ Json.nul))
  let at_ ← strstr "GMT".toList (at_.drop 7)
  return scanZone at_

def zoneFrom : Nat → List Char → Option Int
  | 0, _ => none
  | fuel + 1, text =>
      let (line, rest) := fgets 255 text
      if line = [] then none
      else
        match zoneLine line with
        | some zone => zone
        | none => zoneFrom fuel rest

/-- `camera_zone`; no file is no zone, and every line has a character. -/
def cameraZone (file : Option (List Char)) : Option Int :=
  file.bind fun text => zoneFrom (text.length + 1) text

example : cameraZone (some "\x7b\n \"GmtTz\" : \"GMT-03:00\",\n\x7d".toList) = some (-180) := by
  decide +kernel

/-! ### A manual control -/

/-- The operations of `jipc_backend_control` that reach the settings; the others are
`.control .other`. -/
inductive Operation
  | irMode
  | privacy
  | control (operation : ControlOperation)
deriving Repr, DecidableEq

inductive Outcome
  | refused
  | patches (json : List Char)
  | succeeds
deriving Repr, DecidableEq

/-- `jipc_imp_control` for one lens. -/
def lensControl (config : Config) (accepted : Bool) (value value2 : Int) : Outcome :=
  if 0 ≤ value2 ∧ value2 < config.sensors ∧ 0 ≤ value ∧ value ≤ 255 ∧ accepted = true then
    .succeeds
  else .refused

def binaryControl (accepted : Bool) (value : Int) : Outcome :=
  if (value = 0 ∨ value = 1) ∧ accepted = true then .succeeds else .refused

/-- The branch `jipc_backend_control` takes; `accepted` is the answer of the hardware
or the SDK where it is asked. -/
def backendControl (config : Config) (ready privacyOn accepted : Bool) (operation : Operation)
    (value value2 : Int) : Outcome :=
  if ready = false then .refused
  else
    match operation with
    | .irMode =>
        if value = 0 then .patches "\x7b\"night\":\x7b\"ir\":\"night\"\x7d\x7d".toList
        else if value = 1 then .patches "\x7b\"night\":\x7b\"ir\":\"off\"\x7d\x7d".toList
        else .refused
    | .privacy =>
        if value = 0 then .patches "\x7b\"privacy\":\x7b\"on\":false\x7d\x7d".toList
        else if value = 1 then .patches "\x7b\"privacy\":\x7b\"on\":true\x7d\x7d".toList
        else .refused
    | .control .night =>
        if value = 2 then .patches "\x7b\"night\":\x7b\"mode\":\"auto\"\x7d\x7d".toList
        else if value = 3 then .patches "\x7b\"night\":\x7b\"mode\":\"schedule\"\x7d\x7d".toList
        else binaryControl accepted value
    | .control .micMute =>
        if config.audio then binaryControl true value else .refused
    | .control .brightness | .control .contrast | .control .saturation =>
        -- With privacy on: kept for afterwards; the lens stays black.
        if privacyOn then .succeeds
        else if config.imp then lensControl config accepted value value2 else .refused
    | .control .sharpness | .control .denoise =>
        if config.imp then lensControl config accepted value value2 else .refused
    | .control .antiFlicker =>
        if config.imp = true ∧ 0 ≤ value ∧ value ≤ 2 ∧ accepted = true then .succeeds
        else .refused
    | .control .ircut | .control .whiteLight | .control .pilotLed => binaryControl accepted value
    | .control .privacyCover | .control .other => if accepted then .succeeds else .refused

/-! ### The machine -/

structure State where
  controls : Privacy.Controls
  /-- `zone_min`, when `zone_valid`. -/
  zone : Option Int
  privacyOn : Bool
  /-- A control that succeeded and has not been noted yet. -/
  noting : Option (ControlOperation × Int × Int)

def State.settings (state : State) : Settings := state.controls.settings

def initial : State where
  controls :=
    { settings := .defaults, applied := false, applyPicture := false, activePrivacy := none
      privacyOverride := false, overrideUntil := 0, coveredAt := 0 }
  zone := none
  privacyOn := false
  noting := none

/-- The controls after an accepted patch; with a schedule, on and off hold until its
next edge. -/
def patched (controls : Privacy.Controls) (root : Json) (next : Settings) (edge : Nat) :
    Privacy.Controls :=
  let before := controls.settings
  let pictureChanged :=
    next.pic0 ≠ before.pic0 || next.pic1 ≠ before.pic1 || next.antiFlicker ≠ before.antiFlicker
  let given := ((root.get? "privacy".toList).bind fun privacy => privacy.get? "on".toList).isSome
  let applied := { controls with applyPicture := controls.applyPicture || pictureChanged }
  if given = true ∧ next.privacySchedule ≠ 0 then
    { applied with
      settings := { next with privacyOn := before.privacyOn }
      privacyOverride := next.privacyOn ≠ 0
      overrideUntil := edge }
  else if given = true ∨ next.privacySchedule ≠ before.privacySchedule then
    { applied with settings := next, overrideUntil := 0 }
  else { applied with settings := next }

/-- `jipc_controls_patch`, with its error. -/
def controlsPatch (controls : Privacy.Controls) (text : List Char) (edge : Nat) :
    Except String Privacy.Controls :=
  match Json.parse text with
  | none => .error "the request must be a JSON object"
  | some root =>
      if root.isObject then do
        let next ← patch root controls.settings
        return patched controls root next edge
      else .error "the request must be a JSON object"

def State.patch (state : State) (text : List Char) (edge : Nat) : State :=
  match controlsPatch state.controls text edge with
  | .ok controls => { state with controls }
  | .error _ => state

/-- The zone after a tick; the file is read when it is time. -/
def State.refreshed (state : State) : Option (Option (List Char)) → Option Int
  | none => state.zone
  | some file => cameraZone file

/-- The camera's zone wins. -/
def zoned (settings : Settings) : Option Int → Settings
  | some offset => { settings with utcOffsetMin := offset }
  | none => settings

inductive Event
  /-- A patch, with the time of the schedule's next edge. -/
  | patch (text : List Char) (edge : Nat)
  | request (operation : Operation) (value value2 : Int) (ready accepted : Bool) (edge : Nat)
  | note
  /-- The engine's part under the mutex. -/
  | tick (vendor : Option (Option (List Char))) (minutes : Int) (now : Nat)
  | announce

/-- One part of one thread between two locks. -/
def step (config : Config) (state : State) : Event → State
  | .patch text edge => state.patch text edge
  | .request operation value value2 ready accepted edge =>
      match state.noting with
      | some _ => state -- the control lock is taken
      | none =>
          match backendControl config ready state.privacyOn accepted operation value value2 with
          | .refused => state
          | .patches json => state.patch json edge
          | .succeeds =>
              match operation with
              | .control operation => { state with noting := some (operation, value, value2) }
              | _ => state
  | .note =>
      match state.noting with
      | none => state
      | some (operation, value, value2) =>
          { state with
            controls :=
              { state.controls with
                settings := state.controls.settings.note operation value value2 }
            noting := none }
  | .tick vendor minutes now =>
      let zone := state.refreshed vendor
      let settings := zoned state.controls.settings zone
      let controls := { state.controls with settings, applied := true, applyPicture := false }
      { state with
        zone
        controls :=
          { controls with
            activePrivacy := some (Privacy.privacyWanted controls settings minutes now) } }
  | .announce =>
      { state with privacyOn := state.controls.activePrivacy.getD state.privacyOn }

/-! ### What a control may note -/

/-- A note of the control leaves loadable settings loadable. -/
def Notable : ControlOperation → Int → Int → Prop
  | .whiteLight, value, _ | .pilotLed, value, _ | .micMute, value, _ => Within 0 1 value
  | .antiFlicker, value, _ => Within 0 2 value
  | .brightness, value, lens | .contrast, value, lens | .saturation, value, lens
  | .sharpness, value, lens | .denoise, value, lens => lens = 0 ∨ lens = 1 → Within 0 255 value
  | .night, _, _ | .ircut, _, _ | .privacyCover, _, _ | .other, _, _ => True

theorem onPic_loadable {s : Settings} {lens : Int} {change : Picture → Picture}
    (loadable : s.Loadable)
    (changes : lens = 0 ∨ lens = 1 → ∀ picture : Picture, picture.Loadable →
      (change picture).Loadable) :
    (s.onPic lens change).Loadable := by
  unfold Settings.onPic
  split
  · rename_i first
    exact { loadable with pic0 := changes (.inl first) _ loadable.pic0 }
  · split
    · rename_i second
      exact { loadable with pic1 := changes (.inr second) _ loadable.pic1 }
    · exact loadable

theorem note_loadable {s : Settings} {operation : ControlOperation} {value value2 : Int}
    (loadable : s.Loadable) (notable : Notable operation value value2) :
    (s.note operation value value2).Loadable := by
  have night (value : Int) : (if value = 0 ∨ value = 1 then { s with nightMode := value }
      else s).Loadable := by
    split
    · rename_i binary
      have inside : Within 0 3 value := by
        constructor <;> omega
      exact { loadable with nightMode := inside }
    · exact loadable
  cases operation with
  | night => exact night value
  | ircut => exact night value
  | whiteLight =>
      simp only [Settings.note]
      split
      · exact loadable
      · exact { loadable with whiteLight := notable }
  | pilotLed => exact { loadable with pilotLed := notable }
  | micMute => exact { loadable with micMute := notable }
  | antiFlicker => exact { loadable with antiFlicker := notable }
  | brightness =>
      rw [Settings.note]
      apply onPic_loadable loadable
      intro lens picture before
      exact { before with brightness := notable lens }
  | contrast =>
      rw [Settings.note]
      apply onPic_loadable loadable
      intro lens picture before
      exact { before with contrast := notable lens }
  | saturation =>
      rw [Settings.note]
      apply onPic_loadable loadable
      intro lens picture before
      exact { before with saturation := notable lens }
  | sharpness =>
      rw [Settings.note]
      apply onPic_loadable loadable
      intro lens picture before
      exact { before with sharpness := notable lens }
  | denoise =>
      rw [Settings.note]
      apply onPic_loadable loadable
      intro lens picture before
      exact { before with denoise := notable lens }
  | privacyCover => exact loadable
  | other => exact loadable

theorem binaryControl_succeeds {accepted : Bool} {value : Int}
    (succeeds : binaryControl accepted value = .succeeds) : Within 0 1 value := by
  unfold binaryControl at succeeds
  split at succeeds
  · constructor <;> omega
  · simp at succeeds

theorem lensControl_succeeds {config : Config} {accepted : Bool} {value value2 : Int}
    (succeeds : lensControl config accepted value value2 = .succeeds) : Within 0 255 value := by
  unfold lensControl at succeeds
  split at succeeds
  · constructor <;> omega
  · simp at succeeds

/-- The controls that are accepted unchecked while privacy is on. -/
def uncheckedBy (privacyOn : Bool) (operation : ControlOperation) : Bool :=
  privacyOn && Privacy.shown operation

/-- A control that succeeds may be noted, if its value was checked. -/
theorem backendControl_notable {config : Config} {ready privacyOn accepted : Bool}
    {operation : ControlOperation} {value value2 : Int}
    (succeeds :
      backendControl config ready privacyOn accepted (.control operation) value value2 = .succeeds)
    (checked : uncheckedBy privacyOn operation = true → value2 = 0 ∨ value2 = 1 →
      Within 0 255 value) :
    Notable operation value value2 := by
  unfold backendControl at succeeds
  split at succeeds
  · simp at succeeds
  have lensOf (succeeds : (if config.imp then lensControl config accepted value value2
      else .refused) = Outcome.succeeds) : Within 0 255 value := by
    split at succeeds
    · exact lensControl_succeeds succeeds
    · simp at succeeds
  have shownOf (shown : Privacy.shown operation = true)
      (succeeds : (if privacyOn then Outcome.succeeds
        else if config.imp then lensControl config accepted value value2 else .refused) =
          .succeeds) (lens : value2 = 0 ∨ value2 = 1) : Within 0 255 value := by
    split at succeeds
    · rename_i on
      exact checked (by simp [uncheckedBy, on, shown]) lens
    · exact lensOf succeeds
  cases operation with
  | night => trivial
  | ircut => trivial
  | whiteLight => exact binaryControl_succeeds succeeds
  | pilotLed => exact binaryControl_succeeds succeeds
  | micMute =>
      simp only at succeeds
      split at succeeds
      · exact binaryControl_succeeds succeeds
      · simp at succeeds
  | antiFlicker =>
      simp only at succeeds
      split at succeeds
      · constructor <;> omega
      · simp at succeeds
  | brightness => exact shownOf rfl succeeds
  | contrast => exact shownOf rfl succeeds
  | saturation => exact shownOf rfl succeeds
  | sharpness => exact fun _ => lensOf succeeds
  | denoise => exact fun _ => lensOf succeeds
  | privacyCover => trivial
  | other => trivial

/-! ### Runs -/

/-- The two writers that check less than the loader: a brightness, contrast or
saturation that is only kept because privacy is on, and the vendor's zone. -/
def Meets (config : Config) (state : State) : Event → Prop
  | .request (.control operation) value value2 ready accepted _ =>
      state.noting = none →
        backendControl config ready state.privacyOn accepted (.control operation) value value2 =
          .succeeds →
        uncheckedBy state.privacyOn operation = true → value2 = 0 ∨ value2 = 1 →
          Within 0 255 value
  | .tick (some file) _ _ => ∀ offset, cameraZone file = some offset → Within (-720) 840 offset
  | _ => True

/-- A step of a run that meets the condition. -/
def MeetingStep (config : Config) (state : State) (event : Event) (after : State) : Prop :=
  Meets config state event ∧ after = step config state event

/-- What every step of such a run keeps. -/
structure Reloadable (state : State) : Prop where
  settings : state.controls.settings.Loadable
  zone : ∀ offset, state.zone = some offset → Within (-720) 840 offset
  noting : ∀ operation value value2, state.noting = some (operation, value, value2) →
    Notable operation value value2

theorem patched_settings (controls : Privacy.Controls) (root : Json) (next : Settings)
    (edge : Nat) :
    (patched controls root next edge).settings = next ∨
      (patched controls root next edge).settings =
        { next with privacyOn := controls.settings.privacyOn } := by
  simp only [patched]
  split
  · exact .inr rfl
  · split
    · exact .inl rfl
    · exact .inl rfl

theorem controlsPatch_loadable {controls after : Privacy.Controls} {text : List Char} {edge : Nat}
    (loadable : controls.settings.Loadable)
    (accepted : controlsPatch controls text edge = .ok after) : after.settings.Loadable := by
  unfold controlsPatch at accepted
  split at accepted
  · simp at accepted
  · split at accepted
    · obtain ⟨next, readNext, accepted⟩ := bind_ok accepted
      simp only [pure, Except.pure, Except.ok.injEq] at accepted
      subst accepted
      have nextLoadable := patch_loadable loadable readNext
      obtain same | restored := patched_settings controls _ next edge
      · rw [same]
        exact nextLoadable
      · rw [restored]
        exact { nextLoadable with privacyOn := loadable.privacyOn }
    · simp at accepted

theorem Reloadable.patch {state : State} (reloadable : Reloadable state) (text : List Char)
    (edge : Nat) : Reloadable (state.patch text edge) := by
  unfold State.patch
  split
  · rename_i accepted
    exact { reloadable with settings := controlsPatch_loadable reloadable.settings accepted }
  · exact reloadable

theorem Reloadable.tick {config : Config} {state : State} (reloadable : Reloadable state)
    {vendor : Option (Option (List Char))} {minutes : Int} {now : Nat}
    (meets : Meets config state (.tick vendor minutes now)) :
    Reloadable (step config state (.tick vendor minutes now)) := by
  have zone : ∀ offset, state.refreshed vendor = some offset → Within (-720) 840 offset := by
    cases vendor with
    | none => exact reloadable.zone
    | some file => exact meets
  have settings : (zoned state.controls.settings (state.refreshed vendor)).Loadable := by
    cases read : state.refreshed vendor with
    | none => exact reloadable.settings
    | some offset => exact { reloadable.settings with utcOffsetMin := zone offset read }
  exact { settings := settings, zone := zone, noting := reloadable.noting }

theorem Reloadable.step {config : Config} {state : State} {event : Event}
    (reloadable : Reloadable state) (meets : Meets config state event) :
    Reloadable (step config state event) := by
  cases event with
  | patch text edge => exact reloadable.patch text edge
  | request operation value value2 ready accepted edge =>
      simp only [Controls.step]
      split
      · exact reloadable
      · rename_i free
        split
        · exact reloadable
        · exact reloadable.patch _ edge
        · rename_i succeeds
          split
          · rename_i operation
            have notable := backendControl_notable succeeds (meets free succeeds)
            refine { reloadable with noting := fun operation' value' value2' same => ?_ }
            simp only [Option.some.injEq, Prod.mk.injEq] at same
            obtain ⟨rfl, rfl, rfl⟩ := same
            exact notable
          · exact reloadable
  | note =>
      simp only [Controls.step]
      split
      · exact reloadable
      · rename_i operation value value2 pending
        have notable := reloadable.noting operation value value2 pending
        exact
          { settings := note_loadable reloadable.settings notable
            zone := reloadable.zone
            noting := by simp }
  | tick vendor minutes now => exact reloadable.tick meets
  | announce => exact { reloadable with }

theorem initial_reloadable : Reloadable initial where
  settings := defaults_loadable
  zone := by simp [initial]
  noting := by simp [initial]

/-- In a run whose steps all meet the condition, the file `save` writes at the end is
accepted by `load` and gives back every field. -/
theorem saved_settings_load {config : Config} {events : List Event} {final : State}
    (run : Run (MeetingStep config) initial events final) :
    load (save final.settings) = (final.settings, none) := by
  have kept : ∀ state event after, Reloadable state → MeetingStep config state event after →
      Reloadable after := by
    rintro state event _ reloadable ⟨meets, rfl⟩
    exact reloadable.step meets
  exact load_save (run.preserves kept initial_reloadable).settings

/-- Privacy on by a patch, applied by the engine, then a brightness of a client. -/
def privateEvents (brightness : Int) : List Event :=
  [.patch "\x7b\"privacy\":\x7b\"on\":true\x7d\x7d".toList 0, .tick none 0 0, .announce,
    .request (.control .brightness) brightness 0 true true 0, .note]

def oneLens : Config := ⟨1, true, true⟩

def privateState (brightness : Int) : State :=
  (privateEvents brightness).foldl (step oneLens) initial

theorem saved_settings_load_private :
    load (save (privateState 200).settings) = ((privateState 200).settings, none) := by
  have run : Run (MeetingStep oneLens) initial (privateEvents 200) (privateState 200) := by
    refine .cons ⟨trivial, rfl⟩ (.cons ⟨trivial, rfl⟩ (.cons ⟨trivial, rfl⟩
      (.cons ⟨?_, rfl⟩ (.cons ⟨trivial, rfl⟩ (.nil _)))))
    exact fun _ _ _ _ => by decide
  exact saved_settings_load run

/-- A brightness of 300, accepted because privacy is on, and a zone of thirteen hours
west are saved; the next start rejects either file as a whole, so privacy is off. -/
theorem private_brightness_rejected :
    (privateState 300).settings.privacyOn = 1 ∧
      load (save (privateState 300).settings) =
        (.defaults, some "brightness must be a whole number from 0 to 255") ∧
      load (save (step oneLens initial
          (.tick (some (some "\"GmtTz\" : \"GMT-13:00\"".toList)) 0 0)).settings) =
        (.defaults, some "utc_offset_min must be a whole number from -720 to 840") := by
  decide +kernel

end JooanW3U.Media.Controls

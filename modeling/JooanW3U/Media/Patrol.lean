import JooanW3U.Media.Controls

/-!
Owns the patrol: one tick of the controls engine cut at its mutex sections and its
calls to the motor, between client patches and the other writers of the settings.
The next stop after a patch that gives new stops is the first of them, in the runs
where no such patch lands in a turn of the engine that is still to write back.

Does not own the head's moves or what privacy mode decides.
-/

namespace JooanW3U.Media.Patrol

open JooanW3U.Library

/-- `PATROL_GO`, `PATROL_MOVING` and `PATROL_DWELL`. -/
inductive Phase
  | go
  | moving
  | dwell
deriving Repr, DecidableEq

/-- The patrol's part of `controls_state`. -/
structure Patrol where
  index : Nat
  phase : Phase
  skipped : Nat
  until_ : Nat
  state : String
  left_s : Int
deriving Repr, DecidableEq

/-- `jipc_ptz_motion`. -/
structure Motion where
  moving : Bool
  homing : Bool
  manual_age_s : Int
deriving Repr, DecidableEq

/-! ### One tick -/

/-- How a tick goes on once it knows the head's motion. -/
inductive Plan
  | write (patrol : Patrol)
  /-- To the stop at the index. -/
  | goto (patrol : Patrol)
deriving Repr, DecidableEq

/-- The patrol is off or has nowhere to go. -/
def off (s : Settings) : Bool :=
  s.patrolOn = 0 || s.stops.isEmpty

/-- The index and the phase after the stay at a stop. -/
def advanced (s : Settings) (now : Nat) (patrol : Patrol) : Patrol :=
  let index := if s.stops.length ≤ patrol.index then 0 else patrol.index
  if patrol.phase = .dwell ∧ patrol.until_ ≤ now then
    { patrol with index := (index + 1) % s.stops.length, phase := .go }
  else { patrol with index }

/-- The head has arrived: the stay begins. -/
def arrived (s : Settings) (now : Nat) (moving : Bool) (patrol : Patrol) : Patrol :=
  if patrol.phase = .moving ∧ moving = false then
    { patrol with
      phase := .dwell
      until_ := now + ((s.stops[patrol.index]?.map PatrolStop.dwellS).getD 0).toNat * 1000000 }
  else patrol

def plan (s : Settings) (privacy : Bool) (now : Nat) (patrol : Patrol) (motion : Option Motion) :
    Plan :=
  if off s then
    .write { patrol with index := 0, phase := .go, skipped := 0, state := "off", left_s := 0 }
  else if privacy then .write { patrol with phase := .go, state := "privacy", left_s := 0 }
  else
    match motion with
    | none => .write { patrol with state := "unavailable", left_s := 0 }
    | some motion =>
        if motion.homing then .write { patrol with phase := .go, state := "homing", left_s := 0 }
        else if s.patrolPauseS ≠ 0 ∧ 0 ≤ motion.manual_age_s ∧
            motion.manual_age_s < s.patrolPauseS then
          .write { patrol with
            phase := .go, state := "paused", left_s := s.patrolPauseS - motion.manual_age_s }
        else
          let patrol := arrived s now motion.moving (advanced s now patrol)
          match patrol.phase with
          | .go => .goto patrol
          | .moving => .write { patrol with state := "moving", left_s := 0 }
          | .dwell =>
              .write { patrol with
                state := "dwell", left_s := (patrol.until_ - now + 999999 : Nat) / 1000000 }

/-- After `jipc_platform_patrol_goto`; a deleted preset is skipped. -/
def went (s : Settings) (ok : Bool) (patrol : Patrol) : Patrol :=
  if ok then { patrol with skipped := 0, phase := .moving, state := "moving", left_s := 0 }
  else
    let index := (patrol.index + 1) % s.stops.length
    if s.stops.length ≤ patrol.skipped + 1 then
      { patrol with index, skipped := s.stops.length, state := "no_stops", left_s := 0 }
    else { patrol with index, skipped := patrol.skipped + 1, state := "moving", left_s := 0 }

/-! ### The engine and the patches -/

/-- Where the engine's turn stands, with the settings it copied. -/
inductive Turn
  | waiting
  | copied (s : Settings) (privacy : Bool) (now : Nat)
  | read (s : Settings) (privacy : Bool) (now : Nat) (patrol : Patrol)
  | going (s : Settings) (patrol : Patrol)
  | writing (s : Settings) (patrol : Patrol)
deriving Repr, DecidableEq

/-- `restarted` holds the stops of the last patch that gave some, until the patrol
goes to a stop again. -/
structure State where
  base : Controls.State
  patrol : Patrol
  turn : Turn
  restarted : Option (List PatrolStop)

inductive Event
  /-- A patch, or a part of another thread or of the engine before the patrol. -/
  | controls (event : Controls.Event)
  /-- The engine's last copy of the settings in this turn. -/
  | copy (privacy : Bool) (now : Nat)
  | read
  | motion (answer : Option Motion)
  | goto (ok : Bool)
  | write

/-- `"patrol"` has `"stops"`. -/
def givesStops (root : Json) : Bool :=
  ((root.get? "patrol".toList).bind fun patrol => patrol.get? "stops".toList).isSome

/-- The text is a patch that is accepted and gives stops. -/
def restarts (state : State) (text : List Char) (edge : Nat) : Bool :=
  (Json.parse text).any givesStops &&
    (Controls.controlsPatch state.base.controls text edge).isOk

def step (config : Controls.Config) (state : State) : Event → Option State
  | .controls event =>
      let base := Controls.step config state.base event
      match event with
      | .patch text edge =>
          if restarts state text edge then
            some { state with
              base
              patrol := { state.patrol with index := 0, phase := .go, skipped := 0 }
              restarted := some base.settings.stops }
          else some { state with base }
      | _ => some { state with base }
  | .copy privacy now =>
      match state.turn with
      | .waiting => some { state with turn := .copied state.base.settings privacy now }
      | _ => none
  | .read =>
      match state.turn with
      | .copied s privacy now => some { state with turn := .read s privacy now state.patrol }
      | _ => none
  | .motion answer =>
      match state.turn with
      | .read s privacy now patrol =>
          match plan s privacy now patrol answer with
          | .write patrol => some { state with turn := .writing s patrol }
          | .goto patrol => some { state with turn := .going s patrol }
      | _ => none
  | .goto ok =>
      match state.turn with
      | .going s patrol =>
          some { state with turn := .writing s (went s ok patrol), restarted := none }
      | _ => none
  | .write =>
      match state.turn with
      | .writing _ patrol => some { state with patrol, turn := .waiting }
      | _ => none

/-- The stop the engine is about to go to. -/
def nextStop (state : State) : Option PatrolStop :=
  match state.turn with
  | .going s patrol => s.stops[patrol.index]?
  | _ => none

/-- The patrol at the start of the controls, whatever settings were loaded. -/
structure Start (state : State) : Prop where
  index : state.patrol.index = 0
  phase : state.patrol.phase = .go
  turn : state.turn = .waiting
  restarted : state.restarted = none

/-- A stop the list has, or the first one. -/
def Names (stops : List PatrolStop) (index : Nat) : Prop :=
  index = 0 ∨ index < stops.length

/-- A goto that follows new stops goes to the first of them, and the index names a
stop. -/
structure Followed (state : State) : Prop where
  first : ∀ stops stop, state.restarted = some stops → nextStop state = some stop →
    stops[0]? = some stop
  names : Names state.base.settings.stops state.patrol.index

/-- The settings the engine's turn works with. -/
def Turn.settings : Turn → Option Settings
  | .waiting => none
  | .copied s _ _ | .read s _ _ _ | .going s _ | .writing s _ => some s

/-- New stops arrive between the engine's turns, or in one whose patrol is off. -/
def between (state : State) : Event → Bool
  | .controls (.patch text edge) => !restarts state text edge || state.turn.settings.all off
  | _ => true

/-! ### Which writers leave the stops alone -/

section Stops

variable {root : Json} {s after : Settings}

theorem onObject_stops {key : String} {change : Json → Except String Settings}
    (kept : ∀ member after, change member = .ok after → after.stops = s.stops)
    (accepted : onObject root key s change = .ok after) : after.stops = s.stops := by
  have holds : (fun patched : Settings => patched.stops = s.stops) after :=
    onObject_keeps kept rfl accepted
  exact holds

theorem patchNight_stops (accepted : patchNight root s = .ok after) : after.stops = s.stops := by
  refine onObject_stops (fun night after accepted => ?_) accepted
  obtain ⟨_, _, accepted⟩ := bind_ok accepted
  obtain ⟨_, _, accepted⟩ := bind_ok accepted
  obtain ⟨_, _, accepted⟩ := bind_ok accepted
  obtain ⟨_, _, accepted⟩ := bind_ok accepted
  obtain ⟨_, _, accepted⟩ := bind_ok accepted
  obtain ⟨_, _, accepted⟩ := bind_ok accepted
  obtain ⟨_, _, accepted⟩ := bind_ok accepted
  split at accepted
  · simp at accepted
  · simp only [Except.ok.injEq] at accepted
    exact accepted ▸ rfl

theorem patchWhiteLight_stops (accepted : patchWhiteLight root s = .ok after) :
    after.stops = s.stops := by
  refine onObject_stops (fun light after accepted => ?_) accepted
  obtain ⟨_, _, accepted⟩ := bind_ok accepted
  obtain ⟨_, _, accepted⟩ := bind_ok accepted
  obtain ⟨_, _, accepted⟩ := bind_ok accepted
  simp only [pure, Except.pure, Except.ok.injEq] at accepted
  exact accepted ▸ rfl

theorem patchSiren_stops (accepted : patchSiren root s = .ok after) : after.stops = s.stops := by
  refine onObject_stops (fun siren after accepted => ?_) accepted
  obtain ⟨_, _, accepted⟩ := bind_ok accepted
  obtain ⟨_, _, accepted⟩ := bind_ok accepted
  obtain ⟨_, _, accepted⟩ := bind_ok accepted
  obtain ⟨_, _, accepted⟩ := bind_ok accepted
  simp only [pure, Except.pure, Except.ok.injEq] at accepted
  exact accepted ▸ rfl

theorem patchOverlay_stops (accepted : patchOverlay root s = .ok after) :
    after.stops = s.stops := by
  refine onObject_stops (fun overlay after accepted => ?_) accepted
  obtain ⟨_, _, accepted⟩ := bind_ok accepted
  obtain ⟨_, _, accepted⟩ := bind_ok accepted
  obtain ⟨_, _, accepted⟩ := bind_ok accepted
  obtain ⟨_, _, accepted⟩ := bind_ok accepted
  simp only [pure, Except.pure, Except.ok.injEq] at accepted
  exact accepted ▸ rfl

theorem patchPrivacy_stops (accepted : patchPrivacy root s = .ok after) :
    after.stops = s.stops := by
  refine onObject_stops (fun privacy after accepted => ?_) accepted
  obtain ⟨_, _, accepted⟩ := bind_ok accepted
  obtain ⟨_, _, accepted⟩ := bind_ok accepted
  obtain ⟨_, _, accepted⟩ := bind_ok accepted
  simp only [pure, Except.pure, Except.ok.injEq] at accepted
  exact accepted ▸ rfl

theorem patchHome_stops (accepted : patchHome root s = .ok after) : after.stops = s.stops := by
  unfold patchHome at accepted
  split at accepted
  · exact Except.ok.inj accepted ▸ rfl
  · split at accepted
    · obtain ⟨_, _, accepted⟩ := bind_ok accepted
      obtain ⟨_, _, accepted⟩ := bind_ok accepted
      simp only [pure, Except.pure, Except.ok.injEq] at accepted
      exact accepted ▸ rfl
    · simp at accepted

theorem patchRoot_stops (accepted : patchRoot root s = .ok after) : after.stops = s.stops := by
  obtain ⟨_, _, accepted⟩ := bind_ok accepted
  obtain ⟨_, _, accepted⟩ := bind_ok accepted
  obtain ⟨_, _, accepted⟩ := bind_ok accepted
  obtain ⟨_, _, accepted⟩ := bind_ok accepted
  simp only [pure, Except.pure, Except.ok.injEq] at accepted
  exact accepted ▸ rfl

theorem patchPictures_stops (accepted : patchPictures root s = .ok after) :
    after.stops = s.stops := by
  unfold patchPictures at accepted
  split at accepted
  · exact Except.ok.inj accepted ▸ rfl
  · split at accepted
    · exact Except.ok.inj accepted ▸ rfl
    · obtain ⟨_, _, accepted⟩ := bind_ok accepted
      simp only [pure, Except.pure, Except.ok.injEq] at accepted
      exact accepted ▸ rfl
    · obtain ⟨_, _, accepted⟩ := bind_ok accepted
      obtain ⟨_, _, accepted⟩ := bind_ok accepted
      simp only [pure, Except.pure, Except.ok.injEq] at accepted
      exact accepted ▸ rfl
    · simp at accepted
  · simp at accepted

theorem patchPatrol_stops (gives : givesStops root = false)
    (accepted : patchPatrol root s = .ok after) : after.stops = s.stops := by
  unfold patchPatrol onObject at accepted
  cases member : root.get? "patrol".toList with
  | none =>
      simp only [member] at accepted
      exact Except.ok.inj accepted ▸ rfl
  | some patrol =>
      have noStops : patrol.get? "stops".toList = none := by
        simpa only [givesStops, member, Option.bind_some, Option.isSome_eq_false_iff,
          Option.isNone_iff_eq_none] using gives
      simp only [member] at accepted
      split at accepted
      · obtain ⟨_, _, accepted⟩ := bind_ok accepted
        obtain ⟨_, _, accepted⟩ := bind_ok accepted
        obtain ⟨stops, readStops, accepted⟩ := bind_ok accepted
        simp only [patchStops, noStops] at readStops
        simp only [pure, Except.pure, Except.ok.injEq] at accepted
        rw [← accepted]
        exact (Except.ok.inj readStops).symm
      · simp at accepted

/-- A patch without stops keeps those there are. -/
theorem patch_stops (gives : givesStops root = false) (accepted : patch root s = .ok after) :
    after.stops = s.stops := by
  obtain ⟨night, readNight, accepted⟩ := bind_ok accepted
  obtain ⟨light, readLight, accepted⟩ := bind_ok accepted
  obtain ⟨patrol, readPatrol, accepted⟩ := bind_ok accepted
  obtain ⟨siren, readSiren, accepted⟩ := bind_ok accepted
  obtain ⟨overlay, readOverlay, accepted⟩ := bind_ok accepted
  obtain ⟨privacy, readPrivacy, accepted⟩ := bind_ok accepted
  obtain ⟨home, readHome, accepted⟩ := bind_ok accepted
  obtain ⟨roots, readRoot, accepted⟩ := bind_ok accepted
  calc after.stops
      _ = roots.stops := patchPictures_stops accepted
      _ = home.stops := patchRoot_stops readRoot
      _ = privacy.stops := patchHome_stops readHome
      _ = overlay.stops := patchPrivacy_stops readPrivacy
      _ = siren.stops := patchOverlay_stops readOverlay
      _ = patrol.stops := patchSiren_stops readSiren
      _ = light.stops := patchPatrol_stops gives readPatrol
      _ = night.stops := patchWhiteLight_stops readLight
      _ = s.stops := patchNight_stops readNight

theorem patched_stops (controls : Privacy.Controls) (root : Json) (next : Settings) (edge : Nat) :
    (Controls.patched controls root next edge).settings.stops = next.stops := by
  unfold Controls.patched
  dsimp only
  split
  · rfl
  · split
    · rfl
    · rfl

/-- A text that gives no stops keeps them, accepted or not. -/
theorem statePatch_stops {base : Controls.State} {text : List Char} (edge : Nat)
    (gives : (Json.parse text).any givesStops = false) :
    (base.patch text edge).settings.stops = base.settings.stops := by
  unfold Controls.State.patch Controls.controlsPatch
  cases parsed : Json.parse text with
  | none => rfl
  | some root =>
      have noStops : givesStops root = false := by simpa [parsed] using gives
      by_cases object : root.isObject = true
      · simp only [if_pos object]
        cases accepted : patch root base.controls.settings with
        | error => rfl
        | ok next => exact (patched_stops _ _ _ _).trans (patch_stops noStops accepted)
      · simp only [if_neg object]

theorem note_stops (s : Settings) (operation : ControlOperation) (value value2 : Int) :
    (s.note operation value value2).stops = s.stops := by
  unfold Settings.note
  cases operation with
  | night | ircut | whiteLight =>
      dsimp only
      split
      · rfl
      · rfl
  | brightness | contrast | saturation | sharpness | denoise =>
      dsimp only [Settings.onPic]
      split
      · rfl
      · split
        · rfl
        · rfl
  | pilotLed | micMute | antiFlicker | privacyCover | other => rfl

/-- The patches of a manual control give no stops. -/
theorem backendControl_gives {config : Controls.Config} {ready privacyOn accepted : Bool}
    {operation : Controls.Operation} {value value2 : Int} {json : List Char}
    (patches : Controls.backendControl config ready privacyOn accepted operation value value2 =
      .patches json) : (Json.parse json).any givesStops = false := by
  have known : json ∈ ["\x7b\"night\":\x7b\"ir\":\"night\"\x7d\x7d".toList,
      "\x7b\"night\":\x7b\"ir\":\"off\"\x7d\x7d".toList,
      "\x7b\"privacy\":\x7b\"on\":false\x7d\x7d".toList,
      "\x7b\"privacy\":\x7b\"on\":true\x7d\x7d".toList,
      "\x7b\"night\":\x7b\"mode\":\"auto\"\x7d\x7d".toList,
      "\x7b\"night\":\x7b\"mode\":\"schedule\"\x7d\x7d".toList] := by
    unfold Controls.backendControl at patches
    split at patches
    · exact absurd patches nofun
    · cases operation with
      | irMode | privacy =>
          simp only at patches
          split at patches
          · simp [Controls.Outcome.patches.inj patches.symm]
          · split at patches
            · simp [Controls.Outcome.patches.inj patches.symm]
            · exact absurd patches nofun
      | control operation =>
          cases operation with
          | night =>
              simp only at patches
              split at patches
              · simp [Controls.Outcome.patches.inj patches.symm]
              · split at patches
                · simp [Controls.Outcome.patches.inj patches.symm]
                · unfold Controls.binaryControl at patches
                  split at patches
                  · exact absurd patches nofun
                  · exact absurd patches nofun
          | _ =>
              simp only [Controls.binaryControl, Controls.lensControl] at patches
              repeat' split at patches
              all_goals exact absurd patches nofun
  have none : ∀ text ∈ ["\x7b\"night\":\x7b\"ir\":\"night\"\x7d\x7d".toList,
      "\x7b\"night\":\x7b\"ir\":\"off\"\x7d\x7d".toList,
      "\x7b\"privacy\":\x7b\"on\":false\x7d\x7d".toList,
      "\x7b\"privacy\":\x7b\"on\":true\x7d\x7d".toList,
      "\x7b\"night\":\x7b\"mode\":\"auto\"\x7d\x7d".toList,
      "\x7b\"night\":\x7b\"mode\":\"schedule\"\x7d\x7d".toList],
      (Json.parse text).any givesStops = false := by
    decide +kernel
  exact none json known

end Stops

/-- Only an accepted patch that gives stops changes them. -/
theorem controls_stops {config : Controls.Config} {state : State} {event : Controls.Event}
    (none : ∀ text edge, event = .patch text edge → restarts state text edge = false) :
    (Controls.step config state.base event).settings.stops = state.base.settings.stops := by
  cases event with
  | patch text edge =>
      have refused := none text edge rfl
      rw [restarts, Bool.and_eq_false_iff] at refused
      cases refused with
      | inl gives => exact statePatch_stops edge gives
      | inr error =>
          simp only [Controls.step, Controls.State.patch]
          cases accepted : Controls.controlsPatch state.base.controls text edge with
          | error => rfl
          | ok controls =>
              rw [accepted] at error
              exact absurd error.symm Bool.false_ne_true
  | request operation value value2 ready accepted edge =>
      simp only [Controls.step]
      cases state.base.noting with
      | some => rfl
      | none =>
          cases done : Controls.backendControl config ready state.base.privacyOn accepted operation
            value value2 with
          | refused => rfl
          | patches json => exact statePatch_stops edge (backendControl_gives done)
          | succeeds =>
              cases operation with
              | irMode | privacy | control => rfl
  | note =>
      simp only [Controls.step]
      cases state.base.noting with
      | none => rfl
      | some noted => exact note_stops _ _ _ _
  | tick vendor minutes now =>
      show (Controls.zoned state.base.controls.settings _).stops = _
      cases state.base.refreshed vendor with
      | none | some => rfl
  | announce => rfl

/-! ### What a tick does with the index -/

theorem off_eq_false {s : Settings} (on : off s = false) : 0 < s.stops.length := by
  unfold off at on
  rw [Bool.or_eq_false_iff] at on
  cases stops : s.stops with
  | nil => simp [stops] at on
  | cons => exact Nat.succ_pos _

theorem advanced_index {s : Settings} {now : Nat} {patrol : Patrol} (on : 0 < s.stops.length) :
    (advanced s now patrol).index < s.stops.length := by
  unfold advanced
  by_cases stayed : patrol.phase = .dwell ∧ patrol.until_ ≤ now
  · simp only [if_pos stayed]
    exact Nat.mod_lt _ on
  · simp only [if_neg stayed]
    split
    · exact on
    · omega

theorem arrived_index (s : Settings) (now : Nat) (moving : Bool) (patrol : Patrol) :
    (arrived s now moving patrol).index = patrol.index := by
  unfold arrived
  split
  · rfl
  · rfl

/-- The index a tick leaves or goes to. -/
def Plan.patrol : Plan → Patrol
  | .write patrol | .goto patrol => patrol

theorem plan_off {s : Settings} (isOff : off s = true) (privacy : Bool) (now : Nat)
    (patrol : Patrol) (motion : Option Motion) :
    ∃ after, plan s privacy now patrol motion = .write after ∧ after.index = 0 ∧
      after.phase = .go := by
  unfold plan
  rw [if_pos isOff]
  exact ⟨_, rfl, rfl, rfl⟩

/-- With stops, a tick ends with the index it began with, or at a stop. -/
theorem plan_index {s : Settings} (on : 0 < s.stops.length) (isOn : off s = false) (privacy : Bool)
    (now : Nat) {patrol : Patrol} (motion : Option Motion)
    (names : Names s.stops patrol.index) :
    match plan s privacy now patrol motion with
    | .write after => Names s.stops after.index
    | .goto after => after.index < s.stops.length := by
  unfold plan
  rw [if_neg (by simp [isOn])]
  cases privacy with
  | true => exact names
  | false =>
      cases motion with
      | none => exact names
      | some motion =>
          have index := (arrived_index s now motion.moving (advanced s now patrol)).trans_lt
            (advanced_index on)
          simp only [Bool.false_eq_true, if_false]
          by_cases homing : motion.homing = true
          · simp only [if_pos homing]
            exact names
          · simp only [if_neg homing]
            by_cases paused : s.patrolPauseS ≠ 0 ∧ 0 ≤ motion.manual_age_s ∧
                motion.manual_age_s < s.patrolPauseS
            · simp only [if_pos paused]
              exact names
            · simp only [if_neg paused]
              cases phase : (arrived s now motion.moving (advanced s now patrol)).phase with
              | go => exact index
              | moving | dwell => exact .inr index

/-- A patrol about to go to stop 0 stays so until it goes there. -/
theorem plan_restart {s : Settings} (isOn : off s = false) (privacy : Bool) (now : Nat)
    {patrol : Patrol} (motion : Option Motion) (first : patrol.index = 0)
    (go : patrol.phase = .go) :
    match plan s privacy now patrol motion with
    | .write after => after.index = 0 ∧ after.phase = .go
    | .goto after => after.index = 0 := by
  have stays : advanced s now patrol = patrol := by
    cases patrol with
    | mk index phase skipped until_ state left_s =>
        simp only at first go
        subst first go
        simp [advanced]
  have waits : ∀ moving, arrived s now moving patrol = patrol := by
    intro moving
    unfold arrived
    rw [if_neg (by simp [go])]
  unfold plan
  rw [if_neg (by simp [isOn])]
  cases privacy with
  | true => exact ⟨first, rfl⟩
  | false =>
      cases motion with
      | none => exact ⟨first, go⟩
      | some motion =>
          simp only [Bool.false_eq_true, if_false, stays, waits, go]
          by_cases homing : motion.homing = true
          · simp only [if_pos homing]
            exact ⟨first, trivial⟩
          · simp only [if_neg homing]
            by_cases paused : s.patrolPauseS ≠ 0 ∧ 0 ≤ motion.manual_age_s ∧
                motion.manual_age_s < s.patrolPauseS
            · simp only [if_pos paused]
              exact ⟨first, trivial⟩
            · simp only [if_neg paused]
              exact first

theorem went_index {s : Settings} {ok : Bool} {patrol : Patrol}
    (index : patrol.index < s.stops.length) : (went s ok patrol).index < s.stops.length := by
  have next : (patrol.index + 1) % s.stops.length < s.stops.length :=
    Nat.mod_lt _ (Nat.zero_lt_of_lt index)
  unfold went
  cases ok with
  | true => exact index
  | false =>
      simp only [Bool.false_eq_true, if_false]
      split
      · exact next
      · exact next

/-! ### Every run -/

/-- The turn works with the stops there are, or with a patrol that is off and will
write index 0. -/
def Current (stops : List PatrolStop) : Turn → Prop
  | .waiting => True
  | .copied s _ _ => off s = true ∨ s.stops = stops
  | .read s _ _ patrol => off s = true ∨ (s.stops = stops ∧ Names stops patrol.index)
  | .going s patrol => off s = false ∧ s.stops = stops ∧ patrol.index < stops.length
  | .writing s patrol =>
      (off s = true ∧ patrol.index = 0 ∧ patrol.phase = .go) ∨
        (off s = false ∧ s.stops = stops ∧ Names stops patrol.index)

/-- The turn still has to go to stop 0. -/
def Restarting : Turn → Prop
  | .waiting | .copied .. => True
  | .read s _ _ patrol => off s = true ∨ (patrol.index = 0 ∧ patrol.phase = .go)
  | .going _ patrol => patrol.index = 0
  | .writing _ patrol => patrol.index = 0 ∧ patrol.phase = .go

structure Invariant (state : State) : Prop where
  names : Names state.base.settings.stops state.patrol.index
  current : Current state.base.settings.stops state.turn
  restart : ∀ stops, state.restarted = some stops → state.base.settings.stops = stops ∧
    state.patrol.index = 0 ∧ state.patrol.phase = .go ∧ Restarting state.turn

theorem Invariant.followed {state : State} (invariant : Invariant state) : Followed state := by
  refine ⟨?_, invariant.names⟩
  intro stops stop restarted next
  obtain ⟨isStops, -, -, restarting⟩ := invariant.restart stops restarted
  have current := invariant.current
  unfold nextStop at next
  cases turn : state.turn with
  | waiting | copied | read | writing => simp [turn] at next
  | going s patrol =>
      rw [turn] at restarting current
      simp only [turn] at next
      have first : patrol.index = 0 := restarting
      rw [first, current.2.1, isStops] at next
      exact next

/-- New stops that arrive between turns. -/
theorem invariant_patch {config : Controls.Config} {state : State} {text : List Char} {edge : Nat}
    (invariant : Invariant state) (free : state.turn.settings.all off = true) :
    let base := Controls.step config state.base (.patch text edge)
    Invariant { state with
      base
      patrol := { state.patrol with index := 0, phase := .go, skipped := 0 }
      restarted := some base.settings.stops } := by
  have current := invariant.current
  have turn : ∀ stops, Current stops state.turn ∧ Restarting state.turn := by
    intro stops
    cases isTurn : state.turn with
    | waiting => exact ⟨trivial, trivial⟩
    | copied s privacy now =>
        have isOff : off s = true := by simpa [isTurn, Turn.settings] using free
        exact ⟨.inl isOff, trivial⟩
    | read s privacy now patrol =>
        have isOff : off s = true := by simpa [isTurn, Turn.settings] using free
        exact ⟨.inl isOff, .inl isOff⟩
    | going s patrol =>
        have isOff : off s = true := by simpa [isTurn, Turn.settings] using free
        rw [isTurn] at current
        exact absurd (isOff.symm.trans current.1) nofun
    | writing s patrol =>
        have isOff : off s = true := by simpa [isTurn, Turn.settings] using free
        rw [isTurn] at current
        cases current with
        | inl written => exact ⟨.inl written, written.2⟩
        | inr written => exact absurd (isOff.symm.trans written.1) nofun
  refine ⟨.inl rfl, (turn _).1, ?_⟩
  intro stops isStops
  exact ⟨Option.some.inj isStops, rfl, rfl, (turn stops).2⟩

theorem invariant_step {config : Controls.Config} {state next : State} {event : Event}
    (invariant : Invariant state) (guarded : between state event = true)
    (stepped : step config state event = some next) : Invariant next := by
  have names := invariant.names
  have current := invariant.current
  have restart := invariant.restart
  have keeps : ∀ event : Controls.Event,
      (∀ text edge, event = .patch text edge → restarts state text edge = false) →
      Invariant { state with base := Controls.step config state.base event } := by
    intro event none
    have same := @controls_stops config state event none
    exact ⟨same ▸ names, same ▸ current, fun stops isStops => same ▸ restart stops isStops⟩
  cases event with
  | controls event =>
      cases event with
      | patch text edge =>
          simp only [step] at stepped
          by_cases restarting : restarts state text edge = true
          · rw [if_pos restarting, Option.some.injEq] at stepped
            have free : state.turn.settings.all off = true := by
              simpa [between, restarting] using guarded
            exact stepped ▸ invariant_patch invariant free
          · rw [if_neg restarting, Option.some.injEq] at stepped
            refine stepped ▸ keeps (.patch text edge) ?_
            intro text' edge' same
            obtain ⟨rfl, rfl⟩ := Controls.Event.patch.inj same
            simpa using restarting
      | request operation value value2 ready accepted edge =>
          exact Option.some.inj stepped ▸ keeps _ nofun
      | note => exact Option.some.inj stepped ▸ keeps _ nofun
      | tick vendor minutes now => exact Option.some.inj stepped ▸ keeps _ nofun
      | announce => exact Option.some.inj stepped ▸ keeps _ nofun
  | copy privacy now =>
      cases turn : state.turn with
      | waiting =>
          simp only [step, turn, Option.some.injEq] at stepped
          rw [← stepped]
          refine ⟨names, .inr rfl, fun stops isStops => ?_⟩
          obtain ⟨same, index, phase, -⟩ := restart stops isStops
          exact ⟨same, index, phase, trivial⟩
      | copied | read | going | writing => simp [step, turn] at stepped
  | read =>
      cases turn : state.turn with
      | copied s privacy now =>
          simp only [step, turn, Option.some.injEq] at stepped
          rw [turn] at current
          rw [← stepped]
          refine ⟨names, current.imp_right (fun same => ⟨same, names⟩), fun stops isStops => ?_⟩
          obtain ⟨same, index, phase, -⟩ := restart stops isStops
          exact ⟨same, index, phase, .inr ⟨index, phase⟩⟩
      | waiting | read | going | writing => simp [step, turn] at stepped
  | motion answer =>
      cases turn : state.turn with
      | read s privacy now patrol =>
          rw [turn] at current
          simp only [turn] at restart
          by_cases isOff : off s = true
          · obtain ⟨after, planned, index, phase⟩ := plan_off isOff privacy now patrol answer
            simp only [step, turn, planned, Option.some.injEq] at stepped
            rw [← stepped]
            refine ⟨names, .inl ⟨isOff, index, phase⟩, fun stops isStops => ?_⟩
            obtain ⟨same, first, go, -⟩ := restart stops isStops
            exact ⟨same, first, go, index, phase⟩
          · have isOn : off s = false := by simpa using isOff
            obtain ⟨same, named⟩ := current.resolve_left isOff
            have index := plan_index (off_eq_false isOn) isOn privacy now answer (same ▸ named)
            have first : ∀ stops, state.restarted = some stops →
                match plan s privacy now patrol answer with
                | .write after => after.index = 0 ∧ after.phase = .go
                | .goto after => after.index = 0 := by
              intro stops isStops
              obtain ⟨-, -, -, restarting⟩ := restart stops isStops
              obtain ⟨zero, go⟩ := restarting.resolve_left isOff
              exact plan_restart isOn privacy now answer zero go
            cases planned : plan s privacy now patrol answer with
            | write after =>
                simp only [step, turn, planned, Option.some.injEq] at stepped
                simp only [planned] at index first
                rw [← stepped]
                refine ⟨names, .inr ⟨isOn, same, same ▸ index⟩, fun stops isStops => ?_⟩
                obtain ⟨isList, zero, go, -⟩ := restart stops isStops
                exact ⟨isList, zero, go, first stops isStops⟩
            | goto after =>
                simp only [step, turn, planned, Option.some.injEq] at stepped
                simp only [planned] at index first
                rw [← stepped]
                refine ⟨names, ⟨isOn, same, same ▸ index⟩, fun stops isStops => ?_⟩
                obtain ⟨isList, zero, go, -⟩ := restart stops isStops
                exact ⟨isList, zero, go, first stops isStops⟩
      | waiting | copied | going | writing => simp [step, turn] at stepped
  | goto ok =>
      cases turn : state.turn with
      | going s patrol =>
          simp only [step, turn, Option.some.injEq] at stepped
          rw [turn] at current
          obtain ⟨isOn, same, index⟩ := current
          have left := @went_index s ok patrol (same ▸ index)
          rw [← stepped]
          exact ⟨names, .inr ⟨isOn, same, .inr (same ▸ left)⟩, nofun⟩
      | waiting | copied | read | writing => simp [step, turn] at stepped
  | write =>
      cases turn : state.turn with
      | writing s patrol =>
          simp only [step, turn, Option.some.injEq] at stepped
          rw [turn] at current
          simp only [turn] at restart
          rw [← stepped]
          refine ⟨?_, trivial, fun stops isStops => ?_⟩
          · cases current with
            | inl written => exact .inl written.2.1
            | inr written => exact written.2.2
          · obtain ⟨same, -, -, index, phase⟩ := restart stops isStops
            exact ⟨same, index, phase, trivial⟩
      | waiting | copied | read | going => simp [step, turn] at stepped

/-- The next goto after a patch that gives new stops goes to the first of them, and
the index names a stop, in every run where such a patch arrives between the engine's
turns or in a turn with the patrol off. -/
theorem new_stops_followed {config : Controls.Config} {start final : State} {events : List Event}
    (fresh : Start start)
    (ran : runs (fun state event =>
      if between state event = true then step config state event else none) start events =
        some final) : Followed final := by
  have started : Invariant start := by
    refine ⟨.inl fresh.index, ?_, ?_⟩
    · rw [fresh.turn]
      trivial
    · intro stops isStops
      rw [fresh.restarted] at isStops
      exact absurd isStops nofun
  have kept : ∀ (state : State) (event : Event) (next : State), Invariant state →
      step config state event = some next ∧ between state event = true → Invariant next :=
    fun _ _ _ invariant stepped => invariant_step invariant stepped.2 stepped.1
  exact ((run_of_guarded ran).preserves kept started).followed

/-! ### A patch that lands in a turn -/

section Example

private def config : Controls.Config := { sensors := 1, imp := true, audio := true }

/-- A patrol of two stops. -/
private def patrolling : State where
  base :=
    { Controls.initial with
      controls :=
        { Controls.initial.controls with
          settings :=
            { Settings.defaults with
              patrolOn := 1
              stops := [{ slot := 1, dwellS := 10 }, { slot := 2, dwellS := 10 }] } } }
  patrol := { index := 0, phase := .go, skipped := 0, until_ := 0, state := "off", left_s := 0 }
  turn := .waiting
  restarted := none

private theorem patrolling_start : Start patrolling := ⟨rfl, rfl, rfl, rfl⟩

private def newStop : Event :=
  .controls (.patch "\x7b\"patrol\":\x7b\"stops\":[\x7b\"slot\":5\x7d]\x7d\x7d".toList 0)

private def still : Event := .motion (some { moving := false, homing := false, manual_age_s := -1 })

private def turnTo (now : Nat) : List Event := [.copy false now, .read, still]

/-- A new stop between two turns: the patrol is about to go to it. -/
theorem new_stops_followed_between : ∃ final : State,
    nextStop final = some { slot := 5, dwellS := 10 } ∧ Followed final := by
  have ran : (runs (fun state event =>
      if between state event = true then step config state event else none) patrolling
        (newStop :: turnTo 0)).map nextStop = some (some { slot := 5, dwellS := 10 }) := by
    decide +kernel
  obtain ⟨final, ran, next⟩ := Option.map_eq_some_iff.mp ran
  exact ⟨final, next, new_stops_followed patrolling_start ran⟩

/-- A patch after the engine has copied the settings: the next goto is to an old stop.
One that lands in a goto to the second stop: the index names none. -/
theorem new_stops_lost :
    (∃ (events : List Event) (final : State), runs (step config) patrolling events = some final ∧
      ∃ stops stop, final.restarted = some stops ∧ nextStop final = some stop ∧
        stops[0]? ≠ some stop) ∧
    (∃ (events : List Event) (final : State), runs (step config) patrolling events = some final ∧
      ¬ Names final.base.settings.stops final.patrol.index) := by
  constructor
  · have ran : (runs (step config) patrolling [.copy false 0, newStop, .read, still]).map
        (fun final => (final.restarted, nextStop final)) =
          some (some [{ slot := 5, dwellS := 10 }], some { slot := 1, dwellS := 10 }) := by
      decide +kernel
    obtain ⟨final, ran, ends⟩ := Option.map_eq_some_iff.mp ran
    simp only [Prod.mk.injEq] at ends
    exact ⟨_, final, ran, _, _, ends.1, ends.2, by decide⟩
  · have ran : (runs (step config) patrolling
        (turnTo 0 ++ [.goto true, .write] ++ turnTo 1 ++ [.write] ++ turnTo 20000000 ++
          [newStop, .goto true, .write])).map
        (fun final => (final.base.settings.stops, final.patrol.index)) =
          some ([{ slot := 5, dwellS := 10 }], 1) := by
      decide +kernel
    obtain ⟨final, ran, ends⟩ := Option.map_eq_some_iff.mp ran
    simp only [Prod.mk.injEq] at ends
    refine ⟨_, final, ran, ?_⟩
    rw [ends.1, ends.2]
    exact (by decide : ¬ (1 = 0 ∨ 1 < 1))

end Example

end JooanW3U.Media.Patrol

import JooanW3U.Library.Runs
import JooanW3U.Media.Settings
import JooanW3U.Media.Stream

/-!
Owns privacy mode: the controls engine cut at its atomic operations, the calls of
`jipc_backend_control` under the control lock, and the encoder calls of
`jipc_publish_video` between them. Main result: when a video frame can enter a
ring while privacy is applied.

Night mode, the lights, the patrol and the overlay write none of this and are left
out; a settings patch may leave any settings.
-/

namespace JooanW3U.Media.Privacy

open JooanW3U.Library

/-- The configuration the backend was started with. -/
structure Config where
  sensors : Nat
  imp : Bool
  valid : 1 ≤ sensors ∧ sensors ≤ 2

/-- `lens < sensors && lens < 2`. -/
def Config.lenses (config : Config) : Nat := min config.sensors 2

/-- What the engine and the controls share under the controls mutex. -/
structure Controls where
  settings : Settings
  applied : Bool
  applyPicture : Bool
  activePrivacy : Option Bool
  privacyOverride : Bool
  overrideUntil : Nat
  coveredAt : Nat

/-- `privacy_wanted` at a local minute of the day. -/
def privacyWanted (controls : Controls) (settings : Settings) (minutes : Int) (now : Nat) : Bool :=
  if controls.overrideUntil ≠ 0 ∧ now < controls.overrideUntil then controls.privacyOverride
  else if settings.privacySchedule ≠ 0 then
    inWindow minutes settings.privacyFrom settings.privacyUntil
  else settings.privacyOn ≠ 0

/-! ### Control calls -/

/-- A setter of the SDK for one lens. -/
structure Write where
  control : ControlOperation
  value : Int
  lens : Int
deriving Repr, DecidableEq

/-- A call of `jipc_backend_control` that holds the control lock. `writes` is `none`
until it has decided what to do, then the SDK calls it still has to make. -/
structure Control where
  byEngine : Bool
  operation : ControlOperation
  value : Int
  value2 : Int
  writes : Option (List Write)
deriving Repr, DecidableEq

/-- The three controls that make a lens black. -/
def shown (operation : ControlOperation) : Bool :=
  operation = .brightness || operation = .contrast || operation = .saturation

/-- The branch a call takes; `none` is a refusal. -/
def Control.decide (config : Config) (ready privacyOn : Bool) (control : Control) :
    Option (List Write) :=
  if ready = false then none
  else
    match control.operation with
    | .privacyCover =>
        if config.imp then
          some [⟨.brightness, 0, control.value⟩, ⟨.contrast, 0, control.value⟩,
            ⟨.saturation, 0, control.value⟩]
        else some []
    | .brightness | .contrast | .saturation =>
        -- With privacy on: kept for afterwards; the lens stays black.
        if privacyOn then some []
        else if config.imp then some [⟨control.operation, control.value, control.value2⟩] else none
    | .sharpness | .denoise | .antiFlicker =>
        if config.imp then some [⟨control.operation, control.value, control.value2⟩] else none
    | _ => some []

/-- The write shows a picture again. -/
def Control.restores (control : Control) : Bool :=
  control.operation ≠ .privacyCover && shown control.operation

/-! ### The engine -/

/-- The locals of one tick. -/
structure Tick where
  now : Nat
  first : Bool
  changed : Bool
  privacy : Bool
  doPicture : Bool
  settings : Settings

/-- A call of `apply_picture`. -/
structure PictureCall where
  operation : ControlOperation
  value : Int
  lens : Nat
deriving Repr, DecidableEq

/-- Where a tick stands between two atomic operations. -/
inductive Stage
  | idle
  | raising
  | announcing
  | testing
  | covering (lens : Nat) (failed : Bool)
  | coverCall (lens : Nat) (failed : Bool)
  | picturing (calls : List PictureCall)
  | pictureCall (calls : List PictureCall)
  | lowering
deriving Repr, DecidableEq

/-- The calls of `apply_picture`; a covered lens keeps its black. -/
def pictureCalls (config : Config) (settings : Settings) (covered : Bool) : List PictureCall :=
  (List.range config.lenses).flatMap (fun lens =>
    let picture := settings.pic lens
    (if covered then []
      else
        [⟨.brightness, picture.brightness, lens⟩, ⟨.contrast, picture.contrast, lens⟩,
          ⟨.saturation, picture.saturation, lens⟩]) ++
      [⟨.sharpness, picture.sharpness, lens⟩, ⟨.denoise, picture.denoise, lens⟩]) ++
    [⟨.antiFlicker, settings.antiFlicker, 0⟩]

/-! ### The camera -/

/-- What happens to the picture, in order, for statements about whole runs. A cover
is marked when `jipc_backend_control` has applied it, a restore when the SDK is
asked for it. -/
inductive Mark
  | began
  | ended
  | covered (lens : Int)
  | restored
  | pushed (channel : Nat)
deriving Repr, DecidableEq

structure Camera where
  app : App
  privacyOn : Bool
  clock : Nat
  ready : Bool
  controls : Controls
  tick : Tick
  stage : Stage
  control : Option Control
  encoders : Nat → VideoCall
  /-- When the engine's last cover call succeeded. -/
  coverDone : Nat
  /-- The marks with their times, newest first. -/
  history : List (Nat × Mark)

def Camera.mark (camera : Camera) (mark : Mark) : Camera :=
  { camera with history := (camera.clock, mark) :: camera.history }

/-- The locals a tick starts with. -/
def Camera.newTick (camera : Camera) (minutes : Int) : Tick :=
  let controls := camera.controls
  let privacy := privacyWanted controls controls.settings minutes camera.clock
  { now := camera.clock
    first := !controls.applied
    changed := some privacy ≠ controls.activePrivacy
    privacy := privacy
    doPicture := !controls.applied || controls.applyPicture
    settings := controls.settings }

/-- Where a tick goes after the part under the controls mutex. -/
def Tick.begins (tick : Tick) : Stage :=
  if tick.first = true ∨ tick.changed = true then
    if tick.privacy then .raising else .announcing
  else .testing

/-- The engine's next tick begins: the part under the controls mutex. -/
def Camera.beginTick (camera : Camera) (minutes : Int) : Camera :=
  match camera.stage with
  | .idle =>
      if camera.ready = false then camera
      else
        let tick := camera.newTick minutes
        { camera with
          controls :=
            { camera.controls with
              applied := true, applyPicture := false, activePrivacy := some tick.privacy }
          tick := tick
          stage := tick.begins }
  | _ => camera

/-- The calls of this tick after the black-out. -/
def Camera.toPicture (config : Config) (camera : Camera) : Stage :=
  if camera.tick.doPicture then
    .picturing (pictureCalls config camera.tick.settings camera.tick.privacy)
  else .lowering

/-- The tick may let the held frames through. -/
def Camera.releases (camera : Camera) : Bool :=
  camera.tick.privacy && camera.controls.coveredAt ≠ 0 && camera.app.privacyHold &&
    1000000 ≤ camera.tick.now - camera.controls.coveredAt

/-- Take the control lock for a call of the engine, when it is free. -/
def Camera.call (camera : Camera) (operation : ControlOperation) (value value2 : Int)
    (stage : Stage) : Camera :=
  match camera.control with
  | none =>
      { camera with control := some ⟨true, operation, value, value2, none⟩, stage := stage }
  | some _ => camera

/-- The engine's next operation. -/
def Camera.engine (config : Config) (camera : Camera) : Camera :=
  match camera.stage with
  | .idle => camera
  | .raising =>
      { camera with
        app := { camera.app with privacyHold := true }
        controls := { camera.controls with coveredAt := 0 }
        stage := .announcing }
  | .announcing =>
      let privacy := camera.tick.privacy
      let announced :=
        if privacy = camera.privacyOn then camera
        else camera.mark (if privacy then .began else .ended)
      { announced with
        privacyOn := privacy
        tick := { camera.tick with doPicture := camera.tick.doPicture || !privacy }
        stage := .testing }
  | .testing =>
      if camera.tick.privacy = true ∧ camera.controls.coveredAt = 0 then
        { camera with stage := .covering 0 false }
      else if camera.releases = true then
        { camera with
          app := { camera.app with privacyHold := false }
          stage := camera.toPicture config }
      else { camera with stage := camera.toPicture config }
  | .covering lens failed =>
      if lens < config.lenses then
        camera.call .privacyCover lens lens (.coverCall lens failed)
      else
        { camera with
          controls :=
            { camera.controls with
              coveredAt := if failed then camera.controls.coveredAt else camera.tick.now }
          stage := camera.toPicture config }
  | .coverCall _ _ => camera
  | .picturing [] => { camera with stage := .lowering }
  | .picturing (picture :: rest) =>
      camera.call picture.operation picture.value picture.lens (.pictureCall rest)
  | .pictureCall _ => camera
  | .lowering =>
      { camera with
        app :=
          { camera.app with
            privacyHold := if camera.tick.privacy then camera.app.privacyHold else false }
        stage := .idle }

/-- The engine goes on after its call. -/
def Camera.returned (camera : Camera) (succeeded : Bool) : Camera :=
  match camera.stage with
  | .coverCall lens failed =>
      { camera with
        stage := .covering (lens + 1) (failed || !succeeded)
        coverDone := if succeeded then camera.clock else camera.coverDone }
  | .pictureCall rest => { camera with stage := .picturing rest }
  | _ => camera

/-- A call gives the control lock back; a control that succeeded is noted. -/
def Camera.leave (camera : Camera) (control : Control) (succeeded : Bool) : Camera :=
  let settings := camera.controls.settings
  let noted :=
    if succeeded then settings.note control.operation control.value control.value2 else settings
  let left :=
    { camera with control := none, controls := { camera.controls with settings := noted } }
  let left :=
    if succeeded = true ∧ control.operation = .privacyCover then left.mark (.covered control.value)
    else left
  if control.byEngine then left.returned succeeded else left

/-- The next operation of the call that holds the control lock. -/
def Camera.advanceControl (config : Config) (camera : Camera) (accepted : Bool) : Camera :=
  match camera.control with
  | none => camera
  | some control =>
      match control.writes with
      | none =>
          match control.decide config camera.ready camera.privacyOn with
          | none => camera.leave control false
          | some writes => { camera with control := some { control with writes := some writes } }
      | some [] => camera.leave control true
      | some (_ :: rest) =>
          let asked := if control.restores then camera.mark .restored else camera
          if accepted then { asked with control := some { control with writes := some rest } }
          else asked.leave control false

/-- The next operation of an encoder call. -/
def Camera.encoder (camera : Camera) (index : Nat) (allocated : Bool) : Camera :=
  let call := camera.encoders index
  let (app, after) := call.advance camera.app allocated
  let marked :=
    match call.stage with
    | .pushing (channel :: _) =>
        if after.stage = VideoStage.returned false then camera else camera.mark (.pushed channel)
    | _ => camera
  { marked with app := app, encoders := Function.update camera.encoders index after }

inductive Event
  | wait (us : Nat)
  | failed
  | tick (minutes : Int)
  | engine
  | request (operation : ControlOperation) (value value2 : Int)
  | control (accepted : Bool)
  | patch (settings : Settings) (applyPicture privacyOverride : Bool) (overrideUntil : Nat)
  | frame (index source : Nat) (mainOnly : Bool) (data : Bytes) (ptsUs : Nat) (keyframe : Bool)
  | encoder (index : Nat) (allocated : Bool)

/-- One atomic operation of one thread. A client call begins when it has the control
lock; an encoder index takes its next frame when it has returned from the last. -/
def Camera.step (config : Config) (camera : Camera) : Event → Camera
  | .wait us => { camera with clock := camera.clock + us }
  | .failed => { camera with ready := false }
  | .tick minutes => camera.beginTick minutes
  | .engine => camera.engine config
  | .request operation value value2 =>
      match camera.control with
      | none => { camera with control := some ⟨false, operation, value, value2, none⟩ }
      | some _ => camera
  | .control accepted => camera.advanceControl config accepted
  | .patch settings applyPicture privacyOverride overrideUntil =>
      { camera with
        controls :=
          { camera.controls with
            settings := settings
            applyPicture := camera.controls.applyPicture || applyPicture
            privacyOverride := privacyOverride
            overrideUntil := overrideUntil } }
  | .frame index source mainOnly data ptsUs keyframe =>
      match (camera.encoders index).stage with
      | .returned _ =>
          { camera with
            encoders := Function.update camera.encoders index
              (.enter source mainOnly data ptsUs keyframe) }
      | _ => camera
  | .encoder index allocated => camera.encoder index allocated

/-- `jipc_controls_preload` has run and no thread of the service has begun. -/
def Camera.preloaded (app : App) (settings : Settings) (wanted : Bool) (clock : Nat) : Camera where
  app := { app with privacyHold := wanted }
  privacyOn := wanted
  clock := clock
  ready := true
  controls := ⟨settings, false, false, none, false, 0, 0⟩
  tick := ⟨0, false, false, false, false, settings⟩
  stage := .idle
  control := none
  encoders _ := ⟨0, false, [], 0, false, .returned true⟩
  coverDone := 0
  history := if wanted then [(clock, .began)] else []

/-! ### Reading the history -/

/-- Privacy is applied after these marks. -/
def appliedAfter : List (Nat × Mark) → Bool
  | [] => false
  | (_, .began) :: _ => true
  | (_, .ended) :: _ => false
  | _ :: earlier => appliedAfter earlier

/-- In this episode the cover of `lens` was applied by `limit`, with no restore since. -/
def CoveredBy (lens : Nat) (limit : Nat) : List (Nat × Mark) → Prop
  | [] => False
  | (time, .covered other) :: earlier =>
      (other = lens ∧ time ≤ limit) ∨ CoveredBy lens limit earlier
  | (_, .pushed _) :: earlier => CoveredBy lens limit earlier
  | (_, .restored) :: _ => False
  | (_, .began) :: _ => False
  | (_, .ended) :: _ => False

/-- Every video frame that entered a ring while privacy was applied did so at least
a second after the cover of every lens. -/
def Private (lenses : Nat) (history : List (Nat × Mark)) : Prop :=
  ∀ later time channel earlier, history = later ++ (time, .pushed channel) :: earlier →
    appliedAfter earlier = true →
      ∀ lens < lenses, ∃ limit, limit + 1000000 ≤ time ∧ CoveredBy lens limit earlier

theorem private_nil (lenses : Nat) : Private lenses [] := by
  intro later time channel earlier shape
  exact absurd shape (List.append_ne_nil_of_right_ne_nil later (List.cons_ne_nil _ _)).symm

theorem private_cons {lenses : Nat} {time : Nat} {mark : Mark} {history : List (Nat × Mark)}
    (kept : Private lenses history)
    (allowed : ∀ channel, mark = .pushed channel → appliedAfter history = true →
      ∀ lens < lenses, ∃ limit, limit + 1000000 ≤ time ∧ CoveredBy lens limit history) :
    Private lenses ((time, mark) :: history) := by
  intro later pushed channel earlier shape
  cases later with
  | nil =>
      obtain ⟨same, rfl⟩ := List.cons.inj shape
      cases same
      exact allowed channel rfl
  | cons newest later =>
      obtain ⟨rfl, rest⟩ := List.cons.inj shape
      exact kept later pushed channel earlier rest

theorem coveredBy_mono {lens early late : Nat} (order : early ≤ late)
    {history : List (Nat × Mark)} (covered : CoveredBy lens early history) :
    CoveredBy lens late history := by
  induction history with
  | nil => exact covered
  | cons newest history inductionHypothesis =>
      obtain ⟨time, mark⟩ := newest
      cases mark with
      | covered other =>
          rcases covered with ⟨same, before⟩ | rest
          · exact .inl ⟨same, before.trans order⟩
          · exact .inr (inductionHypothesis rest)
      | pushed channel => exact inductionHypothesis covered
      | began => exact covered
      | ended => exact covered
      | restored => exact covered

/-! ### When the hold is long enough -/

/-- The call may still put its frame into a ring. -/
def pastGate (call : VideoCall) : Bool :=
  match call.stage with
  | .passed | .resuming => true
  | .pushing channels => channels ≠ []
  | _ => false

/-- No frame is past the gate when the hold is raised, and the tick that lets frames
through began a second after the last cover call had returned. -/
def Timely (camera : Camera) : Event → Prop
  | .engine =>
      (camera.stage = .raising → ∀ index, pastGate (camera.encoders index) = false) ∧
        (camera.stage = .testing → camera.releases = true →
          camera.coverDone + 1000000 ≤ camera.tick.now)
  | _ => True

/-- The engine is done with the switch this tick may have made. -/
def Stage.settled : Stage → Bool
  | .idle | .raising | .announcing => false
  | _ => true

/-- The lenses that the running `apply_cover` has covered, if none refused. -/
def Stage.progress : Stage → Option (Nat × Bool)
  | .covering lens failed | .coverCall lens failed => some (lens, failed)
  | _ => none

theorem settled_of_progress {stage : Stage} {lens : Nat} {failed : Bool}
    (progress : stage.progress = some (lens, failed)) : stage.settled = true := by
  cases stage with
  | covering => rfl
  | coverCall => rfl
  | _ => cases progress

/-- What holds between any two operations of a timely run. -/
structure Invariant (config : Config) (camera : Camera) : Prop where
  applied : appliedAfter camera.history = camera.privacyOn
  kept : Private config.lenses camera.history
  coverPast : camera.coverDone ≤ camera.clock
  tickPast : camera.tick.now ≤ camera.clock
  /-- Between ticks the mode on record is the announced one. -/
  idle : camera.stage = .idle → camera.controls.applied = true →
    camera.controls.activePrivacy = some camera.privacyOn
  busy : camera.stage ≠ .idle → camera.controls.applied = true ∧
    camera.controls.activePrivacy = some camera.tick.privacy
  raising : camera.stage = .raising → camera.tick.privacy = true
  announcing : camera.stage = .announcing → camera.tick.privacy = true →
    camera.app.privacyHold = true ∧ camera.controls.coveredAt = 0
  settled : camera.stage.settled = true → camera.privacyOn = camera.tick.privacy
  /-- While frames are held, none is past the gate. -/
  held : camera.app.privacyHold = true → ∀ index, pastGate (camera.encoders index) = false
  covering : ∀ lens failed, camera.stage.progress = some (lens, failed) →
    camera.tick.privacy = true ∧ camera.controls.coveredAt = 0 ∧
      (failed = false → ∀ other < lens, CoveredBy other camera.coverDone camera.history)
  coverCall : ∀ lens failed, camera.stage = .coverCall lens failed → ∃ control,
    camera.control = some control ∧ control.byEngine = true ∧
      control.operation = .privacyCover ∧ control.value = lens
  covered : camera.privacyOn = true → camera.controls.coveredAt ≠ 0 →
    ∀ lens < config.lenses, CoveredBy lens camera.coverDone camera.history
  released : camera.privacyOn = true → camera.app.privacyHold = false →
    camera.controls.coveredAt ≠ 0 ∧ camera.coverDone + 1000000 ≤ camera.clock
  /-- A restore that was decided before privacy came on is made before the cover. -/
  restoring : ∀ control, camera.control = some control → control.restores = true →
    (∃ write rest, control.writes = some (write :: rest)) → camera.privacyOn = true →
      camera.controls.coveredAt = 0 ∧
        (camera.stage = .testing ∨ camera.stage = .covering 0 false)

/-! ### Each operation keeps the invariant -/

section Steps

variable {config : Config} {camera : Camera}

theorem publish_hold {app after : App} {allocated keyframe : Bool} {channel ptsUs : Nat}
    {data : Bytes} {codec : Codec}
    (published : app.publish allocated channel data ptsUs keyframe codec = some after) :
    after.privacyHold = app.privacyHold := by
  unfold App.publish at published
  split at published
  · cases published
  · cases Option.some.inj published
    rfl

theorem advance_hold (call : VideoCall) (app : App) (allocated : Bool) :
    (call.advance app allocated).1.privacyHold = app.privacyHold := by
  unfold VideoCall.advance
  split
  case h_5 => split <;> rfl
  case h_8 =>
    split
    · rfl
    · rename_i published
      exact publish_hold published
  all_goals rfl

/-- A call that is not past the gate stays before it while frames are held. -/
theorem advance_pastGate {call : VideoCall} {app : App} (held : app.privacyHold = true)
    (before : pastGate call = false) (allocated : Bool) :
    pastGate (call.advance app allocated).2 = false := by
  unfold pastGate at before
  unfold VideoCall.advance
  split at before
  · cases before
  · cases before
  · rename_i channels stage
    have none : channels = [] := of_not_not (of_decide_eq_false before)
    simp only [stage, none, pastGate]
  · rename_i passed resuming pushing
    split <;> simp_all [pastGate]

theorem enter_pastGate (source : Nat) (mainOnly : Bool) (data : Bytes) (ptsUs : Nat)
    (keyframe : Bool) : pastGate (.enter source mainOnly data ptsUs keyframe) = false := by
  simp only [pastGate, VideoCall.enter]
  split_ifs <;> rfl

theorem held_update {held : Prop} {encoders : Nat → VideoCall} {index : Nat} {call : VideoCall}
    (before : held → ∀ other, pastGate (encoders other) = false)
    (after : held → pastGate call = false) :
    held → ∀ other, pastGate (Function.update encoders index call other) = false := by
  intro known other
  by_cases same : other = index
  · rw [same, Function.update_self]
    exact after known
  · rw [Function.update_of_ne same]
    exact before known other

theorem Invariant.wait (invariant : Invariant config camera) (us : Nat) :
    Invariant config { camera with clock := camera.clock + us } :=
  { invariant with
    coverPast := invariant.coverPast.trans (Nat.le_add_right _ _)
    tickPast := invariant.tickPast.trans (Nat.le_add_right _ _)
    released := fun on off =>
      ⟨(invariant.released on off).1, (invariant.released on off).2.trans (Nat.le_add_right _ _)⟩ }

theorem Invariant.request (invariant : Invariant config camera) (free : camera.control = none)
    (control : Control) (undecided : control.writes = none) :
    Invariant config { camera with control := some control } :=
  { invariant with
    coverCall := by
      intro lens failed stage
      obtain ⟨holder, known, -⟩ := invariant.coverCall lens failed stage
      rw [free] at known
      cases known
    restoring := by
      rintro holder same - ⟨write, rest, writes⟩
      cases same
      rw [undecided] at writes
      cases writes }

theorem Invariant.frame (invariant : Invariant config camera) (index : Nat) {call : VideoCall}
    (before : pastGate call = false) :
    Invariant config { camera with encoders := Function.update camera.encoders index call } :=
  { invariant with held := held_update invariant.held fun _ => before }

/-- A mark that is neither a switch nor a restore. -/
theorem Invariant.marked (invariant : Invariant config camera) (mark : Mark)
    (harmless : ∀ lens limit, CoveredBy lens limit camera.history →
      CoveredBy lens limit ((camera.clock, mark) :: camera.history))
    (same : appliedAfter ((camera.clock, mark) :: camera.history) = appliedAfter camera.history)
    (allowed : ∀ channel, mark = .pushed channel → camera.privacyOn = true →
      camera.app.privacyHold = false) :
    Invariant config (camera.mark mark) :=
  { invariant with
    applied := same.trans invariant.applied
    kept := by
      refine private_cons invariant.kept fun channel pushed on lens bound => ?_
      rw [invariant.applied] at on
      obtain ⟨covered, timely⟩ := invariant.released on (allowed channel pushed on)
      exact ⟨camera.coverDone, timely, invariant.covered on covered lens bound⟩
    covering := by
      intro lens failed progress
      obtain ⟨privacy, uncovered, done⟩ := invariant.covering lens failed progress
      exact ⟨privacy, uncovered, fun fine other bound => harmless _ _ (done fine other bound)⟩
    covered := fun on covered lens bound => harmless _ _ (invariant.covered on covered lens bound) }

/-- The rings change, and one encoder call. -/
theorem Invariant.advanced (invariant : Invariant config camera) {app : App}
    (same : app.privacyHold = camera.app.privacyHold) (index : Nat) {call : VideoCall}
    (before : camera.app.privacyHold = true → pastGate call = false) :
    Invariant config
      { camera with app := app, encoders := Function.update camera.encoders index call } :=
  { invariant with
    announcing := fun stage privacy =>
      ⟨same.trans (invariant.announcing stage privacy).1, (invariant.announcing stage privacy).2⟩
    held := held_update (fun hold => invariant.held (same.symm.trans hold))
      fun hold => before (same.symm.trans hold)
    released := fun on off => invariant.released on (same.symm.trans off) }

theorem Invariant.encoder (invariant : Invariant config camera) (index : Nat) (allocated : Bool) :
    Invariant config (camera.encoder index allocated) := by
  have same := advance_hold (camera.encoders index) camera.app allocated
  have before : camera.app.privacyHold = true →
      pastGate ((camera.encoders index).advance camera.app allocated).2 = false :=
    fun hold => advance_pastGate hold (invariant.held hold index) allocated
  unfold Camera.encoder
  dsimp only
  split
  · rename_i channel rest stage
    split
    · exact invariant.advanced same index before
    · -- A push happens past the gate, so with frames not held.
      have open_ : camera.app.privacyHold = false := by
        refine Bool.eq_false_iff.mpr fun hold => ?_
        have gate := invariant.held hold index
        simp only [pastGate, stage] at gate
        exact absurd (of_decide_eq_false gate) (not_not.mpr (List.cons_ne_nil _ _))
      have marked : Invariant config (camera.mark (.pushed channel)) :=
        invariant.marked _ (fun _ _ covered => covered) rfl fun _ _ _ => open_
      exact marked.advanced same index before
  · exact invariant.advanced same index before

/-- No restore is under way while the engine is elsewhere in an episode. -/
theorem Invariant.noRestore (invariant : Invariant config camera)
    (elsewhere : camera.stage ≠ .testing ∧ camera.stage ≠ .covering 0 false) {control : Control}
    (known : camera.control = some control) (restores : control.restores = true)
    (pending : ∃ write rest, control.writes = some (write :: rest)) : camera.privacyOn = false := by
  refine Bool.eq_false_iff.mpr fun on => ?_
  rcases (invariant.restoring control known restores pending on).2 with testing | covering
  · exact elsewhere.1 testing
  · exact elsewhere.2 covering

/-- The stages a tick can begin with. -/
def Begins (camera : Camera) (tick : Tick) (stage : Stage) : Prop :=
  (stage = .raising ∧ tick.privacy = true) ∨ (stage = .announcing ∧ tick.privacy = false) ∨
    (stage = .testing ∧ camera.privacyOn = tick.privacy)

theorem Invariant.ticked (invariant : Invariant config camera) (idle : camera.stage = .idle)
    {tick : Tick} (now : tick.now = camera.clock) {stage : Stage}
    (begins : Begins camera tick stage) :
    Invariant config
      { camera with
        controls :=
          { camera.controls with
            applied := true, applyPicture := false, activePrivacy := some tick.privacy }
        tick := tick
        stage := stage } :=
  { invariant with
    tickPast := now.le
    idle := by
      rintro rfl
      rcases begins with ⟨impossible, -⟩ | ⟨impossible, -⟩ | ⟨impossible, -⟩ <;> cases impossible
    busy := fun _ => ⟨rfl, rfl⟩
    raising := by
      rintro rfl
      rcases begins with ⟨-, privacy⟩ | ⟨impossible, -⟩ | ⟨impossible, -⟩
      · exact privacy
      · cases impossible
      · cases impossible
    announcing := by
      rintro rfl privacy
      rcases begins with ⟨impossible, -⟩ | ⟨-, other⟩ | ⟨impossible, -⟩
      · cases impossible
      · exact absurd (other.symm.trans privacy) Bool.false_ne_true
      · cases impossible
    settled := by
      intro settled
      rcases begins with ⟨rfl, -⟩ | ⟨rfl, -⟩ | ⟨-, same⟩
      · cases settled
      · cases settled
      · exact same
    covering := by
      intro lens failed progress
      rcases begins with ⟨rfl, -⟩ | ⟨rfl, -⟩ | ⟨rfl, -⟩ <;> cases progress
    coverCall := by
      rintro lens failed rfl
      rcases begins with ⟨impossible, -⟩ | ⟨impossible, -⟩ | ⟨impossible, -⟩ <;> cases impossible
    restoring := by
      intro control known restores pending on
      have elsewhere : camera.stage ≠ .testing ∧ camera.stage ≠ .covering 0 false := by
        rw [idle]
        exact ⟨Stage.noConfusion, Stage.noConfusion⟩
      have off := invariant.noRestore elsewhere known restores pending
      exact absurd (off.symm.trans on) Bool.false_ne_true }

theorem Invariant.beginTick (invariant : Invariant config camera) (minutes : Int) :
    Invariant config (camera.beginTick minutes) := by
  unfold Camera.beginTick
  split
  case h_2 => exact invariant
  rename_i stage
  split
  · exact invariant
  refine invariant.ticked stage rfl ?_
  unfold Tick.begins
  split
  · split
    · rename_i privacy
      exact .inl ⟨rfl, privacy⟩
    · rename_i privacy
      exact .inr (.inl ⟨rfl, Bool.of_not_eq_true privacy⟩)
  · rename_i steady
    obtain ⟨notFirst, unchanged⟩ := not_or.mp steady
    have applied : camera.controls.applied = true := by simpa [Camera.newTick] using notFirst
    have active := invariant.idle stage applied
    have same : some (camera.newTick minutes).privacy = camera.controls.activePrivacy :=
      of_not_not (of_decide_eq_false (Bool.of_not_eq_true unchanged))
    rw [active] at same
    exact .inr (.inr ⟨rfl, (Option.some.inj same).symm⟩)

/-! ### The engine's operations -/

theorem Invariant.raised (invariant : Invariant config camera) (stage : camera.stage = .raising)
    (clear : ∀ index, pastGate (camera.encoders index) = false) :
    Invariant config
      { camera with
        app := { camera.app with privacyHold := true }
        controls := { camera.controls with coveredAt := 0 }
        stage := .announcing } :=
  { invariant with
    idle := fun impossible => by cases impossible
    busy := fun _ => invariant.busy (by rw [stage]; exact Stage.noConfusion)
    raising := fun impossible => by cases impossible
    announcing := fun _ _ => ⟨rfl, rfl⟩
    settled := fun impossible => by cases impossible
    held := fun _ => clear
    covering := fun _ _ impossible => by cases impossible
    coverCall := fun _ _ impossible => by cases impossible
    covered := fun _ impossible => absurd rfl impossible
    released := fun _ impossible => by cases impossible
    restoring := by
      intro control known restores pending on
      have elsewhere : camera.stage ≠ .testing ∧ camera.stage ≠ .covering 0 false := by
        rw [stage]
        exact ⟨Stage.noConfusion, Stage.noConfusion⟩
      have off := invariant.noRestore elsewhere known restores pending
      exact absurd (off.symm.trans on) Bool.false_ne_true }

/-- The mode is announced with `marks` new marks; the frames are held if it is on. -/
theorem Invariant.announced (invariant : Invariant config camera)
    (stage : camera.stage = .announcing) {history : List (Nat × Mark)}
    (applied : appliedAfter history = camera.tick.privacy)
    (kept : Private config.lenses history) (doPicture : Bool) :
    Invariant config
      { camera with
        history := history
        privacyOn := camera.tick.privacy
        tick := { camera.tick with doPicture := doPicture }
        stage := .testing } :=
  { invariant with
    applied := applied
    kept := kept
    idle := fun impossible => by cases impossible
    busy := fun _ => invariant.busy (by rw [stage]; exact Stage.noConfusion)
    raising := fun impossible => by cases impossible
    announcing := fun impossible => by cases impossible
    settled := fun _ => rfl
    covering := fun _ _ impossible => by cases impossible
    coverCall := fun _ _ impossible => by cases impossible
    covered := fun on covered => absurd (invariant.announcing stage on).2 covered
    released := fun on off =>
      absurd ((invariant.announcing stage on).1.symm.trans off) Bool.noConfusion
    restoring := fun _ _ _ _ on => ⟨(invariant.announcing stage on).2, .inl rfl⟩ }

theorem Invariant.announcement (invariant : Invariant config camera)
    (stage : camera.stage = .announcing) : Invariant config (camera.engine config) := by
  simp only [Camera.engine, stage]
  split
  · rename_i same
    exact invariant.announced stage (invariant.applied.trans same.symm) invariant.kept _
  · refine invariant.announced stage ?_ ?_ _
    · cases camera.tick.privacy <;> rfl
    · refine private_cons invariant.kept fun channel impossible => ?_
      split at impossible <;> cases impossible

/-- The engine goes on in its tick, away from the black-out. -/
theorem Invariant.moved (invariant : Invariant config camera) (busy : camera.stage.settled = true)
    {stage : Stage} (settled : stage.settled = true) (progress : stage.progress = none)
    (quiet : ∀ control, camera.control = some control → control.restores = true →
      (∃ write rest, control.writes = some (write :: rest)) → camera.privacyOn = false) :
    Invariant config { camera with stage := stage } :=
  { invariant with
    idle := by
      rintro rfl
      cases settled
    busy := by
      intro _
      refine invariant.busy fun idle => ?_
      rw [idle] at busy
      cases busy
    raising := by
      rintro rfl
      cases settled
    announcing := by
      rintro rfl
      cases settled
    settled := fun _ => invariant.settled busy
    covering := by
      intro lens failed some
      rw [progress] at some
      cases some
    coverCall := by
      rintro lens failed rfl
      cases progress
    restoring := by
      intro control known restores pending on
      have off := quiet control known restores pending
      exact absurd (off.symm.trans on) Bool.false_ne_true }

theorem toPicture_settled (config : Config) (camera : Camera) :
    (camera.toPicture config).settled = true ∧ (camera.toPicture config).progress = none := by
  unfold Camera.toPicture
  split <;> exact ⟨rfl, rfl⟩

/-- With privacy on, a restore that is under way keeps the engine at its black-out. -/
theorem Invariant.quiet (invariant : Invariant config camera)
    (elsewhere : camera.privacyOn = true → camera.controls.coveredAt ≠ 0) {control : Control}
    (known : camera.control = some control) (restores : control.restores = true)
    (pending : ∃ write rest, control.writes = some (write :: rest)) : camera.privacyOn = false := by
  refine Bool.eq_false_iff.mpr fun on => ?_
  exact elsewhere on (invariant.restoring control known restores pending on).1

theorem Invariant.tested (invariant : Invariant config camera) (stage : camera.stage = .testing)
    (timely : camera.releases = true → camera.coverDone + 1000000 ≤ camera.tick.now) :
    Invariant config (camera.engine config) := by
  have busy : camera.stage.settled = true := by rw [stage]; rfl
  have same : camera.privacyOn = camera.tick.privacy := invariant.settled busy
  obtain ⟨settled, progress⟩ := toPicture_settled config camera
  simp only [Camera.engine, stage]
  split
  · rename_i cover
    exact
      { invariant with
        idle := fun impossible => by cases impossible
        busy := fun _ => invariant.busy (by rw [stage]; exact Stage.noConfusion)
        raising := fun impossible => by cases impossible
        announcing := fun impossible => by cases impossible
        settled := fun _ => same
        covering := by
          intro lens failed started
          cases Option.some.inj started
          exact ⟨cover.1, cover.2, fun _ other bound => absurd bound (Nat.not_lt_zero other)⟩
        coverCall := fun _ _ impossible => by cases impossible
        restoring := fun _ _ _ _ _ => ⟨cover.2, .inr rfl⟩ }
  · rename_i covered
    have elsewhere : camera.privacyOn = true → camera.controls.coveredAt ≠ 0 := by
      intro on uncovered
      exact covered ⟨same ▸ on, uncovered⟩
    have moved : Invariant config { camera with stage := camera.toPicture config } :=
      invariant.moved busy settled progress fun _ known restores pending =>
        invariant.quiet elsewhere known restores pending
    split
    · rename_i releases
      exact
        { moved with
          announcing := by
            intro impossible
            rw [show camera.toPicture config = _ from impossible] at settled
            cases settled
          held := fun impossible => by cases impossible
          released := fun on _ =>
            ⟨elsewhere on, (timely releases).trans invariant.tickPast⟩ }
    · exact moved

/-- The engine takes the control lock for one of its calls. -/
theorem Invariant.called (invariant : Invariant config camera) (busy : camera.stage.settled = true)
    (free : camera.control = none) {control : Control} (undecided : control.writes = none)
    {stage : Stage} (settled : stage.settled = true)
    (progress : ∀ lens failed, stage.progress = some (lens, failed) →
      camera.stage.progress = some (lens, failed))
    (cover : ∀ lens failed, stage = .coverCall lens failed → control.byEngine = true ∧
      control.operation = .privacyCover ∧ control.value = lens) :
    Invariant config { camera with control := some control, stage := stage } :=
  { invariant.request free control undecided with
    idle := by
      rintro rfl
      cases settled
    busy := by
      intro _
      refine invariant.busy fun idle => ?_
      rw [idle] at busy
      cases busy
    raising := by
      rintro rfl
      cases settled
    announcing := by
      rintro rfl
      cases settled
    settled := fun _ => invariant.settled busy
    covering := fun lens failed known => invariant.covering lens failed (progress lens failed known)
    coverCall := fun lens failed known => ⟨control, rfl, cover lens failed known⟩
    restoring := by
      rintro holder same - ⟨write, rest, writes⟩
      cases same
      rw [undecided] at writes
      cases writes }

theorem Invariant.call (invariant : Invariant config camera) (busy : camera.stage.settled = true)
    {operation : ControlOperation} {value value2 : Int} {stage : Stage}
    (settled : stage.settled = true)
    (progress : ∀ lens failed, stage.progress = some (lens, failed) →
      camera.stage.progress = some (lens, failed))
    (cover : ∀ lens failed, stage = .coverCall lens failed →
      operation = .privacyCover ∧ value = lens) :
    Invariant config (camera.call operation value value2 stage) := by
  unfold Camera.call
  split
  · rename_i free
    exact invariant.called busy free rfl settled progress fun lens failed known =>
      ⟨rfl, cover lens failed known⟩
  · exact invariant

/-- The loop of `apply_cover` has ended. -/
theorem Invariant.coverEnded (invariant : Invariant config camera) {lens : Nat} {failed : Bool}
    (stage : camera.stage = .covering lens failed) (ended : ¬ lens < config.lenses) :
    Invariant config
      { camera with
        controls :=
          { camera.controls with
            coveredAt := if failed then camera.controls.coveredAt else camera.tick.now }
        stage := camera.toPicture config } := by
  have busy : camera.stage.settled = true := by rw [stage]; rfl
  obtain ⟨settled, progress⟩ := toPicture_settled config camera
  obtain ⟨-, uncovered, done⟩ := invariant.covering lens failed (by rw [stage]; rfl)
  have some : 0 < config.lenses := lt_min config.valid.1 (by decide)
  have elsewhere : camera.stage ≠ .testing ∧ camera.stage ≠ .covering 0 false := by
    rw [stage]
    refine ⟨Stage.noConfusion, fun same => ?_⟩
    cases same
    exact ended some
  have moved : Invariant config { camera with stage := camera.toPicture config } :=
    invariant.moved busy settled progress fun _ known restores pending =>
      invariant.noRestore elsewhere known restores pending
  refine
    { moved with
      announcing := ?announcing
      covering := ?covering
      covered := ?covered
      released := fun on off => absurd uncovered (invariant.released on off).1
      restoring := ?restoring }
  case announcing =>
    intro impossible
    rw [show camera.toPicture config = _ from impossible] at settled
    cases settled
  case covering =>
    intro other refused known
    rw [show (camera.toPicture config).progress = _ from known] at progress
    cases progress
  case covered =>
    intro on covered other bound
    cases failed with
    | true => exact absurd uncovered covered
    | false => exact done rfl other (lt_of_lt_of_le bound (Nat.not_lt.mp ended))
  case restoring =>
    intro control known restores pending on
    have off := invariant.noRestore elsewhere known restores pending
    exact absurd (off.symm.trans on) Bool.false_ne_true

theorem Invariant.lowered (invariant : Invariant config camera) (stage : camera.stage = .lowering) :
    Invariant config
      { camera with
        app :=
          { camera.app with
            privacyHold := if camera.tick.privacy then camera.app.privacyHold else false }
        stage := .idle } := by
  have same : camera.privacyOn = camera.tick.privacy := invariant.settled (by rw [stage]; rfl)
  have active := (invariant.busy (by rw [stage]; exact Stage.noConfusion)).2
  have elsewhere : camera.stage ≠ .testing ∧ camera.stage ≠ .covering 0 false := by
    rw [stage]
    exact ⟨Stage.noConfusion, Stage.noConfusion⟩
  refine
    { invariant with
      idle := fun _ _ => active.trans (congrArg some same.symm)
      busy := fun impossible => absurd rfl impossible
      raising := fun impossible => by cases impossible
      announcing := fun impossible => by cases impossible
      settled := fun impossible => by cases impossible
      held := ?held
      covering := fun _ _ impossible => by cases impossible
      coverCall := fun _ _ impossible => by cases impossible
      released := ?released
      restoring := ?restoring }
  case held =>
    intro hold
    cases privacy : camera.tick.privacy with
    | true =>
        simp only [privacy, if_true] at hold
        exact invariant.held hold
    | false =>
        simp only [privacy, Bool.false_eq_true, if_false] at hold
  case released =>
    intro on off
    have privacy : camera.tick.privacy = true := same.symm.trans on
    simp only [privacy, if_true] at off
    exact invariant.released on off
  case restoring =>
    intro control known restores pending on
    have off := invariant.noRestore elsewhere known restores pending
    exact absurd (off.symm.trans on) Bool.false_ne_true

theorem Invariant.engine (invariant : Invariant config camera) (timely : Timely camera .engine) :
    Invariant config (camera.engine config) := by
  cases stage : camera.stage with
  | idle =>
      simp only [Camera.engine, stage]
      exact invariant
  | raising =>
      simp only [Camera.engine, stage]
      exact invariant.raised stage (timely.1 stage)
  | announcing => exact invariant.announcement stage
  | testing => exact invariant.tested stage (timely.2 stage)
  | covering lens failed =>
      have busy : camera.stage.settled = true := by rw [stage]; rfl
      simp only [Camera.engine, stage]
      split
      · refine invariant.call busy rfl ?_ ?_
        · intro other refused known
          rw [stage]
          exact known
        · intro other refused known
          cases known
          exact ⟨rfl, rfl⟩
      · rename_i ended
        exact invariant.coverEnded stage ended
  | coverCall lens failed =>
      simp only [Camera.engine, stage]
      exact invariant
  | picturing calls =>
      have busy : camera.stage.settled = true := by rw [stage]; rfl
      cases calls with
      | nil =>
          simp only [Camera.engine, stage]
          refine invariant.moved busy rfl rfl fun _ known restores pending => ?_
          refine invariant.noRestore ?_ known restores pending
          rw [stage]
          exact ⟨Stage.noConfusion, Stage.noConfusion⟩
      | cons picture rest =>
          simp only [Camera.engine, stage]
          refine invariant.call busy rfl ?_ ?_
          · intro lens failed impossible
            cases impossible
          · intro lens failed impossible
            cases impossible
  | pictureCall calls =>
      simp only [Camera.engine, stage]
      exact invariant
  | lowering =>
      simp only [Camera.engine, stage]
      exact invariant.lowered stage

/-! ### The control calls -/

/-- The lock is given back by a call the engine's black-out does not wait for. -/
theorem Invariant.unlocked (invariant : Invariant config camera) (settings : Settings)
    (waits : ∀ lens failed, camera.stage ≠ .coverCall lens failed) :
    Invariant config
      { camera with
        control := none
        controls := { camera.controls with settings := settings } } :=
  { invariant with
    coverCall := fun lens failed stage => absurd stage (waits lens failed)
    restoring := fun _ impossible => by cases impossible }

theorem Invariant.coverMarked (invariant : Invariant config camera) (lens : Int) :
    Invariant config (camera.mark (.covered lens)) :=
  invariant.marked _ (fun _ _ covered => .inr covered) rfl fun _ impossible => by cases impossible

/-- The engine's cover call of a lens is over. -/
theorem Invariant.coverReturned (invariant : Invariant config camera) {lens : Nat} {failed : Bool}
    (stage : camera.stage = .coverCall lens failed) (settings : Settings) (succeeded : Bool) :
    Invariant config
      { camera with
        control := none
        controls := { camera.controls with settings := settings }
        history :=
          if succeeded then (camera.clock, .covered lens) :: camera.history else camera.history
        stage := .covering (lens + 1) (failed || !succeeded)
        coverDone := if succeeded then camera.clock else camera.coverDone } := by
  obtain ⟨privacy, uncovered, done⟩ := invariant.covering lens failed (by rw [stage]; rfl)
  have busy : camera.stage.settled = true := by rw [stage]; rfl
  refine
    { invariant with
      applied := ?applied
      kept := ?kept
      coverPast := ?coverPast
      idle := fun impossible => by cases impossible
      busy := fun _ => invariant.busy (by rw [stage]; exact Stage.noConfusion)
      raising := fun impossible => by cases impossible
      announcing := fun impossible => by cases impossible
      settled := fun _ => invariant.settled busy
      covering := ?covering
      coverCall := fun _ _ impossible => by cases impossible
      covered := fun _ covered => absurd uncovered covered
      released := fun on off => absurd uncovered (invariant.released on off).1
      restoring := fun _ impossible => by cases impossible }
  case applied =>
    cases succeeded <;> exact invariant.applied
  case kept =>
    cases succeeded with
    | true => exact private_cons invariant.kept fun _ impossible => by cases impossible
    | false => exact invariant.kept
  case coverPast =>
    cases succeeded with
    | true => exact Nat.le_refl _
    | false => exact invariant.coverPast
  case covering =>
    intro next refused known
    cases Option.some.inj known
    refine ⟨privacy, uncovered, fun fine other bound => ?_⟩
    cases succeeded with
    | false =>
        rw [Bool.not_false, Bool.or_true] at fine
        cases fine
    | true =>
        rw [Bool.not_true, Bool.or_false] at fine
        rcases Nat.lt_succ_iff_lt_or_eq.mp bound with earlier | rfl
        · exact .inr (coveredBy_mono invariant.coverPast (done fine other earlier))
        · exact .inl ⟨rfl, Nat.le_refl _⟩

/-- A restore is asked for: privacy is off, or nothing is covered yet. -/
theorem Invariant.restoreMarked (invariant : Invariant config camera) {control : Control}
    (known : camera.control = some control) (restores : control.restores = true)
    (pending : ∃ write rest, control.writes = some (write :: rest)) :
    Invariant config (camera.mark .restored) := by
  have early := invariant.restoring control known restores pending
  refine
    { invariant with
      kept := private_cons invariant.kept fun _ impossible => by cases impossible
      covering := ?covering
      covered := fun on covered => absurd (early on).1 covered }
  intro lens failed progress
  replace progress : camera.stage.progress = some (lens, failed) := progress
  obtain ⟨privacy, uncovered, -⟩ := invariant.covering lens failed progress
  have on : camera.privacyOn = true :=
    (invariant.settled (settled_of_progress progress)).trans privacy
  refine ⟨privacy, uncovered, fun _ other bound => ?_⟩
  rcases (early on).2 with testing | covering
  · rw [testing] at progress
    cases progress
  · rw [covering] at progress
    cases Option.some.inj progress
    exact absurd bound (Nat.not_lt_zero other)

/-- The engine's picture call is over. -/
theorem Invariant.pictureReturned (invariant : Invariant config camera)
    (away : ∀ lens failed, camera.stage ≠ .coverCall lens failed) (succeeded : Bool) :
    Invariant config (camera.returned succeeded) := by
  unfold Camera.returned
  split
  · rename_i lens failed stage
    exact absurd stage (away lens failed)
  · rename_i rest stage
    refine invariant.moved (by rw [stage]; rfl) rfl rfl fun _ known restores pending => ?_
    refine invariant.noRestore ?_ known restores pending
    rw [stage]
    exact ⟨Stage.noConfusion, Stage.noConfusion⟩
  · exact invariant

theorem Invariant.leave (invariant : Invariant config camera) {control : Control}
    (known : camera.control = some control) (succeeded : Bool) :
    Invariant config (camera.leave control succeeded) := by
  -- A call of the engine's black-out is the cover call of its lens.
  have cover : ∀ lens failed, camera.stage = .coverCall lens failed → control.byEngine = true ∧
      control.operation = .privacyCover ∧ control.value = lens := by
    intro lens failed stage
    obtain ⟨holder, held, facts⟩ := invariant.coverCall lens failed stage
    rw [known] at held
    cases Option.some.inj held
    exact facts
  by_cases waits : ∃ lens failed, camera.stage = .coverCall lens failed
  · obtain ⟨lens, failed, stage⟩ := waits
    obtain ⟨byEngine, operation, value⟩ := cover lens failed stage
    cases succeeded with
    | true =>
        have returned := invariant.coverReturned stage
          (camera.controls.settings.note control.operation control.value control.value2) true
        simpa [Camera.leave, Camera.returned, Camera.mark, byEngine, operation, value, stage]
          using returned
    | false =>
        have returned := invariant.coverReturned stage camera.controls.settings false
        simpa [Camera.leave, Camera.returned, byEngine, stage] using returned
  · have away : ∀ lens failed, camera.stage ≠ .coverCall lens failed :=
      fun lens failed stage => waits ⟨lens, failed, stage⟩
    have unlocked := fun settings => invariant.unlocked settings away
    unfold Camera.leave
    dsimp only
    split
    · refine Invariant.pictureReturned ?_ ?_ succeeded
      · split
        · exact (unlocked _).coverMarked _
        · exact unlocked _
      · split <;> exact away
    · split
      · exact (unlocked _).coverMarked _
      · exact unlocked _

theorem decide_shown {control : Control} (restores : control.restores = true) (ready : Bool)
    {writes : List Write} (decided : control.decide config ready true = some writes) :
    writes = [] := by
  obtain ⟨byEngine, operation, value, value2, pending⟩ := control
  unfold Control.decide at decided
  split at decided
  · cases decided
  · cases operation <;> first
      | (cases restores; done)
      | exact (Option.some.inj decided).symm

/-- The call that holds the lock has other SDK calls to make. -/
theorem Invariant.rewritten (invariant : Invariant config camera) {control : Control}
    (known : camera.control = some control) {writes : Option (List Write)}
    (restoring : control.restores = true → (∃ write rest, writes = some (write :: rest)) →
      camera.privacyOn = true → camera.controls.coveredAt = 0 ∧
        (camera.stage = .testing ∨ camera.stage = .covering 0 false)) :
    Invariant config { camera with control := some { control with writes := writes } } := by
  refine { invariant with coverCall := ?_, restoring := ?_ }
  · intro lens failed stage
    obtain ⟨holder, held, facts⟩ := invariant.coverCall lens failed stage
    rw [known] at held
    cases Option.some.inj held
    exact ⟨_, rfl, facts⟩
  · intro holder same restores pending on
    cases same
    exact restoring restores pending on

theorem Invariant.advanceControl (invariant : Invariant config camera) (accepted : Bool) :
    Invariant config (camera.advanceControl config accepted) := by
  unfold Camera.advanceControl
  split
  · exact invariant
  rename_i control known
  split
  · split
    · exact invariant.leave known false
    · rename_i undecided writes decided
      refine invariant.rewritten known fun restores pending on => ?_
      rw [on] at decided
      obtain ⟨write, rest, same⟩ := pending
      rw [decide_shown restores camera.ready decided] at same
      cases same
  · exact invariant.leave known true
  · rename_i write rest pending
    dsimp only
    by_cases restores : control.restores = true
    · rw [if_pos restores]
      have asked := invariant.restoreMarked known restores ⟨write, rest, pending⟩
      split
      · exact asked.rewritten known fun restores _ on =>
          invariant.restoring control known restores ⟨write, rest, pending⟩ on
      · exact asked.leave known false
    · rw [if_neg restores]
      split
      · exact invariant.rewritten known fun impossible => absurd impossible restores
      · exact invariant.leave known false

theorem Invariant.step (invariant : Invariant config camera) {event : Event}
    (timely : Timely camera event) : Invariant config (camera.step config event) := by
  cases event with
  | wait us => exact invariant.wait us
  | failed => exact { invariant with }
  | tick minutes => exact invariant.beginTick minutes
  | engine => exact invariant.engine timely
  | request operation value value2 =>
      simp only [Camera.step]
      split
      · rename_i free
        exact invariant.request free _ rfl
      · exact invariant
  | control accepted => exact invariant.advanceControl accepted
  | patch settings applyPicture privacyOverride overrideUntil => exact { invariant with }
  | frame index source mainOnly data ptsUs keyframe =>
      simp only [Camera.step]
      split
      · exact invariant.frame index (enter_pastGate source mainOnly data ptsUs keyframe)
      · exact invariant
  | encoder index allocated => exact invariant.encoder index allocated

theorem preloaded_invariant (config : Config) (app : App) (settings : Settings) (wanted : Bool)
    (clock : Nat) : Invariant config (.preloaded app settings wanted clock) where
  applied := by cases wanted <;> rfl
  kept := by
    cases wanted with
    | true => exact private_cons (private_nil _) fun _ impossible => by cases impossible
    | false => exact private_nil _
  coverPast := Nat.zero_le clock
  tickPast := Nat.zero_le clock
  idle _ impossible := by cases impossible
  busy impossible := absurd rfl impossible
  raising impossible := by cases impossible
  announcing impossible := by cases impossible
  settled impossible := by cases impossible
  held _ _ := rfl
  covering _ _ impossible := by cases impossible
  coverCall _ _ impossible := by cases impossible
  covered _ impossible := absurd rfl impossible
  released on off := by
    replace on : wanted = true := on
    replace off : wanted = false := off
    exact absurd (on.symm.trans off) Bool.noConfusion
  restoring _ impossible := by cases impossible

end Steps

/-- A step of a timely run. -/
def TimelyStep (config : Config) (camera : Camera) (event : Event) (after : Camera) : Prop :=
  Timely camera event ∧ after = camera.step config event

/-- In every timely run, a video frame enters a ring while privacy is applied only
when the cover of every lens was applied a second before in the same episode and no
restore was asked for since. -/
theorem timely_private (config : Config) (app : App) (settings : Settings) (wanted : Bool)
    (clock : Nat) {events : List Event} {camera : Camera}
    (run : Run (TimelyStep config) (.preloaded app settings wanted clock) events camera) :
    Private config.lenses camera.history := by
  have invariant : Invariant config camera := by
    refine run.preserves ?_ (preloaded_invariant config app settings wanted clock)
    rintro start event final held ⟨timely, rfl⟩
    exact held.step timely
  exact invariant.kept

/-! ### Two black-outs -/

/-- Timely by what can be computed: the hold is not raised. -/
def steady (camera : Camera) : Event → Bool
  | .engine =>
      camera.stage ≠ .raising &&
        (camera.stage ≠ .testing || !camera.releases ||
          camera.coverDone + 1000000 ≤ camera.tick.now)
  | _ => true

def allSteady (config : Config) : Camera → List Event → Bool
  | _, [] => true
  | camera, event :: events =>
      steady camera event && allSteady config (camera.step config event) events

theorem timely_of_steady {camera : Camera} {event : Event} (checked : steady camera event = true) :
    Timely camera event := by
  cases event with
  | engine =>
      simp only [steady, Bool.and_eq_true, Bool.or_eq_true, decide_eq_true_eq,
        Bool.not_eq_true'] at checked
      obtain ⟨lowered, unreleased | timely⟩ := checked
      · refine ⟨fun raising => absurd raising lowered, fun testing releases => ?_⟩
        rcases unreleased with other | kept
        · exact absurd testing other
        · exact absurd (kept.symm.trans releases) Bool.false_ne_true
      · exact ⟨fun raising => absurd raising lowered, fun _ _ => timely⟩
  | _ => trivial

theorem run_of_steady {config : Config} {camera : Camera} (events : List Event)
    (checked : allSteady config camera events = true) :
    Run (TimelyStep config) camera events (events.foldl (Camera.step config) camera) := by
  induction events generalizing camera with
  | nil => exact .nil camera
  | cons event events inductionHypothesis =>
      obtain ⟨first, rest⟩ := (Bool.and_eq_true _ _).mp checked
      exact .cons ⟨timely_of_steady first, rfl⟩ (inductionHypothesis rest)

/-- The camera's two lenses. -/
def twoLenses : Config := ⟨2, true, by decide⟩

/-- A call of the engine with this many SDK calls, all accepted. -/
def engineCall (writes : Nat) : List Event := .engine :: List.replicate (writes + 2) (.control true)

/-- Privacy is switched on, up to where the engine raises the hold. -/
def switchOn : List Event :=
  [.patch { Settings.defaults with privacyOn := 1 } false false 0, .tick 0]

/-- The covers are done 0.9 s after the tick began; the next tick begins `pause` after
them, and a keyframe arrives. -/
def coverAndFrame (pause : Nat) : List Event :=
  [.engine, .engine, .wait 900000] ++ engineCall 3 ++ engineCall 3 ++ [.engine] ++
    engineCall 1 ++ engineCall 1 ++ engineCall 1 ++ engineCall 1 ++ engineCall 1 ++
    [.engine, .engine, .wait pause, .tick 0, .engine,
      .frame 0 0 false [0, 0, 0, 1, 0x65, 0x88] 0 true, .encoder 0 true, .encoder 0 true,
      .encoder 0 true]

/-- The camera when the hold is up, 10 s after the clock began. -/
def raisedCamera : Camera :=
  (switchOn ++ [Event.engine]).foldl (Camera.step twoLenses) (.preloaded .initial .defaults false 10000000)

/-- The camera after the frame. -/
def coveredCamera (pause : Nat) : Camera :=
  (coverAndFrame pause).foldl (Camera.step twoLenses) raisedCamera

theorem raisedCamera_run :
    Run (TimelyStep twoLenses) (.preloaded .initial .defaults false 10000000)
      (switchOn ++ [.engine]) raisedCamera := by
  have switched : Run (TimelyStep twoLenses) (.preloaded .initial .defaults false 10000000) switchOn
      (switchOn.foldl (Camera.step twoLenses) (.preloaded .initial .defaults false 10000000)) :=
    run_of_steady switchOn (by decide +kernel)
  refine switched.append (.singleton ⟨⟨fun _ _ => rfl, fun testing => ?_⟩, rfl⟩)
  cases testing

/-- A second after the covers, the frame is let through. -/
theorem timely_private_pause :
    (coveredCamera 1000000).history =
        [(11900000, .pushed 0), (10900000, .covered 1), (10900000, .covered 0),
          (10000000, .began)] ∧
      Private twoLenses.lenses (coveredCamera 1000000).history := by
  refine ⟨by decide +kernel, ?_⟩
  exact timely_private twoLenses .initial .defaults false 10000000
    (raisedCamera_run.append (run_of_steady (coverAndFrame 1000000) (by decide +kernel)))

theorem coveredCamera_history :
    (coveredCamera 100000).history =
      [(11000000, .pushed 0), (10900000, .covered 1), (10900000, .covered 0),
        (10000000, .began)] := by
  decide +kernel

/-- With the overlay on the next tick begins with the next second: the frame enters
a ring a tenth of a second after the covers. -/
theorem overlay_tick_not_private :
    ¬ Private twoLenses.lenses (coveredCamera 100000).history := by
  intro allowed
  obtain ⟨limit, second, covered⟩ :=
    allowed [] 11000000 0 _ coveredCamera_history rfl 0 (by decide)
  rcases covered with ⟨other, -⟩ | ⟨-, before⟩ | impossible
  · exact absurd other (by decide)
  · omega
  · exact impossible

end JooanW3U.Media.Privacy

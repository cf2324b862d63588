import JooanW3U.Media.PlatformSystem

/-!
Owns what holds in every run of the platform from its start: the goto, the lease
and homing exclude each other and a manual move issues one displacement at most;
without an overshoot every target and displacement stays in the travel; without
stale trust a position is saved only where the coordinates are calibrated.  Each
of the two conditions is needed.
-/

namespace JooanW3U.Media.Platform

open JooanW3U.Library

/-- How the platform comes up: its configuration and files. -/
structure Boot where
  motor_home : Bool
  marker : Bool
  flip0 : Nat
  position : Option (Int × Int)
  catalogue : Catalogue

def Boot.machine (boot : Boot) : Machine :=
  platform_get boot.motor_home boot.marker boot.flip0 boot.position boot.catalogue

/-- A run of the platform, each step of which meets a condition. -/
abbrev Runs (condition : Machine → Entry → Prop) : Machine → List Entry → Machine → Prop :=
  Run fun m e m' => step m e = some m' ∧ condition m e

theorem boot_sound (boot : Boot) : boot.machine.head.Sound where
  travel := by
    show 0 ≤ PAN_MAX ∧ 0 ≤ TILT_MAX
    decide
  stored := by
    intro p member
    obtain ⟨entry, inSlots, same⟩ := List.mem_filterMap.mp member
    obtain ⟨preset, rfl, rfl⟩ := Option.map_eq_some_iff.mp same
    have valid : coordinate_valid preset.x preset.y := by
      simpa using boot.catalogue.coordinates _ inSlots
    exact ⟨valid.1, valid.2.2.1⟩
  exclusive := .inl rfl
  stillHoming := fun _ => ⟨rfl, rfl⟩
  closed := fun _ => ⟨⟨rfl, rfl⟩, rfl⟩
  homingAsked := fun _ _ => nofun
  gotoAsked := fun _ => nofun
  settledStill := fun _ => ⟨⟨rfl, rfl⟩, rfl⟩
  once := nofun
  asked := placed_nil _

/-- A run of the platform is a run of the head, without the lapses its steps exclude. -/
theorem run_reaches {lapses : Lapses} {condition : Machine → Entry → Prop}
    (overshoot : ∀ m e, condition m e → lapses.overshoot = true ∨ ¬parksOutside m e)
    (staleTrust : ∀ m e, condition m e →
      lapses.staleTrust = true ∨ m.position_trusted = false ∨ ¬homingLost m e)
    {m m' : Machine} {entries : List Entry} (run : Runs condition m entries m') :
    Reaches lapses m m' := by
  induction run with
  | nil m => exact .refl m
  | cons first _ inductionHypothesis =>
      obtain ⟨stepped, guarded⟩ := first
      have reaches := step_reaches lapses (overshoot _ _ guarded) (staleTrust _ _ guarded) stepped
      exact reaches.trans inductionHypothesis

/-- Every invariant of the head's runs holds after a run of the platform. -/
theorem run_keeps (lapses : Lapses) {condition : Machine → Entry → Prop}
    (overshoot : ∀ m e, condition m e → lapses.overshoot = true ∨ ¬parksOutside m e)
    (staleTrust : ∀ m e, condition m e →
      lapses.staleTrust = true ∨ m.position_trusted = false ∨ ¬homingLost m e)
    {invariant : Head → Prop}
    (kept : ∀ {h h'}, HeadStep lapses h h' → invariant h → invariant h')
    {boot : Boot} {m : Machine} {entries : List Entry} (run : Runs condition boot.machine entries m)
    (initially : invariant boot.machine.head) : invariant m.head :=
  HeadRun.preserves kept (run_reaches overshoot staleTrust run (boot_sound boot)) initially

/-! ## The motor machine -/

/-- No MOTOR_MOVE stands after an expiry that no command follows. -/
theorem settled_after {acts before after : List Act} (asked : Placed movesAreAsked acts)
    (split : acts = before ++ .expired :: after)
    (uncommanded : ∀ act ∈ after, act.isAccepted = false) :
    ∀ act ∈ after, act.isMove = false := by
  intro act member
  by_contra moves
  obtain ⟨early, late, rfl⟩ := List.append_of_mem member
  have place : settled (before ++ .expired :: early) = false := by
    apply asked _ act late
    · simp [split]
    · simpa using moves
  have stays : settled (before ++ .expired :: early) = true := by
    apply lastSet_of_split Act.settles false rfl
    intro later inEarly other sets
    have quiet := uncommanded later (List.mem_append_left _ inEarly)
    cases later <;> simp_all [Act.settles, Act.isAccepted]
  exact absurd (stays.symm.trans place) (by decide)

/-- An accepted manual move issues one MOTOR_MOVE at most. -/
theorem manual_once {h : Head} {before after : List Act} (sound : h.Sound)
    (split : h.acts = before ++ .accepted .manual :: after)
    (uncommanded : ∀ act ∈ after, act.isAccepted = false) : after.countP Act.isMove ≤ 1 := by
  have last : lastAccepted h.acts = some .manual := by
    rw [split]
    apply lastSet_of_split Act.command? none rfl
    intro later member other sets
    have quiet := uncommanded later member
    cases later <;> simp_all [Act.command?, Act.isAccepted]
  have count : movesSince h.acts = after.countP Act.isMove := by
    rw [split]
    exact countSince_of_split _ _ rfl uncommanded
  exact count ▸ (sound.once last).1

/-- For every run: a goto and a lease exclude each other and neither is there while
homing; an accepted manual move issues one MOTOR_MOVE at most until the next
command; after the stop at a lease's expiry none is issued until a command. -/
theorem goto_lease_and_homing_exclude_each_other (boot : Boot) (entries : List Entry)
    (m : Machine) (run : Runs (fun _ _ => True) boot.machine entries m) :
    ¬(m.goto_active = true ∧ m.lease_until ≠ 0) ∧
      (m.homing ≠ .idle → m.goto_active = false ∧ m.lease_until = 0) ∧
      (∀ before after, m.acts = before ++ .accepted .manual :: after →
        (∀ act ∈ after, act.isAccepted = false) → after.countP Act.isMove ≤ 1) ∧
      (∀ before after, m.acts = before ++ .expired :: after →
        (∀ act ∈ after, act.isAccepted = false) → ∀ act ∈ after, act.isMove = false) := by
  have sound : m.head.Sound :=
    run_keeps ⟨true, true⟩ (fun _ _ _ => .inl rfl) (fun _ _ _ => .inl rfl) sound_step run
      (boot_sound boot)
  have still : m.head.Still → m.goto_active = false ∧ m.lease_until = 0 := by
    rintro ⟨none, unleased⟩
    exact ⟨by simpa [Machine.head] using none, by simpa [Machine.head] using unleased⟩
  refine ⟨?_, ?_, ?_, ?_⟩
  · rintro ⟨going, leased⟩
    rcases sound.exclusive with none | unleased
    · exact absurd none (by simp [Machine.head, going])
    · exact absurd unleased (by simpa [Machine.head] using leased)
  · intro homing
    exact still (sound.stillHoming (by simpa [Machine.head] using homing))
  · intro before after split uncommanded
    exact manual_once sound split uncommanded
  · intro before after split uncommanded
    exact settled_after sound.asked split uncommanded

/-! ## Sample runs -/

/-- A driver that takes every request and reports the head here, at rest, with this
much travel; the files are written. -/
def driverAt (x y : Int) (pan_max tilt_max : String) : Answers :=
  let position : Option MotorPosition := some ⟨x, y, 0⟩
  { opened := true
    info := some ["Horizontal motor".toList, ("max steps " ++ pan_max).toList,
      "Vertical motor".toList, ("max steps " ++ tilt_max).toList]
    openSpeed := true
    openReading := position
    halt := ⟨true, position⟩
    reading := position
    stop := true
    again := position
    speed := true
    reset := true
    move := true
    error := ⟨true, position⟩
    positionWritten := true
    presetsSaved := true
    markerMade := true
    gpio := true
    errno := "" }

/-- A start after this boot was homed, without presets and without a saved position. -/
def homedBoot : Boot where
  motor_home := true
  marker := true
  flip0 := 0
  position := none
  catalogue := ⟨List.replicate PRESET_COUNT none, by decide, by decide⟩

def request (operation : Operation) (value value2 : Int) : Event :=
  .control ⟨operation, value, value2, none, false⟩

/-- A move to the right, its displacement, and its expiry. -/
def manualMoveEntries : List Entry :=
  [⟨request .ptz 10 0, 1000, driverAt 2000 600 "4080" "1230"⟩,
    ⟨.worker, 11000, driverAt 2000 600 "4080" "1230"⟩,
    ⟨.worker, 1300000, driverAt 2500 600 "4080" "1230"⟩]

/-- In such a run one displacement is issued, and the stop at the expiry ends it. -/
theorem goto_lease_and_homing_exclude_each_other_manual :
    ∃ m, runs step homedBoot.machine manualMoveEntries = some m ∧ Act.expired ∈ m.acts ∧
      ¬(m.goto_active = true ∧ m.lease_until ≠ 0) := by
  have evaluated : (runs step homedBoot.machine manualMoveEntries).map
      (fun m => decide (Act.expired ∈ m.acts)) = some true := by decide +kernel
  obtain ⟨m, ran, expired⟩ := Option.map_eq_some_iff.mp evaluated
  have run : Runs (fun _ _ => True) homedBoot.machine manualMoveEntries m :=
    (run_of_runs ran).mono fun _ _ _ stepped => ⟨stepped, trivial⟩
  exact ⟨m, ran, of_decide_eq_true expired,
    (goto_lease_and_homing_exclude_each_other homedBoot manualMoveEntries m run).1⟩

/-! ## Targets -/

theorem boot_inside (boot : Boot) : boot.machine.head.Inside :=
  ⟨fun _ _ => nofun, fun _ => nofun⟩

/-- Where no privacy change chooses a position outside the travel, every goto target
lies in the travel and every MOTOR_MOVE outside homing ends in it. -/
theorem targets_stay_in_travel (boot : Boot) (entries : List Entry) (m : Machine)
    (run : Runs (fun m e => ¬parksOutside m e) boot.machine entries m) :
    (m.goto_active = true →
      0 ≤ m.target_x ∧ m.target_x ≤ m.pan_max ∧ 0 ≤ m.target_y ∧ m.target_y ≤ m.tilt_max) ∧
      ∀ act ∈ m.acts, act.EndsInside := by
  have inside : m.head.Inside :=
    run_keeps ⟨false, true⟩ (fun _ _ fits => .inr fits) (fun _ _ _ => .inl rfl)
      (inside_step rfl) run (boot_inside boot)
  refine ⟨fun going => ?_, inside.moves⟩
  exact inside.target m.target_x m.target_y (by simp [Machine.head, going])

/-- Privacy is switched on first thing after a start, with less tilt travel than
`platform_get` assumes. -/
def earlyPrivacyEntries (tilt_max : String) : List Entry :=
  [⟨.privacy true 0, 1000, driverAt 2040 600 "4080" tilt_max⟩,
    ⟨.worker, 11000, driverAt 2040 600 "4080" tilt_max⟩]

theorem targets_stay_in_travel_parking :
    ∃ m, Runs (fun m e => ¬parksOutside m e) homedBoot.machine (earlyPrivacyEntries "1230") m ∧
      m.goto_active = true ∧ 0 ≤ m.target_y ∧ m.target_y ≤ m.tilt_max := by
  have evaluated : (runs (fun m e => if ¬parksOutside m e then step m e else none)
      homedBoot.machine (earlyPrivacyEntries "1230")).map (fun m => m.goto_active) =
        some true := by decide +kernel
  obtain ⟨m, ran, going⟩ := Option.map_eq_some_iff.mp evaluated
  have run := run_of_guarded ran
  exact ⟨m, run, going, ((targets_stay_in_travel homedBoot _ m run).1 going).2.2⟩

/-- Privacy switched on before the device was opened parks at the travel that was
assumed: the target and the displacement to it are outside the reported travel. -/
theorem early_privacy_parks_outside :
    ¬∀ (boot : Boot) (entries : List Entry) (m : Machine),
      Runs (fun _ _ => True) boot.machine entries m →
        (m.goto_active = true → 0 ≤ m.target_x ∧ m.target_x ≤ m.pan_max ∧ 0 ≤ m.target_y ∧
          m.target_y ≤ m.tilt_max) ∧ ∀ act ∈ m.acts, act.EndsInside := by
  intro claimed
  have evaluated : (runs step homedBoot.machine (earlyPrivacyEntries "1200")).map
      (fun m => (m.goto_active, m.target_y, m.tilt_max, m.acts.getLast?)) =
        some (true, 1230, 1200, some (.move .goto 2040 600 4080 1200 0 630 true)) := by
    decide +kernel
  obtain ⟨m, ran, facts⟩ := Option.map_eq_some_iff.mp evaluated
  simp only [Prod.mk.injEq] at facts
  have run : Runs (fun _ _ => True) homedBoot.machine (earlyPrivacyEntries "1200") m :=
    (run_of_runs ran).mono fun _ _ _ stepped => ⟨stepped, trivial⟩
  have inside := (claimed homedBoot _ m run).1 facts.1
  omega

/-! ## The saved position -/

theorem boot_calibrated (boot : Boot) : boot.machine.head.Calibrated :=
  ⟨fun _ => .inr rfl, placed_nil _⟩

/-- A recalibration from its request to its completion. -/
def completedRunEntries : List Entry :=
  [⟨request .ptz_recalibrate 0 0, 1000, driverAt 2040 600 "4080" "1230"⟩,
    ⟨.worker, 5000000, driverAt 4080 600 "4080" "1230"⟩,
    ⟨.resetReturns false, 25000000, driverAt 2040 1199 "4080" "1230"⟩,
    ⟨.worker, 26000000, driverAt 2040 1199 "4080" "1230"⟩]

/-- A recalibration times out, a manual move follows and runs out, and the head rests
for five seconds. -/
def lostRunEntries : List Entry :=
  [⟨request .ptz_recalibrate 0 0, 1000, driverAt 2040 600 "4080" "1230"⟩,
    ⟨.worker, 60001000, driverAt 0 0 "4080" "1230"⟩,
    ⟨request .ptz 10 0, 61000000, driverAt 0 0 "4080" "1230"⟩,
    ⟨.worker, 63000000, driverAt 100 50 "4080" "1230"⟩,
    ⟨.worker, 69000000, driverAt 100 50 "4080" "1230"⟩]

end JooanW3U.Media.Platform

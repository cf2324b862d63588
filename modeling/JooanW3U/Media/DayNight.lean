import JooanW3U.Media.Engine

/-!
Owns the automatic switches between day and night: since when a reading has asked for one,
and how long the last one holds. Main result: what an automatic switch of a run has behind
it, once the start has settled.

Does not own the modes that are chosen or scheduled.
-/

namespace JooanW3U.Media.ControlsEngine

open JooanW3U.Library

/-! ### Decisions -/

/-- Neither chosen nor scheduled. -/
def automatic (s : Settings) : Bool := s.nightMode ≠ 0 && s.nightMode ≠ 1 && s.nightMode ≠ 3

/-- A reading that asks for night, or for day. -/
def asks (s : Settings) (night : Bool) (ev : Int) : Bool :=
  if night then s.nightEv ≤ ev else ev ≤ s.dayEv

/-- The step decides, with this engine and at this time of its tick. -/
inductive Decides (config : Config) (state : State) : Event → Engine → Nat → Prop
  | tick {vendor : Option (List Char)} (idle : state.reading = none)
      (decides : (state.engine.refreshed config vendor state.clock).readsNow config state.clock =
        false) :
      Decides config state (.tick vendor) (state.engine.refreshed config vendor state.clock)
        state.clock
  | read {ev : Option Int} {now : Nat} (reads : state.reading = some now) :
      Decides config state (.read ev) (state.engine.noted ev) now

/-- An automatic switch to night, or to day. -/
structure Switches (config : Config) (e : Engine) (now : Nat) (night : Bool) : Prop where
  auto : automatic e.controls.settings = true
  before : e.activeNight = some (!night)
  after : (e.autoNight config now).night = night

/-- A step in automatic mode that leaves the levels, with the other mode on before it, and
no reading that does not ask for this one. -/
structure Waiting (config : Config) (night : Bool) (state : State) (event : Event)
    (after : State) : Prop where
  stepped : Steps config state event after
  auto : automatic state.settings = true
  stays : automatic after.settings = true
  levels : after.settings.nightEv = state.settings.nightEv ∧
    after.settings.dayEv = state.settings.dayEv
  other : state.engine.activeNight = some (!night)
  reading : ∀ ev now, event = .read (some ev) → state.reading = some now →
    asks state.settings night ev = true

/-- A wait begins: the first of these steps decides at this time, on a reading that asks
for the mode. -/
def Begins (config : Config) (state : State) (night : Bool) (since : Nat) (late : List Event) :
    Prop :=
  ∃ first rest e, late = first :: rest ∧ Decides config state first e since ∧
    e.evValid = true ∧ asks e.controls.settings night e.ev = true

/-- The last of these events are a wait that began at this time. -/
def Waited (config : Config) (start : State) (night : Bool) (since : Nat) (events : List Event)
    (state : State) : Prop :=
  ∃ early late middle, events = early ++ late ∧ Run (Steps config) start early middle ∧
    Run (Waiting config night) middle late state ∧ Begins config middle night since late

theorem Waited.begins {config : Config} {start state after : State} {night : Bool} {now : Nat}
    {events : List Event} {event : Event} {e : Engine} (run : Run (Steps config) start events state)
    (decides : Decides config state event e now) (valid : e.evValid = true)
    (asked : asks e.controls.settings night e.ev = true)
    (waiting : Waiting config night state event after) :
    Waited config start night now (events ++ [event]) after :=
  ⟨events, [event], state, rfl, run, .singleton waiting, event, [], e, rfl, decides, valid, asked⟩

theorem Waited.goes_on {config : Config} {start state after : State} {night : Bool} {since : Nat}
    {events : List Event} {event : Event} (waited : Waited config start night since events state)
    (waiting : Waiting config night state event after) :
    Waited config start night since (events ++ [event]) after := by
  obtain ⟨early, late, middle, is, before, during, first, rest, e, starts, begins⟩ := waited
  refine ⟨early, late ++ [event], middle, ?_, before, during.append (.singleton waiting), first,
    rest ++ [event], e, ?_, begins⟩
  · rw [is, List.append_assoc]
  · rw [starts, List.cons_append]

/-! ### What a deciding engine has of its state -/

/-- The night fields of two engines are the same, but for the reading. -/
structure SameNight (e after : Engine) : Prop where
  mode : after.controls.settings.nightMode = e.controls.settings.nightMode
  nightEv : after.controls.settings.nightEv = e.controls.settings.nightEv
  dayEv : after.controls.settings.dayEv = e.controls.settings.dayEv
  active : after.activeNight = e.activeNight
  condSince : after.condSince = e.condSince
  switchedAt : after.switchedAt = e.switchedAt
  settling : after.autoSettling = e.autoSettling

theorem SameNight.automatic {e after : Engine} (same : SameNight e after) :
    automatic after.controls.settings = automatic e.controls.settings := by
  unfold ControlsEngine.automatic
  rw [same.mode]

theorem SameNight.asks {e after : Engine} (same : SameNight e after) (night : Bool) (ev : Int) :
    asks after.controls.settings night ev = asks e.controls.settings night ev := by
  unfold ControlsEngine.asks
  rw [same.nightEv, same.dayEv]

theorem refreshed_same (config : Config) (e : Engine) (vendor : Option (List Char)) (now : Nat) :
    SameNight e (e.refreshed config vendor now) := by
  have zoned : ∀ zone, (Controls.zoned e.controls.settings zone).nightMode =
        e.controls.settings.nightMode ∧
      (Controls.zoned e.controls.settings zone).nightEv = e.controls.settings.nightEv ∧
      (Controls.zoned e.controls.settings zone).dayEv = e.controls.settings.dayEv := by
    intro zone
    cases zone with
    | none => exact ⟨rfl, rfl, rfl⟩
    | some offset => exact ⟨rfl, rfl, rfl⟩
  exact ⟨(zoned _).1, (zoned _).2.1, (zoned _).2.2, rfl, rfl, rfl, rfl⟩

theorem Decides.same {config : Config} {state : State} {event : Event} {e : Engine} {now : Nat}
    (decides : Decides config state event e now) : SameNight state.engine e := by
  cases decides with
  | tick => exact refreshed_same config state.engine _ state.clock
  | read => exact ⟨rfl, rfl, rfl, rfl, rfl, rfl, rfl⟩

/-- The reading of a deciding step is the engine's. -/
theorem Decides.reading {config : Config} {state : State} {event : Event} {e : Engine} {now : Nat}
    (decides : Decides config state event e now) {ev : Int} (is : event = .read (some ev)) :
    e.evValid = true ∧ e.ev = ev := by
  cases decides with
  | tick => cases is
  | read =>
      cases is
      exact ⟨rfl, rfl⟩

theorem Decides.after {config : Config} {state after : State} {event : Event} {e : Engine}
    {now : Nat} (decides : Decides config state event e now)
    (stepped : Steps config state event after) : after = state.decided config e now := by
  rw [stepped]
  cases decides with
  | tick idle decides =>
      rw [step_tick idle, State.tick, State.proceeds, if_neg (by rw [decides]; decide)]
  | read reads => exact step_read reads _

/-- A step decides, or leaves what the engine waits for. -/
inductive Moves (config : Config) (state : State) (event : Event) (after : State) : Prop
  | decides {e : Engine} {now : Nat} (decides : Decides config state event e now)
      (is : after = state.decided config e now)
  | same (same : SameNight state.engine after.engine)
      (reading : ∀ ev now, event = .read (some ev) → state.reading = some now → False)
  | restarts (active : after.engine.activeNight = state.engine.activeNight)
      (condSince : after.engine.condSince = 0)
      (settling : after.engine.autoSettling = state.engine.autoSettling)
      (switchedAt : after.engine.switchedAt = state.engine.switchedAt)
  | chosen (mode : automatic after.settings = false)
      (active : after.engine.activeNight ≠ none)
      (condSince : after.engine.condSince = state.engine.condSince)
      (settling : after.engine.autoSettling = state.engine.autoSettling)
      (switchedAt : after.engine.switchedAt = state.engine.switchedAt)

theorem patched_night (controls : Privacy.Controls) (root : Json) (next : Settings) (edge : Nat) :
    (Controls.patched controls root next edge).settings.nightMode = next.nightMode ∧
      (Controls.patched controls root next edge).settings.nightEv = next.nightEv ∧
      (Controls.patched controls root next edge).settings.dayEv = next.dayEv := by
  rcases Controls.patched_settings controls root next edge with is | is
  · rw [is]
    exact ⟨rfl, rfl, rfl⟩
  · rw [is]
    exact ⟨rfl, rfl, rfl⟩

/-- A patch of the mode or of a level starts the wait anew. -/
theorem patched_moves {config : Config} {state : State} {event : Event} {root : Json}
    {next : Settings} (patches : ∀ ev, event ≠ .read (some ev)) :
    Moves config state event
      { state with engine := state.engine.patched root next state.clock state.time } := by
  obtain ⟨mode, nightEv, dayEv⟩ := patched_night state.engine.controls root next (state.clock +
    (nextBoundaryS next state.time next.privacyFrom next.privacyUntil).toNat * 1000000)
  by_cases changed : next.nightMode ≠ state.engine.controls.settings.nightMode ∨
      next.nightEv ≠ state.engine.controls.settings.nightEv ∨
      next.dayEv ≠ state.engine.controls.settings.dayEv
  · exact .restarts rfl (if_pos changed) rfl rfl
  · have same : next.nightMode = state.engine.controls.settings.nightMode ∧
        next.nightEv = state.engine.controls.settings.nightEv ∧
        next.dayEv = state.engine.controls.settings.dayEv := by
      simpa only [not_or, not_not, ne_eq] using changed
    exact .same ⟨mode.trans same.1, nightEv.trans same.2.1, dayEv.trans same.2.2, rfl,
      if_neg changed, rfl, rfl⟩ fun ev _ is => absurd is (patches ev)

/-- The same mode and levels. -/
def SameLevels (s after : Settings) : Prop :=
  after.nightMode = s.nightMode ∧ after.nightEv = s.nightEv ∧ after.dayEv = s.dayEv

theorem onPic_levels (s : Settings) (lens : Int) (change : Picture → Picture) :
    SameLevels s (s.onPic lens change) := by
  unfold Settings.onPic
  split
  · exact ⟨rfl, rfl, rfl⟩
  · split
    · exact ⟨rfl, rfl, rfl⟩
    · exact ⟨rfl, rfl, rfl⟩

theorem whiteLight_levels (s : Settings) (value value2 : Int) :
    SameLevels s (s.note .whiteLight value value2) := by
  by_cases scheduled : s.wlSchedule ≠ 0
  · rw [Settings.note, if_pos scheduled]
    exact ⟨rfl, rfl, rfl⟩
  · rw [Settings.note, if_neg scheduled]
    exact ⟨rfl, rfl, rfl⟩

/-- A noted control with the same mode and levels. -/
theorem Moves.noted {config : Config} {state after : State} {operation : ControlOperation}
    {value value2 : Int} (levels : SameLevels state.settings after.settings)
    (active : after.engine.activeNight = state.engine.activeNight)
    (condSince : after.engine.condSince = state.engine.condSince)
    (switchedAt : after.engine.switchedAt = state.engine.switchedAt)
    (settling : after.engine.autoSettling = state.engine.autoSettling) :
    Moves config state (.note operation value value2) after :=
  .same ⟨levels.1, levels.2.1, levels.2.2, active, condSince, switchedAt, settling⟩
    fun _ _ is => by cases is

/-- A choice of day or night leaves automatic mode. -/
theorem Moves.night {config : Config} {state after : State} {operation : ControlOperation}
    {value value2 : Int} (choice : value = 0 ∨ value = 1)
    (mode : after.settings.nightMode = value)
    (active : after.engine.activeNight = some (decide (value = 1)))
    (condSince : after.engine.condSince = state.engine.condSince)
    (switchedAt : after.engine.switchedAt = state.engine.switchedAt)
    (settling : after.engine.autoSettling = state.engine.autoSettling) :
    Moves config state (.note operation value value2) after := by
  refine .chosen ?_ (by rw [active]; exact Option.some_ne_none _) condSince settling switchedAt
  unfold automatic
  rw [mode]
  rcases choice with rfl | rfl
  · decide
  · decide

theorem chosen_moves {config : Config} {state : State} {operation : ControlOperation}
    (chooses : operation = .night ∨ operation = .ircut) (value value2 : Int) :
    Moves config state (.note operation value value2)
      (step config state (.note operation value value2)) := by
  by_cases choice : value = 0 ∨ value = 1
  · have is : step config state (.note operation value value2) =
        { state with
          engine := { state.engine with
            controls := { state.engine.controls with
              settings := { state.engine.controls.settings with nightMode := value } }
            activeNight := some (value = 1) } } := by
      rcases chooses with rfl | rfl <;> simp only [step, Engine.note, Settings.note, if_pos choice]
    rw [is]
    exact .night choice rfl rfl rfl rfl rfl
  · have is : step config state (.note operation value value2) = state := by
      rcases chooses with rfl | rfl <;> simp only [step, Engine.note, Settings.note, if_neg choice]
    rw [is]
    exact .noted ⟨rfl, rfl, rfl⟩ rfl rfl rfl rfl

/-- What a control notes leaves automatic mode, or the mode and the levels as they are. -/
theorem noted_moves {config : Config} {state : State} (operation : ControlOperation)
    (value value2 : Int) :
    Moves config state (.note operation value value2)
      (step config state (.note operation value value2)) := by
  have pictured := onPic_levels state.settings value2
  have same : SameLevels state.settings state.settings := ⟨rfl, rfl, rfl⟩
  cases operation with
  | night => exact chosen_moves (.inl rfl) value value2
  | ircut => exact chosen_moves (.inr rfl) value value2
  | whiteLight => exact .noted (whiteLight_levels _ value value2) rfl rfl rfl rfl
  | pilotLed => exact .noted same rfl rfl rfl rfl
  | micMute => exact .noted same rfl rfl rfl rfl
  | antiFlicker => exact .noted same rfl rfl rfl rfl
  | brightness =>
      exact .noted (pictured fun picture => { picture with brightness := value }) rfl rfl rfl rfl
  | contrast =>
      exact .noted (pictured fun picture => { picture with contrast := value }) rfl rfl rfl rfl
  | saturation =>
      exact .noted (pictured fun picture => { picture with saturation := value }) rfl rfl rfl rfl
  | sharpness =>
      exact .noted (pictured fun picture => { picture with sharpness := value }) rfl rfl rfl rfl
  | denoise =>
      exact .noted (pictured fun picture => { picture with denoise := value }) rfl rfl rfl rfl
  | privacyCover => exact .noted same rfl rfl rfl rfl
  | other => exact .noted same rfl rfl rfl rfl

theorem step_moves {config : Config} {state after : State} {event : Event}
    (stepped : Steps config state event after) : Moves config state event after := by
  have same : SameNight state.engine state.engine := ⟨rfl, rfl, rfl, rfl, rfl, rfl, rfl⟩
  subst stepped
  cases event with
  | passes us => exact .same same fun _ _ is => by cases is
  | setsWall wall => exact .same same fun _ _ is => by cases is
  | trigger us => exact .same ⟨rfl, rfl, rfl, rfl, rfl, rfl, rfl⟩ fun _ _ is => by cases is
  | strobe us => exact .same ⟨rfl, rfl, rfl, rfl, rfl, rfl, rfl⟩ fun _ _ is => by cases is
  | note operation value value2 => exact noted_moves operation value value2
  | patch text =>
      cases applied : state.engine.patch text state.clock state.time with
      | ok engine =>
          obtain ⟨root, next, -, -, -, is⟩ := patch_ok applied
          rw [step_patch applied, is]
          exact patched_moves fun _ is => by cases is
      | error message =>
          rw [step_patch_rejected applied]
          exact .same same fun _ _ is => by cases is
  | tick vendor =>
      cases reads : state.reading with
      | some now =>
          rw [step_tick_waits reads]
          exact .same same fun _ _ is => by cases is
      | none =>
          cases readsNow : (state.engine.refreshed config vendor state.clock).readsNow config
              state.clock with
          | false =>
              have decides := Decides.tick reads readsNow
              exact .decides decides (decides.after rfl)
          | true =>
              rw [step_tick reads, State.tick, State.proceeds, if_pos readsNow]
              obtain ⟨mode, nightEv, dayEv, active, condSince, switchedAt, settling⟩ :=
                refreshed_same config state.engine vendor state.clock
              exact .same ⟨mode, nightEv, dayEv, active, condSince, switchedAt, settling⟩
                fun _ _ is => by cases is
  | read ev =>
      cases reads : state.reading with
      | none =>
          rw [step_read_idle reads]
          refine .same same fun ev now _ is => ?_
          rw [reads] at is
          cases is
      | some now =>
          have decides : Decides config state (.read ev) _ now := .read reads
          exact .decides decides (decides.after rfl)

/-! ### What a tick may decide -/

inductive NightCase (config : Config) (e : Engine) (now : Nat) : Choice → Prop
  | chosen (mode : automatic e.controls.settings = false) (night : Bool) :
      NightCase config e now (e.keep night)
  | holds (auto : automatic e.controls.settings = true) (failed : e.evValid = false) :
      NightCase config e now (e.keep (e.activeNight.getD false))
  | settles (auto : automatic e.controls.settings = true) (valid : e.evValid = true)
      (start : e.activeNight = none ∨ e.autoSettling = true) :
      NightCase config e now (e.settle config now)
  | follows (auto : automatic e.controls.settings = true) (valid : e.evValid = true)
      (night : Bool) (active : e.activeNight = some night) (settled : e.autoSettling = false) :
      NightCase config e now (e.follow config night now)

theorem autoNight_case {e : Engine} (config : Config) (now : Nat)
    (auto : automatic e.controls.settings = true) :
    NightCase config e now (e.autoNight config now) := by
  unfold Engine.autoNight
  cases valid : e.evValid with
  | false => exact .holds auto valid
  | true =>
      rw [if_neg Bool.true_eq_false_eq_False]
      cases active : e.activeNight with
      | none => exact .settles auto valid (.inl active)
      | some night =>
          cases settling : e.autoSettling with
          | true => exact .settles auto valid (.inr settling)
          | false => exact .follows auto valid night active settling

theorem night_case (config : Config) (e : Engine) (minutes : Int) (now : Nat) :
    NightCase config e now (e.night config minutes now) := by
  have mode (value : Int) (is : e.controls.settings.nightMode = value)
      (fixed : value = 0 ∨ value = 1 ∨ value = 3) : automatic e.controls.settings = false := by
    unfold automatic
    rw [is]
    rcases fixed with rfl | rfl | rfl <;> decide
  unfold Engine.night
  split
  · rename_i day
    exact .chosen (mode 0 day (.inl rfl)) false
  · split
    · rename_i night
      exact .chosen (mode 1 night (.inr (.inl rfl))) true
    · split
      · rename_i schedule
        exact .chosen (mode 3 schedule (.inr (.inr rfl))) _
      · rename_i notDay notNight notSchedule
        have auto : automatic e.controls.settings = true := by
          simp [automatic, notDay, notNight, notSchedule]
        exact autoNight_case config now auto

/-- In automatic mode the time of the day does not count. -/
theorem night_auto {e : Engine} (config : Config) (minutes : Int) (now : Nat)
    (auto : automatic e.controls.settings = true) :
    e.night config minutes now = e.autoNight config now := by
  simp only [automatic, Bool.and_eq_true, decide_eq_true_iff, ne_eq] at auto
  unfold Engine.night
  rw [if_neg auto.1.1, if_neg auto.1.2, if_neg auto.2]

theorem settle_condSince (config : Config) (e : Engine) (now : Nat) :
    (e.settle config now).condSince = e.condSince := by
  unfold Engine.settle
  split
  · rfl
  · rfl

/-- A start that settles in the dark is over, and starts a hold. -/
theorem settle_dark {config : Config} {e : Engine} {now : Nat}
    (dark : (e.settle config now).night = true) :
    (e.settle config now).startedDay = false ∧ (e.settle config now).autoSettling = false := by
  unfold Engine.settle at dark ⊢
  by_cases early : now < e.settleAt config now
  · rw [if_pos early] at dark
    cases dark
  · rw [if_neg early] at dark ⊢
    have reads : e.dark = true := dark
    refine ⟨?_, rfl⟩
    show (!e.dark) = false
    rw [reads]
    rfl

/-- A wait that a choice leaves began now, or went on. -/
theorem NightCase.condSince {config : Config} {e : Engine} {now : Nat} {choice : Choice}
    (is : NightCase config e now choice) :
    choice.condSince = 0 ∨ choice.condSince = now ∨ choice.condSince = e.condSince := by
  cases is with
  | chosen mode night => exact .inr (.inr rfl)
  | holds auto failed => exact .inr (.inr rfl)
  | settles auto valid start => exact .inr (.inr (settle_condSince config e now))
  | follows auto valid night active settled =>
      unfold Engine.follow
      split
      · exact .inl rfl
      · show e.since night now = 0 ∨ e.since night now = now ∨ e.since night now = e.condSince
        unfold Engine.since
        split
        · split
          · exact .inr (.inl rfl)
          · exact .inr (.inr rfl)
        · exact .inl rfl

/-! ### The clock -/

/-- Nothing that is timed is in the future, nor after a reading began. -/
structure Timely (state : State) : Prop where
  positive : 0 < state.clock
  condSince : state.engine.condSince ≤ state.clock
  switchedAt : state.engine.switchedAt ≤ state.clock
  reading : ∀ now, state.reading = some now → 0 < now ∧ now ≤ state.clock ∧
    state.engine.condSince ≤ now ∧ state.engine.switchedAt ≤ now

theorem step_clock {config : Config} {state after : State} {event : Event}
    (stepped : Steps config state event after) :
    state.clock ≤ after.clock ∧
      ∀ now, after.reading = some now → state.reading = some now ∨ now = after.clock := by
  subst stepped
  cases event with
  | passes us => exact ⟨Nat.le_add_right _ _, fun _ is => .inl is⟩
  | setsWall wall => exact ⟨Nat.le_refl _, fun _ is => .inl is⟩
  | trigger us => exact ⟨Nat.le_refl _, fun _ is => .inl is⟩
  | strobe us => exact ⟨Nat.le_refl _, fun _ is => .inl is⟩
  | note operation value value2 => exact ⟨Nat.le_refl _, fun _ is => .inl is⟩
  | patch text =>
      cases applied : state.engine.patch text state.clock state.time with
      | ok engine =>
          rw [step_patch applied]
          exact ⟨Nat.le_refl _, fun _ is => .inl is⟩
      | error message =>
          rw [step_patch_rejected applied]
          exact ⟨Nat.le_refl _, fun _ is => .inl is⟩
  | tick vendor =>
      cases reads : state.reading with
      | some now =>
          rw [step_tick_waits reads]
          exact ⟨Nat.le_refl _, fun _ is => .inl (reads.symm.trans is)⟩
      | none =>
          rw [step_tick reads]
          unfold State.tick State.proceeds
          split
          · exact ⟨Nat.le_refl _, fun now is => .inr (Option.some.inj is).symm⟩
          · exact ⟨Nat.le_refl _, fun _ is => by cases is⟩
  | read ev =>
      cases reads : state.reading with
      | none =>
          rw [step_read_idle reads]
          exact ⟨Nat.le_refl _, fun _ is => .inl (reads.symm.trans is)⟩
      | some now =>
          rw [step_read reads]
          exact ⟨Nat.le_refl _, fun _ is => by cases is⟩

/-- The time of a deciding tick has come, and is not before what is timed. -/
theorem Timely.decides {config : Config} {state : State} {event : Event} {e : Engine} {now : Nat}
    (timely : Timely state) (decides : Decides config state event e now) :
    0 < now ∧ now ≤ state.clock ∧ e.condSince ≤ now ∧ e.switchedAt ≤ now := by
  have same := decides.same
  rw [same.condSince, same.switchedAt]
  cases decides with
  | tick => exact ⟨timely.positive, Nat.le_refl _, timely.condSince, timely.switchedAt⟩
  | read reads => exact timely.reading now reads

theorem Timely.step {config : Config} {state after : State} {event : Event}
    (timely : Timely state) (stepped : Steps config state event after) : Timely after := by
  obtain ⟨passes, reading⟩ := step_clock stepped
  have earlier : after.engine.condSince ≤ state.engine.condSince →
      after.engine.switchedAt ≤ state.engine.switchedAt → Timely after := by
    intro condSince switchedAt
    have since := timely.condSince
    have switched := timely.switchedAt
    have positive := timely.positive
    refine ⟨by omega, by omega, by omega, fun now is => ?_⟩
    rcases reading now is with before | rfl
    · have at_reading := timely.reading now before
      omega
    · omega
  cases step_moves stepped with
  | same same => exact earlier (Nat.le_of_eq same.condSince) (Nat.le_of_eq same.switchedAt)
  | restarts active condSince settling switchedAt =>
      exact earlier (by rw [condSince]; exact Nat.zero_le _) (Nat.le_of_eq switchedAt)
  | chosen mode active condSince settling switchedAt =>
      exact earlier (Nat.le_of_eq condSince) (Nat.le_of_eq switchedAt)
  | @decides e now decides is =>
      obtain ⟨positive, come, condSince, switchedAt⟩ := timely.decides decides
      have since := (night_case config e (localMinutes e.controls.settings state.time) now).condSince
      have switched : after.engine.switchedAt ≤ now := by
        rw [is]
        unfold State.decided Engine.decided
        dsimp only
        split
        · exact Nat.zero_le _
        · split
          · exact switchedAt
          · exact Nat.le_refl _
      have sinceNow : after.engine.condSince ≤ now := by
        rw [is]
        show (e.night config (localMinutes e.controls.settings state.time) now).condSince ≤ now
        omega
      have clock := timely.positive
      refine ⟨by omega, by omega, by omega, fun later reads => ?_⟩
      rw [is] at reads
      cases reads

/-! ### The wait -/

/-- In automatic mode the events end with the wait that is counted; none is before the first
tick or while a start settles. -/
structure Watch (config : Config) (start : State) (events : List Event) (state : State) : Prop where
  waited : automatic state.settings = true → state.engine.condSince ≠ 0 →
    ∃ night, state.engine.activeNight = some (!night) ∧
      Waited config start night state.engine.condSince events state
  settling : state.engine.autoSettling = true → state.engine.condSince = 0
  fresh : state.engine.activeNight = none → state.engine.condSince = 0

/-- A step with the same mode and levels goes on with the wait. -/
theorem Waiting.of_same {config : Config} {night : Bool} {state after : State} {event : Event}
    (stepped : Steps config state event after) (levels : SameLevels state.settings after.settings)
    (auto : automatic after.settings = true) (other : state.engine.activeNight = some (!night))
    (reading : ∀ ev now, event = .read (some ev) → state.reading = some now →
      asks state.settings night ev = true) : Waiting config night state event after := by
  have before : automatic state.settings = true := by
    unfold automatic at auto ⊢
    rw [levels.1] at auto
    exact auto
  exact ⟨stepped, before, auto, levels.2, other, reading⟩

theorem Decides.levels {config : Config} {state : State} {event : Event} {e : Engine} {now : Nat}
    (decides : Decides config state event e now) :
    SameLevels state.settings (state.decided config e now).settings :=
  ⟨decides.same.mode, decides.same.nightEv, decides.same.dayEv⟩

theorem want_eq (e : Engine) (night : Bool) :
    e.want night = asks e.controls.settings (!night) e.ev := by
  cases night <;> rfl

/-- A deciding step on a reading that asks for a mode goes on with the wait for it. -/
theorem Decides.waiting {config : Config} {state : State} {event : Event} {e : Engine} {now : Nat}
    (decides : Decides config state event e now) {night : Bool}
    (auto : automatic e.controls.settings = true) (other : e.activeNight = some (!night))
    (asked : e.evValid = true → asks e.controls.settings night e.ev = true) :
    Waiting config night state event (state.decided config e now) := by
  have stepped : Steps config state event (state.decided config e now) :=
    (decides.after rfl).symm
  refine .of_same stepped decides.levels auto (decides.same.active.symm.trans other) ?_
  intro ev read is _
  obtain ⟨valid, same⟩ := decides.reading is
  have given := asked valid
  rw [same] at given
  exact (decides.same.asks night ev).symm.trans given

theorem Watch.decided {config : Config} {start state : State} {events : List Event}
    (watch : Watch config start events state) (run : Run (Steps config) start events state)
    {event : Event} {e : Engine} {now : Nat} (decides : Decides config state event e now) :
    Watch config start (events ++ [event]) (state.decided config e now) := by
  have same := decides.same
  -- A choice that keeps the mode and its wait, where no reading speaks against it.
  have kept (auto : automatic e.controls.settings = true) (set : e.condSince ≠ 0)
      (asked : ∀ night, e.activeNight = some (!night) → e.evValid = true →
        asks e.controls.settings night e.ev = true) :
      ∃ night, e.activeNight = some (!night) ∧
        Waited config start night e.condSince (events ++ [event]) (state.decided config e now) := by
    have counted : state.engine.condSince ≠ 0 := by
      rw [← same.condSince]
      exact set
    have before : automatic state.settings = true := same.automatic.symm.trans auto
    obtain ⟨night, active, waited⟩ := watch.waited before counted
    have other : e.activeNight = some (!night) := same.active.trans active
    rw [same.condSince]
    exact ⟨night, other, waited.goes_on (decides.waiting auto other (asked night other))⟩
  have unset (unsettled : e.autoSettling = true ∨ e.activeNight = none) : e.condSince = 0 := by
    rw [same.condSince]
    rcases unsettled with settling | fresh
    · exact watch.settling (same.settling.symm.trans settling)
    · exact watch.fresh (same.active.symm.trans fresh)
  have choice := night_case config e (localMinutes e.controls.settings state.time) now
  suffices leaves : ∀ chosen, NightCase config e now chosen →
      (automatic e.controls.settings = true → chosen.condSince ≠ 0 →
        ∃ night, chosen.night = (!night) ∧ Waited config start night chosen.condSince
          (events ++ [event]) (state.decided config e now)) ∧
      (chosen.autoSettling = true → chosen.condSince = 0) by
    obtain ⟨waited, settling⟩ := leaves _ choice
    refine ⟨fun auto set => ?_, settling, fun fresh => by cases fresh⟩
    obtain ⟨night, is, waited⟩ := waited auto set
    exact ⟨night, congrArg some is, waited⟩
  intro chosen is
  cases is with
  | chosen mode night =>
      exact ⟨fun auto => absurd (auto.symm.trans mode) (by decide), fun settling =>
        unset (.inl settling)⟩
  | holds auto failed =>
      refine ⟨fun _ set => ?_, fun settling => unset (.inl settling)⟩
      obtain ⟨night, other, waited⟩ := kept auto set fun _ _ valid =>
        absurd (valid.symm.trans failed) (by decide)
      refine ⟨night, ?_, waited⟩
      show e.activeNight.getD false = _
      rw [other]
      rfl
  | settles auto valid started =>
      have none : (e.settle config now).condSince = 0 :=
        (settle_condSince config e now).trans (unset started.symm)
      exact ⟨fun _ set => absurd none set, fun _ => none⟩
  | follows auto valid night active settled =>
      unfold Engine.follow
      split
      · exact ⟨fun _ set => absurd rfl set, fun _ => rfl⟩
      · refine ⟨fun _ set => ⟨!night, (Bool.not_not night).symm, ?_⟩, fun settling =>
          absurd (settled.symm.trans settling) (by decide)⟩
        have other : e.activeNight = some (!!night) := by
          rw [Bool.not_not]
          exact active
        have wanted : e.want night = true := by
          by_contra unwanted
          have zero : e.since night now = 0 := if_neg unwanted
          exact set zero
        have asked : asks e.controls.settings (!night) e.ev = true :=
          (want_eq e night).symm.trans wanted
        have since : e.since night now = if e.condSince = 0 then now else e.condSince :=
          if_pos wanted
        show Waited config start (!night) (e.since night now) _ _
        rw [since]
        by_cases begins : e.condSince = 0
        · rw [if_pos begins]
          exact .begins run decides valid asked (decides.waiting auto other fun _ => asked)
        · rw [if_neg begins]
          obtain ⟨mode, is, waited⟩ := kept auto begins fun mode is _ => by
            have same_mode : mode = !night := by
              have both := Option.some.inj (is.symm.trans active)
              rw [← both, Bool.not_not]
            rw [same_mode]
            exact asked
          have same_mode : mode = !night := by
            have both := Option.some.inj (is.symm.trans active)
            rw [← both, Bool.not_not]
          rw [← same_mode]
          exact waited

theorem Watch.step {config : Config} {start state after : State} {events : List Event}
    {event : Event} (watch : Watch config start events state)
    (run : Run (Steps config) start events state) (stepped : Steps config state event after) :
    Watch config start (events ++ [event]) after := by
  cases step_moves stepped with
  | decides decides is =>
      rw [is]
      exact watch.decided run decides
  | same same reading =>
      refine ⟨fun auto set => ?_, fun settling => ?_, fun fresh => ?_⟩
      · rw [same.condSince] at set
        obtain ⟨night, active, waited⟩ := watch.waited (same.automatic.symm.trans auto) set
        refine ⟨night, same.active.trans active, ?_⟩
        rw [same.condSince]
        exact waited.goes_on (.of_same stepped ⟨same.mode, same.nightEv, same.dayEv⟩ auto active
          fun ev now is reads => (reading ev now is reads).elim)
      · rw [same.settling] at settling
        exact same.condSince.trans (watch.settling settling)
      · rw [same.active] at fresh
        exact same.condSince.trans (watch.fresh fresh)
  | restarts active condSince settling switchedAt =>
      exact ⟨fun _ set => absurd condSince set, fun _ => condSince, fun _ => condSince⟩
  | chosen mode active condSince settling switchedAt =>
      refine ⟨fun auto => absurd (auto.symm.trans mode) (by decide), fun settles => ?_,
        fun fresh => absurd fresh active⟩
      rw [settling] at settles
      exact condSince.trans (watch.settling settles)

theorem reached_watch {config : Config} {settings : Settings} {clock wall : Nat}
    {events : List Event} {state : State}
    (run : Run (Steps config) (State.initial settings clock wall) events state) :
    Watch config (State.initial settings clock wall) events state :=
  run.preserves_history ⟨fun _ set => absurd rfl set, fun _ => rfl, fun _ => rfl⟩
    fun _ _ _ _ before watch stepped => watch.step before stepped

theorem reached_timely {config : Config} {settings : Settings} {clock wall : Nat}
    (positive : 0 < clock) {events : List Event} {state : State}
    (run : Run (Steps config) (State.initial settings clock wall) events state) : Timely state :=
  run.preserves (fun _ _ _ timely stepped => timely.step stepped)
    ⟨positive, Nat.zero_le _, Nat.zero_le _, fun _ reads => by cases reads⟩

/-! ### The hold -/

/-- The start has settled. -/
def Settled (state : State) : Prop :=
  state.engine.activeNight ≠ none ∧ state.engine.autoSettling = false

theorem NightCase.settled {config : Config} {e : Engine} {now : Nat} {choice : Choice}
    (is : NightCase config e now choice) (active : e.activeNight ≠ none)
    (settled : e.autoSettling = false) :
    choice.autoSettling = false ∧ choice.startedDay = false := by
  cases is with
  | chosen mode night => exact ⟨settled, rfl⟩
  | holds auto failed => exact ⟨settled, rfl⟩
  | settles auto valid started =>
      rcases started with fresh | settling
      · exact absurd fresh active
      · exact absurd (settling.symm.trans settled) (by decide)
  | follows auto valid night active settled =>
      unfold Engine.follow
      split
      · exact ⟨settled, rfl⟩
      · exact ⟨settled, rfl⟩

theorem Settled.step {config : Config} {state after : State} {event : Event}
    (settled : Settled state) (stepped : Steps config state event after) : Settled after := by
  cases step_moves stepped with
  | same same => exact ⟨by rw [same.active]; exact settled.1, same.settling.trans settled.2⟩
  | restarts active condSince settling switchedAt =>
      exact ⟨by rw [active]; exact settled.1, settling.trans settled.2⟩
  | chosen mode active condSince settling switchedAt =>
      exact ⟨active, settling.trans settled.2⟩
  | @decides e now decides is =>
      have same := decides.same
      have choice := night_case config e (localMinutes e.controls.settings state.time) now
      have quiet := choice.settled (by rw [same.active]; exact settled.1)
        (same.settling.trans settled.2)
      rw [is]
      exact ⟨Option.some_ne_none _, quiet.1⟩

/-- The last switch was at this time or later, and no start is settling. -/
structure Holds (since : Nat) (state : State) : Prop where
  timely : Timely state
  settled : Settled state
  held : since ≤ state.engine.switchedAt

theorem Holds.step {config : Config} {since : Nat} {state after : State} {event : Event}
    (holds : Holds since state) (stepped : Steps config state event after) : Holds since after := by
  refine ⟨holds.timely.step stepped, holds.settled.step stepped, ?_⟩
  cases step_moves stepped with
  | same same =>
      rw [same.switchedAt]
      exact holds.held
  | restarts active condSince settling switchedAt =>
      rw [switchedAt]
      exact holds.held
  | chosen mode active condSince settling switchedAt =>
      rw [switchedAt]
      exact holds.held
  | @decides e now decides is =>
      have same := decides.same
      have choice := night_case config e (localMinutes e.controls.settings state.time) now
      have quiet := choice.settled (by rw [same.active]; exact holds.settled.1)
        (same.settling.trans holds.settled.2)
      have before : since ≤ e.switchedAt := by
        rw [same.switchedAt]
        exact holds.held
      have come := (holds.timely.decides decides).2.2.2
      rw [is]
      unfold State.decided Engine.decided
      dsimp only
      rw [quiet.2, if_neg Bool.false_ne_true]
      split
      · exact before
      · exact before.trans come

/-- A switch after the start is due. -/
theorem Switches.due {config : Config} {e : Engine} {now : Nat} {night : Bool}
    (switches : Switches config e now night) (settled : e.autoSettling = false) :
    e.evValid = true ∧ e.due config (!night) now = true := by
  have choice := autoNight_case config now switches.auto
  have after := switches.after
  generalize e.autoNight config now = chosen at choice after
  cases choice with
  | chosen mode _ => exact absurd (switches.auto.symm.trans mode) (by decide)
  | holds auto failed =>
      have stays : (e.keep (e.activeNight.getD false)).night = !night := by
        rw [switches.before]
        rfl
      exact absurd (after.symm.trans stays) (by cases night <;> decide)
  | settles auto valid started =>
      rcases started with fresh | settling
      · exact absurd (fresh.symm.trans switches.before) (Option.some_ne_none _).symm
      · exact absurd (settling.symm.trans settled) (by decide)
  | follows auto valid other active _ =>
      have is : other = !night := Option.some.inj (active.symm.trans switches.before)
      rw [is] at after
      refine ⟨valid, ?_⟩
      cases due : e.due config (!night) now with
      | true => rfl
      | false =>
          have stays : (e.follow config (!night) now).night = !night := by
            rw [Engine.follow, if_neg (by rw [due]; decide)]
          exact absurd (after.symm.trans stays) (by cases night <;> decide)

/-- A switch after the start, or the start's own to night, leaves the start settled. -/
theorem Switches.settles {config : Config} {e : Engine} {now : Nat} {night : Bool}
    (switches : Switches config e now night) (spent : e.autoSettling = false ∨ night = true) :
    (e.autoNight config now).startedDay = false ∧ (e.autoNight config now).autoSettling = false := by
  have choice := autoNight_case config now switches.auto
  have active : e.activeNight ≠ none := by
    rw [switches.before]
    exact Option.some_ne_none _
  rcases spent with settled | dark
  · exact (choice.settled active settled).symm
  · have after := switches.after
    generalize e.autoNight config now = chosen at choice after
    cases choice with
    | chosen mode _ => exact absurd (switches.auto.symm.trans mode) (by decide)
    | holds auto failed =>
        have stays : (e.keep (e.activeNight.getD false)).night = !night := by
          rw [switches.before]
          rfl
        exact absurd (after.symm.trans stays) (by cases night <;> decide)
    | settles auto valid started =>
        rw [dark] at after
        exact settle_dark after
    | follows auto valid other active settled =>
        exact ((NightCase.follows auto valid other active settled).settled
          (by rw [active]; exact Option.some_ne_none _) settled).symm

theorem Switches.holds {config : Config} {state after : State} {event : Event} {e : Engine}
    {now : Nat} {night : Bool} (timely : Timely state) (stepped : Steps config state event after)
    (decides : Decides config state event e now) (switches : Switches config e now night)
    (spent : state.engine.autoSettling = false ∨ night = true) : Holds now after := by
  have same := decides.same
  have chosen := night_auto config (localMinutes e.controls.settings state.time) now switches.auto
  have quiet := switches.settles (spent.imp_left fun settled => same.settling.trans settled)
  have changed : some night ≠ e.activeNight := by
    rw [switches.before]
    cases night <;> decide
  refine ⟨timely.step stepped, ?_, ?_⟩
  · rw [decides.after stepped]
    refine ⟨Option.some_ne_none _, ?_⟩
    show (e.night config (localMinutes e.controls.settings state.time) now).autoSettling = false
    rw [chosen]
    exact quiet.2
  · rw [decides.after stepped]
    unfold State.decided Engine.decided
    dsimp only
    rw [chosen, quiet.1, switches.after, if_neg Bool.false_ne_true, if_neg changed]

/-- An automatic switch of a run, with no start settling, is made on a valid reading that asks
for it, at the end of a wait in automatic mode in which every reading that succeeded asked
for it, and after the hold of every earlier one. The start does not settle again. -/
theorem automatic_switch_waits {config : Config} {settings : Settings} {clock wall : Nat}
    (positive : 0 < clock) {events : List Event} {state after : State}
    (run : Run (Steps config) (State.initial settings clock wall) events state)
    {event : Event} (stepped : Steps config state event after) {e : Engine} {now : Nat}
    (decides : Decides config state event e now) {night : Bool}
    (switches : Switches config e now night) (settled : state.engine.autoSettling = false) :
    after.engine.activeNight = some night ∧
    (e.evValid = true ∧ asks e.controls.settings night e.ev = true) ∧
    (∃ since, Waited config (State.initial settings clock wall) night since (events ++ [event])
        after ∧
      since + e.controls.settings.waitS.toNat * 1000000 ≤ now) ∧
    (∀ (earlier later : List Event) (before between : State) (old : Event) (e' : Engine)
        (then_ : Nat) (night' : Bool),
      Run (Steps config) (State.initial settings clock wall) earlier before →
      Steps config before old between → Run (Steps config) between later state →
      Decides config before old e' then_ → Switches config e' then_ night' →
      before.engine.autoSettling = false ∨ night' = true →
      then_ + config.autoHoldUs ≤ now) ∧
    ∀ (later : List Event) (final : State), Run (Steps config) after later final →
      final.engine.autoSettling = false := by
  have same := decides.same
  have settledNow : e.autoSettling = false := same.settling.trans settled
  obtain ⟨valid, due⟩ := switches.due settledNow
  have is := decides.after stepped
  have wanted : e.want (!night) = true ∧
      e.controls.settings.waitS.toNat * 1000000 ≤ now - e.since (!night) now ∧
      (e.switchedAt = 0 ∨ config.autoHoldUs ≤ now - e.switchedAt) := by
    simpa [Engine.due, and_assoc] using due
  have asked : asks e.controls.settings night e.ev = true := by
    rw [← wanted.1, want_eq, Bool.not_not]
  have timely := reached_timely positive run
  obtain ⟨-, -, counted, switched⟩ := timely.decides decides
  have waiting := decides.waiting switches.auto switches.before fun _ => asked
  rw [← is] at waiting
  have chosen := night_auto config (localMinutes e.controls.settings state.time) now switches.auto
  refine ⟨?_, ⟨valid, asked⟩, ?_, ?_, ?_⟩
  · rw [is]
    show some (e.night config (localMinutes e.controls.settings state.time) now).night = _
    rw [chosen, switches.after]
  · have long := wanted.2.1
    have since : e.since (!night) now = if e.condSince = 0 then now else e.condSince :=
      if_pos wanted.1
    rw [since] at long
    by_cases begins : e.condSince = 0
    · rw [if_pos begins] at long
      exact ⟨now, .begins run decides valid asked waiting, by omega⟩
    · rw [if_neg begins] at long
      have set : state.engine.condSince ≠ 0 := by
        rw [← same.condSince]
        exact begins
      obtain ⟨mode, active, waited⟩ := (reached_watch run).waited
        (same.automatic.symm.trans switches.auto) set
      have same_mode : mode = night := by
        have both := Option.some.inj (active.symm.trans (same.active.symm.trans switches.before))
        simpa using both
      rw [same_mode] at waited
      rw [same.condSince] at long counted
      exact ⟨state.engine.condSince, waited.goes_on waiting, by omega⟩
  · intro earlier later before between old e' then_ night' run' stepped' later' decides' switches'
      spent
    have timely' := reached_timely positive run'
    have past := (timely'.decides decides').1
    have holds : Holds then_ state := later'.preserves
      (fun _ _ _ holds stepped => holds.step stepped) (switches'.holds timely' stepped' decides' spent)
    have held := holds.held
    rw [← same.switchedAt] at held
    rcases wanted.2.2 with never | long
    · omega
    · omega
  · intro later final run'
    have start : Settled after := (switches.holds timely stepped decides (.inl settled)).settled
    exact (run'.preserves (fun _ _ _ settled stepped => settled.step stepped) start).2

/-- Automatic mode with a wait of sixty seconds, and a camera that has an exposure report. -/
def dusk : Settings := { Settings.defaults with nightMode := 2 }

def reporting : Config := ⟨300000000, 10000000, true, false⟩

def dawn : State := State.initial dusk 1000000 0

/-- A light start, and darkness after it. -/
def nightfall : List Event :=
  [.tick none, .read (some 10000), .passes 10000000, .tick none, .read (some 10000),
    .passes 5000000, .tick none, .read (some 40000)]

def after (events : List Event) : State := events.foldl (step reporting) dawn

theorem after_runs (events : List Event) : Run (Steps reporting) dawn events (after events) := by
  have run : ∀ (start : State) (events : List Event),
      Run (Steps reporting) start events (events.foldl (step reporting) start) := by
    intro start events
    induction events generalizing start with
    | nil => exact .nil start
    | cons event events inductionHypothesis => exact .cons rfl (inductionHypothesis _)
  exact run dawn events

def reads (ev : Option Int) : List Event := nightfall ++ [.passes 5000000, .tick none, .read ev]

/-- Night comes after a minute of dark readings. -/
theorem night_after_minute :
    let last := reads (some 40000) ++ [.passes 55000000, .tick none]
    ∃ since, Waited reporting dawn true since (last ++ [.read (some 40000)])
      (after (last ++ [.read (some 40000)])) ∧ since + 60000000 ≤ 76000000 := by
  intro last
  have reading : (after last).reading = some 76000000 := by decide +kernel
  have decides : Decides reporting (after last) (.read (some 40000)) _ 76000000 := .read reading
  have stepped : Steps reporting (after last) (.read (some 40000))
      (after (last ++ [.read (some 40000)])) := by
    unfold Steps after
    rw [List.foldl_append]
    rfl
  have switches : Switches reporting ((after last).engine.noted (some 40000)) 76000000 true :=
    ⟨by decide +kernel, by decide +kernel, by decide +kernel⟩
  have settled : (after last).engine.autoSettling = false := by decide +kernel
  have wait : ((after last).engine.noted (some 40000)).controls.settings.waitS.toNat * 1000000 =
      60000000 := by decide +kernel
  obtain ⟨since, waited, long⟩ := (automatic_switch_waits (show 0 < 1000000 by decide)
    (after_runs last) stepped decides switches settled).2.2.1
  rw [wait] at long
  exact ⟨since, waited, long⟩

/-- A reading that failed in the middle of the wait changes nothing. -/
theorem night_despite_failure :
    let failed := reads none
    let last := failed ++ [.passes 55000000, .tick none]
    (after nightfall).engine.condSince = 16000000 ∧
      (after nightfall).engine.activeNight = some false ∧
      (after failed).engine.evValid = false ∧ (after failed).clock = 21000000 ∧
      (after failed).engine.activeNight = some false ∧
      (after (last ++ [.read (some 40000)])).engine.activeNight = some true ∧
      (after (last ++ [.read (some 40000)])).clock = 76000000 := by
  decide +kernel

end JooanW3U.Media.ControlsEngine

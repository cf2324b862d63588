import JooanW3U.Media.Engine
import Mathlib.Tactic.Ring

/-!
Owns the edges of the daily windows and the overrides that last until one. Main result:
what a window answers stays the same up to the next boundary and changes there, and a
manual change is overridden until then.

Does not own what privacy mode or the white light do once they are decided.
-/

namespace JooanW3U.Media.ControlsEngine

open JooanW3U.Library

/-- Two different minutes of the day. -/
structure Window (start stop : Int) : Prop where
  startDay : 0 ≤ start ∧ start < 1440
  stopDay : 0 ≤ stop ∧ stop < 1440
  differ : start ≠ stop

/-! ### The time of the day -/

/-- The C remainder brought into the range of a divisor. -/
theorem tmod_floored (value : Int) {divisor : Int} (positive : 0 < divisor) :
    (if value.tmod divisor < 0 then value.tmod divisor + divisor else value.tmod divisor) =
      value % divisor := by
  have low := Int.emod_nonneg value (Int.ne_of_gt positive)
  have high := Int.emod_lt_of_pos value positive
  by_cases exactly : 0 ≤ value ∨ divisor ∣ value
  · rw [Int.tmod_eq_emod, if_pos exactly]
    split <;> omega
  · have below : value % divisor ≠ 0 := fun zero =>
      exactly (.inr (Int.dvd_of_emod_eq_zero zero))
    rw [Int.tmod_eq_emod, if_neg exactly]
    split <;> omega

theorem secondsToday_eq (s : Settings) (time : Nat) :
    secondsToday s time = ((time : Int) + s.utcOffsetMin * 60) % 86400 :=
  tmod_floored _ (by decide)

theorem localMinutes_eq (s : Settings) (time : Nat) :
    localMinutes s time = secondsToday s time / 60 := by
  have floored : localMinutes s time = (((time / 60 : Nat) : Int) + s.utcOffsetMin) % 1440 :=
    tmod_floored _ (by decide)
  rw [floored, secondsToday_eq]
  omega

theorem secondsToday_day (s : Settings) (time : Nat) :
    0 ≤ secondsToday s time ∧ secondsToday s time < 86400 := by
  rw [secondsToday_eq]
  omega

theorem secondsToday_add (s : Settings) (time later : Nat) :
    secondsToday s (time + later) = (secondsToday s time + later) % 86400 := by
  rw [secondsToday_eq, secondsToday_eq]
  omega

/-! ### The next edge -/

/-- The edge comes after the wait, and not before. -/
theorem edgeWait_spec {today edge : Int} (day : 0 ≤ today ∧ today < 86400)
    (minute : 0 ≤ edge ∧ edge < 1440) :
    0 < edgeWait today edge ∧ edgeWait today edge ≤ 86400 ∧
      (today + edgeWait today edge) % 86400 = edge * 60 ∧
      ∀ later, 0 < later → later < edgeWait today edge → (today + later) % 86400 ≠ edge * 60 := by
  unfold edgeWait
  split
  · refine ⟨by omega, by omega, by omega, fun later after before => by omega⟩
  · refine ⟨by omega, by omega, by omega, fun later after before => by omega⟩

/-- The answer of a window by the second of the day. -/
theorem inWindow_seconds {start stop : Int} (window : Window start stop) (seconds : Int) :
    inWindow (seconds / 60) start stop = true ↔
      if start < stop then start * 60 ≤ seconds ∧ seconds < stop * 60
      else start * 60 ≤ seconds ∨ seconds < stop * 60 := by
  unfold inWindow
  rw [if_neg window.differ]
  split
  · rw [decide_eq_true_iff]
    omega
  · rw [decide_eq_true_iff]
    omega

/-- Away from its edges a window answers as it did a second before. -/
theorem inWindow_steady {start stop : Int} (window : Window start stop) {seconds next : Int}
    (day : 0 ≤ seconds ∧ seconds < 86400) (follows : next = (seconds + 1) % 86400)
    (away : next ≠ start * 60 ∧ next ≠ stop * 60) :
    inWindow (next / 60) start stop = inWindow (seconds / 60) start stop := by
  have startDay := window.startDay
  have stopDay := window.stopDay
  rw [Bool.eq_iff_iff, inWindow_seconds window, inWindow_seconds window]
  split <;> omega

/-- At an edge a window answers the other way than a second before. -/
theorem inWindow_edge {start stop : Int} (window : Window start stop) {seconds next : Int}
    (day : 0 ≤ seconds ∧ seconds < 86400) (follows : next = (seconds + 1) % 86400)
    (edge : next = start * 60 ∨ next = stop * 60) :
    inWindow (next / 60) start stop = !inWindow (seconds / 60) start stop := by
  have startDay := window.startDay
  have stopDay := window.stopDay
  have differ := window.differ
  cases before : inWindow (seconds / 60) start stop with
  | false =>
      rw [Bool.not_false, inWindow_seconds window]
      rw [← Bool.not_eq_true, inWindow_seconds window] at before
      split at before <;> split <;> omega
  | true =>
      rw [Bool.not_true, ← Bool.not_eq_true, inWindow_seconds window]
      rw [inWindow_seconds window] at before
      split at before <;> split <;> omega

/-- The next boundary is an edge, and no edge comes before it. -/
theorem nextBoundary_spec (s : Settings) (time : Nat) {start stop : Int}
    (window : Window start stop) :
    let wait := nextBoundaryS s time start stop
    let today := secondsToday s time
    0 < wait ∧ wait ≤ 86400 ∧
      ((today + wait) % 86400 = start * 60 ∨ (today + wait) % 86400 = stop * 60) ∧
      ∀ later, 0 < later → later < wait →
        (today + later) % 86400 ≠ start * 60 ∧ (today + later) % 86400 ≠ stop * 60 := by
  have day := secondsToday_day s time
  obtain ⟨startPositive, startWithin, startAt, startNot⟩ := edgeWait_spec day window.startDay
  obtain ⟨stopPositive, stopWithin, stopAt, stopNot⟩ := edgeWait_spec day window.stopDay
  have nearest : nextBoundaryS s time start stop =
      min (edgeWait (secondsToday s time) stop) (edgeWait (secondsToday s time) start) := by
    unfold nextBoundaryS
    rw [min_eq_left startWithin]
  intro wait today
  have is : wait = min (edgeWait today stop) (edgeWait today start) := nearest
  refine ⟨by omega, by omega, ?_, fun later after before => ?_⟩
  · rcases min_choice (edgeWait today stop) (edgeWait today start) with first | first
    · right
      rw [is, first]
      exact stopAt
    · left
      rw [is, first]
      exact startAt
  · exact ⟨startNot later after (by omega), stopNot later after (by omega)⟩

/-- Up to the next boundary the answer of a window stays. -/
theorem window_steady (s : Settings) (time : Nat) {start stop : Int} (window : Window start stop)
    (later : Nat) (before : (later : Int) < nextBoundaryS s time start stop) :
    inWindow (localMinutes s (time + later)) start stop =
      inWindow (localMinutes s time) start stop := by
  induction later with
  | zero => rfl
  | succ later inductionHypothesis =>
      have away := (nextBoundary_spec s time window).2.2.2 (later + 1) (by omega) (by omega)
      have steady := inductionHypothesis (by omega)
      have follows : secondsToday s (time + (later + 1)) =
          (secondsToday s (time + later) + 1) % 86400 := secondsToday_add s (time + later) 1
      rw [localMinutes_eq] at steady ⊢
      rw [← steady]
      refine inWindow_steady window (secondsToday_day s (time + later)) follows ?_
      rw [secondsToday_add]
      exact away

/-- At the next boundary it changes. -/
theorem window_changes (s : Settings) (time : Nat) {start stop : Int} (window : Window start stop) :
    inWindow (localMinutes s (time + (nextBoundaryS s time start stop).toNat)) start stop =
      !inWindow (localMinutes s time) start stop := by
  obtain ⟨positive, within, edge, -⟩ := nextBoundary_spec s time window
  obtain ⟨last, is⟩ : ∃ last : Nat, (nextBoundaryS s time start stop).toNat = last + 1 :=
    ⟨(nextBoundaryS s time start stop).toNat - 1, by omega⟩
  have steady := window_steady s time window last (by omega)
  have follows : secondsToday s (time + (last + 1)) =
      (secondsToday s (time + last) + 1) % 86400 := secondsToday_add s (time + last) 1
  have wait : nextBoundaryS s time start stop = ((last + 1 : Nat) : Int) := by omega
  rw [is]
  rw [localMinutes_eq] at steady ⊢
  rw [← steady]
  refine inWindow_edge window (secondsToday_day s (time + last)) follows ?_
  rw [secondsToday_add, ← wait]
  exact edge

/-! ### Overrides -/

/-- Privacy as it is wanted now. -/
def State.privacy (state : State) : Bool :=
  Privacy.privacyWanted state.engine.controls state.settings
    (localMinutes state.settings state.time) state.clock

/-- The white light as it would be switched now. -/
def State.light (state : State) : Int :=
  (state.engine.white (localMinutes state.settings state.time) state.clock).1

/-- A trigger or a strobe runs, which comes before any override. -/
def State.flashes (state : State) : Bool :=
  (state.engine.strobeUntil ≠ 0 && state.clock < state.engine.strobeUntil) ||
    (state.engine.triggerUntil ≠ 0 && state.clock < state.engine.triggerUntil)

/-- A step that changes no setting, sets no clock and is no manual change. -/
def Undisturbed (config : Config) (state : State) (event : Event) (after : State) : Prop :=
  Steps config state event after ∧ after.settings = state.settings ∧
    match event with
    | .passes _ | .tick _ | .read _ | .trigger _ | .strobe _ => True
    | .setsWall _ | .patch _ | .note _ _ _ => False

theorem passes_undisturbed (config : Config) (state : State) (us : Nat) :
    Undisturbed config state (.passes us) (step config state (.passes us)) :=
  ⟨rfl, rfl, trivial⟩

/-- No reading began in the future. -/
def Punctual (state : State) : Prop := ∀ now, state.reading = some now → now ≤ state.clock

/-- What undisturbed steps leave of an override. -/
structure Awaits (start state : State) : Prop where
  elapsed : ∃ us, state.clock = start.clock + us ∧ state.wall = start.wall + us
  settings : state.settings = start.settings
  privacy : state.engine.controls.privacyOverride = start.engine.controls.privacyOverride
  privacyUntil : state.engine.controls.overrideUntil = start.engine.controls.overrideUntil
  light : state.engine.wlOverride = start.engine.wlOverride
  lightUntil : state.engine.wlOverrideUntil = start.engine.wlOverrideUntil ∨
    (state.engine.wlOverrideUntil = 0 ∧ start.engine.wlOverrideUntil ≤ state.clock)
  punctual : Punctual state

/-- The decision on the light drops an override that is over, and changes no other. -/
theorem white_override (e : Engine) (minutes : Int) (now : Nat) :
    (e.white minutes now).2.wlOverride = e.wlOverride ∧
      ((e.white minutes now).2.wlOverrideUntil = e.wlOverrideUntil ∨
        ((e.white minutes now).2.wlOverrideUntil = 0 ∧ e.wlOverrideUntil ≤ now)) := by
  unfold Engine.white
  split
  · exact ⟨rfl, .inl rfl⟩
  · split
    · exact ⟨rfl, .inl rfl⟩
    · split
      · exact ⟨rfl, .inl rfl⟩
      · rename_i running
        split
        · rename_i scheduled
          refine ⟨rfl, ?_⟩
          by_cases unset : e.wlOverrideUntil = 0
          · exact .inl unset.symm
          · exact .inr ⟨rfl, Nat.le_of_not_lt fun before => running ⟨scheduled, unset, before⟩⟩
        · exact ⟨rfl, .inl rfl⟩

/-- A decision at a time that has come, by an engine with the same overrides. -/
theorem Awaits.decided {config : Config} {start state : State} (awaits : Awaits start state)
    {e : Engine} {now : Nat} (come : now ≤ state.clock)
    (privacy : e.controls.privacyOverride = state.engine.controls.privacyOverride)
    (privacyUntil : e.controls.overrideUntil = state.engine.controls.overrideUntil)
    (light : e.wlOverride = state.engine.wlOverride)
    (lightUntil : e.wlOverrideUntil = state.engine.wlOverrideUntil)
    (same : (state.decided config e now).settings = state.settings) :
    Awaits start (state.decided config e now) := by
  obtain ⟨kept, untilKept⟩ := white_override e (localMinutes e.controls.settings state.time) now
  refine ⟨awaits.elapsed, same.trans awaits.settings, privacy.trans awaits.privacy,
    privacyUntil.trans awaits.privacyUntil, (kept.trans light).trans awaits.light, ?_,
    fun _ reads => by cases reads⟩
  rcases untilKept with stays | ⟨dropped, past⟩
  · rw [lightUntil] at stays
    rcases awaits.lightUntil with is | spent
    · exact .inl (stays.trans is)
    · exact .inr ⟨stays.trans spent.1, spent.2⟩
  · rw [lightUntil] at past
    rcases awaits.lightUntil with is | spent
    · exact .inr ⟨dropped, is ▸ past.trans come⟩
    · exact .inr ⟨dropped, spent.2⟩

theorem Awaits.step {config : Config} {start state after : State} {event : Event}
    (awaits : Awaits start state) (quiet : Undisturbed config state event after) :
    Awaits start after := by
  obtain ⟨rfl, same, calm⟩ := quiet
  obtain ⟨us, clock, wall⟩ := awaits.elapsed
  cases event with
  | setsWall wall => exact calm.elim
  | patch text => exact calm.elim
  | note operation value value2 => exact calm.elim
  | passes later =>
      refine ⟨⟨us + later, ?_, ?_⟩, awaits.settings, awaits.privacy, awaits.privacyUntil,
        awaits.light, ?_, fun now reads => ?_⟩
      · show state.clock + later = _
        omega
      · show state.wall + later = _
        omega
      · exact awaits.lightUntil.imp_right fun spent => ⟨spent.1, Nat.le_add_right_of_le spent.2⟩
      · exact Nat.le_add_right_of_le (awaits.punctual now reads)
  | trigger later =>
      exact ⟨awaits.elapsed, awaits.settings, awaits.privacy, awaits.privacyUntil, awaits.light,
        awaits.lightUntil, awaits.punctual⟩
  | strobe later =>
      exact ⟨awaits.elapsed, awaits.settings, awaits.privacy, awaits.privacyUntil, awaits.light,
        awaits.lightUntil, awaits.punctual⟩
  | tick vendor =>
      cases reads : state.reading with
      | some now =>
          rw [step_tick_waits reads]
          exact awaits
      | none =>
          rw [step_tick reads] at same ⊢
          unfold State.tick State.proceeds at same ⊢
          split
          · rename_i reads
            rw [if_pos reads] at same
            exact ⟨awaits.elapsed, same.trans awaits.settings, awaits.privacy, awaits.privacyUntil,
              awaits.light, awaits.lightUntil, fun now is => Nat.le_of_eq (Option.some.inj is).symm⟩
          · rename_i decides
            rw [if_neg decides] at same
            exact awaits.decided (Nat.le_refl _) rfl rfl rfl rfl same
  | read ev =>
      cases reads : state.reading with
      | none =>
          rw [step_read_idle reads]
          exact awaits
      | some now =>
          rw [step_read reads] at same ⊢
          exact awaits.decided (awaits.punctual now reads) rfl rfl rfl rfl same

theorem Awaits.run {config : Config} {start final : State} {events : List Event}
    (run : Run (Undisturbed config) start events final) (punctual : Punctual start) :
    Awaits start final :=
  run.preserves (fun _ _ _ awaits quiet => awaits.step quiet)
    ⟨⟨0, rfl, rfl⟩, rfl, rfl, rfl, rfl, .inl rfl, punctual⟩

/-- A second of the wall clock with the fraction that the clock had. -/
def State.second (state : State) (time : Nat) : Nat := time * 1000000 + state.wall % 1000000

/-- Both clocks reach a wait together. -/
theorem Awaits.reached {start state : State} (awaits : Awaits start state) (wait : Nat) :
    state.clock < start.clock + wait * 1000000 ↔ state.wall < start.second (start.time + wait) := by
  obtain ⟨us, clock, wall⟩ := awaits.elapsed
  unfold State.second State.time
  omega

theorem Awaits.privacy_lasts {start state : State} (awaits : Awaits start state) {wait : Nat}
    (waits : 0 < wait)
    (lasts : start.engine.controls.overrideUntil = start.clock + wait * 1000000)
    (scheduled : start.settings.privacySchedule ≠ 0) :
    state.privacy =
      if state.wall < start.second (start.time + wait) then
        start.engine.controls.privacyOverride
      else
        inWindow (localMinutes start.settings state.time) start.settings.privacyFrom
          start.settings.privacyUntil := by
  have set : state.engine.controls.overrideUntil ≠ 0 := by
    rw [awaits.privacyUntil, lasts]
    omega
  unfold State.privacy Privacy.privacyWanted
  rw [awaits.settings, awaits.privacy, if_pos scheduled]
  refine if_congr ?_ rfl rfl
  rw [awaits.privacyUntil, lasts] at set ⊢
  exact (and_iff_right set).trans (awaits.reached wait)

theorem Awaits.light_lasts {start state : State} (awaits : Awaits start state) {wait : Nat}
    (waits : 0 < wait)
    (lasts : start.engine.wlOverrideUntil = start.clock + wait * 1000000)
    (scheduled : start.settings.wlSchedule ≠ 0) (dark : state.flashes = false) :
    state.light =
      if state.wall < start.second (start.time + wait) then start.engine.wlOverride
      else if inWindow (localMinutes start.settings state.time) start.settings.wlFrom
        start.settings.wlUntil then 1 else 0 := by
  have still : ¬(state.engine.strobeUntil ≠ 0 ∧ state.clock < state.engine.strobeUntil) ∧
      ¬(state.engine.triggerUntil ≠ 0 ∧ state.clock < state.engine.triggerUntil) := by
    simpa [State.flashes] using dark
  have same : state.engine.controls.settings = start.settings := awaits.settings
  have reached := awaits.reached wait
  rw [← lasts] at reached
  unfold State.light Engine.white
  rw [if_neg still.1, if_neg still.2, same, awaits.settings]
  by_cases running : state.clock < start.engine.wlOverrideUntil
  · have held : state.engine.wlOverrideUntil = start.engine.wlOverrideUntil :=
      awaits.lightUntil.resolve_right fun spent => absurd spent.2 (Nat.not_le_of_gt running)
    have set : start.engine.wlOverrideUntil ≠ 0 := by
      rw [lasts]
      omega
    rw [held, if_pos ⟨scheduled, set, running⟩, if_pos (reached.mp running)]
    exact awaits.light
  · have spent : ¬(start.settings.wlSchedule ≠ 0 ∧ state.engine.wlOverrideUntil ≠ 0 ∧
        state.clock < state.engine.wlOverrideUntil) := by
      rintro ⟨-, set, before⟩
      rcases awaits.lightUntil with is | dropped
      · rw [is] at before
        exact running before
      · exact set dropped.1
    rw [if_neg spent, if_pos scheduled, if_neg (mt reached.mpr running)]

theorem punctual_initial (settings : Settings) (clock wall : Nat) :
    Punctual (State.initial settings clock wall) :=
  fun _ reads => by cases reads

theorem Punctual.decided {config : Config} {state : State} {e : Engine} {now : Nat} :
    Punctual (state.decided config e now) :=
  fun _ reads => by cases reads

theorem Punctual.step {config : Config} {state after : State} {event : Event}
    (punctual : Punctual state) (stepped : Steps config state event after) : Punctual after := by
  subst stepped
  cases event with
  | passes us => exact fun now reads => Nat.le_add_right_of_le (punctual now reads)
  | setsWall wall => exact punctual
  | patch text =>
      cases applied : state.engine.patch text state.clock state.time with
      | ok engine =>
          rw [step_patch applied]
          exact punctual
      | error message =>
          rw [step_patch_rejected applied]
          exact punctual
  | note operation value value2 => exact punctual
  | trigger us => exact punctual
  | strobe us => exact punctual
  | tick vendor =>
      cases reads : state.reading with
      | some now =>
          rw [step_tick_waits reads]
          exact punctual
      | none =>
          rw [step_tick reads]
          unfold State.tick State.proceeds
          split
          · exact fun now is => Nat.le_of_eq (Option.some.inj is).symm
          · exact Punctual.decided
  | read ev =>
      cases reads : state.reading with
      | none =>
          rw [step_read_idle reads]
          exact punctual
      | some now =>
          rw [step_read reads]
          exact Punctual.decided

theorem reached_punctual {config : Config} {settings : Settings} {clock wall : Nat}
    {events : List Event} {state : State}
    (run : Run (Steps config) (State.initial settings clock wall) events state) : Punctual state :=
  run.preserves (fun _ _ _ punctual stepped => punctual.step stepped)
    (punctual_initial settings clock wall)

theorem boundary_positive (s : Settings) (time : Nat) {start stop : Int}
    (window : Window start stop) : 0 < (nextBoundaryS s time start stop).toNat := by
  have positive := (nextBoundary_spec s time window).1
  omega

/-- Privacy by a patch, with its schedule on. -/
theorem privacy_override {config : Config} {state : State} (punctual : Punctual state)
    {text : List Char} {root : Json} {next : Settings} (parsed : Json.parse text = some root)
    (object : root.isObject = true) (applied : Media.patch root state.settings = .ok next)
    (given : ((root.get? "privacy".toList).bind fun privacy => privacy.get? "on".toList).isSome = true)
    (scheduled : next.privacySchedule ≠ 0) (window : Window next.privacyFrom next.privacyUntil)
    {events : List Event} {final : State}
    (run : Run (Undisturbed config) (step config state (.patch text)) events final) :
    final.privacy =
      if final.wall < state.second (state.time +
          (nextBoundaryS next state.time next.privacyFrom next.privacyUntil).toNat) then
        decide (next.privacyOn ≠ 0)
      else inWindow (localMinutes next final.time) next.privacyFrom next.privacyUntil := by
  have accepted : state.engine.patch text state.clock state.time =
      .ok (state.engine.patched root next state.clock state.time) := by
    unfold State.settings at applied
    simp only [Engine.patch, parsed, object, applied, if_true]
    rfl
  have overrides : (state.engine.patched root next state.clock state.time).controls =
      { state.engine.controls with
        applyPicture := (state.engine.patched root next state.clock state.time).controls.applyPicture
        settings := { next with privacyOn := state.engine.controls.settings.privacyOn }
        privacyOverride := next.privacyOn ≠ 0
        overrideUntil := state.clock +
          (nextBoundaryS next state.time next.privacyFrom next.privacyUntil).toNat * 1000000 } := by
    simp only [Engine.patched, Controls.patched, given, scheduled, ne_eq, not_false_eq_true,
      and_self, if_true]
  rw [step_patch accepted] at run
  have awaits := Awaits.run run punctual
  have settings : (state.engine.patched root next state.clock state.time).controls.settings =
      { next with privacyOn := state.engine.controls.settings.privacyOn } := by rw [overrides]
  have lasts := awaits.privacy_lasts (boundary_positive next state.time window)
    (by rw [overrides]) (by rw [State.settings, settings]; exact scheduled)
  rw [lasts, State.settings, settings, overrides]
  rfl

/-- The white light by a manual control, with its schedule on. -/
theorem light_override {config : Config} {state : State} (punctual : Punctual state) {value : Int}
    (value2 : Int) (scheduled : state.settings.wlSchedule ≠ 0)
    (window : Window state.settings.wlFrom state.settings.wlUntil)
    {events : List Event} {final : State}
    (run : Run (Undisturbed config) (step config state (.note .whiteLight value value2)) events final)
    (dark : final.flashes = false) :
    final.light =
      if final.wall < state.second (state.time +
          (nextBoundaryS state.settings state.time state.settings.wlFrom
            state.settings.wlUntil).toNat) then value
      else if inWindow (localMinutes state.settings final.time) state.settings.wlFrom
        state.settings.wlUntil then 1 else 0 := by
  have awaits := Awaits.run run punctual
  have unchanged : (step config state (.note .whiteLight value value2)).settings = state.settings := by
    show Settings.note state.settings .whiteLight value value2 = state.settings
    exact if_pos scheduled
  have overrides : (step config state (.note .whiteLight value value2)).engine.wlOverride = value :=
    if_pos scheduled
  have lasts := awaits.light_lasts (boundary_positive state.settings state.time window)
    (if_pos scheduled) (by rw [unchanged]; exact scheduled) dark
  rw [lasts, unchanged, overrides]
  rfl

/-- A window answers the same up to its next boundary and the other way there. A manual
change of privacy by a patch, or of the white light by a control, is what counts up to
the second of that boundary, and the schedule counts after it. -/
theorem overrides_last_to_boundary :
    (∀ (s : Settings) (time : Nat) (start stop : Int), Window start stop →
      (∀ later : Nat, (later : Int) < nextBoundaryS s time start stop →
        inWindow (localMinutes s (time + later)) start stop =
          inWindow (localMinutes s time) start stop) ∧
      inWindow (localMinutes s (time + (nextBoundaryS s time start stop).toNat)) start stop =
        !inWindow (localMinutes s time) start stop) ∧
    ∀ (config : Config) (settings : Settings) (clock wall : Nat) (earlier : List Event)
      (state : State), Run (Steps config) (State.initial settings clock wall) earlier state →
      (∀ (text : List Char) (root : Json) (next : Settings), Json.parse text = some root →
        root.isObject = true → Media.patch root state.settings = .ok next →
        ((root.get? "privacy".toList).bind fun privacy => privacy.get? "on".toList).isSome = true →
        next.privacySchedule ≠ 0 → Window next.privacyFrom next.privacyUntil →
        ∀ (events : List Event) (final : State),
          Run (Undisturbed config) (step config state (.patch text)) events final →
          final.privacy =
            if final.wall < state.second (state.time +
                (nextBoundaryS next state.time next.privacyFrom next.privacyUntil).toNat) then
              decide (next.privacyOn ≠ 0)
            else inWindow (localMinutes next final.time) next.privacyFrom next.privacyUntil) ∧
      ∀ (value value2 : Int), state.settings.wlSchedule ≠ 0 →
        Window state.settings.wlFrom state.settings.wlUntil →
        ∀ (events : List Event) (final : State),
          Run (Undisturbed config) (step config state (.note .whiteLight value value2)) events final →
          final.flashes = false →
          final.light =
            if final.wall < state.second (state.time +
                (nextBoundaryS state.settings state.time state.settings.wlFrom
                  state.settings.wlUntil).toNat) then value
            else if inWindow (localMinutes state.settings final.time) state.settings.wlFrom
              state.settings.wlUntil then 1 else 0 := by
  constructor
  · intro s time start stop window
    exact ⟨window_steady s time window, window_changes s time window⟩
  · intro config settings clock wall earlier state run
    have punctual := reached_punctual run
    constructor
    · intro text root next parsed object applied given scheduled window events final later
      exact privacy_override punctual parsed object applied given scheduled window later
    · intro value value2 scheduled window events final later dark
      exact light_override punctual value2 scheduled window later dark

/-- Privacy from 22:00 to 06:00, and the white light from 19:00 to 23:00. -/
def scheduled : Settings := { Settings.defaults with privacySchedule := 1, wlSchedule := 1 }

def privacyOff : List Char := "\x7b\"privacy\":\x7b\"on\":false\x7d\x7d".toList

def quickly : Config := ⟨0, 0, false, false⟩

theorem privacyOff_parsed : (Json.parse privacyOff).isSome = true := by decide +kernel

/-- At half a second past midnight, and at 06:00 sharp. -/
def midnight : State := State.initial scheduled 5 500000

def morning : State :=
  step quickly (step quickly midnight (.patch privacyOff)) (.passes 21599999999)

/-- Privacy put off just after midnight counts until the second of 06:00. -/
theorem override_until_morning :
    Window 1320 360 ∧ inWindow (localMinutes scheduled midnight.time) 1320 360 = true ∧
      morning.privacy = false := by
  have window : Window 1320 360 := ⟨by decide, by decide, by decide⟩
  have parsed : Json.parse privacyOff = some ((Json.parse privacyOff).get privacyOff_parsed) :=
    (Option.some_get privacyOff_parsed).symm
  have run : Run (Steps quickly) (State.initial scheduled 5 500000) [] midnight := .nil _
  have later : Run (Undisturbed quickly) (step quickly midnight (.patch privacyOff))
      [.passes 21599999999] morning := .singleton (passes_undisturbed ..)
  have lasts := (overrides_last_to_boundary.2 quickly scheduled 5 500000 [] midnight run).1
    privacyOff _ scheduled parsed (by decide +kernel) (by decide +kernel) (by decide +kernel)
    (by decide) window [.passes 21599999999] morning later
  have before : morning.wall < midnight.second (midnight.time +
      (nextBoundaryS scheduled midnight.time scheduled.privacyFrom
        scheduled.privacyUntil).toNat) := by decide +kernel
  rw [if_pos before] at lasts
  exact ⟨window, by decide +kernel, lasts⟩

def lightOn : List Char := "\x7b\"white_light\":\x7b\"on\":true\x7d\x7d".toList

/-- The white light put on by a patch at midnight stays off, as the schedule has it. -/
theorem light_patch_no_override :
    let state := step quickly (State.initial scheduled 5 0) (.patch lightOn)
    state.settings.whiteLight = 1 ∧ state.settings.wlSchedule = 1 ∧
      (state.settings.wlFrom, state.settings.wlUntil) = (1140, 1380) ∧
      state.engine.wlOverrideUntil = 0 ∧ state.light = 0 := by
  decide +kernel

end JooanW3U.Media.ControlsEngine

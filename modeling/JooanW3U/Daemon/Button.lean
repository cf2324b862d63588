import Mathlib.Data.List.Induction
import Mathlib.Data.Int.Notation

/-!
Owns the reset button of the daemon: what one read of its line says, and what the samples
of `button_main` request. Main result: a reset is requested exactly by the twentieth
pressed sample in a row after a released one.

Does not own the reset itself, nor the check for OEM media that can veto it.
-/

namespace JooanW3U.Daemon.Button

/-- What a read of the line gives: its first character, if it can be read. -/
abbrev Reading := Option Char

/-- 1 released, 0 pressed, -1 unreadable. -/
def buttonLevel : Reading → Int
  | some '0' => 0
  | some '1' => 1
  | _ => -1

def holdTicks : Nat := 20

/-- The variables of `button_main`. -/
structure State where
  armed : Bool
  held : Nat
deriving Repr, DecidableEq

def start : State := ⟨false, 0⟩

/-- One pass of the loop: what was read, and whether OEM media runs. -/
structure Sample where
  reading : Reading
  oemRuns : Bool
deriving Repr, DecidableEq

def Sample.level (sample : Sample) : Int := buttonLevel sample.reading

/-- The loop body of `button_main`, with whether it asks for the reset. -/
def tick (state : State) (sample : Sample) : State × Bool :=
  if sample.level ≠ 0 then (⟨sample.level = 1, 0⟩, false)
  else if !state.armed then (state, false)
  else
    let held := state.held + 1
    if held < holdTicks then ({ state with held }, false)
    else (⟨false, 0⟩, !sample.oemRuns)

/-- The state after the samples. -/
def run (samples : List Sample) : State :=
  samples.foldl (fun state sample => (tick state sample).1) start

/-- The sample that comes after the others requests a reset. -/
def requests (samples : List Sample) (sample : Sample) : Bool := (tick (run samples) sample).2

/-! ### The samples since the last release -/

/-- The levels end with a release and then this many pressed samples. -/
def Held (levels : List Int) (count : Nat) : Prop :=
  ∃ earlier, levels = earlier ++ 1 :: List.replicate count 0

theorem held_released {levels : List Int} {count : Nat} :
    Held (levels ++ [1]) count ↔ count = 0 := by
  constructor
  · rintro ⟨earlier, same⟩
    cases count with
    | zero => rfl
    | succ count =>
        rw [List.replicate_succ', ← List.cons_append, ← List.append_assoc] at same
        exact absurd (List.append_inj' same rfl).2 (by decide)
  · rintro rfl
    exact ⟨levels, rfl⟩

theorem held_pressed {levels : List Int} {count : Nat} :
    Held (levels ++ [0]) count ↔ ∃ before, count = before + 1 ∧ Held levels before := by
  constructor
  · rintro ⟨earlier, same⟩
    cases count with
    | zero => exact absurd (List.append_inj' same rfl).2 (by decide)
    | succ count =>
        rw [List.replicate_succ', ← List.cons_append, ← List.append_assoc] at same
        exact ⟨count, rfl, earlier, (List.append_inj' same rfl).1⟩
  · rintro ⟨before, rfl, earlier, rfl⟩
    exact ⟨earlier, by rw [List.replicate_succ']; simp⟩

theorem not_held_unreadable {levels : List Int} {count : Nat} : ¬Held (levels ++ [-1]) count := by
  rintro ⟨earlier, same⟩
  cases count with
  | zero => exact absurd (List.append_inj' same rfl).2 (by decide)
  | succ count =>
      rw [List.replicate_succ', ← List.cons_append, ← List.append_assoc] at same
      exact absurd (List.append_inj' same rfl).2 (by decide)

/-- The state says how long the button is held since its last release, up to the request. -/
structure Tracks (levels : List Int) (state : State) : Prop where
  armed : ∀ count, state.armed = true → (Held levels count ↔ count = state.held)
  few : state.held < holdTicks
  idle : state.armed = false → ∀ count < holdTicks, ¬Held levels count

theorem tracks_start : Tracks [] start where
  armed _ := nofun
  few := by decide
  idle _ count _ := by
    rintro ⟨earlier, same⟩
    exact absurd same (by simp)

theorem level_cases (sample : Sample) : sample.level = 0 ∨ sample.level = 1 ∨ sample.level = -1 := by
  unfold Sample.level buttonLevel
  split <;> simp

/-- A sample that is not pressed starts over. -/
theorem tick_other {state : State} {sample : Sample} (other : sample.level ≠ 0) :
    tick state sample = (⟨sample.level = 1, 0⟩, false) := by
  rw [tick, if_pos other]

theorem tick_idle {state : State} {sample : Sample} (pressed : sample.level = 0)
    (idle : state.armed = false) : tick state sample = (state, false) := by
  simp [tick, pressed, idle]

/-- A pressed sample counts, and the last one that counts requests the reset. -/
theorem tick_armed {state : State} {sample : Sample} (pressed : sample.level = 0)
    (armed : state.armed = true) :
    tick state sample =
      if state.held + 1 < holdTicks then (⟨true, state.held + 1⟩, false)
      else (⟨false, 0⟩, !sample.oemRuns) := by
  simp [tick, pressed, armed]

theorem tick_tracks {levels : List Int} {state : State} (tracks : Tracks levels state)
    (sample : Sample) : Tracks (levels ++ [sample.level]) (tick state sample).1 := by
  rcases level_cases sample with pressed | released | unreadable
  · cases armed : state.armed with
    | false =>
        rw [tick_idle pressed armed, pressed]
        refine ⟨fun count known => absurd known (by simp [armed]), tracks.few, ?_⟩
        intro _ count few held
        obtain ⟨before, next, earlier⟩ := held_pressed.mp held
        exact tracks.idle armed before (by omega) earlier
    | true =>
        have counts : ∀ count, Held (levels ++ [0]) count ↔ count = state.held + 1 := by
          intro count
          rw [held_pressed]
          constructor
          · rintro ⟨before, rfl, held⟩
            rw [(tracks.armed before armed).mp held]
          · rintro rfl
            exact ⟨state.held, rfl, (tracks.armed state.held armed).mpr rfl⟩
        rw [tick_armed pressed armed, pressed]
        split
        · rename_i more
          exact ⟨fun count _ => counts count, more, nofun⟩
        · rename_i last
          refine ⟨fun count => nofun, (by decide : 0 < holdTicks), ?_⟩
          intro _ count few held
          exact last ((counts count).mp held ▸ few)
  · rw [tick_other (by simp [released]), released]
    exact ⟨fun count _ => held_released, by decide, nofun⟩
  · rw [tick_other (by simp [unreadable]), unreadable]
    exact ⟨fun count => nofun, by decide, fun _ count _ => not_held_unreadable⟩

theorem run_tracks (samples : List Sample) : Tracks (samples.map Sample.level) (run samples) := by
  induction samples using List.reverseRecOn with
  | nil => exact tracks_start
  | append_singleton samples sample inductionHypothesis =>
      rw [run, List.foldl_append, List.map_append]
      exact tick_tracks inductionHypothesis sample

/-- The reset is requested by the pressed sample that makes twenty. -/
theorem requests_iff (samples : List Sample) (sample : Sample) :
    requests samples sample = true ↔
      sample.oemRuns = false ∧ sample.level = 0 ∧ Held (samples.map Sample.level) 19 := by
  have tracks := run_tracks samples
  unfold requests
  rcases level_cases sample with pressed | released | unreadable
  · cases armed : (run samples).armed with
    | false =>
        rw [tick_idle pressed armed]
        have unheld := tracks.idle armed 19 (by decide)
        simp [unheld]
    | true =>
        have few := tracks.few
        rw [tick_armed pressed armed, tracks.armed 19 armed]
        unfold holdTicks at few ⊢
        split
        · rename_i more
          have early : ¬19 = (run samples).held := by omega
          simp [early]
        · rename_i last
          have now : 19 = (run samples).held := by omega
          simp [now, pressed]
  · rw [tick_other (by simp [released])]
    simp [released]
  · rw [tick_other (by simp [unreadable])]
    simp [unreadable]

/-- A button held for nineteen samples before one press and again before a later one was
released between the two. -/
theorem released_between {levels between : List Int} (first : Held levels 19)
    (second : Held (levels ++ 0 :: between) 19) : 1 ∈ between := by
  obtain ⟨earlier, rfl⟩ := first
  obtain ⟨later, same⟩ := second
  rw [List.append_assoc, List.cons_append] at same
  rcases List.append_eq_append_iff.mp same with ⟨more, -, rest⟩ | ⟨more, -, rest⟩
  · cases more with
    | nil =>
        have lengths := congrArg List.length rest
        simp at lengths
    | cons level more =>
        have member : 1 ∈ List.replicate 19 0 ++ 0 :: between := by
          rw [(List.cons.inj rest).2]
          exact List.mem_append_right more List.mem_cons_self
        simpa using member
  · have lengths := congrArg List.length rest
    simp at lengths
    omega

/-- A factory reset is requested by a pressed sample exactly where it is the twentieth in a
row after a release, while no OEM media runs; and between two requests the button was
released. -/
theorem reset_requested :
    (∀ samples sample, requests samples sample = true ↔
      sample.oemRuns = false ∧ sample.level = 0 ∧ Held (samples.map Sample.level) 19) ∧
    ∀ samples first between second, requests samples first = true →
      requests (samples ++ first :: between) second = true →
        ∃ sample ∈ between, sample.level = 1 := by
  refine ⟨requests_iff, ?_⟩
  intro samples first between second once again
  obtain ⟨-, pressed, held⟩ := (requests_iff samples first).mp once
  obtain ⟨-, -, heldAgain⟩ := (requests_iff _ second).mp again
  rw [List.map_append, List.map_cons, pressed] at heldAgain
  exact List.mem_map.mp (released_between held heldAgain)

/-- A button held from the start requests nothing; one released first does, once. -/
example :
    let pressed : Sample := ⟨some '0', false⟩
    (requests (List.replicate 30 pressed) pressed,
      requests (⟨some '1', false⟩ :: List.replicate 19 pressed) pressed,
      requests (⟨some '1', false⟩ :: List.replicate 39 pressed) pressed) = (false, true, false) := by
  decide +kernel

end JooanW3U.Daemon.Button

import Mathlib.Data.List.Induction
import Mathlib.Logic.Relation

/-!
Owns finite runs of a labelled transition relation and the induction rules for
them: an invariant kept by every step holds at the end of every run, and the
same when each step is allowed to assume a guard.

Does not own any particular state or event type.
-/

namespace JooanW3U.Library

universe u v

/-- `Run step start events final`: the events, in order, lead from `start` to
`final`. -/
inductive Run {State : Type u} {Event : Type v} (step : State → Event → State → Prop) :
    State → List Event → State → Prop
  | nil (state : State) : Run step state [] state
  | cons {start middle final : State} {event : Event} {events : List Event} :
      step start event middle → Run step middle events final →
        Run step start (event :: events) final

namespace Run

variable {State : Type u} {Event : Type v} {step : State → Event → State → Prop}

/-- Invariant rule: what the start satisfies and every step keeps, the end
satisfies. -/
theorem preserves {Invariant : State → Prop}
    (kept : ∀ start event final, Invariant start → step start event final → Invariant final)
    {start final : State} {events : List Event}
    (run : Run step start events final) (initially : Invariant start) : Invariant final := by
  induction run with
  | nil => exact initially
  | cons first _ inductionHypothesis =>
      exact inductionHypothesis (kept _ _ _ initially first)

theorem append {start middle final : State} {early late : List Event}
    (first : Run step start early middle) (second : Run step middle late final) :
    Run step start (early ++ late) final := by
  induction first with
  | nil => exact second
  | cons head _ inductionHypothesis => exact .cons head (inductionHypothesis second)

theorem singleton {start final : State} {event : Event} (first : step start event final) :
    Run step start [event] final :=
  .cons first (.nil final)

/-- A relation that allows every step of the run has the run. -/
theorem mono {wider : State → Event → State → Prop}
    (allowed : ∀ start event final, step start event final → wider start event final)
    {start final : State} {events : List Event} (run : Run step start events final) :
    Run wider start events final := by
  induction run with
  | nil state => exact .nil state
  | cons first _ inductionHypothesis =>
      exact .cons (allowed _ _ _ first) inductionHypothesis

/-- Invariant rule with the events so far: what holds of none and every further step
keeps holds of the whole run. -/
theorem preserves_history {Invariant : List Event → State → Prop} {start final : State}
    {events : List Event} (run : Run step start events final) (initially : Invariant [] start)
    (kept : ∀ events state event final, Run step start events state → Invariant events state →
      step state event final → Invariant (events ++ [event]) final) : Invariant events final := by
  have onward : ∀ {middle : State} {late : List Event}, Run step middle late final →
      ∀ early, Run step start early middle → Invariant early middle →
        Invariant (early ++ late) final := by
    intro middle late rest
    clear run
    induction rest with
    | nil =>
        intro early _ holds
        rw [List.append_nil]
        exact holds
    | cons first _ inductionHypothesis =>
        intro early before holds
        rw [List.append_cons]
        exact inductionHypothesis _ (before.append (singleton first))
          (kept early _ _ _ before holds first)
  exact onward run [] (.nil start) initially

/-- A run over a concatenation passes through a state between the two parts. -/
theorem split {early late : List Event} {start final : State}
    (run : Run step start (early ++ late) final) :
    ∃ middle, Run step start early middle ∧ Run step middle late final := by
  induction early generalizing start with
  | nil => exact ⟨start, .nil start, run⟩
  | cons event early inductionHypothesis =>
      cases run with
      | cons first rest =>
          obtain ⟨middle, left, right⟩ := inductionHypothesis rest
          exact ⟨middle, .cons first left, right⟩

end Run

/-! ## Partial step functions -/

/-- The state after the events, if every step is defined. -/
def runs {State : Type u} {Event : Type v} (step : State → Event → Option State) :
    State → List Event → Option State
  | state, [] => some state
  | state, event :: events => (step state event).bind fun next => runs step next events

theorem runs_append {State : Type u} {Event : Type v} {step : State → Event → Option State}
    {early late : List Event} {state : State} :
    runs step state (early ++ late) =
      (runs step state early).bind fun middle => runs step middle late := by
  induction early generalizing state with
  | nil => rfl
  | cons event early inductionHypothesis =>
      simp only [List.cons_append, runs, inductionHypothesis, Option.bind_assoc]

theorem run_of_runs {State : Type u} {Event : Type v} {step : State → Event → Option State} :
    ∀ {start final : State} {events : List Event}, runs step start events = some final →
      Run (fun state event next => step state event = some next) start events final
  | start, final, [], ran => Option.some.inj ran ▸ .nil start
  | start, final, event :: events, ran => by
      obtain ⟨next, stepped, rest⟩ := Option.bind_eq_some_iff.mp ran
      exact .cons stepped (run_of_runs rest)

/-- A run whose every step meets a condition, from the step function that checks it. -/
theorem run_of_guarded {State : Type u} {Event : Type v} {step : State → Event → Option State}
    {condition : State → Event → Prop} [∀ state event, Decidable (condition state event)]
    {start final : State} {events : List Event}
    (ran : runs (fun state event => if condition state event then step state event else none)
      start events = some final) :
    Run (fun state event next => step state event = some next ∧ condition state event)
      start events final := by
  apply (run_of_runs ran).mono
  intro state event next stepped
  by_cases holds : condition state event
  · rw [if_pos holds] at stepped
    exact ⟨stepped, holds⟩
  · rw [if_neg holds] at stepped
    exact absurd stepped nofun

/-- Invariant rule for a system whose step is a function. -/
theorem foldl_preserves {State : Type u} {Event : Type v} {step : State → Event → State}
    {Invariant : State → Prop}
    (kept : ∀ state event, Invariant state → Invariant (step state event))
    (events : List Event) {start : State} (initially : Invariant start) :
    Invariant (events.foldl step start) := by
  induction events generalizing start with
  | nil => exact initially
  | cons event events inductionHypothesis =>
      exact inductionHypothesis (kept start event initially)

/-- A property of every state of a run, by an invariant that implies it: where a step that
meets the condition keeps the invariant and one that does not ends outside the property,
the property holds throughout exactly when every step meets the condition. -/
theorem prefixes_iff {State : Type u} {Event : Type v} {step : State → Event → State}
    {Invariant Good : State → Prop} {bad : State → Event → Bool}
    (good : ∀ state, Invariant state → Good state)
    (kept : ∀ state event, Invariant state → bad state event = false →
      Invariant (step state event))
    (broken : ∀ state event, Invariant state → bad state event = true →
      ¬Good (step state event))
    (events : List Event) {start : State} (initially : Invariant start) :
    (∀ earlier, earlier <+: events → Good (earlier.foldl step start)) ↔
      ∀ earlier event, earlier ++ [event] <+: events →
        bad (earlier.foldl step start) event = false := by
  induction events generalizing start with
  | nil =>
      apply iff_of_true
      · intro earlier before
        rw [List.prefix_nil.mp before]
        exact good start initially
      · intro earlier event before
        exact absurd (List.prefix_nil.mp before) (by simp)
  | cons first events inductionHypothesis =>
      constructor
      · intro throughout
        have fine : bad start first = false := by
          cases met : bad start first with
          | false => rfl
          | true =>
              have after := throughout [first] (List.prefix_append [first] events)
              exact absurd after (broken start first initially met)
        have rest := (inductionHypothesis (kept start first initially fine)).mp fun earlier before =>
          throughout (first :: earlier) ((List.prefix_cons_inj first).mpr before)
        intro earlier event before
        cases earlier with
        | nil =>
            rw [(List.cons_prefix_cons.mp before).1]
            exact fine
        | cons other earlier =>
            obtain ⟨same, before⟩ := List.cons_prefix_cons.mp before
            rw [same]
            exact rest earlier event before
      · intro condition earlier before
        cases earlier with
        | nil => exact good start initially
        | cons other earlier =>
            obtain ⟨same, before⟩ := List.cons_prefix_cons.mp before
            have fine := condition [] first (List.prefix_append [first] events)
            rw [same]
            refine (inductionHypothesis (kept start first initially fine)).mpr ?_ earlier before
            intro middle event inside
            exact condition (first :: middle) event ((List.prefix_cons_inj first).mpr inside)

/-- Invariant rule for a run whose every step meets a condition: the invariant holds at the
end of every part of it. -/
theorem prefixes_keep {State : Type u} {Event : Type v} {step : State → Event → State}
    {Invariant : State → Prop} {bad : State → Event → Bool}
    (kept : ∀ state event, Invariant state → bad state event = false →
      Invariant (step state event))
    {start : State} (initially : Invariant start) {events : List Event}
    (fine : ∀ earlier event, earlier ++ [event] <+: events →
      bad (earlier.foldl step start) event = false) :
    ∀ earlier, earlier <+: events → Invariant (earlier.foldl step start) := by
  intro earlier
  induction earlier using List.reverseRecOn with
  | nil => exact fun _ => initially
  | append_singleton earlier event inductionHypothesis =>
      intro before
      rw [List.foldl_append]
      have inside := (List.prefix_append earlier [event]).trans before
      exact kept _ event (inductionHypothesis inside) (fine earlier event before)

/-- Where a step is lawful exactly when it is not bad, given what the steps that are not bad
keep, a whole run is lawful exactly when none of its steps is bad. -/
theorem steps_lawful_iff {State : Type u} {Event : Type v} {step : State → Event → State}
    {Invariant : State → Prop} {lawful : State → Event → Prop} {bad : State → Event → Bool}
    (kept : ∀ state event, Invariant state → bad state event = false →
      Invariant (step state event))
    (exactly : ∀ state event, Invariant state → (lawful state event ↔ bad state event = false))
    {start : State} (initially : Invariant start) (events : List Event) :
    (∀ earlier event, earlier ++ [event] <+: events →
        lawful (earlier.foldl step start) event) ↔
      ∀ earlier event, earlier ++ [event] <+: events →
        bad (earlier.foldl step start) event = false := by
  constructor
  · intro throughout
    have invariant : ∀ earlier, earlier <+: events → Invariant (earlier.foldl step start) := by
      intro earlier
      induction earlier using List.reverseRecOn with
      | nil => exact fun _ => initially
      | append_singleton earlier event inductionHypothesis =>
          intro before
          have holds := inductionHypothesis ((List.prefix_append earlier [event]).trans before)
          rw [List.foldl_append]
          exact kept _ event holds ((exactly _ event holds).mp (throughout earlier event before))
    intro earlier event before
    have holds := invariant earlier ((List.prefix_append earlier [event]).trans before)
    exact (exactly _ event holds).mp (throughout earlier event before)
  · intro fine earlier event before
    have holds := prefixes_keep kept initially fine earlier
      ((List.prefix_append earlier [event]).trans before)
    exact (exactly _ event holds).mpr (fine earlier event before)

end JooanW3U.Library

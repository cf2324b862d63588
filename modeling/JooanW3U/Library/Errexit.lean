import JooanW3U.Library.Attempt

/-!
Owns scripts under `set -e`, where a command that fails ends the script unless a test
takes its status, and their weakest preconditions. The rules are equivalences, so they
also tell when a script does not end as it should.

Does not own any command or the state it changes.
-/

namespace JooanW3U.Library.Errexit

universe u v

/-- Where a script stands: it goes on, or it is over in one of its endings. -/
inductive Progress (State : Type u) (Ending : Type v)
  | on (state : State)
  | ended (ending : Ending) (state : State)

abbrev Script (State : Type u) (Ending : Type v) : Type (max u v) :=
  State → Progress State Ending

variable {State : Type u} {Ending : Type v}

/-- The script is over, in an ending that satisfies `ends`. -/
def Progress.Ends (ends : Ending → State → Prop) : Progress State Ending → Prop
  | .on _ => False
  | .ended ending state => ends ending state

def andThen (first second : Script State Ending) : Script State Ending := fun state =>
  match first state with
  | .on state => second state
  | .ended ending state => .ended ending state

def skip : Script State Ending := .on

/-- Commands in order. -/
def steps : List (Script State Ending) → Script State Ending
  | [] => skip
  | step :: rest => andThen step (steps rest)

/-- A command whose failure ends the script in `failure`; `torn` is what it leaves then. -/
def command (failure : Ending) (works : State → Bool) (effect torn : State → State) :
    Script State Ending := fun state =>
  if works state then .on (effect state) else .ended failure (torn state)

/-- `if test; then yes; else no; fi`. -/
def ifThen (test : Attempt State) (yes no : Script State Ending) : Script State Ending :=
  fun state =>
    match test state with
    | (true, state) => yes state
    | (false, state) => no state

/-- `test || rescue`. -/
def orElse (test : Attempt State) (rescue : Script State Ending) : Script State Ending :=
  ifThen test skip rescue

/-- `test && branch`, where the status of the list is not looked at. -/
def onlyIf (test : Attempt State) (branch : Script State Ending) : Script State Ending :=
  ifThen test branch skip

/-- A test that changes nothing. -/
def ask (answer : State → Bool) : Attempt State := fun state => (answer state, state)

/-! ### Weakest preconditions -/

/-- The script goes on in `goes` or is over in `ends`. -/
def wp (script : Script State Ending) (goes : State → Prop) (ends : Ending → State → Prop)
    (state : State) : Prop :=
  match script state with
  | .on state => goes state
  | .ended ending state => ends ending state

variable {goes : State → Prop} {ends : Ending → State → Prop} {state : State}

/-- A script that must not go on ends as asked. -/
theorem ends_iff_wp (script : Script State Ending) :
    (script state).Ends ends ↔ wp script (fun _ => False) ends state := by
  unfold wp Progress.Ends
  cases script state <;> rfl

theorem wp_andThen (first second : Script State Ending) :
    wp (andThen first second) goes ends state ↔ wp first (wp second goes ends) ends state := by
  unfold wp andThen
  cases first state <;> rfl

theorem wp_skip : wp (skip : Script State Ending) goes ends state ↔ goes state := Iff.rfl

theorem wp_nil : wp (steps ([] : List (Script State Ending))) goes ends state ↔ goes state :=
  Iff.rfl

theorem wp_cons (step : Script State Ending) (rest : List (Script State Ending)) :
    wp (steps (step :: rest)) goes ends state ↔ wp step (wp (steps rest) goes ends) ends state :=
  wp_andThen step (steps rest)

theorem wp_singleton (step : Script State Ending) :
    wp (steps [step]) goes ends state ↔ wp step goes ends state :=
  wp_cons step []

theorem wp_command (failure : Ending) (works : State → Bool) (effect torn : State → State) :
    wp (command failure works effect torn) goes ends state ↔
      if works state then goes (effect state) else ends failure (torn state) := by
  unfold wp command
  cases worked : works state <;> simp only [if_true, Bool.false_eq_true, if_false]

theorem wp_ifThen (test : Attempt State) (yes no : Script State Ending) :
    wp (ifThen test yes no) goes ends state ↔
      if (test state).1 then wp yes goes ends (test state).2 else wp no goes ends (test state).2 := by
  unfold wp ifThen
  rcases test state with ⟨_ | _, after⟩ <;> rfl

theorem wp_orElse (test : Attempt State) (rescue : Script State Ending) :
    wp (orElse test rescue) goes ends state ↔
      if (test state).1 then goes (test state).2 else wp rescue goes ends (test state).2 :=
  wp_ifThen test skip rescue

theorem wp_onlyIf (test : Attempt State) (branch : Script State Ending) :
    wp (onlyIf test branch) goes ends state ↔
      if (test state).1 then wp branch goes ends (test state).2 else goes (test state).2 :=
  wp_ifThen test branch skip

/-- What is asked of a script may be weakened. -/
theorem wp_mono {script : Script State Ending} {further : State → Prop}
    {milder : Ending → State → Prop} (holds : wp script goes ends state)
    (onward : ∀ state, goes state → further state)
    (finish : ∀ ending state, ends ending state → milder ending state) :
    wp script further milder state := by
  unfold wp at holds ⊢
  cases ran : script state with
  | on after =>
      rw [ran] at holds
      exact onward after holds
  | ended ending after =>
      rw [ran] at holds
      exact finish ending after holds

/-! ### Scripts that go on under a condition -/

/-- From `before`, the script goes on to `after` where the condition holds, and is over
in `left` where it does not. -/
def Passes (before : State → Prop) (condition : Prop) (script : Script State Ending)
    (after left : State → Prop) : Prop :=
  ∀ state, before state →
    wp script (fun state => condition ∧ after state) (fun _ state => ¬condition ∧ left state) state

variable {before middle after left : State → Prop} {condition later : Prop}
  {script first : Script State Ending} {rest : List (Script State Ending)}

/-- What is asked of a script that passes under a condition, where it asks the same of
every state the script can come to. -/
theorem Passes.wp_iff (passes : Passes before condition script after left)
    (holds : before state) {onward finish : Prop} (goesIff : ∀ state, after state → (goes state ↔ onward))
    (endsIff : ∀ ending state, left state → (ends ending state ↔ finish)) :
    wp script goes ends state ↔ condition ∧ onward ∨ ¬condition ∧ finish := by
  have reached := passes state holds
  unfold wp at reached ⊢
  cases ran : script state with
  | on next =>
      rw [ran] at reached
      have met := goesIff next reached.2
      simp only [met, reached.1, true_and, not_true_eq_false, false_and, or_false]
  | ended ending next =>
      rw [ran] at reached
      have met := endsIff ending next reached.2
      simp only [met, reached.1, false_and, not_false_eq_true, true_and, false_or]

theorem Passes.wp_cons_iff (passes : Passes before condition first middle left)
    (holds : before state) {onward finish : Prop}
    (goesIff : ∀ state, middle state → (wp (steps rest) goes ends state ↔ onward))
    (endsIff : ∀ ending state, left state → (ends ending state ↔ finish)) :
    wp (steps (first :: rest)) goes ends state ↔ condition ∧ onward ∨ ¬condition ∧ finish := by
  rw [wp_cons]
  exact passes.wp_iff holds goesIff endsIff

/-- A script that is fine wherever it stops. -/
theorem Passes.safe (passes : Passes before condition script after left) (holds : before state)
    (goesOn : ∀ state, after state → goes state)
    (stops : ∀ ending state, left state → ends ending state) : wp script goes ends state := by
  apply wp_mono (passes state holds)
  · intro state reached
    exact goesOn state reached.2
  · intro ending state reached
    exact stops ending state reached.2

theorem Passes.congr (passes : Passes before condition script after left)
    (same : condition ↔ later) : Passes before later script after left := by
  intro state holds
  have reached := passes state holds
  simp only [same] at reached
  exact reached

theorem passes_skip : Passes before True (skip : Script State Ending) before left :=
  fun _ holds => ⟨trivial, holds⟩

theorem passes_nil : Passes before True (steps ([] : List (Script State Ending))) before left :=
  passes_skip

theorem passes_cons (starts : Passes before condition first middle left)
    (follows : Passes middle later (steps rest) after left) :
    Passes before (condition ∧ later) (steps (first :: rest)) after left := by
  intro state holds
  have reached := starts state holds
  rw [wp_cons]
  unfold wp at reached ⊢
  cases ran : first state with
  | ended ending next =>
      rw [ran] at reached
      exact ⟨fun both => reached.1 both.1, reached.2⟩
  | on next =>
      rw [ran] at reached
      have onward := follows next reached.2
      change wp (steps rest) _ _ next
      unfold wp at onward ⊢
      cases ranOn : steps rest next with
      | on final =>
          rw [ranOn] at onward
          exact ⟨⟨reached.1, onward.1⟩, onward.2⟩
      | ended ending final =>
          rw [ranOn] at onward
          exact ⟨fun both => onward.1 both.2, onward.2⟩

theorem passes_command {failure : Ending} {works : State → Bool} {effect torn : State → State}
    (decides : ∀ state, before state → (works state = true ↔ condition))
    (done : ∀ state, before state → after (effect state))
    (failed : ∀ state, before state → left (torn state)) :
    Passes before condition (command failure works effect torn) after left := by
  intro state holds
  rw [wp_command]
  split
  · rename_i worked
    exact ⟨(decides state holds).mp worked, done state holds⟩
  · rename_i broken
    exact ⟨fun met => broken ((decides state holds).mpr met), failed state holds⟩

/-- A test whose failure is fatal. -/
theorem passes_orElse {answer : State → Bool} {rescue : Script State Ending}
    (decides : ∀ state, before state → (answer state = true ↔ condition))
    (rescued : Passes before False rescue before left) :
    Passes before condition (orElse (ask answer) rescue) before left := by
  intro state holds
  rw [wp_orElse]
  unfold ask
  split
  · rename_i met
    exact ⟨(decides state holds).mp met, holds⟩
  · rename_i unmet
    have ended := rescued state holds
    unfold wp at ended ⊢
    cases ran : rescue state with
    | on next =>
        rw [ran] at ended
        exact absurd ended.1 not_false
    | ended ending next =>
        rw [ran] at ended
        exact ⟨fun met => unmet ((decides state holds).mpr met), ended.2⟩

/-- A branch that is taken where the test succeeds. -/
theorem passes_onlyIf {answer : State → Bool} {asked : Prop} {branch : Script State Ending}
    (decides : ∀ state, before state → (answer state = true ↔ asked))
    (taken : Passes before condition branch before left) :
    Passes before (asked → condition) (onlyIf (ask answer) branch) before left := by
  intro state holds
  rw [wp_onlyIf]
  unfold ask
  split
  · rename_i met
    have known := (decides state holds).mp met
    have reached := taken state holds
    simp only [known, true_imp_iff]
    exact reached
  · rename_i unmet
    have known : ¬asked := fun met => unmet ((decides state holds).mpr met)
    exact ⟨fun met => absurd met known, holds⟩

/-- A list of commands that all pass under their own conditions. -/
theorem passes_all {Item : Type*} {each : Item → Script State Ending} {needed : Item → Prop}
    (passes : ∀ item, Passes before (needed item) (each item) before left) (items : List Item) :
    Passes before (∀ item ∈ items, needed item) (steps (items.map each)) before left := by
  induction items with
  | nil => exact passes_nil.congr (by simp)
  | cons item items inductionHypothesis =>
      exact (passes_cons (passes item) inductionHypothesis).congr (by simp)

end JooanW3U.Library.Errexit

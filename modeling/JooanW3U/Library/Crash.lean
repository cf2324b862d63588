import Mathlib.Logic.Basic

/-!
Owns scripts of commands that can fail or be cut off by a power loss, and Hoare
triples for them with a condition for the states a power loss can leave.

A script takes one fate for each command it runs; once the fates are used up its
commands complete, so the empty list is the uninterrupted run.

Does not own any command or the state it changes.
-/

namespace JooanW3U.Library.Crash

universe u v w

/-- How one command ends. An interrupted command leaves one of its torn states. -/
inductive Fate
  | ok
  | fail (torn : Nat)
  | cut (torn : Nat)
deriving Repr, DecidableEq

/-- `effect` is `none` where the command fails by itself, changing nothing; `torn`
lists the states an interruption can leave; without `mayFail` only a power loss
interrupts it. -/
structure Command (State : Type u) where
  effect : State → Option State
  torn : Nat → State → State
  mayFail : Bool

namespace Command

variable {State : Type u}

/-- A command whose change is made in one step or not at all. -/
def atomic (mayFail : Bool) (effect : State → Option State) : Command State :=
  ⟨effect, fun _ state => state, mayFail⟩

/-- A command that changes nothing but may fail. -/
def check : Command State := atomic true some

end Command

inductive Outcome (State : Type u) (Value : Type v)
  | done (value : Value) (state : State) (fates : List Fate)
  | cut (state : State)

def Outcome.state {State : Type u} {Value : Type v} : Outcome State Value → State
  | .done _ state _ => state
  | .cut state => state

/-- A finished outcome satisfies `post`, one cut off satisfies `crash`. -/
def Outcome.Satisfies {State : Type u} {Value : Type v} (post : Value → State → Prop)
    (crash : State → Prop) : Outcome State Value → Prop
  | .done value state _ => post value state
  | .cut state => crash state

def Script (State : Type u) (Value : Type v) : Type (max u v) :=
  List Fate → State → Outcome State Value

namespace Script

variable {State : Type u} {Value : Type v} {Next : Type v}

protected def pure (value : Value) : Script State Value := fun fates state =>
  .done value state fates

protected def bind (first : Script State Value) (next : Value → Script State Next) :
    Script State Next := fun fates state =>
  match first fates state with
  | .done value state fates => next value fates state
  | .cut state => .cut state

instance : Monad (Script State) where
  pure := Script.pure
  bind := Script.bind

/-- Look at the state; nothing can go wrong between this and the next command. -/
def get (look : State → Value) : Script State Value := fun fates state =>
  .done (look state) state fates

/-- Change the state in a way nothing can interrupt, like a shell variable. -/
def modify (change : State → State) : Script State PUnit.{v + 1} := fun fates state =>
  .done .unit (change state) fates

/-- The command when nothing interrupts it. -/
def complete (command : Command State) (fates : List Fate) (state : State) : Outcome State Bool :=
  match command.effect state with
  | some state => .done true state fates
  | none => .done false state fates

/-- Run a command; the value tells whether it succeeded. -/
def run (command : Command State) : Script State Bool
  | [], state => complete command [] state
  | .ok :: fates, state => complete command fates state
  | .fail torn :: fates, state =>
      if command.mayFail then .done false (command.torn torn state) fates
      else complete command fates state
  | .cut torn :: _, state => .cut (command.torn torn state)

/-- `first && second`. -/
def andThen (first second : Script State Bool) : Script State Bool := do
  if ← first then second else pure false

/-- `script || :`. -/
def ignore (script : Script State Bool) : Script State Bool := do
  let _ ← script
  pure true

/-- `script || { rescue; exit 1; }`. -/
def otherwise (script rescue : Script State Bool) : Script State Bool := do
  if ← script then pure true
  else do
    let _ ← rescue
    pure false

/-- Commands in order, up to the first that fails. -/
def steps : List (Script State Bool) → Script State Bool
  | [] => pure true
  | step :: rest => step.andThen (steps rest)

end Script

/-! ### Triples -/

section Triples

variable {State : Type u} {Value Next : Type v}

/-- From `pre`, every finished run ends in `post` and every interrupted one in
`crash`, whatever the fates. -/
def Triple (pre : State → Prop) (script : Script State Value) (post : Value → State → Prop)
    (crash : State → Prop) : Prop :=
  ∀ fates state, pre state → (script fates state).Satisfies post crash

/-- Where a script stops, finished or not, when both conditions agree. -/
theorem Triple.state {pre : State → Prop} {script : Script State Value} {after : State → Prop}
    (holds : Triple pre script (fun _ => after) after) (fates : List Fate) {state : State}
    (assumed : pre state) : after (script fates state).state := by
  have reached := holds fates state assumed
  cases outcome : script fates state with
  | done value state fates =>
      rw [outcome] at reached
      exact reached
  | cut state =>
      rw [outcome] at reached
      exact reached

theorem triple_pure {pre : State → Prop} {value : Value} {post : Value → State → Prop}
    {crash : State → Prop} (holds : ∀ state, pre state → post value state) :
    Triple pre (pure value) post crash :=
  fun _ state assumed => holds state assumed

theorem triple_get {pre : State → Prop} {look : State → Value} {post : Value → State → Prop}
    {crash : State → Prop} (holds : ∀ state, pre state → post (look state) state) :
    Triple pre (Script.get look) post crash :=
  fun _ state assumed => holds state assumed

theorem triple_modify {pre : State → Prop} {change : State → State}
    {post : PUnit.{v + 1} → State → Prop} {crash : State → Prop}
    (holds : ∀ state, pre state → post .unit (change state)) :
    Triple pre (Script.modify change) post crash :=
  fun _ state assumed => holds state assumed

theorem triple_bind {pre : State → Prop} {first : Script State Value}
    {next : Value → Script State Next} (middle : Value → State → Prop)
    {post : Next → State → Prop} {crash : State → Prop} (begins : Triple pre first middle crash)
    (continues : ∀ value, Triple (middle value) (next value) post crash) :
    Triple pre (first >>= next) post crash := by
  intro fates state assumed
  have reached := begins fates state assumed
  change (Script.bind first next fates state).Satisfies post crash
  unfold Script.bind
  cases outcome : first fates state with
  | done value state fates =>
      rw [outcome] at reached
      exact continues value fates state reached
  | cut state =>
      rw [outcome] at reached
      exact reached

theorem triple_run {pre : State → Prop} {command : Command State} {post : Bool → State → Prop}
    {crash : State → Prop}
    (succeeds : ∀ state after, pre state → command.effect state = some after → post true after)
    (fails : ∀ state, pre state → command.effect state = none → post false state)
    (interrupted : ∀ state torn, pre state →
      (command.mayFail = true → post false (command.torn torn state)) ∧
        crash (command.torn torn state)) :
    Triple pre (Script.run command) post crash := by
  intro fates state assumed
  have completed : ∀ rest, (Script.complete command rest state).Satisfies post crash := by
    intro rest
    unfold Script.complete
    cases effect : command.effect state with
    | none => exact fails state assumed effect
    | some after => exact succeeds state after assumed effect
  match fates with
  | [] => exact completed []
  | .ok :: rest => exact completed rest
  | .fail torn :: rest =>
      rw [Script.run]
      split
      · rename_i known
        exact (interrupted state torn assumed).1 known
      · exact completed rest
  | .cut torn :: _ => exact (interrupted state torn assumed).2

theorem Triple.consequence {pre weaker : State → Prop} {script : Script State Value}
    {post stronger : Value → State → Prop} {crash milder : State → Prop}
    (holds : Triple weaker script stronger milder) (enters : ∀ state, pre state → weaker state)
    (leaves : ∀ value state, stronger value state → post value state)
    (cuts : ∀ state, milder state → crash state) : Triple pre script post crash := by
  intro fates state assumed
  have reached := holds fates state (enters state assumed)
  cases outcome : script fates state with
  | done value state fates =>
      rw [outcome] at reached
      exact leaves value state reached
  | cut state =>
      rw [outcome] at reached
      exact cuts state reached

/-- A triple may assume a fact its precondition gives. -/
theorem triple_of_fact {fact : Prop} {pre : State → Prop} {script : Script State Value}
    {post : Value → State → Prop} {crash : State → Prop} (known : ∀ state, pre state → fact)
    (holds : fact → Triple pre script post crash) : Triple pre script post crash :=
  fun fates state assumed => holds (known state assumed) fates state assumed

/-- A triple can be shown for one starting state at a time. -/
theorem triple_of_base {pre : State → Prop} {script : Script State Value}
    {post : Value → State → Prop} {crash : State → Prop}
    (each : ∀ base, pre base → Triple (fun state => state = base) script post crash) :
    Triple pre script post crash :=
  fun fates state assumed => each state assumed fates state rfl

theorem triple_otherwise {pre : State → Prop} (middle : State → Prop)
    {script rescue : Script State Bool} {post : Bool → State → Prop} {crash : State → Prop}
    (begins : Triple pre script (fun ok state => if ok then post true state else middle state) crash)
    (rescues : Triple middle rescue (fun _ state => post false state) crash) :
    Triple pre (script.otherwise rescue) post crash := by
  refine triple_bind _ begins fun ok => ?_
  cases ok with
  | true => exact triple_pure fun _ reached => reached
  | false => exact triple_bind _ rescues fun _ => triple_pure fun _ reached => reached

theorem triple_ite {condition : Prop} [Decidable condition] {pre : State → Prop}
    {yes no : Script State Value} {post : Value → State → Prop} {crash : State → Prop}
    (holds : condition → Triple pre yes post crash)
    (fails : ¬ condition → Triple pre no post crash) :
    Triple pre (if condition then yes else no) post crash := by
  by_cases known : condition
  · rw [if_pos known]
    exact holds known
  · rw [if_neg known]
    exact fails known

theorem triple_andThen {pre : State → Prop} {first second : Script State Bool}
    {middle : State → Prop} {post : Bool → State → Prop} {crash : State → Prop}
    (begins : Triple pre first (fun ok state => if ok then middle state else post false state) crash)
    (continues : Triple middle second post crash) :
    Triple pre (first.andThen second) post crash := by
  refine triple_bind _ begins fun ok => ?_
  cases ok with
  | false => exact triple_pure fun _ reached => reached
  | true => exact continues

/-- A first part that keeps what the second needs. -/
theorem triple_andThen_keep {pre : State → Prop} {first second : Script State Bool}
    {post : Bool → State → Prop} {crash : State → Prop}
    (kept : Triple pre first (fun _ => pre) crash) (stops : ∀ state, pre state → post false state)
    (continues : Triple pre second post crash) : Triple pre (first.andThen second) post crash := by
  refine triple_andThen (kept.consequence (fun _ holds => holds) ?_ fun _ holds => holds) continues
  intro ok state holds
  cases ok with
  | true => exact holds
  | false => exact stops state holds

theorem triple_steps_cons {pre : State → Prop} (middle : State → Prop) {step : Script State Bool}
    {rest : List (Script State Bool)} {post : Bool → State → Prop} {crash : State → Prop}
    (begins : Triple pre step (fun ok state => if ok then middle state else post false state) crash)
    (continues : Triple middle (Script.steps rest) post crash) :
    Triple pre (Script.steps (step :: rest)) post crash :=
  triple_andThen begins continues

theorem triple_steps_keep {pre : State → Prop} {step : Script State Bool}
    {rest : List (Script State Bool)} {post : Bool → State → Prop} {crash : State → Prop}
    (kept : Triple pre step (fun _ => pre) crash) (stops : ∀ state, pre state → post false state)
    (continues : Triple pre (Script.steps rest) post crash) :
    Triple pre (Script.steps (step :: rest)) post crash :=
  triple_andThen_keep kept stops continues

theorem triple_steps_nil {pre : State → Prop} {post : Bool → State → Prop} {crash : State → Prop}
    (holds : ∀ state, pre state → post true state) :
    Triple pre (Script.steps ([] : List (Script State Bool))) post crash :=
  triple_pure holds

end Triples

/-! ### Scripts that keep an invariant -/

section Keeps

variable {State : Type u} {Value Next : Type v} {Invariant : State → Prop}

/-- The script keeps the invariant wherever it stops. -/
def Keeps (Invariant : State → Prop) (script : Script State Value) : Prop :=
  Triple Invariant script (fun _ => Invariant) Invariant

theorem keeps_pure (value : Value) : Keeps Invariant (pure value : Script State Value) :=
  triple_pure fun _ holds => holds

theorem keeps_get (look : State → Value) : Keeps Invariant (Script.get look) :=
  triple_get fun _ holds => holds

theorem keeps_bind {first : Script State Value} {next : Value → Script State Next}
    (begins : Keeps Invariant first) (continues : ∀ value, Keeps Invariant (next value)) :
    Keeps Invariant (first >>= next) :=
  triple_bind _ begins continues

theorem keeps_run {command : Command State}
    (effect : ∀ state after, Invariant state → command.effect state = some after → Invariant after)
    (torn : ∀ state count, Invariant state → Invariant (command.torn count state)) :
    Keeps Invariant (Script.run command) :=
  triple_run effect (fun _ holds _ => holds) fun state count holds =>
    ⟨fun _ => torn state count holds, torn state count holds⟩

theorem keeps_modify {change : State → State}
    (kept : ∀ state, Invariant state → Invariant (change state)) :
    Keeps Invariant (Script.modify change) :=
  triple_modify kept

theorem keeps_atomic {mayFail : Bool} {effect : State → Option State}
    (kept : ∀ state after, Invariant state → effect state = some after → Invariant after) :
    Keeps Invariant (Script.run (Command.atomic mayFail effect)) :=
  keeps_run kept fun _ _ holds => holds

theorem keeps_check : Keeps Invariant (Script.run (Command.check : Command State)) :=
  keeps_atomic fun _ _ holds same => Option.some.inj same ▸ holds

theorem keeps_ite {condition : Prop} [Decidable condition] {yes no : Script State Value}
    (holds : condition → Keeps Invariant yes) (fails : ¬ condition → Keeps Invariant no) :
    Keeps Invariant (if condition then yes else no) :=
  triple_ite holds fails

theorem keeps_andThen {first second : Script State Bool} (begins : Keeps Invariant first)
    (continues : Keeps Invariant second) : Keeps Invariant (first.andThen second) := by
  refine keeps_bind begins fun ok => ?_
  cases ok with
  | false => exact keeps_pure false
  | true => exact continues

theorem keeps_ignore {script : Script State Bool} (kept : Keeps Invariant script) :
    Keeps Invariant script.ignore :=
  keeps_bind kept fun _ => keeps_pure true

theorem keeps_otherwise {script rescue : Script State Bool} (begins : Keeps Invariant script)
    (rescues : Keeps Invariant rescue) : Keeps Invariant (script.otherwise rescue) := by
  refine keeps_bind begins fun ok => ?_
  cases ok with
  | true => exact keeps_pure true
  | false => exact keeps_bind rescues fun _ => keeps_pure false

theorem keeps_steps {list : List (Script State Bool)}
    (each : ∀ step ∈ list, Keeps Invariant step) : Keeps Invariant (Script.steps list) := by
  induction list with
  | nil => exact keeps_pure true
  | cons step list inductionHypothesis =>
      exact keeps_andThen (each step List.mem_cons_self)
        (inductionHypothesis fun other member => each other (List.mem_cons_of_mem _ member))

theorem Keeps.and {Other : State → Prop} {script : Script State Value}
    (kept : Keeps Invariant script) (other : Keeps Other script) :
    Keeps (fun state => Invariant state ∧ Other state) script := by
  intro fates state holds
  have left := kept fates state holds.1
  have right := other fates state holds.2
  cases outcome : script fates state with
  | done value final rest =>
      rw [outcome] at left right
      exact ⟨left, right⟩
  | cut final =>
      rw [outcome] at left right
      exact ⟨left, right⟩

/-- An invariant carried along a relation to the starting state is kept by a script
that keeps the relation. -/
theorem keeps_of_relation {script : Script State Value} {Relation : State → State → Prop}
    (reflexive : ∀ state, Relation state state) (kept : ∀ base, Keeps (Relation base) script)
    (carried : ∀ base state, Invariant base → Relation base state → Invariant state) :
    Keeps Invariant script := by
  intro fates base holds
  exact (kept base).consequence (fun _ same => same) (fun _ state same => carried base state holds same)
    (fun state same => carried base state holds same) fates base (reflexive base)

/-- A script that keeps the invariant keeps it in the state it stops in. -/
theorem Keeps.state {script : Script State Value} (kept : Keeps Invariant script)
    (fates : List Fate) {state : State} (holds : Invariant state) :
    Invariant (script fates state).state :=
  Triple.state kept fates holds

end Keeps

/-! ### Uninterrupted runs -/

section Completes

variable {State : Type u} {Value Next : Type v}

/-- The uninterrupted run from `state` ends in `after` with this value. -/
def Completes (script : Script State Value) (state : State) (value : Value) (after : State) : Prop :=
  script [] state = .done value after []

theorem completes_pure (state : State) (value : Value) :
    Completes (pure value : Script State Value) state value state := rfl

theorem completes_get (look : State → Value) (state : State) :
    Completes (Script.get look) state (look state) state := rfl

theorem completes_run {command : Command State} {state after : State}
    (effect : command.effect state = some after) : Completes (Script.run command) state true after := by
  show Script.complete command [] state = _
  rw [Script.complete, effect]

theorem completes_check (state : State) :
    Completes (Script.run (Command.check : Command State)) state true state := completes_run rfl

theorem completes_bind {first : Script State Value} {next : Value → Script State Next}
    {state middle after : State} {value : Value} {final : Next}
    (begins : Completes first state value middle)
    (continues : Completes (next value) middle final after) :
    Completes (first >>= next) state final after := by
  show Script.bind first next [] state = _
  unfold Script.bind
  rw [show first [] state = _ from begins]
  exact continues

theorem completes_andThen {first second : Script State Bool} {state middle after : State}
    {ok : Bool} (begins : Completes first state true middle)
    (continues : Completes second middle ok after) :
    Completes (first.andThen second) state ok after :=
  completes_bind begins continues

theorem completes_ignore {script : Script State Bool} {state after : State} {ok : Bool}
    (ends : Completes script state ok after) : Completes script.ignore state true after :=
  completes_bind ends (completes_pure after true)

theorem completes_steps_nil (state : State) :
    Completes (Script.steps ([] : List (Script State Bool))) state true state := rfl

theorem completes_steps_cons {step : Script State Bool} {rest : List (Script State Bool)}
    {state middle after : State} {ok : Bool} (begins : Completes step state true middle)
    (continues : Completes (Script.steps rest) middle ok after) :
    Completes (Script.steps (step :: rest)) state ok after :=
  completes_andThen begins continues

end Completes

end JooanW3U.Library.Crash

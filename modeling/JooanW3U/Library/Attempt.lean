import Mathlib.Logic.Relation

/-!
Owns attempts, state transformers that report success, and their chaining in the
manner of C's `a || b || c`: the next one runs only after the one before has
succeeded, and the state keeps what was done until one failed.

Does not own what the attempts do.
-/

namespace JooanW3U.Library

universe u

/-- A state transformer that reports whether it succeeded. -/
abbrev Attempt (State : Type u) : Type u :=
  State → Bool × State

namespace Attempt

variable {State : Type u}

def andThen (first second : Attempt State) : Attempt State := fun state =>
  match first state with
  | (false, state) => (false, state)
  | (true, state) => second state

theorem andThen_refused {first second : Attempt State} {state next : State}
    (refused : first state = (false, next)) : first.andThen second state = (false, next) := by
  simp only [andThen, refused]

theorem andThen_done {first second : Attempt State} {state next : State}
    (done : first state = (true, next)) : first.andThen second state = second next := by
  simp only [andThen, done]

/-- Where the first part ends and, if it succeeded, where the second ends from there. -/
theorem andThen_ends {Ends : State → Prop} {first second : Attempt State} {state : State}
    (left : Ends (first state).2)
    (right : (first state).1 = true → Ends (second (first state).2).2) :
    Ends (first.andThen second state).2 := by
  cases attempted : first state with
  | mk done middle =>
      rw [attempted] at left right
      cases done with
      | false => rwa [andThen_refused attempted]
      | true =>
          rw [andThen_done attempted]
          exact right rfl

/-- A chain that succeeded passed through a state where its first part had. -/
theorem andThen_eq_true {first second : Attempt State} {state final : State}
    (ran : first.andThen second state = (true, final)) :
    ∃ middle, first state = (true, middle) ∧ second middle = (true, final) := by
  cases attempted : first state with
  | mk done middle =>
      cases done with
      | false =>
          rw [andThen_refused attempted] at ran
          exact absurd (congrArg Prod.fst ran) Bool.false_ne_true
      | true =>
          rw [andThen_done attempted] at ran
          exact ⟨middle, rfl, ran⟩

/-- What both parts respect, whatever they report, the chain respects. -/
theorem andThen_related (relation : State → State → Prop) {first second : Attempt State}
    (compose : ∀ {start middle final}, relation start middle → relation middle final →
      relation start final)
    (left : ∀ state, relation state (first state).2)
    (right : ∀ state, relation state (second state).2) (state : State) :
    relation state (first.andThen second state).2 := by
  cases attempted : first state with
  | mk done middle =>
      have arrived : relation state middle := by
        have := left state
        rwa [attempted] at this
      cases done with
      | false => rwa [andThen_refused attempted]
      | true =>
          rw [andThen_done attempted]
          exact compose arrived (right middle)

end Attempt

end JooanW3U.Library

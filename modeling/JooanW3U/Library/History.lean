import Mathlib.Data.List.Basic
import Mathlib.Data.List.Induction

/-!
Owns logs that only grow at their end: what the last mark of a kind says about
the log, and the rules by which "nothing bad after a mark until it is lifted",
"every event of a kind stands at a good place", "some event stands at a good place" and
"it has held ever since" pass from a log to a longer one.

Does not own what is logged.
-/

namespace JooanW3U.Library

universe u v

variable {Event : Type u}

/-- A log that ends in one more event has its split points in the old log, or is
split at the new event. -/
theorem append_singleton_eq_append_cons {log before after : List Event} {last event : Event}
    (split : log ++ [last] = before ++ event :: after) :
    (log = before ∧ last = event ∧ after = []) ∨
      ∃ shorter, after = shorter ++ [last] ∧ log = before ++ event :: shorter := by
  rcases List.eq_nil_or_concat' after with rfl | ⟨shorter, final, rfl⟩
  · have same := List.append_inj' split rfl
    exact .inl ⟨same.1, List.head_eq_of_cons_eq same.2, rfl⟩
  · have shape : before ++ event :: (shorter ++ [final]) = (before ++ event :: shorter) ++ [final] := by
      simp
    rw [shape] at split
    have same := List.append_inj' split rfl
    exact .inr ⟨shorter, by rw [List.head_eq_of_cons_eq same.2], same.1⟩

/-- Every `event` of the log stands at a place whose past is `good` for it. -/
def Placed (good : List Event → Event → Prop) (log : List Event) : Prop :=
  ∀ before event after, log = before ++ event :: after → good before event

theorem placed_nil (good : List Event → Event → Prop) : Placed good [] := by
  intro before event after split
  exact absurd split (by simp)

theorem Placed.snoc {good : List Event → Event → Prop} {log : List Event} {event : Event}
    (placed : Placed good log) (here : good log event) : Placed good (log ++ [event]) := by
  intro before other after split
  rcases append_singleton_eq_append_cons split with ⟨same, rfl, -⟩ | ⟨shorter, -, earlier⟩
  · exact same ▸ here
  · exact placed before other shorter earlier

theorem Placed.init {good : List Event → Event → Prop} {log : List Event} {event : Event}
    (placed : Placed good (log ++ [event])) : Placed good log :=
  fun before other after split => placed before other (after ++ [event]) (by simp [split])

theorem Placed.last {good : List Event → Event → Prop} {log : List Event} {event : Event}
    (placed : Placed good (log ++ [event])) : good log event :=
  placed log event [] rfl

/-- Some `event` of the log stands at a place whose past is `good` for it. -/
def Occurs (good : List Event → Event → Prop) (log : List Event) : Prop :=
  ∃ before event after, log = before ++ event :: after ∧ good before event

theorem Occurs.last {good : List Event → Event → Prop} {log : List Event} {event : Event}
    (here : good log event) : Occurs good (log ++ [event]) :=
  ⟨log, event, [], rfl, here⟩

theorem Occurs.snoc {good : List Event → Event → Prop} {log : List Event}
    (occurs : Occurs good log) (last : Event) : Occurs good (log ++ [last]) := by
  obtain ⟨before, event, after, split, here⟩ := occurs
  exact ⟨before, event, after ++ [last], by simp [split], here⟩

/-- The log `holds` at its end and wherever it was cut behind this event. -/
def HeldSince (holds : List Event → Prop) (log : List Event) (first : Event) : Prop :=
  ∃ before after, log = before ++ first :: after ∧
    ∀ part, part <+: after → holds (before ++ first :: part)

theorem HeldSince.now {holds : List Event → Prop} {log : List Event} {first : Event}
    (held : HeldSince holds log first) : holds log := by
  obtain ⟨before, after, split, throughout⟩ := held
  exact split ▸ throughout after (List.prefix_refl after)

/-- One event earlier it held as well, unless that is where it begins. -/
theorem HeldSince.earlier {holds : List Event → Prop} {log : List Event} {last first : Event}
    (held : HeldSince holds (log ++ [last]) first) : last = first ∨ HeldSince holds log first := by
  obtain ⟨before, after, split, throughout⟩ := held
  rcases append_singleton_eq_append_cons split with ⟨-, same, -⟩ | ⟨shorter, rfl, same⟩
  · exact .inl same
  · exact .inr ⟨before, shorter, same, fun part inside =>
      throughout part (inside.trans (List.prefix_append shorter [last]))⟩

/-- The value the last event that sets one has set. -/
def lastSet {Value : Type v} (sets : Event → Option Value) (initial : Value)
    (log : List Event) : Value :=
  log.foldl (fun value event => (sets event).getD value) initial

section LastSet

variable {Value : Type v} (sets : Event → Option Value) (initial : Value)

@[simp] theorem lastSet_nil : lastSet sets initial [] = initial := rfl

@[simp] theorem lastSet_snoc (log : List Event) (event : Event) :
    lastSet sets initial (log ++ [event]) = (sets event).getD (lastSet sets initial log) := by
  simp [lastSet]

/-- An event sets the value for as long as no later one sets another. -/
theorem lastSet_of_split {before after : List Event} {event : Event} {value : Value}
    (set : sets event = some value)
    (kept : ∀ later ∈ after, ∀ other, sets later = some other → other = value) :
    lastSet sets initial (before ++ event :: after) = value := by
  induction after using List.reverseRecOn with
  | nil => simp [lastSet, set]
  | append_singleton shorter last inductionHypothesis =>
      have shape : before ++ event :: (shorter ++ [last]) = (before ++ event :: shorter) ++ [last] := by
        simp
      have earlier := inductionHypothesis fun later member => kept later (by simp [member])
      rw [shape, lastSet_snoc, earlier]
      cases sets_last : sets last with
      | none => rfl
      | some other => exact kept last (by simp) other sets_last

/-- Events that set nothing leave the value. -/
theorem lastSet_append (log : List Event) {more : List Event}
    (silent : ∀ event ∈ more, sets event = none) :
    lastSet sets initial (log ++ more) = lastSet sets initial log := by
  induction more using List.reverseRecOn with
  | nil => rw [List.append_nil]
  | append_singleton shorter last inductionHypothesis =>
      rw [← List.append_assoc, lastSet_snoc, silent last (by simp)]
      exact inductionHypothesis fun event member => silent event (by simp [member])

end LastSet

/-- How many events of a kind there are since the last one that resets the count. -/
def countSince (resets counts : Event → Bool) (log : List Event) : Nat :=
  log.foldl (fun total event => if resets event then 0 else if counts event then total + 1 else total) 0

section CountSince

variable (resets counts : Event → Bool)

@[simp] theorem countSince_nil : countSince resets counts [] = 0 := rfl

@[simp] theorem countSince_snoc (log : List Event) (event : Event) :
    countSince resets counts (log ++ [event]) =
      if resets event then 0
      else if counts event then countSince resets counts log + 1
      else countSince resets counts log := by
  simp [countSince]

/-- After a reset that no other follows the count is the number of events counted. -/
theorem countSince_of_split {before after : List Event} {event : Event}
    (reset : resets event = true) (kept : ∀ later ∈ after, resets later = false) :
    countSince resets counts (before ++ event :: after) = after.countP counts := by
  induction after using List.reverseRecOn with
  | nil => simp [countSince, reset]
  | append_singleton shorter last inductionHypothesis =>
      have shape : before ++ event :: (shorter ++ [last]) = (before ++ event :: shorter) ++ [last] := by
        simp
      rw [shape, countSince_snoc, inductionHypothesis fun later member => kept later (by simp [member])]
      simp only [kept last (by simp), Bool.false_eq_true, ↓reduceIte, List.countP_append,
        List.countP_singleton]
      split <;> rfl

end CountSince

end JooanW3U.Library

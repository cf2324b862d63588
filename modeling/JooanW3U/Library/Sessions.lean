import JooanW3U.Library.History
import Mathlib.Logic.Function.Basic

/-!
Owns sessions on one ordered channel: several senders each hold at most one session, whose
messages are numbered one behind the other from its opening to its end. Main results: the
senders' moves keep the log orderly, and who follows a session that has not ended finds its
next message numbered next.

Does not own who may hold a session, nor when.
-/

namespace JooanW3U.Library

universe u v w

/-- How messages belong to sessions: a number of 0 stands for none. -/
structure Sessions (Id : Type u) (Message : Type v) where
  session : Message → Id
  number : Message → Nat
  opens : Message → Bool
  ends : Message → Bool
  next : Nat → Nat

/-- A session as its holder knows it: the number of its last message. -/
structure Holding (Id : Type u) where
  id : Id
  number : Nat
deriving DecidableEq

namespace Sessions

variable {Id : Type u} {Message : Type v} {Slot : Type w} [DecidableEq Id] [DecidableEq Slot]
variable (sessions : Sessions Id Message)

/-- The number of the last message of a session. -/
def lastNumber (id : Id) (log : List Message) : Nat :=
  lastSet (fun message =>
    if sessions.session message = id then some (sessions.number message) else none) 0 log

/-- The log holds the session's opening and not its end, and this is its last number. -/
structure Tracks (log : List Message) (held : Holding Id) : Prop where
  number : sessions.lastNumber held.id log = held.number
  opened : ∃ message ∈ log, sessions.session message = held.id
  unended : ∀ message ∈ log, sessions.session message = held.id → sessions.ends message = false

/-- A message has its place behind these: it opens a session that is not among them, or goes
on with one that has not ended, and is the next of it. -/
structure InPlace (before : List Message) (message : Message) : Prop where
  number : sessions.number message =
    sessions.next (sessions.lastNumber (sessions.session message) before)
  opens : sessions.opens message = true →
    ∀ other ∈ before, sessions.session other ≠ sessions.session message
  follows : sessions.opens message = false →
    ∃ other ∈ before, sessions.session other = sessions.session message
  unended : ∀ other ∈ before, sessions.session other = sessions.session message →
    sessions.ends other = false

/-- The log of what the holders of sessions have sent. -/
structure Orderly (holders : Slot → Option (Holding Id)) (log : List Message) : Prop where
  placed : Placed sessions.InPlace log
  held : ∀ slot held, holders slot = some held → sessions.Tracks log held
  apart : ∀ slot other held found, holders slot = some held → holders other = some found →
    held.id = found.id → slot = other

variable {sessions}

/-! ## Following a session -/

theorem lastNumber_snoc_self (log : List Message) (message : Message) :
    sessions.lastNumber (sessions.session message) (log ++ [message]) = sessions.number message := by
  rw [lastNumber, lastSet_snoc, if_pos rfl]
  rfl

theorem lastNumber_snoc_other {id : Id} {message : Message} (other : sessions.session message ≠ id)
    (log : List Message) :
    sessions.lastNumber id (log ++ [message]) = sessions.lastNumber id log := by
  rw [lastNumber, lastSet_snoc, if_neg other]
  rfl

theorem lastNumber_fresh {id : Id} {log : List Message}
    (fresh : ∀ message ∈ log, sessions.session message ≠ id) : sessions.lastNumber id log = 0 := by
  induction log using List.reverseRecOn with
  | nil => rfl
  | append_singleton log message inductionHypothesis =>
      rw [lastNumber_snoc_other (fresh message (by simp))]
      exact inductionHypothesis fun other member => fresh other (by simp [member])

/-- A message of another session changes nothing. -/
theorem Tracks.other {log : List Message} {held : Holding Id} (tracks : sessions.Tracks log held)
    {message : Message} (other : sessions.session message ≠ held.id) :
    sessions.Tracks (log ++ [message]) held where
  number := (lastNumber_snoc_other other log).trans tracks.number
  opened := by
    obtain ⟨opening, member, same⟩ := tracks.opened
    exact ⟨opening, List.mem_append_left _ member, same⟩
  unended := by
    intro found member same
    rcases List.mem_append.mp member with earlier | last
    · exact tracks.unended found earlier same
    · rw [List.mem_singleton.mp last] at same
      exact absurd same other

/-- A message in place starts or goes on with its session, unless it ends it. -/
theorem InPlace.tracks {log : List Message} {message : Message}
    (place : sessions.InPlace log message) (goes : sessions.ends message = false) :
    sessions.Tracks (log ++ [message]) ⟨sessions.session message, sessions.number message⟩ where
  number := lastNumber_snoc_self log message
  opened := ⟨message, List.mem_append_right _ List.mem_cons_self, rfl⟩
  unended := by
    intro found member same
    rcases List.mem_append.mp member with earlier | last
    · exact place.unended found earlier same
    · rw [List.mem_singleton.mp last]
      exact goes

/-- Who follows a session finds its next message numbered next, and not an opening. -/
theorem Tracks.next {log : List Message} {held : Holding Id} (tracks : sessions.Tracks log held)
    {message : Message} (place : sessions.InPlace log message)
    (same : sessions.session message = held.id) :
    sessions.number message = sessions.next held.number ∧ sessions.opens message = false := by
  constructor
  · rw [place.number, same, tracks.number]
  · obtain ⟨opening, member, opened⟩ := tracks.opened
    by_contra opens
    exact place.opens (by simpa using opens) opening member (opened.trans same.symm)

/-! ## Holding a session -/

theorem Orderly.start (holders : Slot → Option (Holding Id)) (free : ∀ slot, holders slot = none) :
    sessions.Orderly holders [] where
  placed := placed_nil _
  held := fun slot held same => absurd ((free slot).symm.trans same) (by simp)
  apart := fun slot other held found same => absurd ((free slot).symm.trans same) (by simp)

section Moves

variable {holders : Slot → Option (Holding Id)} {log : List Message}
variable (orderly : sessions.Orderly holders log)
include orderly

/-- A slot lets go of what it holds. -/
theorem Orderly.drops (slot : Slot) : sessions.Orderly (Function.update holders slot none) log where
  placed := orderly.placed
  held := by
    intro found held same
    by_cases here : found = slot
    · rw [here, Function.update_self] at same
      contradiction
    · rw [Function.update_of_ne here] at same
      exact orderly.held found held same
  apart := by
    intro one two held found same same'
    by_cases here : one = slot
    · rw [here, Function.update_self] at same
      contradiction
    · by_cases there : two = slot
      · rw [there, Function.update_self] at same'
        contradiction
      · rw [Function.update_of_ne here] at same
        rw [Function.update_of_ne there] at same'
        exact orderly.apart one two held found same same'

/-- What stays true of the others when a slot sends a message of its own. -/
theorem Orderly.sends {slot : Slot} {message : Message} (place : sessions.InPlace log message)
    (own : ∀ other held, other ≠ slot → holders other = some held →
      held.id ≠ sessions.session message) (after : Option (Holding Id))
    (kept : ∀ held, after = some held →
      held = ⟨sessions.session message, sessions.number message⟩ ∧ sessions.ends message = false) :
    sessions.Orderly (Function.update holders slot after) (log ++ [message]) where
  placed := orderly.placed.snoc place
  held := by
    intro found held same
    by_cases here : found = slot
    · rw [here, Function.update_self] at same
      obtain ⟨rfl, goes⟩ := kept held same
      exact place.tracks goes
    · rw [Function.update_of_ne here] at same
      exact (orderly.held found held same).other fun equal => own found held here same equal.symm
  apart := by
    intro one two held found same same' ids
    by_cases here : one = slot
    · by_cases there : two = slot
      · exact here.trans there.symm
      · rw [here, Function.update_self] at same
        rw [Function.update_of_ne there] at same'
        obtain ⟨rfl, -⟩ := kept held same
        exact absurd ids.symm (own two found there same')
    · rw [Function.update_of_ne here] at same
      by_cases there : two = slot
      · rw [there, Function.update_self] at same'
        obtain ⟨rfl, -⟩ := kept found same'
        exact absurd ids (own one held here same)
      · rw [Function.update_of_ne there] at same'
        exact orderly.apart one two held found same same' ids

/-- A slot opens a session nobody has heard of. -/
theorem Orderly.acquires (slot : Slot) {message : Message} (opens : sessions.opens message = true)
    (goes : sessions.ends message = false) (first : sessions.number message = sessions.next 0)
    (fresh : ∀ other ∈ log, sessions.session other ≠ sessions.session message) :
    sessions.Orderly
      (Function.update holders slot (some ⟨sessions.session message, sessions.number message⟩))
      (log ++ [message]) := by
  have place : sessions.InPlace log message :=
    { number := by rw [lastNumber_fresh fresh, first]
      opens := fun _ => fresh
      follows := fun shut => absurd (opens.symm.trans shut) (by simp)
      unended := fun other member same => absurd same (fresh other member) }
  apply orderly.sends place
  · intro other held _ holds equal
    obtain ⟨opening, member, same⟩ := (orderly.held other held holds).opened
    exact fresh opening member (same.trans equal)
  · intro held same
    exact ⟨(Option.some.inj same).symm, goes⟩

/-- The next message of the session a slot holds has its place. -/
theorem Orderly.place {slot : Slot} {held : Holding Id} (holds : holders slot = some held)
    {message : Message} (same : sessions.session message = held.id)
    (next : sessions.number message = sessions.next held.number)
    (shut : sessions.opens message = false) : sessions.InPlace log message := by
  have tracks := orderly.held slot held holds
  obtain ⟨opening, member, opened⟩ := tracks.opened
  exact
    { number := by rw [next, same, tracks.number]
      opens := fun opens => absurd (shut.symm.trans opens) (by simp)
      follows := fun _ => ⟨opening, member, opened.trans same.symm⟩
      unended := fun other found equal => tracks.unended other found (equal.trans same) }

theorem Orderly.own {slot : Slot} {held : Holding Id} (holds : holders slot = some held)
    {message : Message} (same : sessions.session message = held.id) :
    ∀ other found, other ≠ slot → holders other = some found →
      found.id ≠ sessions.session message := by
  intro other found apart holds' equal
  exact apart (orderly.apart other slot found held holds' holds (equal.trans same))

/-- A slot goes on with its session. -/
theorem Orderly.goesOn {slot : Slot} {held : Holding Id} (holds : holders slot = some held)
    {message : Message} (same : sessions.session message = held.id)
    (next : sessions.number message = sessions.next held.number)
    (shut : sessions.opens message = false) (goes : sessions.ends message = false) :
    sessions.Orderly
      (Function.update holders slot (some ⟨sessions.session message, sessions.number message⟩))
      (log ++ [message]) := by
  apply orderly.sends (orderly.place holds same next shut) (orderly.own holds same)
  intro held equal
  exact ⟨(Option.some.inj equal).symm, goes⟩

/-- A slot ends its session. -/
theorem Orderly.ends {slot : Slot} {held : Holding Id} (holds : holders slot = some held)
    {message : Message} (same : sessions.session message = held.id)
    (next : sessions.number message = sessions.next held.number)
    (shut : sessions.opens message = false) :
    sessions.Orderly (Function.update holders slot none) (log ++ [message]) := by
  apply orderly.sends (orderly.place holds same next shut) (orderly.own holds same)
  intro held equal
  contradiction

end Moves

/-! ## What becomes of a session -/

/-- Every session of the log is held, has ended, or was let go of. -/
def Accounted (sessions : Sessions Id Message) (holders : Slot → Option (Holding Id))
    (log : List Message) (lost : Id → Prop) : Prop :=
  ∀ message ∈ log,
    (∃ slot held, holders slot = some held ∧ held.id = sessions.session message) ∨
      (∃ last ∈ log, sessions.session last = sessions.session message ∧ sessions.ends last = true) ∨
      lost (sessions.session message)

section Accounts

variable {holders : Slot → Option (Holding Id)} {log : List Message} {lost : Id → Prop}

/-- Where a slot's session is accounted for, it may change what it holds. -/
theorem Accounted.changes (accounted : sessions.Accounted holders log lost) {slot : Slot}
    {after : Option (Holding Id)} {more : List Message}
    (old : ∀ held, holders slot = some held →
      (∃ kept, after = some kept ∧ kept.id = held.id) ∨
        (∃ last ∈ more, sessions.session last = held.id ∧ sessions.ends last = true) ∨
        lost held.id)
    (new : ∀ message ∈ more, (∃ held, after = some held ∧ held.id = sessions.session message) ∨
      sessions.ends message = true) :
    sessions.Accounted (Function.update holders slot after) (log ++ more) lost := by
  have mine : ∀ held, after = some held →
      ∃ found kept, Function.update holders slot after found = some kept ∧ kept.id = held.id :=
    fun held same => ⟨slot, held, by rw [Function.update_self, same], rfl⟩
  intro message member
  rcases List.mem_append.mp member with earlier | later
  · rcases accounted message earlier with ⟨found, held, holds, same⟩ | ⟨last, ended, ends⟩ | gone
    · by_cases here : found = slot
      · rw [here] at holds
        rcases old held holds with ⟨kept, stays, equal⟩ | ⟨last, ended, equal, ends⟩ | gone
        · obtain ⟨found, other, holds', equal'⟩ := mine kept stays
          exact .inl ⟨found, other, holds', equal'.trans (equal.trans same)⟩
        · exact .inr (.inl ⟨last, List.mem_append_right _ ended, equal.trans same, ends⟩)
        · exact .inr (.inr (same ▸ gone))
      · exact .inl ⟨found, held, by rw [Function.update_of_ne here, holds], same⟩
    · exact .inr (.inl ⟨last, List.mem_append_left _ ended, ends⟩)
    · exact .inr (.inr gone)
  · rcases new message later with ⟨held, stays, same⟩ | ends
    · obtain ⟨found, kept, holds, equal⟩ := mine held stays
      exact .inl ⟨found, kept, holds, equal.trans same⟩
    · exact .inr (.inl ⟨message, List.mem_append_right _ later, rfl, ends⟩)

/-- Who has heard the whole log follows a session that is still held, with the holder's
number, or that was let go of. -/
theorem Orderly.agrees (orderly : sessions.Orderly holders log)
    (accounted : sessions.Accounted holders log lost) {followed : Holding Id}
    (tracks : sessions.Tracks log followed) :
    (∃ slot, holders slot = some followed) ∨ lost followed.id := by
  obtain ⟨opening, member, opened⟩ := tracks.opened
  rcases accounted opening member with ⟨slot, held, holds, same⟩ | ⟨last, found, same, ends⟩ | gone
  · have ids : held.id = followed.id := same.trans opened
    have numbers : held.number = followed.number := by
      rw [← (orderly.held slot held holds).number, ids, tracks.number]
    obtain ⟨id, number⟩ := held
    obtain ⟨id', number'⟩ := followed
    dsimp only at ids numbers
    exact .inl ⟨slot, by rw [holds, ids, numbers]⟩
  · exact absurd (ends.symm.trans (tracks.unended last found (same.trans opened))) (by simp)
  · exact .inr (opened ▸ gone)

end Accounts

end Sessions

end JooanW3U.Library

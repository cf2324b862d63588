import Mathlib.Data.List.Basic

/-!
Owns a reader that gives one thing after another and starts over at the end of what it reads:
when it plays given things over and over, and reports an end only there. Main result: it does
so exactly when one pass gives these things and then the end.

Does not own what is read, or how.
-/

namespace JooanW3U.Library.LoopedReader

universe u v

variable {State : Type u} {Out : Type v}

/-- A reader. `read` fails, gives a thing, or reports an end; `rewind` goes back to the start, and
`atEnd` says whether nothing was left when an end was reported. -/
structure Reader (State : Type u) (Out : Type v) where
  read : State → Option (Option Out × State)
  rewind : State → State
  atEnd : State → Bool

/-- What a call gives: the thing with the state behind it unless it fails, and for each end
reported whether nothing was left. -/
abbrev Result (State : Type u) (Out : Type v) : Type (max u v) :=
  Option (Out × State) × List Bool

/-- One call: at an end it starts over, and at a second one it fails. -/
def Reader.next (reader : Reader State Out) (state : State) : Result State Out :=
  match reader.read state with
  | none => (none, [])
  | some (some out, after) => (some (out, after), [])
  | some (none, after) =>
      match reader.read (reader.rewind after) with
      | none => (none, [reader.atEnd after])
      | some (some out, again) => (some (out, again), [reader.atEnd after])
      | some (none, again) => (none, [reader.atEnd after, reader.atEnd again])

/-! ### Calls -/

/-- The state after some calls, unless one has failed. -/
def after (next : State → Result State Out) (start : State) : Nat → Option State
  | 0 => some start
  | calls + 1 => (after next start calls).bind fun state => (next state).1.map Prod.snd

/-- What the call after some calls gives. -/
def call (next : State → Result State Out) (start : State) (calls : Nat) :
    Option Out × List Bool :=
  match after next start calls with
  | none => (none, [])
  | some state => ((next state).1.map Prod.fst, (next state).2)

/-- The calls give the things over and over, and report an end only between two rounds and with
nothing left; without any thing, the first call finds the end twice. -/
def Plays (next : State → Result State Out) (start : State) : List Out → Prop
  | [] => call next start 0 = (none, [true, true])
  | out :: rest => ∀ calls,
      call next start calls = ((out :: rest)[calls % (rest.length + 1)]?,
        if 0 < calls ∧ calls % (rest.length + 1) = 0 then [true] else [])

/-! ### One pass -/

/-- One pass gives the things, and then the end. -/
def Reader.Reads (reader : Reader State Out) : State → List Out → Prop
  | state, [] => ∃ last, reader.read state = some (none, last) ∧ reader.atEnd last = true
  | state, out :: rest => ∃ further, reader.read state = some (some out, further) ∧
      reader.Reads further rest

variable {reader : Reader State Out} {start : State}

theorem Reader.next_of_reads {state : State} {out : Out} {rest : List Out}
    (reads : reader.Reads state (out :: rest)) :
    ∃ further, reader.next state = (some (out, further), []) ∧ reader.Reads further rest := by
  obtain ⟨further, read, later⟩ := reads
  refine ⟨further, ?_, later⟩
  rw [Reader.next, read]

theorem Reader.next_silent {state further : State} {out : Out}
    (gave : reader.next state = (some (out, further), [])) :
    reader.read state = some (some out, further) := by
  rw [Reader.next] at gave
  split at gave
  · cases gave
  · cases gave
    assumption
  · split at gave <;> cases gave

theorem Reader.next_ended {state further : State} {out : Out}
    (gave : reader.next state = (some (out, further), [true])) : reader.Reads state [] := by
  rw [Reader.next] at gave
  split at gave
  · cases gave
  · cases gave
  · rename_i last read
    split at gave
    · cases gave
    · have ended : reader.atEnd last = true := by
        injection gave with _ ends
        exact List.singleton_inj.mp ends
      exact ⟨last, read, ended⟩
    · cases gave

/-! ### One pass and all calls -/

/-- What is kept by reading and by starting over, after which a pass is as from the start. -/
structure Reader.Steady (reader : Reader State Out) (start : State) (kept : State → Prop) : Prop where
  begins : kept start
  reads : ∀ state out further, kept state → reader.read state = some (out, further) → kept further
  rewinds : ∀ state, kept state → kept (reader.rewind state)
  again : ∀ state outs, kept state → reader.Reads start outs →
    reader.Reads (reader.rewind state) outs

section Rounds

variable {kept : State → Prop} (steady : reader.Steady start kept)

include steady in
theorem Reader.Steady.next {state further : State} {out : Out} {ends : List Bool}
    (known : kept state) (gave : reader.next state = (some (out, further), ends)) :
    kept further := by
  rw [Reader.next] at gave
  split at gave
  · cases gave
  · rename_i read
    cases gave
    exact steady.reads _ _ _ known read
  · rename_i last read
    split at gave
    · cases gave
    · rename_i again
      cases gave
      exact steady.reads _ _ _ (steady.rewinds _ (steady.reads _ _ _ known read)) again
    · cases gave

theorem drop_all (out : Out) (rest : List Out) : (out :: rest).drop (rest.length + 1) = [] :=
  List.drop_of_length_le (Nat.le_refl _)

/-- How much of a round is behind the reader before a call. -/
def place (size : Nat) : Nat → Nat
  | 0 => 0
  | calls + 1 => calls % size + 1

theorem place_lt {size calls : Nat} (within : place size calls < size) :
    calls % size = place size calls ∧ place size (calls + 1) = place size calls + 1 ∧
      ¬ (0 < calls ∧ calls % size = 0) := by
  cases calls with
  | zero => exact ⟨Nat.zero_mod size, congrArg (· + 1) (Nat.zero_mod size), by omega⟩
  | succ calls =>
      rw [place] at within
      have here : (calls + 1) % size = calls % size + 1 := by
        rw [← Nat.mod_add_mod, Nat.mod_eq_of_lt within]
      refine ⟨here, by rw [place, place, here], ?_⟩
      rw [here]
      omega

theorem place_full {size calls : Nat} (positive : 0 < size) (full : place size calls = size) :
    0 < calls ∧ calls % size = 0 ∧ place size (calls + 1) = 1 := by
  cases calls with
  | zero => exact absurd full (Nat.ne_of_lt positive)
  | succ calls =>
      rw [place] at full
      have wraps : (calls + 1) % size = 0 := by
        rw [← Nat.mod_add_mod, full, Nat.mod_self]
      exact ⟨Nat.succ_pos calls, wraps, by rw [place, wraps]⟩

theorem place_le {size : Nat} (positive : 0 < size) (calls : Nat) : place size calls ≤ size := by
  cases calls with
  | zero => exact Nat.zero_le size
  | succ calls => exact Nat.mod_lt calls positive

variable {out : Out} {rest : List Out}

include steady in
/-- A call within a round gives its thing silently; one behind a round starts the next. -/
theorem Reader.Steady.round (whole : reader.Reads start (out :: rest)) {state : State}
    (known : kept state) {calls : Nat}
    (reads : reader.Reads state ((out :: rest).drop (place (rest.length + 1) calls))) :
    ∃ given further, (out :: rest)[calls % (rest.length + 1)]? = some given ∧
      reader.next state = (some (given, further),
        if 0 < calls ∧ calls % (rest.length + 1) = 0 then [true] else []) ∧
      reader.Reads further ((out :: rest).drop (place (rest.length + 1) (calls + 1))) := by
  by_cases within : place (rest.length + 1) calls < rest.length + 1
  · obtain ⟨here, onward, silent⟩ := place_lt within
    rw [@List.drop_eq_getElem_cons _ _ (out :: rest) within] at reads
    obtain ⟨further, gave, later⟩ := Reader.next_of_reads reads
    refine ⟨_, further, ?_, by rw [gave, if_neg silent], by rw [onward]; exact later⟩
    rw [here]
    exact @List.getElem?_eq_getElem _ (out :: rest) _ within
  · have full := Nat.le_antisymm (place_le (Nat.succ_pos _) calls) (Nat.not_lt.mp within)
    obtain ⟨begun, wraps, first⟩ := place_full (Nat.succ_pos _) full
    have ended : reader.Reads state [] := by
      rw [full, Nat.succ_eq_add_one, drop_all] at reads
      exact reads
    obtain ⟨last, read, nothing⟩ := ended
    obtain ⟨further, again, later⟩ := steady.again last _ (steady.reads _ _ _ known read) whole
    refine ⟨out, further, by rw [wraps]; rfl, ?_, ?_⟩
    · rw [if_pos ⟨begun, wraps⟩, Reader.next, read]
      dsimp only
      rw [again, nothing]
    · rw [first]
      exact later

include steady in
theorem Reader.Steady.after_spec (whole : reader.Reads start (out :: rest)) (calls : Nat) :
    ∃ state, after reader.next start calls = some state ∧ kept state ∧
      reader.Reads state ((out :: rest).drop (place (rest.length + 1) calls)) := by
  induction calls with
  | zero => exact ⟨start, rfl, steady.begins, whole⟩
  | succ calls inductionHypothesis =>
      obtain ⟨state, reached, known, reads⟩ := inductionHypothesis
      obtain ⟨given, further, -, gave, later⟩ := steady.round whole known reads
      refine ⟨further, ?_, steady.next known gave, later⟩
      rw [after, reached, Option.bind_some, gave]
      rfl

/-- A call that gave something had a state to begin with. -/
theorem call_eq_some {next : State → Result State Out} {calls : Nat} {given : Out}
    {ends : List Bool} (gave : call next start calls = (some given, ends)) :
    ∃ state further, after next start calls = some state ∧
      next state = (some (given, further), ends) := by
  rw [call] at gave
  split at gave
  · cases gave
  · rename_i state reached
    obtain ⟨one, two⟩ := Prod.mk.inj gave
    obtain ⟨⟨given', further⟩, made, rfl⟩ := Option.map_eq_some_iff.mp one
    exact ⟨state, further, reached, Prod.ext made two⟩

theorem Reader.reads_of_plays (plays : Plays reader.next start (out :: rest)) {left : Nat}
    (within : left ≤ rest.length + 1) :
    ∃ state, after reader.next start (rest.length + 1 - left) = some state ∧
      reader.Reads state ((out :: rest).drop (rest.length + 1 - left)) := by
  induction left with
  | zero =>
      have turn := plays (rest.length + 1)
      rw [Nat.mod_self, if_pos ⟨Nat.succ_pos _, rfl⟩] at turn
      obtain ⟨state, further, reached, gave⟩ := call_eq_some turn
      refine ⟨state, reached, ?_⟩
      rw [Nat.sub_zero, drop_all]
      exact Reader.next_ended gave
  | succ left inductionHypothesis =>
      obtain ⟨state, reached, reads⟩ := inductionHypothesis (Nat.le_of_succ_le within)
      have before : rest.length + 1 - left = rest.length + 1 - (left + 1) + 1 := by omega
      have inRound : rest.length + 1 - (left + 1) < rest.length + 1 := by omega
      have turn := plays (rest.length + 1 - (left + 1))
      rw [Nat.mod_eq_of_lt inRound, if_neg (by omega),
        @List.getElem?_eq_getElem _ (out :: rest) _ inRound] at turn
      obtain ⟨earlier, further, reachedEarlier, gave⟩ := call_eq_some turn
      refine ⟨earlier, reachedEarlier, ?_⟩
      rw [@List.drop_eq_getElem_cons _ _ (out :: rest) inRound]
      refine ⟨further, Reader.next_silent gave, ?_⟩
      have same : further = state := by
        rw [before, after, reachedEarlier, Option.bind_some, gave] at reached
        exact Option.some.inj reached
      rw [same, ← before]
      exact reads

include steady in
/-- The calls play the things over and over exactly when one pass gives them and then the end. -/
theorem Reader.Steady.plays_iff_reads (outs : List Out) :
    Plays reader.next start outs ↔ reader.Reads start outs := by
  cases outs with
  | nil =>
      constructor
      · intro plays
        rw [Plays, call, after] at plays
        obtain ⟨nothing, ends⟩ := Prod.mk.inj plays
        rw [Reader.next] at ends
        split at ends
        · cases ends
        · cases ends
        · rename_i last read
          split at ends
          · exact absurd (List.cons.inj ends).2 nofun
          · exact absurd (List.cons.inj ends).2 nofun
          · exact ⟨last, read, (List.cons.inj ends).1⟩
      · rintro ⟨last, read, nothing⟩
        obtain ⟨again, found, stillNothing⟩ := steady.again last []
          (steady.reads _ _ _ steady.begins read) ⟨last, read, nothing⟩
        rw [Plays, call, after]
        dsimp only
        rw [Reader.next, read]
        dsimp only
        rw [found, nothing]
        exact congrArg (fun ended => (none, [true, ended])) stillNothing
  | cons out rest =>
      constructor
      · intro plays
        obtain ⟨state, reached, reads⟩ := Reader.reads_of_plays plays (Nat.le_refl _)
        rw [Nat.sub_self] at reached reads
        cases reached
        exact reads
      · intro whole calls
        obtain ⟨state, reached, known, reads⟩ := steady.after_spec whole calls
        obtain ⟨given, further, listed, gave, -⟩ := steady.round whole known reads
        rw [call, reached]
        dsimp only
        rw [gave, listed]
        rfl

end Rounds

end JooanW3U.Library.LoopedReader

import Mathlib.Data.List.Basic

/-!
Owns reading messages off a buffer that is filled in pieces: what the front of a
buffer is, the loop that takes whole messages off it, and the law that the pieces
do not matter.  A framer's laws are that bytes behind a message change nothing
about it, and that a fault stays one of its kind.

Does not own any format or what a message does.
-/

namespace JooanW3U.Library

universe u v w x y

/-- What stands at the front of a buffer: less than a message, a message of this
length, or a fault. -/
inductive Front (Message : Type v) (Fault : Type w)
  | short
  | message (message : Message) (size : Nat)
  | fault (fault : Fault)

/-- Reading the front of a buffer, where `kind` is what later bytes leave of a fault. -/
structure Framer (Byte : Type u) (Message : Type v) (Fault : Type w) where
  front : List Byte → Front Message Fault
  kind : Fault → Fault
  size_of_message : ∀ {buffer message size},
    front buffer = .message message size → 0 < size ∧ size ≤ buffer.length
  message_append : ∀ {buffer message size}, front buffer = .message message size →
    ∀ more, front (buffer ++ more) = .message message size
  fault_append : ∀ {buffer fault}, front buffer = .fault fault →
    ∀ more, ∃ later, front (buffer ++ more) = .fault later ∧ kind later = kind fault

/-- A reader of a stream: what it has buffered, the state its messages act on, how
much of the stream it has taken off, and the fault it ended with. -/
structure Reader (Byte : Type u) (State : Type x) (Fault : Type w) where
  buffer : List Byte
  state : State
  taken : Nat
  ended : Option Fault

namespace Framer

variable {Byte : Type u} {Message : Type v} {Fault : Type w} {State : Type x}
variable (framer : Framer Byte Message Fault)
variable (act : Message → State → State × Option Fault)

/-- The loop over the buffer, with fuel: a message that ends the reader stays in it. -/
def drain : Nat → Reader Byte State Fault → Reader Byte State Fault
  | 0, r => r
  | fuel + 1, r =>
      if r.buffer.isEmpty then r
      else
        match framer.front r.buffer with
        | .short => r
        | .fault fault => { r with ended := some fault }
        | .message message size =>
            match act message r.state with
            | (state, some fault) => { r with state, ended := some fault }
            | (state, none) =>
                drain fuel
                  { r with buffer := r.buffer.drop size, state, taken := r.taken + size }

/-- The loop with fuel enough for every message of the buffer. -/
def drained (r : Reader Byte State Fault) : Reader Byte State Fault :=
  framer.drain act r.buffer.length r

/-- A piece of the stream arrives. -/
def receive (r : Reader Byte State Fault) (piece : List Byte) : Reader Byte State Fault :=
  if r.ended.isSome then r else framer.drained act { r with buffer := r.buffer ++ piece }

/-- Two readers that differ in nothing but the details of their fault, and in what is
buffered once they have ended. -/
structure Alike (left right : Reader Byte State Fault) : Prop where
  state : left.state = right.state
  taken : left.taken = right.taken
  ended : left.ended.map framer.kind = right.ended.map framer.kind
  buffer : left.ended = none → left.buffer = right.buffer

/-- Nothing whole stands at the front of the buffer. -/
def Settled (r : Reader Byte State Fault) : Prop :=
  r.ended = none → r.buffer = [] ∨ framer.front r.buffer = .short

variable {framer}

namespace Alike

theorem refl (r : Reader Byte State Fault) : framer.Alike r r :=
  ⟨rfl, rfl, rfl, fun _ => rfl⟩

theorem ended_none {left right : Reader Byte State Fault} (alike : framer.Alike left right) :
    left.ended = none ↔ right.ended = none := by
  rw [← Option.map_eq_none_iff, alike.ended, Option.map_eq_none_iff]

theorem symm {left right : Reader Byte State Fault} (alike : framer.Alike left right) :
    framer.Alike right left where
  state := alike.state.symm
  taken := alike.taken.symm
  ended := alike.ended.symm
  buffer := fun going => (alike.buffer (alike.ended_none.mpr going)).symm

theorem trans {left middle right : Reader Byte State Fault} (first : framer.Alike left middle)
    (second : framer.Alike middle right) : framer.Alike left right where
  state := first.state.trans second.state
  taken := first.taken.trans second.taken
  ended := first.ended.trans second.ended
  buffer := fun going =>
    (first.buffer going).trans (second.buffer (first.ended_none.mp going))

theorem eq_of_going {left right : Reader Byte State Fault} (alike : framer.Alike left right)
    (going : left.ended = none) : left = right := by
  obtain ⟨buffer, state, taken, ended⟩ := left
  obtain ⟨buffer', state', taken', ended'⟩ := right
  have same : ended' = none := alike.ended_none.mp going
  have buffers := alike.buffer going
  have states := alike.state
  have positions := alike.taken
  simp only at going same buffers states positions
  rw [going, same, buffers, states, positions]

end Alike

variable {act}

/-! ## The loop -/

/-- Fuel beyond the buffer's length changes nothing. -/
theorem drain_fuel {fuel : Nat} :
    ∀ {more : Nat} {r : Reader Byte State Fault}, r.buffer.length ≤ fuel →
      r.buffer.length ≤ more → framer.drain act fuel r = framer.drain act more r := by
  induction fuel with
  | zero =>
      intro more r enough _
      have empty : r.buffer = [] := List.length_eq_zero_iff.mp (Nat.le_zero.mp enough)
      cases more <;> simp [drain, empty]
  | succ fuel inductionHypothesis =>
      intro more r enough enoughMore
      by_cases empty : r.buffer = []
      · cases more <;> simp [drain, empty]
      obtain ⟨more, rfl⟩ : ∃ k, more = k + 1 := by
        have positive := List.length_pos_iff.mpr empty
        exact ⟨more - 1, by omega⟩
      unfold drain
      cases front : framer.front r.buffer with
      | short => rfl
      | fault fault => rfl
      | message message size =>
          have sized := framer.size_of_message front
          have rest : (r.buffer.drop size).length < r.buffer.length := by
            rw [List.length_drop]
            omega
          simp only
          split
          · rfl
          · split
            · rfl
            · apply inductionHypothesis
              · simp only
                omega
              · simp only
                omega

variable (framer act)

/-- One message comes off the buffer. -/
theorem drained_message (r : Reader Byte State Fault) {message : Message} {size : Nat} {state : State}
    (front : framer.front r.buffer = .message message size)
    (acted : act message r.state = (state, none)) :
    framer.drained act r =
      framer.drained act { r with
        buffer := r.buffer.drop size, state, taken := r.taken + size } := by
  obtain ⟨positive, fits⟩ := framer.size_of_message front
  obtain ⟨length, same⟩ : ∃ length, r.buffer.length = length + 1 := ⟨r.buffer.length - 1, by omega⟩
  have filled : r.buffer.isEmpty = false := by
    rw [List.isEmpty_eq_false_iff, ← List.length_pos_iff]
    omega
  have rest : (r.buffer.drop size).length ≤ length := by
    rw [List.length_drop]
    omega
  conv_lhs => rw [drained, same, drain]
  simp only [filled, Bool.false_eq_true, if_false, front, acted]
  exact drain_fuel rest (Nat.le_refl _)

/-- Where the loop ends without taking a message off. -/
theorem drained_last (r : Reader Byte State Fault) (filled : r.buffer ≠ []) :
    (framer.front r.buffer = .short → framer.drained act r = r) ∧
      (∀ fault, framer.front r.buffer = .fault fault →
        framer.drained act r = { r with ended := some fault }) ∧
      ∀ message size state fault, framer.front r.buffer = .message message size →
        act message r.state = (state, some fault) →
          framer.drained act r = { r with state, ended := some fault } := by
  obtain ⟨length, same⟩ : ∃ length, r.buffer.length = length + 1 := by
    have positive := List.length_pos_iff.mpr filled
    exact ⟨r.buffer.length - 1, by omega⟩
  have unfolded : framer.drained act r = framer.drain act (length + 1) r := by rw [drained, same]
  have nonempty : r.buffer.isEmpty = false := List.isEmpty_eq_false_iff.mpr filled
  rw [unfolded, drain]
  simp only [nonempty, Bool.false_eq_true, if_false]
  refine ⟨?_, ?_, ?_⟩
  · intro front
    simp only [front]
  · intro fault front
    simp only [front]
  · intro message size state fault front acted
    simp only [front, acted]

theorem drained_empty {r : Reader Byte State Fault} (empty : r.buffer = []) :
    framer.drained act r = r := by
  rw [drained, empty]
  rfl

/-- What the loop does with more bytes behind the buffer: it goes on from where it
stopped, or it has ended the same. -/
theorem drained_append (more : List Byte) (r : Reader Byte State Fault) (going : r.ended = none) :
    ((framer.drained act r).ended = none →
      framer.drained act { r with buffer := r.buffer ++ more } =
        framer.drained act { framer.drained act r with
          buffer := (framer.drained act r).buffer ++ more }) ∧
      ((framer.drained act r).ended ≠ none →
        framer.Alike (framer.drained act { r with buffer := r.buffer ++ more })
          (framer.drained act r)) := by
  induction sized : r.buffer.length using Nat.strongRecOn generalizing r with
  | ind bound inductionHypothesis =>
      by_cases empty : r.buffer = []
      · rw [drained_empty framer act empty]
        exact ⟨fun _ => rfl, fun ended => absurd going ended⟩
      have filled : r.buffer ++ more ≠ [] := by simp [empty]
      have last := drained_last framer act r empty
      have lastMore := drained_last framer act { r with buffer := r.buffer ++ more } filled
      cases front : framer.front r.buffer with
      | short =>
          rw [last.1 front]
          exact ⟨fun _ => rfl, fun ended => absurd going ended⟩
      | fault fault =>
          obtain ⟨later, front', kind⟩ := framer.fault_append front more
          rw [last.2.1 fault front, lastMore.2.1 later front']
          exact ⟨nofun, fun _ => ⟨rfl, rfl, congrArg some kind, nofun⟩⟩
      | message message size =>
          have front' := framer.message_append front more
          cases acted : act message r.state with
          | mk state result =>
              cases result with
              | some fault =>
                  rw [last.2.2 message size state fault front acted,
                    lastMore.2.2 message size state fault front' acted]
                  exact ⟨nofun, fun _ => ⟨rfl, rfl, rfl, nofun⟩⟩
              | none =>
                  obtain ⟨positive, fits⟩ := framer.size_of_message front
                  have rest : (r.buffer.drop size).length < bound := by
                    rw [List.length_drop]
                    omega
                  have split : (r.buffer ++ more).drop size = r.buffer.drop size ++ more :=
                    List.drop_append_of_le_length fits
                  rw [drained_message framer act { r with buffer := r.buffer ++ more } front' acted,
                    drained_message framer act r front acted]
                  simp only [split]
                  exact inductionHypothesis _ rest
                    { r with buffer := r.buffer.drop size, state, taken := r.taken + size } going rfl

/-! ## Pieces -/

theorem settled_drained (r : Reader Byte State Fault) (going : r.ended = none) :
    framer.Settled (framer.drained act r) := by
  induction sized : r.buffer.length using Nat.strongRecOn generalizing r with
  | ind bound inductionHypothesis =>
      by_cases empty : r.buffer = []
      · rw [drained_empty framer act empty]
        exact fun _ => .inl empty
      have last := drained_last framer act r empty
      cases front : framer.front r.buffer with
      | short =>
          rw [last.1 front]
          exact fun _ => .inr front
      | fault fault =>
          rw [last.2.1 fault front]
          exact nofun
      | message message size =>
          cases acted : act message r.state with
          | mk state result =>
              cases result with
              | some fault =>
                  rw [last.2.2 message size state fault front acted]
                  exact nofun
              | none =>
                  obtain ⟨positive, fits⟩ := framer.size_of_message front
                  have rest : (r.buffer.drop size).length < bound := by
                    rw [List.length_drop]
                    omega
                  rw [drained_message framer act r front acted]
                  exact inductionHypothesis _ rest
                    { r with buffer := r.buffer.drop size, state, taken := r.taken + size } going rfl

theorem drained_of_settled {r : Reader Byte State Fault} (settled : framer.Settled r)
    (going : r.ended = none) : framer.drained act r = r := by
  by_cases empty : r.buffer = []
  · exact drained_empty framer act empty
  · exact (drained_last framer act r empty).1 ((settled going).resolve_left empty)

theorem settled_receive (r : Reader Byte State Fault) (piece : List Byte) :
    framer.Settled (framer.receive act r piece) := by
  unfold receive
  split
  · next ended => exact fun going => absurd ended (by simp [going])
  · next going => exact settled_drained framer act _ (by simpa using going)

/-- A reader ends with a fault of the input or with one of a message. -/
theorem ended_of_drained {r : Reader Byte State Fault} (going : r.ended = none) {fault : Fault}
    (ended : (framer.drained act r).ended = some fault) :
    (∃ buffer, framer.front buffer = .fault fault) ∨ ∃ message state, (act message state).2 = some fault := by
  induction sized : r.buffer.length using Nat.strongRecOn generalizing r with
  | ind bound inductionHypothesis =>
      by_cases empty : r.buffer = []
      · rw [drained_empty framer act empty, going] at ended
        exact absurd ended nofun
      have last := drained_last framer act r empty
      cases front : framer.front r.buffer with
      | short =>
          rw [last.1 front, going] at ended
          exact absurd ended nofun
      | fault found =>
          rw [last.2.1 found front] at ended
          exact .inl ⟨r.buffer, front.trans (congrArg Front.fault (Option.some.inj ended))⟩
      | message message size =>
          cases acted : act message r.state with
          | mk state result =>
              cases result with
              | some found =>
                  rw [last.2.2 message size state found front acted] at ended
                  exact .inr ⟨message, r.state, (congrArg Prod.snd acted).trans ended⟩
              | none =>
                  obtain ⟨positive, fits⟩ := framer.size_of_message front
                  have rest : (r.buffer.drop size).length < bound := by
                    rw [List.length_drop]
                    omega
                  rw [drained_message framer act r front acted] at ended
                  exact inductionHypothesis _ rest
                    (r := { r with buffer := r.buffer.drop size, state, taken := r.taken + size })
                    going ended rfl

/-- Once ended, a reader takes no more in. -/
theorem receive_ended (pieces : List (List Byte)) {r : Reader Byte State Fault}
    (ended : r.ended.isSome) : pieces.foldl (framer.receive act) r = r := by
  induction pieces with
  | nil => rfl
  | cons piece pieces inductionHypothesis =>
      rw [List.foldl_cons, receive, if_pos ended]
      exact inductionHypothesis

theorem ended_of_pieces {pieces : List (List Byte)} {r : Reader Byte State Fault}
    (going : r.ended = none) {fault : Fault}
    (ended : (pieces.foldl (framer.receive act) r).ended = some fault) :
    (∃ buffer, framer.front buffer = .fault fault) ∨ ∃ message state, (act message state).2 = some fault := by
  induction pieces generalizing r with
  | nil => exact absurd (going.symm.trans ended) nofun
  | cons piece pieces inductionHypothesis =>
      rw [List.foldl_cons] at ended
      have received : framer.receive act r piece =
          framer.drained act { r with buffer := r.buffer ++ piece } := by
        rw [receive, if_neg (by simp [going])]
      cases stopped : (framer.receive act r piece).ended with
      | none => exact inductionHypothesis stopped ended
      | some found =>
          rw [receive_ended framer act pieces (by simp [stopped]), received] at ended
          exact ended_of_drained framer act (r := { r with buffer := r.buffer ++ piece }) going ended

/-- Two pieces are as good as one. -/
theorem receive_append (r : Reader Byte State Fault) (first second : List Byte) :
    framer.Alike (framer.receive act (framer.receive act r first) second)
      (framer.receive act r (first ++ second)) := by
  by_cases ended : r.ended.isSome
  · simp only [receive, if_pos ended]
    exact .refl r
  have going : r.ended = none := by simpa using ended
  have whole : framer.receive act r (first ++ second) =
      framer.drained act { r with buffer := (r.buffer ++ first) ++ second } := by
    rw [receive, if_neg ended, List.append_assoc]
  have appended := drained_append framer act second
    { r with buffer := r.buffer ++ first } going
  have once : framer.receive act r first =
      framer.drained act { r with buffer := r.buffer ++ first } := by
    rw [receive, if_neg ended]
  rw [whole, once, receive]
  by_cases stopped : (framer.drained act { r with buffer := r.buffer ++ first }).ended = none
  · rw [if_neg (by simp [stopped]), appended.1 stopped]
    exact .refl _
  · rw [if_pos (by simpa [Option.isSome_iff_ne_none] using stopped)]
    exact (appended.2 stopped).symm

variable {framer} in
theorem Alike.receive {left right : Reader Byte State Fault} (alike : framer.Alike left right)
    (piece : List Byte) :
    framer.Alike (framer.receive act left piece) (framer.receive act right piece) := by
  by_cases going : left.ended = none
  · rw [alike.eq_of_going going]
    exact .refl _
  · have ended : right.ended ≠ none := fun none => going (alike.ended_none.mpr none)
    rw [Framer.receive, Framer.receive, if_pos (by simpa [Option.isSome_iff_ne_none] using going),
      if_pos (by simpa [Option.isSome_iff_ne_none] using ended)]
    exact alike

/-- The pieces of a stream are as good as the stream in one piece. -/
theorem receive_pieces (pieces : List (List Byte)) {r : Reader Byte State Fault}
    (settled : framer.Settled r) :
    framer.Alike (pieces.foldl (framer.receive act) r) (framer.receive act r pieces.flatten) := by
  induction pieces generalizing r with
  | nil =>
      rw [List.foldl_nil, List.flatten_nil, receive]
      by_cases ended : r.ended.isSome
      · rw [if_pos ended]
        exact .refl r
      · rw [if_neg ended, List.append_nil]
        have same := drained_of_settled framer act settled (by simpa using ended)
        rw [show framer.drained act { r with buffer := r.buffer } = r from same]
        exact .refl r
  | cons piece pieces inductionHypothesis =>
      rw [List.foldl_cons, List.flatten_cons]
      have later := inductionHypothesis (settled_receive framer act r piece)
      exact later.trans (receive_append framer act r piece pieces.flatten)

/-- Two ways to cut one stream come to the same. -/
theorem receive_cuts {left right : List (List Byte)} (same : left.flatten = right.flatten)
    {r : Reader Byte State Fault} (settled : framer.Settled r) :
    framer.Alike (left.foldl (framer.receive act) r) (right.foldl (framer.receive act) r) := by
  have first := receive_pieces framer act left settled
  have second := receive_pieces framer act right settled
  rw [← same] at second
  exact first.trans second.symm

/-! ## Encoded messages -/

/-- Messages acted on in order, until one of them ends the reader. -/
def deliver : List Message → State → State × Option Fault
  | [], state => (state, none)
  | message :: messages, state =>
      match act message state with
      | (state, some fault) => (state, some fault)
      | (state, none) => deliver messages state

/-- What is cut off an encoded message is short of one. -/
theorem front_cut {message : Message} {cut rest : List Byte} (filled : rest ≠ [])
    (whole : framer.front (cut ++ rest) = .message message (cut ++ rest).length) :
    framer.front cut = .short := by
  have longer : cut.length < (cut ++ rest).length := by
    rw [List.length_append]
    exact Nat.lt_add_of_pos_right (List.length_pos_iff.mpr filled)
  cases front : framer.front cut with
  | short => rfl
  | message found size =>
      have same := (framer.message_append front rest).symm.trans whole
      injection same with _ sizes
      have fits := (framer.size_of_message front).2
      omega
  | fault fault =>
      obtain ⟨later, faulty, -⟩ := framer.fault_append front rest
      exact absurd (faulty.symm.trans whole) nofun

/-- A buffer of encoded messages, with less than a message behind them, is acted on as the
messages are. -/
theorem drained_encoded {Sent : Type y} (encode : Sent → List Byte) (message : Sent → Message)
    {rest : List Byte} (short : rest = [] ∨ framer.front rest = .short) (sents : List Sent)
    (encoded : ∀ sent ∈ sents, ∀ more,
      framer.front (encode sent ++ more) = .message (message sent) (encode sent).length)
    (r : Reader Byte State Fault) (going : r.ended = none)
    (holds : r.buffer = sents.flatMap encode ++ rest) :
    ((framer.drained act r).state, (framer.drained act r).ended) =
      deliver act (sents.map message) r.state := by
  induction sents generalizing r with
  | nil =>
      have settled : framer.Settled r := by
        intro _
        rw [holds]
        exact short
      rw [drained_of_settled framer act settled going, going]
      rfl
  | cons sent sents inductionHypothesis =>
      rw [List.flatMap_cons, List.append_assoc] at holds
      have front : framer.front r.buffer = .message (message sent) (encode sent).length := by
        rw [holds]
        exact encoded sent List.mem_cons_self _
      rw [List.map_cons, deliver]
      cases acted : act (message sent) r.state with
      | mk state result =>
          cases result with
          | some fault =>
              have filled : r.buffer ≠ [] := by
                have sized := framer.size_of_message front
                exact List.length_pos_iff.mp (by omega)
              rw [(drained_last framer act r filled).2.2 _ _ state fault front acted]
          | none =>
              rw [drained_message framer act r front acted]
              apply inductionHypothesis
              · exact fun other later => encoded other (List.mem_cons_of_mem _ later)
              · exact going
              · rw [holds]
                exact List.drop_left

end Framer

end JooanW3U.Library

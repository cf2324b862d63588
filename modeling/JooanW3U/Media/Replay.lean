import JooanW3U.Library.AnnexB
import JooanW3U.Library.Grouping
import JooanW3U.Library.LoopedReader
import Mathlib.Data.UInt
import Mathlib.Tactic.FinCases
import Mathlib.Tactic.SplitIfs

/-!
Owns the reader of a recording: `replay_nal`, `replay_access_unit` and `replay_next` on a file
of NAL units between start codes. Main result: when the calls of `replay_next` give the access
units of the file in order, over and over, and meet its end only there.

Does not own what a NAL unit means, the request for a keyframe, or reading errors.
-/

namespace JooanW3U.Media.Replay

open JooanW3U.Library JooanW3U.Library.AnnexB JooanW3U.Library.Grouping
  JooanW3U.Library.LoopedReader

def JIPC_MAX_FRAME : Nat := 1024 * 1024

/-! ### NAL units -/

/-- The start code before every NAL unit that is delivered. -/
def startCode : Bytes := [0, 0, 0, 1]

def nalType (nal : Bytes) : UInt8 := nal.headD 0 &&& 31

def isSlice (nal : Bytes) : Bool := 1 ≤ nalType nal && nalType nal ≤ 5

/-- The first slice of a picture: its first payload bit is one. -/
def firstSlice (nal : Bytes) : Bool := isSlice nal && 1 < nal.length && nal.getD 1 0 &&& 128 ≠ 0

/-- A NAL unit before which an access unit with a slice ends. -/
def opensUnit (nal : Bytes) : Bool :=
  firstSlice nal || nalType nal = 9 || nalType nal = 7 || nalType nal = 8 || nalType nal = 6

/-- The access units of some NAL units. -/
def accessUnits (nals : List Bytes) : List (List Bytes) := groups isSlice opensUnit nals

/-- An access unit as it is delivered. -/
def unitBytes (nals : List Bytes) : Bytes := nals.flatMap fun nal => startCode ++ nal

/-! ### The reader -/

/-- `replay_input`, the open file being what is left of it to read and its end-of-file
indicator. -/
structure Input where
  file : Bytes
  rest : Bytes
  eof : Bool
  prefix_pending : Bool
  nal : Bytes
  nal_pending : Bool
  au : Bytes
  have_vcl : Bool
  keyframe : Bool
  deriving Repr, DecidableEq

/-- The reader when its file has been opened. -/
def Input.opened (file : Bytes) : Input := ⟨file, file, false, false, [], false, [], false, false⟩

/-- The first loop of `replay_nal`: what follows the next start code. -/
def skipToCode : Nat → Bytes → Option Bytes
  | _, [] => none
  | zeros, c :: rest =>
      if c = 1 ∧ 2 ≤ zeros then some rest
      else skipToCode (if c = 0 then (if zeros < 4 then zeros + 1 else zeros) else 0) rest

/-- The second loop: the NAL unit behind what was read, what follows, and whether a start code
ended it. -/
def readNal : Nat → Bytes → Bytes → Option (Bytes × Bytes × Bool)
  | _, nal, [] => some (nal, [], false)
  | zeros, nal, c :: rest =>
      if c = 1 ∧ 2 ≤ zeros then some (nal, rest, true)
      else if c = 0 then
        if JIPC_MAX_FRAME < zeros + 1 then none else readNal (zeros + 1) nal rest
      else if JIPC_MAX_FRAME - nal.length < zeros + 1 then none
      else readNal 0 (nal ++ List.replicate zeros 0 ++ [c]) rest

/-- None for a result of -1, else whether it is 1. -/
def Input.replay_nal (input : Input) : Option (Bool × Input) :=
  match if input.prefix_pending then some input.rest else skipToCode 0 input.rest with
  | none => some (false, { input with rest := [], eof := true })
  | some rest =>
      match readNal 0 startCode rest with
      | none => none
      | some (nal, rest, ended) =>
          some (4 < nal.length,
            { input with rest, nal, prefix_pending := ended, eof := input.eof || !ended })

/-- The loop of `replay_access_unit`, with more turns than there are bytes left. -/
def Input.accessLoop : Nat → Input → Option (Bool × Input)
  | 0, _ => none
  | turns + 1, input =>
      match if input.nal_pending then some (true, input) else input.replay_nal with
      | none => none
      | some (false, input) => some (input.have_vcl, { input with nal_pending := false })
      | some (true, input) =>
          let nal := input.nal.drop 4
          if input.have_vcl && opensUnit nal then some (true, { input with nal_pending := true })
          else if JIPC_MAX_FRAME - input.au.length < input.nal.length then none
          else
            accessLoop turns
              { input with
                nal_pending := false
                au := input.au ++ input.nal
                have_vcl := input.have_vcl || isSlice nal
                keyframe := input.keyframe || nalType nal = 5 }

def Input.replay_access_unit (input : Input) : Option (Bool × Input) :=
  Input.accessLoop (input.rest.length + 3)
    { input with au := [], have_vcl := false, keyframe := false }

def Input.replay_rewind (input : Input) : Input :=
  { input with rest := input.file, eof := false, prefix_pending := false, nal_pending := false }

/-- The loop of `replay_next`; with the result, the end-of-file indicator for each end it met. -/
def Input.nextLoop (request_idr : Bool) : Nat → Bool → List Bool → Input →
    Option Input × List Bool
  | 0, _, ends, _ => (none, ends)
  | count + 1, rewound, ends, input =>
      match input.replay_access_unit with
      | none => (none, ends)
      | some (false, input) =>
          if rewound then (none, ends ++ [input.eof])
          else nextLoop request_idr count true (ends ++ [input.eof]) input.replay_rewind
      | some (true, input) =>
          if !request_idr || input.keyframe then (some input, ends)
          else nextLoop request_idr count rewound ends input

/-- `replay_next`; after a failure the stream is given up. -/
def Input.replay_next (input : Input) (request_idr : Bool) : Option Input × List Bool :=
  Input.nextLoop request_idr 100000 false [] (if request_idr then input.replay_rewind else input)

/-- A call without the request for a keyframe, with the access unit it delivers. -/
def Input.play (input : Input) : Result Input Bytes :=
  let (after, ends) := input.replay_next false
  (after.map fun after => (after.au, after), ends)

/-- The reader as one that starts over. -/
def reader : Reader Input Bytes where
  read input := input.replay_access_unit.map fun (have_vcl, after) =>
    (if have_vcl then some after.au else none, after)
  rewind := Input.replay_rewind
  atEnd := Input.eof

theorem play_eq_next : Input.play = reader.next := by
  funext input
  unfold Input.play Input.replay_next Reader.next
  simp only [reader]
  rw [if_neg Bool.false_ne_true, show (100000 : Nat) = 99998 + 1 + 1 by rfl, Input.nextLoop]
  rcases input.replay_access_unit with - | ⟨have_vcl, after⟩
  · rfl
  · cases have_vcl with
    | true => rfl
    | false =>
        dsimp only [Option.map]
        rw [if_neg Bool.false_ne_true, if_neg Bool.false_ne_true, Input.nextLoop]
        dsimp only
        rcases after.replay_rewind.replay_access_unit with - | ⟨have_vcl, again⟩
        · rfl
        · cases have_vcl <;> rfl

/-! ### Reading a NAL unit -/

theorem skipToCode_zeros (zeros count : Nat) :
    skipToCode zeros (List.replicate count 0) = none := by
  induction count generalizing zeros with
  | zero => rfl
  | succ count inductionHypothesis =>
      rw [List.replicate_succ, skipToCode, if_neg (by simp)]
      exact inductionHypothesis _

theorem skipToCode_code (zeros count : Nat) (rest : Bytes) :
    skipToCode zeros (List.replicate count 0 ++ [0, 0, 1] ++ rest) = some rest := by
  induction count generalizing zeros with
  | zero =>
      have two : 2 ≤ (if (if zeros < 4 then zeros + 1 else zeros) < 4
          then (if zeros < 4 then zeros + 1 else zeros) + 1
          else (if zeros < 4 then zeros + 1 else zeros)) := by
        split_ifs <;> omega
      simp [skipToCode, two]
  | succ count inductionHypothesis =>
      rw [List.replicate_succ, List.cons_append, List.cons_append, skipToCode, if_neg (by simp)]
      exact inductionHypothesis _

/-- A NAL unit is read whole when there is room for it. -/
theorem readNal_nal {nal : Bytes} {zeros : Nat} (begun : nal ≠ [])
    (noCode : ¬ [0, 0, 1] <:+: List.replicate zeros 0 ++ nal) (last : nal.getLast? ≠ some 0)
    (before rest : Bytes) :
    readNal zeros before (nal ++ rest) =
      if JIPC_MAX_FRAME < before.length + zeros + nal.length then none
      else readNal 0 (before ++ List.replicate zeros 0 ++ nal) rest := by
  induction nal generalizing zeros before with
  | nil => exact absurd rfl begun
  | cons c nal inductionHypothesis =>
      have noOne : ¬ (c = 1 ∧ 2 ≤ zeros) := by
        rintro ⟨rfl, two⟩
        obtain ⟨count, rfl⟩ := Nat.exists_eq_add_of_le' two
        apply noCode
        rw [List.replicate_add]
        exact ⟨List.replicate count 0, nal, by simp [List.replicate_succ]⟩
      rw [List.cons_append, readNal, if_neg noOne]
      by_cases zero : c = 0
      · subst zero
        have more : nal ≠ [] := by
          rintro rfl
          exact last rfl
        have lastMore : nal.getLast? ≠ some 0 := by
          rw [List.getLast?_cons_of_ne_nil more] at last
          exact last
        have shift : List.replicate zeros 0 ++ 0 :: nal = List.replicate (zeros + 1) 0 ++ nal := by
          rw [List.replicate_succ', List.append_assoc]
          rfl
        rw [shift] at noCode
        rw [if_pos rfl, inductionHypothesis more noCode lastMore, List.append_assoc, List.append_assoc,
          ← shift, List.length_cons]
        by_cases long : JIPC_MAX_FRAME < zeros + 1
        · rw [if_pos long, if_pos (by omega)]
        · rw [if_neg long, show before.length + (zeros + 1) + nal.length =
            before.length + zeros + (nal.length + 1) by omega]
      · rw [if_neg zero, List.length_cons]
        by_cases more : nal = []
        · subst more
          by_cases long : JIPC_MAX_FRAME - before.length < zeros + 1
          · rw [if_pos long, if_pos (by simp only [List.length_nil]; omega)]
          · rw [if_neg long, if_neg (by simp only [List.length_nil]; omega)]
            rfl
        · have lastMore : nal.getLast? ≠ some 0 := by
            rw [List.getLast?_cons_of_ne_nil more] at last
            exact last
          have noCodeMore : ¬ [0, 0, 1] <:+: List.replicate 0 0 ++ nal := fun inside =>
            noCode (inside.trans ⟨List.replicate zeros 0 ++ [c], [], by simp⟩)
          rw [inductionHypothesis more noCodeMore lastMore]
          simp only [List.length_append, List.length_replicate, List.length_singleton,
            List.replicate_zero, List.append_nil, List.append_assoc, List.singleton_append]
          by_cases long : JIPC_MAX_FRAME - before.length < zeros + 1
          · rw [if_pos long, if_pos (by omega)]
          · rw [if_neg long, show before.length + (zeros + 1) + 0 + nal.length =
              before.length + zeros + (nal.length + 1) by omega]

theorem readNal_code (zeros count : Nat) (nal rest : Bytes) :
    readNal zeros nal (List.replicate count 0 ++ [0, 0, 1] ++ rest) =
      if JIPC_MAX_FRAME < zeros + count + 2 then none else some (nal, rest, true) := by
  induction count generalizing zeros with
  | zero =>
      rw [List.replicate_zero, List.nil_append, List.cons_append, List.cons_append, List.cons_append,
        List.nil_append, readNal, if_neg (by simp), if_pos rfl]
      by_cases one : JIPC_MAX_FRAME < zeros + 1
      · rw [if_pos one, if_pos (by omega)]
      · rw [if_neg one, readNal, if_neg (by simp), if_pos rfl, Nat.add_zero]
        by_cases two : JIPC_MAX_FRAME < zeros + 2
        · rw [if_pos two, if_pos two]
        · rw [if_neg two, if_neg two, readNal, if_pos ⟨rfl, by omega⟩]
  | succ count inductionHypothesis =>
      rw [List.replicate_succ, List.cons_append, List.cons_append, readNal, if_neg (by simp),
        if_pos rfl, inductionHypothesis]
      by_cases long : JIPC_MAX_FRAME < zeros + 1
      · rw [if_pos long, if_pos (by omega)]
      · rw [if_neg long, show zeros + 1 + count + 2 = zeros + (count + 1) + 2 by omega]

theorem readNal_end {zeros : Nat} (few : zeros ≤ JIPC_MAX_FRAME) (count : Nat) (nal : Bytes) :
    readNal zeros nal (List.replicate count 0) =
      if JIPC_MAX_FRAME < zeros + count then none else some (nal, [], false) := by
  induction count generalizing zeros with
  | zero => rw [List.replicate_zero, readNal, if_neg (by omega)]
  | succ count inductionHypothesis =>
      rw [List.replicate_succ, readNal, if_neg (by simp), if_pos rfl]
      by_cases long : JIPC_MAX_FRAME < zeros + 1
      · rw [if_pos long, if_pos (by omega)]
      · rw [if_neg long, inductionHypothesis (Nat.not_lt.mp long),
          show zeros + 1 + count = zeros + (count + 1) by omega]

/-! ### The reader on a file of NAL units -/

section File

variable {trailing : Nat}

/-- The run of zeros behind a NAL unit. -/
def runAfter (trailing : Nat) : List Segment → Nat
  | [] => trailing
  | segment :: _ => segment.zeros + 2

/-- There is room for the NAL unit and for the zeros behind it. -/
def Fits (trailing : Nat) (nal : Bytes) (later : List Segment) : Prop :=
  4 + nal.length ≤ JIPC_MAX_FRAME ∧ runAfter trailing later ≤ JIPC_MAX_FRAME

instance (nal : Bytes) (later : List Segment) : Decidable (Fits trailing nal later) := by
  unfold Fits
  infer_instance

/-- What is left behind a NAL unit and the start code after it. -/
def behind (trailing : Nat) : List Segment → Bytes
  | [] => []
  | segment :: later => segment.nal ++ stream later trailing

/-- The reader is behind a NAL unit. -/
def Behind (trailing : Nat) (input : Input) (later : List Segment) : Prop :=
  input.rest = behind trailing later ∧ input.prefix_pending = !later.isEmpty ∧
    input.eof = later.isEmpty

/-- The reader is before some segments: at the start, or behind the NAL unit before. -/
def At (trailing : Nat) (input : Input) (segments : List Segment) : Prop :=
  (input.rest = stream segments trailing ∧ input.prefix_pending = false ∧ input.eof = false) ∨
    Behind trailing input segments

/-- The same, where the first NAL unit may have been read already. -/
def Stands (trailing : Nat) (input : Input) (segments : List Segment) : Prop :=
  if input.nal_pending then
    ∃ segment later, segments = segment :: later ∧ segment.nal ≠ [] ∧
      Fits trailing segment.nal later ∧ input.nal = startCode ++ segment.nal ∧
      Behind trailing input later
  else At trailing input segments

theorem Stands.of_at {input : Input} {segments : List Segment} (free : input.nal_pending = false)
    (at_ : At trailing input segments) : Stands trailing input segments := by
  rw [Stands, free, if_neg Bool.false_ne_true]
  exact at_

theorem readNal_segment {nal : Bytes} (valid : IsNal nal) (later : List Segment) :
    readNal 0 startCode (nal ++ stream later trailing) =
      if Fits trailing nal later then
        some (startCode ++ nal, behind trailing later, !later.isEmpty)
      else none := by
  -- Behind the NAL unit stand zeros, and a start code unless the file ends.
  have tail : ∀ read : Bytes, readNal 0 read (stream later trailing) =
      if JIPC_MAX_FRAME < runAfter trailing later then none
      else some (read, behind trailing later, !later.isEmpty) := by
    intro read
    cases later with
    | nil =>
        rw [show stream [] trailing = List.replicate trailing 0 by rfl,
          readNal_end (Nat.zero_le _), Nat.zero_add]
        rfl
    | cons segment later =>
        rw [stream_cons, Segment.bytes, List.append_assoc _ segment.nal, readNal_code, Nat.zero_add]
        rfl
  have code : startCode.length = 4 := rfl
  by_cases empty : nal = []
  · subst empty
    rw [List.nil_append, List.append_nil, tail]
    by_cases long : JIPC_MAX_FRAME < runAfter trailing later
    · rw [if_pos long, if_neg fun fits => absurd fits.2 (Nat.not_le.mpr long)]
    · rw [if_neg long, if_pos ⟨by decide, Nat.not_lt.mp long⟩]
  · have noCode : ¬ [0, 0, 1] <:+: List.replicate 0 0 ++ nal := valid.noCode
    rw [readNal_nal empty noCode valid.lastNonzero, List.replicate_zero, List.append_nil, tail, code]
    by_cases large : JIPC_MAX_FRAME < 4 + 0 + nal.length
    · rw [if_pos large, if_neg fun fits => absurd fits.1 (by omega)]
    · rw [if_neg large]
      by_cases long : JIPC_MAX_FRAME < runAfter trailing later
      · rw [if_pos long, if_neg fun fits => absurd fits.2 (Nat.not_le.mpr long)]
      · rw [if_neg long, if_pos ⟨by omega, Nat.not_lt.mp long⟩]

/-- The reader behind one more NAL unit. -/
def Input.past (input : Input) (trailing : Nat) (nal : Bytes) (later : List Segment) : Input :=
  { input with
    rest := behind trailing later
    nal := startCode ++ nal
    prefix_pending := !later.isEmpty
    eof := later.isEmpty }

theorem replay_nal_cons {input : Input} {segment : Segment} {later : List Segment}
    (stands : At trailing input (segment :: later)) (valid : IsNal segment.nal) :
    input.replay_nal =
      if Fits trailing segment.nal later then
        some (decide (segment.nal ≠ []), input.past trailing segment.nal later)
      else none := by
  have reached : (if input.prefix_pending then some input.rest else skipToCode 0 input.rest) =
      some (segment.nal ++ stream later trailing) := by
    rcases stands with ⟨rest, before, -⟩ | ⟨rest, inside, -⟩
    · rw [before, if_neg Bool.false_ne_true, rest, stream_cons, Segment.bytes,
        List.append_assoc _ segment.nal, skipToCode_code]
    · have pending : input.prefix_pending = true := inside
      rw [pending, if_pos rfl, rest]
      rfl
  have notEnded : input.eof = false := by
    rcases stands with ⟨-, -, eof⟩ | ⟨-, -, eof⟩ <;> exact eof
  rw [Input.replay_nal, reached]
  dsimp only
  rw [readNal_segment valid]
  by_cases fits : Fits trailing segment.nal later
  · rw [if_pos fits, if_pos fits]
    dsimp only
    rw [notEnded, Bool.not_not, Bool.false_or]
    refine congrArg (fun whole => some (whole, input.past trailing segment.nal later)) ?_
    rw [List.length_append, show startCode.length = 4 by rfl, decide_eq_decide,
      ← List.length_pos_iff]
    omega
  · rw [if_neg fits, if_neg fits]

theorem replay_nal_nil {input : Input} (stands : At trailing input []) :
    input.replay_nal = some (false, { input with rest := [], eof := true }) ∧
      input.prefix_pending = false := by
  rcases stands with ⟨rest, before, -⟩ | ⟨rest, before, -⟩
  · rw [Input.replay_nal, before, if_neg Bool.false_ne_true, rest,
      show stream [] trailing = List.replicate trailing 0 by rfl, skipToCode_zeros]
    exact ⟨rfl, rfl⟩
  · have none_ : input.prefix_pending = false := before
    rw [Input.replay_nal, none_, if_neg Bool.false_ne_true, rest]
    exact ⟨rfl, rfl⟩

/-- What a call for an access unit reads of some segments, behind the NAL units it has: these
NAL units, whether they are delivered, and the segments left. -/
def readUnit (trailing : Nat) : List Bytes → List Segment →
    Option (List Bytes × Bool × List Segment)
  | group, [] => some (group, group.any isSlice, [])
  | group, segment :: later =>
      if Fits trailing segment.nal later then
        if segment.nal = [] then some (group, group.any isSlice, later)
        else if group.any isSlice && opensUnit segment.nal then some (group, true, segment :: later)
        else if JIPC_MAX_FRAME < (unitBytes (group ++ [segment.nal])).length then none
        else readUnit trailing (group ++ [segment.nal]) later
      else none

theorem unitBytes_append (group : List Bytes) (nal : Bytes) :
    unitBytes (group ++ [nal]) = unitBytes group ++ (startCode ++ nal) := by
  rw [unitBytes, List.flatMap_append, List.flatMap_singleton]
  rfl

/-- One turn of the loop with a NAL unit that was read. -/
theorem accessLoop_nal {turns : Nat} {input read : Input} {nal : Bytes}
    (got : (if input.nal_pending then some (true, input) else input.replay_nal) = some (true, read))
    (holds : read.nal = startCode ++ nal) :
    input.accessLoop (turns + 1) =
      if read.have_vcl && opensUnit nal then some (true, { read with nal_pending := true })
      else if JIPC_MAX_FRAME < read.au.length + (startCode ++ nal).length then none
      else
        Input.accessLoop turns
          { read with
            nal_pending := false
            au := read.au ++ (startCode ++ nal)
            have_vcl := read.have_vcl || isSlice nal
            keyframe := read.keyframe || nalType nal = 5 } := by
  have payload : (startCode ++ nal).drop 4 = nal := rfl
  rw [Input.accessLoop, got]
  dsimp only
  rw [holds, payload]
  have room : JIPC_MAX_FRAME - read.au.length < (startCode ++ nal).length ↔
      JIPC_MAX_FRAME < read.au.length + (startCode ++ nal).length := by
    have code : startCode.length = 4 := rfl
    rw [List.length_append, code]
    omega
  simp only [room]

/-- The next NAL unit, be it the one that was read before. -/
theorem stands_cons {input : Input} {segment : Segment} {later : List Segment}
    (stands : Stands trailing input (segment :: later)) (valid : IsNal segment.nal) :
    ∃ read : Input, (if input.nal_pending then some (true, input) else input.replay_nal) =
        (if Fits trailing segment.nal later then some (decide (segment.nal ≠ []), read) else none) ∧
      read.nal = startCode ++ segment.nal ∧ Behind trailing read later ∧ read.au = input.au ∧
      read.have_vcl = input.have_vcl ∧ read.file = input.file := by
  rw [Stands] at stands
  cases pending : input.nal_pending with
  | true =>
      rw [pending, if_pos rfl] at stands
      obtain ⟨_, _, same, begun, fits, holds, after⟩ := stands
      cases same
      refine ⟨input, ?_, holds, after, rfl, rfl, rfl⟩
      rw [if_pos rfl, if_pos fits, decide_eq_true begun]
  | false =>
      rw [pending, if_neg Bool.false_ne_true] at stands
      refine ⟨input.past trailing segment.nal later, ?_, rfl, ⟨rfl, rfl, rfl⟩, rfl, rfl, rfl⟩
      rw [if_neg Bool.false_ne_true, replay_nal_cons stands valid]

/-- What a call is seen to do, for what it reads of the segments. -/
def Reported (trailing : Nat) (input : Input) (result : Option (Bool × Input)) :
    Option (List Bytes × Bool × List Segment) → Prop
  | none => result = none
  | some (group, given, left) => ∃ after, result = some (given, after) ∧
      after.au = unitBytes group ∧ after.file = input.file ∧ Stands trailing after left ∧
      (given = false → after.eof = left.isEmpty)

theorem Reported.of_file {one other : Input} (same : one.file = other.file)
    {result : Option (Bool × Input)} {out : Option (List Bytes × Bool × List Segment)}
    (reported : Reported trailing one result out) : Reported trailing other result out := by
  cases out with
  | none => exact reported
  | some out =>
      obtain ⟨after, equation, units, file, facts⟩ := reported
      exact ⟨after, equation, units, file.trans same, facts⟩

theorem accessLoop_spec {segments : List Segment} (valid : ∀ segment ∈ segments, IsNal segment.nal)
    {input : Input} (stands : Stands trailing input segments) {group : List Bytes}
    (units : input.au = unitBytes group) (slices : input.have_vcl = group.any isSlice)
    {turns : Nat} (enough : segments.length < turns) :
    Reported trailing input (input.accessLoop turns) (readUnit trailing group segments) := by
  induction segments generalizing input group turns with
  | nil =>
      obtain ⟨turns, rfl⟩ := Nat.exists_eq_add_of_lt enough
      have free : input.nal_pending = false := by
        by_contra pending
        rw [Stands, if_pos (Bool.not_eq_false _ ▸ pending)] at stands
        obtain ⟨_, _, impossible, -⟩ := stands
        cases impossible
      rw [Stands, free, if_neg Bool.false_ne_true] at stands
      obtain ⟨read, before⟩ := replay_nal_nil stands
      rw [readUnit]
      refine ⟨{ input with rest := [], eof := true, nal_pending := false }, ?_, units, rfl, ?_,
        fun _ => rfl⟩
      · rw [show [].length + turns + 1 = turns + 1 by simp, Input.accessLoop, free,
          if_neg Bool.false_ne_true, read]
        dsimp only
        rw [slices]
      · exact Stands.of_at rfl (.inr ⟨rfl, before, rfl⟩)
  | cons segment later inductionHypothesis =>
      obtain ⟨turns, rfl⟩ := Nat.exists_eq_add_of_lt enough
      obtain ⟨read, got, holds, after, sameUnits, sameSlices, sameFile⟩ :=
        stands_cons stands (valid segment List.mem_cons_self)
      rw [show (segment :: later).length + turns + 1 = later.length + 1 + turns + 1 by simp]
      rw [readUnit]
      by_cases fits : Fits trailing segment.nal later
      · rw [if_pos fits] at got ⊢
        by_cases empty : segment.nal = []
        · rw [if_pos empty]
          rw [decide_eq_false (not_not.mpr empty)] at got
          refine ⟨{ read with nal_pending := false }, ?_, sameUnits.trans units, sameFile, ?_,
            fun _ => after.2.2⟩
          · rw [Input.accessLoop, got]
            dsimp only
            rw [sameSlices, slices]
          · exact Stands.of_at rfl (.inr after)
        · rw [if_neg empty]
          rw [decide_eq_true empty] at got
          have unitsRead : read.au = unitBytes group := sameUnits.trans units
          have slicesRead : read.have_vcl = group.any isSlice := sameSlices.trans slices
          have size : read.au.length + (startCode ++ segment.nal).length =
              (unitBytes (group ++ [segment.nal])).length := by
            rw [unitsRead, unitBytes_append, @List.length_append _ (unitBytes group)]
          rw [accessLoop_nal got holds, size, ← slicesRead]
          by_cases opened : (read.have_vcl && opensUnit segment.nal) = true
          · rw [if_pos opened, if_pos opened]
            refine ⟨{ read with nal_pending := true }, rfl, unitsRead, sameFile, ?_, nofun⟩
            rw [Stands, if_pos rfl]
            exact ⟨segment, later, rfl, empty, fits, holds, after⟩
          · rw [if_neg opened, if_neg opened]
            by_cases large : JIPC_MAX_FRAME < (unitBytes (group ++ [segment.nal])).length
            · rw [if_pos large, if_pos large]
              rfl
            · rw [if_neg large, if_neg large]
              refine Reported.of_file sameFile (inductionHypothesis
                (fun other listed => valid other (List.mem_cons_of_mem _ listed)) ?_ ?_ ?_ (by omega))
              · exact Stands.of_at rfl (.inr after)
              · rw [unitBytes_append, ← unitsRead]
              · rw [List.any_append, List.any_cons, List.any_nil, Bool.or_false, ← slicesRead]
      · rw [if_neg fits] at got ⊢
        rw [Input.accessLoop, got]
        rfl

/-! ### Access units -/

/-- One pass over some segments delivers the access units, and then finds the end. -/
def ReadsUnits (trailing : Nat) : List Segment → List (List Bytes) → Prop
  | segments, [] => ∃ group, readUnit trailing [] segments = some (group, false, [])
  | segments, unit :: units => ∃ left, readUnit trailing [] segments = some (unit, true, left) ∧
      ReadsUnits trailing left units

/-- What is read are NAL units of the segments, and what is left are some of these. -/
theorem readUnit_valid {group : List Bytes} {segments : List Segment}
    (validGroup : ∀ nal ∈ group, IsNal nal) (valid : ∀ segment ∈ segments, IsNal segment.nal)
    {out : List Bytes} {given : Bool} {left : List Segment}
    (read : readUnit trailing group segments = some (out, given, left)) :
    (∀ nal ∈ out, IsNal nal) ∧ ∀ segment ∈ left, IsNal segment.nal := by
  induction segments generalizing group with
  | nil =>
      cases read
      exact ⟨validGroup, nofun⟩
  | cons segment later inductionHypothesis =>
      have validLater := fun other listed => valid other (List.mem_cons_of_mem segment listed)
      rw [readUnit] at read
      split at read
      · split at read
        · cases read
          exact ⟨validGroup, validLater⟩
        · split at read
          · cases read
            exact ⟨validGroup, valid⟩
          · split at read
            · cases read
            · refine inductionHypothesis ?_ validLater read
              intro nal listed
              rcases List.mem_append.mp listed with before | here
              · exact validGroup nal before
              · rw [List.mem_singleton.mp here]
                exact valid segment List.mem_cons_self
      · cases read

theorem unitBytes_eq_stream (nals : List Bytes) :
    unitBytes nals = stream (nals.map (Segment.mk 1)) 0 := by
  induction nals with
  | nil => rfl
  | cons nal nals inductionHypothesis =>
      rw [List.map_cons, stream_cons, ← inductionHypothesis]
      rfl

/-- The bytes of an access unit determine its NAL units. -/
theorem unitBytes_injective {one other : List Bytes} (validOne : ∀ nal ∈ one, IsNal nal)
    (validOther : ∀ nal ∈ other, IsNal nal) (same : unitBytes one = unitBytes other) :
    one = other := by
  have parse : ∀ {nal : Bytes} {nals : List Bytes}, (∀ n ∈ nal :: nals, IsNal n) →
      (slices (unitBytes (nal :: nals)).length ((unitBytes (nal :: nals)).drop 4)).map stripZeros =
        nal :: nals := by
    intro nal nals valid
    have shape : (unitBytes (nal :: nals)).drop 4 = nal ++ stream (nals.map (Segment.mk 1)) 0 := by
      rw [← unitBytes_eq_stream]
      rfl
    have enough : (nals.map (Segment.mk 1)).length < (unitBytes (nal :: nals)).length := by
      have long := stream_length ((nal :: nals).map (Segment.mk 1)) 0
      rw [← unitBytes_eq_stream, List.map_cons, List.length_cons] at long
      omega
    rw [shape, slices_stream (valid nal List.mem_cons_self) _ _ _ _ enough, List.map_map]
    · exact congrArg (nal :: ·) (List.map_id nals)
    · intro segment listed
      obtain ⟨n, inNals, rfl⟩ := List.mem_map.mp listed
      exact valid n (List.mem_cons_of_mem _ inNals)
  cases one with
  | nil =>
      cases other with
      | nil => rfl
      | cons nal nals => cases same
  | cons nal nals =>
      cases other with
      | nil => cases same
      | cons second rest => rw [← parse validOne, ← parse validOther, same]

theorem Stands.length_le {input : Input} {segments : List Segment}
    (stands : Stands trailing input segments) : segments.length < input.rest.length + 3 := by
  have after : ∀ {later : List Segment}, Behind trailing input later →
      later.length ≤ input.rest.length + 1 := by
    rintro (- | ⟨segment, later⟩) ⟨rest, -⟩
    · exact Nat.zero_le _
    · have long := stream_length later trailing
      rw [rest, behind, List.length_append, List.length_cons]
      omega
  rw [Stands] at stands
  split at stands
  · obtain ⟨segment, later, rfl, -, -, -, behind⟩ := stands
    have bound := after behind
    rw [List.length_cons]
    omega
  · rcases stands with ⟨rest, -⟩ | behind
    · have long := stream_length segments trailing
      rw [rest]
      omega
    · have bound := after behind
      omega

theorem read_spec {segments : List Segment} (valid : ∀ segment ∈ segments, IsNal segment.nal)
    {input : Input} (stands : Stands trailing input segments) :
    Reported trailing input input.replay_access_unit (readUnit trailing [] segments) := by
  rw [Input.replay_access_unit]
  refine Reported.of_file rfl (accessLoop_spec valid ?_ rfl rfl stands.length_le)
  exact stands

/-- What the reader reads of the file, in terms of its segments. -/
theorem reader_read {segments : List Segment} (valid : ∀ segment ∈ segments, IsNal segment.nal)
    {input : Input} (stands : Stands trailing input segments) :
    match readUnit trailing [] segments with
    | none => reader.read input = none
    | some (group, given, left) => ∃ after : Input,
        reader.read input = some (if given then some (unitBytes group) else none, after) ∧
          after.file = input.file ∧ Stands trailing after left ∧
          (given = false → after.eof = left.isEmpty) := by
  have reported := read_spec valid stands
  cases read : readUnit trailing [] segments with
  | none =>
      rw [read] at reported
      exact congrArg (Option.map _) reported
  | some out =>
      obtain ⟨group, given, left⟩ := out
      rw [read] at reported
      obtain ⟨after, got, units, file, further, ended⟩ := reported
      refine ⟨after, ?_, file, further, ended⟩
      rw [← units]
      exact congrArg (Option.map _) got

theorem reads_iff {segments : List Segment} (valid : ∀ segment ∈ segments, IsNal segment.nal)
    {input : Input} (stands : Stands trailing input segments) {units : List (List Bytes)}
    (validUnits : ∀ unit ∈ units, ∀ nal ∈ unit, IsNal nal) :
    reader.Reads input (units.map unitBytes) ↔ ReadsUnits trailing segments units := by
  induction units generalizing input segments with
  | nil =>
      have spec := reader_read valid stands
      rw [List.map_nil, Reader.Reads, ReadsUnits]
      cases read : readUnit trailing [] segments with
      | none =>
          rw [read] at spec
          rw [spec]
          exact iff_of_false (by rintro ⟨_, got, _⟩; cases got) (by rintro ⟨_, got⟩; cases got)
      | some out =>
          obtain ⟨group, given, left⟩ := out
          rw [read] at spec
          obtain ⟨after, got, -, -, ended⟩ := spec
          rw [got]
          cases given with
          | true => exact iff_of_false (by rintro ⟨_, same, _⟩; cases same) (by rintro ⟨_, same⟩; cases same)
          | false =>
              have atEnd : reader.atEnd after = left.isEmpty := ended rfl
              constructor
              · rintro ⟨last, same, nothing⟩
                cases same
                rw [atEnd, List.isEmpty_iff] at nothing
                exact ⟨group, by rw [nothing]⟩
              · rintro ⟨_, same⟩
                cases same
                exact ⟨after, rfl, atEnd⟩
  | cons unit units inductionHypothesis =>
      have spec := reader_read valid stands
      rw [List.map_cons, Reader.Reads, ReadsUnits]
      cases read : readUnit trailing [] segments with
      | none =>
          rw [read] at spec
          rw [spec]
          exact iff_of_false (by rintro ⟨_, got, _⟩; cases got) (by rintro ⟨_, got, _⟩; cases got)
      | some out =>
          obtain ⟨group, given, left⟩ := out
          obtain ⟨validGroup, validLeft⟩ := readUnit_valid (List.forall_mem_nil _) valid read
          rw [read] at spec
          obtain ⟨after, got, -, further, -⟩ := spec
          have later := inductionHypothesis validLeft further fun other listed =>
            validUnits other (List.mem_cons_of_mem _ listed)
          rw [got]
          cases given with
          | false =>
              exact iff_of_false (by rintro ⟨_, same, _⟩; cases same) (by rintro ⟨_, same, _⟩; cases same)
          | true =>
              constructor
              · rintro ⟨next, same, reads⟩
                obtain ⟨bytes, rfl⟩ := Prod.mk.inj (Option.some.inj same)
                have equal := unitBytes_injective validGroup (validUnits unit List.mem_cons_self)
                  (Option.some.inj bytes)
                exact ⟨left, by rw [equal], later.mp reads⟩
              · rintro ⟨_, same, reads⟩
                cases same
                exact ⟨after, rfl, later.mpr reads⟩

/-! ### Files that can be played -/

/-- The NAL units of some segments that are not empty. -/
def nalsOf (segments : List Segment) : List Bytes :=
  (segments.map Segment.nal).filter fun nal => nal ≠ []

/-- The segments continue an access unit well: there is room for every NAL unit, for the zeros
behind it and for every access unit; the last access unit has a slice; and an empty NAL unit
stands at the end, or behind an access unit with a slice where the next one begins. -/
def Playable (trailing : Nat) : List Bytes → List Segment → Prop
  | group, [] => group = [] ∨ group.any isSlice = true
  | group, segment :: later =>
      Fits trailing segment.nal later ∧
        if segment.nal = [] then
          (later = [] ∧ (group = [] ∨ group.any isSlice = true)) ∨
          (later ≠ [] ∧ group.any isSlice = true ∧
            (∀ next ∈ later.head?, next.nal ≠ [] → opensUnit next.nal = true) ∧
            Playable trailing [] later)
        else if group.any isSlice && opensUnit segment.nal then Playable trailing [segment.nal] later
        else (unitBytes (group ++ [segment.nal])).length ≤ JIPC_MAX_FRAME ∧
          Playable trailing (group ++ [segment.nal]) later

instance decidePlayable : ∀ (group : List Bytes) (segments : List Segment),
    Decidable (Playable trailing group segments)
  | group, [] => inferInstanceAs (Decidable (group = [] ∨ group.any isSlice = true))
  | group, segment :: later =>
      have : Decidable (Playable trailing [] later) := decidePlayable [] later
      have : Decidable (Playable trailing [segment.nal] later) := decidePlayable [segment.nal] later
      have : Decidable (Playable trailing (group ++ [segment.nal]) later) :=
        decidePlayable (group ++ [segment.nal]) later
      inferInstanceAs (Decidable (_ ∧ ite _ _ _))

/-- One pass from within an access unit. -/
def ReadsFrom (trailing : Nat) (group : List Bytes) (segments : List Segment) :
    List (List Bytes) → Prop
  | [] => ∃ rest, readUnit trailing group segments = some (rest, false, [])
  | unit :: units => ∃ left, readUnit trailing group segments = some (unit, true, left) ∧
      ReadsUnits trailing left units

theorem readsFrom_nil (segments : List Segment) (units : List (List Bytes)) :
    ReadsFrom trailing [] segments units ↔ ReadsUnits trailing segments units := by
  cases units <;> exact Iff.rfl

/-- The end of the file. -/
theorem readsFrom_end {group : List Bytes} {segments : List Segment}
    (read : readUnit trailing group segments = some (group, group.any isSlice, [])) :
    ReadsFrom trailing group segments (groupsFrom isSlice opensUnit group []) ↔
      group = [] ∨ group.any isSlice = true := by
  rw [groupsFrom]
  cases group with
  | nil => exact iff_of_true ⟨_, read⟩ (.inl rfl)
  | cons nal group =>
      rw [List.isEmpty_cons, if_neg Bool.false_ne_true, ReadsFrom, read]
      constructor
      · rintro ⟨left, same, -⟩
        exact .inr (Prod.mk.inj (Prod.mk.inj (Option.some.inj same)).2).1
      · rintro (impossible | sliced)
        · cases impossible
        · rw [sliced]
          exact ⟨[], rfl, _, rfl⟩

theorem readsFrom_congr {group other : List Bytes} {segments later : List Segment}
    (same : readUnit trailing group segments = readUnit trailing other later)
    (units : List (List Bytes)) :
    ReadsFrom trailing group segments units ↔ ReadsFrom trailing other later units := by
  cases units <;> rw [ReadsFrom, ReadsFrom, same]

theorem not_readsFrom {group : List Bytes} {segments : List Segment}
    (failed : readUnit trailing group segments = none) (units : List (List Bytes)) :
    ¬ ReadsFrom trailing group segments units := by
  cases units with
  | nil =>
      rintro ⟨_, read⟩
      rw [failed] at read
      cases read
  | cons unit units =>
      rintro ⟨_, read, -⟩
      rw [failed] at read
      cases read

/-- No further NAL unit may join an access unit that an empty one has ended. -/
theorem playable_opens {later : List Segment} (playable : Playable trailing [] later)
    (opened : ∀ next ∈ later.head?, next.nal ≠ [] → opensUnit next.nal = true) :
    ∀ nal ∈ (nalsOf later).head?, opensUnit nal = true := by
  cases later with
  | nil => exact nofun
  | cons next more =>
      by_cases empty : next.nal = []
      · rw [Playable, if_pos empty] at playable
        rcases playable.2 with ⟨rfl, -⟩ | ⟨-, impossible, -⟩
        · rw [nalsOf, List.map_singleton, empty]
          exact nofun
        · cases impossible
      · intro nal listed
        rw [nalsOf, List.map_cons, List.filter_cons_of_pos (by simpa using empty)] at listed
        cases listed
        exact opened next rfl empty

/-- Behind an empty NAL unit that does not end the file. -/
theorem readsFrom_empty {group : List Bytes} {segments later : List Segment} (more : later ≠ [])
    (read : readUnit trailing group segments = some (group, group.any isSlice, later))
    (further : ReadsUnits trailing later (accessUnits (nalsOf later)) ↔
      Playable trailing [] later) :
    ReadsFrom trailing group segments (groupsFrom isSlice opensUnit group (nalsOf later)) ↔
      group.any isSlice = true ∧
        (∀ next ∈ later.head?, next.nal ≠ [] → opensUnit next.nal = true) ∧
        Playable trailing [] later := by
  constructor
  · intro reads
    cases cut : groupsFrom isSlice opensUnit group (nalsOf later) with
    | nil =>
        rw [cut] at reads
        obtain ⟨_, same⟩ := reads
        rw [read] at same
        exact absurd (Prod.mk.inj (Prod.mk.inj (Option.some.inj same)).2).2 more
    | cons unit units =>
        have reads' := reads
        rw [cut] at reads'
        obtain ⟨left, same, onward⟩ := reads'
        rw [read] at same
        obtain ⟨sameUnit, sliced, sameLeft⟩ : group = unit ∧ group.any isSlice = true ∧
            later = left := by
          have parts := Prod.mk.inj (Option.some.inj same)
          exact ⟨parts.1, (Prod.mk.inj parts.2).1, (Prod.mk.inj parts.2).2⟩
        subst sameUnit sameLeft
        -- The access unit ended, so the next NAL unit begins one.
        have opened : ∀ nal ∈ (nalsOf later).head?, opensUnit nal = true := by
          intro nal listed
          by_contra joins
          cases nals : nalsOf later with
          | nil =>
              rw [nals] at listed
              cases listed
          | cons first rest =>
              rw [nals] at listed cut
              cases listed
              exact groupsFrom_ne_cons (Bool.not_eq_true _ ▸ joins) rest units cut
        have split := groupsFrom_eq_cons_groups sliced opened
        rw [cut] at split
        rw [(List.cons.inj split).2] at onward
        refine ⟨sliced, ?_, further.mp onward⟩
        intro next listed begun
        cases later with
        | nil => cases listed
        | cons first rest =>
            cases listed
            apply opened
            rw [nalsOf, List.map_cons, List.filter_cons_of_pos (by simpa using begun)]
            rfl
  · rintro ⟨sliced, opened, playable⟩
    rw [groupsFrom_eq_cons_groups sliced (playable_opens playable opened), ReadsFrom, read, sliced]
    exact ⟨later, rfl, further.mpr playable⟩

theorem unitBytes_length_singleton (nal : Bytes) : (unitBytes [nal]).length = 4 + nal.length := by
  rw [unitBytes, List.flatMap_singleton, List.length_append]
  rfl

theorem readsFrom_iff (group : List Bytes) (segments : List Segment) :
    ReadsFrom trailing group segments (groupsFrom isSlice opensUnit group (nalsOf segments)) ↔
      Playable trailing group segments := by
  induction segments generalizing group with
  | nil => exact readsFrom_end rfl
  | cons segment later inductionHypothesis =>
      rw [Playable]
      by_cases fits : Fits trailing segment.nal later
      · rw [and_iff_right fits]
        by_cases empty : segment.nal = []
        · have read : readUnit trailing group (segment :: later) =
              some (group, group.any isSlice, later) := by
            rw [readUnit, if_pos fits, if_pos empty]
          have skipped : nalsOf (segment :: later) = nalsOf later := by
            rw [nalsOf, List.map_cons, List.filter_cons_of_neg (by simpa using empty), nalsOf]
          rw [if_pos empty, skipped]
          by_cases last : later = []
          · subst last
            rw [show nalsOf [] = [] by rfl, readsFrom_end read]
            simp
          · have further := (readsFrom_nil later _).symm.trans (inductionHypothesis [])
            rw [readsFrom_empty last read further]
            simp [last]
        · have kept : nalsOf (segment :: later) = segment.nal :: nalsOf later := by
            rw [nalsOf, List.map_cons, List.filter_cons_of_pos (by simpa using empty), nalsOf]
          rw [if_neg empty, kept, groupsFrom]
          by_cases opened : (group.any isSlice && opensUnit segment.nal) = true
          · have read : readUnit trailing group (segment :: later) =
                some (group, true, segment :: later) := by
              rw [readUnit, if_pos fits, if_neg empty, if_pos opened]
            have again : readUnit trailing [] (segment :: later) =
                readUnit trailing [segment.nal] later := by
              rw [readUnit, if_pos fits, if_neg empty, List.any_nil, Bool.false_and,
                if_neg Bool.false_ne_true, List.nil_append, unitBytes_length_singleton,
                if_neg (Nat.not_lt.mpr fits.1)]
            rw [if_pos opened, if_pos opened, ← inductionHypothesis [segment.nal], ReadsFrom, read,
              ← readsFrom_congr again, readsFrom_nil]
            constructor
            · rintro ⟨_, same, reads⟩
              cases same
              exact reads
            · intro reads
              exact ⟨_, rfl, reads⟩
          · rw [if_neg opened, if_neg opened]
            by_cases large : JIPC_MAX_FRAME < (unitBytes (group ++ [segment.nal])).length
            · refine iff_of_false (not_readsFrom ?_ _) fun both => Nat.not_le.mpr large both.1
              rw [readUnit, if_pos fits, if_neg empty, if_neg opened, if_pos large]
            · have onward : readUnit trailing group (segment :: later) =
                  readUnit trailing (group ++ [segment.nal]) later := by
                rw [readUnit, if_pos fits, if_neg empty, if_neg opened, if_neg large]
              rw [readsFrom_congr onward, inductionHypothesis, and_iff_right (Nat.not_lt.mp large)]
      · refine iff_of_false (not_readsFrom ?_ _) fun both => fits both.1
        rw [readUnit, if_neg fits]

/-! ### Call after call -/

/-- Only where the reader stands matters for what it reads. -/
theorem reads_of_stands {segments : List Segment} (valid : ∀ segment ∈ segments, IsNal segment.nal)
    {one other : Input} (first : Stands trailing one segments)
    (second : Stands trailing other segments) {outs : List Bytes} (reads : reader.Reads one outs) :
    reader.Reads other outs := by
  induction outs generalizing one other segments with
  | nil =>
      have specOne := reader_read valid first
      have specOther := reader_read valid second
      obtain ⟨last, got, nothing⟩ := reads
      cases read : readUnit trailing [] segments with
      | none =>
          rw [read] at specOne
          exact absurd (specOne.symm.trans got) nofun
      | some out =>
          obtain ⟨group, given, left⟩ := out
          rw [read] at specOne specOther
          obtain ⟨after, gotOne, -, -, endedOne⟩ := specOne
          obtain ⟨afterOther, gotOther, -, -, endedOther⟩ := specOther
          rw [gotOne] at got
          cases given with
          | true => cases got
          | false =>
              cases got
              exact ⟨afterOther, gotOther, (endedOther rfl).trans ((endedOne rfl).symm.trans nothing)⟩
  | cons out outs inductionHypothesis =>
      have specOne := reader_read valid first
      have specOther := reader_read valid second
      obtain ⟨further, got, later⟩ := reads
      cases read : readUnit trailing [] segments with
      | none =>
          rw [read] at specOne
          exact absurd (specOne.symm.trans got) nofun
      | some result =>
          obtain ⟨group, given, left⟩ := result
          obtain ⟨-, validLeft⟩ := readUnit_valid (List.forall_mem_nil _) valid read
          rw [read] at specOne specOther
          obtain ⟨after, gotOne, -, standsOne, -⟩ := specOne
          obtain ⟨afterOther, gotOther, -, standsOther, -⟩ := specOther
          rw [gotOne] at got
          cases given with
          | false => cases got
          | true =>
              cases got
              exact ⟨afterOther, gotOther, inductionHypothesis validLeft standsOne standsOther later⟩

theorem steady {segments : List Segment} (valid : ∀ segment ∈ segments, IsNal segment.nal) :
    reader.Steady (Input.opened (stream segments trailing)) fun input =>
      input.file = stream segments trailing ∧
        ∃ left, (∀ segment ∈ left, IsNal segment.nal) ∧ Stands trailing input left := by
  have atStart : ∀ input : Input, input.file = stream segments trailing →
      Stands trailing input.replay_rewind segments := by
    intro input file
    exact Stands.of_at rfl (.inl ⟨file, rfl, rfl⟩)
  refine ⟨⟨rfl, segments, valid, ?_⟩, ?_, ?_, ?_⟩
  · exact atStart (Input.opened (stream segments trailing)) rfl
  · rintro state out further ⟨file, left, validLeft, stands⟩ got
    have spec := reader_read validLeft stands
    cases read : readUnit trailing [] left with
    | none =>
        rw [read] at spec
        exact absurd (spec.symm.trans got) nofun
    | some result =>
        obtain ⟨group, given, onward⟩ := result
        obtain ⟨-, validOnward⟩ := readUnit_valid (List.forall_mem_nil _) validLeft read
        rw [read] at spec
        obtain ⟨after, gotHere, sameFile, standsHere, -⟩ := spec
        rw [gotHere] at got
        cases got
        exact ⟨sameFile.trans file, onward, validOnward, standsHere⟩
  · rintro state ⟨file, -⟩
    exact ⟨file, segments, valid, atStart state file⟩
  · rintro state outs ⟨file, -⟩ reads
    exact reads_of_stands valid (atStart (Input.opened (stream segments trailing)) rfl)
      (atStart state file) reads

theorem nalsOf_valid {segments : List Segment} (valid : ∀ segment ∈ segments, IsNal segment.nal) :
    ∀ unit ∈ accessUnits (nalsOf segments), ∀ nal ∈ unit, IsNal nal := by
  intro unit listed nal inUnit
  have inNals : nal ∈ nalsOf segments := by
    have whole := @groupsFrom_flatten _ isSlice opensUnit [] (nalsOf segments)
    rw [List.nil_append] at whole
    rw [← whole]
    exact List.mem_flatten.mpr ⟨unit, listed, inUnit⟩
  obtain ⟨segment, inFile, rfl⟩ := List.mem_map.mp (List.mem_filter.mp inNals).1
  exact valid segment inFile

/-- `replay_next` plays the access units of the file, over and over and with its end only there,
exactly when the file can be played. -/
theorem plays_iff_playable (segments : List Segment) (trailing : Nat)
    (valid : ∀ segment ∈ segments, IsNal segment.nal) :
    Plays Input.play (Input.opened (stream segments trailing))
        ((accessUnits (nalsOf segments)).map unitBytes) ↔ Playable trailing [] segments := by
  have stands : Stands trailing (Input.opened (stream segments trailing)) segments :=
    Stands.of_at rfl (.inl ⟨rfl, rfl, rfl⟩)
  rw [play_eq_next, (steady valid).plays_iff_reads, reads_iff valid stands (nalsOf_valid valid),
    ← readsFrom_nil]
  exact readsFrom_iff [] segments

end File

/-- A picture in two slices, then parameters and another picture. -/
def sampleSegments : List Segment :=
  [⟨1, [0x65, 0x88]⟩, ⟨0, [0x65, 0x08]⟩, ⟨1, []⟩, ⟨1, [0x67, 0x42]⟩, ⟨3, [0x61, 0x9a]⟩]

theorem plays_iff_playable_sample :
    Plays Input.play (Input.opened (stream sampleSegments 2))
      [[0, 0, 0, 1, 0x65, 0x88, 0, 0, 0, 1, 0x65, 0x08],
        [0, 0, 0, 1, 0x67, 0x42, 0, 0, 0, 1, 0x61, 0x9a]] := by
  have valid : ∀ segment ∈ sampleSegments, IsNal segment.nal := by
    intro segment listed
    fin_cases listed <;> exact ⟨by decide, by decide⟩
  exact (plays_iff_playable sampleSegments 2 valid).mpr (by decide)

/-- A file that begins with an empty NAL unit. -/
def adjacentCodes : List Segment := [⟨1, []⟩, ⟨1, [0x65, 0x88]⟩]

/-- Its picture is never delivered: the empty NAL unit counts as the end of the file. -/
theorem adjacent_codes_end_the_file :
    (∀ segment ∈ adjacentCodes, IsNal segment.nal) ∧
      accessUnits (nalsOf adjacentCodes) = [[[0x65, 0x88]]] ∧
      call Input.play (Input.opened (stream adjacentCodes 0)) 0 = (none, [false, false]) ∧
      ¬ Plays Input.play (Input.opened (stream adjacentCodes 0))
        ((accessUnits (nalsOf adjacentCodes)).map unitBytes) := by
  have failed : call Input.play (Input.opened (stream adjacentCodes 0)) 0 =
      (none, [false, false]) := by
    rw [play_eq_next]
    decide
  refine ⟨?_, by decide, failed, ?_⟩
  · intro segment listed
    fin_cases listed <;> exact ⟨by decide, by decide⟩
  · intro plays
    have first := plays 0
    rw [failed] at first
    cases first

end JooanW3U.Media.Replay

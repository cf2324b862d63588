import Mathlib.Data.List.DropRight
import Mathlib.Data.List.Infix

/-!
Owns Annex B byte streams: the search for a start code, the slices between start
codes, and the grammar of a stream of NAL units. Main result: slicing a stream
of the grammar and stripping trailing zeros gives its NAL units back.

Does not own the meaning of a NAL unit.
-/

namespace JooanW3U.Library.AnnexB

abbrev Bytes := List UInt8

/-! ### Start codes -/

/-- Position and length of the first three- or four-byte start code. -/
def findPrefix : Bytes → Option (Nat × Nat)
  | a :: b :: c :: rest =>
      if a = 0 ∧ b = 0 ∧ c = 1 then some (0, 3)
      else if a = 0 ∧ b = 0 ∧ c = 0 ∧ rest.head? = some 1 then some (0, 4)
      else (findPrefix (b :: c :: rest)).map fun found => (found.1 + 1, found.2)
  | _ => none

/-- `bytes` without the zeros at its end. -/
def stripZeros (bytes : Bytes) : Bytes := bytes.rdropWhile (· == 0)

/-- The slices between start codes, in bytes that follow a start code. -/
def slices : Nat → Bytes → List Bytes
  | 0, _ => []
  | fuel + 1, bytes =>
      match findPrefix bytes with
      | none => [bytes]
      | some (position, size) =>
          bytes.take position :: slices fuel (bytes.drop (position + size))

/-! ### The grammar -/

/-- Zero bytes, a three-byte start code and a NAL unit; a zero before the start
code makes it a four-byte one. -/
structure Segment where
  zeros : Nat
  nal : Bytes
deriving Repr, DecidableEq

def Segment.bytes (segment : Segment) : Bytes :=
  List.replicate segment.zeros 0 ++ [0, 0, 1] ++ segment.nal

/-- Segments in order, then zero bytes. -/
def stream (segments : List Segment) (trailing : Nat) : Bytes :=
  segments.flatMap Segment.bytes ++ List.replicate trailing 0

/-- A NAL unit holds no start code and does not end in a zero byte. -/
structure IsNal (nal : Bytes) : Prop where
  noCode : ¬ [0, 0, 1] <:+: nal
  lastNonzero : nal.getLast? ≠ some 0

theorem isNal_nil : IsNal [] where
  noCode inside := by simpa using inside.length_le
  lastNonzero := by simp

theorem IsNal.tail {byte : UInt8} {nal : Bytes} (valid : IsNal (byte :: nal)) : IsNal nal where
  noCode inside := valid.noCode (inside.trans (List.suffix_cons byte nal).isInfix)
  lastNonzero := by
    cases nal with
    | nil => simp
    | cons next rest =>
        have last := valid.lastNonzero
        rw [List.getLast?_cons_cons] at last
        exact last

/-! ### Searching a stream of the grammar -/

/-- Where the search finds a start code after `zeros` zero bytes. -/
def codeAfter (zeros : Nat) : Nat × Nat := if zeros = 0 then (0, 3) else (zeros - 1, 4)

theorem findPrefix_zeros (zeros : Nat) (rest : Bytes) :
    findPrefix (List.replicate zeros 0 ++ [0, 0, 1] ++ rest) = some (codeAfter zeros) := by
  induction zeros with
  | zero => rfl
  | succ zeros inductionHypothesis =>
      cases zeros with
      | zero => rfl
      | succ zeros =>
          have step : findPrefix (List.replicate (zeros + 2) 0 ++ [0, 0, 1] ++ rest) =
              (findPrefix (List.replicate (zeros + 1) 0 ++ [0, 0, 1] ++ rest)).map
                fun found => (found.1 + 1, found.2) := by
            cases zeros with
            | zero => rfl
            | succ zeros => cases zeros <;> simp [findPrefix, List.replicate_succ]
          rw [step, inductionHypothesis]
          simp [codeAfter]

theorem findPrefix_zeros_only (zeros : Nat) : findPrefix (List.replicate zeros 0) = none := by
  induction zeros with
  | zero => rfl
  | succ zeros inductionHypothesis =>
      match zeros, inductionHypothesis with
      | 0, _ => rfl
      | 1, _ => rfl
      | 2, _ => rfl
      | zeros + 3, inductionHypothesis =>
          have step : findPrefix (List.replicate (zeros + 4) 0) =
              (findPrefix (List.replicate (zeros + 3) 0)).map
                fun found => (found.1 + 1, found.2) := rfl
          rw [step, inductionHypothesis]
          rfl

/-- A NAL unit hides no start code, whatever follows it. -/
theorem findPrefix_cons_nal {byte : UInt8} {nal : Bytes} (valid : IsNal (byte :: nal))
    (rest : Bytes) :
    findPrefix (byte :: nal ++ rest) =
      (findPrefix (nal ++ rest)).map fun found => (found.1 + 1, found.2) := by
  have noCode := valid.noCode
  have last := valid.lastNonzero
  match nal, rest with
  | [], [] => rfl
  | [], [_] => rfl
  | [], b :: c :: rest =>
      have first : byte ≠ 0 := by simpa using last
      simp [findPrefix, first]
  | [b], [] => rfl
  | [b], c :: rest =>
      have second : b ≠ 0 := by simpa using last
      simp [findPrefix, second]
  | [b, c], rest =>
      have third : c ≠ 0 := by simpa using last
      have open3 : ¬ (byte = 0 ∧ b = 0 ∧ c = 1) := by
        rintro ⟨rfl, rfl, rfl⟩
        exact noCode (List.infix_refl _)
      simp [findPrefix, third, open3]
  | b :: c :: d :: nal, rest =>
      have open3 : ¬ (byte = 0 ∧ b = 0 ∧ c = 1) := by
        rintro ⟨rfl, rfl, rfl⟩
        exact noCode ⟨[], d :: nal, rfl⟩
      have open4 : ¬ (byte = 0 ∧ b = 0 ∧ c = 0 ∧ d = 1) := by
        rintro ⟨rfl, rfl, rfl, rfl⟩
        exact noCode ⟨[0], nal, rfl⟩
      simp [findPrefix, open3, open4]

theorem findPrefix_nal {nal : Bytes} (valid : IsNal nal) (rest : Bytes) :
    findPrefix (nal ++ rest) =
      (findPrefix rest).map fun found => (found.1 + nal.length, found.2) := by
  induction nal with
  | nil => simp
  | cons byte nal inductionHypothesis =>
      rw [findPrefix_cons_nal valid, inductionHypothesis valid.tail, Option.map_map]
      rfl

theorem stripZeros_nal {nal : Bytes} (valid : IsNal nal) (zeros : Nat) :
    stripZeros (nal ++ List.replicate zeros 0) = nal := by
  induction zeros with
  | zero =>
      rw [List.replicate_zero, List.append_nil, stripZeros, List.rdropWhile_eq_self_iff]
      intro nonempty
      have last := valid.lastNonzero
      rw [List.getLast?_eq_some_getLast nonempty] at last
      simpa using last
  | succ zeros inductionHypothesis =>
      rw [List.replicate_succ', ← List.append_assoc, stripZeros, List.rdropWhile_concat_pos _ _ _ rfl]
      exact inductionHypothesis

/-! ### Slices of a stream -/

/-- The search in a NAL unit followed by a segment stops at that segment. -/
theorem findPrefix_segment {nal : Bytes} (valid : IsNal nal) (next : Segment) (rest : Bytes) :
    ∃ position size, findPrefix (nal ++ (next.bytes ++ rest)) = some (position, size) ∧
      (nal ++ (next.bytes ++ rest)).take position = nal ++ List.replicate (next.zeros - 1) 0 ∧
      (nal ++ (next.bytes ++ rest)).drop (position + size) = next.nal ++ rest := by
  have shape : next.bytes ++ rest =
      List.replicate next.zeros 0 ++ [0, 0, 1] ++ (next.nal ++ rest) := by
    simp [Segment.bytes]
  refine ⟨(codeAfter next.zeros).1 + nal.length, (codeAfter next.zeros).2, ?_, ?_, ?_⟩
  · rw [findPrefix_nal valid, shape, findPrefix_zeros, Option.map_some]
  · rw [shape, Nat.add_comm, List.take_length_add_append, codeAfter]
    cases next.zeros with
    | zero => simp
    | succ zeros =>
        rw [List.replicate_succ']
        simp
  · have order : (codeAfter next.zeros).1 + nal.length + (codeAfter next.zeros).2 =
        nal.length + (next.zeros + 3) := by
      unfold codeAfter
      split <;> simp only <;> omega
    rw [order, List.drop_length_add_append, shape, ← List.drop_drop]
    simp

theorem findPrefix_last {nal : Bytes} (valid : IsNal nal) (trailing : Nat) :
    findPrefix (nal ++ List.replicate trailing 0) = none := by
  rw [findPrefix_nal valid, findPrefix_zeros_only, Option.map_none]

theorem stream_cons (segment : Segment) (segments : List Segment) (trailing : Nat) :
    stream (segment :: segments) trailing = segment.bytes ++ stream segments trailing := by
  simp [stream]

theorem stream_length (segments : List Segment) (trailing : Nat) :
    3 * segments.length ≤ (stream segments trailing).length := by
  induction segments with
  | nil => exact Nat.zero_le _
  | cons segment segments inductionHypothesis =>
      rw [stream_cons, List.length_append, List.length_cons, Segment.bytes]
      simp only [List.length_append, List.length_replicate, List.length_cons, List.length_nil]
      omega

theorem slices_stream {nal : Bytes} (valid : IsNal nal) (segments : List Segment)
    (allValid : ∀ segment ∈ segments, IsNal segment.nal) (trailing fuel : Nat)
    (enough : segments.length < fuel) :
    (slices fuel (nal ++ stream segments trailing)).map stripZeros =
      nal :: segments.map Segment.nal := by
  induction segments generalizing nal fuel with
  | nil =>
      obtain ⟨fuel, rfl⟩ := Nat.exists_eq_add_of_lt enough
      have whole : nal ++ stream [] trailing = nal ++ List.replicate trailing 0 := rfl
      rw [whole, slices, findPrefix_last valid]
      simp only [List.map_singleton, stripZeros_nal valid, List.map_nil]
  | cons segment segments inductionHypothesis =>
      cases fuel with
      | zero => exact absurd enough (Nat.not_lt_zero _)
      | succ fuel =>
          obtain ⟨position, size, found, before, after⟩ :=
            findPrefix_segment valid segment (stream segments trailing)
          rw [stream_cons, slices, found]
          simp only [before, after, List.map_cons, stripZeros_nal valid]
          rw [inductionHypothesis (allValid segment List.mem_cons_self)
            (fun other member => allValid other (List.mem_cons_of_mem _ member)) fuel
            (Nat.lt_of_succ_lt_succ enough)]

end JooanW3U.Library.AnnexB

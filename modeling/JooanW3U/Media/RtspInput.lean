import JooanW3U.Library.Framing
import JooanW3U.Media.CText

/-!
Owns what an RTSP client's bytes become: `parse_request`, the framing of requests
and interleaved frames in `process_input`, and the receiving loop of `client_main`.
Main result: how the bytes are cut into `recv` results does not matter.

Does not own the answers to requests, which are the session's, nor the time-outs
and the sending that `client_main` does between two `recv` calls.
-/

namespace JooanW3U.Media.RtspInput

open JooanW3U.Library

def RTSP_HEADER_MAX : Nat := 16384
def RTSP_BUFFER_SIZE : Nat := 32768
def INT_MAX : Nat := 2147483647

abbrev Bytes := List UInt8

/-! ## Requests -/

/-- `rtsp_request`, an absent header being the empty text. -/
structure Request where
  method : List Char
  uri : List Char
  authorization : List Char
  transport : List Char
  session : List Char
  range : List Char
  require : List Char
  cseq : Nat
  content_length : Nat
  deriving Repr, DecidableEq

/-- `strstr(text, "\r\n")`: what stands before and behind it. -/
def splitLine : List Char → Option (List Char × List Char)
  | [] => none
  | '\r' :: '\n' :: rest => some ([], rest)
  | c :: rest => (splitLine rest).map fun (line, after) => (c :: line, after)

/-- `sscanf` with `%Ns`. -/
def scanWord (width : Nat) (text : List Char) : Option (List Char × List Char) :=
  let text := text.dropWhile isSpace
  let word := (text.takeWhile fun c => !isSpace c).take width
  if word = [] then none else some (word, text.drop word.length)

/-- The request line: `sscanf` finds three words and nothing else. -/
def requestLine (line : List Char) : Option (List Char × List Char) := do
  let (method, rest) ← scanWord 31 line
  let (uri, rest) ← scanWord 2047 rest
  let (version, rest) ← scanWord 15 rest
  if rest.dropWhile isSpace ≠ [] ∨ version ≠ "RTSP/1.0".toList then none
  else if uri.any fun c => c.toNat ≤ 32 || c.toNat = 127 then none
  else some (method, uri)

def isBlank (c : Char) : Bool := c = ' ' || c = '\t'

def trim (text : List Char) : List Char :=
  ((text.dropWhile isBlank).reverse.dropWhile isBlank).reverse

def parse_unsigned (text : List Char) (limit : Nat) : Option Nat :=
  if text ≠ [] ∧ text.all Char.isDigit ∧ digitsValue text ≤ limit then some (digitsValue text)
  else none

/-- The state of the loop over the header fields. -/
structure Fields where
  request : Request
  have_cseq : Bool
  have_length : Bool
  deriving Repr, DecidableEq

/-- A text field that may be given once; an empty one counts as absent. -/
def once (capacity : Nat) (target value : List Char) : Option (List Char) :=
  if target ≠ [] ∨ capacity ≤ value.length then none else some value

/-- The `Require` field, which may be repeated. -/
def required (present value : List Char) : Option (List Char) :=
  let used := present.length + if present = [] then 0 else 2
  if 256 ≤ used + value.length then none
  else some (present ++ (if present = [] then [] else ", ".toList) ++ value)

/-- One header field. -/
def field (name value : List Char) (f : Fields) : Option Fields :=
  let named (text : String) : Bool := sameIgnoringCase name text.toList
  if named "CSeq" then
    if f.have_cseq then none
    else (parse_unsigned value INT_MAX).map fun number =>
      { f with have_cseq := true, request := { f.request with cseq := number } }
  else if named "Content-Length" then
    if f.have_length then none
    else (parse_unsigned value RTSP_HEADER_MAX).map fun number =>
      { f with have_length := true, request := { f.request with content_length := number } }
  else if named "Transfer-Encoding" then none
  else if named "Require" then
    (required f.request.require value).map fun require =>
      { f with request := { f.request with require } }
  else if named "Authorization" then
    (once 3072 f.request.authorization value).map fun authorization =>
      { f with request := { f.request with authorization } }
  else if named "Transport" then
    (once 1024 f.request.transport value).map fun transport =>
      { f with request := { f.request with transport } }
  else if named "Session" then
    (once 128 f.request.session value).map fun session =>
      { f with request := { f.request with session } }
  else if named "Range" then
    (once 128 f.request.range value).map fun range =>
      { f with request := { f.request with range } }
  else some f

/-- A header line: it does not begin with a blank, and holds a colon and a value
without control characters. -/
def fieldLine (line : List Char) (f : Fields) : Option Fields :=
  if line.head?.any isBlank then none
  else
    match line.span (· ≠ ':') with
    | (_, []) => none
    | (name, _ :: rest) =>
        let value := trim rest
        if value.any fun c => (c.toNat < 32 && c ≠ '\t') || c.toNat = 127 then none
        else field name value f

/-- The loop over the header fields, `allowed` of which may still come. -/
def parseFields : Nat → List Char → Fields → Option Fields
  | _, [], f => some f
  | 0, _, _ => none
  | allowed + 1, text, f => do
      let (line, rest) ← splitLine text
      parseFields allowed rest (← fieldLine line f)

def parse_request (header : List Char) : Option Request := do
  let (line, rest) ← splitLine header
  let (method, uri) ← requestLine line
  let f ← parseFields 128 rest ⟨⟨method, uri, [], [], [], [], [], 0, 0⟩, false, false⟩
  if f.have_cseq then some f.request else none

/-! ## Messages -/

/-- What is dispatched: a request with its body, or an interleaved frame. -/
inductive Message
  | request (request : Request) (body : Bytes)
  | frame (channel : UInt8) (payload : Bytes)
  deriving Repr, DecidableEq

/-- Why the connection is closed.  `oversize` is a header that is too long, and
`answered` whether a 400 is sent for it; `full` is the check before `recv`. -/
inductive Closing
  | full
  | hangup
  | frameTooLong
  | oversize (answered : Bool)
  | nul
  | malformed
  | bodyTooLong
  | handler
  deriving Repr, DecidableEq

/-- The reason without the 400. -/
def Closing.kind : Closing → Closing
  | oversize _ => oversize false
  | closing => closing

/-- Where the header ends: behind the first empty line. -/
def header_size : Bytes → Option Nat
  | [] => none
  | byte :: rest =>
      if [13, 10, 13, 10].isPrefixOf (byte :: rest) then some 4
      else (header_size rest).map (· + 1)

/-- The bytes as a C string's characters. -/
def text (bytes : Bytes) : List Char :=
  bytes.map fun byte => Char.ofNat byte.toNat

/-- `process_input` on a `$`. -/
def interleavedFront (input : Bytes) : Front Message Closing :=
  match input with
  | _ :: channel :: high :: low :: rest =>
      let length := high.toNat * 256 + low.toNat
      if length + 4 > RTSP_BUFFER_SIZE then .fault .frameTooLong
      else if input.length < length + 4 then .short
      else .message (.frame channel (rest.take length)) (length + 4)
  | _ => .short

/-- `process_input` on a request. -/
def requestFront (input : Bytes) : Front Message Closing :=
  match header_size input with
  | none => if RTSP_HEADER_MAX ≤ input.length then .fault (.oversize true) else .short
  | some size =>
      if size > RTSP_HEADER_MAX then .fault (.oversize false)
      else if 0 ∈ input.take size then .fault .nul
      else
        match parse_request (text (input.take (size - 2))) with
        | none => .fault .malformed
        | some request =>
            let consumed := size + request.content_length
            if consumed > RTSP_BUFFER_SIZE then .fault .bodyTooLong
            else if input.length < consumed then .short
            else
              .message (.request request ((input.drop size).take request.content_length)) consumed

/-- The loop body of `process_input` up to the dispatch. -/
def front (input : Bytes) : Front Message Closing :=
  if input.head? = some 36 then interleavedFront input else requestFront input

/-! ## The framer -/

theorem header_size_bounds {input : Bytes} {size : Nat} (found : header_size input = some size) :
    4 ≤ size ∧ size ≤ input.length := by
  induction input generalizing size with
  | nil => exact absurd found nofun
  | cons byte rest inductionHypothesis =>
      rw [header_size] at found
      by_cases here : [13, 10, 13, 10].isPrefixOf (byte :: rest)
      · rw [if_pos here] at found
        have fits := (List.isPrefixOf_iff_prefix.mp here).length_le
        have same := Option.some.inj found
        simp only [List.length_cons, List.length_nil] at fits ⊢
        omega
      · rw [if_neg here] at found
        obtain ⟨later, foundLater, same⟩ := Option.map_eq_some_iff.mp found
        have bounds := inductionHypothesis foundLater
        simp only [List.length_cons]
        omega

theorem header_size_append {input : Bytes} {size : Nat} (found : header_size input = some size)
    (more : Bytes) : header_size (input ++ more) = some size := by
  induction input generalizing size with
  | nil => exact absurd found nofun
  | cons byte rest inductionHypothesis =>
      rw [header_size] at found
      rw [List.cons_append, header_size]
      by_cases here : [13, 10, 13, 10].isPrefixOf (byte :: rest)
      · have there : [13, 10, 13, 10].isPrefixOf (byte :: (rest ++ more)) := by
          rw [List.isPrefixOf_iff_prefix] at here ⊢
          exact here.trans (List.prefix_append (byte :: rest) more)
        rw [if_pos here] at found
        rw [if_pos there, found]
      · rw [if_neg here] at found
        obtain ⟨later, foundLater, rfl⟩ := Option.map_eq_some_iff.mp found
        have elsewhere : ¬[13, 10, 13, 10].isPrefixOf (byte :: (rest ++ more)) := by
          intro there
          rw [List.isPrefixOf_iff_prefix] at here there
          refine here (List.prefix_of_prefix_length_le there
            (List.prefix_append (byte :: rest) more) ?_)
          have bounds := header_size_bounds foundLater
          simp only [List.length_cons, List.length_nil]
          omega
        rw [if_neg elsewhere, inductionHypothesis foundLater]
        rfl

/-- An empty line that later bytes complete ends behind what is there. -/
theorem header_size_later {input more : Bytes} {size : Nat} (unfound : header_size input = none)
    (found : header_size (input ++ more) = some size) : input.length < size := by
  induction input generalizing size with
  | nil =>
      have bounds := header_size_bounds found
      simp only [List.length_nil]
      omega
  | cons byte rest inductionHypothesis =>
      rw [header_size] at unfound
      rw [List.cons_append, header_size] at found
      by_cases here : [13, 10, 13, 10].isPrefixOf (byte :: rest)
      · rw [if_pos here] at unfound
        exact absurd unfound nofun
      rw [if_neg here] at unfound
      by_cases there : [13, 10, 13, 10].isPrefixOf (byte :: (rest ++ more))
      · rw [if_pos there] at found
        by_contra reaches
        rw [List.isPrefixOf_iff_prefix] at here there
        refine here (List.prefix_of_prefix_length_le there
          (List.prefix_append (byte :: rest) more) ?_)
        have same := Option.some.inj found
        simp only [List.length_cons, List.length_nil] at reaches ⊢
        omega
      · rw [if_neg there] at found
        obtain ⟨later, foundLater, rfl⟩ := Option.map_eq_some_iff.mp found
        have behind := inductionHypothesis (Option.map_eq_none_iff.mp unfound) foundLater
        simp only [List.length_cons]
        omega

/-- With a whole header, more bytes change nothing once the body is there. -/
theorem requestFront_append {input : Bytes} {size : Nat} (found : header_size input = some size)
    (decided : requestFront input ≠ .short) (more : Bytes) :
    requestFront (input ++ more) = requestFront input := by
  have fits := (header_size_bounds found).2
  have header : (input ++ more).take size = input.take size :=
    List.take_append_of_le_length fits
  have shorter : (input ++ more).take (size - 2) = input.take (size - 2) :=
    List.take_append_of_le_length (by omega)
  unfold requestFront at decided ⊢
  rw [found] at decided ⊢
  rw [header_size_append found more]
  simp only [header, shorter] at decided ⊢
  by_cases large : size > RTSP_HEADER_MAX
  · rw [if_pos large, if_pos large]
  rw [if_neg large] at decided
  rw [if_neg large, if_neg large]
  by_cases nul : 0 ∈ input.take size
  · rw [if_pos nul, if_pos nul]
  rw [if_neg nul] at decided
  rw [if_neg nul, if_neg nul]
  cases parsed : parse_request (text (input.take (size - 2))) with
  | none => rfl
  | some request =>
      rw [parsed] at decided
      simp only at decided ⊢
      by_cases wide : size + request.content_length > RTSP_BUFFER_SIZE
      · rw [if_pos wide, if_pos wide]
      rw [if_neg wide] at decided
      rw [if_neg wide, if_neg wide]
      by_cases waits : input.length < size + request.content_length
      · rw [if_pos waits] at decided
        exact absurd rfl decided
      have longer : ¬(input ++ more).length < size + request.content_length := by
        rw [List.length_append]
        omega
      have body : ((input ++ more).drop size).take request.content_length =
          (input.drop size).take request.content_length := by
        rw [List.drop_append_of_le_length fits]
        apply List.take_append_of_le_length
        rw [List.length_drop]
        omega
      rw [if_neg waits, if_neg longer, body]

theorem interleavedFront_append {input : Bytes} (decided : interleavedFront input ≠ .short)
    (more : Bytes) : interleavedFront (input ++ more) = interleavedFront input := by
  match input, decided with
  | marker :: channel :: high :: low :: rest, decided =>
      simp only [interleavedFront, List.cons_append] at decided ⊢
      by_cases wide : high.toNat * 256 + low.toNat + 4 > RTSP_BUFFER_SIZE
      · rw [if_pos wide, if_pos wide]
      rw [if_neg wide] at decided
      rw [if_neg wide, if_neg wide]
      simp only [List.length_cons, List.length_append] at decided ⊢
      by_cases waits : rest.length + 1 + 1 + 1 + 1 < high.toNat * 256 + low.toNat + 4
      · rw [if_pos waits] at decided
        exact absurd rfl decided
      · rw [if_neg waits, if_neg (by omega), List.take_append_of_le_length (by omega)]
  | [], decided => exact absurd rfl decided
  | [_], decided => exact absurd rfl decided
  | [_, _], decided => exact absurd rfl decided
  | [_, _, _], decided => exact absurd rfl decided

theorem filled_of_decided {input : Bytes} (decided : front input ≠ .short) : input ≠ [] := by
  intro empty
  subst empty
  exact decided rfl

/-- What stands at the front once it is decided: more bytes change it at most in
whether a 400 is sent for its length. -/
theorem front_append {input : Bytes} (decided : front input ≠ .short) (more : Bytes) :
    front (input ++ more) = front input ∨
      ∃ answered, front input = .fault (.oversize true) ∧
        front (input ++ more) = .fault (.oversize answered) := by
  have head : (input ++ more).head? = input.head? :=
    List.head?_append_of_ne_nil input (filled_of_decided decided)
  unfold front at decided ⊢
  rw [head]
  by_cases marked : input.head? = some 36
  · rw [if_pos marked] at decided
    rw [if_pos marked, if_pos marked]
    exact .inl (interleavedFront_append decided more)
  rw [if_neg marked] at decided
  rw [if_neg marked, if_neg marked]
  cases found : header_size input with
  | some size => exact .inl (requestFront_append found decided more)
  | none =>
      have long : RTSP_HEADER_MAX ≤ input.length := by
        by_contra brief
        simp only [requestFront, found, if_neg brief] at decided
        exact decided rfl
      have longer : RTSP_HEADER_MAX ≤ (input ++ more).length := by
        rw [List.length_append]
        omega
      have first : requestFront input = .fault (.oversize true) := by
        simp only [requestFront, found, if_pos long]
      cases later : header_size (input ++ more) with
      | none => exact .inr ⟨true, first, by simp only [requestFront, later, if_pos longer]⟩
      | some size =>
          have behind := header_size_later found later
          exact .inr ⟨false, first, by
            simp only [requestFront, later, if_pos (show size > RTSP_HEADER_MAX by omega)]⟩

theorem front_message {input : Bytes} {message : Message} {size : Nat}
    (whole : front input = .message message size) : 0 < size ∧ size ≤ input.length := by
  unfold front at whole
  by_cases marked : input.head? = some 36
  · rw [if_pos marked] at whole
    match input, whole with
    | marker :: channel :: high :: low :: rest, whole =>
        simp only [interleavedFront] at whole
        by_cases wide : high.toNat * 256 + low.toNat + 4 > RTSP_BUFFER_SIZE
        · rw [if_pos wide] at whole
          exact absurd whole nofun
        rw [if_neg wide] at whole
        split at whole
        · exact absurd whole nofun
        · next enough =>
            injection whole with _ same
            omega
    | [], whole => exact absurd whole nofun
    | [_], whole => exact absurd whole nofun
    | [_, _], whole => exact absurd whole nofun
    | [_, _, _], whole => exact absurd whole nofun
  · rw [if_neg marked] at whole
    unfold requestFront at whole
    split at whole
    · split at whole <;> exact absurd whole nofun
    · next header found =>
        have bounds := header_size_bounds found
        split at whole
        · exact absurd whole nofun
        split at whole
        · exact absurd whole nofun
        split at whole
        · exact absurd whole nofun
        · simp only at whole
          split at whole
          · exact absurd whole nofun
          split at whole
          · exact absurd whole nofun
          · injection whole with _ same
            omega

/-- The framing of a client's bytes. -/
def framer : Framer UInt8 Message Closing where
  front := front
  kind := Closing.kind
  size_of_message := front_message
  message_append := by
    intro buffer message size whole more
    rcases front_append (by rw [whole]; exact nofun) more with same | ⟨answered, long, -⟩
    · rw [same, whole]
    · exact absurd (whole.symm.trans long) nofun
  fault_append := by
    intro buffer fault ends more
    rcases front_append (by rw [ends]; exact nofun) more with same | ⟨answered, long, later⟩
    · exact ⟨fault, same.trans ends, rfl⟩
    · refine ⟨_, later, ?_⟩
      have same := ends.symm.trans long
      injection same with same
      subst same
      rfl

/-- Less than a message leaves room in the buffer. -/
theorem room_of_short {input : Bytes} (waits : front input = .short) :
    input.length < RTSP_BUFFER_SIZE := by
  unfold front at waits
  by_cases marked : input.head? = some 36
  · rw [if_pos marked] at waits
    match input, waits with
    | marker :: channel :: high :: low :: rest, waits =>
        simp only [interleavedFront] at waits
        by_cases wide : high.toNat * 256 + low.toNat + 4 > RTSP_BUFFER_SIZE
        · rw [if_pos wide] at waits
          exact absurd waits nofun
        rw [if_neg wide] at waits
        split at waits
        · omega
        · exact absurd waits nofun
    | [], _ => simp [RTSP_BUFFER_SIZE]
    | [_], _ => simp [RTSP_BUFFER_SIZE]
    | [_, _], _ => simp [RTSP_BUFFER_SIZE]
    | [_, _, _], _ => simp [RTSP_BUFFER_SIZE]
  · rw [if_neg marked] at waits
    unfold requestFront at waits
    split at waits
    · split at waits
      · exact absurd waits nofun
      · next brief =>
          unfold RTSP_HEADER_MAX at brief
          unfold RTSP_BUFFER_SIZE
          omega
    · split at waits
      · exact absurd waits nofun
      split at waits
      · exact absurd waits nofun
      split at waits
      · exact absurd waits nofun
      · simp only at waits
        split at waits
        · exact absurd waits nofun
        split at waits
        · omega
        · exact absurd waits nofun

/-! ## No message is too long for the buffer -/

theorem field_length {name value : List Char} {f f' : Fields} (parsed : field name value f = some f')
    (bounded : f.request.content_length ≤ RTSP_HEADER_MAX) :
    f'.request.content_length ≤ RTSP_HEADER_MAX := by
  have limited : ∀ number, parse_unsigned value RTSP_HEADER_MAX = some number →
      number ≤ RTSP_HEADER_MAX := by
    intro number read
    unfold parse_unsigned at read
    split at read
    · next valid => exact Option.some.inj read ▸ valid.2.2
    · exact absurd read nofun
  have kept : ∀ {α : Type} {read : Option α} {put : α → Fields}, read.map put = some f' →
      (∀ x, (put x).request.content_length = f.request.content_length) →
        f'.request.content_length ≤ RTSP_HEADER_MAX := by
    intro α read put mapped same
    obtain ⟨x, -, rfl⟩ := Option.map_eq_some_iff.mp mapped
    exact Nat.le_trans (Nat.le_of_eq (same x)) bounded
  unfold field at parsed
  simp only at parsed
  split at parsed
  · split at parsed
    · exact absurd parsed nofun
    · exact kept parsed fun _ => rfl
  split at parsed
  · split at parsed
    · exact absurd parsed nofun
    · obtain ⟨number, read, rfl⟩ := Option.map_eq_some_iff.mp parsed
      exact limited number read
  split at parsed
  · exact absurd parsed nofun
  split at parsed
  · exact kept parsed fun _ => rfl
  split at parsed
  · exact kept parsed fun _ => rfl
  split at parsed
  · exact kept parsed fun _ => rfl
  split at parsed
  · exact kept parsed fun _ => rfl
  split at parsed
  · exact kept parsed fun _ => rfl
  · exact Option.some.inj parsed ▸ bounded

theorem fieldLine_length {line : List Char} {f f' : Fields} (parsed : fieldLine line f = some f')
    (bounded : f.request.content_length ≤ RTSP_HEADER_MAX) :
    f'.request.content_length ≤ RTSP_HEADER_MAX := by
  unfold fieldLine at parsed
  split at parsed
  · exact absurd parsed nofun
  split at parsed
  · exact absurd parsed nofun
  · simp only at parsed
    split at parsed
    · exact absurd parsed nofun
    · exact field_length parsed bounded

theorem parseFields_length {allowed : Nat} {text : List Char} {f f' : Fields}
    (parsed : parseFields allowed text f = some f')
    (bounded : f.request.content_length ≤ RTSP_HEADER_MAX) :
    f'.request.content_length ≤ RTSP_HEADER_MAX := by
  induction allowed generalizing text f with
  | zero =>
      cases text with
      | nil => exact Option.some.inj parsed ▸ bounded
      | cons c text => exact absurd parsed nofun
  | succ allowed inductionHypothesis =>
      cases text with
      | nil => exact Option.some.inj parsed ▸ bounded
      | cons c text =>
          obtain ⟨⟨line, rest⟩, -, parsed⟩ := Option.bind_eq_some_iff.mp parsed
          obtain ⟨next, read, parsed⟩ := Option.bind_eq_some_iff.mp parsed
          exact inductionHypothesis parsed (fieldLine_length read bounded)

theorem parse_request_length {header : List Char} {request : Request}
    (parsed : parse_request header = some request) :
    request.content_length ≤ RTSP_HEADER_MAX := by
  obtain ⟨⟨line, rest⟩, -, parsed⟩ := Option.bind_eq_some_iff.mp parsed
  obtain ⟨⟨method, uri⟩, -, parsed⟩ := Option.bind_eq_some_iff.mp parsed
  obtain ⟨f, read, parsed⟩ := Option.bind_eq_some_iff.mp parsed
  have bounded := parseFields_length read (Nat.zero_le _)
  split at parsed
  · exact Option.some.inj parsed ▸ bounded
  · exact absurd parsed nofun

/-- The faults of the input itself: a header and its body always fit the buffer. -/
theorem front_fault {input : Bytes} {closing : Closing} (ends : front input = .fault closing) :
    closing = .frameTooLong ∨ closing.kind = .oversize false ∨ closing = .nul ∨
      closing = .malformed := by
  unfold front at ends
  by_cases marked : input.head? = some 36
  · rw [if_pos marked] at ends
    unfold interleavedFront at ends
    split at ends
    · simp only at ends
      split at ends
      · injection ends with same
        exact .inl same.symm
      · split at ends <;> exact absurd ends nofun
    · exact absurd ends nofun
  · rw [if_neg marked] at ends
    unfold requestFront at ends
    split at ends
    · split at ends
      · injection ends with same
        exact .inr (.inl (same ▸ rfl))
      · exact absurd ends nofun
    · split at ends
      · injection ends with same
        exact .inr (.inl (same ▸ rfl))
      next brief =>
        split at ends
        · injection ends with same
          exact .inr (.inr (.inl same.symm))
        split at ends
        · injection ends with same
          exact .inr (.inr (.inr same.symm))
        next request parsed =>
          have bounded := parse_request_length parsed
          simp only at ends
          split at ends
          · next wide =>
              unfold RTSP_HEADER_MAX at brief bounded
              unfold RTSP_BUFFER_SIZE at wide
              omega
          · split at ends <;> exact absurd ends nofun

/-! ## Sessions -/

/-- The fields of a track that an interleaved frame looks at. -/
structure Track where
  setup : Bool
  tcp : Bool
  rtp_channel : Nat
  rtcp_channel : Nat

/-- A client's session, and what messages do to it.  What the clock, the other threads
and the network answer meanwhile is part of it. -/
structure Service (Session : Type) where
  handle : Request → Session → Int × Session
  /-- `last_activity_us = jipc_now_us()` -/
  active : Session → Session
  track : Session → Fin 3 → Track
  playing : Session → Bool
  backchannel_rtp : Bytes → Session → Session

variable {Session : Type} (service : Service Session)

/-- RTCP feedback keeps a session alive. -/
def Service.feedback (channel : UInt8) (payload : Bytes) (session : Session) (i : Fin 3) : Session :=
  let track := service.track session i
  if track.setup ∧ track.tcp ∧ channel.toNat = track.rtcp_channel ∧ 4 ≤ payload.length ∧
      payload.head?.any (fun byte => byte / 64 = 2) then service.active session
  else session

/-- `process_input` with an interleaved frame. -/
def Service.interleaved (channel : UInt8) (payload : Bytes) (session : Session) : Session :=
  let session := (List.finRange 3).foldl (service.feedback channel payload) session
  let talk := service.track session 2
  if talk.setup ∧ talk.tcp ∧ service.playing session ∧ channel.toNat = talk.rtp_channel then
    service.active (service.backchannel_rtp payload session)
  else session

/-- A session and the messages dispatched to it, for the trace. -/
structure Served (Session : Type) where
  session : Session
  dispatched : List Message

def Service.dispatch (message : Message) (served : Served Session) :
    Served Session × Option Closing :=
  let dispatched := served.dispatched ++ [message]
  match message with
  | .frame channel payload =>
      (⟨service.interleaved channel payload served.session, dispatched⟩, none)
  | .request request _ =>
      let (result, session) := service.handle request (service.active served.session)
      (⟨session, dispatched⟩, if result = 0 then none else some .handler)

/-! ## The receiving loop -/

/-- `rtsp_client`: its input is the reader's buffer. -/
abbrev Client (Session : Type) := Reader UInt8 (Served Session) Closing

def Client.initial (session : Session) : Client Session := ⟨[], ⟨session, []⟩, 0, none⟩

def process_input (client : Client Session) : Client Session :=
  framer.drained service.dispatch client

/-- `client_main` with what `recv` returns, the end of the stream being empty. -/
def receive (client : Client Session) (piece : Bytes) : Client Session :=
  if client.ended.isSome then client
  else if client.buffer.length = RTSP_BUFFER_SIZE then { client with ended := some .full }
  else if piece = [] then { client with ended := some .hangup }
  else process_input service { client with buffer := client.buffer ++ piece }

variable {service}

theorem room_of_settled {client : Client Session} (settled : framer.Settled client)
    (going : client.ended = none) : client.buffer.length < RTSP_BUFFER_SIZE := by
  rcases settled going with empty | waits
  · rw [empty]
    decide
  · exact room_of_short waits

/-- With room in the buffer a piece is received as by the framer. -/
theorem receive_eq {client : Client Session} (settled : framer.Settled client) {piece : Bytes}
    (filled : piece ≠ []) :
    receive service client piece = framer.receive service.dispatch client piece := by
  unfold receive Framer.receive
  by_cases ended : client.ended.isSome
  · rw [if_pos ended, if_pos ended]
  · have room := room_of_settled settled (by simpa using ended)
    rw [if_neg ended, if_neg ended, if_neg (Nat.ne_of_lt room), if_neg filled]
    rfl

theorem receive_all {pieces : List Bytes} (filled : ∀ piece ∈ pieces, piece ≠ [])
    {client : Client Session} (settled : framer.Settled client) :
    pieces.foldl (receive service) client =
        pieces.foldl (framer.receive service.dispatch) client ∧
      framer.Settled (pieces.foldl (receive service) client) := by
  induction pieces generalizing client with
  | nil => exact ⟨rfl, settled⟩
  | cons piece pieces inductionHypothesis =>
      rw [List.foldl_cons, List.foldl_cons, receive_eq settled (filled piece List.mem_cons_self)]
      exact inductionHypothesis (fun other later => filled other (List.mem_cons_of_mem _ later))
        (framer.settled_receive service.dispatch client piece)

theorem initial_settled (session : Session) : framer.Settled (Client.initial session) :=
  fun _ => .inl rfl

theorem dispatch_closing {message : Message} {served : Served Session} {closing : Closing}
    (closes : (service.dispatch message served).2 = some closing) : closing = .handler := by
  cases message with
  | frame channel payload => exact absurd closes nofun
  | request request body =>
      simp only [Service.dispatch] at closes
      split at closes
      · exact absurd closes nofun
      · exact (Option.some.inj closes).symm

variable (service) in
/-- A whole message at the front of a client's empty buffer is dispatched. -/
theorem receive_message {client : Client Session} (going : client.ended = none)
    (empty : client.buffer = []) {message : Message} {last : Bytes}
    (whole : front last = .message message last.length) :
    let client' := framer.receive service.dispatch client last
    client'.state = (service.dispatch message client.state).1 ∧
      client'.ended = (service.dispatch message client.state).2 := by
  have received : framer.receive service.dispatch client last =
      framer.drained service.dispatch { client with buffer := last } := by
    rw [Framer.receive, if_neg (by simp [going]), empty, List.nil_append]
  have filled : last ≠ [] := List.length_pos_iff.mp (front_message whole).1
  simp only [received]
  cases acted : service.dispatch message client.state with
  | mk served closing =>
      cases closing with
      | some closing =>
          rw [(framer.drained_last service.dispatch { client with buffer := last } filled).2.2
            message last.length served closing whole acted]
          exact ⟨rfl, rfl⟩
      | none =>
          rw [framer.drained_message service.dispatch { client with buffer := last } whole acted,
            framer.drained_empty service.dispatch (by simp)]
          exact ⟨rfl, going⟩

/-- A client that has received these pieces. -/
def clientAfter (service : Service Session) (session : Session) (pieces : List Bytes) :
    Client Session :=
  pieces.foldl (receive service) (Client.initial session)

/-- For every service, and every two ways to cut what a client sends into pieces that
`recv` returns: the same messages are dispatched to the same effect, the connection is
closed at the same byte for the same reason or kept with the same rest, whether or not
a 400 is sent for a long header.  A message that is whole by itself is dispatched
behind whatever whole messages came before it.  The connection is never closed for
want of room. -/
theorem input_does_not_depend_on_cuts (service : Service Session) (session : Session)
    (left right : List Bytes) (filled : ∀ piece ∈ left ++ right, piece ≠ [])
    (same : left.flatten = right.flatten) :
    framer.Alike (clientAfter service session left) (clientAfter service session right) ∧
      (∀ (earlier : List Bytes) (last : Bytes) (message : Message),
        (∀ piece ∈ earlier, piece ≠ []) → left.flatten = earlier.flatten ++ last →
        front last = .message message last.length →
        (clientAfter service session earlier).ended = none →
        (clientAfter service session earlier).buffer = [] →
          ((clientAfter service session left).state, (clientAfter service session left).ended) =
            service.dispatch message (clientAfter service session earlier).state) ∧
      ∀ closing, (clientAfter service session left).ended = some closing →
        closing ≠ .full ∧ closing ≠ .bodyTooLong := by
  have settled := initial_settled session
  have received : ∀ {pieces : List Bytes}, (∀ piece ∈ pieces, piece ≠ []) →
      clientAfter service session pieces =
        pieces.foldl (framer.receive service.dispatch) (Client.initial session) :=
    fun filled => (receive_all filled settled).1
  have filledLeft : ∀ piece ∈ left, piece ≠ [] := fun piece member =>
    filled piece (List.mem_append_left _ member)
  have filledRight : ∀ piece ∈ right, piece ≠ [] := fun piece member =>
    filled piece (List.mem_append_right _ member)
  refine ⟨?_, ?_, ?_⟩
  · rw [received filledLeft, received filledRight]
    exact framer.receive_cuts service.dispatch same settled
  · intro earlier last message filledEarlier split whole going empty
    have before := framer.receive_pieces service.dispatch earlier settled
    rw [← received filledEarlier] at before
    have atOnce := before.eq_of_going going
    have after := framer.receive_pieces service.dispatch left settled
    rw [← received filledLeft, split] at after
    have two := framer.receive_append service.dispatch (Client.initial session) earlier.flatten last
    rw [← atOnce] at two
    have alike := after.trans two.symm
    obtain ⟨state, ended⟩ := receive_message service going empty whole
    refine Prod.ext (alike.state.trans state) ?_
    have kinds := alike.ended
    rw [ended] at kinds
    cases closes : (service.dispatch message (clientAfter service session earlier).state).2 with
    | none =>
        rw [closes] at kinds
        exact Option.map_eq_none_iff.mp kinds
    | some closing =>
        have handler := dispatch_closing closes
        subst handler
        rw [closes] at kinds
        obtain ⟨reason, stopped, kind⟩ := Option.map_eq_some_iff.mp kinds
        rw [stopped]
        cases reason <;> first | rfl | exact absurd kind nofun
  · intro closing ended
    rw [received filledLeft] at ended
    rcases framer.ended_of_pieces service.dispatch rfl ended with ⟨input, fault⟩ | ⟨_, _, closes⟩
    · rcases front_fault fault with rfl | long | rfl | rfl
      · exact ⟨nofun, nofun⟩
      · constructor <;> rintro rfl <;> exact absurd long nofun
      · exact ⟨nofun, nofun⟩
      · exact ⟨nofun, nofun⟩
    · rw [dispatch_closing closes]
      exact ⟨nofun, nofun⟩

/-- A service that counts its requests. -/
def counting : Service Nat where
  handle := fun _ count => (0, count + 1)
  active := id
  track := fun _ _ => ⟨false, false, 0, 0⟩
  playing := fun _ => false
  backchannel_rtp := fun _ count => count

def options (cseq : String) : Bytes :=
  ("OPTIONS rtsp://camera/0 RTSP/1.0\r\nCSeq: " ++ cseq ++ "\r\n\r\n").toList.map fun c =>
    UInt8.ofNat c.toNat

/-- Two requests in one piece, and cut inside the first's empty line and inside
the second. -/
theorem input_does_not_depend_on_cuts_options :
    framer.Alike
        (clientAfter counting 0 [(options "1").take 42,
          (options "1").drop 42 ++ (options "2").take 9, (options "2").drop 9])
        (clientAfter counting 0 [options "1" ++ options "2"]) ∧
      (clientAfter counting 0 [options "1" ++ options "2"]).state.session = 2 :=
  ⟨(input_does_not_depend_on_cuts counting 0 _ _ (by decide +kernel) (by decide +kernel)).1,
    by decide +kernel⟩

end JooanW3U.Media.RtspInput

import JooanW3U.Library.RtpH264

/-!
Owns DNS messages: names written out label by label, resource records for addresses,
pointers, services and texts, and whole messages.  Main result: a message parses back to
its records, each record's data being as long as the record says.

Does not own compressed names or any other type of record.
-/

namespace JooanW3U.Library.DnsMessage

open RtpH264 (Bytes bytes16 bytes32 word16 word32 word16_bytes16 word32_bytes32)

/-! ### Names -/

def encodeLabels (labels : List Bytes) : Bytes :=
  labels.flatMap fun label => UInt8.ofNat label.length :: label

def encodeName (labels : List Bytes) : Bytes := encodeLabels labels ++ [0]

/-- The labels up to the empty one, with fuel, and what follows them; a length of 64 or
more would refer to another name. -/
def parseLabels : Nat → Bytes → Option (List Bytes × Bytes)
  | 0, _ => none
  | _ + 1, [] => none
  | fuel + 1, length :: rest =>
      if length = 0 then some ([], rest)
      else if 63 < length.toNat ∨ rest.length < length.toNat then none
      else
        match parseLabels fuel (rest.drop length.toNat) with
        | none => none
        | some (labels, behind) => some (rest.take length.toNat :: labels, behind)

/-- A name has at most 255 bytes. -/
def parseName (bytes : Bytes) : Option (List Bytes × Bytes) :=
  match parseLabels bytes.length bytes with
  | none => none
  | some (labels, behind) =>
      if (encodeName labels).length ≤ 255 then some (labels, behind) else none

def Labels (labels : List Bytes) : Prop :=
  ∀ label ∈ labels, 0 < label.length ∧ label.length ≤ 63

instance (labels : List Bytes) : Decidable (Labels labels) :=
  inferInstanceAs (Decidable (∀ label ∈ labels, 0 < label.length ∧ label.length ≤ 63))

def Name (labels : List Bytes) : Prop := Labels labels ∧ (encodeName labels).length ≤ 255

/-! ### Records -/

inductive Data
  | address (a b c d : UInt8)
  | pointer (target : List Bytes)
  | text (strings : List Bytes)
  | service (priority weight port : UInt16) (target : List Bytes)
  deriving Repr, DecidableEq

def Data.type : Data → UInt16
  | .address _ _ _ _ => 1
  | .pointer _ => 12
  | .text _ => 16
  | .service _ _ _ _ => 33

def Data.bytes : Data → Bytes
  | .address a b c d => [a, b, c, d]
  | .pointer target => encodeName target
  | .text strings => encodeLabels strings
  | .service priority weight port target =>
      bytes16 priority ++ bytes16 weight ++ bytes16 port ++ encodeName target

/-- The strings of a text, with fuel. -/
def parseStrings : Nat → Bytes → Option (List Bytes)
  | _, [] => some []
  | 0, _ :: _ => none
  | fuel + 1, length :: rest =>
      if rest.length < length.toNat then none
      else (parseStrings fuel (rest.drop length.toNat)).map (rest.take length.toNat :: ·)

/-- Data of this type that fills these bytes. -/
def Data.parse (type : UInt16) (bytes : Bytes) : Option Data :=
  if type = 1 then
    match bytes with
    | [a, b, c, d] => some (.address a b c d)
    | _ => none
  else if type = 12 then
    match parseName bytes with
    | some (target, []) => some (.pointer target)
    | _ => none
  else if type = 16 then
    if bytes = [] then none else (parseStrings bytes.length bytes).map .text
  else if type = 33 then
    match bytes with
    | a :: b :: c :: d :: e :: f :: rest =>
        match parseName rest with
        | some (target, []) => some (.service (word16 a b) (word16 c d) (word16 e f) target)
        | _ => none
    | _ => none
  else none

def Data.Valid : Data → Prop
  | .address _ _ _ _ => True
  | .pointer target => Name target
  | .text strings => strings ≠ [] ∧ ∀ string ∈ strings, string.length ≤ 255
  | .service _ _ _ target => Name target

structure Record where
  name : List Bytes
  recordClass : UInt16
  ttl : UInt32
  data : Data
  deriving Repr, DecidableEq

def Record.bytes (record : Record) : Bytes :=
  encodeName record.name ++ (bytes16 record.data.type ++ bytes16 record.recordClass ++
    bytes32 record.ttl ++ bytes16 (UInt16.ofNat record.data.bytes.length) ++ record.data.bytes)

/-- A record and what follows it; its data ends where its length says. -/
def parseRecord (bytes : Bytes) : Option (Record × Bytes) :=
  match parseName bytes with
  | some (name, t :: u :: c :: d :: e :: f :: g :: h :: l :: m :: rest) =>
      if rest.length < (word16 l m).toNat then none
      else
        match Data.parse (word16 t u) (rest.take (word16 l m).toNat) with
        | none => none
        | some data =>
            some (⟨name, word16 c d, word32 e f g h, data⟩, rest.drop (word16 l m).toNat)
  | _ => none

structure Record.Valid (record : Record) : Prop where
  name : Name record.name
  data : record.data.Valid
  short : record.data.bytes.length < 65536

structure Question where
  name : List Bytes
  type : UInt16
  questionClass : UInt16
  deriving Repr, DecidableEq

def Question.bytes (question : Question) : Bytes :=
  encodeName question.name ++ (bytes16 question.type ++ bytes16 question.questionClass)

def parseQuestion (bytes : Bytes) : Option (Question × Bytes) :=
  match parseName bytes with
  | some (name, t :: u :: c :: d :: rest) => some (⟨name, word16 t u, word16 c d⟩, rest)
  | _ => none

/-! ### Messages -/

structure Message where
  id : UInt16
  flags : UInt16
  questions : List Question
  answers : List Record
  authority : List Record
  additional : List Record
  deriving Repr, DecidableEq

/-- The numbers of its records stand before them. -/
def Message.bytes (message : Message) : Bytes :=
  bytes16 message.id ++ bytes16 message.flags ++
    bytes16 (UInt16.ofNat message.questions.length) ++
    bytes16 (UInt16.ofNat message.answers.length) ++
    bytes16 (UInt16.ofNat message.authority.length) ++
    bytes16 (UInt16.ofNat message.additional.length) ++
    (message.questions.flatMap Question.bytes ++ (message.answers.flatMap Record.bytes ++
      (message.authority.flatMap Record.bytes ++ message.additional.flatMap Record.bytes)))

/-- This many things one after another. -/
def parseMany {Item : Type} (parse : Bytes → Option (Item × Bytes)) :
    Nat → Bytes → Option (List Item × Bytes)
  | 0, bytes => some ([], bytes)
  | count + 1, bytes =>
      match parse bytes with
      | none => none
      | some (item, behind) =>
          match parseMany parse count behind with
          | none => none
          | some (items, rest) => some (item :: items, rest)

/-- A message that fills these bytes. -/
def Message.parse (bytes : Bytes) : Option Message :=
  match bytes with
  | a :: b :: c :: d :: e :: f :: g :: h :: i :: j :: k :: l :: rest => do
      let (questions, rest) ← parseMany parseQuestion (word16 e f).toNat rest
      let (answers, rest) ← parseMany parseRecord (word16 g h).toNat rest
      let (authority, rest) ← parseMany parseRecord (word16 i j).toNat rest
      let (additional, rest) ← parseMany parseRecord (word16 k l).toNat rest
      if rest = [] then
        some ⟨word16 a b, word16 c d, questions, answers, authority, additional⟩
      else none
  | _ => none

/-! ### Round trips -/

theorem encodeLabels_cons (label : Bytes) (labels : List Bytes) :
    encodeLabels (label :: labels) =
      UInt8.ofNat label.length :: (label ++ encodeLabels labels) := by
  rw [encodeLabels, List.flatMap_cons, List.cons_append, encodeLabels]

theorem encodeName_nil : encodeName [] = [0] := rfl

theorem encodeName_cons (label : Bytes) (labels : List Bytes) :
    encodeName (label :: labels) =
      UInt8.ofNat label.length :: (label ++ encodeName labels) := by
  rw [encodeName, encodeLabels_cons, List.cons_append, List.append_assoc, encodeName]

theorem Labels.tail {label : Bytes} {labels : List Bytes} (valid : Labels (label :: labels)) :
    Labels labels := fun other listed => valid other (List.mem_cons_of_mem _ listed)

theorem parseLabels_encode {labels : List Bytes} (valid : Labels labels) {fuel : Nat}
    (enough : labels.length < fuel) (rest : Bytes) :
    parseLabels fuel (encodeName labels ++ rest) = some (labels, rest) := by
  induction labels generalizing fuel with
  | nil =>
      cases fuel with
      | zero => exact absurd enough (Nat.not_lt_zero _)
      | succ fuel => rfl
  | cons label labels inductionHypothesis =>
      cases fuel with
      | zero => exact absurd enough (Nat.not_lt_zero _)
      | succ fuel =>
          have bounds := valid label List.mem_cons_self
          have size : (UInt8.ofNat label.length).toNat = label.length := by
            rw [UInt8.toNat_ofNat']
            omega
          have present : ¬UInt8.ofNat label.length = 0 := by
            intro empty
            rw [empty] at size
            exact absurd size (Nat.ne_of_lt bounds.1)
          have fits : ¬(63 < label.length ∨
              (label ++ encodeName labels ++ rest).length < label.length) := by
            rw [List.length_append, List.length_append]
            omega
          have later := inductionHypothesis valid.tail (Nat.lt_of_succ_lt_succ enough)
          rw [encodeName_cons, List.cons_append]
          simp only [parseLabels, if_neg present, size, if_neg fits]
          rw [List.append_assoc, List.drop_left, List.take_left, later]

theorem length_le_encodeName (labels : List Bytes) : labels.length < (encodeName labels).length := by
  induction labels with
  | nil => exact Nat.zero_lt_one
  | cons label labels inductionHypothesis =>
      rw [encodeName_cons, List.length_cons, List.length_cons, List.length_append]
      omega

theorem parseName_encode {labels : List Bytes} (valid : Name labels) (rest : Bytes) :
    parseName (encodeName labels ++ rest) = some (labels, rest) := by
  have enough : labels.length < (encodeName labels ++ rest).length := by
    have bound := length_le_encodeName labels
    rw [List.length_append]
    omega
  simp only [parseName, parseLabels_encode valid.1 enough rest, if_pos valid.2]

theorem parseStrings_encode {strings : List Bytes}
    (valid : ∀ string ∈ strings, string.length ≤ 255) {fuel : Nat}
    (enough : (encodeLabels strings).length ≤ fuel) :
    parseStrings fuel (encodeLabels strings) = some strings := by
  induction strings generalizing fuel with
  | nil =>
      cases fuel with
      | zero => rfl
      | succ fuel => rfl
  | cons string strings inductionHypothesis =>
      rw [encodeLabels_cons] at enough ⊢
      cases fuel with
      | zero => exact absurd enough (Nat.not_succ_le_zero _)
      | succ fuel =>
          have bound := valid string List.mem_cons_self
          have size : (UInt8.ofNat string.length).toNat = string.length := by
            rw [UInt8.toNat_ofNat']
            omega
          have fits : ¬(string ++ encodeLabels strings).length < string.length := by
            rw [List.length_append]
            omega
          have later := @inductionHypothesis
            (fun other listed => valid other (List.mem_cons_of_mem _ listed)) fuel (by
              rw [List.length_cons, List.length_append] at enough
              omega)
          simp only [parseStrings, size, if_neg fits, List.drop_left, List.take_left, later,
            Option.map_some]

theorem Data.parse_bytes {data : Data} (valid : data.Valid) :
    Data.parse data.type data.bytes = some data := by
  cases data with
  | address a b c d => rfl
  | pointer target =>
      have whole := parseName_encode valid []
      rw [List.append_nil] at whole
      simp [Data.parse, Data.type, Data.bytes, whole]
  | text strings =>
      obtain ⟨some_string, short⟩ := valid
      have filled : encodeLabels strings ≠ [] := by
        cases strings with
        | nil => exact absurd rfl some_string
        | cons string strings =>
            rw [encodeLabels_cons]
            exact List.cons_ne_nil _ _
      simp [Data.parse, Data.type, Data.bytes, filled,
        parseStrings_encode short (Nat.le_refl _)]
  | service priority weight port target =>
      have whole := parseName_encode valid []
      rw [List.append_nil] at whole
      have one : ¬(33 : UInt16) = 1 := by decide
      have twelve : ¬(33 : UInt16) = 12 := by decide
      have sixteen : ¬(33 : UInt16) = 16 := by decide
      simp only [Data.parse, Data.type, Data.bytes, bytes16, List.cons_append, List.nil_append,
        if_neg one, if_neg twelve, if_neg sixteen, if_true, whole, word16_bytes16]

theorem parseRecord_bytes {record : Record} (valid : record.Valid) (rest : Bytes) :
    parseRecord (record.bytes ++ rest) = some (record, rest) := by
  have size : (UInt16.ofNat record.data.bytes.length).toNat = record.data.bytes.length := by
    rw [UInt16.toNat_ofNat']
    exact Nat.mod_eq_of_lt valid.short
  have fits : ¬(record.data.bytes ++ rest).length < record.data.bytes.length := by
    rw [List.length_append]
    omega
  rw [Record.bytes, List.append_assoc]
  simp only [parseRecord, parseName_encode valid.name, bytes16, bytes32, List.cons_append,
    List.nil_append, word16_bytes16, word32_bytes32]
  simp only [size, if_neg fits, List.take_left, List.drop_left, Data.parse_bytes valid.data]

theorem parseQuestion_bytes {question : Question} (valid : Name question.name) (rest : Bytes) :
    parseQuestion (question.bytes ++ rest) = some (question, rest) := by
  rw [Question.bytes, List.append_assoc]
  simp only [parseQuestion, parseName_encode valid, bytes16, List.cons_append, List.nil_append,
    word16_bytes16]

theorem parseMany_bytes {Item : Type} {parse : Bytes → Option (Item × Bytes)}
    {print : Item → Bytes} {items : List Item}
    (parses : ∀ item ∈ items, ∀ rest, parse (print item ++ rest) = some (item, rest))
    (rest : Bytes) :
    parseMany parse items.length (items.flatMap print ++ rest) = some (items, rest) := by
  induction items with
  | nil => rfl
  | cons item items inductionHypothesis =>
      have first := parses item List.mem_cons_self (items.flatMap print ++ rest)
      have others := inductionHypothesis fun other listed =>
        parses other (List.mem_cons_of_mem _ listed)
      rw [List.flatMap_cons, List.append_assoc]
      simp only [parseMany, List.length_cons, first, others]

structure Message.Valid (message : Message) : Prop where
  questions : ∀ question ∈ message.questions, Name question.name
  answers : ∀ record ∈ message.answers, record.Valid
  authority : ∀ record ∈ message.authority, record.Valid
  additional : ∀ record ∈ message.additional, record.Valid
  counts : message.questions.length < 65536 ∧ message.answers.length < 65536 ∧
    message.authority.length < 65536 ∧ message.additional.length < 65536

theorem Message.parse_bytes {message : Message} (valid : message.Valid) :
    Message.parse message.bytes = some message := by
  obtain ⟨questions, answers, authority, additional⟩ := valid.counts
  have count : ∀ n, n < 65536 → (UInt16.ofNat n).toNat = n := by
    intro n small
    rw [UInt16.toNat_ofNat']
    exact Nat.mod_eq_of_lt small
  have asked := parseMany_bytes fun question listed rest =>
    parseQuestion_bytes (valid.questions question listed) rest
  have answered := parseMany_bytes fun record listed rest =>
    parseRecord_bytes (valid.answers record listed) rest
  have authorized := parseMany_bytes fun record listed rest =>
    parseRecord_bytes (valid.authority record listed) rest
  have added := parseMany_bytes fun record listed rest =>
    parseRecord_bytes (valid.additional record listed) rest
  have last := added []
  rw [List.append_nil] at last
  simp only [Message.bytes, bytes16, List.cons_append, List.nil_append, Message.parse,
    word16_bytes16]
  simp only [count _ questions, count _ answers, count _ authority, count _ additional, asked,
    answered, authorized, last, Option.bind_eq_bind, Option.bind_some, if_true]

end JooanW3U.Library.DnsMessage

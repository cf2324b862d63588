import JooanW3U.Library.Decimal

/-!
Owns JSON text: values, the printer that writes no white space, the parser, and the
round trip between them. A text is the list of its bytes; strings end at a NUL, as
C strings do, and a number keeps its numeral. The parser stops after one value.

Does not own formatted printing, comments or duplicate keys: a member is the first
of its name.
-/

namespace JooanW3U.Library

inductive Json
  | null
  | bool (value : Bool)
  | number (numeral : List Char)
  | string (text : List Char)
  | array (items : List Json)
  | object (members : List (List Char × Json))
deriving Repr

namespace Json

/-- Depth of arrays and objects the parser accepts. -/
def nestingLimit : Nat := 1000

def nul : Char := Char.ofNat 0

def ofInt (value : Int) : Json := .number (Decimal.ofInt value)

/-- The value as a double, when it is a whole number of an `int`. -/
def toInt? : Json → Option Int
  | .number numeral => (Decimal.scan numeral).bind fun scanned => scanned.1.toInt
  | _ => none

/-- The value as a double, when it is a whole number up to 2^32 either way. -/
def toWhole? : Json → Option Int
  | .number numeral => (Decimal.scan numeral).bind fun scanned => scanned.1.toWhole
  | _ => none

theorem toInt?_ofInt {value : Int} (low : -2147483648 ≤ value) (high : value ≤ 2147483647) :
    (ofInt value).toInt? = some value := by
  simp [toInt?, ofInt, Decimal.scan_ofInt, Decimal.toInt_ofInt low high]

def isObject : Json → Bool
  | .object _ => true
  | _ => false

/-- The member of an object; nothing for another value. -/
def get? (key : List Char) : Json → Option Json
  | .object members => members.lookup key
  | _ => none

/-! ## Strings -/

def hexDigit (value : Nat) : Char := "0123456789abcdef".toList.getD value '0'

def hexValue (c : Char) : Option Nat :=
  if c.isDigit then some (c.toNat - 48)
  else if 'A' ≤ c ∧ c ≤ 'F' then some (c.toNat - 55)
  else if 'a' ≤ c ∧ c ≤ 'f' then some (c.toNat - 87)
  else none

/-- Four hexadecimal digits; zero when one is not a digit. -/
def hex4 (a b c d : Char) : Nat :=
  match hexValue a, hexValue b, hexValue c, hexValue d with
  | some a, some b, some c, some d => a * 4096 + b * 256 + c * 16 + d
  | _, _, _, _ => 0

/-- The bytes of a code point. -/
def utf8 (code : Nat) : List Char :=
  if code < 0x80 then [Char.ofNat code]
  else if code < 0x800 then [Char.ofNat (0xC0 + code / 64), Char.ofNat (0x80 + code % 64)]
  else if code < 0x10000 then
    [Char.ofNat (0xE0 + code / 4096), Char.ofNat (0x80 + code / 64 % 64),
      Char.ofNat (0x80 + code % 64)]
  else
    [Char.ofNat (0xF0 + code / 262144), Char.ofNat (0x80 + code / 4096 % 64),
      Char.ofNat (0x80 + code / 64 % 64), Char.ofNat (0x80 + code % 64)]

/-- The escapes of one letter, with the character each stands for. -/
def shortEscapes : List (Char × Char) :=
  [('"', '"'), ('\\', '\\'), ('b', Char.ofNat 8), ('f', Char.ofNat 12), ('n', '\n'),
    ('r', '\r'), ('t', '\t'), ('/', '/')]

def escape (c : Char) : List Char :=
  if c = '"' ∨ c = '\\' then ['\\', c]
  else if 31 < c.toNat then [c]
  else
    match shortEscapes.find? fun entry => entry.2 = c with
    | some entry => ['\\', entry.1]
    | none => ['\\', 'u', '0', '0', hexDigit (c.toNat / 16), hexDigit (c.toNat % 16)]

/-- The text between the quotes. -/
def escaped (text : List Char) : List Char := text.flatMap escape

def printString (text : List Char) : List Char := '"' :: escaped text ++ ['"']

/-- A literal up to its closing quote, still escaped, and what follows it. -/
def splitLiteral : List Char → Option (List Char × List Char)
  | [] => none
  | '"' :: rest => some ([], rest)
  | '\\' :: c :: rest => (splitLiteral rest).map fun parts => ('\\' :: c :: parts.1, parts.2)
  | ['\\'] => none
  | c :: rest => (splitLiteral rest).map fun parts => (c :: parts.1, parts.2)

/-- The characters an escaped literal stands for. -/
def unescape : List Char → Option (List Char)
  | [] => some []
  | '\\' :: 'u' :: a :: b :: c :: d :: rest =>
      let first := hex4 a b c d
      if 0xDC00 ≤ first ∧ first ≤ 0xDFFF then none
      else if 0xD800 ≤ first ∧ first ≤ 0xDBFF then
        -- a code point of two units
        match rest with
        | '\\' :: 'u' :: e :: f :: g :: h :: rest =>
            let second := hex4 e f g h
            if second < 0xDC00 ∨ 0xDFFF < second then none
            else
              (unescape rest).map fun text =>
                utf8 (0x10000 + first % 1024 * 1024 + second % 1024) ++ text
        | _ => none
      else (unescape rest).map fun text => utf8 first ++ text
  | '\\' :: mark :: rest =>
      match shortEscapes.lookup mark with
      | some c => (unescape rest).map fun text => c :: text
      | none => none
  | ['\\'] => none
  | c :: rest => (unescape rest).map fun text => c :: text

/-- What follows an opening quote: the C string of the literal, and the rest. -/
def parseString (input : List Char) : Option (List Char × List Char) := do
  let (raw, rest) ← splitLiteral input
  let text ← unescape raw
  return (text.takeWhile (· ≠ nul), rest)

/-! ## Numbers -/

/-- The characters `parse_number` hands to `strtod`. -/
def numeric (c : Char) : Bool :=
  c.isDigit || c = '+' || c = '-' || c = 'e' || c = 'E' || c = '.'

def opensNumber (c : Char) : Bool := c.isDigit || c = '-'

def parseNumber : List Char → Option (List Char × List Char)
  | [] => none
  | c :: input =>
      if opensNumber c then
        let run := (c :: input).takeWhile numeric
        (Decimal.scan run).map fun scanned =>
          let length := run.length - scanned.2.length
          ((c :: input).take length, (c :: input).drop length)
      else none

/-! ## Printer -/

mutual

def print : Json → List Char
  | .null => "null".toList
  | .bool false => "false".toList
  | .bool true => "true".toList
  | .number numeral => numeral
  | .string text => printString text
  | .array [] => "[]".toList
  | .array (item :: items) => '[' :: print item ++ printItems items
  | .object [] => "\x7b\x7d".toList
  | .object (member :: members) => '\x7b' :: printMember member ++ printMembers members

def printItems : List Json → List Char
  | [] => [']']
  | item :: items => ',' :: print item ++ printItems items

def printMember : List Char × Json → List Char
  | (key, value) => printString key ++ ':' :: print value

def printMembers : List (List Char × Json) → List Char
  | [] => ['\x7d']
  | member :: members => ',' :: printMember member ++ printMembers members

end

/-! ## Parser -/

def isWhite (c : Char) : Bool := c.toNat ≤ 32

def skipWhite (input : List Char) : List Char := input.dropWhile isWhite

mutual

def parseValue : Nat → Nat → List Char → Option (Json × List Char)
  | 0, _, _ => none
  | fuel + 1, depth, input =>
      match input with
      | 'n' :: 'u' :: 'l' :: 'l' :: rest => some (.null, rest)
      | 'f' :: 'a' :: 'l' :: 's' :: 'e' :: rest => some (.bool false, rest)
      | 't' :: 'r' :: 'u' :: 'e' :: rest => some (.bool true, rest)
      | '"' :: rest => (parseString rest).map fun parsed => (.string parsed.1, parsed.2)
      | '[' :: rest =>
          if nestingLimit ≤ depth then none else parseArray fuel (depth + 1) (skipWhite rest)
      | '\x7b' :: rest =>
          if nestingLimit ≤ depth then none else parseObject fuel (depth + 1) (skipWhite rest)
      | input => (parseNumber input).map fun parsed => (.number parsed.1, parsed.2)

def parseArray : Nat → Nat → List Char → Option (Json × List Char)
  | 0, _, _ => none
  | _ + 1, _, ']' :: rest => some (.array [], rest)
  | fuel + 1, depth, input => do
      let (item, rest) ← parseValue fuel depth input
      let (items, rest) ← parseItems fuel depth (skipWhite rest)
      return (.array (item :: items), rest)

def parseItems : Nat → Nat → List Char → Option (List Json × List Char)
  | 0, _, _ => none
  | _ + 1, _, ']' :: rest => some ([], rest)
  | fuel + 1, depth, ',' :: rest => do
      let (item, rest) ← parseValue fuel depth (skipWhite rest)
      let (items, rest) ← parseItems fuel depth (skipWhite rest)
      return (item :: items, rest)
  | _ + 1, _, _ => none

def parseObject : Nat → Nat → List Char → Option (Json × List Char)
  | 0, _, _ => none
  | _ + 1, _, '\x7d' :: rest => some (.object [], rest)
  | fuel + 1, depth, input => do
      let (member, rest) ← parseMember fuel depth input
      let (members, rest) ← parseMembers fuel depth (skipWhite rest)
      return (.object (member :: members), rest)

def parseMember : Nat → Nat → List Char → Option ((List Char × Json) × List Char)
  | fuel + 1, depth, '"' :: input => do
      let (key, rest) ← parseString input
      match skipWhite rest with
      | ':' :: rest => do
          let (value, rest) ← parseValue fuel depth (skipWhite rest)
          return ((key, value), rest)
      | _ => none
  | _, _, _ => none

def parseMembers : Nat → Nat → List Char → Option (List (List Char × Json) × List Char)
  | 0, _, _ => none
  | _ + 1, _, '\x7d' :: rest => some ([], rest)
  | fuel + 1, depth, ',' :: rest => do
      let (member, rest) ← parseMember fuel depth (skipWhite rest)
      let (members, rest) ← parseMembers fuel depth (skipWhite rest)
      return (member :: members, rest)
  | _ + 1, _, _ => none

end

/-- A text may open with the byte order mark. -/
def skipMark (text : List Char) : List Char :=
  if text.take 3 = [Char.ofNat 0xEF, Char.ofNat 0xBB, Char.ofNat 0xBF] then text.drop 3 else text

/-- The value a text opens with (`cJSON_Parse`); every call of the parser consumes a
byte or ends, so the length is fuel enough. -/
def parse (text : List Char) : Option Json :=
  (parseValue (2 * text.length + 2) 0 (skipWhite (skipMark text))).map (·.1)

/-- The value a text is (`cJSON_ParseWithLengthOpts` with a required end): nothing but
white space follows it. -/
def parseWhole (text : List Char) : Option Json :=
  (parseValue (2 * text.length + 2) 0 (skipWhite (skipMark text))).bind fun parsed =>
    if skipWhite parsed.2 = [] then some parsed.1 else none

/-! ## Strings come back -/

theorem hexValue_hexDigit : ∀ value, value < 16 → hexValue (hexDigit value) = some value := by
  decide

theorem splitLiteral_cons {c : Char} (quote : c ≠ '"') (backslash : c ≠ '\\')
    (rest : List Char) :
    splitLiteral (c :: rest) = (splitLiteral rest).map fun parts => (c :: parts.1, parts.2) := by
  rw [splitLiteral] <;> simp [quote, backslash]

theorem splitLiteral_escape (c : Char) (rest : List Char) :
    splitLiteral (escape c ++ rest) =
      (splitLiteral rest).map fun parts => (escape c ++ parts.1, parts.2) := by
  unfold escape
  split
  · simp [splitLiteral]
  · rename_i plain
    split
    · simp_all [splitLiteral_cons]
    · split
      · simp [splitLiteral]
      · have hex : ∀ value < 16, hexDigit value ≠ '"' ∧ hexDigit value ≠ '\\' := by decide
        have high := hex (c.toNat / 16) (by omega)
        have low := hex (c.toNat % 16) (by omega)
        simp [splitLiteral, splitLiteral_cons, high, low, Function.comp_def]

theorem splitLiteral_escaped (text rest : List Char) :
    splitLiteral (escaped text ++ '"' :: rest) = some (escaped text, rest) := by
  induction text with
  | nil => simp [escaped, splitLiteral]
  | cons c text inductionHypothesis =>
      have split : escaped (c :: text) = escape c ++ escaped text := by simp [escaped]
      simp [split, splitLiteral_escape, inductionHypothesis]

theorem unescape_cons {c : Char} (backslash : c ≠ '\\') (rest : List Char) :
    unescape (c :: rest) = (unescape rest).map fun text => c :: text := by
  rw [unescape] <;> simp [backslash]

theorem unescape_escape (c : Char) (rest : List Char) :
    unescape (escape c ++ rest) = (unescape rest).map fun text => c :: text := by
  unfold escape
  split
  · rename_i special
    rcases special with rfl | rfl <;> simp [unescape, shortEscapes, List.lookup_cons]
  · rename_i plain
    split
    · simp_all [unescape_cons]
    · split
      · rename_i entry found
        have mem := List.mem_of_find?_eq_some found
        have same : entry.2 = c := by simpa using List.find?_some found
        subst same
        have table : ∀ entry ∈ shortEscapes,
            entry.1 ≠ 'u' ∧ shortEscapes.lookup entry.1 = some entry.2 := by decide
        obtain ⟨notUnit, read⟩ := table entry mem
        simp [unescape, notUnit, read]
      · have first :
            hex4 '0' '0' (hexDigit (c.toNat / 16)) (hexDigit (c.toNat % 16)) = c.toNat := by
          have high := hexValue_hexDigit (c.toNat / 16) (by omega)
          have low := hexValue_hexDigit (c.toNat % 16) (by omega)
          have zero : hexValue '0' = some 0 := by decide
          simp only [hex4, zero, high, low]
          omega
        have byte : utf8 c.toNat = [c] := by
          simp [utf8, show c.toNat < 128 by omega]
        have noPair : ¬ 55296 ≤ c.toNat := by omega
        have noSecond : ¬ 56320 ≤ c.toNat := by omega
        rw [unescape.eq_def]
        simp [first, byte, noPair, noSecond]

theorem unescape_escaped (text : List Char) : unescape (escaped text) = some text := by
  induction text with
  | nil => simp [escaped, unescape]
  | cons c text inductionHypothesis =>
      have split : escaped (c :: text) = escape c ++ escaped text := by simp [escaped]
      simp [split, unescape_escape, inductionHypothesis]

/-- A C string is read back from its literal. -/
theorem parseString_escaped {text : List Char} (whole : nul ∉ text) (rest : List Char) :
    parseString (escaped text ++ '"' :: rest) = some (text, rest) := by
  have different : ∀ c ∈ text, ¬ c = nul := fun c member same => whole (same ▸ member)
  simpa [parseString, splitLiteral_escaped, unescape_escaped] using different

/-! ## Numbers come back -/

/-- One numeral and nothing after it. -/
structure IsNumeral (numeral : List Char) : Prop where
  numeric : ∀ c ∈ numeral, numeric c = true
  opens : ∃ c tail, numeral = c :: tail ∧ opensNumber c = true
  scanned : ∃ read, Decimal.scan numeral = some (read, [])

/-- The text cannot go on with a number that stands before it. -/
def Ends (rest : List Char) : Prop := rest.takeWhile numeric = []

theorem isNumeral_ofInt (value : Int) : IsNumeral (Decimal.ofInt value) where
  numeric := by
    have digits : ∀ c ∈ Nat.toDigits 10 value.natAbs, numeric c = true := fun c member => by
      simp [numeric, Decimal.isDigit_of_mem_toDigits member]
    unfold Decimal.ofInt
    split
    · simpa [numeric] using digits
    · exact digits
  opens := by
    obtain ⟨c, tail, shape⟩ := List.exists_cons_of_ne_nil (@Nat.toDigits_ne_nil value.natAbs 10)
    unfold Decimal.ofInt
    split
    · exact ⟨'-', _, rfl, by decide⟩
    · have digit : c.isDigit = true :=
        @Decimal.isDigit_of_mem_toDigits value.natAbs c (by simp [shape])
      exact ⟨c, tail, shape, by simp [opensNumber, digit]⟩
  scanned := ⟨_, Decimal.scan_ofInt value⟩

theorem parseNumber_numeral {numeral rest : List Char} (isNumeral : IsNumeral numeral)
    (ends : Ends rest) : parseNumber (numeral ++ rest) = some (numeral, rest) := by
  obtain ⟨c, tail, shape, opens⟩ := isNumeral.opens
  obtain ⟨read, scanned⟩ := isNumeral.scanned
  have run : (numeral ++ rest).takeWhile numeric = numeral := by
    rw [List.takeWhile_append_of_pos isNumeral.numeric, ends, List.append_nil]
  subst shape
  simp only [List.cons_append] at run ⊢
  simp [parseNumber, opens, run, scanned]

/-! ## Values come back -/

mutual

/-- The parser gives the value back when this many levels of nesting are left. -/
def Fits : Nat → Json → Prop
  | _, .null => True
  | _, .bool _ => True
  | _, .number numeral => IsNumeral numeral
  | _, .string text => nul ∉ text
  | room, .array items => 0 < room ∧ ItemsFit (room - 1) items
  | room, .object members => 0 < room ∧ MembersFit (room - 1) members

def ItemsFit : Nat → List Json → Prop
  | _, [] => True
  | room, item :: items => Fits room item ∧ ItemsFit room items

def MemberFits : Nat → List Char × Json → Prop
  | room, (key, value) => nul ∉ key ∧ Fits room value

def MembersFit : Nat → List (List Char × Json) → Prop
  | _, [] => True
  | room, member :: members => MemberFits room member ∧ MembersFit room members

end

/-- What a value's text opens with: not white, no closing bracket, and ASCII. -/
structure Opens (c : Char) : Prop where
  black : isWhite c = false
  notClosing : c ≠ ']'
  ascii : c.toNat < 128

theorem opens_number {c : Char} (opens : opensNumber c = true) : Opens c := by
  simp only [opensNumber, Bool.or_eq_true, decide_eq_true_eq] at opens
  rcases opens with digit | rfl
  · have low : 48 ≤ c.toNat := (Char.isDigit_iff_toNat.1 digit).1
    have high : c.toNat ≤ 57 := (Char.isDigit_iff_toNat.1 digit).2
    refine ⟨by simp [isWhite]; omega, ?_, by omega⟩
    rintro rfl
    exact absurd high (by decide)
  · exact ⟨by decide, by decide, by decide⟩

theorem print_head {room : Nat} {value : Json} (fits : Fits room value) :
    ∃ c tail, print value = c :: tail ∧ Opens c := by
  match value with
  | .null => exact ⟨'n', _, rfl, by decide, by decide, by decide⟩
  | .bool false => exact ⟨'f', _, rfl, by decide, by decide, by decide⟩
  | .bool true => exact ⟨'t', _, rfl, by decide, by decide, by decide⟩
  | .number numeral =>
      obtain ⟨c, tail, shape, opens⟩ := IsNumeral.opens (by simpa [Fits] using fits)
      exact ⟨c, tail, by simp [print, shape], opens_number opens⟩
  | .string _ => exact ⟨'"', _, rfl, by decide, by decide, by decide⟩
  | .array [] => exact ⟨'[', _, rfl, by decide, by decide, by decide⟩
  | .array (_ :: _) => exact ⟨'[', _, rfl, by decide, by decide, by decide⟩
  | .object [] => exact ⟨'\x7b', _, rfl, by decide, by decide, by decide⟩
  | .object (_ :: _) => exact ⟨'\x7b', _, rfl, by decide, by decide, by decide⟩

theorem skipWhite_cons {c : Char} (black : isWhite c = false) (rest : List Char) :
    skipWhite (c :: rest) = c :: rest := by
  simp [skipWhite, black]

theorem skipWhite_print {room : Nat} {value : Json} (fits : Fits room value) (rest : List Char) :
    skipWhite (print value ++ rest) = print value ++ rest := by
  obtain ⟨c, tail, shape, opens⟩ := print_head fits
  simp [shape, skipWhite_cons opens.black]

theorem ends_cons {c : Char} (other : numeric c = false) (rest : List Char) : Ends (c :: rest) := by
  simp [Ends, other]

theorem ends_printItems (items : List Json) (rest : List Char) :
    Ends (printItems items ++ rest) := by
  cases items with
  | nil => exact ends_cons (by decide) rest
  | cons => exact ends_cons (by decide) _

theorem ends_printMembers (members : List (List Char × Json)) (rest : List Char) :
    Ends (printMembers members ++ rest) := by
  cases members with
  | nil => exact ends_cons (by decide) rest
  | cons => exact ends_cons (by decide) _

theorem skipWhite_printItems (items : List Json) (rest : List Char) :
    skipWhite (printItems items ++ rest) = printItems items ++ rest := by
  cases items with
  | nil => exact skipWhite_cons (by decide) rest
  | cons => exact skipWhite_cons (by decide) _

theorem skipWhite_printMembers (members : List (List Char × Json)) (rest : List Char) :
    skipWhite (printMembers members ++ rest) = printMembers members ++ rest := by
  cases members with
  | nil => exact skipWhite_cons (by decide) rest
  | cons => exact skipWhite_cons (by decide) _

theorem print_pos {room : Nat} {value : Json} (fits : Fits room value) :
    0 < (print value).length := by
  obtain ⟨c, tail, shape, -⟩ := print_head fits
  simp [shape]

theorem printItems_pos (items : List Json) : 0 < (printItems items).length := by
  cases items <;> simp [printItems]

theorem printMember_head (member : List Char × Json) :
    ∃ tail, printMember member = '"' :: tail := by
  obtain ⟨key, value⟩ := member
  exact ⟨_, rfl⟩

theorem printMember_pos (member : List Char × Json) : 0 < (printMember member).length := by
  obtain ⟨tail, shape⟩ := printMember_head member
  simp [shape]

theorem skipWhite_printMember (member : List Char × Json) (rest : List Char) :
    skipWhite (printMember member ++ rest) = printMember member ++ rest := by
  obtain ⟨tail, shape⟩ := printMember_head member
  simp [shape, skipWhite_cons, isWhite]

theorem printMembers_pos (members : List (List Char × Json)) :
    0 < (printMembers members).length := by
  cases members <;> simp [printMembers]

theorem parseValue_number {fuel depth : Nat} {c : Char} (opens : opensNumber c = true)
    (input : List Char) :
    parseValue (fuel + 1) depth (c :: input) =
      (parseNumber (c :: input)).map fun parsed => (.number parsed.1, parsed.2) := by
  have other : ∀ c' : Char, opensNumber c' = false → ¬ c = c' := by
    rintro c' closed rfl
    simp [opens] at closed
  rw [parseValue] <;> simp [other _ (by decide : opensNumber 'n' = false),
    other _ (by decide : opensNumber 'f' = false), other _ (by decide : opensNumber 't' = false),
    other _ (by decide : opensNumber '"' = false), other _ (by decide : opensNumber '[' = false),
    other _ (by decide : opensNumber '\x7b' = false)]

theorem parseArray_cons {fuel depth : Nat} {c : Char} (other : c ≠ ']') (input : List Char) :
    parseArray (fuel + 1) depth (c :: input) = do
      let (item, rest) ← parseValue fuel depth (c :: input)
      let (items, rest) ← parseItems fuel depth (skipWhite rest)
      return (.array (item :: items), rest) := by
  rw [parseArray]
  simp [other]

/-- Every call of the parser has fuel when its text does not fit in less. -/
theorem exists_succ {needed fuel : Nat} (enough : needed ≤ fuel) (positive : 0 < needed) :
    ∃ less, fuel = less + 1 :=
  ⟨fuel - 1, by omega⟩

mutual

/-- A printed value is read back, with what follows it, by induction on the value: a
call of the parser needs no more fuel than the text has bytes. -/
theorem parseValue_print (rest : List Char) (fuel depth : Nat) {room : Nat} :
    ∀ value : Json, Fits room value → room + depth ≤ nestingLimit → Ends rest →
      (print value).length ≤ fuel →
        parseValue fuel depth (print value ++ rest) = some (value, rest)
  | .null, fits, _, _, enough => by
      obtain ⟨fuel, rfl⟩ := exists_succ enough (print_pos fits)
      simp [print, parseValue]
  | .bool false, fits, _, _, enough => by
      obtain ⟨fuel, rfl⟩ := exists_succ enough (print_pos fits)
      simp [print, parseValue]
  | .bool true, fits, _, _, enough => by
      obtain ⟨fuel, rfl⟩ := exists_succ enough (print_pos fits)
      simp [print, parseValue]
  | .number numeral, fits, _, ends, enough => by
      obtain ⟨fuel, rfl⟩ := exists_succ enough (print_pos fits)
      have isNumeral : IsNumeral numeral := by simpa [Fits] using fits
      obtain ⟨c, tail, shape, opens⟩ := isNumeral.opens
      have read := parseNumber_numeral isNumeral ends
      subst shape
      simp only [List.cons_append] at read
      simp [print, parseValue_number opens, read]
  | .string text, fits, _, _, enough => by
      obtain ⟨fuel, rfl⟩ := exists_succ enough (print_pos fits)
      have whole : nul ∉ text := by simpa [Fits] using fits
      simp [print, printString, parseValue, parseString_escaped whole]
  | .array [], fits, deep, _, enough => by
      simp only [Fits] at fits
      have shallow : ¬ nestingLimit ≤ depth := by omega
      obtain ⟨fuel, rfl⟩ : ∃ less, fuel = less + 2 :=
        ⟨fuel - 2, by simp [print] at enough; omega⟩
      simp [print, parseValue, shallow, skipWhite_cons, isWhite, parseArray]
  | .array (item :: items), fits, deep, _, enough => by
      simp only [Fits, ItemsFit] at fits
      obtain ⟨inside, fitsItem, fitsItems⟩ := fits
      have shallow : ¬ nestingLimit ≤ depth := by omega
      have itemPos := print_pos fitsItem
      have itemsPos := printItems_pos items
      simp only [print, List.length_cons, List.length_append] at enough
      obtain ⟨fuel, rfl⟩ : ∃ less, fuel = less + 2 := ⟨fuel - 2, by omega⟩
      have readItem := parseValue_print (printItems items ++ rest) fuel (depth + 1) item fitsItem
        (by omega) (ends_printItems items rest) (by omega)
      have readItems := parseItems_print rest fuel (depth + 1) items fitsItems (by omega) (by omega)
      obtain ⟨c, tail, shape, opens⟩ := print_head fitsItem
      rw [shape] at readItem
      simp only [List.cons_append] at readItem
      simp [print, parseValue, shallow, shape, skipWhite_cons opens.black,
        parseArray_cons opens.notClosing, readItem, skipWhite_printItems, readItems]
  | .object [], fits, deep, _, enough => by
      simp only [Fits] at fits
      have shallow : ¬ nestingLimit ≤ depth := by omega
      obtain ⟨fuel, rfl⟩ : ∃ less, fuel = less + 2 :=
        ⟨fuel - 2, by simp [print] at enough; omega⟩
      simp [print, parseValue, shallow, skipWhite_cons, isWhite, parseObject]
  | .object (member :: members), fits, deep, _, enough => by
      simp only [Fits, MembersFit] at fits
      obtain ⟨inside, fitsMember, fitsMembers⟩ := fits
      have shallow : ¬ nestingLimit ≤ depth := by omega
      have membersPos := printMembers_pos members
      have memberPos := printMember_pos member
      simp only [print, List.length_cons, List.length_append] at enough
      obtain ⟨fuel, rfl⟩ : ∃ less, fuel = less + 2 := ⟨fuel - 2, by omega⟩
      have readMember := parseMember_print (printMembers members ++ rest) fuel (depth + 1) member
        fitsMember (by omega) (ends_printMembers members rest) (by omega)
      have readMembers := parseMembers_print rest fuel (depth + 1) members fitsMembers (by omega)
        (by omega)
      obtain ⟨tail, shape⟩ := printMember_head member
      rw [shape] at readMember
      simp only [List.cons_append] at readMember
      simp [print, parseValue, shallow, shape, skipWhite_cons, isWhite, parseObject,
        readMember, skipWhite_printMembers, readMembers]

theorem parseItems_print (rest : List Char) (fuel depth : Nat) {room : Nat} :
    ∀ items : List Json, ItemsFit room items → room + depth ≤ nestingLimit →
      (printItems items).length ≤ fuel →
        parseItems fuel depth (printItems items ++ rest) = some (items, rest)
  | [], _, _, enough => by
      obtain ⟨fuel, rfl⟩ := exists_succ enough (printItems_pos [])
      simp [printItems, parseItems]
  | item :: items, fits, deep, enough => by
      simp only [ItemsFit] at fits
      obtain ⟨fitsItem, fitsItems⟩ := fits
      simp only [printItems, List.length_cons, List.length_append] at enough
      obtain ⟨fuel, rfl⟩ := exists_succ enough (by omega)
      have readItem := parseValue_print (printItems items ++ rest) fuel depth item fitsItem deep
        (ends_printItems items rest) (by omega)
      have readItems := parseItems_print rest fuel depth items fitsItems deep (by omega)
      simp [printItems, parseItems, skipWhite_print fitsItem, readItem, skipWhite_printItems,
        readItems]

theorem parseMember_print (rest : List Char) (fuel depth : Nat) {room : Nat} :
    ∀ member : List Char × Json, MemberFits room member → room + depth ≤ nestingLimit →
      Ends rest → (printMember member).length ≤ fuel →
        parseMember fuel depth (printMember member ++ rest) = some (member, rest)
  | (key, value), fits, deep, ends, enough => by
      simp only [MemberFits] at fits
      obtain ⟨whole, fitsValue⟩ := fits
      simp only [printMember, printString, List.length_cons, List.length_append] at enough
      obtain ⟨fuel, rfl⟩ := exists_succ enough (by omega)
      have readValue := parseValue_print rest fuel depth value fitsValue deep ends (by omega)
      simp [printMember, printString, parseMember, parseString_escaped whole, skipWhite_cons,
        isWhite, skipWhite_print fitsValue, readValue]

theorem parseMembers_print (rest : List Char) (fuel depth : Nat) {room : Nat} :
    ∀ members : List (List Char × Json), MembersFit room members →
      room + depth ≤ nestingLimit → (printMembers members).length ≤ fuel →
        parseMembers fuel depth (printMembers members ++ rest) = some (members, rest)
  | [], _, _, enough => by
      obtain ⟨fuel, rfl⟩ := exists_succ enough (printMembers_pos [])
      simp [printMembers, parseMembers]
  | member :: members, fits, deep, enough => by
      simp only [MembersFit] at fits
      obtain ⟨fitsMember, fitsMembers⟩ := fits
      simp only [printMembers, List.length_cons, List.length_append] at enough
      obtain ⟨fuel, rfl⟩ := exists_succ enough (by omega)
      have readMember := parseMember_print (printMembers members ++ rest) fuel depth member
        fitsMember deep (ends_printMembers members rest) (by omega)
      have readMembers := parseMembers_print rest fuel depth members fitsMembers deep (by omega)
      simp [printMembers, parseMembers, skipWhite_printMember, readMember, skipWhite_printMembers,
        readMembers]

end

section Whole

variable {value : Json} {rest : List Char}

/-- The parser reads a printed value off the text it opens. -/
theorem parseValue_text (fits : Fits nestingLimit value) (ends : Ends rest) :
    parseValue (2 * (print value ++ rest).length + 2) 0
      (skipWhite (skipMark (print value ++ rest))) = some (value, rest) := by
  have unmarked : skipMark (print value ++ rest) = print value ++ rest := by
    obtain ⟨c, tail, shape, opens⟩ := print_head fits
    have other : c ≠ Char.ofNat 0xEF := by
      rintro rfl
      exact absurd opens.ascii (by decide)
    simp [skipMark, shape, other]
  rw [unmarked, skipWhite_print fits]
  exact parseValue_print rest _ 0 value fits (by omega) ends (by simp; omega)

/-- A printed value is what its text opens with. -/
theorem parse_print (fits : Fits nestingLimit value) (ends : Ends rest) :
    parse (print value ++ rest) = some value := by
  simp only [parse, parseValue_text fits ends, Option.map_some]

theorem parseWhole_print (fits : Fits nestingLimit value) (ends : Ends rest)
    (white : skipWhite rest = []) : parseWhole (print value ++ rest) = some value := by
  simp only [parseWhole, parseValue_text fits ends, Option.bind_some, if_pos white]

end Whole

/-! ## Printed text -/

theorem escape_length_le (c : Char) : (escape c).length ≤ 6 := by
  unfold escape
  split
  · simp
  · split
    · simp
    · split <;> simp

theorem escaped_length_le (text : List Char) : (escaped text).length ≤ 6 * text.length := by
  induction text with
  | nil => simp [escaped]
  | cons c text inductionHypothesis =>
      have first := escape_length_le c
      have split : escaped (c :: text) = escape c ++ escaped text := by simp [escaped]
      simp only [split, List.length_append, List.length_cons]
      omega

theorem printString_length_le (text : List Char) :
    (printString text).length ≤ 6 * text.length + 2 := by
  have := escaped_length_le text
  simp [printString]
  omega

/-- No escape is needed. -/
def plain (c : Char) : Bool := 31 < c.toNat && c ≠ '"' && c ≠ '\\'

theorem escaped_plain {text : List Char} (isPlain : ∀ c ∈ text, plain c = true) :
    escaped text = text := by
  induction text with
  | nil => simp [escaped]
  | cons c text inductionHypothesis =>
      have first := isPlain c (by simp)
      simp only [plain, Bool.and_eq_true, decide_eq_true_eq] at first
      have same : escape c = [c] := by simp [escape, first]
      have others := inductionHypothesis fun other member => isPlain other (by simp [member])
      simp_all [escaped]

theorem printString_plain_length {text : List Char} (isPlain : ∀ c ∈ text, plain c = true) :
    (printString text).length = text.length + 2 := by
  simp [printString, escaped_plain isPlain]

section Lengths

variable {key : List Char} {value : Json} {members : List (List Char × Json)}

theorem printMember_length (isPlain : key.all plain = true) :
    (printMember (key, value)).length = key.length + 3 + (print value).length := by
  simp [printMember, printString_plain_length (List.all_eq_true.mp isPlain)]
  omega

theorem print_object_length (isPlain : key.all plain = true) :
    (print (.object ((key, value) :: members))).length =
      key.length + 4 + (print value).length + (printMembers members).length := by
  simp [print, printMember_length isPlain]
  omega

theorem printMembers_length (isPlain : key.all plain = true) :
    (printMembers ((key, value) :: members)).length =
      key.length + 4 + (print value).length + (printMembers members).length := by
  simp [printMembers, printMember_length isPlain]
  omega

theorem print_string (text : List Char) : print (.string text) = printString text := rfl

theorem print_array_length (item : Json) (items : List Json) :
    (print (.array (item :: items))).length =
      1 + (print item).length + (printItems items).length := by
  simp [print]
  omega

theorem printItems_length (item : Json) (items : List Json) :
    (printItems (item :: items)).length =
      1 + (print item).length + (printItems items).length := by
  simp [printItems]
  omega

theorem printItems_nil : (printItems []).length = 1 := rfl

theorem printMembers_nil : (printMembers []).length = 1 := rfl

end Lengths

/-- No byte of the text is a NUL. -/
def Whole (text : List Char) : Prop := ∀ c ∈ text, c ≠ nul

instance (text : List Char) : Decidable (Whole text) :=
  List.decidableBAll (fun c => c ≠ nul) text

theorem Whole.append {first second : List Char} (left : Whole first) (right : Whole second) :
    Whole (first ++ second) := by
  intro c member
  rcases List.mem_append.1 member with member | member
  · exact left c member
  · exact right c member

theorem Whole.cons {c : Char} {text : List Char} (head : c ≠ nul) (tail : Whole text) :
    Whole (c :: text) :=
  @Whole.append [c] text (by simpa [Whole] using head) tail

theorem escape_whole {c : Char} (other : c ≠ nul) : Whole (escape c) := by
  unfold escape
  split
  · exact .cons (by decide) (.cons other (by simp [Whole]))
  · split
    · exact .cons other (by simp [Whole])
    · split
      · rename_i entry found
        have table : ∀ entry ∈ shortEscapes, entry.1 ≠ nul := by decide
        have mark := table entry (List.mem_of_find?_eq_some found)
        exact .cons (by decide) (.cons mark (by simp [Whole]))
      · have hex : ∀ value < 16, hexDigit value ≠ nul := by decide
        have high := hex (c.toNat / 16) (by omega)
        have low := hex (c.toNat % 16) (by omega)
        simp [Whole, high, low]
        decide

theorem escaped_whole {text : List Char} (whole : nul ∉ text) : Whole (escaped text) := by
  intro c member
  obtain ⟨source, inside, escapes⟩ := List.mem_flatMap.1 member
  exact escape_whole (fun same => whole (same ▸ inside)) c escapes

theorem printString_whole {text : List Char} (whole : nul ∉ text) : Whole (printString text) :=
  .cons (by decide) (.append (escaped_whole whole) (by decide))

theorem numeral_whole {numeral : List Char} (isNumeral : IsNumeral numeral) : Whole numeral := by
  rintro c member rfl
  exact absurd (isNumeral.numeric _ member) (by decide)

mutual

/-- The text of a value is a C string. -/
theorem print_whole {room : Nat} : ∀ value : Json, Fits room value → Whole (print value)
  | .null, _ => by simp [print]; decide
  | .bool false, _ => by simp [print]; decide
  | .bool true, _ => by simp [print]; decide
  | .number numeral, fits => by
      simp only [Fits] at fits
      simpa [print] using numeral_whole fits
  | .string text, fits => by
      simp only [Fits] at fits
      simpa [print] using printString_whole fits
  | .array [], _ => by simp [print]; decide
  | .array (item :: items), fits => by
      simp only [Fits, ItemsFit] at fits
      have first := print_whole item fits.2.1
      have others := printItems_whole items fits.2.2
      simpa [print] using Whole.cons (by decide) (first.append others)
  | .object [], _ => by simp [print]; decide
  | .object (member :: members), fits => by
      simp only [Fits, MembersFit] at fits
      have first := printMember_whole member fits.2.1
      have others := printMembers_whole members fits.2.2
      simpa [print] using Whole.cons (by decide) (first.append others)

theorem printItems_whole {room : Nat} :
    ∀ items : List Json, ItemsFit room items → Whole (printItems items)
  | [], _ => by simp [printItems]; decide
  | item :: items, fits => by
      simp only [ItemsFit] at fits
      have first := print_whole item fits.1
      have others := printItems_whole items fits.2
      simpa [printItems] using Whole.cons (by decide) (first.append others)

theorem printMember_whole {room : Nat} :
    ∀ member : List Char × Json, MemberFits room member → Whole (printMember member)
  | (key, value), fits => by
      simp only [MemberFits] at fits
      have inside := print_whole value fits.2
      simpa [printMember] using
        (printString_whole fits.1).append (Whole.cons (by decide) inside)

theorem printMembers_whole {room : Nat} :
    ∀ members : List (List Char × Json), MembersFit room members → Whole (printMembers members)
  | [], _ => by simp [printMembers]; decide
  | member :: members, fits => by
      simp only [MembersFit] at fits
      have first := printMember_whole member fits.1
      have others := printMembers_whole members fits.2
      simpa [printMembers] using Whole.cons (by decide) (first.append others)

end

end Json

end JooanW3U.Library

import JooanW3U.Media.CText

/-!
Owns the bounded XML reader of the ONVIF service: `parse_xml` and the accessors
`child`, `decode`, `text_value` and `attr_value`. A span is the list of its
characters; an element index of -1 is `none`.

The reader consumes at least one character of the body in each round, so a fuel
of the body's length never runs out.
-/

namespace JooanW3U.Media.OnvifXml

open JooanW3U.Media

abbrev Span := List Char

structure Attribute where
  name : Span
  value : Span
deriving Repr, DecidableEq

structure Element where
  name : Span
  text : Span
  parent : Option Nat
  child : Bool
  attrs : List Attribute
deriving Repr, DecidableEq

structure Xml where
  el : List Element
  action : Option Nat
  header : Option Nat
deriving Repr, DecidableEq

/-- `JIPC_MAX_JSON`, the largest request body. -/
def maxJson : Nat := 16384

def maxElements : Nat := 192
def maxDepth : Nat := 32
def maxAttrs : Nat := 8

def xmlSpace (c : Char) : Bool := c = ' ' || c = '\t' || c = '\r' || c = '\n'

def nameChar (c : Char) : Bool := c.isAlphanum || c = '_' || c = ':' || c = '-' || c = '.'

/-- The part of a qualified name after its first colon. -/
def localPart (s : Span) : Span :=
  match s.dropWhile (· ≠ ':') with
  | _ :: rest => rest
  | [] => s

def named (s : Span) (name : String) : Bool := localPart s = name.toList

/-- `strstr`: what follows the first occurrence of `needle`. -/
def afterFirst (needle : List Char) : List Char → Option (List Char)
  | [] => none
  | c :: rest =>
      if needle.isPrefixOf (c :: rest) then some ((c :: rest).drop needle.length)
      else afterFirst needle rest

def skipSpace (text : List Char) : List Char := text.dropWhile xmlSpace

/-- A name of one to 128 characters, and what follows it. -/
def scanName (text : List Char) : Option (Span × List Char) :=
  let name := text.takeWhile nameChar
  if name.isEmpty || name.length > 128 then none
  else some (name, text.dropWhile nameChar)

def namespaceDeclaration (name : Span) : Bool :=
  name = "xmlns".toList || (name.length > 6 && "xmlns:".toList.isPrefixOf name)

/-- The quoted value of an attribute, and what follows its closing quote. -/
def scanValue (text : List Char) : Option (Span × List Char) :=
  match text with
  | quote :: rest =>
      if quote ≠ '\'' && quote ≠ '"' then none
      else
        let value := rest.takeWhile fun c => c ≠ quote && c ≠ '<'
        match rest.drop value.length with
        | c :: after => if c = quote then some (value, after) else none
        | [] => none
  | [] => none

/-- The attribute loop of a start tag: the attributes kept, whether the tag is
empty, and what follows it. -/
def scanAttributes : Nat → List Attribute → List Char → Option (List Attribute × Bool × List Char)
  | 0, _, _ => none
  | fuel + 1, attrs, text =>
      match skipSpace text with
      | [] => none
      | '>' :: rest => some (attrs, false, rest)
      | '/' :: '>' :: rest => some (attrs, true, rest)
      | text => do
          let (name, text) ← scanName text
          let text ← match skipSpace text with
            | '=' :: rest => some (skipSpace rest)
            | _ => none
          let (value, text) ← scanValue text
          if attrs.any fun a => a.name = name then none
          if namespaceDeclaration name then scanAttributes fuel attrs text
          else if attrs.length = maxAttrs then none
          else scanAttributes fuel (attrs ++ [⟨name, value⟩]) text

/-- The reader between two rounds: elements so far, and the open ones with the
text position at which each began. -/
structure Reader where
  el : List Element
  stack : List (Nat × List Char)
  rootSeen : Bool

def Reader.start : Reader := ⟨[], [], false⟩

/-- A closing tag, after its slash; `tag` is the text at its `<`. -/
def closeTag (reader : Reader) (tag name text : List Char) : Option (Reader × List Char) :=
  match skipSpace text, reader.stack with
  | '>' :: rest, (index, begun) :: stack =>
      match reader.el[index]? with
      | some e =>
          if e.name = name then
            let text := begun.take (begun.length - tag.length)
            some (⟨reader.el.set index { e with text := text }, stack, reader.rootSeen⟩, rest)
          else none
      | none => none
  | _, _ => none

def markChild (el : List Element) (parent : Option Nat) : List Element :=
  match parent with
  | some p => el.modify p fun e => { e with child := true }
  | none => el

/-- A start tag, after its name. -/
def openTag (reader : Reader) (name text : List Char) : Option (Reader × List Char) :=
  if reader.el.length = maxElements || reader.stack.length = maxDepth ||
      (reader.stack.isEmpty && reader.rootSeen) then none
  else do
    let parent := reader.stack.head?.map Prod.fst
    let (attrs, empty, text) ← scanAttributes (text.length + 1) [] text
    let el := markChild reader.el parent ++ [⟨name, [], parent, false, attrs⟩]
    let stack := if empty then reader.stack else (reader.el.length, text) :: reader.stack
    return (⟨el, stack, true⟩, text)

/-- One round of the reader's loop at a nonempty position. -/
def readNext (reader : Reader) (p : List Char) : Option (Reader × List Char) :=
  match p with
  | '<' :: rest =>
      if "!--".toList.isPrefixOf rest then
        (afterFirst "-->".toList (rest.drop 3)).map fun q => (reader, q)
      else if "?xml".toList.isPrefixOf rest && !reader.rootSeen && reader.stack.isEmpty then
        (afterFirst "?>".toList (rest.drop 4)).map fun q => (reader, q)
      else match rest with
        | [] => none
        | '!' :: _ => none
        | '?' :: _ => none
        | '/' :: text => do
            let (name, text) ← scanName text
            closeTag reader p name text
        | text => do
            let (name, text) ← scanName text
            openTag reader name text
  | text =>
      let skipped := text.takeWhile (· ≠ '<')
      if reader.stack.isEmpty && skipped.any (fun c => !xmlSpace c) then none
      else some (reader, text.dropWhile (· ≠ '<'))

def readAll : Nat → Reader → List Char → Option Reader
  | _, reader, [] => some reader
  | 0, _, _ => none
  | fuel + 1, reader, p => do
      let (reader, p) ← readNext reader p
      readAll fuel reader p

/-- The Body and Header among the children of the Envelope; each at most once,
and nothing else beside them. -/
def envelopeParts (el : List Element) : Option (Option Nat × Option Nat) :=
  (el.zipIdx.drop 1).foldlM (fun (body, header) (e, i) =>
    if e.parent ≠ some 0 then some (body, header)
    else if named e.name "Body" then
      if body.isSome then none else some (some i, header)
    else if named e.name "Header" then
      if header.isSome then none else some (body, some i)
    else none) (none, none)

/-- The children of the Body. -/
def bodyActions (el : List Element) (body : Nat) : List Nat :=
  (el.zipIdx.drop 1).filterMap fun (e, i) => if e.parent = some body then some i else none

/-- `parse_xml`; `none` is its -1. -/
def parseXml (body : List Char) : Option Xml := do
  if body.length > maxJson then none
  let reader ← readAll body.length Reader.start body
  if !reader.stack.isEmpty then none
  let root ← reader.el.head?
  if !named root.name "Envelope" then none
  let (body, header) ← envelopeParts reader.el
  let body ← body
  match bodyActions reader.el body with
  | [action] => some ⟨reader.el, some action, header⟩
  | _ => none

/-- `child`: the only child of `parent` with the name, else -1. -/
def child (d : Xml) (parent : Option Nat) (name : String) : Option Nat :=
  match d.el.zipIdx.filterMap fun (e, i) =>
      if e.parent = parent && named e.name name then some i else none with
  | [found] => some found
  | _ => none

def entity (name : Span) : Option Char :=
  if name = "amp".toList then some '&'
  else if name = "lt".toList then some '<'
  else if name = "gt".toList then some '>'
  else if name = "quot".toList then some '"'
  else if name = "apos".toList then some '\''
  else none

/-- `decode` into a buffer of `cap` bytes; fuel is the span's length. -/
def decodeLoop : Nat → Nat → List Char → Option (List Char)
  | _, _, [] => some []
  | 0, _, _ => none
  | fuel + 1, room, c :: rest => do
      let (c, rest) ←
        if c = '&' then
          let name := rest.takeWhile (· ≠ ';')
          match rest.drop name.length with
          | _ :: after => (entity name).map fun e => (e, after)
          | [] => none
        else some (c, rest)
      if c = '\x00' || (c.toNat < 32 && !xmlSpace c) || room ≤ 1 then none
      let tail ← decodeLoop fuel (room - 1) rest
      return c :: tail

def decode (s : Span) (cap : Nat) : Option (List Char) := decodeLoop s.length cap s

/-- `text_value`: the text of the only child with the name, which must have no
children of its own. -/
def textValue (d : Xml) (parent : Option Nat) (name : String) (cap : Nat) : Option (List Char) := do
  let i ← child d parent name
  let e ← d.el[i]?
  if e.child then none
  decode e.text cap

def attrValue (d : Xml) (node : Option Nat) (name : String) (cap : Nat) : Option (List Char) := do
  let i ← node
  let e ← d.el[i]?
  let a ← e.attrs.find? fun a => named a.name name
  decode a.value cap

/-- The name of the action element, as `named` compares it. -/
def actionName (d : Xml) : Span :=
  match d.action with
  | some i => (d.el[i]?.map Element.name).getD []
  | none => []

/-- `jipc_onvif_public_time`: the one action answered without credentials. -/
def publicTime (body : List Char) : Bool :=
  match parseXml body with
  | some d => named (actionName d) "GetSystemDateAndTime"
  | none => false

end JooanW3U.Media.OnvifXml

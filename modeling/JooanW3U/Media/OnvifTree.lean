import JooanW3U.Library.Forest
import JooanW3U.Media.OnvifXml
import Mathlib.Data.List.Forall2

/-!
Owns request trees as texts: `escaped`, a tree written with it, and what `parse_xml`,
`text_value` and `attr_value` make of that. Main result: every tree within the limits of the
reader is recovered.

Does not own what an action means, or trees that are written otherwise.
-/

namespace JooanW3U.Media.OnvifTree

open JooanW3U.Library JooanW3U.Media.OnvifXml

abbrev Text := List Char

/-! ### Trees as texts -/

def escapedChar (c : Char) : Text :=
  if c = '&' then ['&', 'a', 'm', 'p', ';']
  else if c = '<' then ['&', 'l', 't', ';']
  else if c = '>' then ['&', 'g', 't', ';']
  else if c = '"' then ['&', 'q', 'u', 'o', 't', ';']
  else if c = '\'' then ['&', 'a', 'p', 'o', 's', ';']
  else [c]

/-- What `escaped` puts. -/
def escaped (text : Text) : Text := text.flatMap escapedChar

/-- An attribute, in either quotes. -/
structure Attr where
  name : Span
  value : Text
  double : Bool
deriving Repr, DecidableEq

def Attr.quote (attr : Attr) : Char := if attr.double then '"' else '\''

def Attr.render (attr : Attr) : Text :=
  ' ' :: (attr.name ++ '=' :: attr.quote :: (escaped attr.value ++ [attr.quote]))

/-- The tag of an element; `short` when it is written as `<name/>` if it is empty. -/
structure Tag where
  name : Span
  attrs : List Attr
  short : Bool
deriving Repr, DecidableEq

/-- The attributes that do not declare a namespace. -/
def Tag.kept (tag : Tag) : List Attr := tag.attrs.filter fun attr => !namespaceDeclaration attr.name

/-- The elements within an element, with the text around them. -/
abbrev Tree := Forest Tag Text

def emptyTree : Tree → Bool
  | .last [] => true
  | _ => false

def render : Tree → Text
  | .last gap => escaped gap
  | .node gap tag inner after =>
      escaped gap ++ ('<' :: (tag.name ++ (tag.attrs.flatMap Attr.render ++
        ((if tag.short && emptyTree inner then ['/', '>']
          else '>' :: (render inner ++ '<' :: '/' :: (tag.name ++ ['>']))) ++ render after))))

/-- A request: its outermost element. -/
structure Document where
  tag : Tag
  inner : Tree
deriving Repr, DecidableEq

def Document.tree (doc : Document) : Tree := .node [] doc.tag doc.inner (.last [])

abbrev TreeRow := Forest.Row Tag Text

def Document.rows (doc : Document) : List TreeRow := doc.tree.rows none 0

/-! ### The limits -/

def Name (name : Span) : Prop :=
  name ≠ [] ∧ name.length ≤ 128 ∧ name.all nameChar = true

instance (name : Span) : Decidable (Name name) := by
  unfold Name
  infer_instance

structure Tag.Formed (tag : Tag) : Prop where
  name : Name tag.name
  names : ∀ attr ∈ tag.attrs, Name attr.name
  few : tag.kept.length ≤ maxAttrs
  distinct : (tag.kept.map Attr.name).Nodup

/-- A name of the envelope's parts. -/
def isPart (name : String) (row : TreeRow) : Bool :=
  row.parent = some 0 && named row.label.name name

/-- An envelope with at most one header and one body, which holds one action. -/
structure Soap (rows : List TreeRow) (body action : Nat) : Prop where
  envelope : ∃ root, rows.head? = some root ∧ named root.label.name "Envelope" = true
  parts : ∀ row ∈ rows, row.parent = some 0 → isPart "Body" row = true ∨ isPart "Header" row = true
  one : placesOf (isPart "Body") rows = [body]
  header : (placesOf (isPart "Header") rows).length ≤ 1
  action : placesOf (fun row => row.parent = some body) rows = [action]

/-- What the reader takes: numbers, names and the length of the text. -/
structure Limits (doc : Document) : Prop where
  elements : doc.tree.size ≤ maxElements
  depth : doc.tree.depth ≤ maxDepth
  tags : doc.tree.All Tag.Formed
  length : (render doc.tree).length ≤ maxJson

/-! ### Texts are decoded -/

/-- A character that is no control character, or white space. -/
def Plain (c : Char) : Prop := 32 ≤ c.toNat ∨ xmlSpace c = true

theorem escapedChar_length (c : Char) : 1 ≤ (escapedChar c).length := by
  unfold escapedChar
  split_ifs <;> exact Nat.succ_le_succ (Nat.zero_le _)

theorem escaped_cons (c : Char) (text : Text) :
    escaped (c :: text) = escapedChar c ++ escaped text :=
  List.flatMap_cons

/-- A character that `decode` takes. -/
def allowed (c : Char) : Bool := c ≠ '\x00' && (32 ≤ c.toNat || xmlSpace c)

theorem Plain.allowed {c : Char} (plain : Plain c) : allowed c = true := by
  unfold OnvifTree.allowed
  rcases plain with large | space
  · have notNul : c ≠ '\x00' := by
      rintro rfl
      exact absurd large (by decide)
    simp [notNul, large]
  · have notNul : c ≠ '\x00' := by
      rintro rfl
      exact absurd space (by decide)
    simp [notNul, space]

theorem refused_false {c : Char} (taken : allowed c = true) {room : Nat} (fits : 1 < room) :
    (decide (c = '\x00') || decide (c.toNat < 32) && !xmlSpace c || decide (room ≤ 1)) = false := by
  unfold allowed at taken
  simp only [Bool.and_eq_true, Bool.or_eq_true, decide_eq_true_eq] at taken
  obtain ⟨notNul, large | space⟩ := taken
  · simp [notNul, Nat.not_lt.mpr large, Nat.not_le.mpr fits]
  · simp [notNul, space, Nat.not_le.mpr fits]

/-- An entity is one round of `decode`. -/
theorem decodeLoop_entity {name : Span} (plain : (name.all fun d => d ≠ ';') = true) {c : Char}
    (known : entity name = some c) (taken : allowed c = true) (fuel : Nat) {room : Nat}
    (fits : 1 < room) (rest : Text) :
    decodeLoop (fuel + 1) room ('&' :: (name ++ ';' :: rest)) =
      (decodeLoop fuel (room - 1) rest).map (c :: ·) := by
  have read : (name ++ ';' :: rest).takeWhile (fun d => decide (d ≠ ';')) = name := by
    rw [List.takeWhile_append_of_pos (List.all_eq_true.mp plain),
      List.takeWhile_cons_of_neg (by simp), List.append_nil]
  rw [decodeLoop]
  dsimp only
  rw [if_pos rfl, read, List.drop_left]
  simp only [known, Option.map_some, Option.bind_eq_bind, Option.bind_some, refused_false taken fits,
    Bool.false_eq_true, if_false]
  cases decodeLoop fuel (room - 1) rest <;> rfl

/-- Any other character is one round too. -/
theorem decodeLoop_char {c : Char} (other : c ≠ '&') (taken : allowed c = true) (fuel : Nat)
    {room : Nat} (fits : 1 < room) (rest : Text) :
    decodeLoop (fuel + 1) room (c :: rest) = (decodeLoop fuel (room - 1) rest).map (c :: ·) := by
  rw [decodeLoop]
  dsimp only
  rw [if_neg other]
  simp only [Option.bind_eq_bind, Option.bind_some, refused_false taken fits, Bool.false_eq_true,
    if_false]
  cases decodeLoop fuel (room - 1) rest <;> rfl

theorem decodeLoop_escapedChar {c : Char} (taken : allowed c = true) (fuel : Nat) {room : Nat}
    (fits : 1 < room) (rest : Text) :
    decodeLoop (fuel + 1) room (escapedChar c ++ rest) =
      (decodeLoop fuel (room - 1) rest).map (c :: ·) := by
  unfold escapedChar
  split_ifs with amp lt gt quot apos
  · subst amp
    exact decodeLoop_entity (by decide) (show entity ['a', 'm', 'p'] = _ by decide) taken fuel fits rest
  · subst lt
    exact decodeLoop_entity (by decide) (show entity ['l', 't'] = _ by decide) taken fuel fits rest
  · subst gt
    exact decodeLoop_entity (by decide) (show entity ['g', 't'] = _ by decide) taken fuel fits rest
  · subst quot
    exact decodeLoop_entity (by decide) (show entity ['q', 'u', 'o', 't'] = _ by decide) taken fuel
      fits rest
  · subst apos
    exact decodeLoop_entity (by decide) (show entity ['a', 'p', 'o', 's'] = _ by decide) taken fuel
      fits rest
  · exact decodeLoop_char amp taken fuel fits rest

theorem decodeLoop_escaped {text : Text} (plain : ∀ c ∈ text, Plain c) {fuel room : Nat}
    (enough : text.length ≤ fuel) (fits : text.length < room) :
    decodeLoop fuel room (escaped text) = some text := by
  induction text generalizing fuel room with
  | nil => cases fuel <;> rfl
  | cons c text inductionHypothesis =>
      rw [List.length_cons] at enough fits
      obtain ⟨fuel, rfl⟩ := Nat.exists_eq_add_of_le' enough
      rw [escaped_cons, ← Nat.add_assoc, decodeLoop_escapedChar
        (plain c List.mem_cons_self).allowed _ (by omega), inductionHypothesis
        (fun d listed => plain d (List.mem_cons_of_mem _ listed)) (by omega) (by omega)]
      rfl

theorem escaped_length (text : Text) : text.length ≤ (escaped text).length := by
  induction text with
  | nil => exact Nat.le_refl _
  | cons c text inductionHypothesis =>
      have here := escapedChar_length c
      rw [escaped_cons, List.length_append, List.length_cons]
      omega

/-- A text comes back when the buffer holds it with its terminator. -/
theorem decode_escaped {text : Text} (plain : ∀ c ∈ text, Plain c) {cap : Nat}
    (fits : text.length < cap) : decode (escaped text) cap = some text :=
  decodeLoop_escaped plain (escaped_length text) fits

/-- An escaped text has none of the characters that end it. -/
theorem escaped_clean {text : Text} {c : Char} (listed : c ∈ escaped text) :
    c ≠ '<' ∧ c ≠ '"' ∧ c ≠ '\'' := by
  obtain ⟨d, -, inChar⟩ := List.mem_flatMap.mp listed
  unfold escapedChar at inChar
  split_ifs at inChar with amp lt gt quot apos
  iterate 5
    · simp only [List.mem_cons, List.not_mem_nil, or_false] at inChar
      rcases inChar with rfl | rfl | rfl | rfl | rfl | rfl <;> decide
  · rw [List.mem_singleton] at inChar
    subst inChar
    exact ⟨lt, quot, apos⟩

/-! ### Tags are read -/

/-- What follows a name does not go on with it. -/
def Stops (rest : Text) : Prop := ∃ c after, rest = c :: after ∧ nameChar c = false

theorem scanName_name {name : Span} (formed : Name name) {rest : Text} (stops : Stops rest) :
    scanName (name ++ rest) = some (name, rest) := by
  obtain ⟨nonempty, short, all⟩ := formed
  obtain ⟨c, after, rfl, ends⟩ := stops
  have chars : ∀ d ∈ name, nameChar d = true := List.all_eq_true.mp all
  have taken : (name ++ c :: after).takeWhile nameChar = name := by
    rw [List.takeWhile_append_of_pos chars, List.takeWhile_cons_of_neg (by rw [ends]; decide),
      List.append_nil]
  have dropped : (name ++ c :: after).dropWhile nameChar = c :: after := by
    rw [List.dropWhile_append_of_pos chars, List.dropWhile_cons_of_neg (by rw [ends]; decide)]
  rw [scanName, taken, dropped, if_neg]
  simp only [Bool.or_eq_true, List.isEmpty_iff, decide_eq_true_eq, not_or]
  exact ⟨nonempty, Nat.not_lt.mpr short⟩

/-- A name begins with a character of names. -/
theorem Name.cons {name : Span} (formed : Name name) :
    ∃ c rest, name = c :: rest ∧ nameChar c = true := by
  obtain ⟨nonempty, -, all⟩ := formed
  obtain ⟨c, rest, rfl⟩ := List.exists_cons_of_ne_nil nonempty
  exact ⟨c, rest, rfl, List.all_eq_true.mp all c List.mem_cons_self⟩

theorem nameChar_special {c : Char} (good : nameChar c = true) :
    xmlSpace c = false ∧ c ≠ '>' ∧ c ≠ '/' ∧ c ≠ '!' ∧ c ≠ '?' := by
  refine ⟨?_, ?_, ?_, ?_, ?_⟩
  · by_contra space
    simp only [xmlSpace, Bool.not_eq_false, Bool.or_eq_true, decide_eq_true_eq] at space
    rcases space with ((rfl | rfl) | rfl) | rfl <;> exact absurd good (by decide)
  all_goals
    rintro rfl
    exact absurd good (by decide)

theorem skipSpace_of {c : Char} (black : xmlSpace c = false) (rest : Text) :
    skipSpace (c :: rest) = c :: rest := by
  rw [skipSpace, List.dropWhile_cons_of_neg (by rw [black]; decide)]

theorem skipSpace_blank (rest : Text) : skipSpace (' ' :: rest) = skipSpace rest := by
  rw [skipSpace, List.dropWhile_cons_of_pos (by decide), skipSpace]

theorem quote_cases (attr : Attr) : attr.quote = '"' ∨ attr.quote = '\'' := by
  unfold Attr.quote
  cases attr.double <;> simp

theorem scanValue_value (attr : Attr) (rest : Text) :
    scanValue (attr.quote :: (escaped attr.value ++ attr.quote :: rest)) =
      some (escaped attr.value, rest) := by
  have clean : ∀ c ∈ escaped attr.value, (c ≠ attr.quote && c ≠ '<') = true := by
    intro c listed
    obtain ⟨noTag, noDouble, noSingle⟩ := escaped_clean listed
    rcases quote_cases attr with quote | quote <;> simp [quote, noTag, noDouble, noSingle]
  have taken : (escaped attr.value ++ attr.quote :: rest).takeWhile
      (fun c => c ≠ attr.quote && c ≠ '<') = escaped attr.value := by
    rw [List.takeWhile_append_of_pos clean, List.takeWhile_cons_of_neg (by simp), List.append_nil]
  have known : ¬ (attr.quote ≠ '\'' && attr.quote ≠ '"') = true := by
    rcases quote_cases attr with quote | quote <;> rw [quote] <;> decide
  rw [scanValue, if_neg known]
  dsimp only
  rw [taken, List.drop_left]
  dsimp only
  rw [if_pos rfl]

/-- The attributes as the reader keeps them. -/
def attributes (attrs : List Attr) : List Attribute :=
  (attrs.filter fun attr => !namespaceDeclaration attr.name).map fun attr =>
    ⟨attr.name, escaped attr.value⟩

/-- The end of a start tag. -/
def tagEnd (short : Bool) : Text := if short then ['/', '>'] else ['>']

theorem scanAttributes_end (fuel : Nat) (attrs : List Attribute) (short : Bool) (rest : Text) :
    scanAttributes (fuel + 1) attrs (tagEnd short ++ rest) = some (attrs, short, rest) := by
  cases short with
  | true =>
      rw [scanAttributes]
      have skipped : skipSpace (tagEnd true ++ rest) = '/' :: '>' :: rest := skipSpace_of (by decide) _
      rw [skipped]
      rfl
  | false =>
      rw [scanAttributes]
      have skipped : skipSpace (tagEnd false ++ rest) = '>' :: rest := skipSpace_of (by decide) _
      rw [skipped]
      rfl

/-- One attribute of the loop. -/
theorem scanAttributes_attr {attr : Attr} (formed : Name attr.name) {done : List Attribute}
    (fresh : ∀ a ∈ done, a.name ≠ attr.name)
    (room : namespaceDeclaration attr.name = false → done.length < maxAttrs) (fuel : Nat)
    (rest : Text) :
    scanAttributes (fuel + 1) done (attr.render ++ rest) =
      scanAttributes fuel (done ++ attributes [attr]) rest := by
  obtain ⟨c, cs, shape, good⟩ := formed.cons
  obtain ⟨black, noEnd, noSlash, -, -⟩ := nameChar_special good
  have skipped : skipSpace (attr.render ++ rest) =
      attr.name ++ '=' :: attr.quote :: (escaped attr.value ++ attr.quote :: rest) := by
    rw [Attr.render, List.cons_append, skipSpace_blank, shape]
    simp only [List.cons_append, List.append_assoc, List.nil_append]
    exact skipSpace_of black _
  have equals : Stops ('=' :: attr.quote :: (escaped attr.value ++ attr.quote :: rest)) :=
    ⟨_, _, rfl, by decide⟩
  have quoted : skipSpace (attr.quote :: (escaped attr.value ++ attr.quote :: rest)) =
      attr.quote :: (escaped attr.value ++ attr.quote :: rest) := by
    rcases quote_cases attr with quote | quote <;> rw [quote] <;> exact skipSpace_of (by decide) _
  have new : (done.any fun a => decide (a.name = attr.name)) = false := by
    rw [List.any_eq_false]
    exact fun a listed => by simpa using fresh a listed
  rw [scanAttributes, skipped]
  split
  · rename_i impossible
    rw [shape] at impossible
    cases impossible
  · rename_i impossible
    rw [shape] at impossible
    exact absurd (List.cons.inj impossible).1 noEnd
  · rename_i impossible
    rw [shape] at impossible
    exact absurd (List.cons.inj impossible).1 noSlash
  · simp only [scanName_name formed equals, Option.bind_eq_bind, Option.bind_some,
      skipSpace_of (show xmlSpace '=' = false by decide), quoted, scanValue_value, new,
      Bool.false_eq_true, if_false]
    cases declares : namespaceDeclaration attr.name with
    | true => simp [attributes, declares]
    | false =>
        have few : done.length ≠ maxAttrs := Nat.ne_of_lt (room declares)
        simp [attributes, declares, few]

theorem attributes_undeclared (attrs : List Attr) :
    ∀ a ∈ attributes attrs, namespaceDeclaration a.name = false := by
  intro a listed
  obtain ⟨attr, kept, rfl⟩ := List.mem_map.mp listed
  simpa using (List.mem_filter.mp kept).2

theorem attributes_cons (attr : Attr) (attrs : List Attr) :
    attributes (attr :: attrs) = attributes [attr] ++ attributes attrs := by
  rw [attributes, attributes, attributes, ← List.map_append, ← List.filter_append]
  rfl

theorem scanAttributes_attrs {attrs : List Attr} (formed : ∀ attr ∈ attrs, Name attr.name)
    {done : List Attribute}
    (distinct : ((done ++ attributes attrs).map Attribute.name).Nodup)
    (few : (done ++ attributes attrs).length ≤ maxAttrs)
    (undeclared : ∀ a ∈ done, namespaceDeclaration a.name = false) {fuel : Nat}
    (enough : attrs.length < fuel) (short : Bool) (rest : Text) :
    scanAttributes fuel done (attrs.flatMap Attr.render ++ (tagEnd short ++ rest)) =
      some (done ++ attributes attrs, short, rest) := by
  induction attrs generalizing done fuel with
  | nil =>
      obtain ⟨fuel, rfl⟩ := Nat.exists_eq_add_of_lt enough
      rw [List.flatMap_nil, List.nil_append, scanAttributes_end]
      rw [attributes, List.filter_nil, List.map_nil, List.append_nil]
  | cons attr attrs inductionHypothesis =>
      obtain ⟨fuel, rfl⟩ := Nat.exists_eq_add_of_lt enough
      rw [attributes_cons, ← List.append_assoc] at distinct few
      have fresh : ∀ a ∈ done, a.name ≠ attr.name := by
        intro a listed same
        cases declares : namespaceDeclaration attr.name with
        | true =>
            rw [← same, undeclared a listed] at declares
            cases declares
        | false =>
            have here : attributes [attr] = [⟨attr.name, escaped attr.value⟩] := by
              simp [attributes, declares]
            rw [here, List.append_assoc, List.map_append] at distinct
            have apart := (List.nodup_append.mp distinct).2.2
            exact apart _ (List.mem_map_of_mem listed) _ (List.mem_cons_self) same
      have room : namespaceDeclaration attr.name = false → done.length < maxAttrs := by
        intro declares
        have here : (attributes [attr]).length = 1 := by simp [attributes, declares]
        rw [List.length_append, List.length_append, here] at few
        omega
      have undeclaredNext : ∀ a ∈ done ++ attributes [attr], namespaceDeclaration a.name = false := by
        intro a listed
        rcases List.mem_append.mp listed with before | here
        · exact undeclared a before
        · exact attributes_undeclared [attr] a here
      rw [List.flatMap_cons, List.append_assoc, attributes_cons, ← List.append_assoc done,
        show (attr :: attrs).length + fuel + 1 = attrs.length + fuel + 1 + 1 by
          rw [List.length_cons]; omega,
        scanAttributes_attr (formed attr List.mem_cons_self) fresh room]
      exact inductionHypothesis (fun other listed => formed other (List.mem_cons_of_mem _ listed))
        distinct few undeclaredNext (by omega)

/-! ### Rounds of the reader -/

/-- The reader gets from one place to another within so many rounds. -/
def Leads (size : Nat) (start finish : Reader × Text) : Prop :=
  ∃ rounds, rounds ≤ size ∧
    ∀ fuel, readAll (rounds + fuel) start.1 start.2 = readAll fuel finish.1 finish.2

theorem Leads.refl (size : Nat) (place : Reader × Text) : Leads size place place :=
  ⟨0, Nat.zero_le _, fun fuel => by rw [Nat.zero_add]⟩

theorem Leads.trans {early late : Nat} {start middle finish : Reader × Text}
    (first : Leads early start middle) (second : Leads late middle finish) :
    Leads (early + late) start finish := by
  obtain ⟨one, oneFits, oneReads⟩ := first
  obtain ⟨two, twoFits, twoReads⟩ := second
  refine ⟨one + two, Nat.add_le_add oneFits twoFits, fun fuel => ?_⟩
  rw [Nat.add_assoc, oneReads, twoReads]

theorem Leads.mono {size larger : Nat} (fits : size ≤ larger) {start finish : Reader × Text}
    (leads : Leads size start finish) : Leads larger start finish := by
  obtain ⟨rounds, within, reads⟩ := leads
  exact ⟨rounds, Nat.le_trans within fits, reads⟩

theorem Leads.round {reader : Reader} {c : Char} {rest : Text} {finish : Reader × Text}
    (next : readNext reader (c :: rest) = some finish) : Leads 1 (reader, c :: rest) finish := by
  refine ⟨1, Nat.le_refl _, fun fuel => ?_⟩
  rw [Nat.add_comm, readAll, next]
  · rfl
  · exact nofun

/-- Text within an element is passed over. -/
theorem leads_text {reader : Reader} (open_ : reader.stack.isEmpty = false) (text rest : Text) :
    Leads (escaped text).length (reader, escaped text ++ '<' :: rest) (reader, '<' :: rest) := by
  cases shape : escaped text with
  | nil => exact Leads.refl _ _
  | cons c cs =>
      have clean : ∀ d ∈ c :: cs, d ≠ '<' := by
        intro d listed
        rw [← shape] at listed
        exact (escaped_clean listed).1
      have next : readNext reader (c :: (cs ++ '<' :: rest)) = some (reader, '<' :: rest) := by
        unfold readNext
        split
        · rename_i impossible
          exact absurd (List.cons.inj impossible).1 (clean c List.mem_cons_self)
        · dsimp only
          have dropped : (c :: (cs ++ '<' :: rest)).dropWhile (fun d => decide (d ≠ '<')) =
              '<' :: rest := by
            rw [← List.cons_append, List.dropWhile_append_of_pos fun d listed =>
              decide_eq_true (clean d listed), List.dropWhile_cons_of_neg (by simp)]
          rw [open_, Bool.false_and, if_neg Bool.false_ne_true, dropped]
      exact (Leads.round next).mono (by simp)

/-- An opening tag is no comment, declaration or closing tag. -/
theorem readNext_open {name : Span} (formed : Name name) {rest : Text} (stops : Stops rest)
    (reader : Reader) :
    readNext reader ('<' :: (name ++ rest)) = openTag reader name rest := by
  obtain ⟨c, cs, shape, good⟩ := formed.cons
  obtain ⟨-, -, noSlash, noBang, noAsk⟩ := nameChar_special good
  have comment : "!--".toList.isPrefixOf (name ++ rest) = false := by
    rw [shape]
    simp [List.isPrefixOf, Ne.symm noBang]
  have declaration : "?xml".toList.isPrefixOf (name ++ rest) = false := by
    rw [shape]
    simp [List.isPrefixOf, Ne.symm noAsk]
  have read := scanName_name formed stops
  rw [readNext, comment, declaration, if_neg Bool.false_ne_true, Bool.false_and, Bool.false_and,
    if_neg Bool.false_ne_true, read]
  · rfl
  · intro impossible
    rw [shape] at impossible
    cases impossible
  · intro tail impossible
    rw [shape] at impossible
    exact noBang (List.cons.inj impossible).1
  · intro tail impossible
    rw [shape] at impossible
    exact noAsk (List.cons.inj impossible).1
  · intro tail impossible
    rw [shape] at impossible
    exact noSlash (List.cons.inj impossible).1

/-- The closing tag of the innermost open element gives it its text. -/
theorem readNext_close {name : Span} (formed : Name name) {el : List Element} {index : Nat}
    {element : Element} (at_ : el[index]? = some element) (same : element.name = name)
    (inner : Text) (stack : List (Nat × List Char)) (rest : Text) :
    readNext ⟨el, (index, inner ++ '<' :: '/' :: (name ++ '>' :: rest)) :: stack, true⟩
        ('<' :: '/' :: (name ++ '>' :: rest)) =
      some (⟨el.set index { element with text := inner }, stack, true⟩, rest) := by
  have comment : "!--".toList.isPrefixOf ('/' :: (name ++ '>' :: rest)) = false := by
    simp [List.isPrefixOf]
  have declaration : "?xml".toList.isPrefixOf ('/' :: (name ++ '>' :: rest)) = false := by
    simp [List.isPrefixOf]
  have read := scanName_name formed ⟨'>', rest, rfl, by decide⟩
  rw [readNext, comment, declaration, if_neg Bool.false_ne_true, Bool.false_and, Bool.false_and,
    if_neg Bool.false_ne_true, read]
  simp only [Option.bind_eq_bind, Option.bind_some]
  simp only [closeTag, skipSpace_of (show xmlSpace '>' = false by decide), at_]
  rw [if_pos same, List.length_append, Nat.add_sub_cancel, List.take_left]

theorem attrs_length (attrs : List Attr) : attrs.length ≤ (attrs.flatMap Attr.render).length := by
  induction attrs with
  | nil => exact Nat.le_refl _
  | cons attr attrs inductionHypothesis =>
      rw [List.flatMap_cons, List.length_append, List.length_cons, Attr.render, List.length_cons]
      omega

theorem openTag_spec {tag : Tag} (formed : tag.Formed) {reader : Reader}
    (room : reader.el.length < maxElements) (shallow : reader.stack.length < maxDepth)
    (first : reader.stack.isEmpty = true → reader.rootSeen = false) (short : Bool) (rest : Text) :
    openTag reader tag.name (tag.attrs.flatMap Attr.render ++ (tagEnd short ++ rest)) =
      some (⟨markChild reader.el (reader.stack.head?.map Prod.fst) ++
          [⟨tag.name, [], reader.stack.head?.map Prod.fst, false, attributes tag.attrs⟩],
        if short then reader.stack else (reader.el.length, rest) :: reader.stack, true⟩, rest) := by
  have distinct : (([] ++ attributes tag.attrs).map Attribute.name).Nodup := by
    rw [List.nil_append, attributes, List.map_map]
    exact formed.distinct
  have few : ([] ++ attributes tag.attrs).length ≤ maxAttrs := by
    rw [List.nil_append, attributes, List.length_map]
    exact formed.few
  have enough : tag.attrs.length <
      (tag.attrs.flatMap Attr.render ++ (tagEnd short ++ rest)).length + 1 := by
    rw [List.length_append]
    exact Nat.lt_succ_of_le (Nat.le_trans (attrs_length tag.attrs) (Nat.le_add_right _ _))
  have read := scanAttributes_attrs formed.names distinct few nofun enough short rest
  have opens : ¬ (decide (reader.el.length = maxElements) || decide (reader.stack.length = maxDepth) ||
      (reader.stack.isEmpty && reader.rootSeen)) = true := by
    simp only [Bool.or_eq_true, Bool.and_eq_true, decide_eq_true_eq, not_or, not_and,
      Bool.not_eq_true]
    exact ⟨⟨Nat.ne_of_lt room, Nat.ne_of_lt shallow⟩, first⟩
  rw [openTag, if_neg opens, read]
  rfl

/-! ### Trees are read -/

/-- The element of a row, its text being what is written between its tags. -/
def elementOf (row : TreeRow) : Element :=
  ⟨row.label.name, render row.inner, row.parent, !row.inner.isLeaf, attributes row.label.attrs⟩

/-- The elements of a tree. -/
def elements (parent : Option Nat) (place : Nat) (tree : Tree) : List Element :=
  (tree.rows parent place).map elementOf

/-- The table where a tree's elements have been added below a parent. -/
def withTree (el : List Element) (parent : Nat) (tree : Tree) : List Element :=
  (if tree.isLeaf then el else markChild el (some parent)) ++ elements (some parent) el.length tree

def mark (element : Element) : Element := { element with child := true }

theorem markChild_some (el : List Element) (parent : Nat) :
    markChild el (some parent) = el.modify parent mark := rfl

theorem modify_append {el : List Element} {place : Nat} (inside : place < el.length)
    (change : Element → Element) (more : List Element) :
    (el ++ more).modify place change = el.modify place change ++ more := by
  induction el generalizing place with
  | nil => exact absurd inside (Nat.not_lt_zero _)
  | cons first el inductionHypothesis =>
      cases place with
      | zero => rfl
      | succ place =>
          rw [List.cons_append, List.modify_succ_cons, List.modify_succ_cons, List.cons_append,
            inductionHypothesis (Nat.lt_of_succ_lt_succ inside)]

theorem modify_end (el : List Element) (last : Element) (change : Element → Element)
    (more : List Element) :
    (el ++ last :: more).modify el.length change = el ++ change last :: more := by
  induction el with
  | nil => rfl
  | cons first el inductionHypothesis =>
      rw [List.cons_append, List.length_cons, List.modify_succ_cons, inductionHypothesis]
      rfl

theorem elements_length (parent : Option Nat) (place : Nat) (tree : Tree) :
    (elements parent place tree).length = tree.size := by
  rw [elements, List.length_map, Forest.rows_length]

/-- Below an element that was added last. -/
theorem withTree_last (el : List Element) {last : Element} (childless : last.child = false)
    (inner : Tree) :
    withTree (el ++ [last]) el.length inner =
      el ++ { last with child := !inner.isLeaf } ::
        elements (some el.length) (el.length + 1) inner := by
  rw [withTree, List.length_append, List.length_singleton]
  cases leaf : inner.isLeaf with
  | true =>
      rw [if_pos rfl, List.append_assoc, Bool.not_true, ← childless]
      rfl
  | false =>
      rw [if_neg Bool.false_ne_true, markChild_some, modify_end, List.append_assoc]
      rfl

/-- A parent that is marked already stays as it is. -/
theorem withTree_marked {el : List Element} {parent : Nat} (inside : parent < el.length)
    (more : List Element) (tree : Tree) :
    withTree (el.modify parent mark ++ more) parent tree =
      el.modify parent mark ++ (more ++ elements (some parent) (el.length + more.length) tree) := by
  have same : (el.modify parent mark ++ more).modify parent mark = el.modify parent mark ++ more := by
    rw [modify_append (by rw [List.length_modify]; exact inside), List.modify_modify_eq]
    rfl
  rw [withTree, markChild_some, same, ite_self, List.length_append, List.length_modify,
    List.append_assoc]

/-- What is behind a start tag. -/
def behindTag (tag : Tag) (inner : Tree) (tail : Text) : Text :=
  if tag.short && emptyTree inner then tail
  else render inner ++ '<' :: '/' :: (tag.name ++ '>' :: tail)

theorem render_node (gap : Text) (tag : Tag) (inner after : Tree) (tail : Text) :
    render (.node gap tag inner after) ++ tail =
      escaped gap ++ '<' :: (tag.name ++ (tag.attrs.flatMap Attr.render ++
        (tagEnd (tag.short && emptyTree inner) ++ behindTag tag inner (render after ++ tail)))) := by
  rw [render, behindTag]
  cases tag.short && emptyTree inner with
  | true => simp [tagEnd]
  | false => simp [tagEnd]

theorem render_node_length (gap : Text) (tag : Tag) (inner after : Tree) :
    (escaped gap).length + (1 + (behindTag tag inner []).length + (render after).length) ≤
      (render (.node gap tag inner after)).length := by
  have whole := render_node gap tag inner after []
  rw [List.append_nil, List.append_nil] at whole
  rw [whole]
  have behind : (behindTag tag inner (render after)).length =
      (behindTag tag inner []).length + (render after).length := by
    unfold behindTag
    split
    · simp
    · simp only [List.length_append, List.length_cons, List.length_nil]
      omega
  simp only [List.length_append, List.length_cons, behind]
  omega

theorem stops_attrs (attrs : List Attr) (short : Bool) (rest : Text) :
    Stops (attrs.flatMap Attr.render ++ (tagEnd short ++ rest)) := by
  cases attrs with
  | nil =>
      cases short with
      | true => exact ⟨'/', '>' :: rest, rfl, by decide⟩
      | false => exact ⟨'>', rest, rfl, by decide⟩
  | cons attr attrs => exact ⟨' ', _, rfl, by decide⟩

theorem markChild_length (el : List Element) (parent : Option Nat) :
    (markChild el parent).length = el.length := by
  cases parent with
  | none => rfl
  | some place => exact List.length_modify _ _ _

/-- The content of an element is read, whatever encloses it. -/
def ContentLeads (inner : Tree) : Prop :=
  ∀ {el : List Element} {stack : List (Nat × List Char)} {parent : Nat} {begun : Text},
    parent < el.length → el.length + inner.size ≤ maxElements →
      stack.length + 1 + inner.depth ≤ maxDepth → ∀ rest : Text,
        Leads (render inner).length (⟨el, (parent, begun) :: stack, true⟩, render inner ++ '<' :: rest)
          (⟨withTree el parent inner, (parent, begun) :: stack, true⟩, '<' :: rest)

/-- An element with its content is added to the table, below the innermost open element. -/
theorem leads_element {tag : Tag} (formed : tag.Formed) {inner : Tree} (content : ContentLeads inner)
    {reader : Reader} (room : reader.el.length + 1 + inner.size ≤ maxElements)
    (shallow : reader.stack.length + 1 + inner.depth ≤ maxDepth)
    (first : reader.stack.isEmpty = true → reader.rootSeen = false) (tail : Text) :
    Leads (1 + (behindTag tag inner []).length)
      (reader, '<' :: (tag.name ++ (tag.attrs.flatMap Attr.render ++
        (tagEnd (tag.short && emptyTree inner) ++ behindTag tag inner tail))))
      (⟨markChild reader.el (reader.stack.head?.map Prod.fst) ++
          elementOf ⟨reader.stack.head?.map Prod.fst, tag, inner⟩ ::
            elements (some reader.el.length) (reader.el.length + 1) inner,
        reader.stack, true⟩, tail) := by
  have opened := @openTag_spec tag formed reader (by omega) (by omega) first
    (tag.short && emptyTree inner) (behindTag tag inner tail)
  rw [← readNext_open formed.name (stops_attrs _ _ _)] at opened
  cases short : tag.short && emptyTree inner with
  | true =>
      rw [short] at opened
      have nothing : inner = .last [] := by
        rw [Bool.and_eq_true] at short
        unfold emptyTree at short
        cases inner with
        | last gap =>
            cases gap with
            | nil => rfl
            | cons c rest => cases short.2
        | node gap label below after => cases short.2
      have behind : behindTag tag inner tail = tail := by
        rw [behindTag, short, if_pos rfl]
      subst nothing
      rw [behind] at opened ⊢
      exact (Leads.round opened).mono (Nat.le_add_right _ _)
  | false =>
      rw [short] at opened
      have behind : ∀ text, behindTag tag inner text =
          render inner ++ '<' :: '/' :: (tag.name ++ '>' :: text) := by
        intro text
        rw [behindTag, short, if_neg Bool.false_ne_true]
      rw [if_neg Bool.false_ne_true, behind tail] at opened
      rw [behind tail, behind []]
      have size := markChild_length reader.el (reader.stack.head?.map Prod.fst)
      generalize markChild reader.el (reader.stack.head?.map Prod.fst) = base at opened size ⊢
      generalize reader.stack.head?.map Prod.fst = parent at opened ⊢
      -- The content is read below the new element, and the closing tag gives it its text.
      have read := @content (base ++ [⟨tag.name, [], parent, false, attributes tag.attrs⟩])
        reader.stack reader.el.length
        (render inner ++ '<' :: '/' :: (tag.name ++ '>' :: tail))
        (by rw [List.length_append, size]; exact Nat.lt_succ_self _)
        (by rw [List.length_append, size]; exact room) shallow
        ('/' :: (tag.name ++ '>' :: tail))
      rw [← size, withTree_last base rfl, size] at read
      have at_ : (base ++ (⟨tag.name, [], parent, !inner.isLeaf, attributes tag.attrs⟩ : Element) ::
          elements (some reader.el.length) (reader.el.length + 1) inner)[reader.el.length]? =
            some ⟨tag.name, [], parent, !inner.isLeaf, attributes tag.attrs⟩ := by
        rw [← size, List.getElem?_append_right (Nat.le_refl _), Nat.sub_self]
        rfl
      have closed := readNext_close formed.name at_ rfl (render inner) reader.stack tail
      rw [← size, List.set_append_right _ _ (Nat.le_refl _), Nat.sub_self, List.set_cons_zero,
        size] at closed
      have whole := ((Leads.round opened).trans read).trans (Leads.round closed)
      refine whole.mono ?_
      simp only [List.length_append, List.length_cons, List.length_nil]
      omega

theorem leads_tree {tree : Tree} (formed : tree.All Tag.Formed) : ContentLeads tree := by
  induction tree with
  | last gap =>
      intro el stack parent begun _ _ _ rest
      have nothing : withTree el parent (.last gap) = el := by
        rw [withTree, Forest.isLeaf, if_pos rfl]
        exact List.append_nil el
      rw [nothing]
      exact leads_text rfl gap rest
  | node gap tag inner after innerHypothesis afterHypothesis =>
      intro el stack parent begun inside room shallow rest
      obtain ⟨formedTag, formedInner, formedAfter⟩ := formed
      rw [Forest.size] at room
      rw [Forest.depth] at shallow
      have deepInner := Nat.le_max_left (inner.depth + 1) after.depth
      have deepAfter := Nat.le_max_right (inner.depth + 1) after.depth
      have text := @leads_text ⟨el, (parent, begun) :: stack, true⟩ rfl gap
        (tag.name ++ (tag.attrs.flatMap Attr.render ++ (tagEnd (tag.short && emptyTree inner) ++
          behindTag tag inner (render after ++ '<' :: rest))))
      have element := @leads_element tag formedTag inner (innerHypothesis formedInner)
        ⟨el, (parent, begun) :: stack, true⟩ (by dsimp only; omega)
        (by rw [List.length_cons]; omega) (fun bottom => absurd bottom Bool.false_ne_true)
        (render after ++ '<' :: rest)
      dsimp only [List.head?_cons, Option.map_some] at element
      rw [markChild_some] at element
      have afterRead := @afterHypothesis formedAfter
        (el.modify parent mark ++ elementOf ⟨some parent, tag, inner⟩ ::
          elements (some el.length) (el.length + 1) inner) stack parent begun
        (by rw [List.length_append, List.length_modify]; omega)
        (by rw [List.length_append, List.length_modify, List.length_cons, elements_length]; omega)
        (by omega) rest
      rw [withTree_marked inside] at afterRead
      have whole := (text.trans (element.trans afterRead)).mono
        (render_node_length gap tag inner after)
      have table : withTree el parent (.node gap tag inner after) =
          el.modify parent mark ++ (elementOf ⟨some parent, tag, inner⟩ ::
            elements (some el.length) (el.length + 1) inner ++
              elements (some parent) (el.length + (elementOf ⟨some parent, tag, inner⟩ ::
                elements (some el.length) (el.length + 1) inner).length) after) := by
        rw [withTree, Forest.isLeaf, if_neg Bool.false_ne_true, markChild_some, elements,
          Forest.rows, List.map_cons, List.map_append, List.length_cons, elements_length,
          show el.length + (inner.size + 1) = el.length + 1 + inner.size by omega]
        rfl
      rw [render_node, table]
      exact whole

/-! ### Requests are read -/

theorem readAll_document {doc : Document} (tags : doc.tree.All Tag.Formed)
    (size : doc.tree.size ≤ maxElements) (depth : doc.tree.depth ≤ maxDepth) :
    readAll (render doc.tree).length Reader.start (render doc.tree) =
      some ⟨doc.rows.map elementOf, [], true⟩ := by
  obtain ⟨formed, inner, -⟩ := tags
  have room : doc.inner.size + 1 ≤ maxElements := size
  have shallow : doc.inner.depth + 1 ≤ maxDepth :=
    Nat.le_trans (Nat.le_max_left _ 0) depth
  obtain ⟨rounds, fits, reads⟩ := @leads_element doc.tag formed doc.inner (leads_tree inner)
    Reader.start (by rw [Reader.start, List.length_nil]; omega)
    (by rw [Reader.start, List.length_nil]; omega) (fun _ => rfl) []
  have text := render_node [] doc.tag doc.inner (.last []) []
  rw [List.append_nil] at text
  have whole : render doc.tree = '<' :: (doc.tag.name ++ (doc.tag.attrs.flatMap Attr.render ++
      (tagEnd (doc.tag.short && emptyTree doc.inner) ++ behindTag doc.tag doc.inner []))) := text
  have enough : rounds ≤ (render doc.tree).length := by
    have long := render_node_length [] doc.tag doc.inner (.last [])
    have inDoc : (behindTag doc.tag doc.inner []).length + 1 ≤ (render doc.tree).length := by
      refine Nat.le_trans ?_ long
      omega
    omega
  have run := reads ((render doc.tree).length - rounds)
  rw [Nat.add_sub_cancel' enough] at run
  rw [← whole] at run
  rw [run, readAll]
  dsimp only [Reader.start, List.head?_nil, Option.map_none, markChild, List.length_nil,
    List.nil_append]
  rw [Document.rows, Document.tree, Forest.rows, Forest.rows, List.append_nil]
  rfl

/-- The parts among some elements with their places. -/
def partsIn (name : String) (listed : List (Element × Nat)) : List Nat :=
  listed.filterMap fun (e, place) =>
    if e.parent = some 0 && named e.name name then some place else none

/-- A name cannot be two. -/
theorem named_unique {span : Span} {one other : String} (differ : one ≠ other)
    (first : named span one = true) : named span other = false := by
  by_contra second
  rw [named, decide_eq_true_eq] at first
  rw [Bool.not_eq_false, named, decide_eq_true_eq] at second
  exact differ (String.toList_inj.mp (first.symm.trans second))

theorem partsIn_other {name : String} {e : Element} {place : Nat}
    (other : ¬ (e.parent = some 0 ∧ named e.name name = true)) (rest : List (Element × Nat)) :
    partsIn name ((e, place) :: rest) = partsIn name rest := by
  have skipped : (e.parent = some 0 && named e.name name) = false := by
    simpa using other
  simp only [partsIn, List.filterMap_cons, skipped, Bool.false_eq_true, if_false]

theorem partsIn_part {name : String} {e : Element} {place : Nat} (child : e.parent = some 0)
    (is : named e.name name = true) (rest : List (Element × Nat)) :
    partsIn name ((e, place) :: rest) = place :: partsIn name rest := by
  have counted : (e.parent = some 0 && named e.name name) = true := by
    rw [is, Bool.and_true]
    exact decide_eq_true child
  simp only [partsIn, List.filterMap_cons, counted, if_true]

theorem foldlM_parts {listed : List (Element × Nat)}
    (known : ∀ entry ∈ listed, entry.1.parent = some 0 →
      named entry.1.name "Body" = true ∨ named entry.1.name "Header" = true)
    {body header : Option Nat}
    (oneBody : body.toList.length + (partsIn "Body" listed).length ≤ 1)
    (oneHeader : header.toList.length + (partsIn "Header" listed).length ≤ 1) :
    listed.foldlM (fun (body, header) (e, i) =>
      if e.parent ≠ some 0 then some (body, header)
      else if named e.name "Body" then
        if body.isSome then none else some (some i, header)
      else if named e.name "Header" then
        if header.isSome then none else some (body, some i)
      else none) (body, header) =
      some (body.or (partsIn "Body" listed).head?, header.or (partsIn "Header" listed).head?) := by
  induction listed generalizing body header with
  | nil => cases body <;> cases header <;> rfl
  | cons entry rest inductionHypothesis =>
      obtain ⟨e, place⟩ := entry
      have knownRest := fun entry listed => known entry (List.mem_cons_of_mem (e, place) listed)
      rw [List.foldlM_cons]
      by_cases child : e.parent = some 0
      · rcases known (e, place) List.mem_cons_self child with isBody | isHeader
        · have notHeader : named e.name "Header" = false := named_unique (by decide) isBody
          have skipped := @partsIn_other "Header" e place (by simp [notHeader]) rest
          have counted := @partsIn_part "Body" e place child isBody rest
          rw [counted, List.length_cons] at oneBody
          rw [skipped] at oneHeader ⊢
          rw [counted]
          cases body with
          | some other => exact absurd oneBody (by simp)
          | none =>
              have step := @inductionHypothesis knownRest (some place) header
                (by
                  rw [Option.toList_none, List.length_nil] at oneBody
                  rw [Option.toList_some, List.length_singleton]
                  omega) oneHeader
              simp only [child, isBody]
              exact step
        · have notBody : named e.name "Body" = false := named_unique (by decide) isHeader
          have skipped := @partsIn_other "Body" e place (by simp [notBody]) rest
          have counted := @partsIn_part "Header" e place child isHeader rest
          rw [counted, List.length_cons] at oneHeader
          rw [skipped] at oneBody ⊢
          rw [counted]
          cases header with
          | some other => exact absurd oneHeader (by simp)
          | none =>
              have step := @inductionHypothesis knownRest body (some place) oneBody
                (by
                  rw [Option.toList_none, List.length_nil] at oneHeader
                  rw [Option.toList_some, List.length_singleton]
                  omega)
              simp only [child, notBody, isHeader]
              exact step
      · rw [partsIn_other (fun both => child both.1) rest] at oneBody ⊢
        rw [partsIn_other (fun both => child both.1) rest] at oneHeader ⊢
        have step := inductionHypothesis knownRest oneBody oneHeader
        simp only [ne_eq, child, not_false_eq_true, if_true]
        exact step

/-- A row of the table in terms of the element it becomes. -/
theorem placesOf_elements (holds : Element → Bool) (doc : Document) :
    placesOf holds (doc.rows.map elementOf) = placesOf (fun row => holds (elementOf row)) doc.rows :=
  placesOf_map elementOf holds doc.rows

/-- The first row is the envelope, which is no child. -/
theorem rows_cons (doc : Document) :
    doc.rows = ⟨none, doc.tag, doc.inner⟩ :: (doc.inner.rows (some 0) 1) := by
  rw [Document.rows, Document.tree, Forest.rows, Forest.rows, List.append_nil]

theorem drop_one_children {doc : Document} {holds : Element → Bool}
    (child : ∀ e : Element, e.parent = none → holds e = false) :
    (((doc.rows.map elementOf).zipIdx.drop 1).filterMap fun (e, place) =>
      if holds e then some place else none) =
        placesOf (fun row => holds (elementOf row)) doc.rows := by
  rw [← placesOf_elements, rows_cons, List.map_cons]
  exact placesOf_drop_one (child _ rfl) _

theorem parts_known {doc : Document} {body action : Nat} (soap : Soap doc.rows body action) :
    ∀ entry ∈ (doc.rows.map elementOf).zipIdx.drop 1, entry.1.parent = some 0 →
      named entry.1.name "Body" = true ∨ named entry.1.name "Header" = true := by
  rintro ⟨e, place⟩ listed child
  have inTable := List.mem_of_getElem? (List.mem_zipIdx_iff_getElem?.mp (List.mem_of_mem_drop listed))
  obtain ⟨row, inRows, rfl⟩ := List.mem_map.mp inTable
  have isChild : row.parent = some 0 := child
  rcases soap.parts row inRows isChild with isBody | isHeader
  · rw [isPart, Bool.and_eq_true] at isBody
    exact .inl isBody.2
  · rw [isPart, Bool.and_eq_true] at isHeader
    exact .inr isHeader.2

theorem envelopeParts_document {doc : Document} {body action : Nat}
    (soap : Soap doc.rows body action) :
    envelopeParts (doc.rows.map elementOf) =
      some (some body, (placesOf (isPart "Header") doc.rows).head?) := by
  have parts : ∀ name, partsIn name ((doc.rows.map elementOf).zipIdx.drop 1) =
      placesOf (isPart name) doc.rows := by
    intro name
    refine @drop_one_children doc (fun e => e.parent = some 0 && named e.name name) ?_
    intro e orphan
    rw [orphan]
    rfl
  have oneBody : (none : Option Nat).toList.length +
      (partsIn "Body" ((doc.rows.map elementOf).zipIdx.drop 1)).length ≤ 1 := by
    rw [parts, soap.one]
    exact Nat.le_refl _
  have oneHeader : (none : Option Nat).toList.length +
      (partsIn "Header" ((doc.rows.map elementOf).zipIdx.drop 1)).length ≤ 1 := by
    rw [parts, Option.toList_none, List.length_nil, Nat.zero_add]
    exact soap.header
  have found := foldlM_parts (parts_known soap) oneBody oneHeader
  rw [parts, parts, soap.one] at found
  exact found

theorem bodyActions_document {doc : Document} {body action : Nat}
    (soap : Soap doc.rows body action) :
    bodyActions (doc.rows.map elementOf) body = [action] := by
  have children := @drop_one_children doc (fun e => e.parent = some body) (by
    intro e orphan
    rw [orphan]
    rfl)
  have same : bodyActions (doc.rows.map elementOf) body =
      placesOf (fun row => (elementOf row).parent = some body) doc.rows := by
    rw [← children, bodyActions]
    simp only [decide_eq_true_eq]
  rw [same]
  exact soap.action

theorem parseXml_document {doc : Document} (limits : Limits doc) {body action : Nat}
    (soap : Soap doc.rows body action) :
    parseXml (render doc.tree) =
      some ⟨doc.rows.map elementOf, some action, (placesOf (isPart "Header") doc.rows).head?⟩ := by
  have short : ¬ (render doc.tree).length > maxJson := Nat.not_lt.mpr limits.length
  have table := readAll_document limits.tags limits.elements limits.depth
  obtain ⟨root, first, isEnvelope⟩ := soap.envelope
  have rootElement : (doc.rows.map elementOf).head? = some (elementOf root) := by
    rw [List.head?_map, first]
    rfl
  have rootName : named (elementOf root).name "Envelope" = true := isEnvelope
  unfold parseXml
  simp only [short, if_false, table, Option.bind_eq_bind, Option.bind_some, List.isEmpty_nil,
    Bool.not_true, Bool.false_eq_true, rootElement, rootName, envelopeParts_document soap,
    bodyActions_document soap]

/-! ### What is recovered -/

/-- The attribute has the name, and its value decodes to the original. -/
def SameAttr (read : Attribute) (attr : Attr) : Prop :=
  read.name = attr.name ∧
    ∀ cap, (∀ c ∈ attr.value, Plain c) → attr.value.length < cap →
      decode read.value cap = some attr.value

/-- Every element is there with its name, parent and attributes. `text_value` gives the text of
an element without elements in it that is the only one of its name below its parent, and
`attr_value` the value of the first attribute of a name, where these fit and have no control
characters. -/
structure Recovered (rows : List TreeRow) (d : Xml) : Prop where
  count : d.el.length = rows.length
  elements : ∀ (place : Nat) (row : TreeRow), rows[place]? = some row →
    ∃ e, d.el[place]? = some e ∧ e.name = row.label.name ∧ e.parent = row.parent ∧
      List.Forall₂ SameAttr e.attrs row.label.kept
  texts : ∀ (place : Nat) (row : TreeRow) (text : Text) (name : String) (cap : Nat),
    rows[place]? = some row → row.inner = .last text →
      placesOf (fun other => other.parent = row.parent && named other.label.name name) rows =
        [place] →
      (∀ c ∈ text, Plain c) → text.length < cap → textValue d row.parent name cap = some text
  values : ∀ (place : Nat) (row : TreeRow) (attr : Attr) (name : String) (cap : Nat),
    rows[place]? = some row → row.label.kept.find? (fun attr => named attr.name name) = some attr →
      (∀ c ∈ attr.value, Plain c) → attr.value.length < cap →
        attrValue d (some place) name cap = some attr.value

theorem attributes_same (tag : Tag) : List.Forall₂ SameAttr (attributes tag.attrs) tag.kept := by
  rw [attributes, Tag.kept, List.forall₂_map_left_iff]
  exact List.forall₂_same.mpr fun attr _ =>
    ⟨rfl, fun _ plain fits => decode_escaped plain fits⟩

theorem recovered_elements (doc : Document) (action header : Option Nat) :
    Recovered doc.rows ⟨doc.rows.map elementOf, action, header⟩ where
  count := List.length_map _
  elements := by
    intro place row at_
    refine ⟨elementOf row, ?_, rfl, rfl, attributes_same row.label⟩
    rw [List.getElem?_map, at_]
    rfl
  texts := by
    intro place row text name cap at_ leaf only plain fits
    have found : child ⟨doc.rows.map elementOf, action, header⟩ row.parent name = some place := by
      have places := placesOf_elements (fun e => e.parent = row.parent && named e.name name) doc
      rw [placesOf] at places
      rw [child, places]
      have same : placesOf (fun other => (elementOf other).parent = row.parent &&
          named (elementOf other).name name) doc.rows = [place] := only
      rw [same]
    have here : (doc.rows.map elementOf)[place]? = some (elementOf row) := by
      rw [List.getElem?_map, at_]
      rfl
    have childless : (elementOf row).child = false := by
      rw [elementOf, leaf]
      rfl
    have inner : (elementOf row).text = escaped text := by
      rw [elementOf, leaf]
      rfl
    rw [textValue, found]
    simp only [Option.bind_eq_bind, Option.bind_some, here, childless, Bool.false_eq_true, if_false,
      inner, decode_escaped plain fits]
  values := by
    intro place row attr name cap at_ first plain fits
    have here : (doc.rows.map elementOf)[place]? = some (elementOf row) := by
      rw [List.getElem?_map, at_]
      rfl
    have found : (elementOf row).attrs.find? (fun a => named a.name name) =
        some ⟨attr.name, escaped attr.value⟩ := by
      rw [elementOf, attributes, List.find?_map]
      exact congrArg (Option.map _) first
    rw [attrValue]
    simp only [Option.bind_eq_bind, Option.bind_some, here, found, decode_escaped plain fits]

/-- Every request within the limits is accepted, with its action, and recovered. -/
theorem document_recovered {doc : Document} (limits : Limits doc) {body action : Nat}
    (soap : Soap doc.rows body action) :
    ∃ d, parseXml (render doc.tree) = some d ∧ d.action = some action ∧ Recovered doc.rows d :=
  ⟨_, parseXml_document limits soap, rfl, recovered_elements doc _ _⟩

/-- An element without attributes. -/
def plainTag (name : String) : Tag := ⟨name.toList, [], false⟩

/-- An envelope with a body and an action that has some content. -/
def request (action : Tag) (content : Tree) : Document where
  tag := ⟨"s:Envelope".toList, [⟨"xmlns:s".toList, "urn:s".toList, true⟩], false⟩
  inner := .node [] ⟨"s:Header".toList, [], true⟩ (.last [])
    (.node ['\n'] (plainTag "s:Body") (.node [] action content (.last [])) (.last []))

/-- An action with an attribute and a text. -/
def sampleDocument : Document :=
  request ⟨"t:SetName".toList, [⟨['i'], "a<b".toList, false⟩], false⟩
    (.node [] (plainTag "t:Name") (.last "\"T\" & co".toList) (.last []))

theorem document_recovered_sample : ∃ d, parseXml (render sampleDocument.tree) = some d ∧
    d.action = some 3 ∧ Recovered sampleDocument.rows d := by
  have soap : Soap sampleDocument.rows 2 3 :=
    ⟨⟨_, rfl, by decide +kernel⟩, by decide +kernel, by decide +kernel, by decide +kernel,
      by decide +kernel⟩
  refine document_recovered ⟨by decide +kernel, by decide +kernel, ?_, by decide +kernel⟩ soap
  repeat' apply And.intro
  all_goals first
    | exact trivial
    | exact ⟨by decide +kernel, by decide +kernel, by decide +kernel, by decide +kernel⟩

/-- The limits without those on the length of names and of the text. -/
structure Counted (doc : Document) : Prop where
  elements : doc.tree.size ≤ maxElements
  depth : doc.tree.depth ≤ maxDepth
  tags : doc.tree.All fun tag =>
    (∀ attr ∈ tag.attrs, attr.name.all nameChar = true) ∧ tag.name.all nameChar = true ∧
      tag.kept.length ≤ maxAttrs ∧ (tag.kept.map Attr.name).Nodup

/-- An action with a name of 129 characters. -/
def longName : Document := request ⟨List.replicate 129 'a', [], false⟩ (.last [])

/-- An action with a long text. -/
def longText : Document := request (plainTag "a") (.last (List.replicate maxJson 'x'))

/-- An action with two elements of one name. -/
def twins : Document :=
  request (plainTag "a") (.node [] (plainTag "b") (.last ['1'])
    (.node [] (plainTag "b") (.last ['2']) (.last [])))

theorem inner_shorter (gap : Text) {tag : Tag} (long : tag.short = false) (inner after : Tree) :
    (render inner).length < (render (.node gap tag inner after)).length := by
  have whole := render_node_length gap tag inner after
  have behind : behindTag tag inner [] = render inner ++ '<' :: '/' :: (tag.name ++ ['>']) := by
    rw [behindTag, long, Bool.false_and, if_neg Bool.false_ne_true]
  rw [behind, List.length_append] at whole
  omega

theorem after_shorter (gap : Text) (tag : Tag) (inner after : Tree) :
    (render after).length < (render (.node gap tag inner after)).length := by
  have whole := render_node_length gap tag inner after
  omega

theorem content_shorter (name : String) (content : Tree) :
    (render content).length < (render (request (plainTag name) content).tree).length :=
  calc (render content).length
    _ < _ := inner_shorter [] rfl content (.last [])
    _ < _ := inner_shorter ['\n'] rfl (.node [] (plainTag name) content (.last [])) (.last [])
    _ < _ := after_shorter [] _ (.last []) _
    _ < _ := inner_shorter [] rfl _ (.last [])

theorem text_shorter (name : String) (text : Text) :
    text.length < (render (request (plainTag name) (.last text)).tree).length := by
  have whole := content_shorter name (.last text)
  rw [show render (.last text) = escaped text by rw [render]] at whole
  exact Nat.lt_of_le_of_lt (escaped_length text) whole

theorem longText_long : maxJson < (render longText.tree).length := by
  have long := text_shorter "a" (List.replicate maxJson 'x')
  rw [List.length_replicate] at long
  rw [longText]
  exact long

/-- Within the numbers of elements, levels and attributes, a long name and a long text are
refused, and a text whose element has a twin is not given. -/
theorem long_and_twin_refused :
    (Counted longName ∧ Soap longName.rows 2 3 ∧ parseXml (render longName.tree) = none) ∧
    (Counted longText ∧ Soap longText.rows 2 3 ∧ parseXml (render longText.tree) = none) ∧
    Counted twins ∧ Soap twins.rows 2 3 ∧
      ∃ d, parseXml (render twins.tree) = some d ∧ textValue d (some 3) "b" 16 = none := by
  refine ⟨⟨?_, ⟨⟨_, rfl, by decide +kernel⟩, by decide +kernel, by decide +kernel, by decide +kernel,
      by decide +kernel⟩, by decide +kernel⟩,
    ⟨?_, ⟨⟨_, rfl, by decide +kernel⟩, by decide +kernel, by decide +kernel, by decide +kernel,
      by decide +kernel⟩, ?_⟩,
    ?_, ⟨⟨_, rfl, by decide +kernel⟩, by decide +kernel, by decide +kernel, by decide +kernel,
      by decide +kernel⟩, ?_⟩
  · refine ⟨by decide +kernel, by decide +kernel, ?_⟩
    repeat' apply And.intro
    all_goals first | exact trivial | decide +kernel
  · refine ⟨by decide +kernel, by decide +kernel, ?_⟩
    repeat' apply And.intro
    all_goals first | exact trivial | decide +kernel
  · unfold parseXml
    rw [if_pos longText_long]
    rfl
  · refine ⟨by decide +kernel, by decide +kernel, ?_⟩
    repeat' apply And.intro
    all_goals first | exact trivial | decide +kernel
  · exact ⟨_, rfl, by decide +kernel⟩

end JooanW3U.Media.OnvifTree

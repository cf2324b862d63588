import JooanW3U.Library.QuotedText
import Mathlib.Tactic.SplitIfs

/-!
Owns how the system service reads the members of a JSON request: `json_field` and
`json_true`, and the objects of string and boolean members that they are given. Main
result: both answer for the member exactly when the first place where the quoted key
stands in the text is the member's name, and no line break is at its colon.

Does not own objects with escape sequences, numbers or nested values. The body is a C
string: the byte behind it is NUL, and `len` is its length.
-/

namespace JooanW3U.Daemon.RequestFields

open JooanW3U.Library.QuotedText

abbrev Text := List Char

def isBlank (c : Char) : Bool := c = ' ' || c = '\t'

/-! ### The reader -/

/-- What both functions read of a member: the text behind its colon. -/
def behindColon (text : Text) : Option Text :=
  match text.dropWhile isBlank with
  | ':' :: rest => some (rest.dropWhile isBlank)
  | _ => none

/-- The string that a text begins with, unless a backslash is in it. -/
def stringAt (cap : Nat) (text : Text) : Option Text :=
  match text with
  | '"' :: value =>
      let content := value.takeWhile fun c => c ≠ '"' && c ≠ '\\'
      if (value.drop content.length).head? = some '"' ∧ content.length + 1 ≤ cap
        then some content else none
  | _ => none

def needle (key : Text) : Text := '"' :: (key ++ ['"'])

def json_field (body key : Text) (cap : Nat) : Option Text :=
  if (needle key).length ≥ 96 then none
  else do
    let rest ← behind (needle key) body
    let value ← behindColon rest
    stringAt cap value

def json_true (body key : Text) : Bool :=
  if (needle key).length ≥ 96 then false
  else ((behind (needle key) body).bind behindColon).any fun value =>
    "true".toList.isPrefixOf value

/-! ### Objects -/

/-- The characters of a JSON string without escape sequences. -/
structure Plain where
  chars : Text
  plain : ∀ c ∈ chars, c ≠ '"' ∧ c ≠ '\\' ∧ 32 ≤ c.toNat
deriving DecidableEq, Repr

/-- White space of JSON. -/
structure Spaces where
  chars : Text
  spaces : ∀ c ∈ chars, c = ' ' ∨ c = '\t' ∨ c = '\n' ∨ c = '\r'
deriving DecidableEq, Repr

inductive Value
  | string (text : Plain)
  | flag (value : Bool)
deriving DecidableEq, Repr

def Value.text : Value → Text
  | .string text => '"' :: (text.chars ++ ['"'])
  | .flag true => "true".toList
  | .flag false => "false".toList

structure Member where
  before : Spaces
  name : Plain
  beforeColon : Spaces
  afterColon : Spaces
  value : Value
  afterValue : Spaces
deriving DecidableEq, Repr

def Member.text (member : Member) : Text :=
  member.before.chars ++ '"' :: (member.name.chars ++ '"' :: (member.beforeColon.chars ++
    ':' :: (member.afterColon.chars ++ (member.value.text ++ member.afterValue.chars))))

def membersText : List Member → Text
  | [] => []
  | [member] => member.text
  | member :: next :: rest => member.text ++ ',' :: membersText (next :: rest)

/-- An object of string and boolean members with distinct names; `inner` is there when it has
no members. -/
structure Object where
  leading : Spaces
  inner : Spaces
  members : List Member
  trailing : Spaces
  distinct : (members.map fun member => member.name.chars).Nodup

def Object.text (object : Object) : Text :=
  object.leading.chars ++ '{' :: ((if object.members = [] then object.inner.chars
    else membersText object.members) ++ '}' :: object.trailing.chars)

def Object.member (object : Object) (key : Plain) : Option Member :=
  object.members.find? fun member => member.name.chars = key.chars

/-- The member's value, if it is a string. -/
def Object.string (object : Object) (key : Plain) : Option Text :=
  (object.member key).bind fun member =>
    match member.value with
    | .string text => some text.chars
    | .flag _ => none

def Object.isTrue (object : Object) (key : Plain) : Bool :=
  (object.member key).any fun member => member.value = .flag true

/-! ### The text as strings and gaps -/

/-- What follows a value, from its comma or the closing brace on. -/
def following (trailing : Spaces) : List Member → Text
  | [] => '}' :: trailing.chars
  | next :: _ => ',' :: next.before.chars

/-- The texts between the quotes, from the first name on. -/
def pieces (trailing : Spaces) : List Member → List Text
  | [] => []
  | member :: rest =>
      member.name.chars ::
        match member.value with
        | .string text =>
            (member.beforeColon.chars ++ ':' :: member.afterColon.chars) :: text.chars ::
              (member.afterValue.chars ++ following trailing rest) :: pieces trailing rest
        | .flag value =>
            (member.beforeColon.chars ++ ':' :: (member.afterColon.chars ++
              ((Value.flag value).text ++ (member.afterValue.chars ++ following trailing rest)))) ::
              pieces trailing rest

/-- What stands before the first quote. -/
def Object.opening (object : Object) : Text :=
  object.leading.chars ++ '{' ::
    match object.members with
    | [] => object.inner.chars ++ '}' :: object.trailing.chars
    | member :: _ => member.before.chars

theorem membersText_joined (trailing : Spaces) (member : Member) (rest : List Member) :
    membersText (member :: rest) ++ '}' :: trailing.chars =
      member.before.chars ++ '"' :: joined '"' (pieces trailing (member :: rest)) := by
  induction rest generalizing member with
  | nil =>
      cases value : member.value with
      | string text => simp [membersText, Member.text, pieces, following, value, Value.text, joined]
      | flag value' => simp [membersText, Member.text, pieces, following, value, joined]
  | cons next rest inductionHypothesis =>
      have later := inductionHypothesis next
      have more : pieces trailing (next :: rest) ≠ [] := List.cons_ne_nil _ _
      rw [membersText, List.append_assoc, List.cons_append, later]
      conv_rhs => rw [pieces]
      cases value : member.value with
      | string text =>
          rw [joined_cons _ (List.cons_ne_nil _ _), joined_cons _ (List.cons_ne_nil _ _),
            joined_cons _ (List.cons_ne_nil _ _), joined_cons _ more]
          simp [Member.text, following, value, Value.text]
      | flag value' =>
          rw [joined_cons _ (List.cons_ne_nil _ _), joined_cons _ more]
          simp [Member.text, following, value]

theorem Object.text_joined (object : Object) :
    object.text = joined '"' (object.opening :: pieces object.trailing object.members) := by
  unfold Object.text Object.opening
  cases shape : object.members with
  | nil => simp [pieces, joined]
  | cons member rest =>
      have more : pieces object.trailing (member :: rest) ≠ [] := List.cons_ne_nil _ _
      rw [if_neg (List.cons_ne_nil _ _), membersText_joined, joined_cons _ more]
      simp

/-- The characters that no string without escapes contains. -/
def Special (c : Char) : Prop := c = '"' ∨ c = '\\'

theorem Plain.unquoted (text : Plain) {c : Char} (special : Special c) : c ∉ text.chars := by
  intro listed
  rcases special with quote | backslash
  · exact (text.plain _ listed).1 quote
  · exact (text.plain _ listed).2.1 backslash

theorem Spaces.unquoted (text : Spaces) {c : Char} (special : Special c) : c ∉ text.chars := by
  intro listed
  have space := text.spaces _ listed
  rcases special with rfl | rfl
  · exact absurd space (by decide)
  · exact absurd space (by decide)

theorem Special.ne {c d : Char} (special : Special c) (quote : d ≠ '"') (backslash : d ≠ '\\') :
    c ≠ d := by
  rintro rfl
  exact special.elim quote backslash

theorem flag_unquoted (value : Bool) {c : Char} (special : Special c) :
    c ∉ (Value.flag value).text := by
  rcases special with rfl | rfl <;> cases value <;> decide

theorem following_unquoted (trailing : Spaces) (rest : List Member) {c : Char}
    (special : Special c) : c ∉ following trailing rest := by
  have brace := special.ne (d := '}') (by decide) (by decide)
  have comma := special.ne (d := ',') (by decide) (by decide)
  cases rest with
  | nil => simp [following, trailing.unquoted special, brace]
  | cons next rest => simp [following, next.before.unquoted special, comma]

theorem pieces_unquoted (trailing : Spaces) (members : List Member) {c : Char}
    (special : Special c) : ∀ piece ∈ pieces trailing members, c ∉ piece := by
  have colon := special.ne (d := ':') (by decide) (by decide)
  induction members with
  | nil => exact nofun
  | cons member rest inductionHypothesis =>
      have name := member.name.unquoted special
      have early := member.beforeColon.unquoted special
      have late := member.afterColon.unquoted special
      have after := member.afterValue.unquoted special
      have follows := following_unquoted trailing rest special
      rw [pieces]
      cases member.value with
      | string text =>
          refine List.forall_mem_cons.mpr ⟨name, List.forall_mem_cons.mpr ⟨?_,
            List.forall_mem_cons.mpr ⟨text.unquoted special,
              List.forall_mem_cons.mpr ⟨?_, inductionHypothesis⟩⟩⟩⟩
          · simp only [List.mem_append, List.mem_cons, early, late, colon, or_self,
              not_false_eq_true]
          · simp only [List.mem_append, after, follows, or_self, not_false_eq_true]
      | flag value =>
          refine List.forall_mem_cons.mpr ⟨name, List.forall_mem_cons.mpr ⟨?_, inductionHypothesis⟩⟩
          simp only [List.mem_append, List.mem_cons, early, late, colon,
            flag_unquoted value special, after, follows, or_self, not_false_eq_true]

theorem Object.opening_unquoted (object : Object) {c : Char} (special : Special c) :
    c ∉ object.opening := by
  have lead := object.leading.unquoted special
  have brace := special.ne (d := '{') (by decide) (by decide)
  have close := special.ne (d := '}') (by decide) (by decide)
  unfold Object.opening
  cases object.members with
  | nil =>
      simp only [List.mem_append, List.mem_cons, lead, brace, close, object.inner.unquoted special,
        object.trailing.unquoted special, or_self, not_false_eq_true]
  | cons member rest =>
      simp only [List.mem_append, List.mem_cons, lead, brace, member.before.unquoted special,
        or_self, not_false_eq_true]

/-- The search for a quoted key on the text is one on its pieces. -/
theorem Object.behind_needle (object : Object) (key : Plain) :
    behind (needle key.chars) object.text =
      (behindPiece key.chars (pieces object.trailing object.members)).map (joined '"') := by
  rw [object.text_joined]
  exact behind_joined (key.unquoted (.inl rfl)) (object.opening_unquoted (.inl rfl))
    (pieces_unquoted _ _ (.inl rfl))

/-! ### Reading behind a piece -/

/-- The string that `json_field` reads where `rest` are the pieces behind the quoted key: the
first piece is a colon among blanks, and a quoted piece follows. -/
def fieldAt : List Text → Option Text
  | gap :: value :: _ :: _ => if behindColon gap = some [] then some value else none
  | _ => none

/-- Whether `json_true` holds there. -/
def trueAt (rest : List Text) : Bool :=
  (rest.head?.bind behindColon).any fun literal => "true".toList.isPrefixOf literal

theorem fieldAt_none {gap : Text} {rest : List Text} (never : behindColon gap ≠ some []) :
    fieldAt (gap :: rest) = none := by
  cases rest with
  | nil => rfl
  | cons value rest =>
      cases rest with
      | nil => rfl
      | cons next rest => exact if_neg never

/-- What may stand behind a piece: nothing, or a quote. -/
def Ends (tail : Text) : Prop := tail = [] ∨ ∃ rest, tail = '"' :: rest

theorem joined_split (gap : Text) (rest : List Text) :
    ∃ tail, joined '"' (gap :: rest) = gap ++ tail ∧ Ends tail ∧
      tail = if rest = [] then [] else '"' :: joined '"' rest := by
  cases rest with
  | nil => exact ⟨[], (List.append_nil gap).symm, .inl rfl, rfl⟩
  | cons next rest => exact ⟨_, rfl, .inr ⟨_, rfl⟩, rfl⟩

theorem dropBlank_append (text : Text) {tail : Text} (ends : Ends tail) :
    (text ++ tail).dropWhile isBlank = text.dropWhile isBlank ++ tail := by
  have stays : tail.dropWhile isBlank = tail := by
    rcases ends with rfl | ⟨rest, rfl⟩ <;> rfl
  rw [List.dropWhile_append]
  split
  · rename_i empty
    rw [stays, List.isEmpty_iff.mp empty, List.nil_append]
  · rfl

/-- A colon is looked for in the piece only. -/
theorem behindColon_append (gap : Text) {tail : Text} (ends : Ends tail) :
    behindColon (gap ++ tail) = (behindColon gap).map (· ++ tail) := by
  unfold behindColon
  rw [dropBlank_append gap ends]
  cases gap.dropWhile isBlank with
  | nil => rcases ends with rfl | ⟨rest, rfl⟩ <;> rfl
  | cons c rest =>
      by_cases colon : c = ':'
      · subst colon
        exact congrArg some (dropBlank_append rest ends)
      · simp only [List.cons_append]
        split
        · rename_i shape
          exact absurd (List.cons.inj shape).1 colon
        · split
          · rename_i shape
            exact absurd (List.cons.inj shape).1 colon
          · rfl

theorem behindColon_subset {gap literal : Text} (found : behindColon gap = some literal) :
    literal ⊆ gap := by
  unfold behindColon at found
  split at found
  · rename_i rest shape
    cases found
    intro c listed
    have inRest := (List.dropWhile_sublist _).subset listed
    have inDropped : c ∈ gap.dropWhile isBlank := shape ▸ List.mem_cons_of_mem _ inRest
    exact (List.dropWhile_sublist _).subset inDropped
  · cases found

/-- A string is the next piece, if a quote follows that. -/
theorem stringAt_joined {value : Text} {rest : List Text}
    (unquoted : ∀ c, Special c → c ∉ value) (cap : Nat) :
    stringAt cap ('"' :: joined '"' (value :: rest)) =
      if rest ≠ [] ∧ value.length + 1 ≤ cap then some value else none := by
  obtain ⟨tail, shape, -, tail_eq⟩ := joined_split value rest
  have passes : ∀ c ∈ value, (c ≠ '"' && c ≠ '\\') = true := by
    intro c listed
    have quote : c ≠ '"' := fun same => unquoted c (.inl same) listed
    have backslash : c ≠ '\\' := fun same => unquoted c (.inr same) listed
    simp [quote, backslash]
  have content : (value ++ tail).takeWhile (fun c => c ≠ '"' && c ≠ '\\') = value := by
    rw [List.takeWhile_append_of_pos passes, tail_eq]
    split <;> simp
  rw [shape, stringAt]
  rw [content, List.drop_left, tail_eq]
  by_cases last : rest = []
  · simp [last]
  · simp [last]

/-- `json_field` behind the quoted key. -/
theorem field_joined {rest : List Text} (unquoted : ∀ piece ∈ rest, ∀ c, Special c → c ∉ piece)
    (cap : Nat) : (behindColon (joined '"' rest)).bind (stringAt cap) =
      (fieldAt rest).filter fun value => value.length + 1 ≤ cap := by
  cases rest with
  | nil => rfl
  | cons gap rest =>
      obtain ⟨tail, shape, ends, tail_eq⟩ := joined_split gap rest
      rw [shape, behindColon_append gap ends]
      cases found : behindColon gap with
      | none =>
          rw [fieldAt_none (by rw [found]; exact nofun)]
          rfl
      | some literal =>
          rw [Option.map_some, Option.bind_some]
          cases literal with
          | nil =>
              rw [List.nil_append, tail_eq]
              cases rest with
              | nil => rfl
              | cons value rest =>
                  rw [if_neg (List.cons_ne_nil _ _), stringAt_joined (unquoted value (by simp))]
                  cases rest with
                  | nil => simp [fieldAt]
                  | cons next rest => simp [fieldAt, found, Option.filter_some]
          | cons c literal =>
              have other : c ≠ '"' := by
                intro quote
                have inGap := behindColon_subset found List.mem_cons_self
                exact unquoted gap List.mem_cons_self c (.inl quote) inGap
              have refused : stringAt cap (c :: literal ++ tail) = none := by
                rw [List.cons_append]
                unfold stringAt
                split
                · rename_i shape'
                  exact absurd (List.cons.inj shape').1 other
                · rfl
              have never : behindColon gap ≠ some [] := by
                rw [found]
                exact fun same => List.cons_ne_nil _ _ (Option.some.inj same)
              rw [refused, fieldAt_none never]
              rfl

/-- A word without quotes is found in the piece only. -/
theorem prefix_of_ends {word text tail : Text} (plain : '"' ∉ word) (ends : Ends tail)
    (begins : word <+: text ++ tail) : word <+: text := by
  induction word generalizing text with
  | nil => exact List.nil_prefix
  | cons c word inductionHypothesis =>
      cases text with
      | nil =>
          rcases ends with rfl | ⟨rest, rfl⟩
          · exact absurd begins (by simp)
          · have quote := (List.cons_prefix_cons.mp begins).1
            exact absurd List.mem_cons_self (quote ▸ plain)
      | cons d text =>
          obtain ⟨same, onward⟩ := List.cons_prefix_cons.mp begins
          exact List.cons_prefix_cons.mpr ⟨same,
            inductionHypothesis (fun listed => plain (List.mem_cons_of_mem _ listed)) onward⟩

/-- `json_true` behind the quoted key. -/
theorem true_joined (rest : List Text) :
    ((behindColon (joined '"' rest)).any fun value => "true".toList.isPrefixOf value) =
      trueAt rest := by
  cases rest with
  | nil => rfl
  | cons gap rest =>
      obtain ⟨tail, shape, ends, -⟩ := joined_split gap rest
      rw [shape, behindColon_append gap ends, trueAt, List.head?_cons, Option.bind_some]
      cases behindColon gap with
      | none => rfl
      | some literal =>
          rw [Option.map_some, Option.any_some, Option.any_some, Bool.eq_iff_iff,
            List.isPrefixOf_iff_prefix, List.isPrefixOf_iff_prefix]
          constructor
          · exact prefix_of_ends (by decide) ends
          · intro begins
            exact begins.trans (List.prefix_append _ _)

/-- What both functions answer, by the pieces behind the quoted key. -/
theorem Object.json_field_eq (object : Object) (key : Plain) (short : key.chars.length < 94)
    (cap : Nat) : json_field object.text key.chars cap =
      ((behindPiece key.chars (pieces object.trailing object.members)).bind fieldAt).filter
        fun value => value.length + 1 ≤ cap := by
  have fits : ¬ (needle key.chars).length ≥ 96 := by
    rw [needle, List.length_cons, List.length_append, List.length_singleton]
    omega
  rw [json_field, if_neg fits, object.behind_needle]
  cases found : behindPiece key.chars (pieces object.trailing object.members) with
  | none => rfl
  | some rest =>
      have inside := (behindPiece_suffix found).subset
      exact field_joined (fun piece listed c special =>
        pieces_unquoted _ _ special piece (inside listed)) cap

theorem Object.json_true_eq (object : Object) (key : Plain) (short : key.chars.length < 94) :
    json_true object.text key.chars =
      (behindPiece key.chars (pieces object.trailing object.members)).any trueAt := by
  have fits : ¬ (needle key.chars).length ≥ 96 := by
    rw [needle, List.length_cons, List.length_append, List.length_singleton]
    omega
  rw [json_true, if_neg fits, object.behind_needle]
  cases behindPiece key.chars (pieces object.trailing object.members) with
  | none => rfl
  | some rest => exact true_joined rest

/-! ### Where the quoted key stands -/

/-- What the first occurrence of a quoted key in the text is: a member's name, a member's
value, or the text between two strings with the quotes beside it. -/
inductive Place
  | name
  | value
  | gap
deriving DecidableEq, Repr

/-- Whether no line break stands at the member's colon. -/
def Member.tight (member : Member) : Bool :=
  member.beforeColon.chars.all isBlank && member.afterColon.chars.all isBlank

/-- The first place of the quoted key, and the pieces behind it. -/
def place (key : Text) (trailing : Spaces) : List Member → Option (Place × List Text)
  | [] => none
  | member :: rest =>
      if member.name.chars = key then some (.name, (pieces trailing (member :: rest)).tail)
      else
        match member.value with
        | .string text =>
            if member.beforeColon.chars ++ ':' :: member.afterColon.chars = key then
              some (.gap, text.chars :: (member.afterValue.chars ++ following trailing rest) ::
                pieces trailing rest)
            else if text.chars = key then
              some (.value, (member.afterValue.chars ++ following trailing rest) ::
                pieces trailing rest)
            else if rest ≠ [] ∧ member.afterValue.chars ++ following trailing rest = key then
              some (.gap, pieces trailing rest)
            else place key trailing rest
        | .flag value =>
            if rest ≠ [] ∧ member.beforeColon.chars ++ ':' :: (member.afterColon.chars ++
                ((Value.flag value).text ++ (member.afterValue.chars ++ following trailing rest))) =
                  key then
              some (.gap, pieces trailing rest)
            else place key trailing rest

theorem behindPiece_last {key piece : Text} {trailing : Spaces} {rest : List Member} :
    behindPiece key (piece :: pieces trailing rest) =
      if rest ≠ [] ∧ piece = key then some (pieces trailing rest)
      else behindPiece key (pieces trailing rest) := by
  cases rest with
  | nil => rfl
  | cons next rest =>
      rw [pieces, behindPiece]
      by_cases same : piece = key
      · rw [if_pos same, if_pos ⟨List.cons_ne_nil _ _, same⟩]
      · rw [if_neg same, if_neg fun both => same both.2]

theorem behindPiece_pieces (key : Text) (trailing : Spaces) (members : List Member) :
    behindPiece key (pieces trailing members) = (place key trailing members).map Prod.snd := by
  induction members with
  | nil => rfl
  | cons member rest inductionHypothesis =>
      rw [place, pieces]
      cases member.value with
      | string text =>
          dsimp only [List.tail_cons]
          rw [behindPiece, behindPiece, behindPiece, behindPiece_last, inductionHypothesis]
          split_ifs <;> rfl
      | flag value =>
          dsimp only [List.tail_cons]
          rw [behindPiece, behindPiece_last, inductionHypothesis]
          split_ifs <;> rfl

/-- One member is passed over, or has the place in it. -/
theorem place_cons (key : Text) (trailing : Spaces) (member : Member) (rest : List Member) :
    (member.name.chars = key ∧ place key trailing (member :: rest) =
      some (.name, (pieces trailing (member :: rest)).tail)) ∨
    (member.name.chars ≠ key ∧
      (place key trailing (member :: rest) = place key trailing rest ∨
        (∃ behind, place key trailing (member :: rest) = some (.gap, behind)) ∨
        place key trailing (member :: rest) = some (.value,
          (member.afterValue.chars ++ following trailing rest) :: pieces trailing rest))) := by
  rw [place]
  by_cases same : member.name.chars = key
  · exact .inl ⟨same, if_pos same⟩
  · rw [if_neg same]
    refine .inr ⟨same, ?_⟩
    cases member.value with
    | string text =>
        dsimp only
        split_ifs
        · exact .inr (.inl ⟨_, rfl⟩)
        · exact .inr (.inr rfl)
        · exact .inr (.inl ⟨_, rfl⟩)
        · exact .inl rfl
    | flag value =>
        dsimp only
        split_ifs
        · exact .inr (.inl ⟨_, rfl⟩)
        · exact .inl rfl

theorem place_none {key : Text} {trailing : Spaces} {members : List Member}
    (nowhere : place key trailing members = none) :
    ∀ member ∈ members, member.name.chars ≠ key := by
  induction members with
  | nil => exact nofun
  | cons member rest inductionHypothesis =>
      rcases place_cons key trailing member rest with
        ⟨-, here⟩ | ⟨other, passed | ⟨behind, here⟩ | here⟩
      · rw [here] at nowhere
        cases nowhere
      · exact List.forall_mem_cons.mpr ⟨other, inductionHypothesis (passed ▸ nowhere)⟩
      · rw [here] at nowhere
        cases nowhere
      · rw [here] at nowhere
        cases nowhere

theorem place_name {key : Text} {trailing : Spaces} {members : List Member} {behind : List Text}
    (found : place key trailing members = some (.name, behind)) :
    ∃ member ∈ members, ∃ late, member.name.chars = key ∧
      behind = (pieces trailing (member :: late)).tail := by
  induction members with
  | nil => cases found
  | cons member rest inductionHypothesis =>
      rcases place_cons key trailing member rest with
        ⟨same, here⟩ | ⟨-, passed | ⟨other, here⟩ | here⟩
      · rw [here] at found
        cases found
        exact ⟨member, List.mem_cons_self, rest, same, rfl⟩
      · obtain ⟨later, listed, late, facts⟩ := inductionHypothesis (passed ▸ found)
        exact ⟨later, List.mem_cons_of_mem _ listed, late, facts⟩
      · rw [here] at found
        cases found
      · rw [here] at found
        cases found

theorem place_value {key : Text} {trailing : Spaces} {members : List Member} {behind : List Text}
    (found : place key trailing members = some (.value, behind)) :
    ∃ (member : Member) (late : List Member),
      behind = (member.afterValue.chars ++ following trailing late) :: pieces trailing late := by
  induction members with
  | nil => cases found
  | cons member rest inductionHypothesis =>
      rcases place_cons key trailing member rest with
        ⟨-, here⟩ | ⟨-, passed | ⟨other, here⟩ | here⟩
      · rw [here] at found
        cases found
      · exact inductionHypothesis (passed ▸ found)
      · rw [here] at found
        cases found
      · rw [here] at found
        cases found
        exact ⟨member, rest, rfl⟩

/-! ### What is read there -/

/-- Blanks are skipped up to the first line break among white space, or to what follows it. -/
theorem Spaces.dropBlank (spaces : Spaces) (rest : Text) :
    if spaces.chars.all isBlank
      then (spaces.chars ++ rest).dropWhile isBlank = rest.dropWhile isBlank
      else ∃ c more, (spaces.chars ++ rest).dropWhile isBlank = c :: more ∧ (c = '\n' ∨ c = '\r') := by
  obtain ⟨chars, space⟩ := spaces
  dsimp only
  induction chars with
  | nil => exact rfl
  | cons c chars inductionHypothesis =>
      have later := inductionHypothesis fun d listed => space d (List.mem_cons_of_mem _ listed)
      rw [List.cons_append, List.dropWhile_cons, List.all_cons]
      by_cases blank : isBlank c = true
      · rw [if_pos blank, blank, Bool.true_and]
        exact later
      · rw [if_neg blank, Bool.eq_false_iff.mpr blank, Bool.false_and, if_neg (by decide)]
        refine ⟨c, _, rfl, ?_⟩
        rcases space c List.mem_cons_self with rfl | rfl | rfl | rfl
        · exact absurd rfl blank
        · exact absurd rfl blank
        · exact .inl rfl
        · exact .inr rfl

/-- Behind a member's name, both functions get to the value, or to a line break. -/
theorem Member.behindColon_gap (member : Member) {rest : Text}
    (black : rest.dropWhile isBlank = rest) :
    if member.tight
      then behindColon (member.beforeColon.chars ++ ':' :: (member.afterColon.chars ++ rest)) =
        some rest
      else ∀ literal,
        behindColon (member.beforeColon.chars ++ ':' :: (member.afterColon.chars ++ rest)) =
          some literal → ∃ c more, literal = c :: more ∧ (c = '\n' ∨ c = '\r') := by
  have early := member.beforeColon.dropBlank (':' :: (member.afterColon.chars ++ rest))
  have late := member.afterColon.dropBlank rest
  unfold Member.tight behindColon
  by_cases first : member.beforeColon.chars.all isBlank = true
  · rw [if_pos first, List.dropWhile_cons_of_neg (by decide)] at early
    rw [early, first, Bool.true_and]
    by_cases second : member.afterColon.chars.all isBlank = true
    · rw [if_pos second, black] at late
      rw [if_pos second]
      exact congrArg some late
    · rw [if_neg second] at late
      rw [if_neg second]
      intro literal same
      cases same
      exact late
  · rw [if_neg first] at early
    obtain ⟨c, more, stopped, breaks⟩ := early
    rw [Bool.eq_false_iff.mpr first, Bool.false_and, if_neg (by decide), stopped]
    intro literal same
    rcases breaks with rfl | rfl <;> cases same

/-- Behind a value there is no colon. -/
theorem behindColon_value (member : Member) (trailing : Spaces) (late : List Member) :
    behindColon (member.afterValue.chars ++ following trailing late) = none := by
  have after := member.afterValue.dropBlank (following trailing late)
  unfold behindColon
  by_cases blank : member.afterValue.chars.all isBlank = true
  · rw [if_pos blank] at after
    rw [after]
    cases late with
    | nil => rfl
    | cons next late => rfl
  · rw [if_neg blank] at after
    obtain ⟨c, more, stopped, breaks⟩ := after
    rw [stopped]
    rcases breaks with rfl | rfl <;> rfl

/-- A line break is not the beginning of `true`. -/
theorem break_not_true {literal : Text}
    (breaks : ∃ c more, literal = c :: more ∧ (c = '\n' ∨ c = '\r')) :
    literal ≠ [] ∧ "true".toList.isPrefixOf literal = false := by
  obtain ⟨c, more, rfl, either⟩ := breaks
  refine ⟨List.cons_ne_nil _ _, ?_⟩
  rcases either with rfl | rfl <;> rfl

/-- What is read behind the name of a member. -/
theorem read_name (member : Member) (trailing : Spaces) (late : List Member) :
    fieldAt (pieces trailing (member :: late)).tail =
      (match member.value with
        | .string text => if member.tight then some text.chars else none
        | .flag _ => none) ∧
    trueAt (pieces trailing (member :: late)).tail =
      (member.tight && member.value = .flag true) := by
  rw [pieces, List.tail_cons]
  cases value : member.value with
  | string text =>
      have gap := @Member.behindColon_gap member [] rfl
      rw [List.append_nil] at gap
      dsimp only
      rw [fieldAt, trueAt, List.head?_cons, Option.bind_some]
      by_cases tight : member.tight = true
      · rw [if_pos tight] at gap
        rw [gap, if_pos rfl, if_pos tight]
        exact ⟨rfl, by simp⟩
      · rw [if_neg tight] at gap
        have never : behindColon (member.beforeColon.chars ++ ':' :: member.afterColon.chars) ≠
            some [] := fun same => (break_not_true (gap _ same)).1 rfl
        rw [if_neg never, if_neg tight]
        refine ⟨rfl, ?_⟩
        cases found : behindColon (member.beforeColon.chars ++ ':' :: member.afterColon.chars) with
        | none => simp
        | some literal => simpa using (break_not_true (gap _ found)).2
  | flag flag =>
      have black : ((Value.flag flag).text ++ (member.afterValue.chars ++
          following trailing late)).dropWhile isBlank = (Value.flag flag).text ++
            (member.afterValue.chars ++ following trailing late) := by
        cases flag <;> rfl
      have gap := member.behindColon_gap black
      dsimp only
      rw [trueAt, List.head?_cons, Option.bind_some]
      by_cases tight : member.tight = true
      · rw [if_pos tight] at gap
        have full : (Value.flag flag).text ++
            (member.afterValue.chars ++ following trailing late) ≠ [] := by
          cases flag <;> exact List.cons_ne_nil _ _
        constructor
        · apply fieldAt_none
          rw [gap]
          exact fun same => full (Option.some.inj same)
        · rw [gap, Option.any_some, tight, Bool.true_and]
          cases flag <;> rfl
      · rw [if_neg tight] at gap
        constructor
        · exact fieldAt_none fun same => (break_not_true (gap _ same)).1 rfl
        · rw [Bool.eq_false_iff.mpr tight, Bool.false_and]
          cases found : behindColon (member.beforeColon.chars ++ ':' :: (member.afterColon.chars ++
              ((Value.flag flag).text ++ (member.afterValue.chars ++ following trailing late)))) with
          | none => rfl
          | some literal => exact (break_not_true (gap _ found)).2

/-! ### The member -/

theorem Object.member_eq (object : Object) (key : Plain) {member : Member}
    (listed : member ∈ object.members) (named : member.name.chars = key.chars) :
    object.member key = some member := by
  have distinct := object.distinct
  unfold Object.member
  generalize object.members = members at listed distinct
  induction members with
  | nil => cases listed
  | cons first rest inductionHypothesis =>
      obtain ⟨fresh, distinctRest⟩ := List.nodup_cons.mp distinct
      rcases List.mem_cons.mp listed with rfl | later
      · rw [List.find?_cons_of_pos (by simpa using named)]
      · have other : first.name.chars ≠ key.chars := by
          intro same
          have again : first.name.chars ∈ rest.map fun member => member.name.chars := by
            rw [same, ← named]
            exact List.mem_map_of_mem later
          exact fresh again
        rw [List.find?_cons_of_neg (by simpa using other)]
        exact inductionHypothesis later distinctRest

/-- The member is a string, or `true`: one of the functions has something to say about it. -/
def Object.Wanted (object : Object) (key : Plain) : Prop :=
  object.string key ≠ none ∨ object.isTrue key = true

/-- When the reader gets to the member. What matters is the first place in the text where the
key stands in quotes, the member's name or not. -/
def Object.Reached (object : Object) (key : Plain) : Prop :=
  if 94 ≤ key.chars.length then ¬ object.Wanted key
  else
    match place key.chars object.trailing object.members with
    | none => True
    | some (.name, _) =>
        ∀ member, object.member key = some member → member.value = .flag false ∨ member.tight = true
    | some (.value, _) => ¬ object.Wanted key
    | some (.gap, behind) => fieldAt behind = object.string key ∧ trueAt behind = object.isTrue key

/-- `json_field` gives the member's string if it fits, and nothing for any other member or none;
`json_true` says whether the member is `true`. -/
def Object.Answered (object : Object) (key : Plain) : Prop :=
  (∀ cap, json_field object.text key.chars cap =
    (object.string key).filter fun value => value.length + 1 ≤ cap) ∧
  json_true object.text key.chars = object.isTrue key

theorem filter_room_iff (first second : Option Text) :
    (∀ cap, (first.filter fun value => value.length + 1 ≤ cap) =
      second.filter fun value => value.length + 1 ≤ cap) ↔ first = second := by
  constructor
  · intro same
    have keeps : ∀ found : Option Text, ∀ cap, (∀ value ∈ found, value.length + 1 ≤ cap) →
        (found.filter fun value => value.length + 1 ≤ cap) = found := by
      intro found cap room
      cases found with
      | none => rfl
      | some value => exact if_pos (by simpa using room value rfl)
    have large := same (((first.map List.length).getD 0) + ((second.map List.length).getD 0) + 1)
    rw [keeps first _ (by rintro value rfl; simp),
      keeps second _ (by rintro value rfl; simp)] at large
    exact large
  · intro same cap
    rw [same]

/-- Nothing is wanted exactly when both functions have to refuse. -/
theorem Object.not_wanted_iff (object : Object) (key : Plain) :
    ¬ object.Wanted key ↔ none = object.string key ∧ false = object.isTrue key := by
  unfold Object.Wanted
  cases object.string key <;> cases object.isTrue key <;> simp

/-- The functions answer for the member exactly when the reader gets to it. -/
theorem answered_iff_reached (object : Object) (key : Plain) :
    object.Answered key ↔ object.Reached key := by
  unfold Object.Answered Object.Reached
  by_cases long : 94 ≤ key.chars.length
  · have tooLong : (needle key.chars).length ≥ 96 := by
      rw [needle, List.length_cons, List.length_append, List.length_singleton]
      omega
    have refused := filter_room_iff none (object.string key)
    rw [if_pos long, object.not_wanted_iff, ← refused, json_true, if_pos tooLong]
    simp only [json_field, if_pos tooLong]
    rfl
  · have short : key.chars.length < 94 := by omega
    rw [if_neg long, object.json_true_eq key short]
    simp only [object.json_field_eq key short, filter_room_iff]
    rw [behindPiece_pieces]
    cases found : place key.chars object.trailing object.members with
    | none =>
        have absent : object.member key = none := by
          apply List.find?_eq_none.mpr
          intro member listed
          simpa using place_none found member listed
        simp [Object.string, Object.isTrue, absent]
    | some here =>
        obtain ⟨kind, behind⟩ := here
        rw [Option.map_some, Option.bind_some, Option.any_some]
        cases kind with
        | name =>
            obtain ⟨member, listed, late, named, rfl⟩ := place_name found
            have its := object.member_eq key listed named
            obtain ⟨field, isTrue⟩ := read_name member object.trailing late
            rw [field, isTrue, Object.string, Object.isTrue, its, Option.bind_some, Option.any_some]
            cases value : member.value with
            | string text => cases tight : member.tight <;> simp [value, tight]
            | flag flag => cases flag <;> cases tight : member.tight <;> simp [value, tight]
        | value =>
            obtain ⟨member, late, rfl⟩ := place_value found
            have none := behindColon_value member object.trailing late
            rw [fieldAt_none (by rw [none]; exact nofun), trueAt, List.head?_cons, Option.bind_some,
              none, Option.any_none]
            exact (object.not_wanted_iff key).symm
        | gap => exact Iff.rfl

def noSpaces : Spaces := ⟨[], nofun⟩

/-- A string member with its name, written without white space. -/
def sampleMember (name value : Plain) : Member :=
  ⟨noSpaces, name, noSpaces, noSpaces, .string value, noSpaces⟩

theorem plain_of_all {text : Text}
    (all : (text.all fun c => decide (c ≠ '"' ∧ c ≠ '\\' ∧ 32 ≤ c.toNat)) = true) :
    ∀ c ∈ text, c ≠ '"' ∧ c ≠ '\\' ∧ 32 ≤ c.toNat :=
  fun c listed => of_decide_eq_true (List.all_eq_true.mp all c listed)

def usernameKey : Plain := ⟨"username".toList, plain_of_all (by decide +kernel)⟩
def passwordKey : Plain := ⟨"password".toList, plain_of_all (by decide +kernel)⟩

/-- The login of a user who is called `password`. -/
def sampleLogin : Object where
  leading := noSpaces
  inner := noSpaces
  members := [sampleMember usernameKey passwordKey,
    sampleMember passwordKey ⟨"secret".toList, plain_of_all (by decide +kernel)⟩]
  trailing := noSpaces
  distinct := by decide

/-- The password is in the object, and not found. -/
theorem password_not_found :
    sampleLogin.text = "\x7b\"username\":\"password\",\"password\":\"secret\"\x7d".toList ∧
      sampleLogin.string passwordKey = some "secret".toList ∧
      json_field sampleLogin.text passwordKey.chars 256 = none ∧
      ¬ sampleLogin.Answered passwordKey := by
  have text : sampleLogin.text =
      "\x7b\"username\":\"password\",\"password\":\"secret\"\x7d".toList := by decide +kernel
  have member : sampleLogin.string passwordKey = some "secret".toList := by decide +kernel
  have refused : json_field sampleLogin.text passwordKey.chars 256 = none := by decide +kernel
  refine ⟨text, member, refused, fun answered => ?_⟩
  have found := answered.1 256
  rw [refused, member] at found
  exact absurd found (by decide +kernel)

end JooanW3U.Daemon.RequestFields

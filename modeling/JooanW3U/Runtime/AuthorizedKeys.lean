import JooanW3U.Library.Lines
import JooanW3U.Library.Runs
import Mathlib.Data.List.Nodup

/-!
Owns the file `authorized_keys` over any order of requests: what `ssh-add` and `ssh-delete`
of the integration helper write.  Main result: exactly which requests break the list of at
most eight different keys, one a line.

Does not own the SSH server that reads the list.  The helper's commands succeed.
-/

namespace JooanW3U.Runtime.AuthorizedKeys

open JooanW3U.Library
open JooanW3U.Library.Lines (lines written lines_written lines_of_written)

abbrev Text := List Char

def NUL : Char := '\x00'

/-- `$(…)`: what a command prints without NULs, and without the newlines at its end. -/
def substituted (output : Text) : Text := (output.filter (· ≠ NUL)).rdropWhile (· = '\n')

/-- `config/ssh` and `authorized_keys` in it. -/
structure Files where
  directory : Bool
  keys : Option Text
  deriving Repr, DecidableEq

def Files.text (files : Files) : Text := files.keys.getD []

/-- The lines of the file. -/
def Files.lines (files : Files) : List Text := Lines.lines '\n' files.text

/-- The lines that `grep .` lets through. -/
def grepDot (text : Text) : List Text := (Lines.lines '\n' text).filter (· ≠ [])

/-- `awk 'NR!=n'`, from this line number on. -/
def exceptLine (n : Nat) : Nat → List Text → List Text
  | _, [] => []
  | nr, line :: rest =>
      if nr ≠ n then line :: exceptLine n (nr + 1) rest else exceptLine n (nr + 1) rest

/-- The pattern `*part*`. -/
def containsPart (part text : Text) : Bool := text.tails.any part.isPrefixOf

def KEY : Text := "ssh-ed25519 ".toList

section Awk

/- The characters that part words for `awk`, and its `$2 == b` for a `b` given by `-v`. -/
variable (blank : Char → Bool) (same : Text → Text → Bool)

/-- `$2`. -/
def second (line : Text) : Text :=
  (((line.dropWhile blank).dropWhile fun c => !blank c).dropWhile blank).takeWhile fun c => !blank c

/-- The words that `awk '{print $2}'` prints for the key. -/
def blobOf (key : Text) : Text :=
  substituted (written '\n' ((lines '\n' (key ++ ['\n'])).map (second blank)))

/-- The key gets as far as the list: it begins as it must, and the second `case` lets it. -/
def passes (key : Text) : Bool :=
  KEY.isPrefixOf key && !(containsPart "\\n".toList key || containsPart "\\r".toList key)

/-- `awk` finds the key in the file. -/
def present (files : Files) (key : Text) : Bool :=
  files.lines.any fun line => same (second blank line) (blobOf blank key)

/-- `ssh-add`, with the exit status. -/
def ssh_add (body : Text) (files : Files) : Files × Nat :=
  let key := substituted body
  if !passes key then (files, 1)
  else if files.keys.isSome && present blank same files key then
    ({ files with directory := true }, 0)
  else if files.keys.isSome && 8 ≤ (grepDot files.text).length then
    ({ files with directory := true }, 1)
  else
    ({ directory := true
       keys := some (written '\n' (grepDot files.text) ++ (key ++ ['\n'])) }, 0)

/-- `ssh-delete`, with the exit status. -/
def ssh_delete (id : Text) (files : Files) : Files × Nat :=
  if id = "all".toList then
    if files.directory then ({ files with keys := some [] }, 0) else (files, 1)
  else
    match id with
    | [c] =>
        if '1' ≤ c ∧ c ≤ '8' then
          match files.keys with
          | none => (files, 1)
          | some text =>
              ({ files with
                  keys := some (written '\n' (exceptLine (c.toNat - 48) 1 (grepDot text))) }, 0)
        else (files, 2)
    | _ => (files, 2)

/-- Requests to the web server; a body longer than 16384 bytes is not staged. -/
inductive Request
  | add (body : Option Text)
  | delete (id : Text)
  deriving Repr, DecidableEq

def step (files : Files) : Request → Files
  | .add none => files
  | .add (some body) => if 16384 < body.length then files else (ssh_add blank same body files).1
  | .delete id => (ssh_delete id files).1

/-- No key was ever added. -/
def start : Files := ⟨false, none⟩

/-! ### What is asked of the list -/

/-- At most eight lines, each a key, no key twice. -/
structure Good (files : Files) : Prop where
  count : files.lines.length ≤ 8
  keys : ∀ line ∈ files.lines, KEY <+: line
  distinct : (files.lines.map (second blank)).Nodup

/-- What a request may do to the file. -/
def Changes (files after : Files) : Request → Prop
  | .add _ =>
      after.keys = files.keys ∨
        ∃ line, '\n' ∉ line ∧ after.keys = some (files.text ++ (line ++ ['\n']))
  | .delete id =>
      (id = "all".toList → after.lines = []) ∧
      (∀ c, id = [c] → '1' ≤ c → c ≤ '8' → after.lines = files.lines.eraseIdx (c.toNat - 49)) ∧
      (id ≠ "all".toList → (∀ c, id = [c] → ¬('1' ≤ c ∧ c ≤ '8')) → after = files)

/-- The list is good after the request, and has changed as it may. -/
def Lawful (files : Files) (request : Request) : Prop :=
  Good blank (step blank same files request) ∧
    Changes files (step blank same files request) request

/-- The body is written to the file. -/
def stores (files : Files) (body : Text) : Bool :=
  decide (body.length ≤ 16384) && passes (substituted body) &&
    !(files.keys.isSome && present blank same files (substituted body)) &&
    !(files.keys.isSome && decide (8 ≤ (grepDot files.text).length))

/-- A body is written that is more than one line, or whose key is there already but is not
found equal to itself. -/
def slips (files : Files) : Request → Bool
  | .add (some body) =>
      stores blank same files body &&
        (decide ('\n' ∈ substituted body) ||
          (!same (second blank (substituted body)) (second blank (substituted body)) &&
            files.lines.any fun line => second blank line == second blank (substituted body)))
  | _ => false

/-! ### What the words are -/

variable {blank : Char → Bool} {same : Text → Text → Bool}

theorem mem_of_mem_second {c : Char} {line : Text} (listed : c ∈ second blank line) : c ∈ line :=
  (List.dropWhile_sublist _).subset ((List.dropWhile_sublist _).subset
    ((List.dropWhile_sublist _).subset ((List.takeWhile_sublist _).subset listed)))

theorem substituted_no_nul (output : Text) : NUL ∉ substituted output := by
  intro listed
  have kept := (List.rdropWhile_prefix _ _).subset listed
  simp at kept

theorem written_singleton (line : Text) : written '\n' [line] = line ++ ['\n'] := by
  simp [written]

theorem written_append (ls : List Text) (line : Text) :
    written '\n' (ls ++ [line]) = written '\n' ls ++ (line ++ ['\n']) := by
  simp [written]

/-- Of a key that is one line `awk` prints the second word. -/
theorem blobOf_line {key : Text} (unbroken : '\n' ∉ key) (nul : NUL ∉ key) :
    blobOf blank key = second blank key := by
  have one : lines '\n' (key ++ ['\n']) = [key] := by
    rw [← written_singleton]
    exact lines_of_written fun line listed => by rw [List.mem_singleton.mp listed]; exact unbroken
  have wordUnbroken : '\n' ∉ second blank key := fun listed => unbroken (mem_of_mem_second listed)
  have wordNul : NUL ∉ second blank key := fun listed => nul (mem_of_mem_second listed)
  have printed : (second blank key ++ ['\n']).filter (· ≠ NUL) = second blank key ++ ['\n'] := by
    apply List.filter_eq_self.mpr
    intro c listed
    apply decide_eq_true
    rintro rfl
    rcases List.mem_append.mp listed with word | last
    · exact wordNul word
    · exact absurd last (by decide)
  rw [blobOf, one, List.map_singleton, written_singleton, substituted, printed,
    List.rdropWhile_concat_pos _ _ _ (by decide)]
  apply List.rdropWhile_eq_self_iff.mpr
  intro more ends
  have last : (second blank key).getLast more = '\n' := by simpa using ends
  exact wordUnbroken (last ▸ List.getLast_mem more)

theorem exceptLine_eq (n nr : Nat) (ls : List Text) :
    exceptLine n nr ls = if nr ≤ n then ls.eraseIdx (n - nr) else ls := by
  induction ls generalizing nr with
  | nil => simp [exceptLine]
  | cons line ls inductionHypothesis =>
      rw [exceptLine, inductionHypothesis]
      by_cases here : nr = n
      · have passed : ¬nr + 1 ≤ n := by omega
        rw [if_neg (not_not.mpr here), if_neg passed, if_pos (Nat.le_of_eq here), here, Nat.sub_self,
          List.eraseIdx_cons_zero]
      · rw [if_pos here]
        by_cases before : nr ≤ n
        · have later : nr + 1 ≤ n := Nat.lt_of_le_of_ne before here
          have next : n - nr = n - (nr + 1) + 1 := by omega
          rw [if_pos later, if_pos before, next, List.eraseIdx_cons_succ]
        · have passed : ¬nr + 1 ≤ n := by omega
          rw [if_neg passed, if_neg before]

/-! ### The file and its lines -/

variable (blank)

/-- The file holds these lines, which are good. -/
structure Holds (files : Files) (ls : List Text) : Prop where
  text : files.text = written '\n' ls
  unbroken : ∀ line ∈ ls, '\n' ∉ line
  keys : ∀ line ∈ ls, KEY <+: line
  count : ls.length ≤ 8
  distinct : (ls.map (second blank)).Nodup
  placed : files.keys.isSome = true → files.directory = true

variable {blank}

namespace Holds

variable {files : Files} {ls : List Text}

theorem lines (holds : Holds blank files ls) : files.lines = ls := by
  rw [Files.lines, holds.text, lines_of_written holds.unbroken]

theorem good (holds : Holds blank files ls) : Good blank files where
  count := holds.lines.symm ▸ holds.count
  keys := holds.lines.symm ▸ holds.keys
  distinct := holds.lines.symm ▸ holds.distinct

theorem grepDot (holds : Holds blank files ls) : grepDot files.text = ls := by
  rw [AuthorizedKeys.grepDot, holds.text, lines_of_written holds.unbroken]
  apply List.filter_eq_self.mpr
  intro line listed
  apply decide_eq_true
  rintro rfl
  exact absurd (holds.keys [] listed) (by decide)

/-- Only a file can hold lines. -/
theorem exists_of_mem (holds : Holds blank files ls) {line : Text} (listed : line ∈ ls) :
    files.keys.isSome = true := by
  cases found : files.keys with
  | some text => rfl
  | none =>
      have empty : files.lines = [] := by rw [Files.lines, Files.text, found]; rfl
      rw [holds.lines] at empty
      rw [empty] at listed
      contradiction

theorem start : Holds blank AuthorizedKeys.start [] where
  text := rfl
  unbroken := by simp
  keys := by simp
  count := Nat.zero_le 8
  distinct := List.nodup_nil
  placed := fun found => absurd found (by decide)

end Holds

/-! ### One request -/

section Steps

variable {files : Files} {ls : List Text} {body : Text}

theorem step_add (files : Files) (body : Text) :
    step blank same files (.add (some body)) =
      if 16384 < body.length then files else (ssh_add blank same body files).1 := rfl

/-- What a body does to the file. -/
theorem step_add_eq (files : Files) (body : Text) :
    step blank same files (.add (some body)) =
      if stores blank same files body = true then
        ⟨true, some (written '\n' (grepDot files.text) ++ (substituted body ++ ['\n']))⟩
      else
        { files with
            directory := files.directory ||
              (decide (body.length ≤ 16384) && passes (substituted body)) } := by
  rw [step_add]
  unfold stores ssh_add
  by_cases long : 16384 < body.length
  · have cut : ¬body.length ≤ 16384 := Nat.not_le_of_lt long
    simp [long, cut]
  have staged : body.length ≤ 16384 := Nat.le_of_not_lt long
  rw [if_neg long]
  cases admitted : passes (substituted body) with
  | false => simp [staged, admitted]
  | true =>
      by_cases found : (files.keys.isSome && present blank same files (substituted body)) = true
      · simp [staged, admitted, found]
      · by_cases full : (files.keys.isSome && decide (8 ≤ (grepDot files.text).length)) = true
        · simp [staged, admitted, found, full]
        · simp [staged, admitted, found, full]

theorem stores_key (stored : stores blank same files body = true) : KEY <+: substituted body := by
  simp only [stores, passes, Bool.and_eq_true] at stored
  exact List.isPrefixOf_iff_prefix.mp stored.1.1.2.1

/-- Where a body is stored there is room for it. -/
theorem stores_room (holds : Holds blank files ls) (stored : stores blank same files body = true) :
    ls.length < 8 := by
  by_contra full
  have some_line : ls ≠ [] := by
    rintro rfl
    exact full (by decide)
  obtain ⟨line, listed⟩ := List.exists_mem_of_ne_nil ls some_line
  have found := holds.exists_of_mem listed
  have eight : 8 ≤ ls.length := Nat.le_of_not_lt full
  simp [stores, found, holds.grepDot, eight] at stored

/-- And `awk` has not found its key. -/
theorem stores_absent (holds : Holds blank files ls) (stored : stores blank same files body = true)
    (unbroken : '\n' ∉ substituted body) {line : Text} (listed : line ∈ ls) :
    same (second blank line) (second blank (substituted body)) = false := by
  have found := holds.exists_of_mem listed
  have blob := @blobOf_line blank _ unbroken (substituted_no_nul body)
  have missing : present blank same files (substituted body) = false := by
    simp only [stores, found, Bool.true_and, Bool.and_eq_true, Bool.not_eq_true'] at stored
    exact stored.1.2
  rw [present, holds.lines, blob] at missing
  exact Bool.eq_false_iff.mpr fun equal =>
    absurd (List.any_eq_true.mpr ⟨line, listed, equal⟩) (Bool.eq_false_iff.mp missing)

/-- A body that is stored goes behind the lines that are there. -/
theorem stored_text (holds : Holds blank files ls) (stored : stores blank same files body = true) :
    (step blank same files (.add (some body))).keys =
      some (files.text ++ (substituted body ++ ['\n'])) := by
  rw [step_add_eq, if_pos stored, holds.grepDot, holds.text]

/-- One that is a line becomes the last line. -/
theorem stored_lines (holds : Holds blank files ls) (stored : stores blank same files body = true)
    (unbroken : '\n' ∉ substituted body) :
    (step blank same files (.add (some body))).lines = ls ++ [substituted body] := by
  have behind := stored_text holds stored
  rw [holds.text, ← written_append] at behind
  rw [Files.lines, Files.text, behind, Option.getD_some]
  apply lines_of_written
  intro line listed
  rcases List.mem_append.mp listed with before | last
  · exact holds.unbroken line before
  · rw [List.mem_singleton.mp last]
    exact unbroken

theorem Holds.added (holds : Holds blank files ls) (stored : stores blank same files body = true)
    (unbroken : '\n' ∉ substituted body)
    (fresh : second blank (substituted body) ∉ ls.map (second blank)) :
    Holds blank (step blank same files (.add (some body))) (ls ++ [substituted body]) where
  text := by
    rw [Files.text, stored_text holds stored, holds.text, written_append]
    rfl
  unbroken := by
    intro line listed
    rcases List.mem_append.mp listed with before | last
    · exact holds.unbroken line before
    · rw [List.mem_singleton.mp last]
      exact unbroken
  keys := by
    intro line listed
    rcases List.mem_append.mp listed with before | last
    · exact holds.keys line before
    · rw [List.mem_singleton.mp last]
      exact stores_key stored
  count := by
    have room := stores_room holds stored
    rw [List.length_append, List.length_singleton]
    omega
  distinct := by
    rw [List.map_append, List.map_singleton]
    apply List.nodup_append.mpr
    refine ⟨holds.distinct, List.nodup_singleton _, ?_⟩
    intro word listed other single equal
    rw [List.mem_singleton.mp single] at equal
    exact fresh (equal ▸ listed)
  placed := by
    intro _
    rw [step_add_eq, if_pos stored]

/-- A body that is not stored leaves the file as it is. -/
theorem Holds.refused (holds : Holds blank files ls)
    (refused : stores blank same files body = false) :
    Holds blank (step blank same files (.add (some body))) ls := by
  rw [step_add_eq, if_neg (Bool.eq_false_iff.mp refused)]
  exact
    { holds with
      text := holds.text
      placed := fun found => by rw [holds.placed found, Bool.true_or] }

/-- The lines left by the deletion of `id`. -/
def leftBy (id : Text) (ls : List Text) : List Text :=
  if id = "all".toList then []
  else
    match id with
    | [c] => if '1' ≤ c ∧ c ≤ '8' then ls.eraseIdx (c.toNat - 49) else ls
    | _ => ls

theorem leftBy_all (ls : List Text) : leftBy "all".toList ls = [] := rfl

theorem leftBy_digit {c : Char} (low : '1' ≤ c) (high : c ≤ '8') (ls : List Text) :
    leftBy [c] ls = ls.eraseIdx (c.toNat - 49) := by
  have single : [c] ≠ "all".toList := fun equal =>
    absurd (congrArg List.length equal) (show 1 ≠ 3 by decide)
  rw [leftBy, if_neg single]
  exact if_pos ⟨low, high⟩

theorem leftBy_sublist (id : Text) (ls : List Text) : (leftBy id ls).Sublist ls := by
  unfold leftBy
  split
  · exact List.nil_sublist ls
  · split
    · split
      · exact List.eraseIdx_sublist ls _
      · exact List.Sublist.refl ls
    · exact List.Sublist.refl ls

/-- What is written is what `leftBy` says. -/
theorem deleted_text (holds : Holds blank files ls) (id : Text) :
    (ssh_delete id files).1.text = written '\n' (leftBy id ls) := by
  unfold ssh_delete leftBy
  by_cases all : id = "all".toList
  · rw [if_pos all, if_pos all]
    cases placed : files.directory with
    | true => rfl
    | false =>
        -- Without the directory there is no file either.
        have none_there : files.keys.isSome ≠ true := fun found => by
          rw [holds.placed found] at placed
          contradiction
        cases found : files.keys with
        | none => simp [Files.text, found, written]
        | some text => simp [found] at none_there
  · rw [if_neg all, if_neg all]
    split
    · rename_i c
      by_cases digit : '1' ≤ c ∧ c ≤ '8'
      · rw [if_pos digit, if_pos digit]
        cases found : files.keys with
        | none =>
            have empty : ls = [] := by
              rw [← holds.lines, Files.lines, Files.text, found]
              rfl
            simp [Files.text, found, empty, written]
        | some text =>
            have grepped : AuthorizedKeys.grepDot text = ls := by
              have same_text : text = files.text := by rw [Files.text, found]; rfl
              rw [same_text]
              exact holds.grepDot
            have one : 1 ≤ c.toNat - 48 := by
              have least : 49 ≤ c.toNat := digit.1
              omega
            have index : c.toNat - 48 - 1 = c.toNat - 49 := by omega
            simp only [Files.text, Option.getD_some, grepped, exceptLine_eq, if_pos one, index]
      · rw [if_neg digit, if_neg digit]
        exact holds.text
    · exact holds.text

theorem deleted_placed (holds : Holds blank files ls) (id : Text)
    (found : (ssh_delete id files).1.keys.isSome = true) :
    (ssh_delete id files).1.directory = true := by
  have here := holds.placed
  revert found
  unfold ssh_delete
  split
  · split
    · rename_i _ placed
      exact fun _ => placed
    · exact here
  · split
    · split
      · split
        · exact here
        · rename_i _ known
          exact fun _ => here (by rw [known]; rfl)
      · exact here
    · exact here

theorem Holds.deleted (holds : Holds blank files ls) (id : Text) :
    Holds blank (step blank same files (.delete id)) (leftBy id ls) where
  text := deleted_text holds id
  unbroken := fun line listed => holds.unbroken line ((leftBy_sublist id ls).subset listed)
  keys := fun line listed => holds.keys line ((leftBy_sublist id ls).subset listed)
  count := Nat.le_trans (leftBy_sublist id ls).length_le holds.count
  distinct := holds.distinct.sublist ((leftBy_sublist id ls).map _)
  placed := deleted_placed holds id

/-- An `id` that names no line changes nothing. -/
theorem deleted_other {id : Text} (other : id ≠ "all".toList)
    (no_line : ∀ c, id = [c] → ¬('1' ≤ c ∧ c ≤ '8')) : (ssh_delete id files).1 = files := by
  unfold ssh_delete
  rw [if_neg other]
  split
  · rename_i c
    rw [if_neg (no_line c rfl)]
  · rfl

theorem slips_add (files : Files) (body : Text) :
    slips blank same files (.add (some body)) =
      (stores blank same files body &&
        (decide ('\n' ∈ substituted body) ||
          (!same (second blank (substituted body)) (second blank (substituted body)) &&
            files.lines.any fun line => second blank line == second blank (substituted body)))) := rfl

theorem any_eq_iff {word : Text} :
    (ls.any fun line => second blank line == word) = true ↔ word ∈ ls.map (second blank) := by
  simp only [List.any_eq_true, beq_iff_eq, List.mem_map]

/-- A stored body that does not slip is a line, and its key is new. -/
theorem fresh_of_not_slips (holds : Holds blank files ls)
    (stored : stores blank same files body = true)
    (fine : slips blank same files (.add (some body)) = false) :
    '\n' ∉ substituted body ∧ second blank (substituted body) ∉ ls.map (second blank) := by
  rw [slips_add, stored, Bool.true_and, Bool.or_eq_false_iff, holds.lines] at fine
  have unbroken : '\n' ∉ substituted body := of_decide_eq_false fine.1
  refine ⟨unbroken, ?_⟩
  intro listed
  have word := fine.2
  rw [any_eq_iff.mpr listed, Bool.and_true, Bool.not_eq_false'] at word
  obtain ⟨line, known, equal⟩ := List.mem_map.mp listed
  have missed := stores_absent holds stored unbroken known
  rw [equal, word] at missed
  contradiction

/-- Requests that do not slip keep the lines good, and change them as they may. -/
theorem keeps (holds : Holds blank files ls) (request : Request)
    (fine : slips blank same files request = false) :
    (∃ after, Holds blank (step blank same files request) after) ∧
      Changes files (step blank same files request) request := by
  cases request with
  | add body =>
      cases body with
      | none => exact ⟨⟨ls, holds⟩, Or.inl rfl⟩
      | some body =>
          cases stored : stores blank same files body with
          | false =>
              refine ⟨⟨ls, holds.refused stored⟩, Or.inl ?_⟩
              rw [step_add_eq, if_neg (Bool.eq_false_iff.mp stored)]
          | true =>
              obtain ⟨unbroken, fresh⟩ := fresh_of_not_slips holds stored fine
              exact ⟨⟨_, holds.added stored unbroken fresh⟩,
                Or.inr ⟨_, unbroken, stored_text holds stored⟩⟩
  | delete id =>
      have left := @Holds.deleted blank same files ls holds id
      refine ⟨⟨_, left⟩, ?_, ?_, ?_⟩
      · rintro rfl
        rw [left.lines, leftBy_all]
      · rintro c rfl low high
        rw [left.lines, holds.lines, leftBy_digit low high]
      · exact deleted_other

/-- A body of more than one line does not change the file as a line would. -/
theorem not_changes (holds : Holds blank files ls) (stored : stores blank same files body = true)
    (broken : '\n' ∈ substituted body) :
    ¬Changes files (step blank same files (.add (some body))) (.add (some body)) := by
  have behind := stored_text holds stored
  rintro (untouched | ⟨line, unbroken, one⟩)
  · rw [untouched] at behind
    have longer : files.text = files.text ++ (substituted body ++ ['\n']) := by
      conv => lhs; rw [Files.text, behind, Option.getD_some]
    have lengths := congrArg List.length longer
    simp at lengths
  · rw [behind] at one
    have equal := List.append_cancel_left (Option.some.inj one)
    exact unbroken (List.append_cancel_right equal ▸ broken)

/-- A key that is there already is there twice. -/
theorem not_good (holds : Holds blank files ls) (stored : stores blank same files body = true)
    (unbroken : '\n' ∉ substituted body)
    (known : second blank (substituted body) ∈ ls.map (second blank)) :
    ¬Good blank (step blank same files (.add (some body))) := by
  intro good
  have distinct := good.distinct
  rw [stored_lines holds stored unbroken, List.map_append, List.map_singleton] at distinct
  exact (List.nodup_append.mp distinct).2.2 _ known _ (List.mem_singleton.mpr rfl) rfl

theorem lawful_iff (holds : Holds blank files ls) (request : Request) :
    Lawful blank same files request ↔ slips blank same files request = false := by
  constructor
  · intro lawful
    cases request with
    | delete id => rfl
    | add body =>
        cases body with
        | none => rfl
        | some body =>
            apply Bool.eq_false_iff.mpr
            intro slipped
            rw [slips_add, Bool.and_eq_true, holds.lines] at slipped
            obtain ⟨stored, slipped⟩ := slipped
            by_cases broken : '\n' ∈ substituted body
            · exact not_changes holds stored broken lawful.2
            · rw [decide_eq_false broken, Bool.false_or, Bool.and_eq_true] at slipped
              exact not_good holds stored broken (any_eq_iff.mp slipped.2) lawful.1
  · intro fine
    obtain ⟨⟨after, left⟩, changes⟩ := keeps holds request fine
    exact ⟨left.good, changes⟩

end Steps

variable (blank same)

end Awk

end JooanW3U.Runtime.AuthorizedKeys

import JooanW3U.Library.Decimal
import JooanW3U.Media.CText
import JooanW3U.Media.Update
import Mathlib.Algebra.GroupWithZero.Nat

/-!
Owns the transfer of a media package: `package` of the tool that makes one, and
`receive_package` with `write_part` and `jipc_update_receive`, which take it from
the first buffer and from a pull function. Main results: a package that was made
arrives as its parts however it is divided, and a call that fails leaves nothing.

Does not own the texts of the errors, or other calls during a receive, which the
staging of an update has.
-/

namespace JooanW3U.Media.Package

open JooanW3U.Library
open JooanW3U.Media.Update

/-! ### The package -/

/-- The parts in the order of a package. -/
def order : List Part := [.manifest, .signature, .upgrade, .apply, .image]

/-- What the header says before its padding. -/
def headerText (sizes : Part → Nat) : Text :=
  "JIPCMEDIA1".toList ++ order.flatMap fun part => ' ' :: Nat.toDigits 10 (sizes part)

theorem headerText_eq (sizes : Part → Nat) :
    headerText sizes =
      "JIPCMEDIA1".toList ++ order.flatMap fun part => ' ' :: Nat.toDigits 10 (sizes part) :=
  rfl

/-- `str.ljust` with blanks. -/
def ljust (width : Nat) (text : Text) : Text :=
  text ++ List.replicate (width - text.length) ' '

/-- `package` of `make-media-update.py`. -/
def package (parts : Part → Text) : Text :=
  ljust (HEADER - 1) (headerText fun part => (parts part).length) ++ '\n' :: order.flatMap parts

/-! ### What the receiver is given -/

/-- What the system answers to the calls of one receive, each numbered from zero: how
much of the stream is at hand for a pull, where nothing is the end of the connection
or a time limit; how much of what it is given a write takes, where nothing is a
failure and an interrupted write is not counted; whether the directory could be made
and a part's file opened; what `%u` stores for a numeral; what the verifier and the
package's own check say; and the time. -/
structure World where
  arrivals : Nat → Nat
  writes : Nat → Nat
  made : Bool
  opens : Part → Bool
  convert : Bool → Nat → Nat
  verifier : Files → Bool
  check : Files → Bool
  now : UInt64

/-- What is left of the first buffer and of the stream after it, with the pulls and
the writes made. -/
structure Transfer where
  rest : Text
  stream : Text
  pulls : Nat
  puts : Nat
deriving Repr, DecidableEq

/-- Everything that was not consumed yet. -/
def Transfer.left (transfer : Transfer) : Text := transfer.rest ++ transfer.stream

/-- The pull function, asked for so many bytes. -/
def World.pull (world : World) (transfer : Transfer) (asked : Nat) : Option Text × Transfer :=
  let got := (transfer.stream.take asked).take (world.arrivals transfer.pulls)
  if got = [] then (none, { transfer with pulls := transfer.pulls + 1 })
  else
    (some got,
      { transfer with stream := transfer.stream.drop got.length, pulls := transfer.pulls + 1 })

/-- The next bytes: of the first buffer while it lasts, then of a pull into a buffer
of the given size. -/
def World.next (world : World) (transfer : Transfer) (wanted buffer : Nat) :
    Option Text × Transfer :=
  if transfer.rest = [] then world.pull transfer (min wanted buffer)
  else (some (transfer.rest.take wanted), { transfer with rest := transfer.rest.drop wanted })

/-- The bytes and the stream after a step that consumed them. -/
theorem World.next_progress {world : World} {transfer after : Transfer} {wanted buffer : Nat}
    {data : Text} (room : 0 < wanted)
    (given : world.next transfer wanted buffer = (some data, after)) :
    0 < data.length ∧ data.length ≤ wanted := by
  unfold World.next at given
  split at given
  · unfold World.pull at given
    dsimp only at given
    split at given
    · cases given
    · rename_i nonempty
      obtain rfl : _ = data := Option.some.inj (congrArg Prod.fst given)
      refine ⟨List.length_pos_iff.mpr nonempty, ?_⟩
      simp only [List.length_take]
      omega
  · rename_i first
    obtain rfl : _ = data := Option.some.inj (congrArg Prod.fst given)
    have some := List.length_pos_iff.mpr first
    rw [List.length_take]
    omega

/-! ### `receive_package` -/

/-- The loop of `receive_package` that fills the header; `false` when the upload
stopped. -/
def World.readHeader (world : World) (missing : Nat) (transfer : Transfer) :
    Text × Transfer × Bool :=
  if missing = 0 then ([], transfer, true)
  else
    match _given : world.next transfer missing missing with
    | (none, after) => ([], after, false)
    | (some data, after) =>
        let (more, final, ok) := world.readHeader (missing - data.length) after
        (data ++ more, final, ok)
termination_by missing
decreasing_by
  have := World.next_progress (by omega) _given
  omega

/-- A `%u` conversion of `sscanf`. -/
def scanUnsigned (convert : Bool → Nat → Nat) (text : Text) : Option (Nat × Text) :=
  let (negative, numeral) := Decimal.scanSign (text.dropWhile isSpace)
  let digits := numeral.takeWhile Char.isDigit
  if digits = [] then none
  else some (convert negative (Nat.ofDigitChars 10 digits 0), numeral.dropWhile Char.isDigit)

def scanSizes (convert : Bool → Nat → Nat) : List Part → Text → Option (Part → Nat)
  | [], _ => some fun _ => 0
  | part :: parts, text =>
      match scanUnsigned convert text with
      | none => none
      | some (size, rest) =>
          (scanSizes convert parts rest).map fun sizes => Function.update sizes part size

/-- The `sscanf` of the header, a C string, for five sizes. -/
def scanHeader (convert : Bool → Nat → Nat) (header : Text) : Option (Part → Nat) :=
  let text := header.takeWhile (· ≠ Char.ofNat 0)
  if "JIPCMEDIA1".toList.isPrefixOf text then
    scanSizes convert order (text.drop "JIPCMEDIA1".toList.length)
  else none

/-- The loop of `write_part` that writes one chunk, from this write on: what the file
took, the writes made and whether all of it was taken. -/
def World.putAll (world : World) (puts : Nat) (data : Text) : Text × Nat × Bool :=
  if data = [] then ([], puts, true)
  else
    match world.writes puts with
    | 0 => ([], puts + 1, false)
    | taken + 1 =>
        let (more, count, ok) := world.putAll (puts + 1) (data.drop (taken + 1))
        (data.take (taken + 1) ++ more, count, ok)
termination_by data.length
decreasing_by
  have := List.length_pos_iff.mpr ‹data ≠ []›
  rw [List.length_drop]
  omega

/-- The loop of `write_part`: what the file holds and the status, zero when the part
has arrived. -/
def World.writePart (world : World) (size : Nat) (transfer : Transfer) : Text × Transfer × Nat :=
  if size = 0 then ([], transfer, 0)
  else
    match _given : world.next transfer size 4096 with
    | (none, after) => ([], after, 400)
    | (some data, after) =>
        match world.putAll after.puts data with
        | (written, puts, false) => (written, { after with puts }, 507)
        | (written, puts, true) =>
            let (more, final, status) := world.writePart (size - data.length) { after with puts }
            (written ++ more, final, status)
termination_by size
decreasing_by
  have := World.next_progress (by omega) _given
  omega

/-- The parts one after another. -/
def World.writeParts (world : World) (sizes : Part → Nat) :
    List Part → Files → Transfer → Files × Transfer × Nat
  | [], files, transfer => (files, transfer, 0)
  | part :: parts, files, transfer =>
      if world.opens part = false then (files, transfer, 500)
      else
        match world.writePart (sizes part) transfer with
        | (content, after, status) =>
            let files := Function.update files part (some content)
            if status = 0 then world.writeParts sizes parts files after
            else (files, after, status)

/-- `receive_package` before it verifies; the status is zero when the package has
arrived. -/
def World.arrive (world : World) (total : Nat) (files : Files) (transfer : Transfer) :
    Files × Transfer × Nat :=
  if total < HEADER then (files, transfer, 400)
  else
    match world.readHeader HEADER transfer with
    | (_, after, false) => (files, after, 400)
    | (header, after, true) =>
        match scanHeader world.convert header with
        | none => (files, after, 400)
        | some sizes =>
            if header[HEADER - 1]? ≠ some '\n' then (files, after, 400)
            else if ¬LegalSizes sizes total then (files, after, 400)
            else if world.made = false then (files, after, 500)
            else world.writeParts sizes order files after

/-- The statics of `update.c` and the part files; `applying` while an update runs. -/
structure Server where
  receiving : Bool
  applying : Bool
  release : Text
  stagedAt : UInt64
  failed : Text
  files : Files

def Server.wipe (server : Server) : Server :=
  { server with files := fun _ => none, release := [], stagedAt := 0 }

/-- `receive_package`. -/
def World.receivePackage (world : World) (total : Nat) (server : Server) (transfer : Transfer) :
    Server × Transfer × Nat :=
  match world.arrive total server.files transfer with
  | (files, after, status) =>
      let server := { server with files }
      if status ≠ 0 then (server, after, status)
      else if world.verifier files = false then (server, after, 400)
      else
        match manifestRelease files with
        | none => (server, after, 400)
        | some value =>
            if world.check files = false then (server, after, 409)
            else ({ server with release := value.take 31, stagedAt := world.now }, after, 200)

/-- `jipc_update_receive`. -/
def World.updateReceive (world : World) (total : Nat) (server : Server) (transfer : Transfer) :
    Server × Transfer × Nat :=
  if server.receiving ∨ server.applying then (server, transfer, 409)
  else
    match world.receivePackage total { server.wipe with receiving := true, failed := [] }
        transfer with
    | (server, after, status) =>
        let server := { server with receiving := false }
        (if status = 200 then server else server.wipe, after, status)

/-! ### What was consumed -/

/-- From the one to the other these bytes were consumed, and no pull and no write
failed. -/
structure Delivers (world : World) (before : Transfer) (data : Text) (after : Transfer) : Prop where
  same : data ++ after.left = before.left
  pulls : (∀ call < before.pulls, 0 < world.arrivals call) →
    ∀ call < after.pulls, 0 < world.arrivals call
  puts : (∀ call < before.puts, 0 < world.writes call) →
    ∀ call < after.puts, 0 < world.writes call

section Delivery

variable {world : World}

theorem Delivers.refl (transfer : Transfer) : Delivers world transfer [] transfer :=
  ⟨rfl, id, id⟩

theorem Delivers.trans {before middle after : Transfer} {first second : Text}
    (early : Delivers world before first middle) (late : Delivers world middle second after) :
    Delivers world before (first ++ second) after where
  same := by rw [List.append_assoc, late.same, early.same]
  pulls clean := late.pulls (early.pulls clean)
  puts clean := late.puts (early.puts clean)

theorem next_delivers {transfer after : Transfer} {wanted buffer : Nat} {data : Text}
    (given : world.next transfer wanted buffer = (some data, after)) :
    Delivers world transfer data after := by
  unfold World.next at given
  split at given
  · rename_i spent
    unfold World.pull at given
    dsimp only at given
    split at given
    · cases given
    rename_i nonempty
    injection given with got moved
    injection got with got
    subst moved
    have length : data.length ≤ transfer.stream.length := by
      rw [← got]
      simp only [List.length_take]
      omega
    have taken : transfer.stream.take data.length = data := by
      rw [← got, List.take_take, List.take_eq_take_iff]
      simp
    refine ⟨?_, fun clean call before => ?_, id⟩
    · rw [got]
      simp only [Transfer.left, spent, List.nil_append]
      conv => lhs; lhs; rw [← taken]
      exact List.take_append_drop _ _
    · rcases Nat.lt_succ_iff_lt_or_eq.mp before with early | rfl
      · exact clean call early
      · refine Nat.pos_of_ne_zero fun nothing => nonempty ?_
        rw [nothing, List.take_zero]
  · injection given with got moved
    injection got with got
    subst got moved
    refine ⟨?_, id, id⟩
    simp only [Transfer.left, ← List.append_assoc, List.take_append_drop]

theorem readHeader_delivers (missing : Nat) (transfer : Transfer) {header : Text}
    {after : Transfer} (read : world.readHeader missing transfer = (header, after, true)) :
    header.length = missing ∧ Delivers world transfer header after := by
  fun_induction World.readHeader world missing transfer generalizing header after with
  | case1 transfer =>
      cases read
      exact ⟨rfl, .refl transfer⟩
  | case2 => cases read
  | case3 missing transfer some data middle given more final ok rest inductionHypothesis =>
      cases read
      obtain ⟨length, onward⟩ := inductionHypothesis rest
      have progress := World.next_progress (Nat.pos_of_ne_zero some) given
      refine ⟨?_, (next_delivers given).trans onward⟩
      rw [List.length_append]
      omega

theorem putAll_writes (puts : Nat) (data : Text) {written : Text} {count : Nat}
    (put : world.putAll puts data = (written, count, true)) :
    written = data ∧ ((∀ call < puts, 0 < world.writes call) →
      ∀ call < count, 0 < world.writes call) := by
  fun_induction World.putAll world puts data generalizing written count with
  | case1 puts =>
      cases put
      exact ⟨rfl, id⟩
  | case2 => cases put
  | case3 puts data some taken took more last ok rest inductionHypothesis =>
      cases put
      obtain ⟨same, onward⟩ := inductionHypothesis rest
      refine ⟨by rw [same, List.take_append_drop], fun clean => onward fun call before => ?_⟩
      rcases Nat.lt_succ_iff_lt_or_eq.mp before with early | rfl
      · exact clean call early
      · omega

theorem writePart_delivers (size : Nat) (transfer : Transfer) {content : Text} {after : Transfer}
    (arrived : world.writePart size transfer = (content, after, 0)) :
    content.length = size ∧ Delivers world transfer content after := by
  fun_induction World.writePart world size transfer generalizing content after with
  | case1 transfer =>
      cases arrived
      exact ⟨rfl, .refl transfer⟩
  | case2 => cases arrived
  | case3 => cases arrived
  | case4 size transfer some data middle given written puts put more final status rest
      inductionHypothesis =>
      cases arrived
      obtain ⟨length, onward⟩ := inductionHypothesis rest
      obtain ⟨rfl, clean⟩ := putAll_writes middle.puts data put
      have progress := World.next_progress (Nat.pos_of_ne_zero some) given
      have taken := next_delivers given
      have stored : Delivers world transfer written { middle with puts } :=
        ⟨taken.same, taken.pulls, fun before => clean (taken.puts before)⟩
      refine ⟨?_, stored.trans onward⟩
      rw [List.length_append]
      omega

/-- Parts that arrived: each file has the length announced, and the files in their
order are what was consumed. -/
theorem writeParts_delivers (sizes : Part → Nat) {parts : List Part} (distinct : parts.Nodup)
    {files final : Files} {transfer after : Transfer}
    (arrived : world.writeParts sizes parts files transfer = (final, after, 0)) :
    ∃ contents : Part → Text,
      (∀ part ∈ parts, (contents part).length = sizes part ∧ final part = some (contents part)) ∧
        (∀ part ∉ parts, final part = files part) ∧
          Delivers world transfer (parts.flatMap contents) after := by
  induction parts generalizing files transfer with
  | nil =>
      cases arrived
      exact ⟨fun _ => [], by simp, by simp, .refl _⟩
  | cons part parts inductionHypothesis =>
      obtain ⟨absent, distinct⟩ := List.nodup_cons.mp distinct
      obtain ⟨⟨content, middle, status⟩, written⟩ :
          ∃ result, world.writePart (sizes part) transfer = result := ⟨_, rfl⟩
      simp only [World.writeParts, written] at arrived
      split at arrived
      · cases arrived
      split at arrived
      · rename_i ended
        subst ended
        obtain ⟨length, delivered⟩ := writePart_delivers _ _ written
        obtain ⟨contents, listed, others, onward⟩ := inductionHypothesis distinct arrived
        have kept : ∀ other ∈ parts,
            Function.update contents part content other = contents other := by
          intro other inside
          refine Function.update_of_ne ?_ _ _
          rintro rfl
          exact absent inside
        refine ⟨Function.update contents part content, ?_, ?_, ?_⟩
        · intro other inside
          rcases List.mem_cons.mp inside with rfl | inside
          · rw [Function.update_self, others other absent, Function.update_self]
            exact ⟨length, rfl⟩
          · rw [kept other inside]
            exact listed other inside
        · intro other outside
          rw [List.mem_cons, not_or] at outside
          obtain ⟨different, outside⟩ := outside
          rw [others other outside, Function.update_of_ne different]
        · rw [List.flatMap_cons, Function.update_self, List.flatMap_congr kept]
          exact delivered.trans onward
      · rename_i failed
        exact absurd (congrArg (fun result => result.2.2) arrived) failed

/-! ### When nothing fails -/

/-- The connection goes on, every write takes something, the directory and the files
can be made, and `%u` stores a numeral below 2^32 as it is. -/
structure Obliging (world : World) : Prop where
  arrivals : ∀ call, 0 < world.arrivals call
  writes : ∀ call, 0 < world.writes call
  made : world.made = true
  opens : ∀ part, world.opens part = true
  convert : ∀ value < 2 ^ 32, world.convert false value = value

theorem next_given (obliging : Obliging world) {transfer : Transfer} {wanted buffer : Nat}
    (room : 0 < min wanted buffer) (there : wanted ≤ transfer.left.length) :
    ∃ data after, world.next transfer wanted buffer = (some data, after) := by
  unfold World.next
  split
  · rename_i spent
    have arrives := obliging.arrivals transfer.pulls
    have nonempty : (transfer.stream.take (min wanted buffer)).take
        (world.arrivals transfer.pulls) ≠ [] := by
      apply List.ne_nil_of_length_pos
      simp only [Transfer.left, spent, List.nil_append] at there
      simp only [List.length_take]
      omega
    rw [World.pull]
    simp only [if_neg nonempty]
    exact ⟨_, _, rfl⟩
  · exact ⟨_, _, rfl⟩

/-- What is left after a delivery. -/
theorem Delivers.length {before after : Transfer} {data : Text}
    (delivers : Delivers world before data after) :
    data.length + after.left.length = before.left.length := by
  rw [← delivers.same, List.length_append]

theorem readHeader_ends (obliging : Obliging world) {missing : Nat} {transfer : Transfer}
    (there : missing ≤ transfer.left.length) :
    (world.readHeader missing transfer).2.2 = true := by
  fun_induction World.readHeader world missing transfer with
  | case1 => rfl
  | case2 missing transfer some after given =>
      have room : 0 < min missing missing := by omega
      obtain ⟨data, middle, other⟩ := next_given obliging room there
      rw [given] at other
      cases other
  | case3 missing transfer some data middle given more final ok rest inductionHypothesis =>
      have length := (next_delivers given).length
      rw [rest] at inductionHypothesis
      exact inductionHypothesis (by omega)

theorem putAll_ends (obliging : Obliging world) (puts : Nat) (data : Text) :
    (world.putAll puts data).2.2 = true := by
  fun_induction World.putAll world puts data with
  | case1 => rfl
  | case2 puts data some refused => exact absurd refused (Nat.ne_of_gt (obliging.writes puts))
  | case3 puts data some taken took more last ok rest inductionHypothesis =>
      rw [rest] at inductionHypothesis
      exact inductionHypothesis

theorem writePart_ends (obliging : Obliging world) {size : Nat} {transfer : Transfer}
    (there : size ≤ transfer.left.length) : (world.writePart size transfer).2.2 = 0 := by
  fun_induction World.writePart world size transfer with
  | case1 => rfl
  | case2 size transfer some after given =>
      have room : 0 < min size 4096 := by omega
      obtain ⟨data, middle, other⟩ := next_given obliging room there
      rw [given] at other
      cases other
  | case3 size transfer some data middle given written puts put =>
      have taken := putAll_ends obliging middle.puts data
      rw [put] at taken
      cases taken
  | case4 size transfer some data middle given written puts put more final status rest
      inductionHypothesis =>
      have length := (next_delivers given).length
      rw [rest] at inductionHypothesis
      apply inductionHypothesis
      show size - data.length ≤ middle.left.length
      omega

theorem writeParts_ends (obliging : Obliging world) (sizes : Part → Nat) {parts : List Part}
    {files : Files} {transfer : Transfer}
    (there : (parts.map sizes).sum ≤ transfer.left.length) :
    (world.writeParts sizes parts files transfer).2.2 = 0 := by
  induction parts generalizing files transfer with
  | nil => rfl
  | cons part parts inductionHypothesis =>
      rw [List.map_cons, List.sum_cons] at there
      have ended := writePart_ends obliging (show sizes part ≤ transfer.left.length by omega)
      obtain ⟨⟨content, middle, status⟩, written⟩ :
          ∃ result, world.writePart (sizes part) transfer = result := ⟨_, rfl⟩
      obtain rfl : status = 0 := by
        rw [written] at ended
        exact ended
      obtain ⟨length, delivers⟩ := writePart_delivers _ _ written
      have left := delivers.length
      simp only [World.writeParts, obliging.opens part, written, if_true, Bool.true_eq_false,
        if_false]
      exact inductionHypothesis (by omega)

end Delivery

/-! ### The header is read back -/

theorem scanUnsigned_toDigits {convert : Bool → Nat → Nat} {value : Nat}
    (plain : convert false value = value) {rest : Text}
    (ends : ∀ c, rest.head? = some c → c.isDigit = false) :
    scanUnsigned convert (' ' :: (Nat.toDigits 10 value ++ rest)) = some (value, rest) := by
  have digits : ∀ c ∈ Nat.toDigits 10 value, c.isDigit = true :=
    fun c => Decimal.isDigit_of_mem_toDigits
  have blank : (' ' :: (Nat.toDigits 10 value ++ rest)).dropWhile isSpace =
      Nat.toDigits 10 value ++ rest := by
    rw [List.dropWhile_cons_of_pos (by decide)]
    cases shape : Nat.toDigits 10 value with
    | nil => exact absurd shape Nat.toDigits_ne_nil
    | cons first more =>
        have digit := digits first (by rw [shape]; exact List.mem_cons_self)
        rw [List.cons_append, List.dropWhile_cons_of_neg (by rw [digit_black digit]; decide)]
  have sign : Decimal.scanSign (Nat.toDigits 10 value ++ rest) =
      (false, Nat.toDigits 10 value ++ rest) := by
    cases shape : Nat.toDigits 10 value with
    | nil => exact absurd shape Nat.toDigits_ne_nil
    | cons first more =>
        have digit := digits first (by rw [shape]; exact List.mem_cons_self)
        unfold Decimal.scanSign
        split
        · rename_i same
          injection same with same
          rw [same] at digit
          exact absurd digit (by decide)
        · rename_i same
          injection same with same
          rw [same] at digit
          exact absurd digit (by decide)
        · rfl
  have stop : rest.takeWhile Char.isDigit = [] ∧ rest.dropWhile Char.isDigit = rest := by
    cases rest with
    | nil => exact ⟨rfl, rfl⟩
    | cons first more =>
        have other := ends first rfl
        simp [other]
  simp only [scanUnsigned, blank, sign, List.takeWhile_append_of_pos digits,
    List.dropWhile_append_of_pos digits, stop.1, stop.2, List.append_nil,
    Nat.ofDigitChars_ten_toDigits, plain, if_neg Nat.toDigits_ne_nil]

theorem scanSizes_listed {convert : Bool → Nat → Nat} {sizes : Part → Nat} {parts : List Part}
    (plain : ∀ part ∈ parts, convert false (sizes part) = sizes part) (distinct : parts.Nodup)
    {rest : Text} (ends : ∀ c, rest.head? = some c → c.isDigit = false) :
    ∃ scanned, scanSizes convert parts
        (parts.flatMap (fun part => ' ' :: Nat.toDigits 10 (sizes part)) ++ rest) = some scanned ∧
      ∀ part ∈ parts, scanned part = sizes part := by
  induction parts with
  | nil => exact ⟨_, rfl, by simp⟩
  | cons part parts inductionHypothesis =>
      obtain ⟨absent, distinct⟩ := List.nodup_cons.mp distinct
      obtain ⟨scanned, listed, same⟩ := inductionHypothesis
        (fun other inside => plain other (List.mem_cons_of_mem _ inside)) distinct
      have next : ∀ c, (parts.flatMap (fun part => ' ' :: Nat.toDigits 10 (sizes part)) ++
          rest).head? = some c → c.isDigit = false := by
        intro c head
        cases parts with
        | nil => exact ends c head
        | cons other more =>
            obtain rfl : ' ' = c := Option.some.inj head
            decide
      refine ⟨Function.update scanned part (sizes part), ?_, ?_⟩
      · rw [List.flatMap_cons, List.cons_append, List.cons_append, List.append_assoc]
        simp only [scanSizes, scanUnsigned_toDigits (plain part List.mem_cons_self) next, listed,
          Option.map_some]
      · intro other listed
        rcases List.mem_cons.mp listed with rfl | inside
        · rw [Function.update_self]
        · have different : other ≠ part := fun here => absent (here ▸ inside)
          rw [Function.update_of_ne different]
          exact same other inside

theorem order_complete (part : Part) : part ∈ order := by
  cases part <;> decide

theorem size_small {sizes : Part → Nat} {total : Nat} (legal : LegalSizes sizes total)
    (part : Part) : sizes part < 10 ^ 7 := by
  obtain ⟨_, manifest, _, signature, _, upgrade, _, apply, image, -⟩ := legal
  cases part
  · exact Nat.lt_of_le_of_lt manifest (by decide)
  · exact Nat.lt_of_le_of_lt signature (by decide)
  · exact Nat.lt_of_le_of_lt upgrade (by decide)
  · exact Nat.lt_of_le_of_lt apply (by decide)
  · exact Nat.lt_of_le_of_lt (Nat.le_of_eq image) (by decide)

theorem numerals_length {sizes : Part → Nat} (small : ∀ part, sizes part < 10 ^ 7)
    (parts : List Part) :
    (parts.flatMap fun part => ' ' :: Nat.toDigits 10 (sizes part)).length ≤ 8 * parts.length := by
  induction parts with
  | nil => exact Nat.le_refl 0
  | cons part parts inductionHypothesis =>
      have short := (Nat.length_toDigits_le_iff (by decide) (by decide)).mpr (small part)
      rw [List.flatMap_cons, List.length_append, List.length_cons, List.length_cons]
      omega

theorem headerText_length {sizes : Part → Nat} {total : Nat} (legal : LegalSizes sizes total) :
    (headerText sizes).length ≤ HEADER - 1 := by
  have numerals := numerals_length (size_small legal) order
  have parts : order.length = 5 := rfl
  have magic : "JIPCMEDIA1".toList.length = 10 := rfl
  have header : HEADER - 1 = 95 := rfl
  rw [headerText_eq, List.length_append]
  omega

/-- The header of a package. -/
def headerOf (sizes : Part → Nat) : Text := ljust (HEADER - 1) (headerText sizes) ++ ['\n']

theorem package_eq (parts : Part → Text) :
    package parts = headerOf (fun part => (parts part).length) ++ order.flatMap parts := by
  simp [package, headerOf]

theorem ljust_length {sizes : Part → Nat} {total : Nat} (legal : LegalSizes sizes total) :
    (ljust (HEADER - 1) (headerText sizes)).length = HEADER - 1 := by
  have text := headerText_length legal
  rw [ljust, List.length_append, List.length_replicate]
  omega

theorem headerOf_length {sizes : Part → Nat} {total : Nat} (legal : LegalSizes sizes total) :
    (headerOf sizes).length = HEADER := by
  rw [headerOf, List.length_append, ljust_length legal]
  rfl

theorem headerOf_newline {sizes : Part → Nat} {total : Nat} (legal : LegalSizes sizes total) :
    (headerOf sizes)[HEADER - 1]? = some '\n' := by
  have last := @List.getElem?_concat_length _ (ljust (HEADER - 1) (headerText sizes)) '\n'
  rwa [ljust_length legal] at last

theorem scanHeader_padded {convert : Bool → Nat → Nat} {sizes : Part → Nat}
    (plain : ∀ part ∈ order, convert false (sizes part) = sizes part) (padding : Nat) :
    scanHeader convert (headerText sizes ++ (List.replicate padding ' ' ++ ['\n'])) =
      some sizes := by
  have visible : ∀ c ∈ headerText sizes ++ (List.replicate padding ' ' ++ ['\n']),
      (decide (c ≠ Char.ofNat 0)) = true := by
    intro c inside
    refine decide_eq_true fun nul => ?_
    subst nul
    simp only [headerText_eq, List.mem_append, List.mem_flatMap, List.mem_cons,
      List.mem_replicate, List.not_mem_nil, or_false] at inside
    rcases inside with (magic | ⟨part, -, blank | digit⟩) | ⟨-, blank⟩ | newline
    · exact absurd magic (by decide)
    · exact absurd blank (by decide)
    · exact absurd (Decimal.isDigit_of_mem_toDigits digit) (by decide)
    · exact absurd blank (by decide)
    · exact absurd newline (by decide)
  have ends : ∀ c, (List.replicate padding ' ' ++ ['\n']).head? = some c → c.isDigit = false := by
    intro c head
    cases padding with
    | zero =>
        obtain rfl : '\n' = c := Option.some.inj head
        decide
    | succ padding =>
        obtain rfl : ' ' = c := Option.some.inj head
        decide
  obtain ⟨scanned, listed, same⟩ := scanSizes_listed plain (by decide) ends
  have all : scanned = sizes := funext fun part => same part (order_complete part)
  rw [scanHeader, List.takeWhile_eq_self_iff.mpr visible, headerText_eq,
    List.append_assoc, if_pos (List.isPrefixOf_iff_prefix.mpr (List.prefix_append _ _)),
    List.drop_left, listed, all]

theorem scanHeader_headerOf {convert : Bool → Nat → Nat} {sizes : Part → Nat} {total : Nat}
    (legal : LegalSizes sizes total) (plain : ∀ value < 2 ^ 32, convert false value = value) :
    scanHeader convert (headerOf sizes) = some sizes := by
  rw [headerOf, ljust, List.append_assoc]
  exact scanHeader_padded
    (fun part _ => plain _ (Nat.lt_trans (size_small legal part) (by decide))) _

/-! ### A package that was made arrives -/

/-- Texts of the same lengths one after another are the same when their
concatenations are. -/
theorem flatMap_inj {first second : Part → Text} {left right : Text} {parts : List Part}
    (lengths : ∀ part ∈ parts, (first part).length = (second part).length)
    (same : parts.flatMap first ++ left = parts.flatMap second ++ right) :
    (∀ part ∈ parts, first part = second part) ∧ left = right := by
  induction parts with
  | nil => exact ⟨by simp, same⟩
  | cons part parts inductionHypothesis =>
      simp only [List.flatMap_cons, List.append_assoc] at same
      obtain ⟨head, tail⟩ := List.append_inj same (lengths part List.mem_cons_self)
      obtain ⟨rest, ends⟩ := inductionHypothesis
        (fun other inside => lengths other (List.mem_cons_of_mem _ inside)) tail
      refine ⟨fun other inside => ?_, ends⟩
      rcases List.mem_cons.mp inside with rfl | inside
      · exact head
      · exact rest other inside

section Arrival

variable {world : World}

theorem total_of_legal {sizes : Part → Nat} {total : Nat} (legal : LegalSizes sizes total) :
    total = HEADER + (order.map sizes).sum := by
  obtain ⟨-, -, -, -, -, -, -, -, -, sum⟩ := legal
  rw [sum]
  simp only [order, List.map_cons, List.map_nil, List.sum_cons, List.sum_nil]
  omega

theorem package_arrives (obliging : Obliging world) {parts : Part → Text} {total : Nat}
    (legal : LegalSizes (fun part => (parts part).length) total) {transfer : Transfer}
    {extra : Text} (sent : transfer.left = package parts ++ extra) (files : Files) :
    ∃ after, world.arrive total files transfer = (fun part => some (parts part), after, 0) ∧
      after.left = extra := by
  rw [package_eq, List.append_assoc] at sent
  have sum := total_of_legal legal
  have enough : HEADER ≤ transfer.left.length := by
    rw [sent, List.length_append, headerOf_length legal]
    omega
  obtain ⟨⟨header, middle, ok⟩, read⟩ :
      ∃ result, world.readHeader HEADER transfer = result := ⟨_, rfl⟩
  obtain rfl : ok = true := by
    have ends := readHeader_ends obliging enough
    rw [read] at ends
    exact ends
  obtain ⟨length, delivered⟩ := readHeader_delivers _ _ read
  have shape := delivered.same
  rw [sent] at shape
  obtain ⟨rfl, body⟩ := List.append_inj shape (length.trans (headerOf_length legal).symm)
  have there : (order.map fun part => (parts part).length).sum ≤ middle.left.length := by
    rw [body, List.length_append, List.length_flatMap]
    exact Nat.le_add_right _ _
  obtain ⟨⟨final, after, status⟩, written⟩ :
      ∃ result, world.writeParts (fun part => (parts part).length) order files middle = result :=
    ⟨_, rfl⟩
  obtain rfl : status = 0 := by
    have ends := @writeParts_ends world obliging (fun part => (parts part).length) order files
      middle there
    rw [written] at ends
    exact ends
  obtain ⟨contents, listed, -, onward⟩ := writeParts_delivers _ (by decide) written
  have arrived := onward.same
  rw [body] at arrived
  obtain ⟨same, left⟩ := flatMap_inj (fun part inside => (listed part inside).1) arrived
  have kept : final = fun part => some (parts part) := by
    funext part
    rw [(listed part (order_complete part)).2, same part (order_complete part)]
  have long : ¬total < HEADER := by omega
  refine ⟨after, ?_, left⟩
  simp only [World.arrive, if_neg long, read, scanHeader_headerOf legal obliging.convert,
    headerOf_newline legal, ne_eq, not_true_eq_false, if_false, not_not_intro legal, obliging.made,
    Bool.true_eq_false,
    written, kept]

/-! ### What a success says, and what a failure leaves -/

/-- The header names sizes within the limits that add up to the announced total, the
files are the bytes after it cut by these sizes, exactly the total was consumed, and
no pull and no write failed. -/
def Complete (world : World) (total : Nat) (before : Transfer) (files : Files)
    (after : Transfer) : Prop :=
  ∃ header sizes contents, header.length = HEADER ∧ header[HEADER - 1]? = some '\n' ∧
    scanHeader world.convert header = some sizes ∧ LegalSizes sizes total ∧
      (∀ part, (contents part).length = sizes part ∧ files part = some (contents part)) ∧
        (header ++ order.flatMap contents).length = total ∧
          Delivers world before (header ++ order.flatMap contents) after

theorem arrive_complete {total : Nat} {files final : Files} {transfer after : Transfer}
    (arrived : world.arrive total files transfer = (final, after, 0)) :
    Complete world total transfer final after := by
  obtain ⟨⟨header, middle, ok⟩, read⟩ :
      ∃ result, world.readHeader HEADER transfer = result := ⟨_, rfl⟩
  simp only [World.arrive, read] at arrived
  split at arrived
  · cases arrived
  cases ok with
  | false => cases arrived
  | true =>
      obtain ⟨length, delivered⟩ := readHeader_delivers _ _ read
      cases scanned : scanHeader world.convert header with
      | none =>
          simp only [scanned] at arrived
          cases arrived
      | some sizes =>
          simp only [scanned] at arrived
          split at arrived
          · cases arrived
          rename_i newline
          split at arrived
          · cases arrived
          rename_i legal
          split at arrived
          · cases arrived
          obtain ⟨contents, listed, -, onward⟩ := writeParts_delivers _ (by decide) arrived
          have legal := not_not.mp legal
          refine ⟨header, sizes, contents, length, not_not.mp newline, scanned, legal,
            fun part => listed part (order_complete part), ?_, delivered.trans onward⟩
          have lengths : order.map (fun part => (contents part).length) = order.map sizes :=
            List.map_congr_left fun part inside => (listed part inside).1
          rw [List.length_append, List.length_flatMap, lengths, length, total_of_legal legal]

/-- Nothing of a package is there. -/
structure Server.Empty (server : Server) : Prop where
  files : ∀ part, server.files part = none
  release : server.release = []
  stagedAt : server.stagedAt = 0

theorem wipe_empty (server : Server) : server.wipe.Empty := ⟨fun _ => rfl, rfl, rfl⟩

theorem writePart_status (size : Nat) (transfer : Transfer) :
    (world.writePart size transfer).2.2 ≠ 200 := by
  fun_induction World.writePart world size transfer with
  | case1 => simp
  | case2 => simp
  | case3 => simp
  | case4 size transfer some data middle given written puts put more final status rest
      inductionHypothesis =>
      rw [rest] at inductionHypothesis
      exact inductionHypothesis

theorem writeParts_status (sizes : Part → Nat) (parts : List Part) (files : Files)
    (transfer : Transfer) : (world.writeParts sizes parts files transfer).2.2 ≠ 200 := by
  induction parts generalizing files transfer with
  | nil => simp [World.writeParts]
  | cons part parts inductionHypothesis =>
      have status := @writePart_status world (sizes part) transfer
      simp only [World.writeParts]
      split
      · simp
      split
      · exact inductionHypothesis _ _
      · exact status

theorem arrive_status (total : Nat) (files : Files) (transfer : Transfer) :
    (world.arrive total files transfer).2.2 ≠ 200 := by
  unfold World.arrive
  split
  · simp
  split
  · simp
  split
  · simp
  split
  · simp
  split
  · simp
  split
  · simp
  · exact writeParts_status _ _ _ _

theorem receivePackage_complete {total : Nat} {server final : Server} {transfer after : Transfer}
    (received : world.receivePackage total server transfer = (final, after, 200)) :
    Complete world total transfer final.files after := by
  obtain ⟨⟨files, middle, status⟩, arrived⟩ :
      ∃ result, world.arrive total server.files transfer = result := ⟨_, rfl⟩
  simp only [World.receivePackage, arrived] at received
  split at received
  · have other := @arrive_status world total server.files transfer
    rw [arrived] at other
    exact absurd (congrArg (fun result => result.2.2) received) other
  rename_i ended
  obtain rfl : status = 0 := not_not.mp ended
  split at received
  · cases received
  split at received
  · cases received
  split at received
  · cases received
  · cases received
    exact arrive_complete arrived

theorem updateReceive_complete {total : Nat} {server final : Server} {transfer after : Transfer}
    {status : Nat} (free : server.receiving = false) (ready : server.applying = false)
    (received : world.updateReceive total server transfer = (final, after, status)) :
    (status = 200 → Complete world total transfer final.files after) ∧
      (status ≠ 200 → final.Empty) := by
  obtain ⟨⟨staged, middle, result⟩, ran⟩ :
      ∃ result, world.receivePackage total { server.wipe with receiving := true, failed := [] }
        transfer = result := ⟨_, rfl⟩
  simp only [World.updateReceive, free, ready, Bool.false_eq_true, or_self, if_false, ran]
    at received
  cases received
  constructor
  · intro ended
    subst ended
    have complete := receivePackage_complete ran
    exact complete
  · intro failed
    rw [if_neg failed]
    exact wipe_empty _

/-- A package that was made arrives as its parts however it is divided, and exactly its
bytes are consumed. A receive that runs succeeds only with a package that is consistent
and complete and was written without a failure; else it leaves nothing. During another
receive or an installation a call fails and changes nothing. -/
theorem package_transfer (world : World) :
    (∀ (parts : Part → Text) (total : Nat) (first stream extra : Text) (files : Files),
      Obliging world → LegalSizes (fun part => (parts part).length) total →
        first ++ stream = package parts ++ extra →
          ∃ after, world.arrive total files ⟨first, stream, 0, 0⟩ =
            (fun part => some (parts part), after, 0) ∧ after.left = extra) ∧
      ∀ (server : Server) (total : Nat) (first stream : Text) (final : Server)
        (after : Transfer) (status : Nat),
        world.updateReceive total server ⟨first, stream, 0, 0⟩ = (final, after, status) →
          if server.receiving ∨ server.applying then
            status = 409 ∧ final = server ∧ after = ⟨first, stream, 0, 0⟩
          else
            (¬Complete world total ⟨first, stream, 0, 0⟩ final.files after → status ≠ 200) ∧
              (status ≠ 200 → final.Empty) := by
  constructor
  · intro parts total first stream extra files obliging legal sent
    exact @package_arrives world obliging parts total legal ⟨first, stream, 0, 0⟩ extra sent files
  · intro server total first stream final after status received
    split
    · rename_i busy
      rw [World.updateReceive, if_pos busy] at received
      cases received
      exact ⟨rfl, rfl, rfl⟩
    · rename_i free
      simp only [Bool.not_eq_true, not_or] at free
      obtain ⟨ended, failed⟩ := updateReceive_complete free.1 free.2 received
      exact ⟨fun incomplete success => incomplete (ended success), failed⟩

end Arrival

/-! ### One package -/

/-- Seven bytes at hand for every pull and three for every write. -/
def sampleWorld : World where
  arrivals _ := 7
  writes _ := 3
  made := true
  opens _ := true
  convert negative value :=
    if negative then (2 ^ 32 - value % 2 ^ 32) % 2 ^ 32 else value % 2 ^ 32
  verifier := acceptAll
  check := acceptAll
  now := 1

theorem sampleWorld_obliging : Obliging sampleWorld where
  arrivals _ := Nat.succ_pos 6
  writes _ := Nat.succ_pos 2
  made := rfl
  opens _ := rfl
  convert _ small := Nat.mod_eq_of_lt small

theorem samplePackage_legal :
    ∃ total, LegalSizes (fun part => (samplePackage part).length) total := by
  have manifest : 0 < (samplePackage .manifest).length ∧
      (samplePackage .manifest).length ≤ MANIFEST_MAX := by decide +kernel
  exact ⟨_, manifest.1, manifest.2, by decide, by decide, by decide, by decide, by decide,
    by decide, List.length_replicate, rfl⟩

/-- What a package left by an earlier receive looks like. -/
def stagedServer : Server := ⟨false, false, sampleRelease, 1, [], fun _ => some []⟩

/-- The first buffer holds a hundred bytes of the package; an upload of nothing. -/
theorem package_transfer_sample :
    (∃ total after, sampleWorld.arrive total (fun _ => none)
        ⟨(package samplePackage).take 100, (package samplePackage).drop 100, 0, 0⟩ =
          (fun part => some (samplePackage part), after, 0) ∧ after.left = []) ∧
      (sampleWorld.updateReceive 0 stagedServer ⟨[], [], 0, 0⟩).1.Empty := by
  constructor
  · obtain ⟨total, legal⟩ := samplePackage_legal
    have sent : (package samplePackage).take 100 ++ (package samplePackage).drop 100 =
        package samplePackage ++ [] :=
      (List.take_append_drop 100 _).trans (List.append_nil _).symm
    exact ⟨total, (package_transfer sampleWorld).1 samplePackage total
      ((package samplePackage).take 100) ((package samplePackage).drop 100) [] (fun _ => none)
      sampleWorld_obliging legal sent⟩
  · have ran : sampleWorld.updateReceive 0 stagedServer ⟨[], [], 0, 0⟩ =
        ({ stagedServer.wipe with receiving := false }, ⟨[], [], 0, 0⟩, 400) := by
      simp [World.updateReceive, World.receivePackage, World.arrive, HEADER, stagedServer,
        Server.wipe]
    have refused := (package_transfer sampleWorld).2 stagedServer 0 [] [] _ _ _ ran
    rw [if_neg (by decide)] at refused
    rw [ran]
    exact refused.2 (by decide)

end JooanW3U.Media.Package

import JooanW3U.Library.Crash
import Mathlib.Logic.Function.Basic

/-!
Owns the runtime slots and the selection record of `common.sh`: the text of the
record, `jl_read_selection`, `jl_write_selection`, `jl_verify_archive`,
`jl_prune_other_slots`, and what an interrupted one leaves behind.

Does not own the decisions of the boot script, the promotion helper or the
installers.
-/

namespace JooanW3U.Runtime

open JooanW3U.Library.Crash

abbrev Bytes := List UInt8

inductive Slot
  | A
  | B
deriving Repr, DecidableEq

def Slot.other : Slot → Slot
  | .A => .B
  | .B => .A

/-- The three directories of a slot: its name, with `.new`, with `.previous`. -/
inductive Stage
  | current
  | new
  | previous
deriving Repr, DecidableEq

/-- `runtime.tar.gz` and `runtime.md5`. -/
structure SlotDir where
  archive : Option Bytes
  digest : Option (List Char)
deriving Repr, DecidableEq

/-! ### The record -/

/-- The three fields of the record: stable slot, trial slot, trial attempted. -/
structure Record where
  stable : Option Slot
  pending : Option Slot
  attempted : Bool
deriving Repr, DecidableEq

def Record.empty : Record := ⟨none, none, false⟩

/-- The record of a runtime with no trial. -/
def Record.steady (slot : Option Slot) : Record := ⟨slot, none, false⟩

/-- What `jl_read_selection` accepts. -/
structure Record.Valid (record : Record) : Prop where
  apart : record.pending ≠ none → record.pending ≠ record.stable
  attempted : record.pending = none → record.attempted = false

def slotText : Option Slot → List Char
  | none => ['-']
  | some .A => ['A']
  | some .B => ['B']

/-- The line `jl_write_selection` prints. -/
def Record.text (record : Record) : List Char :=
  slotText record.stable ++ [' '] ++ slotText record.pending ++ [' '] ++
    [if record.attempted then '1' else '0', '\n']

def slotField (field : List Char) : Option (Option Slot) :=
  if field = ['-'] then some none
  else if field = ['A'] then some (some .A)
  else if field = ['B'] then some (some .B)
  else none

/-- Fields of a line as `read` splits them at blanks. -/
def fieldsOf (line : List Char) : List (List Char) := (line.splitOn ' ').filter (· ≠ [])

/-- `jl_read_selection`; `none` is a refusal. An absent record is empty. -/
def readSelection : Option (List Char) → Option Record
  | none => some .empty
  | some text =>
      if text.count '\n' ≠ 1 then none
      else
        match fieldsOf (text.takeWhile (· ≠ '\n')) with
        | [first, second, third] =>
            match slotField first, slotField second with
            | some stable, some pending =>
                if third ≠ ['0'] ∧ third ≠ ['1'] then none
                else
                  let record : Record := ⟨stable, pending, third = ['1']⟩
                  if pending ≠ none ∧ pending = stable then none
                  else if pending = none ∧ record.attempted = true then none
                  else some record
            | _, _ => none
        | _ => none

theorem readSelection_valid {text : Option (List Char)} {record : Record}
    (read : readSelection text = some record) : record.Valid := by
  unfold readSelection at read
  split at read
  · cases read
    exact ⟨fun named => absurd rfl named, fun _ => rfl⟩
  split at read
  · cases read
  split at read
  · split at read
    · split at read
      · cases read
      dsimp only at read
      split at read
      · cases read
      rename_i apart
      split at read
      · cases read
      rename_i unattempted
      cases read
      refine ⟨fun named same => apart ⟨named, same⟩, fun absent => ?_⟩
      exact Bool.eq_false_iff.mpr fun attempted => unattempted ⟨absent, attempted⟩
    · cases read
  · cases read

/-- A valid record that was written is read back. -/
theorem readSelection_text {record : Record} (valid : record.Valid) :
    readSelection (some record.text) = some record := by
  obtain ⟨stable, pending, attempted⟩ := record
  have apart := valid.apart
  have unattempted := valid.attempted
  rcases stable with _ | (_ | _) <;> rcases pending with _ | (_ | _) <;> cases attempted <;>
    first
    | rfl
    | cases unattempted rfl
    | exact absurd rfl (apart (Option.some_ne_none _))

theorem steady_valid (slot : Option Slot) : (Record.steady slot).Valid :=
  ⟨fun named => absurd rfl named, fun _ => rfl⟩

/-! ### The machine -/

/-- What the boots leave in their order, for statements about whole runs. -/
inductive Mark
  | booted
  | wrote (record : Record)
  | started (slot : Slot)
  | healthy (slot : Slot)
deriving Repr, DecidableEq

/-- The record and slots on flash, the volatile `running` file, the shell variable
`JL_SLOT_STARTED`, and the marks so far, newest first. -/
structure Machine where
  selection : Option (List Char)
  selectionNew : Option (List Char)
  dirs : Slot → Stage → Option SlotDir
  running : Option Slot
  slotStarted : Bool
  history : List Mark

/-- The digest programs of the camera. -/
structure Digests where
  md5 : Bytes → List Char
  sha256 : Bytes → List Char

/-- `$(cat file)`: the text without the newlines at its end. -/
def substituted (text : List Char) : List Char := (text.reverse.dropWhile (· = '\n')).reverse

def lowerHex (c : Char) : Bool := ('0' ≤ c && c ≤ '9') || ('a' ≤ c && c ≤ 'f')

/-- `jl_verify_archive` on the two files of a directory. -/
def verifyArchive (digests : Digests) : Option SlotDir → Bool
  | some ⟨some archive, some digest⟩ =>
      (substituted digest).length = 32 && (substituted digest).all lowerHex &&
        digests.md5 archive = substituted digest
  | _ => false

abbrev Shell := Script Machine

/-- `mv -f selection.new selection`. -/
def replaceSelection (record : Record) (mayFail : Bool) : Command Machine :=
  .atomic mayFail fun machine =>
    machine.selectionNew.map fun text =>
      { machine with
        selection := some text
        selectionNew := none
        history := .wrote record :: machine.history }

/-- `printf … > selection.new`, cut off after any number of characters. -/
def printSelection (record : Record) (mayFail : Bool) : Command Machine where
  effect machine := some { machine with selectionNew := some record.text }
  torn
    | 0, machine => machine
    | count + 1, machine => { machine with selectionNew := some (record.text.take count) }
  mayFail

/-- A storage command with no effect on what is modelled here (`mkdir -p`, `chmod`,
`sync`). -/
def housekeeping (mayFail : Bool) : Command Machine := .atomic mayFail some

/-- `jl_write_selection`. -/
def writeSelection (mayFail : Bool) (record : Record) : Shell Bool :=
  .steps
    [.run (housekeeping mayFail), .run (printSelection record mayFail),
      .run (housekeeping mayFail), .ignore (.run (housekeeping mayFail)),
      .run (replaceSelection record mayFail), .run (housekeeping mayFail)]

/-- What an interrupted `rm -rf` can leave of a directory. -/
def eroded (choice : Nat) (dir : Option SlotDir) : Option SlotDir :=
  match choice % 5 with
  | 0 => dir
  | 1 => dir.map fun files => { files with archive := none }
  | 2 => dir.map fun files => { files with digest := none }
  | 3 => dir.map fun _ => ⟨none, none⟩
  | _ => none

def Stage.place : Stage → Nat
  | .new => 1
  | .previous => 5
  | .current => 25

/-- `rm -rf` of the three directories of a slot. -/
def removeSlot (slot : Slot) (mayFail : Bool) : Command Machine where
  effect machine := some { machine with dirs := Function.update machine.dirs slot fun _ => none }
  torn choice machine :=
    { machine with
      dirs := Function.update machine.dirs slot fun stage =>
        eroded (choice / stage.place) (machine.dirs slot stage) }
  mayFail

/-- The slots `jl_prune_other_slots` removes. -/
def prunedSlots : Option Slot → List Slot
  | some slot => [slot.other]
  | none => [.A, .B]

/-- `jl_prune_other_slots`; the storage check at its end may fail. -/
def pruneOtherSlots (mayFail : Bool) (keep : Option Slot) : Shell Bool :=
  .steps
    ((prunedSlots keep).map (fun slot => .run (removeSlot slot mayFail)) ++
      [.ignore (.run (housekeeping mayFail)), .run .check])

/-! ### What writing and pruning can leave -/

/-- Everything but `selection.new` is as in `base`. -/
def Unwritten (base machine : Machine) : Prop :=
  machine = { base with selectionNew := machine.selectionNew }

/-- The record replaced the one of `base`. -/
def Written (base : Machine) (record : Record) (machine : Machine) : Prop :=
  machine =
    { base with
      selection := some record.text
      selectionNew := none
      history := .wrote record :: base.history }

theorem housekeeping_triple {pre : Machine → Prop} {mayFail : Bool} {post : Bool → Machine → Prop}
    {crash : Machine → Prop} (succeeds : ∀ machine, pre machine → post true machine)
    (fails : mayFail = true → ∀ machine, pre machine → post false machine)
    (cuts : ∀ machine, pre machine → crash machine) :
    Triple pre (.run (housekeeping mayFail)) post crash := by
  refine triple_run ?_ ?_ ?_
  · intro machine after holds effect
    cases Option.some.inj effect
    exact succeeds machine holds
  · intro machine _ effect
    cases effect
  · intro machine _ holds
    exact ⟨fun flaky => fails flaky machine holds, cuts machine holds⟩

/-- A write that stops early leaves the record as it was; one that ends with an
error can leave it either way. -/
theorem writeSelection_triple (base : Machine) (mayFail : Bool) (record : Record) :
    Triple (Unwritten base) (writeSelection mayFail record)
      (fun ok machine => (Written base record machine ∧ (ok = false → mayFail = true)) ∨
        (ok = false ∧ mayFail = true ∧ Unwritten base machine))
      (fun machine => Written base record machine ∨ Unwritten base machine) := by
  -- The new text is in `selection.new`; the record is still the old one.
  let ready : Machine → Prop := fun machine =>
    machine = { base with selectionNew := some record.text }
  have unwritten : ∀ machine, ready machine → Unwritten base machine := by
    rintro machine rfl
    rfl
  unfold writeSelection
  refine triple_steps_cons _ (housekeeping_triple (fun _ holds => holds)
    (fun flaky _ holds => .inr ⟨rfl, flaky, holds⟩) fun _ holds => .inr holds) ?_
  refine triple_steps_cons ready (triple_run ?_ ?_ ?_) ?_
  · intro machine after holds effect
    cases Option.some.inj effect
    have shape : machine = { base with selectionNew := machine.selectionNew } := holds
    rw [shape]
    rfl
  · intro machine _ effect
    cases effect
  · intro machine torn holds
    have partly : Unwritten base ((printSelection record mayFail).torn torn machine) := by
      have shape : machine = { base with selectionNew := machine.selectionNew } := holds
      rw [shape]
      cases torn <;> rfl
    exact ⟨fun flaky => .inr ⟨rfl, flaky, partly⟩, .inr partly⟩
  refine triple_steps_cons _ (housekeeping_triple (fun _ holds => holds)
    (fun flaky _ holds => .inr ⟨rfl, flaky, unwritten _ holds⟩)
    fun _ holds => .inr (unwritten _ holds)) ?_
  refine triple_steps_cons _ (triple_bind _ (housekeeping_triple (fun _ holds => holds)
    (fun _ _ holds => holds) fun _ holds => .inr (unwritten _ holds))
    fun _ => triple_pure fun _ holds => holds) ?_
  refine triple_steps_cons (Written base record) (triple_run ?_ ?_ ?_) ?_
  · rintro machine after rfl effect
    cases Option.some.inj effect
    rfl
  · rintro machine rfl effect
    cases effect
  · rintro machine torn holds
    exact ⟨fun flaky => .inr ⟨rfl, flaky, unwritten _ holds⟩, .inr (unwritten _ holds)⟩
  refine triple_steps_cons _ (housekeeping_triple (fun _ holds => holds)
    (fun flaky _ holds => .inl ⟨holds, fun _ => flaky⟩) fun _ holds => .inl holds) ?_
  exact triple_steps_nil fun _ holds => .inl ⟨holds, fun failed => by cases failed⟩

/-- Only directories of these slots differ from `base`. -/
structure SameButSlots (slots : List Slot) (base machine : Machine) : Prop where
  rest : machine = { base with dirs := machine.dirs }
  kept : ∀ slot, slot ∉ slots → machine.dirs slot = base.dirs slot

theorem sameButSlots_update {slots : List Slot} {base machine : Machine}
    (same : SameButSlots slots base machine) {slot : Slot} (member : slot ∈ slots)
    (dirs : Stage → Option SlotDir) :
    SameButSlots slots base { machine with dirs := Function.update machine.dirs slot dirs } where
  rest := by
    rw [same.rest]
  kept other outside := by
    have different : other ≠ slot := fun equal => outside (equal ▸ member)
    dsimp only
    rw [Function.update_of_ne different]
    exact same.kept other outside

theorem pruneOtherSlots_keeps (base : Machine) (mayFail : Bool) (keep : Option Slot) :
    Keeps (SameButSlots (prunedSlots keep) base) (pruneOtherSlots mayFail keep) := by
  refine keeps_steps fun step member => ?_
  rcases List.mem_append.mp member with removal | tail
  · obtain ⟨slot, pruned, rfl⟩ := List.mem_map.mp removal
    refine keeps_run ?_ ?_
    · intro machine after same effect
      cases Option.some.inj effect
      exact sameButSlots_update same pruned _
    · intro machine count same
      exact sameButSlots_update same pruned _
  · simp only [List.mem_cons, List.not_mem_nil, or_false] at tail
    rcases tail with rfl | rfl
    · exact keeps_ignore (keeps_atomic fun _ _ same effect => Option.some.inj effect ▸ same)
    · exact keeps_check

theorem sameButSlots_refl (slots : List Slot) (machine : Machine) :
    SameButSlots slots machine machine := ⟨rfl, fun _ _ => rfl⟩

theorem not_mem_prunedSlots (slot : Slot) : slot ∉ prunedSlots (some slot) := by
  cases slot <;> decide

/-- A cleanup around a slot leaves that slot alone. -/
theorem pruneOtherSlots_keeps_slot (mayFail : Bool) (slot : Slot)
    (dirs : Stage → Option SlotDir) :
    Keeps (fun machine => machine.dirs slot = dirs) (pruneOtherSlots mayFail (some slot)) :=
  keeps_of_relation (sameButSlots_refl _) (fun base => pruneOtherSlots_keeps base mayFail (some slot))
    fun _ _ known same => (same.kept slot (not_mem_prunedSlots slot)).trans known

/-- Writing the record leaves the slots alone. -/
theorem writeSelection_keeps_dirs (Property : (Slot → Stage → Option SlotDir) → Prop)
    (mayFail : Bool) (record : Record) :
    Keeps (fun machine => Property machine.dirs) (writeSelection mayFail record) := by
  have kept : Keeps (fun machine : Machine => Property machine.dirs)
      (.run (housekeeping mayFail)) :=
    keeps_atomic fun _ _ holds effect => Option.some.inj effect ▸ holds
  have printed : Keeps (fun machine : Machine => Property machine.dirs)
      (.run (printSelection record mayFail)) := by
    refine keeps_run (fun _ _ holds effect => Option.some.inj effect ▸ holds) ?_
    intro machine count holds
    cases count <;> exact holds
  have replaced : Keeps (fun machine : Machine => Property machine.dirs)
      (.run (replaceSelection record mayFail)) := by
    refine keeps_atomic fun machine after holds effect => ?_
    obtain ⟨text, -, rfl⟩ := Option.map_eq_some_iff.mp effect
    exact holds
  exact keeps_andThen kept (keeps_andThen printed (keeps_andThen kept
    (keeps_andThen (keeps_ignore kept) (keeps_andThen replaced
      (keeps_andThen kept (keeps_pure true))))))

end JooanW3U.Runtime

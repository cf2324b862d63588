import JooanW3U.Library.Crash
import JooanW3U.Library.History

/-!
Owns storage whose changes reach the medium late, scripts over it that leave marks
in a log, and latches: an attempt begins only while its marker is in every state a
power loss can bring back, so it is not repeated before it has settled.

Does not own the files, the marks or the attempts.
-/

namespace JooanW3U.Library

open Crash

universe u v

/-! ### Storage -/

/-- The files as running programs see them, and the earlier states a power loss can
still bring back. -/
structure Storage (Files : Type u) where
  live : Files
  behind : List Files
deriving Repr, DecidableEq

namespace Storage

variable {Files : Type u} {Property : Files → Prop}

def change (storage : Storage Files) (files : Files) : Storage Files :=
  ⟨files, storage.live :: storage.behind⟩

def sync (storage : Storage Files) : Storage Files := ⟨storage.live, []⟩

/-- After a power loss: the live files, or those of `lag` changes before. -/
def restart (storage : Storage Files) (lag : Nat) : Storage Files :=
  ⟨(storage.live :: storage.behind).getD lag storage.live, []⟩

/-- The files have the property, and still have it after a power loss. -/
structure Everywhere (Property : Files → Prop) (storage : Storage Files) : Prop where
  live : Property storage.live
  behind : ∀ files ∈ storage.behind, Property files

theorem Everywhere.change {storage : Storage Files} (everywhere : Everywhere Property storage)
    {files : Files} (holds : Property files) : Everywhere Property (storage.change files) := by
  refine ⟨holds, fun other member => ?_⟩
  rcases List.mem_cons.mp member with rfl | earlier
  · exact everywhere.live
  · exact everywhere.behind other earlier

theorem everywhere_sync {storage : Storage Files} (holds : Property storage.live) :
    Everywhere Property storage.sync :=
  ⟨holds, fun _ member => absurd member List.not_mem_nil⟩

theorem Everywhere.restart {storage : Storage Files} (everywhere : Everywhere Property storage)
    (lag : Nat) : Everywhere Property (storage.restart lag) := by
  refine ⟨?_, fun _ member => absurd member List.not_mem_nil⟩
  have each : ∀ files ∈ storage.live :: storage.behind, Property files := by
    intro files member
    rcases List.mem_cons.mp member with rfl | earlier
    · exact everywhere.live
    · exact everywhere.behind files earlier
  show Property ((storage.live :: storage.behind).getD lag storage.live)
  rw [List.getD_eq_getElem?_getD]
  cases found : (storage.live :: storage.behind)[lag]? with
  | none => exact everywhere.live
  | some files => exact each files (List.mem_of_getElem? found)

end Storage

/-! ### Devices -/

/-- Storage, and the marks that scripts have left so far, oldest first. -/
structure Device (Files : Type u) (Mark : Type v) where
  storage : Storage Files
  log : List Mark

namespace Device

variable {Files : Type u} {Mark : Type v}

def note (mark : Mark) (device : Device Files Mark) : Device Files Mark :=
  { device with log := device.log ++ [mark] }

def restart (device : Device Files Mark) (lag : Nat) : Device Files Mark :=
  { device with storage := device.storage.restart lag }

/-- A command on the live files; cut off, it leaves one of the states `torn`. -/
def file (mayFail : Bool) (effect : Files → Option Files) (torn : Nat → Files → Files) :
    Command (Device Files Mark) where
  effect device :=
    (effect device.storage.live).map fun files =>
      { device with storage := device.storage.change files }
  torn count device :=
    { device with storage := device.storage.change (torn count device.storage.live) }
  mayFail := mayFail

/-- Cut off before anything has changed, or halfway. -/
def torn (halfway : Files → Files) : Nat → Files → Files
  | 0, files => files
  | _ + 1, files => halfway files

def sync (mayFail : Bool) : Command (Device Files Mark) :=
  .atomic mayFail fun device => some { device with storage := device.storage.sync }

/-- A mark in the log, which nothing can interrupt. -/
def mark (mark : Mark) : Script (Device Files Mark) Bool := do
  Script.modify (note mark)
  pure true

theorem triple_mark {mark : Mark} {pre : Device Files Mark → Prop}
    {post : Bool → Device Files Mark → Prop} {crash : Device Files Mark → Prop}
    (holds : ∀ device, pre device → post true (device.note mark)) :
    Triple pre (Device.mark mark) post crash :=
  triple_bind (fun _ device => post true device) (triple_modify holds) fun _ =>
    triple_pure fun _ reached => reached

end Device

/-! ### Latches -/

/-- Marks that begin an attempt, settle it and are barred while it is not settled,
and the files that have its marker. -/
structure Latch (Files : Type u) (Mark : Type v) where
  begins : Mark → Bool
  settles : Mark → Bool
  barred : Mark → Bool
  latched : Files → Bool

namespace Latch

variable {Files : Type u} {Mark : Type v} (latch : Latch Files Mark)

def sets (mark : Mark) : Option Bool :=
  if latch.settles mark then some false else if latch.begins mark then some true else none

/-- An attempt has begun that has not settled. -/
def owed (log : List Mark) : Bool := lastSet latch.sets false log

def Latched (device : Device Files Mark) : Prop :=
  device.storage.Everywhere fun files => latch.latched files = true

/-- The marker stands while an attempt is owed, and no barred mark came then. -/
structure Holds (device : Device Files Mark) : Prop where
  marker : latch.owed device.log = true → latch.Latched device
  placed : Placed (fun before mark => latch.barred mark = true → latch.owed before = false)
    device.log

def Settled (device : Device Files Mark) : Prop :=
  latch.Holds device ∧ latch.owed device.log = false

def Armed (device : Device Files Mark) : Prop :=
  latch.Holds device ∧ latch.Latched device

/-- Nothing is owed and the marker stands: an attempt may begin. -/
def Ready (device : Device Files Mark) : Prop :=
  latch.Settled device ∧ latch.Latched device

variable {latch}

theorem holds_nil (storage : Storage Files) : latch.Holds ⟨storage, []⟩ :=
  ⟨fun owes => absurd owes Bool.false_ne_true, placed_nil _⟩

theorem Holds.settled {device : Device Files Mark} (holds : latch.Holds device)
    (missing : latch.latched device.storage.live = false) : latch.Settled device := by
  refine ⟨holds, ?_⟩
  cases owes : latch.owed device.log with
  | false => rfl
  | true => exact absurd ((holds.marker owes).live.symm.trans missing) Bool.true_eq_false.mp

theorem Holds.restart {device : Device Files Mark} (holds : latch.Holds device) (lag : Nat) :
    latch.Holds (device.restart lag) :=
  ⟨fun owes => (holds.marker owes).restart lag, holds.placed⟩

/-- A barred mark comes only when nothing is owed, and one that begins an attempt only
under the marker. -/
theorem Holds.note {device : Device Files Mark} {mark : Mark} (holds : latch.Holds device)
    (free : latch.barred mark = true → latch.owed device.log = false)
    (ready : latch.begins mark = true → latch.Latched device) :
    latch.Holds (device.note mark) := by
  refine ⟨fun owes => ?_, holds.placed.snoc free⟩
  have last : ((latch.sets mark).getD (latch.owed device.log)) = true := by
    rw [← owes]
    exact (lastSet_snoc latch.sets false device.log mark).symm
  unfold sets at last
  split at last
  · exact absurd last Bool.false_ne_true
  · split at last
    · rename_i begun
      exact ready begun
    · exact holds.marker last

/-- An attempt that has begun and not settled is owed. -/
theorem owed_of_split {before between : List Mark} {mark : Mark}
    (begun : latch.begins mark = true) (open_ : latch.settles mark = false)
    (unsettled : ∀ later ∈ between, latch.settles later = false) :
    latch.owed (before ++ mark :: between) = true := by
  refine lastSet_of_split latch.sets false ?_ fun later member other set => ?_
  · rw [sets, open_, begun]
    rfl
  · rw [sets, unsettled later member] at set
    cases starts : latch.begins later with
    | false =>
        rw [starts] at set
        exact absurd set nofun
    | true =>
        rw [starts] at set
        exact (Option.some.inj set).symm

/-- Between an attempt and a later barred mark the attempt has settled. -/
theorem Holds.settles_between {device : Device Files Mark} (holds : latch.Holds device)
    {before between after : List Mark} {mark later : Mark} (begun : latch.begins mark = true)
    (open_ : latch.settles mark = false) (barred : latch.barred later = true)
    (split : device.log = before ++ mark :: (between ++ later :: after)) :
    ∃ settled ∈ between, latch.settles settled = true := by
  have shape : device.log = (before ++ mark :: between) ++ later :: after := by
    rw [split, List.append_assoc, List.cons_append]
  have free := holds.placed _ _ _ shape barred
  by_contra none
  have unsettled : ∀ other ∈ between, latch.settles other = false := by
    intro other member
    exact Bool.eq_false_iff.mpr fun settled => none ⟨other, member, settled⟩
  exact absurd (free.symm.trans (owed_of_split begun open_ unsettled)) Bool.false_ne_true

/-! ### Rules -/

section Rules

variable {mayFail : Bool} {effect : Files → Option Files} {torn : Nat → Files → Files}

/-- File commands that do not take the marker away. -/
structure Respects (latch : Latch Files Mark) (effect : Files → Option Files)
    (torn : Nat → Files → Files) : Prop where
  effect : ∀ files after, latch.latched files = true → effect files = some after →
    latch.latched after = true
  torn : ∀ count files, latch.latched files = true → latch.latched (torn count files) = true

theorem respects_torn {halfway : Files → Files}
    (changed : ∀ files after, latch.latched files = true → effect files = some after →
      latch.latched after = true)
    (tore : ∀ files, latch.latched files = true → latch.latched (halfway files) = true) :
    latch.Respects effect (Device.torn halfway) where
  effect := changed
  torn count files latched := by
    cases count with
    | zero => exact latched
    | succ count => exact tore files latched

theorem Respects.keeps_latched (respects : latch.Respects effect torn) :
    Keeps latch.Latched (.run (Device.file mayFail effect torn)) := by
  refine keeps_run (fun device after latched changed => ?_) fun device count latched => ?_
  · obtain ⟨files, found, rfl⟩ := Option.map_eq_some_iff.mp changed
    exact latched.change (respects.effect _ _ latched.live found)
  · exact latched.change (respects.torn count _ latched.live)

theorem Respects.changed (respects : latch.Respects effect torn) {device : Device Files Mark}
    (holds : latch.Holds device) {files : Files} (found : effect device.storage.live = some files) :
    latch.Holds { device with storage := device.storage.change files } :=
  ⟨fun owes => (holds.marker owes).change (respects.effect _ _ (holds.marker owes).live found),
    holds.placed⟩

theorem Respects.tore (respects : latch.Respects effect torn) {device : Device Files Mark}
    (holds : latch.Holds device) (count : Nat) :
    latch.Holds { device with storage := device.storage.change (torn count device.storage.live) } :=
  ⟨fun owes => (holds.marker owes).change (respects.torn count _ (holds.marker owes).live),
    holds.placed⟩

theorem Respects.keeps_holds (respects : latch.Respects effect torn) :
    Keeps latch.Holds (.run (Device.file mayFail effect torn)) := by
  refine keeps_run (fun device after holds changed => ?_) fun device count holds =>
    respects.tore holds count
  obtain ⟨files, found, rfl⟩ := Option.map_eq_some_iff.mp changed
  exact respects.changed holds found

/-- Once nothing is owed, any files will do. -/
theorem Settled.withStorage {device : Device Files Mark} (settled : latch.Settled device)
    (storage : Storage Files) : latch.Settled { device with storage := storage } :=
  ⟨⟨fun owes => absurd (settled.2.symm.trans owes) Bool.false_ne_true, settled.1.placed⟩,
    settled.2⟩

theorem keeps_settled_file : Keeps latch.Settled (.run (Device.file mayFail effect torn)) := by
  refine keeps_run (fun device after settled changed => ?_) fun device _ settled =>
    settled.withStorage _
  obtain ⟨files, -, rfl⟩ := Option.map_eq_some_iff.mp changed
  exact settled.withStorage _

/-- A command that puts the marker in place, where it succeeds. -/
theorem triple_marker_file
    (puts : ∀ files after, effect files = some after → latch.latched after = true) :
    Triple latch.Settled (.run (Device.file mayFail effect torn))
      (fun ok device => if ok then latch.Settled device ∧ latch.latched device.storage.live = true
        else latch.Settled device) latch.Settled := by
  refine triple_run (fun device after settled changed => ?_) (fun _ settled _ => settled)
    fun device count settled => ?_
  · obtain ⟨files, found, rfl⟩ := Option.map_eq_some_iff.mp changed
    exact ⟨settled.withStorage _, puts _ _ found⟩
  · exact ⟨fun _ => settled.withStorage _, settled.withStorage _⟩

/-- A `sync` that succeeds makes the marker in place durable. -/
theorem triple_marker_sync :
    Triple (fun device => latch.Settled device ∧ latch.latched device.storage.live = true)
      (.run (Device.sync mayFail))
      (fun ok device => if ok then latch.Ready device else latch.Settled device)
      latch.Settled := by
  refine triple_run (fun device after placed changed => ?_)
    (fun _ _ changed => absurd changed nofun) fun _ _ placed => ⟨fun _ => placed.1, placed.1⟩
  cases Option.some.inj changed
  exact ⟨placed.1.withStorage _, Storage.everywhere_sync placed.2⟩

theorem keeps_latched_sync : Keeps latch.Latched (.run (Device.sync mayFail)) := by
  refine keeps_atomic fun device after latched changed => ?_
  cases Option.some.inj changed
  exact Storage.everywhere_sync latched.live

theorem keeps_holds_sync : Keeps latch.Holds (.run (Device.sync mayFail)) := by
  refine keeps_atomic fun device after holds changed => ?_
  cases Option.some.inj changed
  exact ⟨fun owes => Storage.everywhere_sync (holds.marker owes).live, holds.placed⟩

theorem keeps_settled_sync : Keeps latch.Settled (.run (Device.sync mayFail)) := by
  refine keeps_atomic fun device after settled changed => ?_
  cases Option.some.inj changed
  exact settled.withStorage _

end Rules

section Marks

variable {mark : Mark}

theorem keeps_latched_mark : Keeps latch.Latched (Device.mark mark) :=
  Device.triple_mark fun _ latched => latched

/-- A mark that is not barred and begins nothing; it may settle. -/
theorem keeps_holds_mark (quiet : latch.begins mark = false) (free : latch.barred mark = false) :
    Keeps latch.Holds (Device.mark mark) :=
  Device.triple_mark fun _ holds =>
    holds.note (fun barred => absurd (free.symm.trans barred) Bool.false_ne_true)
      fun begun => absurd (quiet.symm.trans begun) Bool.false_ne_true

theorem Settled.note {device : Device Files Mark} (settled : latch.Settled device)
    (quiet : latch.begins mark = false) : latch.Settled (device.note mark) := by
  refine ⟨settled.1.note (fun _ => settled.2)
    fun begun => absurd (quiet.symm.trans begun) Bool.false_ne_true, ?_⟩
  show lastSet latch.sets false (device.log ++ [mark]) = false
  rw [lastSet_snoc, show lastSet latch.sets false device.log = false from settled.2, sets, quiet]
  split <;> rfl

theorem keeps_settled_mark (quiet : latch.begins mark = false) :
    Keeps latch.Settled (Device.mark mark) :=
  Device.triple_mark fun _ settled => settled.note quiet

/-- The mark that settles an attempt, whatever was owed. -/
theorem Holds.settle {device : Device Files Mark} (holds : latch.Holds device)
    (settles : latch.settles mark = true) (quiet : latch.begins mark = false)
    (free : latch.barred mark = false) : latch.Settled (device.note mark) := by
  refine ⟨holds.note (fun barred => absurd (free.symm.trans barred) Bool.false_ne_true)
    fun begun => absurd (quiet.symm.trans begun) Bool.false_ne_true, ?_⟩
  show lastSet latch.sets false (device.log ++ [mark]) = false
  rw [lastSet_snoc, sets, settles]
  rfl

end Marks

end Latch

end JooanW3U.Library

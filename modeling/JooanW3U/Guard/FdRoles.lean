import Mathlib.Algebra.Ring.Nat
import JooanW3U.Library.Descriptors

/-!
Owns the guard's table of descriptor roles as src/guard/guard_shim.c keeps it: the
interposed open, close, dup, dup2, dup3, fcntl, write, writev and ioctl of the OEM process,
the talkback's submissions, and what they let through to the drivers.

Does not own the network calls, nor the microphone tap and the read-only DSP role, which
only the test build has.
-/

namespace JooanW3U.Guard

open JooanW3U.Library

namespace FdRoles

/-- The `unsigned char` of one descriptor. -/
abbrev Role := BitVec 8

def FD_ROLE_DSP_WRITE : Role := 0x01
def FD_ROLE_SPEAKER_DIRECTION : Role := 0x04
def FD_ROLE_SPEAKER_VALUE : Role := 0x08

def GUARD_TRACKED_FDS : Int := 1024
def SSIZE_MAX : Nat := 2 ^ 31 - 1
def UINT32_MAX : Nat := 2 ^ 32 - 1

def O_ACCMODE : Nat := 3
def O_RDONLY : Nat := 0
def O_WRONLY : Nat := 1

def JOOAN_GUARD_DSP_PATH : String := "/dev/dsp"
def JOOAN_GUARD_SPEAKER_DIRECTION_PATH : String := "/sys/class/gpio/gpio63/direction"
def JOOAN_GUARD_SPEAKER_VALUE_PATH : String := "/sys/class/gpio/gpio63/value"
def JOOAN_GUARD_AO_PLAY_IOCTL : Nat := 0x40085063

/-- The bytes of "out" and of the two levels. -/
def directionOut : List UInt8 := [0x6f, 0x75, 0x74]
def JOOAN_GUARD_SPEAKER_ENABLED_LEVEL : UInt8 := 0x30
def JOOAN_GUARD_SPEAKER_MUTED_LEVEL : UInt8 := 0x31

/-! ## State -/

/-- An open file, by what it was opened with. -/
structure File where
  path : String
  flags : Nat
deriving Repr, DecidableEq

inductive Source
  | oem
  | guard
deriving Repr, DecidableEq

/-- What a call passed to a file's driver, and whose data it was. -/
inductive DriverCall
  | write (file : File) (source : Source) (bytes : List UInt8)
  | ioctl (file : File) (source : Source) (request : Nat)
deriving Repr, DecidableEq

inductive Errno
  | eacces
  | ebadf
  | einval
  | eio
  | kernel (number : Nat)
deriving Repr, DecidableEq

structure State where
  files : Descriptors File
  fd_roles : Int → Role
  dsp_descriptor : Int
  speaker_enabled : Bool
  /-- What the interposed calls and the submissions have passed to drivers. -/
  driver : List DriverCall

/-- A call's return value, and the state after it. -/
abbrev Reply (α : Type) : Type := Except Errno α × State

/-- The libc call, on what the descriptor refers to. -/
def passed {α : Type} (s : State) (descriptor : Int) (answer : Except Errno α)
    (call : File → DriverCall) : Reply α :=
  match s.files descriptor with
  | none => (.error .ebadf, s)
  | some file => (answer, { s with driver := s.driver ++ [call file] })

/-! ## Roles -/

def tracked (descriptor : Int) : Prop :=
  0 ≤ descriptor ∧ descriptor < GUARD_TRACKED_FDS

instance (descriptor : Int) : Decidable (tracked descriptor) :=
  inferInstanceAs (Decidable (_ ∧ _))

def fd_role_load (s : State) (descriptor : Int) : Role :=
  if tracked descriptor then s.fd_roles descriptor else 0

/-- `(role & mask) != 0`. -/
def has (role mask : Role) : Bool :=
  role &&& mask != 0

def find_role_fd (s : State) (role : Role) (excluded : Int) : Int :=
  match (List.range 1024).find? fun descriptor : Nat =>
      decide ((descriptor : Int) ≠ excluded) && has (fd_role_load s descriptor) role with
  | some descriptor => descriptor
  | none => -1

def setRole (s : State) (descriptor : Int) (role : Role) : State :=
  { s with fd_roles := Function.update s.fd_roles descriptor role }

/-- What all three functions do to the current descriptor once a role is stored. -/
def follow (s : State) (descriptor : Int) (role previous : Role) : State :=
  if has role FD_ROLE_DSP_WRITE then { s with dsp_descriptor := descriptor }
  else if has previous FD_ROLE_DSP_WRITE ∧ s.dsp_descriptor = descriptor then
    { s with dsp_descriptor := find_role_fd s FD_ROLE_DSP_WRITE descriptor }
  else s

def track_fresh_fd (s : State) (descriptor : Int) (role : Role) : State :=
  if ¬tracked descriptor then s
  else follow (setRole s descriptor role) descriptor role (s.fd_roles descriptor)

def untrack_fd (s : State) (descriptor : Int) : State :=
  if ¬tracked descriptor then s
  else follow (setRole s descriptor 0) descriptor 0 (s.fd_roles descriptor)

def assign_duplicated_fd_locked (s : State) (destination : Int) (roles previous : Role) : State :=
  if ¬tracked destination then s
  else follow (setRole s destination roles) destination roles previous

def disable_dsp_if_current (s : State) (descriptor : Int) : State :=
  let cleared :=
    if tracked descriptor then
      setRole s descriptor (s.fd_roles descriptor &&& ~~~FD_ROLE_DSP_WRITE)
    else s
  if cleared.dsp_descriptor = descriptor then
    { cleared with dsp_descriptor := find_role_fd cleared FD_ROLE_DSP_WRITE descriptor }
  else cleared

/-! ## open, close and the duplications -/

/-- `open` and `open64`. -/
def guarded_open (s : State) (path : String) (flags : Nat) (choice : Option Int) : State :=
  let opened := s.files.install GUARD_TRACKED_FDS ⟨path, flags⟩ choice
  let s := { s with files := opened.2 }
  match opened.1 with
  | none => s
  | some descriptor =>
      if path = JOOAN_GUARD_DSP_PATH then
        if flags &&& O_ACCMODE = O_WRONLY then track_fresh_fd s descriptor FD_ROLE_DSP_WRITE else s
      else if flags &&& O_ACCMODE ≠ O_RDONLY ∧ path = JOOAN_GUARD_SPEAKER_DIRECTION_PATH then
        track_fresh_fd s descriptor FD_ROLE_SPEAKER_DIRECTION
      else if flags &&& O_ACCMODE ≠ O_RDONLY ∧ path = JOOAN_GUARD_SPEAKER_VALUE_PATH then
        track_fresh_fd s descriptor FD_ROLE_SPEAKER_VALUE
      else s

/-- The number is given back by the kernel even where its close reports an error. -/
def close (s : State) (descriptor : Int) : State :=
  let untracked := untrack_fd s descriptor
  { untracked with files := untracked.files.close descriptor }

/-- The new descriptor, where there is one, takes the roles the source had before. -/
def assigned (s : State) (roles : Role) (result : Option Int × Descriptors File) : State :=
  match result.1 with
  | none => { s with files := result.2 }
  | some destination =>
      assign_duplicated_fd_locked { s with files := result.2 } destination roles
        (fd_role_load s destination)

def dup (s : State) (descriptor : Int) (choice : Option Int) : State :=
  assigned s (fd_role_load s descriptor) (s.files.dup GUARD_TRACKED_FDS descriptor choice)

def duplicate_to_tracked_fd (s : State) (descriptor destination : Int) (use_dup3 succeeds : Bool) :
    State :=
  if descriptor = destination ∧ use_dup3 = false then
    { s with files := (s.files.dup2 GUARD_TRACKED_FDS descriptor destination succeeds).2 }
  else
    assigned s (fd_role_load s descriptor)
      (if use_dup3 then s.files.dup3 GUARD_TRACKED_FDS descriptor destination succeeds
       else s.files.dup2 GUARD_TRACKED_FDS descriptor destination succeeds)

def F_DUPFD : Nat := 0
def F_DUPFD_CLOEXEC : Nat := 1030

/-- Commands other than the duplications leave the descriptors as they are. -/
def fcntl (s : State) (descriptor : Int) (command : Nat) (choice : Option Int) : State :=
  if command = F_DUPFD ∨ command = F_DUPFD_CLOEXEC then dup s descriptor choice else s

/-! ## write, writev and ioctl -/

def level (s : State) : UInt8 :=
  if s.speaker_enabled then JOOAN_GUARD_SPEAKER_ENABLED_LEVEL else JOOAN_GUARD_SPEAKER_MUTED_LEVEL

/-- What the guard writes for the OEM. -/
def confined (s : State) (role : Role) : List UInt8 :=
  if has role FD_ROLE_SPEAKER_DIRECTION then directionOut else [level s]

def speaker_confined_write (s : State) (descriptor : Int) (role : Role) (reported_length : Nat)
    (answer : Except Errno Nat) : Reply Nat :=
  if reported_length > SSIZE_MAX then (.error .einval, s)
  else
    match passed s descriptor answer (.write · .guard (confined s role)) with
    | (.error errno, s') => (.error errno, s')
    | (.ok amount, s') =>
        if amount = (confined s role).length then (.ok reported_length, s') else (.error .eio, s')

/-- `peer` says that the descriptor is a socket with a peer that is not allowed. -/
def write (s : State) (descriptor : Int) (bytes : List UInt8) (peer : Bool)
    (answer : Except Errno Nat) : Reply Nat :=
  let roles := fd_role_load s descriptor
  if has roles (FD_ROLE_SPEAKER_DIRECTION ||| FD_ROLE_SPEAKER_VALUE) then
    speaker_confined_write s descriptor roles bytes.length answer
  else if !has roles FD_ROLE_DSP_WRITE && peer then (.error .eacces, s)
  else if has roles FD_ROLE_DSP_WRITE then
    if bytes.length > SSIZE_MAX then (.error .einval, s) else (.ok bytes.length, s)
  else passed s descriptor answer (.write · .oem bytes)

/-- The length of the first vectors, where it fits. -/
def vectorLength (vectors : Option (List (List UInt8))) (count : Int) : Option Nat :=
  if count < 0 then none
  else
    match vectors with
    | none => if count = 0 then some 0 else none
    | some vectors =>
        let length := ((vectors.take count.toNat).map List.length).sum
        if length ≤ SSIZE_MAX then some length else none

def writev (s : State) (descriptor : Int) (vectors : Option (List (List UInt8))) (count : Int)
    (peer : Bool) (answer : Except Errno Nat) : Reply Nat :=
  let roles := fd_role_load s descriptor
  if has roles (FD_ROLE_SPEAKER_DIRECTION ||| FD_ROLE_SPEAKER_VALUE) then
    match vectorLength vectors count with
    | none => (.error .einval, s)
    | some length => speaker_confined_write s descriptor roles length answer
  else if !has roles FD_ROLE_DSP_WRITE && peer then (.error .eacces, s)
  else if has roles FD_ROLE_DSP_WRITE then
    match vectorLength vectors count with
    | none => (.error .einval, s)
    | some length => (.ok length, s)
  else
    passed s descriptor answer (.write · .oem ((vectors.getD []).take count.toNat).flatten)

def ioctl (s : State) (descriptor : Int) (request : Nat) (answer : Except Errno Nat) : Reply Nat :=
  if has (fd_role_load s descriptor) FD_ROLE_DSP_WRITE ∧ request = JOOAN_GUARD_AO_PLAY_IOCTL then
    (.ok 0, s)
  else passed s descriptor answer (.ioctl · .oem request)

/-! ## Talkback -/

/-- The driver's answer to one submission: EINTR, or a result and how much it consumed. -/
inductive Answer
  | interrupted
  | returned (result : Int) (consumed : Nat)
deriving Repr, DecidableEq

def submitted (s : State) (descriptor : Int) : State :=
  (passed s descriptor (.ok ()) (.ioctl · .guard JOOAN_GUARD_AO_PLAY_IOCTL)).2

/-- Whether all was consumed. Nothing, while the answers have not ended the loop. -/
def submit_pcm_locked (descriptor : Int) : List Answer → Nat → State → Option (Bool × State)
  | _, 0, s => some (true, s)
  | [], _ + 1, _ => none
  | .interrupted :: answers, remaining + 1, s =>
      submit_pcm_locked descriptor answers (remaining + 1) (submitted s descriptor)
  | .returned result consumed :: answers, remaining + 1, s =>
      if result ≠ 0 ∨ consumed = 0 ∨ consumed > min (remaining + 1) UINT32_MAX then
        some (false, disable_dsp_if_current (submitted s descriptor) descriptor)
      else submit_pcm_locked descriptor answers (remaining + 1 - consumed) (submitted s descriptor)

/-- The level is read back, `succeeds` when it is the one that was written. -/
def speaker_set_enabled (s : State) (enabled succeeds : Bool) : State :=
  { s with speaker_enabled := succeeds && enabled }

/-- A PCM frame in `talkback_main`, under the DSP lock. -/
def talkback (s : State) (answers : List Answer) (length : Nat) (enables : Bool) : State :=
  if 0 ≤ s.dsp_descriptor then
    match submit_pcm_locked s.dsp_descriptor answers length s with
    | none => s
    | some (true, s') =>
        if s'.speaker_enabled then s'
        else if enables then speaker_set_enabled s' true true
        else speaker_set_enabled s' false true
    | some (false, s') => speaker_set_enabled s' false true
  else speaker_set_enabled s false true

/-! ## Runs -/

inductive Event
  | opens (path : String) (flags : Nat) (choice : Option Int)
  | closes (descriptor : Int)
  | dups (descriptor : Int) (choice : Option Int)
  | dupsTo (descriptor destination : Int) (use_dup3 succeeds : Bool)
  | fcntls (descriptor : Int) (command : Nat) (choice : Option Int)
  | writes (descriptor : Int) (bytes : List UInt8) (peer : Bool) (answer : Except Errno Nat)
  | writevs (descriptor : Int) (vectors : Option (List (List UInt8))) (count : Int) (peer : Bool)
      (answer : Except Errno Nat)
  | ioctls (descriptor : Int) (request : Nat) (answer : Except Errno Nat)
  | talkbacks (answers : List Answer) (length : Nat) (enables : Bool)
  | speaker (enabled succeeds : Bool)

def step (s : State) : Event → State
  | .opens path flags choice => guarded_open s path flags choice
  | .closes descriptor => close s descriptor
  | .dups descriptor choice => dup s descriptor choice
  | .dupsTo descriptor destination use_dup3 succeeds =>
      duplicate_to_tracked_fd s descriptor destination use_dup3 succeeds
  | .fcntls descriptor command choice => fcntl s descriptor command choice
  | .writes descriptor bytes peer answer => (write s descriptor bytes peer answer).2
  | .writevs descriptor vectors count peer answer =>
      (writev s descriptor vectors count peer answer).2
  | .ioctls descriptor request answer => (ioctl s descriptor request answer).2
  | .talkbacks answers length enables => talkback s answers length enables
  | .speaker enabled succeeds => speaker_set_enabled s enabled succeeds

end FdRoles

end JooanW3U.Guard

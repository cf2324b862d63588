import JooanW3U.Guard.FdRoles
import JooanW3U.Library.Runs

/-!
Owns what the guard's roles are for: each descriptor carries the role of its file, no OEM
playback reaches the driver, and the speaker's pins get the guard's own levels; through
every call, and up to the first talkback submission that the driver refuses.
-/

namespace JooanW3U.Guard

open JooanW3U.Library

namespace FdRoles

/-- The role of a file: playback is a write-only open of the DSP, the speaker's pins are
guarded in every open that can write. -/
def File.role (file : File) : Role :=
  if file.path = JOOAN_GUARD_DSP_PATH then
    if file.flags &&& O_ACCMODE = O_WRONLY then FD_ROLE_DSP_WRITE else 0
  else if file.flags &&& O_ACCMODE ≠ O_RDONLY ∧ file.path = JOOAN_GUARD_SPEAKER_DIRECTION_PATH then
    FD_ROLE_SPEAKER_DIRECTION
  else if file.flags &&& O_ACCMODE ≠ O_RDONLY ∧ file.path = JOOAN_GUARD_SPEAKER_VALUE_PATH then
    FD_ROLE_SPEAKER_VALUE
  else 0

def File.speaker (file : File) : Prop :=
  file.role = FD_ROLE_SPEAKER_DIRECTION ∨ file.role = FD_ROLE_SPEAKER_VALUE

theorem role_cases (file : File) :
    file.role = 0 ∨ file.role = FD_ROLE_DSP_WRITE ∨ file.speaker := by
  unfold File.speaker File.role
  split
  · split
    · exact .inr (.inl rfl)
    · exact .inl rfl
  · split
    · exact .inr (.inr (.inl rfl))
    · split
      · exact .inr (.inr (.inr rfl))
      · exact .inl rfl

theorem has_playback (file : File) :
    has file.role FD_ROLE_DSP_WRITE = true ↔ file.role = FD_ROLE_DSP_WRITE := by
  rcases role_cases file with role | role | role | role <;> rw [role] <;> decide

theorem has_speaker (file : File) :
    has file.role (FD_ROLE_SPEAKER_DIRECTION ||| FD_ROLE_SPEAKER_VALUE) = true ↔
      file.speaker := by
  unfold File.speaker
  rcases role_cases file with role | role | role | role <;> rw [role] <;> decide

/-- What may reach a driver. -/
def Allowed : DriverCall → Prop
  | .write file .oem _ => file.role = 0
  | .write file .guard bytes =>
      (file.role = FD_ROLE_SPEAKER_DIRECTION ∧ bytes = directionOut) ∨
        (file.role = FD_ROLE_SPEAKER_VALUE ∧
          (bytes = [JOOAN_GUARD_SPEAKER_ENABLED_LEVEL] ∨ bytes = [JOOAN_GUARD_SPEAKER_MUTED_LEVEL]))
  | .ioctl file .oem request =>
      ¬(file.role = FD_ROLE_DSP_WRITE ∧ request = JOOAN_GUARD_AO_PLAY_IOCTL)
  | .ioctl file .guard _ => file.role = FD_ROLE_DSP_WRITE

/-- The role recorded for each open descriptor is its file's, closed descriptors have
none, and nothing else than what may has reached a driver. -/
structure Faithful (s : State) : Prop where
  labelled : Descriptors.Labelled 0 File.role s.fd_roles s.files
  inRange : ∀ descriptor file, s.files descriptor = some file → tracked descriptor
  current : s.dsp_descriptor ≠ -1 → has (s.fd_roles s.dsp_descriptor) FD_ROLE_DSP_WRITE = true
  driver : ∀ call ∈ s.driver, Allowed call

namespace Faithful

variable {s : State}

theorem load (faithful : Faithful s) (descriptor : Int) :
    fd_role_load s descriptor = (s.files descriptor).elim 0 File.role := by
  unfold fd_role_load
  split
  · exact faithful.labelled descriptor
  · next outside =>
      cases opened : s.files descriptor with
      | none => rfl
      | some file => exact absurd (faithful.inRange descriptor file opened) outside

theorem load_eq (faithful : Faithful s) (descriptor : Int) :
    fd_role_load s descriptor = s.fd_roles descriptor :=
  (faithful.load descriptor).trans (faithful.labelled descriptor).symm

/-- A descriptor with a role is open. -/
theorem opened (faithful : Faithful s) {descriptor : Int} {mask : Role}
    (held : has (s.fd_roles descriptor) mask = true) :
    ∃ file, s.files descriptor = some file ∧ s.fd_roles descriptor = file.role := by
  have role := faithful.labelled descriptor
  cases found : s.files descriptor with
  | none =>
      rw [role, found] at held
      simp [has] at held
  | some file =>
      rw [found] at role
      exact ⟨file, rfl, role⟩

/-- The current playback descriptor, where there is one. -/
theorem playback (faithful : Faithful s) (current : s.dsp_descriptor ≠ -1) :
    ∃ file, s.files s.dsp_descriptor = some file ∧ file.role = FD_ROLE_DSP_WRITE := by
  have held := faithful.current current
  obtain ⟨file, found, role⟩ := faithful.opened held
  rw [role] at held
  exact ⟨file, found, (has_playback file).mp held⟩

/-- A call passed on to a file that it may reach. -/
theorem passed (faithful : Faithful s) {α : Type} {descriptor : Int} {answer : Except Errno α}
    {call : File → DriverCall}
    (allowed : ∀ file, s.files descriptor = some file → Allowed (call file)) :
    Faithful (passed s descriptor answer call).2 := by
  unfold FdRoles.passed
  cases found : s.files descriptor with
  | none => exact faithful
  | some file =>
      refine ⟨faithful.labelled, faithful.inRange, faithful.current, ?_⟩
      intro other member
      rcases List.mem_append.mp member with before | last
      · exact faithful.driver other before
      · rw [List.mem_singleton.mp last]
        exact allowed file found

end Faithful

/-! ## The current descriptor -/

theorem find_role_fd_holds {s : State} {role : Role} {excluded : Int}
    (found : find_role_fd s role excluded ≠ -1) :
    has (s.fd_roles (find_role_fd s role excluded)) role = true := by
  unfold find_role_fd at found ⊢
  split at found
  · next descriptor some =>
      have met := List.find?_some some
      have inside : tracked (descriptor : Int) := by
        have := List.mem_range.mp (List.mem_of_find?_eq_some some)
        unfold tracked GUARD_TRACKED_FDS
        omega
      simp only [Bool.and_eq_true, fd_role_load, if_pos inside] at met
      exact met.2
  · exact absurd rfl found

/-- The fields that a role's storing leaves alone, and the descriptor that is current after
it. -/
theorem follow_fields (s : State) (descriptor : Int) (role previous : Role) :
    (follow s descriptor role previous).fd_roles = s.fd_roles ∧
      (follow s descriptor role previous).files = s.files ∧
      (follow s descriptor role previous).driver = s.driver := by
  unfold follow
  split
  · exact ⟨rfl, rfl, rfl⟩
  · split <;> exact ⟨rfl, rfl, rfl⟩

/-- After a role was stored, the current descriptor still has the playback role. -/
theorem follow_current {s : State} {descriptor : Int} {role : Role}
    (current : s.dsp_descriptor ≠ -1 → has (s.fd_roles s.dsp_descriptor) FD_ROLE_DSP_WRITE = true) :
    let stored := follow (setRole s descriptor role) descriptor role (s.fd_roles descriptor)
    stored.dsp_descriptor ≠ -1 →
      has (stored.fd_roles stored.dsp_descriptor) FD_ROLE_DSP_WRITE = true := by
  intro stored some
  show has (stored.fd_roles stored.dsp_descriptor) FD_ROLE_DSP_WRITE = true
  rw [(follow_fields ..).1]
  unfold stored follow at some ⊢
  split at some
  · next held =>
      rw [if_pos held]
      show has (Function.update s.fd_roles descriptor role descriptor) FD_ROLE_DSP_WRITE = true
      rw [Function.update_self, held]
  · next not =>
      rw [if_neg not]
      split at some
      · next moved =>
          rw [if_pos moved]
          dsimp only at some ⊢
          exact find_role_fd_holds some
      · next kept =>
          rw [if_neg kept]
          show has (Function.update s.fd_roles descriptor role s.dsp_descriptor) _ = true
          have held := current some
          by_cases same : s.dsp_descriptor = descriptor
          · rw [same] at held
            exact absurd ⟨held, same⟩ kept
          · rw [Function.update_of_ne same, held]

/-- Storing a file's role with the file keeps the table faithful. -/
theorem stored_faithful {s : State} (faithful : Faithful s) {descriptor : Int}
    (inside : tracked descriptor) (file : Option File) :
    Faithful (follow (setRole { s with files := s.files.put descriptor file } descriptor
      (file.elim 0 File.role)) descriptor (file.elim 0 File.role) (s.fd_roles descriptor)) := by
  have fields := follow_fields (setRole { s with files := s.files.put descriptor file } descriptor
    (file.elim 0 File.role)) descriptor (file.elim 0 File.role) (s.fd_roles descriptor)
  constructor
  · rw [fields.1, fields.2.1]
    exact faithful.labelled.put descriptor file
  · rw [fields.2.1]
    intro other found opened
    by_cases same : other = descriptor
    · rw [same]
      exact inside
    · have kept : s.files other = some found := by
        rw [← opened]
        exact (Function.update_of_ne same ..).symm
      exact faithful.inRange other found kept
  · exact @follow_current { s with files := s.files.put descriptor file } _ _ faithful.current
  · rw [fields.2.2]
    exact faithful.driver

/-! ## open, close and the duplications -/

/-- The opens that set a role are those of files that have one. -/
theorem guarded_open_eq (s : State) (path : String) (flags : Nat) (choice : Option Int) :
    guarded_open s path flags choice =
      let opened := s.files.install GUARD_TRACKED_FDS ⟨path, flags⟩ choice
      match opened.1 with
      | none => { s with files := opened.2 }
      | some descriptor =>
          if (File.mk path flags).role = 0 then { s with files := opened.2 }
          else track_fresh_fd { s with files := opened.2 } descriptor (File.mk path flags).role := by
  unfold guarded_open
  cases s.files.install GUARD_TRACKED_FDS ⟨path, flags⟩ choice with
  | mk chosen files =>
      cases chosen with
      | none => rfl
      | some descriptor =>
          unfold File.role
          dsimp only
          split
          · split
            · exact (if_neg (by decide : ¬FD_ROLE_DSP_WRITE = 0)).symm
            · exact (if_pos rfl).symm
          · split
            · exact (if_neg (by decide : ¬FD_ROLE_SPEAKER_DIRECTION = 0)).symm
            · split
              · exact (if_neg (by decide : ¬FD_ROLE_SPEAKER_VALUE = 0)).symm
              · exact (if_pos rfl).symm

theorem guarded_open_faithful {s : State} (faithful : Faithful s) (path : String) (flags : Nat)
    (choice : Option Int) : Faithful (guarded_open s path flags choice) := by
  rw [guarded_open_eq]
  unfold Descriptors.install
  cases choice with
  | none => exact faithful
  | some descriptor =>
      by_cases free : Descriptors.Free s.files GUARD_TRACKED_FDS descriptor
      · have inside : tracked descriptor := ⟨free.1, free.2.1⟩
        simp only [if_pos free]
        split
        · next plain =>
            refine ⟨faithful.labelled.put_blank free.2.2 plain, ?_, faithful.current,
              faithful.driver⟩
            intro other found opened
            by_cases same : other = descriptor
            · rw [same]
              exact inside
            · have kept : s.files other = some found := by
                rw [← opened]
                exact (Function.update_of_ne same ..).symm
              exact faithful.inRange other found kept
        · rw [track_fresh_fd, if_neg (not_not_intro inside)]
          exact stored_faithful faithful inside (some ⟨path, flags⟩)
      · simp only [if_neg free]
        exact faithful

theorem find_role_fd_files (s : State) (files : Descriptors File) (role : Role) (excluded : Int) :
    find_role_fd { s with files := files } role excluded = find_role_fd s role excluded := by
  have load : ∀ descriptor,
      fd_role_load { s with files := files } descriptor = fd_role_load s descriptor :=
    fun _ => rfl
  unfold find_role_fd
  simp only [load]

theorem follow_files (s : State) (files : Descriptors File) (descriptor : Int)
    (role previous : Role) :
    { follow s descriptor role previous with files := files } =
      follow { s with files := files } descriptor role previous := by
  unfold follow
  by_cases playback : has role FD_ROLE_DSP_WRITE = true
  · rw [if_pos playback, if_pos playback]
  · rw [if_neg playback, if_neg playback]
    by_cases moved : has previous FD_ROLE_DSP_WRITE = true ∧ s.dsp_descriptor = descriptor
    · rw [if_pos moved, if_pos moved, find_role_fd_files s files]
    · rw [if_neg moved, if_neg moved]

theorem close_faithful {s : State} (faithful : Faithful s) (descriptor : Int) :
    Faithful (close s descriptor) := by
  unfold close untrack_fd
  by_cases inside : tracked descriptor
  · simp only [inside, not_true_eq_false, if_false]
    rw [(follow_fields ..).2.1, follow_files]
    exact stored_faithful faithful inside none
  · simp only [inside, not_false_eq_true, if_true]
    have closed : s.files descriptor = none := by
      cases found : s.files descriptor with
      | none => rfl
      | some file => exact absurd (faithful.inRange descriptor file found) inside
    have same : s.files.close descriptor = s.files := by
      unfold Descriptors.close Descriptors.put
      rw [← closed, Function.update_eq_self]
    rw [same]
    exact faithful

/-- A duplicate takes the role of the file that it shares. -/
theorem assign_faithful {s : State} (faithful : Faithful s) {descriptor destination : Int}
    {file : File} (source : s.files descriptor = some file) (inside : tracked destination) :
    Faithful (assign_duplicated_fd_locked { s with files := s.files.put destination (some file) }
      destination (fd_role_load s descriptor) (fd_role_load s destination)) := by
  rw [assign_duplicated_fd_locked, if_neg (not_not_intro inside), faithful.load descriptor, source,
    faithful.load_eq destination]
  exact stored_faithful faithful inside (some file)

theorem dup_faithful {s : State} (faithful : Faithful s) (descriptor : Int) (choice : Option Int) :
    Faithful (dup s descriptor choice) := by
  unfold dup Descriptors.dup
  cases source : s.files descriptor with
  | none => exact faithful
  | some file =>
      unfold Descriptors.install
      cases choice with
      | none => exact faithful
      | some destination =>
          by_cases free : Descriptors.Free s.files GUARD_TRACKED_FDS destination
          · simp only [if_pos free]
            exact assign_faithful faithful source ⟨free.1, free.2.1⟩
          · simp only [if_neg free]
            exact faithful

theorem dup2_faithful {s : State} (faithful : Faithful s) {descriptor destination : Int}
    (apart : descriptor ≠ destination) (succeeds : Bool) :
    Faithful (assigned s (fd_role_load s descriptor)
      (s.files.dup2 GUARD_TRACKED_FDS descriptor destination succeeds)) := by
  unfold Descriptors.dup2
  cases source : s.files descriptor with
  | none => exact faithful
  | some file =>
      simp only [if_neg apart]
      split
      · next done => exact assign_faithful faithful source done.2
      · exact faithful

theorem duplicate_to_tracked_fd_faithful {s : State} (faithful : Faithful s)
    (descriptor destination : Int) (use_dup3 succeeds : Bool) :
    Faithful (duplicate_to_tracked_fd s descriptor destination use_dup3 succeeds) := by
  unfold duplicate_to_tracked_fd
  by_cases same : descriptor = destination
  · subst same
    cases use_dup3 with
    | false =>
        have kept : (s.files.dup2 GUARD_TRACKED_FDS descriptor descriptor succeeds).2 = s.files := by
          unfold Descriptors.dup2
          split
          · rfl
          · rw [if_pos rfl]
        simp only [and_self, if_true, kept]
        exact faithful
    | true =>
        -- Equal numbers fail in the kernel, so nothing is assigned.
        simp only [Bool.true_eq_false, and_false, if_false, if_true, Descriptors.dup3]
        exact faithful
  · have apart := dup2_faithful faithful same succeeds
    cases use_dup3 with
    | false => simpa [same] using apart
    | true => simpa [same, Descriptors.dup3] using apart

/-! ## write, writev and ioctl -/

section Calls

variable {s : State} (faithful : Faithful s) (descriptor : Int)

theorem confined_allowed {s : State} {file : File} (pin : file.speaker) :
    Allowed (.write file .guard (confined s file.role)) := by
  unfold confined
  rcases pin with role | role
  · rw [role, if_pos (by decide)]
    exact .inl ⟨role, rfl⟩
  · rw [role, if_neg (by decide)]
    refine .inr ⟨role, ?_⟩
    unfold level
    split
    · exact .inl rfl
    · exact .inr rfl

include faithful in
theorem speaker_confined_write_faithful {reported_length : Nat} {answer : Except Errno Nat}
    (pin : has (fd_role_load s descriptor)
      (FD_ROLE_SPEAKER_DIRECTION ||| FD_ROLE_SPEAKER_VALUE) = true) :
    Faithful (speaker_confined_write s descriptor (fd_role_load s descriptor) reported_length
      answer).2 := by
  have written : Faithful (passed s descriptor answer
      (.write · .guard (confined s (fd_role_load s descriptor)))).2 := by
    apply faithful.passed
    intro file found
    have role : fd_role_load s descriptor = file.role := by
      rw [faithful.load, found]
      rfl
    rw [role] at pin ⊢
    exact confined_allowed ((has_speaker file).mp pin)
  unfold speaker_confined_write
  split
  · exact faithful
  · split
    · next passed =>
        rw [passed] at written
        exact written
    · next passed =>
        rw [passed] at written
        split <;> exact written

include faithful in
/-- The OEM's own data goes on only to files without a role. -/
theorem oem_write_faithful {bytes : List UInt8} {answer : Except Errno Nat}
    (pin : has (fd_role_load s descriptor)
      (FD_ROLE_SPEAKER_DIRECTION ||| FD_ROLE_SPEAKER_VALUE) ≠ true)
    (playback : has (fd_role_load s descriptor) FD_ROLE_DSP_WRITE ≠ true) :
    Faithful (passed s descriptor answer (.write · .oem bytes)).2 := by
  apply faithful.passed
  intro file found
  have role : fd_role_load s descriptor = file.role := by
    rw [faithful.load, found]
    rfl
  rw [role] at pin playback
  rcases role_cases file with plain | dsp | speaker
  · exact plain
  · exact absurd ((has_playback file).mpr dsp) playback
  · exact absurd ((has_speaker file).mpr speaker) pin

include faithful in
theorem write_faithful (bytes : List UInt8) (peer : Bool) (answer : Except Errno Nat) :
    Faithful (write s descriptor bytes peer answer).2 := by
  unfold write
  dsimp only
  split
  · next pin => exact speaker_confined_write_faithful faithful descriptor pin
  · next pin =>
      split
      · exact faithful
      · split
        · split <;> exact faithful
        · next playback => exact oem_write_faithful faithful descriptor pin playback

include faithful in
theorem writev_faithful (vectors : Option (List (List UInt8))) (count : Int) (peer : Bool)
    (answer : Except Errno Nat) : Faithful (writev s descriptor vectors count peer answer).2 := by
  unfold writev
  dsimp only
  split
  · next pin =>
      split
      · exact faithful
      · exact speaker_confined_write_faithful faithful descriptor pin
  · next pin =>
      split
      · exact faithful
      · split
        · split <;> exact faithful
        · next playback => exact oem_write_faithful faithful descriptor pin playback

include faithful in
theorem ioctl_faithful (request : Nat) (answer : Except Errno Nat) :
    Faithful (ioctl s descriptor request answer).2 := by
  unfold ioctl
  split
  · exact faithful
  · next other =>
      apply faithful.passed
      rintro file found ⟨role, payload⟩
      have held : has (fd_role_load s descriptor) FD_ROLE_DSP_WRITE = true := by
        rw [faithful.load, found]
        exact (has_playback file).mpr role
      exact other ⟨held, payload⟩

end Calls

/-! ## Talkback -/

/-- The driver ends the submission of this many bytes with anything but EINTR or progress. -/
def refuses : List Answer → Nat → Bool
  | _, 0 => false
  | [], _ + 1 => false
  | .interrupted :: answers, remaining + 1 => refuses answers (remaining + 1)
  | .returned result consumed :: answers, remaining + 1 =>
      if result ≠ 0 ∨ consumed = 0 ∨ consumed > min (remaining + 1) UINT32_MAX then true
      else refuses answers (remaining + 1 - consumed)

/-- A talkback frame on the current playback descriptor, whose submission is refused. -/
def submissionRefused (s : State) : Event → Bool
  | .talkbacks answers length _ => decide (0 ≤ s.dsp_descriptor) && refuses answers length
  | _ => false

section Talkback

variable {s : State} {file : File}

theorem submitted_fields (s : State) (descriptor : Int) :
    (submitted s descriptor).files = s.files ∧ (submitted s descriptor).fd_roles = s.fd_roles ∧
      (submitted s descriptor).dsp_descriptor = s.dsp_descriptor := by
  unfold submitted passed
  split <;> exact ⟨rfl, rfl, rfl⟩

/-- Submissions go to playback. -/
theorem submitted_faithful (faithful : Faithful s)
    (playback : ∀ file, s.files s.dsp_descriptor = some file → file.role = FD_ROLE_DSP_WRITE) :
    Faithful (submitted s s.dsp_descriptor) := by
  unfold submitted
  apply faithful.passed
  intro file found
  exact playback file found

/-- A submission that is not refused keeps the table, one that is refused takes the role
from a descriptor that stays open. -/
theorem submit_spec (faithful : Faithful s)
    (playback : ∀ file, s.files s.dsp_descriptor = some file → file.role = FD_ROLE_DSP_WRITE)
    (answers : List Answer) (length : Nat) :
    match submit_pcm_locked s.dsp_descriptor answers length s with
    | none => refuses answers length = false
    | some (true, s') => refuses answers length = false ∧ Faithful s'
    | some (false, s') =>
        refuses answers length = true ∧ ∃ s'', s''.files = s.files ∧
          s''.dsp_descriptor = s.dsp_descriptor ∧
          s' = disable_dsp_if_current s'' s.dsp_descriptor := by
  fun_induction refuses answers length generalizing s with
  | case1 answers =>
      unfold submit_pcm_locked
      exact ⟨rfl, faithful⟩
  | case2 remaining =>
      unfold submit_pcm_locked
      rfl
  | case3 answers remaining inductionHypothesis =>
      obtain ⟨files, roles, current⟩ := submitted_fields s s.dsp_descriptor
      have rest := inductionHypothesis (submitted_faithful faithful playback)
        (by rw [files, current]; exact playback)
      rw [submit_pcm_locked]
      rw [files, current] at rest
      exact rest
  | case4 result consumed answers remaining refused =>
      obtain ⟨files, roles, current⟩ := submitted_fields s s.dsp_descriptor
      rw [submit_pcm_locked, if_pos refused]
      exact ⟨rfl, _, files, current, rfl⟩
  | case5 result consumed answers remaining progress inductionHypothesis =>
      obtain ⟨files, roles, current⟩ := submitted_fields s s.dsp_descriptor
      have rest := inductionHypothesis (submitted_faithful faithful playback)
        (by rw [files, current]; exact playback)
      rw [submit_pcm_locked, if_neg progress]
      rw [files, current] at rest
      exact rest

theorem set_enabled_faithful (faithful : Faithful s) (enabled succeeds : Bool) :
    Faithful (speaker_set_enabled s enabled succeeds) :=
  ⟨faithful.labelled, faithful.inRange, faithful.current, faithful.driver⟩

theorem playback_of_current (faithful : Faithful s) (current : 0 ≤ s.dsp_descriptor) :
    ∀ file, s.files s.dsp_descriptor = some file → file.role = FD_ROLE_DSP_WRITE := by
  intro file found
  obtain ⟨other, opened, role⟩ := faithful.playback (by omega)
  rw [found] at opened
  rw [Option.some.inj opened, role]

theorem talkback_faithful (faithful : Faithful s) {answers : List Answer} {length : Nat}
    {enables : Bool} (accepted : submissionRefused s (.talkbacks answers length enables) = false) :
    Faithful (talkback s answers length enables) := by
  unfold talkback
  split
  · next current =>
      have spec := submit_spec faithful (playback_of_current faithful current) answers length
      cases done : submit_pcm_locked s.dsp_descriptor answers length s with
      | none => exact faithful
      | some ended =>
          rw [done] at spec
          obtain ⟨kept, s'⟩ := ended
          cases kept with
          | true =>
              dsimp only
              split
              · exact spec.2
              · split <;> exact set_enabled_faithful spec.2 ..
          | false => simp [submissionRefused, current, spec.1] at accepted
  · exact set_enabled_faithful faithful ..

/-- After a refused submission the playback descriptor is open, without its role. -/
theorem talkback_refused (faithful : Faithful s) {answers : List Answer} {length : Nat}
    {enables : Bool} (refused : submissionRefused s (.talkbacks answers length enables) = true) :
    ∃ file, (talkback s answers length enables).files s.dsp_descriptor = some file ∧
      file.role = FD_ROLE_DSP_WRITE ∧
      has (fd_role_load (talkback s answers length enables) s.dsp_descriptor) FD_ROLE_DSP_WRITE =
        false := by
  obtain ⟨current, refuses⟩ : 0 ≤ s.dsp_descriptor ∧ refuses answers length = true := by
    simpa [submissionRefused] using refused
  obtain ⟨file, opened, role⟩ := faithful.playback (by omega)
  have spec := submit_spec faithful (playback_of_current faithful current) answers length
  have inside := faithful.inRange _ file opened
  unfold talkback
  rw [if_pos current]
  cases done : submit_pcm_locked s.dsp_descriptor answers length s with
  | none =>
      rw [done] at spec
      exact absurd (spec.symm.trans refuses) Bool.false_ne_true
  | some ended =>
      rw [done] at spec
      obtain ⟨kept, s'⟩ := ended
      cases kept with
      | true => exact absurd (spec.1.symm.trans refuses) Bool.false_ne_true
      | false =>
          obtain ⟨-, s'', files, same, rfl⟩ := spec
          refine ⟨file, ?_, role, ?_⟩
          · show (disable_dsp_if_current s'' s.dsp_descriptor).files s.dsp_descriptor = some file
            unfold disable_dsp_if_current
            dsimp only
            split <;> split <;> exact (congrFun files _).trans opened
          · show has (fd_role_load (disable_dsp_if_current s'' s.dsp_descriptor) s.dsp_descriptor)
              FD_ROLE_DSP_WRITE = false
            have cleared : (disable_dsp_if_current s'' s.dsp_descriptor).fd_roles
                s.dsp_descriptor = s''.fd_roles s.dsp_descriptor &&& ~~~FD_ROLE_DSP_WRITE := by
              unfold disable_dsp_if_current
              rw [if_pos inside]
              dsimp only
              split <;> exact Function.update_self ..
            rw [fd_role_load, if_pos inside, cleared, has, BitVec.and_assoc,
              BitVec.and_comm (~~~_), BitVec.and_not_self]
            simp

end Talkback

/-! ## Runs -/

/-- A call that is not a refused submission keeps the table faithful. -/
theorem step_faithful {s : State} (faithful : Faithful s) {event : Event}
    (accepted : submissionRefused s event = false) : Faithful (step s event) := by
  cases event with
  | opens path flags choice => exact guarded_open_faithful faithful path flags choice
  | closes descriptor => exact close_faithful faithful descriptor
  | dups descriptor choice => exact dup_faithful faithful descriptor choice
  | dupsTo descriptor destination use_dup3 succeeds =>
      exact duplicate_to_tracked_fd_faithful faithful descriptor destination use_dup3 succeeds
  | fcntls descriptor command choice =>
      show Faithful (fcntl s descriptor command choice)
      unfold fcntl
      split
      · exact dup_faithful faithful descriptor choice
      · exact faithful
  | writes descriptor bytes peer answer =>
      exact write_faithful faithful descriptor bytes peer answer
  | writevs descriptor vectors count peer answer =>
      exact writev_faithful faithful descriptor vectors count peer answer
  | ioctls descriptor request answer => exact ioctl_faithful faithful descriptor request answer
  | talkbacks answers length enables => exact talkback_faithful faithful accepted
  | speaker enabled succeeds => exact set_enabled_faithful faithful enabled succeeds

/-- What the OEM process starts with: descriptors from before the guard, none of them of a
guarded file. -/
structure Process where
  files : Descriptors File
  inRange : ∀ descriptor file, files descriptor = some file → tracked descriptor
  plain : ∀ descriptor file, files descriptor = some file → file.role = 0

def start (process : Process) : State :=
  { files := process.files, fd_roles := fun _ => 0, dsp_descriptor := -1, speaker_enabled := false,
    driver := [] }

theorem start_faithful (process : Process) : Faithful (start process) where
  labelled := by
    intro descriptor
    show (0 : Role) = (process.files descriptor).elim 0 File.role
    cases found : process.files descriptor with
    | none => rfl
    | some file => exact (process.plain descriptor file found).symm
  inRange := process.inRange
  current := fun some => absurd rfl some
  driver := nofun

/-- The roles are those of the files, only what may has reached a driver, and an OEM write
to one of the speaker's pins becomes the guard's own. -/
structure Guarded (s : State) : Prop where
  roles : ∀ descriptor, fd_role_load s descriptor = (s.files descriptor).elim 0 File.role
  driver : ∀ call ∈ s.driver, Allowed call
  confined : ∀ descriptor file bytes peer answer, s.files descriptor = some file → file.speaker →
    (write s descriptor bytes peer answer).2.driver =
      s.driver ++ if bytes.length ≤ SSIZE_MAX then [.write file .guard (confined s file.role)]
        else []

theorem Faithful.guarded {s : State} (faithful : Faithful s) : Guarded s where
  roles := faithful.load
  driver := faithful.driver
  confined := by
    intro descriptor file bytes peer answer found pin
    have role : fd_role_load s descriptor = file.role := by
      rw [faithful.load, found]
      rfl
    have held := (has_speaker file).mpr pin
    unfold write
    dsimp only
    rw [role, if_pos held]
    unfold speaker_confined_write FdRoles.passed
    rw [found]
    by_cases fits : bytes.length ≤ SSIZE_MAX
    · rw [if_neg (by omega), if_pos fits]
      cases answer with
      | error errno => rfl
      | ok amount =>
          dsimp only
          split <;> rfl
    · rw [if_pos (by omega), if_neg fits, List.append_nil]

theorem refused_unguarded {s : State} (faithful : Faithful s) {event : Event}
    (refused : submissionRefused s event = true) : ¬Guarded (step s event) := by
  cases event with
  | talkbacks answers length enables =>
      intro guarded
      obtain ⟨file, opened, role, lost⟩ := talkback_refused faithful refused
      have held : has (fd_role_load (talkback s answers length enables) s.dsp_descriptor)
          FD_ROLE_DSP_WRITE = true := by
        have recorded : fd_role_load (talkback s answers length enables) s.dsp_descriptor =
            file.role :=
          (guarded.roles s.dsp_descriptor).trans
            (congrArg (fun found : Option File => found.elim 0 File.role) opened)
        rw [recorded]
        exact (has_playback file).mpr role
      rw [lost] at held
      cases held
  | _ => cases refused

/-- Every state of a run is guarded exactly when no talkback submission of it is refused. -/
theorem guarded_throughout_iff (process : Process) (events : List Event) :
    (∀ earlier, earlier <+: events → Guarded (earlier.foldl step (start process))) ↔
      ∀ earlier event, earlier ++ [event] <+: events →
        submissionRefused (earlier.foldl step (start process)) event = false :=
  @prefixes_iff _ _ step Faithful Guarded submissionRefused (fun _ => Faithful.guarded)
    (fun _ _ faithful => step_faithful faithful) (fun _ _ faithful => refused_unguarded faithful)
    events _ (start_faithful process)

/-- No descriptors but those opened later. -/
def bare : Process :=
  { files := fun _ => none, inRange := nofun, plain := nofun }

/-- The driver refuses one talkback frame, and then takes the OEM's siren. -/
theorem siren_reaches_driver :
    ¬ ∀ (process : Process) (events : List Event),
      Guarded (events.foldl step (start process)) := by
  intro guarded
  have siren := (guarded bare [.opens JOOAN_GUARD_DSP_PATH O_WRONLY (some 5),
    .talkbacks [.returned (-1) 0] 2 true, .writes 5 [1, 2] false (.ok 2)]).driver
  have played : DriverCall.write ⟨JOOAN_GUARD_DSP_PATH, O_WRONLY⟩ .oem [1, 2] ∈
      ([.opens JOOAN_GUARD_DSP_PATH O_WRONLY (some 5), .talkbacks [.returned (-1) 0] 2 true,
        .writes 5 [1, 2] false (.ok 2)].foldl step (start bare)).driver := by
    decide +kernel
  have plain := siren _ played
  revert plain
  show ¬File.role ⟨JOOAN_GUARD_DSP_PATH, O_WRONLY⟩ = 0
  decide

end FdRoles

end JooanW3U.Guard

import JooanW3U.Audio.Wire
import JooanW3U.Library.History
import JooanW3U.Library.Runs

/-!
Owns the speaker side of the guard: the datagrams of the talkback socket and the loop that
switches the amplifier. Main result: without an `ACQUIRE` that repeats a session whose
amplifier is on, the amplifier is on only within 500 ms of an accepted `SPEAKER_LEASE` or
`PCMA`, and never for longer than 60 s.

Does not own the sound: what is decoded and handed to the driver.
-/

namespace JooanW3U.Guard.Talkback

open JooanW3U.Library
open JooanW3U.Audio.Wire

def TALKBACK_PACKET_MAX : Nat := JOOAN_AUDIO_GUARD_HEADER_SIZE + 1024
def TALKBACK_ACQUIRE_MS : Nat := 2000
def TALKBACK_LEASE_MS : Nat := 500
def TALKBACK_MAX_MS : Nat := 60000

/-! ### The amplifier -/

/-- What one attempt at the pin gives: both writes, and the level read back. -/
structure Attempt where
  direction : Bool
  value : Bool
  observed : Option Char
deriving Repr, DecidableEq

def JOOAN_GUARD_SPEAKER_ENABLED_LEVEL : Char := '0'
def JOOAN_GUARD_SPEAKER_MUTED_LEVEL : Char := '1'

/-- The new `speaker_enabled`, and whether the call succeeds. -/
def speaker_set_enabled (enabled : Bool) (attempts : List Attempt) : Bool × Bool :=
  let level :=
    if enabled then JOOAN_GUARD_SPEAKER_ENABLED_LEVEL else JOOAN_GUARD_SPEAKER_MUTED_LEVEL
  if (attempts.take 3).any fun attempt =>
      attempt.direction && attempt.value && attempt.observed == some level then
    (enabled, true)
  else (false, false)

/-- The variables of `talkback_main`, and `speaker_enabled`. -/
structure State where
  active_session : Nat
  session_started : Nat
  lease_deadline : Nat
  last_sequence : Nat
  speaker_enabled : Bool
deriving Repr, DecidableEq

/-- No session, and the amplifier muted. -/
def idle : State := ⟨0, 0, 0, 0, false⟩

/-- `speaker_set_enabled(0)`, whose result is not looked at. -/
def State.mute (s : State) (attempts : List Attempt) : State :=
  { s with speaker_enabled := (speaker_set_enabled false attempts).1 }

/-- The session is forgotten and the amplifier muted. -/
def State.forget (s : State) (attempts : List Attempt) : State :=
  { s with active_session := 0, session_started := 0, last_sequence := 0, lease_deadline := 0 }.mute
    attempts

/-- One of the two deadlines has passed. -/
def State.expired (s : State) (now : Nat) : Prop :=
  s.active_session ≠ 0 ∧
    (s.lease_deadline ≤ now ∨ s.session_started ≤ now ∧ TALKBACK_MAX_MS ≤ now - s.session_started)

instance (s : State) (now : Nat) : Decidable (s.expired now) := by
  unfold State.expired
  infer_instance

/-- One pass of the loop: the two readings of the clock, what was received (nothing where
`poll` or `recv` gives nothing), whether the driver takes the sound, and what the pin
answers. -/
structure Pass where
  woke : Nat
  now : Nat
  received : Bytes
  submitted : Bool
  enabling : List Attempt
  muting : List Attempt
deriving Repr, DecidableEq

def State.expire (s : State) (now : Nat) (attempts : List Attempt) : State :=
  if s.expired now then s.forget attempts else s

/-- The amplifier is on, or is now switched on. -/
def State.switchOn (s : State) (pass : Pass) : Bool :=
  s.speaker_enabled || (speaker_set_enabled true pass.enabling).2

/-- The deadline is moved, with the amplifier on. -/
def State.lease (s : State) (now : Nat) : State :=
  { s with speaker_enabled := true, lease_deadline := (now + TALKBACK_LEASE_MS) % 2 ^ 64 }

def State.acquire (s : State) (frame : GuardFrame) (pass : Pass) : State :=
  if frame.sequence = 1 then
    { active_session := frame.session_id
      session_started := pass.now
      last_sequence := frame.sequence
      lease_deadline := (pass.now + TALKBACK_ACQUIRE_MS) % 2 ^ 64
      speaker_enabled :=
        if s.active_session ≠ 0 ∧ s.active_session ≠ frame.session_id then
          (speaker_set_enabled false pass.muting).1
        else s.speaker_enabled }
  else s

/-- The frame is of the session and the next in sequence. -/
def State.follows (s : State) (frame : GuardFrame) : Prop :=
  s.active_session ≠ 0 ∧ frame.session_id = s.active_session ∧ s.last_sequence ≠ 2 ^ 32 - 1 ∧
    frame.sequence = (s.last_sequence + 1) % 2 ^ 32

instance (s : State) (frame : GuardFrame) : Decidable (s.follows frame) := by
  unfold State.follows
  infer_instance

/-- What a frame does, other than `ACQUIRE`, that follows. -/
def State.next (s : State) (frame : GuardFrame) (pass : Pass) : State :=
  if frame.type = JOOAN_AUDIO_PTT_RELEASE then s.forget pass.muting
  else if frame.type = JOOAN_AUDIO_GUARD_SPEAKER_LEASE then
    if s.switchOn pass then s.lease pass.now else s.forget pass.muting
  else if frame.type ≠ JOOAN_AUDIO_PTT_PCMA then s
  else if pass.submitted && s.switchOn pass then s.lease pass.now
  else s.mute pass.muting

def State.accept (s : State) (frame : GuardFrame) (pass : Pass) : State :=
  if frame.type = JOOAN_AUDIO_PTT_ACQUIRE then s.acquire frame pass
  else if s.follows frame then { s with last_sequence := frame.sequence }.next frame pass
  else s.forget pass.muting

/-- What `recv` puts into the buffer. -/
def Pass.datagram (pass : Pass) : Bytes := pass.received.take TALKBACK_PACKET_MAX

/-- The state when the datagram is looked at: both checks of the deadlines are done. -/
def State.awake (s : State) (pass : Pass) : State :=
  (s.expire pass.woke pass.muting).expire pass.now pass.muting

/-- The loop body of `talkback_main`. -/
def iterate (s : State) (pass : Pass) : State :=
  let s := s.awake pass
  if pass.received = [] then s
  else
    match jooan_audio_guard_datagram_parse pass.datagram with
    | none => s.forget pass.muting
    | some frame => s.accept frame pass

/-- The state after the passes. -/
def run (passes : List Pass) : State := passes.foldl iterate idle

/-! ### What is asked of the amplifier -/

/-- The pass accepts a `SPEAKER_LEASE` or `PCMA` of the session, the next in sequence. -/
def Feeds (session : Nat) (before : List Pass) (pass : Pass) : Prop :=
  ∃ frame, jooan_audio_guard_datagram_parse pass.datagram = some frame ∧
    (frame.type = JOOAN_AUDIO_GUARD_SPEAKER_LEASE ∨ frame.type = JOOAN_AUDIO_PTT_PCMA) ∧
    frame.session_id = session ∧ (run before).active_session = session ∧
    frame.sequence = (run before).last_sequence + 1

/-- After these passes the amplifier is on for the session. -/
def OnFor (session : Nat) (passes : List Pass) : Prop :=
  (run passes).speaker_enabled = true ∧ (run passes).active_session = session

/-- At the end of the last pass: the amplifier was fed at most 500 ms ago, and has not been
on for this session for more than 60 s. -/
structure Deadman (earlier : List Pass) (last : Pass) : Prop where
  fed :
    Occurs
      (fun before pass =>
        Feeds (run (earlier ++ [last])).active_session before pass ∧
          pass.now ≤ last.now ∧ last.now ≤ pass.now + 500)
      (earlier ++ [last])
  limited : ∀ first,
    HeldSince (OnFor (run (earlier ++ [last])).active_session) (earlier ++ [last]) first →
      last.now ≤ first.now + 60000

/-- The readings of the clock, in order. -/
def readings (passes : List Pass) : List Nat := passes.flatMap fun pass => [pass.woke, pass.now]

/-- The pass receives an `ACQUIRE` that starts the session again whose amplifier is on. -/
def reacquires (s : State) (pass : Pass) : Bool :=
  match jooan_audio_guard_datagram_parse pass.datagram with
  | none => false
  | some frame =>
      frame.type == JOOAN_AUDIO_PTT_ACQUIRE && frame.sequence == 1 &&
        (s.awake pass).speaker_enabled && frame.session_id == (s.awake pass).active_session

/-! ### One pass -/

theorem speaker_set_enabled_false (attempts : List Attempt) :
    (speaker_set_enabled false attempts).1 = false := by
  simp only [speaker_set_enabled, Bool.false_eq_true, if_false]
  split <;> rfl

theorem mute_off (s : State) (attempts : List Attempt) :
    (s.mute attempts).speaker_enabled = false :=
  speaker_set_enabled_false attempts

theorem forget_eq (s : State) (attempts : List Attempt) : s.forget attempts = idle := by
  rw [State.forget, State.mute, speaker_set_enabled_false]
  rfl

/-- The amplifier of a state that is still on when the datagram is looked at was on before,
and no deadline has passed. -/
theorem awake_on {s : State} {pass : Pass} (on : (s.awake pass).active_session ≠ 0) :
    s.awake pass = s ∧ ¬s.expired pass.now := by
  have idle_ended : idle.active_session = 0 := rfl
  unfold State.awake State.expire at on ⊢
  split at on
  · rw [forget_eq] at on
    split at on
    · rw [forget_eq] at on
      exact absurd idle_ended on
    · exact absurd idle_ended on
  · rename_i early
    rw [if_neg early]
    split at on
    · rw [forget_eq] at on
      exact absurd idle_ended on
    · rename_i late
      exact ⟨if_neg late, late⟩

/-- What holds of every state. -/
structure Sound (s : State) : Prop where
  session : s.speaker_enabled = true → s.active_session ≠ 0
  bounded : s.last_sequence < 2 ^ 32

theorem Sound.idle : Sound idle := ⟨fun on => absurd on (by decide), by decide⟩

/-- What a pass leaves of a session whose amplifier is on afterwards. -/
structure Continues (s : State) (pass : Pass) (after : State) : Prop where
  sound : Sound after
  early : after.speaker_enabled = true → ¬s.expired pass.now
  session : after.speaker_enabled = true → after.active_session = s.active_session
  started : after.speaker_enabled = true → after.session_started = s.session_started
  leased : after.speaker_enabled = true →
    (s.speaker_enabled = true ∧ after.lease_deadline = s.lease_deadline) ∨
      ((∃ frame, jooan_audio_guard_datagram_parse pass.datagram = some frame ∧
        (frame.type = JOOAN_AUDIO_GUARD_SPEAKER_LEASE ∨ frame.type = JOOAN_AUDIO_PTT_PCMA) ∧
        frame.session_id = s.active_session ∧ frame.sequence = s.last_sequence + 1) ∧
        after.lease_deadline ≤ pass.now + TALKBACK_LEASE_MS)

/-- A pass that ends with the amplifier off. -/
theorem Continues.off {s after : State} {pass : Pass} (sound : Sound after)
    (off : after.speaker_enabled = false) : Continues s pass after := by
  have never : ¬after.speaker_enabled = true := Bool.eq_false_iff.mp off
  exact ⟨sound, fun on => absurd on never, fun on => absurd on never, fun on => absurd on never,
    fun on => absurd on never⟩

theorem Continues.forget {s : State} {pass : Pass} (left : State) :
    Continues s pass (left.forget pass.muting) := by
  rw [forget_eq]
  exact .off .idle rfl

/-- A state with the same session, amplifier and deadline. -/
theorem Continues.same {s : State} {pass : Pass} (sound : Sound s) (early : ¬s.expired pass.now)
    {sequence : Nat} (bounded : sequence < 2 ^ 32) :
    Continues s pass { s with last_sequence := sequence } where
  sound := ⟨sound.session, bounded⟩
  early := fun _ => early
  session := fun _ => rfl
  started := fun _ => rfl
  leased := fun on => .inl ⟨on, rfl⟩

theorem continues_acquire {s : State} {frame : GuardFrame} {pass : Pass} (sound : Sound s)
    (early : ¬s.expired pass.now)
    (fine : ¬(frame.sequence = 1 ∧ s.speaker_enabled = true ∧
      frame.session_id = s.active_session)) :
    Continues s pass (s.acquire frame pass) := by
  unfold State.acquire
  split
  · rename_i first
    have off : (if s.active_session ≠ 0 ∧ s.active_session ≠ frame.session_id then
        (speaker_set_enabled false pass.muting).1 else s.speaker_enabled) = false := by
      split
      · exact speaker_set_enabled_false _
      · rename_i same
        cases on : s.speaker_enabled with
        | false => rfl
        | true =>
            have other : s.active_session ≠ frame.session_id := fun equal =>
              fine ⟨first, on, equal.symm⟩
            exact absurd ⟨sound.session on, other⟩ same
    refine .off ⟨fun on => absurd (off.symm.trans on) Bool.false_ne_true, ?_⟩ off
    show frame.sequence < 2 ^ 32
    omega
  · exact .same sound early sound.bounded

theorem lease_session (s : State) (now : Nat) :
    (s.lease now).active_session = s.active_session := by
  rw [State.lease]

theorem lease_started (s : State) (now : Nat) :
    (s.lease now).session_started = s.session_started := by
  rw [State.lease]

theorem lease_sequence (s : State) (now : Nat) :
    (s.lease now).last_sequence = s.last_sequence := by
  rw [State.lease]

theorem lease_deadline_le (s : State) (now : Nat) :
    (s.lease now).lease_deadline ≤ now + TALKBACK_LEASE_MS := by
  rw [State.lease]
  exact Nat.mod_le _ _

/-- The deadline is moved by a frame that follows. -/
theorem continues_lease {s : State} {frame : GuardFrame} {pass : Pass}
    (parsed : jooan_audio_guard_datagram_parse pass.datagram = some frame)
    (early : ¬s.expired pass.now) (follows : s.follows frame) (bounded : frame.sequence < 2 ^ 32)
    (next : frame.sequence = s.last_sequence + 1)
    (fed : frame.type = JOOAN_AUDIO_GUARD_SPEAKER_LEASE ∨ frame.type = JOOAN_AUDIO_PTT_PCMA) :
    Continues s pass ({ s with last_sequence := frame.sequence }.lease pass.now) where
  sound := by
    constructor
    · rw [lease_session]
      exact fun _ => follows.1
    · rw [lease_sequence]
      exact bounded
  early := fun _ => early
  session := fun _ => lease_session _ _
  started := fun _ => lease_started _ _
  leased := fun _ => .inr ⟨⟨frame, parsed, fed, follows.2.1, next⟩, lease_deadline_le _ _⟩

theorem continues_next {s : State} {frame : GuardFrame} {pass : Pass} (sound : Sound s)
    (parsed : jooan_audio_guard_datagram_parse pass.datagram = some frame)
    (early : ¬s.expired pass.now) (follows : s.follows frame) :
    Continues s pass ({ s with last_sequence := frame.sequence }.next frame pass) := by
  have bounded : frame.sequence < 2 ^ 32 := by
    rw [follows.2.2.2]
    exact Nat.mod_lt _ (by decide)
  have next : frame.sequence = s.last_sequence + 1 := by
    have room : s.last_sequence + 1 < 2 ^ 32 := by
      have last := follows.2.2.1
      have below := sound.bounded
      omega
    rw [follows.2.2.2, Nat.mod_eq_of_lt room]
  unfold State.next
  split
  · exact .forget _
  · split
    · rename_i lease
      split
      · exact continues_lease parsed early follows bounded next (.inl lease)
      · exact .forget _
    · split
      · exact .same sound early bounded
      · rename_i pcma
        split
        · exact continues_lease parsed early follows bounded next (.inr (not_not.mp pcma))
        · have off := mute_off { s with last_sequence := frame.sequence } pass.muting
          exact .off ⟨fun on => absurd (off.symm.trans on) Bool.false_ne_true, bounded⟩ off

theorem continues_accept {s : State} {frame : GuardFrame} {pass : Pass} (sound : Sound s)
    (parsed : jooan_audio_guard_datagram_parse pass.datagram = some frame)
    (early : ¬s.expired pass.now)
    (fine : ¬(frame.type = JOOAN_AUDIO_PTT_ACQUIRE ∧ frame.sequence = 1 ∧
      s.speaker_enabled = true ∧ frame.session_id = s.active_session)) :
    Continues s pass (s.accept frame pass) := by
  unfold State.accept
  split
  · rename_i acquire
    exact continues_acquire sound early fun again => fine ⟨acquire, again⟩
  · split
    · rename_i follows
      exact continues_next sound parsed early follows
    · exact .forget _

/-- What a pass does once it is awake. -/
theorem continues_awake {s live : State} {pass : Pass} (sound : Sound live)
    (awake : s.awake pass = live) (early : ¬live.expired pass.now)
    (fine : reacquires s pass = false) : Continues live pass (iterate s pass) := by
  unfold iterate
  rw [awake]
  dsimp only
  split
  · exact .same sound early sound.bounded
  · split
    · exact .forget _
    · rename_i frame parsed
      apply continues_accept sound parsed early
      rintro ⟨acquire, first, on, session⟩
      simp [reacquires, parsed, awake, acquire, first, on, session] at fine

/-- One pass that does not start the session again. -/
theorem continues_iterate {s : State} {pass : Pass} (sound : Sound s)
    (fine : reacquires s pass = false) : Continues s pass (iterate s pass) := by
  by_cases live : (s.awake pass).active_session = 0
  · have forgotten : Sound (s.awake pass) := by
      unfold State.awake State.expire
      split
      · rw [forget_eq, if_neg (by simp [State.expired, idle])]
        exact .idle
      · split
        · rw [forget_eq]
          exact .idle
        · exact sound
    have early : ¬(s.awake pass).expired pass.now := fun expired => expired.1 live
    have continues := continues_awake forgotten rfl early fine
    -- No session goes on, so the amplifier is off.
    apply Continues.off continues.sound
    by_contra on
    have on := Bool.not_eq_false _ ▸ on
    exact continues.sound.session on ((continues.session on).trans live)
  · obtain ⟨same, early⟩ := awake_on live
    exact continues_awake sound same early fine

/-- A session starts at the reading of a pass. -/
theorem iterate_started (s : State) (pass : Pass) :
    (iterate s pass).session_started = 0 ∨ (iterate s pass).session_started = pass.now ∨
      (iterate s pass).session_started = s.session_started := by
  have awake : (s.awake pass).session_started = 0 ∨
      (s.awake pass).session_started = s.session_started := by
    by_cases live : (s.awake pass).active_session = 0
    · unfold State.awake State.expire
      split
      · rw [forget_eq, if_neg (by simp [State.expired, idle])]
        exact .inl rfl
      · split
        · rw [forget_eq]
          exact .inl rfl
        · exact .inr rfl
    · exact .inr (congrArg State.session_started (awake_on live).1)
  have forgotten : ∀ left : State, (left.forget pass.muting).session_started = 0 := by
    intro left
    rw [forget_eq]
    rfl
  have stays : ∀ {after : State}, after.session_started = (s.awake pass).session_started →
      after.session_started = 0 ∨ after.session_started = pass.now ∨
        after.session_started = s.session_started := by
    intro after same
    rw [same]
    exact awake.imp_right .inr
  unfold iterate State.accept State.acquire State.next
  dsimp only
  split
  · exact stays rfl
  · split
    · exact .inl (forgotten _)
    · split
      · split
        · exact .inr (.inl rfl)
        · exact stays rfl
      · split
        · split
          · exact .inl (forgotten _)
          · split
            · split
              · exact stays (lease_started _ _)
              · exact .inl (forgotten _)
            · split
              · exact stays rfl
              · split
                · exact stays (lease_started _ _)
                · exact stays rfl
        · exact .inl (forgotten _)

/-! ### Whole runs -/

theorem run_snoc (earlier : List Pass) (last : Pass) :
    run (earlier ++ [last]) = iterate (run earlier) last := by
  rw [run, List.foldl_append]
  rfl

/-- What the passes keep. -/
structure Kept (passes : List Pass) : Prop where
  sound : Sound (run passes)
  started : ∀ time, (∀ pass ∈ passes, pass.now ≤ time) → (run passes).session_started ≤ time
  fed : (run passes).speaker_enabled = true →
    Occurs
      (fun before pass =>
        Feeds (run passes).active_session before pass ∧
          (run passes).lease_deadline ≤ pass.now + TALKBACK_LEASE_MS)
      passes
  since : (run passes).speaker_enabled = true →
    ∀ first, HeldSince (OnFor (run passes).active_session) passes first →
      (run passes).session_started ≤ first.now

theorem Kept.start : Kept [] where
  sound := .idle
  started := fun time _ => Nat.zero_le time
  fed := fun on => absurd on (by decide)
  since := fun on => absurd on (by decide)

theorem Kept.step {earlier : List Pass} {last : Pass} (kept : Kept earlier)
    (fine : reacquires (run earlier) last = false)
    (ordered : ∀ pass ∈ earlier, pass.now ≤ last.now) : Kept (earlier ++ [last]) := by
  have continues := continues_iterate kept.sound fine
  rw [← run_snoc] at continues
  have before : (run earlier).session_started ≤ last.now := kept.started last.now ordered
  refine ⟨continues.sound, ?_, ?_, ?_⟩
  · intro time latest
    have here := latest last (by simp)
    rw [run_snoc]
    rcases iterate_started (run earlier) last with zero | now | same
    · rw [zero]
      exact Nat.zero_le time
    · rw [now]
      exact here
    · rw [same]
      exact Nat.le_trans before here
  · intro on
    rw [continues.session on]
    rcases continues.leased on with ⟨wasOn, same⟩ | ⟨⟨frame, parsed, fed, session, next⟩, moved⟩
    · rw [same]
      exact (kept.fed wasOn).snoc last
    · exact .last ⟨⟨frame, parsed, fed, session, rfl, next⟩, moved⟩
  · intro on first held
    rw [continues.started on]
    rcases held.earlier with rfl | longer
    · exact before
    · rw [continues.session on] at longer
      exact kept.since longer.now.1 first longer

theorem now_lt {s : State} {now : Nat} (session : s.active_session ≠ 0) (early : ¬s.expired now) :
    now < s.lease_deadline ∧ now < s.session_started + TALKBACK_MAX_MS := by
  have neither := not_or.mp fun passed => early ⟨session, passed⟩
  refine ⟨Nat.lt_of_not_le neither.1, ?_⟩
  by_contra late
  have longest : s.session_started + TALKBACK_MAX_MS ≤ now := Nat.le_of_not_lt late
  exact neither.2 ⟨by omega, by omega⟩

theorem Kept.deadman {earlier : List Pass} {last : Pass} (kept : Kept earlier)
    (fine : reacquires (run earlier) last = false)
    (ordered : ∀ pass ∈ earlier, pass.now ≤ last.now)
    (on : (run (earlier ++ [last])).speaker_enabled = true) : Deadman earlier last := by
  have after := kept.step fine ordered
  have continues := continues_iterate kept.sound fine
  rw [← run_snoc] at continues
  have session := continues.sound.session on
  rw [continues.session on] at session
  obtain ⟨leased, limited⟩ := now_lt session (continues.early on)
  constructor
  · rcases continues.leased on with ⟨wasOn, same⟩ | ⟨⟨frame, parsed, fed, of, next⟩, moved⟩
    · obtain ⟨before, pass, later, split, feeds, deadline⟩ := kept.fed wasOn
      have member : pass ∈ earlier := by
        rw [split]
        simp
      refine ⟨before, pass, later ++ [last], by simp [split], ?_, ordered pass member, ?_⟩
      · rw [continues.session on]
        exact feeds
      · have until_deadline := Nat.lt_of_lt_of_le leased deadline
        exact Nat.le_of_lt until_deadline
    · rw [continues.session on]
      exact .last ⟨⟨frame, parsed, fed, of, rfl, next⟩, Nat.le_refl _, Nat.le_add_right _ _⟩
  · intro first held
    have started := after.since on first held
    rw [continues.started on] at started
    exact Nat.le_of_lt (Nat.lt_of_lt_of_le limited (Nat.add_le_add_right started _))

/-- The clock of the last pass is the latest. -/
theorem ordered_of_readings {earlier : List Pass} {last : Pass}
    (nondecreasing : (readings (earlier ++ [last])).Pairwise (· ≤ ·)) :
    ∀ pass ∈ earlier, pass.now ≤ last.now := by
  intro pass member
  rw [readings, List.flatMap_append] at nondecreasing
  have across := (List.pairwise_append.mp nondecreasing).2.2
  exact across pass.now (List.mem_flatMap.mpr ⟨pass, member, by simp⟩) last.now (by simp)

/-- Without an `ACQUIRE` that starts a session again whose amplifier is on, the amplifier is
on only while it is fed, and not for longer than the limit. -/
theorem talkback_deadman {passes : List Pass} (nondecreasing : (readings passes).Pairwise (· ≤ ·))
    (fine : Placed (fun earlier pass => reacquires (run earlier) pass = false) passes) :
    Placed
      (fun earlier last =>
        (run (earlier ++ [last])).speaker_enabled = true → Deadman earlier last)
      passes := by
  -- By induction on the passes, together with what they keep.
  suffices both : Kept passes ∧ Placed _ passes from both.2
  induction passes using List.reverseRecOn with
  | nil => exact ⟨.start, placed_nil _⟩
  | append_singleton earlier last inductionHypothesis =>
      have ordered := ordered_of_readings nondecreasing
      rw [readings, List.flatMap_append] at nondecreasing
      obtain ⟨kept, placed⟩ :=
        inductionHypothesis (List.pairwise_append.mp nondecreasing).1 fine.init
      exact ⟨kept.step fine.last ordered, placed.snoc (kept.deadman fine.last ordered)⟩

/-- A datagram without payload of session 1. -/
def datagram (type sequence : Nat) : Bytes := GuardFrame.bytes ⟨type, 1, sequence, []⟩

def attempted : List Attempt := [⟨true, true, some '0'⟩]

/-- A session that is fed once. -/
def acquired : Pass := ⟨0, 0, datagram 1 1, false, [], []⟩
def leased : Pass := ⟨0, 10, datagram 4 2, false, attempted, []⟩

/-- The session is started again; 2.4 s after it was fed the amplifier is still on. -/
def reacquired : Pass := ⟨10, 500, datagram 1 1, false, [], []⟩
def later : Pass := ⟨500, 2400, [], false, [], []⟩

theorem reacquired_stays_on :
    (readings [acquired, leased, reacquired, later]).Pairwise (· ≤ ·) ∧
      (run [acquired, leased, reacquired, later]).speaker_enabled = true ∧
      ¬Deadman [acquired, leased, reacquired] later := by
  refine ⟨by decide, by decide, ?_⟩
  intro deadman
  obtain ⟨before, pass, after, split, ⟨frame, parsed, fed, -⟩, -, recent⟩ := deadman.fed
  have member : pass ∈ [acquired, leased, reacquired, later] := by
    rw [show [acquired, leased, reacquired, later] = before ++ pass :: after from split]
    simp
  have nothing : jooan_audio_guard_datagram_parse later.datagram = none := by decide
  simp only [List.mem_cons, List.not_mem_nil, or_false] at member
  rcases member with rfl | rfl | rfl | rfl
  · exact absurd recent (by decide)
  · exact absurd recent (by decide)
  · exact absurd recent (by decide)
  · rw [nothing] at parsed
    contradiction

end JooanW3U.Guard.Talkback

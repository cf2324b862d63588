import Mathlib.Data.Set.Card
import JooanW3U.Library.FailureWindow

/-!
Owns the failed-login throttle of the media server: the fixed array of slots,
the search that frees expired slots and picks a victim, and the two calls made
around a credential check.  The array answers exactly as an unbounded map of
failure windows does, as long as no more peers are live than there are slots.

Does not own the credential check itself or how a peer's address is written.
-/

namespace JooanW3U.Media.AuthLimit

open JooanW3U.Library

def SLOTS : Nat := 32
def INET6_ADDRSTRLEN : Nat := 46
def JIPC_AUTH_FAILURES : Nat := 10
def JIPC_AUTH_WINDOW_US : UInt64 := 60000000

/-- A peer's address in text, as `inet_ntop` writes it: the characters before
the terminator, never empty and short enough for a slot. -/
structure Peer where
  text : List Char
  named : text ≠ []
  fits : text.length < INET6_ADDRSTRLEN

theorem Peer.ext_text {left right : Peer} (same : left.text = right.text) : left = right := by
  cases left
  cases right
  cases same
  rfl

instance : DecidableEq Peer := fun left right =>
  decidable_of_iff (left.text = right.text) ⟨Peer.ext_text, congrArg Peer.text⟩

/-- One slot; an empty `peer` marks it free. -/
structure Slot where
  peer : List Char := []
  since : UInt64 := 0
  failures : Nat := 0
  deriving Repr, DecidableEq, Inhabited

namespace Slot

def free : Slot := {}

/-- The slot's window has run out by `now`. -/
def expired (slot : Slot) (now : UInt64) : Prop :=
  slot.peer ≠ [] ∧ now - slot.since ≥ JIPC_AUTH_WINDOW_US

instance (slot : Slot) (now : UInt64) : Decidable (slot.expired now) :=
  inferInstanceAs (Decidable (_ ∧ _))

/-- Line 26: an expired slot is zeroed. -/
def swept (slot : Slot) (now : UInt64) : Slot :=
  if slot.expired now then free else slot

/-- Line 28: the slot replaces the victim chosen so far. -/
def betterThan (slot : Slot) (victim : Option (Nat × Slot)) : Prop :=
  match victim with
  | none => True
  | some (_, victim) =>
      slot.peer = [] ∨ (victim.peer ≠ [] ∧ slot.since < victim.since)

instance (slot : Slot) : (victim : Option (Nat × Slot)) → Decidable (slot.betterThan victim)
  | none => .isTrue trivial
  | some (_, victim) =>
      inferInstanceAs (Decidable (slot.peer = [] ∨ (victim.peer ≠ [] ∧ slot.since < victim.since)))

end Slot

/-- What the loop of `find` ends with: the peer's own slot, or the victim. -/
inductive Found
  | hit (index : Nat)
  | miss (victim : Option (Nat × Slot))
  deriving Repr, DecidableEq

/-- The loop of `find` over the slots from `index` on. -/
def findLoop (peer : List Char) (now : UInt64) :
    List Slot → Nat → Option (Nat × Slot) → List Slot × Found
  | [], _, victim => ([], .miss victim)
  | slot :: rest, index, victim =>
      let slot := slot.swept now
      if slot.peer ≠ [] ∧ slot.peer = peer then (slot :: rest, .hit index)
      else
        let victim := if slot.betterThan victim then some (index, slot) else victim
        let (rest, found) := findLoop peer now rest (index + 1) victim
        (slot :: rest, found)

/-- `find`: the slots as the search leaves them, and the index returned. -/
def find (slots : List Slot) (peer : List Char) (now : UInt64) (create : Bool) :
    List Slot × Option Nat :=
  match findLoop peer now slots 0 none with
  | (slots, .hit index) => (slots, some index)
  | (slots, .miss victim) =>
      if create then
        match victim with
        | none => (slots, none)
        | some (index, _) =>
            -- snprintf keeps what fits beside the terminator
            (slots.set index { peer := peer.take (INET6_ADDRSTRLEN - 1), since := now },
              some index)
      else (slots, none)

def jipc_auth_blocked_at (slots : List Slot) (peer : List Char) (now : UInt64) :
    List Slot × Bool :=
  let (slots, found) := find slots peer now false
  match found.bind (slots[·]?) with
  | none => (slots, false)
  | some slot => (slots, decide (slot.failures ≥ JIPC_AUTH_FAILURES))

def jipc_auth_result_at (slots : List Slot) (peer : List Char) (now : UInt64) (ok : Bool) :
    List Slot :=
  let (slots, found) := find slots peer now !ok
  match found with
  | none => slots
  | some index =>
      slots.modify index fun slot =>
        if !ok && slot.failures < JIPC_AUTH_FAILURES then
          { slot with failures := slot.failures + 1 }
        else if ok && slot.failures < JIPC_AUTH_FAILURES then Slot.free
        else slot

/-! ## Calls -/

/-- One locked call, with the clock reading it was made with. -/
inductive Call
  | blocked (peer : Peer) (now : UInt64)
  | result (peer : Peer) (now : UInt64) (ok : Bool)

def Call.now : Call → UInt64
  | .blocked _ now => now
  | .result _ now _ => now

def Call.peer : Call → Peer
  | .blocked peer _ => peer
  | .result peer _ _ => peer

def tableStep (slots : List Slot) : Call → List Slot
  | .blocked peer now => (jipc_auth_blocked_at slots peer.text now).1
  | .result peer now ok => jipc_auth_result_at slots peer.text now ok

/-- What the call returns; a result is noted without an answer. -/
def tableAnswer (slots : List Slot) : Call → Option Bool
  | .blocked peer now => some (jipc_auth_blocked_at slots peer.text now).2
  | .result .. => none

/-- The static array after a sequence of calls. -/
def tableAfter (calls : List Call) : List Slot :=
  calls.foldl tableStep (List.replicate SLOTS Slot.free)

/-! ## The unbounded map the array stands for -/

/-- Ten failures within sixty seconds of the first. -/
def policy : FailurePolicy where
  limit := JIPC_AUTH_FAILURES
  span := JIPC_AUTH_WINDOW_US.toNat

abbrev Windows := FailureWindows Peer

def windowsStep (windows : Windows) : Call → Windows
  | .blocked _ _ => windows
  | .result peer now ok => windows.note policy peer now.toNat ok

def windowsAnswer (windows : Windows) : Call → Option Bool
  | .blocked peer now => some (windows.blocked policy peer now.toNat)
  | .result .. => none

def windowsAfter (calls : List Call) : Windows :=
  calls.foldl windowsStep fun _ => none

/-- Nondecreasing clock readings. -/
def Ordered (calls : List Call) : Prop :=
  calls.Pairwise fun first second => first.now ≤ second.now

/-- After each call at most `SLOTS` peers have a window open. -/
def FewLive (calls : List Call) : Prop :=
  ∀ early last late, calls = early ++ last :: late →
    {peer | ((windowsAfter (early ++ [last])).live policy peer last.now.toNat).isSome}.encard ≤ SLOTS

/-! ## The search -/

/-- Each slot of `after` is the slot of `before`, swept or not. -/
def Sweeps (now : UInt64) (before after : List Slot) : Prop :=
  List.Forall₂ (fun old new => new = old ∨ new = old.swept now) before after

theorem not_expired_swept (slot : Slot) (now : UInt64) : ¬(slot.swept now).expired now := by
  unfold Slot.swept
  by_cases ended : slot.expired now
  · rw [if_pos ended]
    exact fun freeExpired => freeExpired.1 rfl
  · rw [if_neg ended]
    exact ended

theorem swept_of_not_expired {slot : Slot} {now : UInt64} (open_ : ¬slot.expired now) :
    slot.swept now = slot :=
  if_neg open_

/-- Sweeping frees a slot or leaves it as it is. -/
theorem swept_peer (slot : Slot) (now : UInt64) :
    slot.swept now = slot ∨ slot.swept now = Slot.free := by
  unfold Slot.swept
  by_cases ended : slot.expired now
  · right
    exact if_pos ended
  · left
    exact if_neg ended

theorem findLoop_sweeps (peer : List Char) (now : UInt64) :
    ∀ (slots : List Slot) (index : Nat) (victim : Option (Nat × Slot)),
      Sweeps now slots (findLoop peer now slots index victim).1
  | [], _, _ => .nil
  | slot :: rest, index, victim => by
      by_cases own : (slot.swept now).peer ≠ [] ∧ (slot.swept now).peer = peer
      · rw [findLoop, if_pos own]
        have restKept : Sweeps now rest rest := List.forall₂_same.mpr fun _ _ => .inl rfl
        exact .cons (.inr rfl) restKept
      · rw [findLoop, if_neg own]
        exact .cons (.inr rfl) (findLoop_sweeps peer now rest _ _)

/-- A hit is the peer's own slot, and its window is open. -/
theorem findLoop_hit {peer : List Char} {now : UInt64} :
    ∀ {slots after : List Slot} {start index : Nat} {victim : Option (Nat × Slot)},
      findLoop peer now slots start victim = (after, .hit index) →
        ∃ offset slot, index = start + offset ∧ after[offset]? = some slot ∧
          slot.peer = peer ∧ ¬slot.expired now
  | [], _, _, _, _, found => by simp [findLoop] at found
  | slot :: rest, after, start, index, victim, found => by
      by_cases own : (slot.swept now).peer ≠ [] ∧ (slot.swept now).peer = peer
      · rw [findLoop, if_pos own] at found
        simp only [Prod.mk.injEq, Found.hit.injEq] at found
        obtain ⟨afterEq, indexEq⟩ := found
        subst afterEq indexEq
        exact ⟨0, slot.swept now, rfl, rfl, own.2, not_expired_swept slot now⟩
      · rw [findLoop, if_neg own] at found
        simp only [Prod.mk.injEq] at found
        obtain ⟨afterEq, later⟩ := found
        subst afterEq
        obtain ⟨offset, ownSlot, indexEq, atOffset, named, open_⟩ :=
          findLoop_hit (Prod.ext rfl later)
        exact ⟨offset + 1, ownSlot, by omega, atOffset, named, open_⟩

/-- After a miss every slot has been swept and none is the peer's. -/
theorem findLoop_miss {peer : List Char} {now : UInt64} :
    ∀ {slots after : List Slot} {start : Nat} {victim chosen : Option (Nat × Slot)},
      findLoop peer now slots start victim = (after, .miss chosen) →
        after = slots.map (·.swept now) ∧ ∀ slot ∈ after, slot.peer = [] ∨ slot.peer ≠ peer
  | [], _, _, _, _, found => by
      simp only [findLoop, Prod.mk.injEq] at found
      simp [← found.1]
  | slot :: rest, after, start, victim, chosen, found => by
      by_cases own : (slot.swept now).peer ≠ [] ∧ (slot.swept now).peer = peer
      · rw [findLoop, if_pos own] at found
        simp at found
      · rw [findLoop, if_neg own] at found
        simp only [Prod.mk.injEq] at found
        obtain ⟨afterEq, later⟩ := found
        subst afterEq
        have inTail := findLoop_miss (Prod.ext rfl later)
        refine ⟨congrArg (slot.swept now :: ·) inTail.1, ?_⟩
        intro other member
        cases List.mem_cons.mp member with
        | inl isHead =>
            rw [isHead]
            exact Decidable.or_iff_not_imp_left.mpr fun used same => own ⟨used, same⟩
        | inr inRest => exact inTail.2 other inRest

/-- A free victim is only ever replaced by a free slot. -/
theorem freeVictim_stays {slot : Slot} {victim : Option (Nat × Slot)} {index : Nat}
    (isFree : ∃ place old, victim = some (place, old) ∧ old.peer = []) :
    ∃ place old,
      (if slot.betterThan victim then some (index, slot) else victim) = some (place, old) ∧
        old.peer = [] := by
  obtain ⟨place, old, same, oldFree⟩ := isFree
  subst same
  by_cases better : slot.betterThan (some (place, old))
  · rw [if_pos better]
    have slotFree : slot.peer = [] := by
      cases better with
      | inl slotFree => exact slotFree
      | inr older => exact absurd oldFree older.1
    exact ⟨index, slot, rfl, slotFree⟩
  · rw [if_neg better]
    exact ⟨place, old, rfl, oldFree⟩

/-- The victim is free whenever the search starts with a free one or passes a
free slot. -/
theorem findLoop_victim_free {peer : List Char} {now : UInt64} :
    ∀ {slots after : List Slot} {start : Nat} {victim chosen : Option (Nat × Slot)},
      findLoop peer now slots start victim = (after, .miss chosen) →
        ((∃ place old, victim = some (place, old) ∧ old.peer = []) ∨
          ∃ slot ∈ after, slot.peer = []) →
        ∃ place old, chosen = some (place, old) ∧ old.peer = []
  | [], _, _, _, _, found, free => by
      simp only [findLoop, Prod.mk.injEq, Found.miss.injEq] at found
      rw [← found.1, found.2] at free
      simpa using free
  | slot :: rest, after, start, victim, chosen, found, free => by
      by_cases own : (slot.swept now).peer ≠ [] ∧ (slot.swept now).peer = peer
      · rw [findLoop, if_pos own] at found
        simp at found
      · rw [findLoop, if_neg own] at found
        simp only [Prod.mk.injEq] at found
        obtain ⟨afterEq, later⟩ := found
        subst afterEq
        apply findLoop_victim_free (Prod.ext rfl later)
        cases free with
        | inl victimFree => exact .inl (freeVictim_stays victimFree)
        | inr someFree =>
            obtain ⟨other, member, otherFree⟩ := someFree
            cases List.mem_cons.mp member with
            | inr inRest => exact .inr ⟨other, inRest, otherFree⟩
            | inl isHead =>
                rw [isHead] at otherFree
                have better : (slot.swept now).betterThan victim := by
                  cases victim with
                  | none => trivial
                  | some _ => exact .inl otherFree
                rw [if_pos better]
                exact .inl ⟨start, slot.swept now, rfl, otherFree⟩

/-- The victim is one of the slots, where the search says it is. -/
theorem findLoop_victim_mem {peer : List Char} {now : UInt64} :
    ∀ {slots after : List Slot} {start : Nat} {victim chosen : Option (Nat × Slot)},
      findLoop peer now slots start victim = (after, .miss chosen) →
        chosen = victim ∨
          ∃ offset slot, chosen = some (start + offset, slot) ∧ after[offset]? = some slot
  | [], _, _, _, _, found => by
      simp only [findLoop, Prod.mk.injEq, Found.miss.injEq] at found
      exact .inl found.2.symm
  | slot :: rest, after, start, victim, chosen, found => by
      by_cases own : (slot.swept now).peer ≠ [] ∧ (slot.swept now).peer = peer
      · rw [findLoop, if_pos own] at found
        simp at found
      · rw [findLoop, if_neg own] at found
        simp only [Prod.mk.injEq] at found
        obtain ⟨afterEq, later⟩ := found
        subst afterEq
        cases findLoop_victim_mem (Prod.ext rfl later) with
        | inl carried =>
            by_cases better : (slot.swept now).betterThan victim
            · rw [if_pos better] at carried
              exact .inr ⟨0, slot.swept now, carried, rfl⟩
            · rw [if_neg better] at carried
              exact .inl carried
        | inr inRest =>
            obtain ⟨offset, chosenSlot, same, atOffset⟩ := inRest
            refine .inr ⟨offset + 1, chosenSlot, ?_, atOffset⟩
            rw [same, Nat.add_right_comm, Nat.add_assoc]

namespace Sweeps

variable {now : UInt64} {before after : List Slot}

theorem length_eq (swept : Sweeps now before after) : before.length = after.length :=
  List.Forall₂.length_eq swept

/-- A slot found afterwards was there before, or is free. -/
theorem at_or_free (swept : Sweeps now before after) {index : Nat} {slot : Slot}
    (atIndex : after[index]? = some slot) : before[index]? = some slot ∨ slot = Slot.free := by
  induction swept generalizing index with
  | nil => simp at atIndex
  | @cons old new restBefore restAfter first _ inductionHypothesis =>
      cases index with
      | succ index => exact inductionHypothesis atIndex
      | zero =>
          have isNew : new = slot := Option.some.inj atIndex
          subst isNew
          show some old = some new ∨ _
          cases first with
          | inl unchanged => exact .inl (congrArg some unchanged.symm)
          | inr sweptOld =>
              rw [sweptOld]
              cases swept_peer old now with
              | inl unchanged => exact .inl (congrArg some unchanged.symm)
              | inr freed => exact .inr freed

theorem mem_or_free (swept : Sweeps now before after) {slot : Slot} (member : slot ∈ after) :
    slot ∈ before ∨ slot = Slot.free := by
  obtain ⟨index, atIndex⟩ := List.mem_iff_getElem?.mp member
  cases swept.at_or_free atIndex with
  | inl unchanged => exact .inl (List.mem_of_getElem? unchanged)
  | inr freed => exact .inr freed

theorem mem_of_not_expired (swept : Sweeps now before after) {slot : Slot} (member : slot ∈ before)
    (notExpired : ¬slot.expired now) : slot ∈ after := by
  induction swept with
  | nil => exact member
  | @cons old new restBefore restAfter first _ inductionHypothesis =>
      cases List.mem_cons.mp member with
      | inr inRest => exact List.mem_cons_of_mem _ (inductionHypothesis inRest)
      | inl isHead =>
          subst isHead
          rw [swept_of_not_expired notExpired, or_self] at first
          rw [first]
          exact List.mem_cons_self

end Sweeps

/-! ## The array and the map -/

/-- The slot holds the window, its count stopped at the limit. -/
def Slot.Stores (slot : Slot) (window : FailureWindow) : Prop :=
  slot.since.toNat = window.since ∧ slot.failures = min window.failures JIPC_AUTH_FAILURES

/-- One slot, and no other, is the peer's, and it holds the window. -/
def Keeps (slots : List Slot) (peer : Peer) (window : FailureWindow) : Prop :=
  ∃ (index : Nat) (slot : Slot),
    slots[index]? = some slot ∧ slot.peer = peer.text ∧ slot.Stores window ∧
      ∀ (other : Nat) (otherSlot : Slot),
        slots[other]? = some otherSlot → otherSlot.peer = peer.text → other = index

/-- At `now` the array and the map agree on every open window. -/
structure Represents (slots : List Slot) (windows : Windows) (now : UInt64) : Prop where
  size : slots.length = SLOTS
  named : ∀ slot ∈ slots, slot.peer = [] ∨ ∃ peer : Peer, slot.peer = peer.text
  distinct : ∀ (left right : Nat) (slot twin : Slot),
    slots[left]? = some slot → slots[right]? = some twin →
      slot.peer ≠ [] → twin.peer = slot.peer → right = left
  past : ∀ slot ∈ slots, slot.since ≤ now
  held : ∀ peer window, windows.live policy peer now.toNat = some window →
    ∃ slot ∈ slots, slot.peer = peer.text ∧ slot.Stores window
  backed : ∀ slot ∈ slots, ∀ peer : Peer, slot.peer = peer.text → ¬slot.expired now →
    ∃ window, windows.live policy peer now.toNat = some window ∧ slot.Stores window

theorem expired_iff {slot : Slot} {now : UInt64} (past : slot.since ≤ now) :
    slot.expired now ↔ slot.peer ≠ [] ∧ slot.since.toNat + policy.span ≤ now.toNat := by
  have pastNat : slot.since.toNat ≤ now.toNat := UInt64.le_iff_toNat_le.mp past
  have spanValue : policy.span = JIPC_AUTH_WINDOW_US.toNat := rfl
  unfold Slot.expired
  rw [ge_iff_le, UInt64.le_iff_toNat_le, UInt64.toNat_sub_of_le _ _ past, spanValue]
  apply and_congr_right
  intro _
  exact Nat.le_sub_iff_add_le' pastNat

/-- The window a slot holds is open exactly while the slot is not expired. -/
theorem Slot.Stores.open {slot : Slot} {window : FailureWindow} {now : UInt64}
    (stores : slot.Stores window) (used : slot.peer ≠ []) (past : slot.since ≤ now) :
    ¬slot.expired now ↔ now.toNat < window.since + policy.span := by
  rw [expired_iff past, ← stores.1]
  constructor
  · intro notExpired
    by_contra ended
    exact notExpired ⟨used, by omega⟩
  · intro notEnded ended
    have := ended.2
    omega

namespace Represents

variable {slots : List Slot} {windows : Windows} {now : UInt64}

theorem initially : Represents (List.replicate SLOTS Slot.free) (fun _ => none) 0 where
  size := List.length_replicate
  named := by
    intro slot member
    rw [List.eq_of_mem_replicate member]
    exact .inl rfl
  distinct := by
    intro left right slot twin atLeft _ used _
    rw [List.eq_of_mem_replicate (List.mem_of_getElem? atLeft)] at used
    exact absurd rfl used
  past := by
    intro slot member
    rw [List.eq_of_mem_replicate member]
    decide
  held := by
    intro peer window open_
    simp [FailureWindows.live] at open_
  backed := by
    intro slot member peer same _
    rw [List.eq_of_mem_replicate member] at same
    exact absurd same.symm peer.named

/-- Time alone changes nothing. -/
theorem later (before : Represents slots windows now) {time : UInt64} (notBefore : now ≤ time) :
    Represents slots windows time where
  size := before.size
  named := before.named
  distinct := before.distinct
  past := fun slot member => UInt64.le_trans (before.past slot member) notBefore
  held := by
    intro peer window open_
    apply before.held peer window
    exact FailureWindows.live_of_later (UInt64.le_iff_toNat_le.mp notBefore) open_
  backed := by
    intro slot member peer same notExpired
    have used : slot.peer ≠ [] := same ▸ peer.named
    have pastThen := before.past slot member
    have pastNow := UInt64.le_trans pastThen notBefore
    have openThen : ¬slot.expired now := by
      rw [expired_iff pastThen]
      rw [expired_iff pastNow] at notExpired
      have := UInt64.le_iff_toNat_le.mp notBefore
      intro ended
      exact notExpired ⟨used, by have := ended.2; omega⟩
    obtain ⟨window, live, stores⟩ := before.backed slot member peer same openThen
    have notEnded := (stores.open used pastNow).mp notExpired
    exact ⟨window, FailureWindows.live_at_later live notEnded, stores⟩

/-- Sweeping frees expired slots only, so it touches no open window. -/
theorem sweeps (before : Represents slots windows now) {after : List Slot}
    (swept : Sweeps now slots after) : Represents after windows now where
  size := swept.length_eq ▸ before.size
  named := by
    intro slot member
    cases swept.mem_or_free member with
    | inl unchanged => exact before.named slot unchanged
    | inr freed => exact .inl (congrArg Slot.peer freed)
  distinct := by
    intro left right slot twin atLeft atRight used same
    cases swept.at_or_free atLeft with
    | inr freed => exact absurd (congrArg Slot.peer freed) used
    | inl leftKept =>
        cases swept.at_or_free atRight with
        | inr freed => exact absurd (same.symm.trans (congrArg Slot.peer freed)) used
        | inl rightKept => exact before.distinct left right slot twin leftKept rightKept used same
  past := by
    intro slot member
    cases swept.mem_or_free member with
    | inl unchanged => exact before.past slot unchanged
    | inr freed =>
        rw [freed]
        exact UInt64.zero_le
  held := by
    intro peer window open_
    obtain ⟨slot, member, same, stores⟩ := before.held peer window open_
    have used : slot.peer ≠ [] := same ▸ peer.named
    have notEnded := (FailureWindows.live_eq_some.mp open_).2
    have notExpired := (stores.open used (before.past slot member)).mpr notEnded
    exact ⟨slot, swept.mem_of_not_expired member notExpired, same, stores⟩
  backed := by
    intro slot member peer same notExpired
    cases swept.mem_or_free member with
    | inl unchanged => exact before.backed slot unchanged peer same notExpired
    | inr freed => exact absurd (same.symm.trans (congrArg Slot.peer freed)) peer.named

/-- The peer's slot is the only one with its text. -/
theorem keeps (before : Represents slots windows now) {peer : Peer} {window : FailureWindow}
    (open_ : windows.live policy peer now.toNat = some window) : Keeps slots peer window := by
  obtain ⟨slot, member, same, stores⟩ := before.held peer window open_
  obtain ⟨index, atIndex⟩ := List.mem_iff_getElem?.mp member
  have used : slot.peer ≠ [] := same ▸ peer.named
  refine ⟨index, slot, atIndex, same, stores, ?_⟩
  intro other otherSlot atOther otherSame
  exact before.distinct index other slot otherSlot atIndex atOther used (otherSame.trans same.symm)

/-- No slot carries the peer's text: its window is not open. -/
theorem live_of_absent (before : Represents slots windows now) {peer : Peer}
    (absent : ∀ slot ∈ slots, slot.peer ≠ peer.text) :
    windows.live policy peer now.toNat = none := by
  cases open_ : windows.live policy peer now.toNat with
  | none => rfl
  | some window =>
      obtain ⟨slot, member, same, _⟩ := before.held peer window open_
      exact absurd same (absent slot member)

/-- Two maps with the same open windows are represented alike. -/
theorem congr (before : Represents slots windows now) {changed : Windows}
    (same : ∀ peer, changed.live policy peer now.toNat = windows.live policy peer now.toNat) :
    Represents slots changed now :=
  { before with
    held := fun peer window open_ => before.held peer window (same peer ▸ open_)
    backed := fun slot member peer text open_ => by
      rw [same peer]
      exact before.backed slot member peer text open_ }

/-- Writing one peer's slot changes that peer's window and no other. -/
theorem replaced (before : Represents slots windows now) {peer : Peer} {index : Nat}
    {old new : Slot} {changed : Windows}
    (atIndex : slots[index]? = some old)
    (own : ∀ (other : Nat) (slot : Slot),
      slots[other]? = some slot → slot.peer = peer.text → other = index)
    (oldOwn : old.peer = [] ∨ old.peer = peer.text)
    (others : ∀ other, other ≠ peer →
      changed.live policy other now.toNat = windows.live policy other now.toNat)
    (written : (new = Slot.free ∧ changed.live policy peer now.toNat = none) ∨
      ∃ window, new.peer = peer.text ∧ new.since ≤ now ∧
        changed.live policy peer now.toNat = some window ∧ new.Stores window) :
    Represents (slots.set index new) changed now := by
  have inRange : index < slots.length := (List.getElem?_eq_some_iff.mp atIndex).1
  have newNamed : new.peer = [] ∨ new.peer = peer.text := by
    cases written with
    | inl freed => exact .inl (congrArg Slot.peer freed.1)
    | inr stored => exact .inr stored.choose_spec.1
  constructor
  case size => rw [List.length_set, before.size]
  case named =>
    intro slot member
    cases List.mem_or_eq_of_mem_set member with
    | inl unchanged => exact before.named slot unchanged
    | inr isNew => exact isNew ▸ newNamed.imp_right fun text => ⟨peer, text⟩
  case distinct =>
    intro left right slot twin atLeft atRight used same
    rw [List.getElem?_set] at atLeft atRight
    by_cases leftNew : index = left
    · by_cases rightNew : index = right
      · omega
      · rw [if_pos leftNew, if_pos inRange] at atLeft
        rw [if_neg rightNew] at atRight
        rw [← Option.some.inj atLeft] at used same
        exact absurd (own right twin atRight (same.trans (newNamed.resolve_left used))).symm rightNew
    · rw [if_neg leftNew] at atLeft
      by_cases rightNew : index = right
      · rw [if_pos rightNew, if_pos inRange] at atRight
        rw [← Option.some.inj atRight] at same
        have newUsed : new.peer ≠ [] := same ▸ used
        have text := same.symm.trans (newNamed.resolve_left newUsed)
        exact absurd (own left slot atLeft text).symm leftNew
      · rw [if_neg rightNew] at atRight
        exact before.distinct left right slot twin atLeft atRight used same
  case past =>
    intro slot member
    cases List.mem_or_eq_of_mem_set member with
    | inl unchanged => exact before.past slot unchanged
    | inr isNew =>
        rw [isNew]
        cases written with
        | inl freed =>
            rw [freed.1]
            exact UInt64.zero_le
        | inr stored => exact stored.choose_spec.2.1
  case held =>
    intro owner window open_
    by_cases isPeer : owner = peer
    · rw [isPeer] at open_ ⊢
      cases written with
      | inl freed => exact absurd (freed.2.symm.trans open_) nofun
      | inr stored =>
          obtain ⟨kept, text, _, live, stores⟩ := stored
          have sameWindow : kept = window := Option.some.inj (live.symm.trans open_)
          exact ⟨new, List.mem_set inRange new, text, sameWindow ▸ stores⟩
    · rw [others owner isPeer] at open_
      obtain ⟨slot, member, text, stores⟩ := before.held owner window open_
      obtain ⟨place, atPlace⟩ := List.mem_iff_getElem?.mp member
      have elsewhere : index ≠ place := by
        intro samePlace
        rw [← samePlace, atIndex] at atPlace
        rw [← Option.some.inj atPlace] at text
        cases oldOwn with
        | inl oldFree => exact owner.named (text.symm.trans oldFree)
        | inr oldText => exact isPeer (Peer.ext_text (text.symm.trans oldText))
      have stillThere : (slots.set index new)[place]? = some slot := by
        rw [List.getElem?_set_ne elsewhere]
        exact atPlace
      exact ⟨slot, List.mem_of_getElem? stillThere, text, stores⟩
  case backed =>
    intro slot member owner text notExpired
    obtain ⟨place, atPlace⟩ := List.mem_iff_getElem?.mp member
    rw [List.getElem?_set] at atPlace
    by_cases isNew : index = place
    · rw [if_pos isNew, if_pos inRange] at atPlace
      rw [← Option.some.inj atPlace] at text ⊢
      have newUsed : new.peer ≠ [] := text ▸ owner.named
      have isPeer : owner = peer :=
        Peer.ext_text (text.symm.trans (newNamed.resolve_left newUsed))
      rw [isPeer]
      cases written with
      | inl freed => exact absurd (congrArg Slot.peer freed.1) newUsed
      | inr stored =>
          obtain ⟨kept, _, _, live, stores⟩ := stored
          exact ⟨kept, live, stores⟩
    · rw [if_neg isNew] at atPlace
      have isOther : owner ≠ peer := by
        intro isPeer
        exact isNew (own place slot atPlace (isPeer ▸ text)).symm
      rw [others owner isOther]
      exact before.backed slot (List.mem_of_getElem? atPlace) owner text notExpired

/-- With every slot swept and none the peer's, a full array would make one live
peer too many: some slot is free. -/
theorem someFree (before : Represents slots windows now) {peer : Peer} {changed : Windows}
    (swept : ∀ slot ∈ slots, ¬slot.expired now)
    (absent : ∀ slot ∈ slots, slot.peer ≠ peer.text)
    (others : ∀ other, other ≠ peer →
      changed.live policy other now.toNat = windows.live policy other now.toNat)
    (opened : (changed.live policy peer now.toNat).isSome)
    (few : {owner | (changed.live policy owner now.toNat).isSome}.encard ≤ SLOTS) :
    ∃ slot ∈ slots, slot.peer = [] := by
  by_contra noneFree
  have named : ∀ index : Fin slots.length, ∃ owner : Peer, (slots.get index).peer = owner.text := by
    intro index
    have member := List.get_mem slots index
    cases before.named _ member with
    | inl isFree => exact absurd ⟨_, member, isFree⟩ noneFree
    | inr owned => exact owned
  choose owner text using named
  have injective : Function.Injective owner := by
    intro left right same
    have leftUsed : (slots.get left).peer ≠ [] := (text left) ▸ (owner left).named
    have twins : (slots.get right).peer = (slots.get left).peer := by
      rw [text left, text right, same]
    have indexEq := before.distinct left right _ _ (List.getElem?_eq_getElem left.isLt)
      (List.getElem?_eq_getElem right.isLt) leftUsed twins
    exact (Fin.ext indexEq).symm
  have ownerOther : ∀ index, owner index ≠ peer := by
    intro index isPeer
    exact absent _ (List.get_mem slots index) (isPeer ▸ text index)
  let owners : Finset Peer := insert peer (Finset.univ.image owner)
  have count : owners.card = SLOTS + 1 := by
    rw [Finset.card_insert_of_notMem, Finset.card_image_of_injective _ injective,
      Finset.card_univ, Fintype.card_fin, before.size]
    intro member
    obtain ⟨index, _, isPeer⟩ := Finset.mem_image.mp member
    exact ownerOther index isPeer
  have allLive : (owners : Set Peer) ⊆ {owner | (changed.live policy owner now.toNat).isSome} := by
    intro someone member
    cases Finset.mem_insert.mp (Finset.mem_coe.mp member) with
    | inl isPeer => exact isPeer ▸ opened
    | inr inSlots =>
        obtain ⟨index, _, isOwner⟩ := Finset.mem_image.mp inSlots
        rw [← isOwner]
        show (changed.live policy (owner index) now.toNat).isSome
        rw [others (owner index) (ownerOther index)]
        have inSlots := List.get_mem slots index
        obtain ⟨window, live, _⟩ :=
          before.backed _ inSlots (owner index) (text index) (swept _ inSlots)
        rw [live]
        rfl
  have tooMany := (Set.encard_le_encard allLive).trans few
  rw [Set.encard_coe_eq_coe_finsetCard, count] at tooMany
  exact absurd (ENat.natCast_le_natCast.mp tooMany) (by omega)

end Represents

/-! ## The calls -/

section Calls

variable {slots : List Slot} {windows : Windows} {now : UInt64}

/-- What one search finds, and what it leaves behind: the slot of a peer whose
window is open, or nothing of it and every slot swept. -/
theorem findLoop_represents (before : Represents slots windows now) (peer : Peer) :
    (∃ after index slot window,
      findLoop peer.text now slots 0 none = (after, .hit index) ∧
        Represents after windows now ∧ after[index]? = some slot ∧ slot.peer = peer.text ∧
          windows.live policy peer now.toNat = some window ∧ slot.Stores window) ∨
    ∃ after chosen,
      findLoop peer.text now slots 0 none = (after, .miss chosen) ∧
        Represents after windows now ∧ (∀ slot ∈ after, slot.peer ≠ peer.text) ∧
          ∀ slot ∈ after, ¬slot.expired now := by
  have swept := findLoop_sweeps peer.text now slots 0 none
  generalize searched : findLoop peer.text now slots 0 none = search at swept
  obtain ⟨after, found⟩ := search
  have represents := before.sweeps swept
  cases found with
  | hit index =>
      obtain ⟨offset, slot, indexEq, atOffset, text, notExpired⟩ := findLoop_hit searched
      obtain ⟨window, live, stores⟩ :=
        represents.backed slot (List.mem_of_getElem? atOffset) peer text notExpired
      rw [Nat.zero_add] at indexEq
      exact .inl ⟨after, index, slot, window, rfl, represents, indexEq ▸ atOffset, text, live, stores⟩
  | miss chosen =>
      obtain ⟨allSwept, absent⟩ := findLoop_miss searched
      refine .inr ⟨after, chosen, rfl, represents, ?_, ?_⟩
      · intro slot member
        cases absent slot member with
        | inl isFree => exact fun text => peer.named (text.symm.trans isFree)
        | inr different => exact different
      · intro slot member
        rw [allSwept] at member
        obtain ⟨old, _, isSwept⟩ := List.mem_map.mp member
        exact isSwept ▸ not_expired_swept old now

theorem modify_at {index : Nat} {slot : Slot} (atIndex : slots[index]? = some slot)
    (change : Slot → Slot) : slots.modify index change = slots.set index (change slot) := by
  rw [List.modify_eq_set, atIndex, Option.getD_some]

/-- A stored count is below the limit exactly when the window's is. -/
theorem Slot.Stores.below {slot : Slot} {window : FailureWindow} (stores : slot.Stores window) :
    slot.failures < JIPC_AUTH_FAILURES ↔ window.failures < policy.limit := by
  rw [stores.2]
  show min window.failures JIPC_AUTH_FAILURES < JIPC_AUTH_FAILURES ↔
    window.failures < JIPC_AUTH_FAILURES
  omega

theorem blocked_answer (before : Represents slots windows now) (peer : Peer) :
    (jipc_auth_blocked_at slots peer.text now).2 = windows.blocked policy peer now.toNat := by
  cases findLoop_represents before peer with
  | inl hit =>
      obtain ⟨after, index, slot, window, searched, _, atIndex, _, live, stores⟩ := hit
      have found : find slots peer.text now false = (after, some index) := by
        rw [find, searched]
      have counted := stores.below
      simp only [jipc_auth_blocked_at, found, Option.bind_some, atIndex, FailureWindows.blocked, live]
      apply decide_eq_decide.mpr
      omega
  | inr miss =>
      obtain ⟨after, chosen, searched, represents, absent, _⟩ := miss
      have found : find slots peer.text now false = (after, none) := by
        rw [find, searched]
        rfl
      have notLive := represents.live_of_absent absent
      simp [jipc_auth_blocked_at, found, FailureWindows.blocked, notLive]

theorem blocked_represents (before : Represents slots windows now) (peer : Peer) :
    Represents (jipc_auth_blocked_at slots peer.text now).1 windows now := by
  have unchanged : (jipc_auth_blocked_at slots peer.text now).1 =
      (findLoop peer.text now slots 0 none).1 := by
    generalize searched : findLoop peer.text now slots 0 none = search
    obtain ⟨after, found⟩ := search
    cases found with
    | hit index =>
        have found : find slots peer.text now false = (after, some index) := by
          rw [find, searched]
        cases atIndex : after[index]? with
        | none => simp [jipc_auth_blocked_at, found, atIndex]
        | some slot => simp [jipc_auth_blocked_at, found, atIndex]
    | miss chosen =>
        have found : find slots peer.text now false = (after, none) := by
          rw [find, searched]
          rfl
        simp [jipc_auth_blocked_at, found]
  rw [unchanged]
  exact before.sweeps (findLoop_sweeps peer.text now slots 0 none)

/-- A result on a peer whose slot the search hits. -/
theorem result_on_hit (before : Represents slots windows now) {peer : Peer} {index : Nat}
    {slot : Slot} {window : FailureWindow} {changed : Windows} (ok : Bool)
    (atIndex : slots[index]? = some slot) (text : slot.peer = peer.text)
    (stores : slot.Stores window)
    (others : ∀ other, other ≠ peer →
      changed.live policy other now.toNat = windows.live policy other now.toNat)
    (noted : changed.live policy peer now.toNat =
      FailureWindows.noted policy (some window) now.toNat ok) :
    Represents (slots.modify index fun slot =>
      if !ok && slot.failures < JIPC_AUTH_FAILURES then
        { slot with failures := slot.failures + 1 }
      else if ok && slot.failures < JIPC_AUTH_FAILURES then Slot.free
      else slot) changed now := by
  have used : slot.peer ≠ [] := text ▸ peer.named
  have past := before.past slot (List.mem_of_getElem? atIndex)
  have own : ∀ (other : Nat) (twin : Slot),
      slots[other]? = some twin → twin.peer = peer.text → other = index :=
    fun other twin atOther same =>
      before.distinct index other slot twin atIndex atOther used (same.trans text.symm)
  rw [modify_at atIndex]
  apply before.replaced atIndex own (.inr text) others
  have counted := stores.below
  by_cases below : slot.failures < JIPC_AUTH_FAILURES
  · cases ok with
    | false =>
        right
        refine ⟨_, ?_, ?_, noted, ?_⟩
        · simp [below, text]
        · simp [below, past]
        · constructor
          · simp [below, stores.1]
          · have countEq := stores.2
            simp only [Bool.not_false, Bool.true_and, below, decide_true, if_true]
            omega
    | true =>
        left
        constructor
        · simp [below]
        · rw [noted]
          exact if_pos (counted.mp below)
  · right
    refine ⟨(FailureWindows.noted policy (some window) now.toNat ok).getD window, ?_, ?_, ?_, ?_⟩
    · simp [below, text]
    · simp [below, past]
    · rw [noted]
      cases ok with
      | false => rfl
      | true =>
          show (if window.failures < policy.limit then none else some window) = _
          rw [if_neg (below ∘ counted.mpr)]
          simp [FailureWindows.noted, if_neg (below ∘ counted.mpr)]
    · have countEq := stores.2
      cases ok with
      | false =>
          constructor
          · simp [below, stores.1, FailureWindows.noted]
          · simp only [below, FailureWindows.noted, Option.getD_some, decide_false, Bool.and_false,
              Bool.false_eq_true, if_false]
            omega
      | true =>
          have kept : FailureWindows.noted policy (some window) now.toNat true = some window :=
            if_neg (below ∘ counted.mpr)
          rw [kept]
          simpa [below] using stores

/-- A failure of a peer the search misses takes a free slot. -/
theorem failure_on_miss (before : Represents slots windows now) {peer : Peer} {changed : Windows}
    {index : Nat} {old : Slot}
    (atIndex : slots[index]? = some old) (isFree : old.peer = [])
    (absent : ∀ slot ∈ slots, slot.peer ≠ peer.text)
    (others : ∀ other, other ≠ peer →
      changed.live policy other now.toNat = windows.live policy other now.toNat)
    (noted : changed.live policy peer now.toNat = some ⟨now.toNat, 1⟩) :
    Represents (slots.set index { peer := peer.text, since := now, failures := 1 }) changed now := by
  have own : ∀ (other : Nat) (slot : Slot),
      slots[other]? = some slot → slot.peer = peer.text → other = index :=
    fun other slot atOther same => absurd same (absent slot (List.mem_of_getElem? atOther))
  apply before.replaced atIndex own (.inl isFree) others
  right
  exact ⟨_, rfl, UInt64.le_refl now, noted, rfl, rfl⟩

theorem result_represents (before : Represents slots windows now) (peer : Peer) (ok : Bool)
    (few : {owner |
      ((windows.note policy peer now.toNat ok).live policy owner now.toNat).isSome}.encard ≤ SLOTS) :
    Represents (jipc_auth_result_at slots peer.text now ok)
      (windows.note policy peer now.toNat ok) now := by
  have others : ∀ other, other ≠ peer →
      (windows.note policy peer now.toNat ok).live policy other now.toNat =
        windows.live policy other now.toNat :=
    fun other different => FailureWindows.live_note_of_ne different
  have noted : (windows.note policy peer now.toNat ok).live policy peer now.toNat =
      FailureWindows.noted policy (windows.live policy peer now.toNat) now.toNat ok :=
    FailureWindows.live_note_self (by decide)
  cases findLoop_represents before peer with
  | inl hit =>
      obtain ⟨after, index, slot, window, searched, represents, atIndex, text, live, stores⟩ := hit
      have found : find slots peer.text now (!ok) = (after, some index) := by
        rw [find, searched]
      rw [live] at noted
      simp only [jipc_auth_result_at, found]
      exact result_on_hit represents ok atIndex text stores others noted
  | inr miss =>
      obtain ⟨after, chosen, searched, represents, absent, swept⟩ := miss
      rw [represents.live_of_absent absent] at noted
      cases ok with
      | true =>
          have found : find slots peer.text now (!true) = (after, none) := by
            rw [find, searched]
            rfl
          simp only [jipc_auth_result_at, found]
          apply represents.congr
          intro owner
          by_cases isPeer : owner = peer
          · rw [isPeer, noted, represents.live_of_absent absent]
            rfl
          · exact others owner isPeer
      | false =>
          have opened : ((windows.note policy peer now.toNat false).live policy peer
              now.toNat).isSome := by
            rw [noted]
            rfl
          have free := represents.someFree swept absent others opened few
          obtain ⟨index, victim, chosenEq, victimFree⟩ := findLoop_victim_free searched (.inr free)
          have atIndex : after[index]? = some victim := by
            cases findLoop_victim_mem searched with
            | inl unchosen => exact absurd (chosenEq.symm.trans unchosen) nofun
            | inr chosenAt =>
                obtain ⟨offset, slot, chosenIs, atOffset⟩ := chosenAt
                rw [chosenEq, Nat.zero_add] at chosenIs
                simp only [Option.some.injEq, Prod.mk.injEq] at chosenIs
                rw [chosenIs.1, chosenIs.2]
                exact atOffset
          have wholeText : peer.text.take (INET6_ADDRSTRLEN - 1) = peer.text :=
            List.take_of_length_le (Nat.le_sub_one_of_lt peer.fits)
          have inRange : index < after.length := (List.getElem?_eq_some_iff.mp atIndex).1
          have found : find slots peer.text now (!false) =
              (after.set index { peer := peer.text, since := now }, some index) := by
            rw [find, searched, chosenEq]
            show (after.set index { peer := peer.text.take (INET6_ADDRSTRLEN - 1), since := now },
              some index) = _
            rw [wholeText]
          simp only [jipc_auth_result_at, found]
          rw [modify_at (List.getElem?_set_self inRange), List.set_set]
          exact failure_on_miss represents atIndex victimFree absent others noted

end Calls

/-! ## Runs -/

theorem tableAfter_snoc (calls : List Call) (last : Call) :
    tableAfter (calls ++ [last]) = tableStep (tableAfter calls) last := by
  simp [tableAfter]

theorem windowsAfter_snoc (calls : List Call) (last : Call) :
    windowsAfter (calls ++ [last]) = windowsStep (windowsAfter calls) last := by
  simp [windowsAfter]

/-- One call keeps the array and the map in step. -/
theorem step_represents {slots : List Slot} {windows : Windows} {call : Call}
    (before : Represents slots windows call.now)
    (few : {owner |
      ((windowsStep windows call).live policy owner call.now.toNat).isSome}.encard ≤ SLOTS) :
    Represents (tableStep slots call) (windowsStep windows call) call.now := by
  cases call with
  | blocked peer now => exact blocked_represents before peer
  | result peer now ok => exact result_represents before peer ok few

/-- After any run the array and the map agree, at any time not before the
last call. -/
theorem run_represents (calls : List Call) (ordered : Ordered calls) (few : FewLive calls) :
    ∀ now, (∀ call ∈ calls, call.now ≤ now) →
      Represents (tableAfter calls) (windowsAfter calls) now := by
  induction calls using List.reverseRecOn with
  | nil =>
      intro now _
      exact Represents.initially.later UInt64.zero_le
  | append_singleton early last inductionHypothesis =>
      intro now notAfter
      have orderedParts := List.pairwise_append.mp ordered
      have notBefore : ∀ call ∈ early, call.now ≤ last.now := fun call member =>
        orderedParts.2.2 call member last (List.mem_singleton.mpr rfl)
      have fewEarly : FewLive early := by
        intro first middle rest split
        apply few first middle (rest ++ [last])
        rw [split, List.append_assoc, List.cons_append]
      have before := inductionHypothesis orderedParts.1 fewEarly last.now notBefore
      have fewNow := few early last [] rfl
      rw [windowsAfter_snoc] at fewNow ⊢
      rw [tableAfter_snoc]
      exact (step_represents before fewNow).later
        (notAfter last (List.mem_append_right _ (List.mem_singleton.mpr rfl)))

/-- A peer has a window only once a result of its own has been noted. -/
theorem peer_of_window (calls : List Call) {owner : Peer}
    (seen : windowsAfter calls owner ≠ none) : ∃ call ∈ calls, call.peer = owner := by
  induction calls using List.reverseRecOn with
  | nil => exact absurd rfl seen
  | append_singleton early last inductionHypothesis =>
      by_cases isLast : last.peer = owner
      · exact ⟨last, List.mem_append_right _ (List.mem_singleton.mpr rfl), isLast⟩
      · have seenEarly : windowsAfter early owner ≠ none := by
          rw [windowsAfter_snoc] at seen
          cases last with
          | blocked peer now => exact seen
          | result peer now ok =>
              show windowsAfter early owner ≠ none
              have untouched : (windowsAfter early).note policy peer now.toNat ok owner =
                  windowsAfter early owner := Function.update_of_ne (Ne.symm isLast) _ _
              exact untouched ▸ seen
        obtain ⟨call, member, isOwner⟩ := inductionHypothesis seenEarly
        exact ⟨call, List.mem_append_left _ member, isOwner⟩

/-- A run that names no more peers than there are slots never has more live. -/
theorem fewLive_of_few_peers {calls : List Call} (peers : Finset Peer)
    (few : peers.card ≤ SLOTS) (all : ∀ call ∈ calls, call.peer ∈ peers) : FewLive calls := by
  intro early last late split
  have inPeers : {owner | ((windowsAfter (early ++ [last])).live policy owner
      last.now.toNat).isSome} ⊆ (peers : Set Peer) := by
    intro owner open_
    obtain ⟨window, live⟩ := Option.isSome_iff_exists.mp open_
    have stored := (FailureWindows.live_eq_some.mp live).1
    obtain ⟨call, member, isOwner⟩ := peer_of_window _ (stored ▸ Option.some_ne_none window)
    rw [← isOwner]
    apply all
    rw [split, ← List.singleton_append, ← List.append_assoc]
    exact List.mem_append_left _ member
  have counted := Set.encard_le_encard inPeers
  rw [Set.encard_coe_eq_coe_finsetCard] at counted
  exact counted.trans (ENat.natCast_le_natCast.mpr few)

/-- At every call of a run the array answers as the unbounded map does, and
after it every open window sits in one slot of its own, with its own count. -/
theorem table_answers_as_windows (calls : List Call) (ordered : Ordered calls)
    (few : FewLive calls) (early late : List Call) (call : Call)
    (split : calls = early ++ call :: late) :
    tableAnswer (tableAfter early) call = windowsAnswer (windowsAfter early) call ∧
      ∀ peer window,
        (windowsAfter (early ++ [call])).live policy peer call.now.toNat = some window →
          Keeps (tableAfter (early ++ [call])) peer window := by
  have whole : calls = (early ++ [call]) ++ late := by simp [split]
  have orderedPart : Ordered (early ++ [call]) := by
    rw [whole] at ordered
    exact (List.pairwise_append.mp ordered).1
  have notBefore : ∀ before ∈ early, before.now ≤ call.now := fun before member =>
    (List.pairwise_append.mp orderedPart).2.2 before member call (List.mem_singleton.mpr rfl)
  have fewPart : FewLive (early ++ [call]) := by
    intro first middle rest splitPart
    apply few first middle (rest ++ late)
    rw [whole, splitPart, List.append_assoc, List.cons_append]
  have fewEarly : FewLive early := by
    intro first middle rest splitPart
    apply few first middle (rest ++ call :: late)
    rw [split, splitPart, List.append_assoc, List.cons_append]
  constructor
  · have before := run_represents early (List.pairwise_append.mp orderedPart).1 fewEarly
      call.now notBefore
    cases call with
    | blocked peer now => exact congrArg some (blocked_answer before peer)
    | result peer now ok => rfl
  · intro peer window open_
    have after := run_represents (early ++ [call]) orderedPart fewPart call.now (by
      intro other member
      cases List.mem_append.mp member with
      | inl isEarly => exact notBefore other isEarly
      | inr isCall => exact List.mem_singleton.mp isCall ▸ UInt64.le_refl _)
    exact after.keeps open_

def lanPeer : Peer := ⟨"10.0.0.2".toList, by decide, by decide⟩

/-- Ten failures at one instant block the peer for the rest of the window. -/
theorem table_answers_as_windows_blocked :
    tableAnswer (tableAfter (List.replicate 10 (.result lanPeer 0 false)))
      (.blocked lanPeer 59999999) = some true := by
  let failures : List Call := List.replicate 10 (.result lanPeer 0 false)
  let query : Call := .blocked lanPeer 59999999
  have ordered : Ordered (failures ++ [query]) := by
    apply List.pairwise_append.mpr
    refine ⟨List.pairwise_replicate.mpr (.inr (by decide)), List.pairwise_singleton _ _, ?_⟩
    intro failure isFailure last isLast
    rw [List.eq_of_mem_replicate isFailure, List.mem_singleton.mp isLast]
    decide
  have few : FewLive (failures ++ [query]) := by
    apply fewLive_of_few_peers {lanPeer} (by decide)
    intro call member
    cases List.mem_append.mp member with
    | inl isFailure => simp [List.eq_of_mem_replicate isFailure, Call.peer]
    | inr isQuery => simp [List.mem_singleton.mp isQuery, query, Call.peer]
  have answers := (table_answers_as_windows (failures ++ [query]) ordered few failures [] query rfl).1
  exact answers.trans (by decide)

end JooanW3U.Media.AuthLimit

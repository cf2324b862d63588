import JooanW3U.Library.Slots

/-!
Owns the sign-in throttle of the system service: the sixteen buckets, the
search that finds or recycles one, and the three changes a sign-in makes to the
bucket of its remote.  While no more remotes appear than there are buckets, a
change for one remote leaves every other remote's running window alone.

Does not own the order in which the workers make these changes.
-/

namespace JooanW3U.Daemon

open JooanW3U.Library

def BUCKETS : Nat := 16

/-- The text of a peer's address: never empty, and it fits `remote[64]`. -/
structure Remote where
  text : List Char
  named : text ≠ []
  fits : text.length < 64
  deriving DecidableEq

/-- One bucket; an empty `remote` marks it unused. -/
structure Bucket where
  remote : List Char := []
  since : Nat := 0
  failures : Nat := 0
  deriving Repr, DecidableEq, Inhabited

namespace Throttle

/-- The loop of `bucket_for` from `index` on: the remote's own bucket, or the
last one that is unused or whose window is long past. -/
def bucketLoop (remote : List Char) (now : Nat) : List Bucket → Nat → Nat → Bool × Nat
  | [], _, free => (false, free)
  | bucket :: rest, index, free =>
      if bucket.remote = remote then (true, index)
      else
        bucketLoop remote now rest (index + 1)
          (if bucket.remote = [] ∨ bucket.since + 300 < now then index else free)

/-- `bucket_for`: the buckets, with a new one written where none was found, and
the index returned. -/
def bucket_for (buckets : List Bucket) (remote : List Char) (now : Nat) : List Bucket × Nat :=
  match bucketLoop remote now buckets 0 0 with
  | (true, index) => (buckets, index)
  | (false, free) => (buckets.set free { remote := remote.take 63, since := now }, free)

/-- `bucket_for`, and a change made in place to the bucket it returns. -/
def withBucket (buckets : List Bucket) (remote : List Char) (now : Nat)
    (change : Bucket → Bucket) : List Bucket × Nat :=
  let (buckets, index) := bucket_for buckets remote now
  (buckets.modify index change, index)

/-- What `joan_auth_throttled` does to the bucket it has found. -/
def reopened (now : Nat) (bucket : Bucket) : Bucket :=
  if bucket.since + 60 < now then { bucket with since := now, failures := 0 } else bucket

/-- The locked part of `joan_auth_throttled`, with its earlier clock reading. -/
def joan_auth_throttled (buckets : List Bucket) (remote : List Char) (now : Nat) :
    List Bucket × Bool :=
  let (buckets, index) := withBucket buckets remote now (reopened now)
  (buckets, match buckets[index]? with
    | some bucket => decide (bucket.failures ≥ 5)
    | none => false)

/-- What `joan_auth_note` does to the bucket it has found. -/
def counted (ok : Bool) (bucket : Bucket) : Bucket :=
  if ok then { bucket with failures := 0 } else { bucket with failures := bucket.failures + 1 }

def joan_auth_note (buckets : List Bucket) (remote : List Char) (now : Nat) (ok : Bool) :
    List Bucket :=
  (withBucket buckets remote now (counted ok)).1

/-! ## The table as a whole -/

/-- The remote that a bucket belongs to. -/
def owner (bucket : Bucket) : Option (List Char) :=
  if bucket.remote = [] then none else some bucket.remote

/-- The bucket of a remote. -/
def bucketOf (buckets : List Bucket) (remote : Remote) : Option Bucket :=
  Slots.entry owner buckets remote.text

/-- Sixteen buckets, each unused or of a remote of its own. -/
structure Kept (remotes : Finset Remote) (buckets : List Bucket) : Prop where
  size : buckets.length = BUCKETS
  distinct : Slots.Distinct owner buckets
  known : ∀ bucket ∈ buckets, ∀ text, owner bucket = some text →
    ∃ remote ∈ remotes, text = remote.text

/-- The bucket that `bucket_for` returns. -/
def foundBucket (buckets : List Bucket) (remote : Remote) (now : Nat) : Bucket :=
  (bucketOf buckets remote).getD { remote := remote.text, since := now }

theorem owner_eq_some {bucket : Bucket} {remote : Remote} :
    owner bucket = some remote.text ↔ bucket.remote = remote.text := by
  unfold owner
  by_cases isFree : bucket.remote = []
  · rw [if_pos isFree]
    constructor
    · nofun
    · intro same
      exact absurd (same.symm.trans isFree) remote.named
  · rw [if_neg isFree, Option.some.injEq]

theorem Remote.eq_of_text {left right : Remote} (same : left.text = right.text) : left = right := by
  cases left
  cases right
  cases same
  rfl

theorem initially_kept (remotes : Finset Remote) :
    Kept remotes (List.replicate BUCKETS {}) where
  size := List.length_replicate
  distinct := by
    intro left right slot twin text atLeft _ named _
    rw [List.eq_of_mem_replicate (List.mem_of_getElem? atLeft)] at named
    exact absurd named nofun
  known := by
    intro bucket member text named
    rw [List.eq_of_mem_replicate member] at named
    exact absurd named nofun

/-- A hit returns the remote's own bucket. -/
theorem bucketLoop_hit {remote : List Char} {now : Nat} :
    ∀ {buckets : List Bucket} {start free index : Nat},
      bucketLoop remote now buckets start free = (true, index) →
        ∃ offset bucket, index = start + offset ∧ buckets[offset]? = some bucket ∧
          bucket.remote = remote
  | [], _, _, _, found => by simp [bucketLoop] at found
  | bucket :: rest, start, free, index, found => by
      rw [bucketLoop] at found
      by_cases own : bucket.remote = remote
      · rw [if_pos own] at found
        simp only [Prod.mk.injEq, true_and] at found
        exact ⟨0, bucket, found.symm, rfl, own⟩
      · rw [if_neg own] at found
        obtain ⟨offset, ownBucket, indexEq, atOffset, named⟩ := bucketLoop_hit found
        exact ⟨offset + 1, ownBucket, by omega, atOffset, named⟩

theorem bucketLoop_miss {remote : List Char} {now : Nat} :
    ∀ {buckets : List Bucket} {start free index : Nat},
      bucketLoop remote now buckets start free = (false, index) →
        ∀ bucket ∈ buckets, bucket.remote ≠ remote
  | [], _, _, _, _ => by simp
  | bucket :: rest, start, free, index, found => by
      rw [bucketLoop] at found
      by_cases own : bucket.remote = remote
      · rw [if_pos own] at found
        simp at found
      · rw [if_neg own] at found
        intro other member
        cases List.mem_cons.mp member with
        | inl isHead => exact isHead ▸ own
        | inr inRest => exact bucketLoop_miss found other inRest

/-- After a miss the index is the starting one, when no bucket was reusable, or
that of a reusable bucket. -/
theorem bucketLoop_reusable {remote : List Char} {now : Nat} :
    ∀ {buckets : List Bucket} {start free index : Nat},
      bucketLoop remote now buckets start free = (false, index) →
        (index = free ∧ ∀ bucket ∈ buckets, bucket.remote ≠ []) ∨
          ∃ offset bucket, index = start + offset ∧ buckets[offset]? = some bucket ∧
            (bucket.remote = [] ∨ bucket.since + 300 < now)
  | [], _, _, _, found => by
      simp only [bucketLoop, Prod.mk.injEq, true_and] at found
      simp [found]
  | bucket :: rest, start, free, index, found => by
      rw [bucketLoop] at found
      by_cases own : bucket.remote = remote
      · rw [if_pos own] at found
        simp at found
      · rw [if_neg own] at found
        cases bucketLoop_reusable found with
        | inr later =>
            obtain ⟨offset, reused, indexEq, atOffset, reusable⟩ := later
            exact .inr ⟨offset + 1, reused, by omega, atOffset, reusable⟩
        | inl carried =>
            by_cases reusable : bucket.remote = [] ∨ bucket.since + 300 < now
            · rw [if_pos reusable] at carried
              exact .inr ⟨0, bucket, carried.1, rfl, reusable⟩
            · rw [if_neg reusable] at carried
              refine .inl ⟨carried.1, ?_⟩
              intro other member
              cases List.mem_cons.mp member with
              | inl isHead => exact isHead ▸ fun isFree => reusable (.inl isFree)
              | inr inRest => exact carried.2 other inRest

section Change

variable {remotes : Finset Remote} {buckets : List Bucket} {remote : Remote} {now : Nat}

/-- Writing a bucket of the remote over its own or a reusable one. -/
theorem Kept.write (kept : Kept remotes buckets) (member : remote ∈ remotes) {index : Nat}
    {old new : Bucket} (atIndex : buckets[index]? = some old) (newOwned : new.remote = remote.text)
    (own : ∀ (other : Nat) (bucket : Bucket),
      buckets[other]? = some bucket → bucket.remote = remote.text → other = index) :
    Kept remotes (buckets.set index new) ∧
      bucketOf (buckets.set index new) remote = some new ∧
      ∀ other, other ≠ remote → old.remote ≠ other.text →
        bucketOf (buckets.set index new) other = bucketOf buckets other := by
  have inRange : index < buckets.length := (List.getElem?_eq_some_iff.mp atIndex).1
  have distinct : Slots.Distinct owner (buckets.set index new) := by
    apply kept.distinct.set
    intro other bucket text atOther otherNamed newNamed
    have isRemote : text = remote.text :=
      Option.some.inj (newNamed.symm.trans (owner_eq_some.mpr newOwned))
    exact own other bucket atOther (owner_eq_some.mp (isRemote ▸ otherNamed))
  refine ⟨⟨by rw [List.length_set, kept.size], distinct, ?_⟩, ?_, ?_⟩
  · intro bucket inSet text named
    cases List.mem_or_eq_of_mem_set inSet with
    | inl before => exact kept.known bucket before text named
    | inr isNew =>
        rw [isNew, owner_eq_some.mpr newOwned] at named
        exact ⟨remote, member, (Option.some.inj named).symm⟩
  · exact distinct.entry_eq (List.getElem?_set_self inRange) (owner_eq_some.mpr newOwned)
  · intro other different notOld
    apply distinct.entry_set_other atIndex
    · exact fun oldNamed => notOld (owner_eq_some.mp oldNamed)
    · intro newNamed
      exact different (Remote.eq_of_text ((owner_eq_some.mp newNamed).symm.trans newOwned))

/-- With no more remotes than buckets, a remote without one finds one unused. -/
theorem Kept.someUnused (kept : Kept remotes buckets) (few : remotes.card ≤ BUCKETS)
    (member : remote ∈ remotes) (absent : ∀ bucket ∈ buckets, bucket.remote ≠ remote.text) :
    ∃ bucket ∈ buckets, bucket.remote = [] := by
  have free : ∃ bucket ∈ buckets, owner bucket = none := by
    apply kept.distinct.exists_free (remotes.image Remote.text) remote.text
    · intro bucket inTable text named
      obtain ⟨someone, known, same⟩ := kept.known bucket inTable text named
      exact Finset.mem_image.mpr ⟨someone, known, same.symm⟩
    · exact Finset.mem_image_of_mem _ member
    · intro bucket inTable named
      exact absent bucket inTable (owner_eq_some.mp named)
    · rw [kept.size]
      exact Finset.card_image_le.trans few
  obtain ⟨bucket, inTable, unowned⟩ := free
  refine ⟨bucket, inTable, ?_⟩
  by_contra used
  simp [owner, used] at unowned

/-- Changing the bucket that `bucket_for` returns is one write over the
remote's own bucket, or over one whose window ended long ago. -/
theorem Kept.bucket_for_write (kept : Kept remotes buckets) (few : remotes.card ≤ BUCKETS)
    (member : remote ∈ remotes) (now : Nat) :
    ∃ (index : Nat) (old : Bucket), buckets[index]? = some old ∧
      (∀ (other : Nat) (bucket : Bucket),
        buckets[other]? = some bucket → bucket.remote = remote.text → other = index) ∧
      (∀ other, other ≠ remote → old.remote = other.text → old.since + 300 < now) ∧
      (bucket_for buckets remote.text now).2 = index ∧
      ∀ change, (bucket_for buckets remote.text now).1.modify index change =
        buckets.set index (change (foundBucket buckets remote now)) := by
  generalize searched : bucketLoop remote.text now buckets 0 0 = search
  obtain ⟨hit, index⟩ := search
  cases hit with
  | true =>
      obtain ⟨offset, bucket, indexEq, atOffset, named⟩ := bucketLoop_hit searched
      rw [Nat.zero_add] at indexEq
      rw [← indexEq] at atOffset
      have found : bucket_for buckets remote.text now = (buckets, index) := by
        rw [bucket_for, searched]
      have isOwn : bucketOf buckets remote = some bucket :=
        kept.distinct.entry_eq atOffset (owner_eq_some.mpr named)
      refine ⟨index, bucket, atOffset, ?_, ?_, ?_, ?_⟩
      · intro other twin atOther twinNamed
        exact kept.distinct other index twin bucket remote.text atOther atOffset
          (owner_eq_some.mpr twinNamed) (owner_eq_some.mpr named)
      · intro other different otherNamed
        exact absurd (Remote.eq_of_text (otherNamed.symm.trans named)) different
      · rw [found]
      · intro change
        rw [found, foundBucket, isOwn, List.modify_eq_set, atOffset]
        rfl
  | false =>
      have absent := bucketLoop_miss searched
      obtain ⟨unused, inTable, isUnused⟩ := kept.someUnused few member absent
      have reusable := (bucketLoop_reusable searched).resolve_left
        fun none => none.2 unused inTable isUnused
      obtain ⟨offset, old, indexEq, atOffset, oldReusable⟩ := reusable
      rw [Nat.zero_add] at indexEq
      rw [← indexEq] at atOffset
      have wholeText : remote.text.take 63 = remote.text :=
        List.take_of_length_le (Nat.le_of_lt_succ remote.fits)
      have found : bucket_for buckets remote.text now =
          (buckets.set index { remote := remote.text, since := now }, index) := by
        rw [bucket_for, searched]
        show (buckets.set index { remote := remote.text.take 63, since := now }, index) = _
        rw [wholeText]
      have notOwn : bucketOf buckets remote = none := by
        apply Slots.entry_eq_none.mpr
        intro bucket inBuckets named
        exact absent bucket inBuckets (owner_eq_some.mp named)
      have inRange : index < buckets.length := (List.getElem?_eq_some_iff.mp atOffset).1
      refine ⟨index, old, atOffset, ?_, ?_, ?_, ?_⟩
      · intro other bucket atOther named
        exact absurd named (absent bucket (List.mem_of_getElem? atOther))
      · intro other _ named
        cases oldReusable with
        | inl oldUnused => exact absurd (named.symm.trans oldUnused) other.named
        | inr longPast => exact longPast
      · rw [found]
      · intro change
        rw [found, foundBucket, notOwn, List.modify_eq_set, List.getElem?_set_self inRange,
          List.set_set]
        rfl

/-- What a change of the remote's bucket means for the whole table: the remote
has its changed bucket, and no running window of another remote is touched. -/
theorem Kept.changed (kept : Kept remotes buckets) (few : remotes.card ≤ BUCKETS)
    (member : remote ∈ remotes) (now : Nat) {change : Bucket → Bucket}
    (sameRemote : ∀ bucket, (change bucket).remote = bucket.remote) :
    ∃ after index, withBucket buckets remote.text now change = (after, index) ∧
      Kept remotes after ∧
      after[index]? = some (change (foundBucket buckets remote now)) ∧
      bucketOf after remote = some (change (foundBucket buckets remote now)) ∧
      ∀ other bucket, other ≠ remote → bucketOf buckets other = some bucket →
        now ≤ bucket.since + 300 → bucketOf after other = some bucket := by
  obtain ⟨index, old, atIndex, own, longPast, indexEq, written⟩ :=
    kept.bucket_for_write few member now
  have foundNamed : (foundBucket buckets remote now).remote = remote.text := by
    unfold foundBucket
    cases found : bucketOf buckets remote with
    | none => rfl
    | some bucket => exact owner_eq_some.mp (Slots.entry_at found).choose_spec.2
  have inRange : index < buckets.length := (List.getElem?_eq_some_iff.mp atIndex).1
  have newNamed := (sameRemote (foundBucket buckets remote now)).trans foundNamed
  obtain ⟨stillKept, ownChanged, othersKept⟩ := kept.write member atIndex newNamed own
  refine ⟨buckets.set index (change (foundBucket buckets remote now)), index, ?_, stillKept,
    List.getElem?_set_self inRange, ownChanged, ?_⟩
  · show ((bucket_for buckets remote.text now).1.modify
      (bucket_for buckets remote.text now).2 change, (bucket_for buckets remote.text now).2) = _
    rw [indexEq, written]
  intro other bucket different isOther running
  rw [othersKept other different, isOther]
  intro oldNamed
  have oldIsOther : bucketOf buckets other = some old :=
    kept.distinct.entry_eq atIndex (owner_eq_some.mpr oldNamed)
  have same : old = bucket := Option.some.inj (oldIsOther.symm.trans isOther)
  have past := longPast other different oldNamed
  rw [same] at past
  omega

/-- The check answers from the remote's bucket, reopened if its window is over. -/
theorem Kept.throttled (kept : Kept remotes buckets) (few : remotes.card ≤ BUCKETS)
    (member : remote ∈ remotes) (now : Nat) :
    ∃ after, joan_auth_throttled buckets remote.text now =
        (after, decide ((reopened now (foundBucket buckets remote now)).failures ≥ 5)) ∧
      Kept remotes after ∧
      bucketOf after remote = some (reopened now (foundBucket buckets remote now)) ∧
      ∀ other bucket, other ≠ remote → bucketOf buckets other = some bucket →
        now ≤ bucket.since + 300 → bucketOf after other = some bucket := by
  have sameRemote : ∀ bucket, (reopened now bucket).remote = bucket.remote := by
    intro bucket
    unfold reopened
    by_cases elapsed : bucket.since + 60 < now
    · rw [if_pos elapsed]
    · rw [if_neg elapsed]
  obtain ⟨after, index, written, stillKept, atIndex, own, others⟩ :=
    kept.changed few member now sameRemote
  refine ⟨after, ?_, stillKept, own, others⟩
  simp only [joan_auth_throttled, written, atIndex]

theorem Kept.noted (kept : Kept remotes buckets) (few : remotes.card ≤ BUCKETS)
    (member : remote ∈ remotes) (now : Nat) (ok : Bool) :
    Kept remotes (joan_auth_note buckets remote.text now ok) ∧
      bucketOf (joan_auth_note buckets remote.text now ok) remote =
        some (counted ok (foundBucket buckets remote now)) ∧
      ∀ other bucket, other ≠ remote → bucketOf buckets other = some bucket →
        now ≤ bucket.since + 300 →
          bucketOf (joan_auth_note buckets remote.text now ok) other = some bucket := by
  have sameRemote : ∀ bucket, (counted ok bucket).remote = bucket.remote := by
    intro bucket
    cases ok with
    | false => rfl
    | true => rfl
  obtain ⟨after, index, written, stillKept, _, own, others⟩ :=
    kept.changed few member now sameRemote
  rw [joan_auth_note, written]
  exact ⟨stillKept, own, others⟩

end Change

end Throttle

end JooanW3U.Daemon

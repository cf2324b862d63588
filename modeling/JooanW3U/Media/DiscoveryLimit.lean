import JooanW3U.Library.RateWindow
import JooanW3U.Library.Slots
import Mathlib.Data.List.GetD

/-!
Owns the reply limit of the discovery service: the table of peers, the accounting
window, and `allowed_output`. Main result: over every sequence of requests no peer is
answered twice within a quarter of a second, no peer answered that recently is
forgotten, and no second holds more than sixteen replies.

Does not own the parsing of a request. Times are microseconds of the monotonic clock.
-/

namespace JooanW3U.Media.DiscoveryLimit

open JooanW3U.Library

def DISCOVERY_PEERS : Nat := 32

/-- `peer_limit`. -/
structure PeerLimit where
  address : Nat := 0
  next : Nat := 0
deriving DecidableEq, Repr, Inhabited

/-- The fields of `discovery_state` that `allowed_output` reads. -/
structure DiscoveryState where
  output_window : Nat
  output_count : Nat
  peer : List PeerLimit
  peers : peer.length = DISCOVERY_PEERS

/-- The peer of a well-formed request, and the time at which it is to be answered. -/
structure Request where
  peer : Nat
  now : Nat
deriving DecidableEq, Repr

/-- The slot at which the loop of `allowed_output` ends. -/
inductive Found
  | own (index : Nat)
  | oldest (index : Nat)
deriving DecidableEq, Repr

/-- The loop of `allowed_output` from `index` on. -/
def searched (table : List PeerLimit) (peer : Nat) : List PeerLimit → Nat → Nat → Found
  | [], _, oldest => .oldest oldest
  | slot :: rest, index, oldest =>
      if slot.address = peer then .own index
      else if slot.next < (table.getD oldest default).next
        then searched table peer rest (index + 1) index
        else searched table peer rest (index + 1) oldest

/-- The first line of `allowed_output`. -/
def DiscoveryState.accounted (state : DiscoveryState) (now : Nat) : DiscoveryState :=
  if now - state.output_window ≥ 1000000
    then { state with output_window := now, output_count := 0 }
    else state

/-- A slot is written, and the reply counted. -/
def DiscoveryState.answered (state : DiscoveryState) (index : Nat) (slot : PeerLimit) :
    DiscoveryState where
  output_window := state.output_window
  output_count := state.output_count + 1
  peer := state.peer.set index slot
  peers := by rw [List.length_set, state.peers]

def allowed_output (state : DiscoveryState) (request : Request) : DiscoveryState × Bool :=
  let state := state.accounted request.now
  if state.output_count ≥ 8 then (state, false)
  else
    match searched state.peer request.peer state.peer 0 0 with
    | .own index =>
        let slot := state.peer.getD index default
        if request.now < slot.next then (state, false)
        else (state.answered index { slot with next := request.now + 250000 }, true)
    | .oldest index => (state.answered index ⟨request.peer, request.now + 250000⟩, true)

/-- The requests that are answered. -/
def replies (state : DiscoveryState) : List Request → List Request
  | [] => []
  | request :: rest =>
      if (allowed_output state request).2
        then request :: replies (allowed_output state request).1 rest
        else replies (allowed_output state request).1 rest

def reached (state : DiscoveryState) (requests : List Request) : DiscoveryState :=
  requests.foldl (fun state request => (allowed_output state request).1) state

/-- The state that `jipc_discovery_start` allocates. -/
def started : DiscoveryState where
  output_window := 0
  output_count := 0
  peer := List.replicate DISCOVERY_PEERS default
  peers := List.length_replicate

/-! ### What one request does -/

@[simp] theorem accounted_peer (state : DiscoveryState) (now : Nat) :
    (state.accounted now).peer = state.peer := by
  unfold DiscoveryState.accounted
  split <;> rfl

theorem searched_spec {table : List PeerLimit} {peer : Nat} {rest : List PeerLimit}
    {index oldest : Nat} (from_here : table.drop index = rest) (inside : oldest < table.length)
    (others : ∀ slot ∈ table.take index, slot.address ≠ peer ∧
      (table.getD oldest default).next ≤ slot.next) :
    (∃ place, searched table peer rest index oldest = .own place ∧ place < table.length ∧
      (table.getD place default).address = peer) ∨
    (∃ place, searched table peer rest index oldest = .oldest place ∧ place < table.length ∧
      ∀ slot ∈ table, slot.address ≠ peer ∧ (table.getD place default).next ≤ slot.next) := by
  induction rest generalizing index oldest with
  | nil =>
      have whole : table.take index = table := by
        rw [List.take_of_length_le (List.drop_eq_nil_iff.mp from_here)]
      rw [whole] at others
      exact .inr ⟨oldest, rfl, inside, others⟩
  | cons slot rest inductionHypothesis =>
      have here : table[index]? = some slot := by
        rw [← List.head?_drop, from_here, List.head?_cons]
      have short : index < table.length := (List.getElem?_eq_some_iff.mp here).1
      have value : table.getD index default = slot := by
        rw [List.getD_eq_getElem?_getD, here, Option.getD_some]
      have onward : table.drop (index + 1) = rest := by
        rw [← List.tail_drop, from_here, List.tail_cons]
      have split : table.take (index + 1) = table.take index ++ [slot] := by
        rw [List.take_add_one, here, Option.toList_some]
      unfold searched
      by_cases mine : slot.address = peer
      · rw [if_pos mine]
        exact .inl ⟨index, rfl, short, value ▸ mine⟩
      · rw [if_neg mine]
        by_cases older : slot.next < (table.getD oldest default).next
        · rw [if_pos older]
          apply inductionHypothesis onward short
          intro other listed
          rw [value]
          rcases List.mem_append.mp (split ▸ listed) with before | this
          · have known := others other before
            exact ⟨known.1, by omega⟩
          · rw [List.mem_singleton.mp this]
            exact ⟨mine, Nat.le_refl _⟩
        · rw [if_neg older]
          apply inductionHypothesis onward inside
          intro other listed
          rcases List.mem_append.mp (split ▸ listed) with before | this
          · exact others other before
          · rw [List.mem_singleton.mp this]
            exact ⟨mine, Nat.le_of_not_lt older⟩

/-- Everything `allowed_output` can do: refuse, or write the slot of the peer, whose time has
come, or the oldest slot when the peer has none. -/
theorem allowed_output_spec (state : DiscoveryState) (request : Request) :
    allowed_output state request = (state.accounted request.now, false) ∨
    ∃ (index : Nat) (inside : index < (state.accounted request.now).peer.length),
      (state.accounted request.now).output_count < 8 ∧
      (((state.accounted request.now).peer[index].address = request.peer ∧
          (state.accounted request.now).peer[index].next ≤ request.now) ∨
        ∀ slot ∈ (state.accounted request.now).peer, slot.address ≠ request.peer ∧
          (state.accounted request.now).peer[index].next ≤ slot.next) ∧
      allowed_output state request = ((state.accounted request.now).answered index
        ⟨request.peer, request.now + 250000⟩, true) := by
  unfold allowed_output
  generalize state.accounted request.now = counted
  dsimp only
  by_cases full : counted.output_count ≥ 8
  · exact .inl (if_pos full)
  · rw [if_neg full]
    have spec := @searched_spec counted.peer request.peer counted.peer 0 0 rfl
      (by rw [counted.peers]; decide) (by intro slot listed; cases listed)
    rcases spec with ⟨place, found, inside, mine⟩ | ⟨place, found, inside, others⟩ <;>
      rw [found] <;> dsimp only <;>
      have value : counted.peer.getD place default = counted.peer[place] :=
        List.getD_eq_getElem _ _ inside
    · rw [value] at mine ⊢
      by_cases early : request.now < counted.peer[place].next
      · exact .inl (if_pos early)
      · rw [if_neg early, mine]
        exact .inr ⟨place, inside, by omega, .inl ⟨mine, by omega⟩, rfl⟩
    · rw [value] at others
      exact .inr ⟨place, inside, by omega, .inr others, rfl⟩

/-! ### The invariant -/

/-- One write adds at most the slot that it writes. -/
theorem countP_set_le (counts : PeerLimit → Bool) (slots : List PeerLimit) (index : Nat)
    (slot : PeerLimit) :
    (slots.set index slot).countP counts ≤ slots.countP counts + (counts slot).toNat := by
  by_cases inside : index < slots.length
  · rw [List.countP_set inside]
    cases counts slot <;> simp
  · rw [List.set_eq_of_length_le (Nat.le_of_not_lt inside)]
    exact Nat.le_add_right _ _

/-- The peer of a used slot. -/
def owner (slot : PeerLimit) : Option Nat :=
  if slot.address = 0 then none else some slot.address

/-- The slots written in the current window are counted, and those written before it
that are not yet due are no more than one window's. -/
structure Kept (state : DiscoveryState) : Prop where
  distinct : Slots.Distinct owner state.peer
  counted : state.output_count ≤ 8
  recent : state.peer.countP (fun slot => decide (state.output_window + 250000 ≤ slot.next)) ≤
    state.output_count
  earlier : state.peer.countP (fun slot => decide (state.output_window < slot.next ∧
    slot.next < state.output_window + 250000)) ≤ 8
  closed : ∀ slot ∈ state.peer, slot.next < state.output_window + 1250000

theorem Kept.accounted {state : DiscoveryState} (kept : Kept state) (now : Nat) :
    Kept (state.accounted now) := by
  unfold DiscoveryState.accounted
  by_cases ended : now - state.output_window ≥ 1000000
  · rw [if_pos ended]
    constructor
    · exact kept.distinct
    · exact Nat.zero_le _
    · apply Nat.le_of_eq
      rw [List.countP_eq_zero]
      intro slot listed due
      have bound := kept.closed slot listed
      have late := of_decide_eq_true due
      dsimp only at late
      omega
    · refine Nat.le_trans (List.countP_mono_left ?_) (Nat.le_trans kept.recent kept.counted)
      intro slot _ due
      have between := of_decide_eq_true due
      dsimp only at between
      exact decide_eq_true (by omega)
    · intro slot listed
      have bound := kept.closed slot listed
      dsimp only
      omega
  · rw [if_neg ended]
    exact kept

theorem accounted_window {state : DiscoveryState} {now : Nat} (after : state.output_window ≤ now) :
    (state.accounted now).output_window ≤ now ∧
      now < (state.accounted now).output_window + 1000000 := by
  unfold DiscoveryState.accounted
  by_cases ended : now - state.output_window ≥ 1000000
  · rw [if_pos ended]
    dsimp only
    omega
  · rw [if_neg ended]
    omega

/-- Thirty-two slots cannot all be waiting. -/
theorem Kept.exists_due {state : DiscoveryState} (kept : Kept state) {now : Nat}
    (after : state.output_window ≤ now) : ∃ slot ∈ state.peer, slot.next ≤ now := by
  by_contra none
  push Not at none
  have total : state.peer.length ≤
      state.peer.countP (fun slot => decide (state.output_window + 250000 ≤ slot.next)) +
      state.peer.countP (fun slot => decide (state.output_window < slot.next ∧
        slot.next < state.output_window + 250000)) := by
    rw [List.length_eq_countP_add_countP
      fun slot : PeerLimit => decide (state.output_window + 250000 ≤ slot.next)]
    apply Nat.add_le_add_left
    apply List.countP_mono_left
    intro slot listed before
    have waiting := none slot listed
    have early : ¬ (state.output_window + 250000 ≤ slot.next) := by simpa using before
    exact decide_eq_true (by omega)
  have recent := kept.recent
  have earlier := kept.earlier
  have counted := kept.counted
  rw [state.peers, DISCOVERY_PEERS] at total
  omega

theorem Kept.answered {state : DiscoveryState} (kept : Kept state) {request : Request}
    (nonzero : request.peer ≠ 0) (after : state.output_window ≤ request.now)
    (before : request.now < state.output_window + 1000000) {index : Nat}
    (inside : index < state.peer.length) (room : state.output_count < 8)
    (place : state.peer[index].address = request.peer ∨
      ∀ slot ∈ state.peer, slot.address ≠ request.peer) :
    Kept (state.answered index ⟨request.peer, request.now + 250000⟩) := by
  have recent := kept.recent
  have earlier := kept.earlier
  constructor
  · apply kept.distinct.set
    intro other slot name listed named same
    have isPeer : name = request.peer := by
      rw [owner, if_neg nonzero] at same
      exact (Option.some.inj same).symm
    have address : slot.address = request.peer := by
      unfold owner at named
      split at named
      · cases named
      · exact (Option.some.inj named).trans isPeer
    rcases place with mine | absent
    · apply kept.distinct other index slot state.peer[index] name listed
        (List.getElem?_eq_getElem inside) named
      rw [owner, mine, if_neg nonzero, isPeer]
    · exact absurd address (absent slot (List.mem_of_getElem? listed))
  · exact room
  · refine Nat.le_trans (countP_set_le _ _ _ _) (Nat.add_le_add recent (Bool.toNat_le _))
  · have bound := countP_set_le (fun slot => decide (state.output_window < slot.next ∧
      slot.next < state.output_window + 250000)) state.peer index
      ⟨request.peer, request.now + 250000⟩
    dsimp only at bound
    rw [decide_eq_false (by omega)] at bound
    exact Nat.le_trans bound earlier
  · intro slot listed
    rcases List.mem_or_eq_of_mem_set listed with old | new
    · exact kept.closed slot old
    · rw [new]
      dsimp only [DiscoveryState.answered]
      omega

theorem Kept.step {state : DiscoveryState} (kept : Kept state) {request : Request}
    (nonzero : request.peer ≠ 0) (after : state.output_window ≤ request.now) :
    Kept (allowed_output state request).1 ∧
      (allowed_output state request).1.output_window ≤ request.now := by
  have counted := kept.accounted request.now
  have window := accounted_window after
  rcases allowed_output_spec state request with refused | ⟨index, inside, room, place, answer⟩
  · rw [refused]
    exact ⟨counted, window.1⟩
  · rw [answer]
    have place' := place.imp And.left fun others slot listed => (others slot listed).1
    exact ⟨counted.answered nonzero window.1 window.2 inside room place', window.1⟩

theorem started_kept : Kept started := by
  constructor
  · intro left right slot twin name listed _ named _
    have value : slot = default := List.eq_of_mem_replicate (List.mem_of_getElem? listed)
    rw [value] at named
    exact absurd named nofun
  all_goals decide +kernel

/-! ### Runs -/

/-- The table still holds the reply's deadline. -/
def Remembers (state : DiscoveryState) (reply : Request) : Prop :=
  ∃ slot ∈ state.peer, slot.address = reply.peer ∧ reply.now + 250000 ≤ slot.next

theorem Kept.remembers_step {state : DiscoveryState} (kept : Kept state) {request reply : Request}
    (after : state.output_window ≤ request.now) (remembered : Remembers state reply)
    (pending : request.now < reply.now + 250000) :
    Remembers (allowed_output state request).1 reply := by
  have counted := kept.accounted request.now
  obtain ⟨slot, listed, address, deadline⟩ := remembered
  rw [← accounted_peer state request.now] at listed
  rcases allowed_output_spec state request with refused | ⟨index, inside, -, place, answer⟩
  · rw [refused]
    exact ⟨slot, listed, address, deadline⟩
  · rw [answer]
    obtain ⟨due, dueListed, dueNext⟩ := counted.exists_due (accounted_window after).1
    have written : (state.accounted request.now).peer[index].next ≤ request.now :=
      place.elim And.right fun others => Nat.le_trans (others due dueListed).2 dueNext
    obtain ⟨home, homeInside, value⟩ := List.getElem_of_mem listed
    have elsewhere : index ≠ home := by
      intro same
      subst same
      rw [value] at written
      omega
    refine ⟨slot, List.mem_of_getElem? (i := home) ?_, address, deadline⟩
    show ((state.accounted request.now).peer.set index _)[home]? = some slot
    rw [List.getElem?_set_ne elsewhere, List.getElem?_eq_getElem homeInside, value]

/-- A peer the table remembers is not answered before its time. -/
theorem Kept.remembers_due {state : DiscoveryState} (kept : Kept state) {request reply : Request}
    (nonzero : request.peer ≠ 0) (remembered : Remembers state reply)
    (same : reply.peer = request.peer) (allowed : (allowed_output state request).2 = true) :
    reply.now + 250000 ≤ request.now := by
  have distinct := (kept.accounted request.now).distinct
  obtain ⟨slot, listed, address, deadline⟩ := remembered
  rw [← accounted_peer state request.now] at listed
  rcases allowed_output_spec state request with refused | ⟨index, inside, -, place, -⟩
  · rw [refused] at allowed
    cases allowed
  · rcases place with ⟨mine, due⟩ | absent
    · obtain ⟨home, homeInside, value⟩ := List.getElem_of_mem listed
      have named : owner slot = some request.peer := by
        rw [owner, address, same, if_neg nonzero]
      have this : home = index := by
        apply distinct home index slot _ request.peer
          (by rw [List.getElem?_eq_getElem homeInside, value]) (List.getElem?_eq_getElem inside) named
        rw [owner, mine, if_neg nonzero]
      subst this
      rw [value] at due
      omega
    · exact absurd (address.trans same) (absent slot listed).1

theorem remembers_new {state : DiscoveryState} {request : Request}
    (allowed : (allowed_output state request).2 = true) :
    Remembers (allowed_output state request).1 request := by
  rcases allowed_output_spec state request with refused | ⟨index, inside, -, -, answer⟩
  · rw [refused] at allowed
    cases allowed
  · rw [answer]
    exact ⟨_, List.mem_set inside _, rfl, Nat.le_refl _⟩

/-- Once a reply is remembered, the later replies to its peer come after its deadline. -/
theorem Kept.replies_after {state : DiscoveryState} (kept : Kept state) {requests : List Request}
    (nonzero : ∀ request ∈ requests, request.peer ≠ 0)
    (after : ∀ request ∈ requests, state.output_window ≤ request.now)
    (sorted : requests.Pairwise fun early late => early.now ≤ late.now) {reply : Request}
    (remembered : Remembers state reply ∨
      ∀ request ∈ requests, reply.now + 250000 ≤ request.now) :
    ∀ later ∈ replies state requests, reply.peer = later.peer → reply.now + 250000 ≤ later.now := by
  induction requests generalizing state with
  | nil => intro later listed; cases listed
  | cons request rest inductionHypothesis =>
      obtain ⟨ahead, sortedRest⟩ := List.pairwise_cons.mp sorted
      have here := nonzero request List.mem_cons_self
      have window := after request List.mem_cons_self
      obtain ⟨keptNext, windowNext⟩ := kept.step here window
      have onward : Remembers (allowed_output state request).1 reply ∨
          ∀ other ∈ rest, reply.now + 250000 ≤ other.now := by
        by_cases pending : request.now < reply.now + 250000
        · rcases remembered with held | past
          · exact .inl (kept.remembers_step window held pending)
          · have now := past request List.mem_cons_self
            omega
        · exact .inr fun other listed => by
            have order := ahead other listed
            omega
      have later := inductionHypothesis keptNext
        (fun other listed => nonzero other (List.mem_cons_of_mem _ listed))
        (fun other listed => Nat.le_trans windowNext (ahead other listed)) sortedRest onward
      intro next listed same
      rw [replies] at listed
      by_cases allowed : (allowed_output state request).2
      · rw [if_pos allowed] at listed
        rcases List.mem_cons.mp listed with rfl | inRest
        · rcases remembered with held | past
          · exact kept.remembers_due here held same allowed
          · exact past next List.mem_cons_self
        · exact later next inRest same
      · rw [if_neg allowed] at listed
        exact later next listed same

theorem Kept.replies_apart {state : DiscoveryState} (kept : Kept state) {requests : List Request}
    (nonzero : ∀ request ∈ requests, request.peer ≠ 0)
    (after : ∀ request ∈ requests, state.output_window ≤ request.now)
    (sorted : requests.Pairwise fun early late => early.now ≤ late.now) :
    (replies state requests).Pairwise fun early late =>
      early.peer = late.peer → early.now + 250000 ≤ late.now := by
  induction requests generalizing state with
  | nil => exact List.Pairwise.nil
  | cons request rest inductionHypothesis =>
      obtain ⟨ahead, sortedRest⟩ := List.pairwise_cons.mp sorted
      obtain ⟨keptNext, windowNext⟩ :=
        kept.step (nonzero request List.mem_cons_self) (after request List.mem_cons_self)
      have nonzeroRest : ∀ other ∈ rest, other.peer ≠ 0 :=
        fun other listed => nonzero other (List.mem_cons_of_mem _ listed)
      have afterRest : ∀ other ∈ rest, (allowed_output state request).1.output_window ≤ other.now :=
        fun other listed => Nat.le_trans windowNext (ahead other listed)
      have later := inductionHypothesis keptNext nonzeroRest afterRest sortedRest
      rw [replies]
      by_cases allowed : (allowed_output state request).2
      · rw [if_pos allowed]
        exact List.pairwise_cons.mpr ⟨keptNext.replies_after nonzeroRest afterRest sortedRest
          (.inl (remembers_new allowed)), later⟩
      · rw [if_neg allowed]
        exact later

/-- A remembered reply is forgotten only after its deadline. -/
theorem Kept.remembers_reached {state : DiscoveryState} (kept : Kept state)
    {requests : List Request} (nonzero : ∀ request ∈ requests, request.peer ≠ 0)
    (after : ∀ request ∈ requests, state.output_window ≤ request.now)
    (sorted : requests.Pairwise fun early late => early.now ≤ late.now) {reply : Request}
    (pending : ∀ request ∈ requests, request.now < reply.now + 250000)
    (answered : Remembers state reply ∨ reply ∈ replies state requests) :
    Remembers (reached state requests) reply := by
  induction requests generalizing state with
  | nil => exact answered.resolve_right nofun
  | cons request rest inductionHypothesis =>
      obtain ⟨ahead, sortedRest⟩ := List.pairwise_cons.mp sorted
      have window := after request List.mem_cons_self
      obtain ⟨keptNext, windowNext⟩ := kept.step (nonzero request List.mem_cons_self) window
      apply inductionHypothesis keptNext
        (fun other listed => nonzero other (List.mem_cons_of_mem _ listed))
        (fun other listed => Nat.le_trans windowNext (ahead other listed)) sortedRest
        (fun other listed => pending other (List.mem_cons_of_mem _ listed))
      rcases answered with held | listed
      · exact .inl (kept.remembers_step window held (pending request List.mem_cons_self))
      · rw [replies] at listed
        by_cases allowed : (allowed_output state request).2
        · rw [if_pos allowed] at listed
          rcases List.mem_cons.mp listed with rfl | inRest
          · exact .inl (remembers_new allowed)
          · exact .inr inRest
        · rw [if_neg allowed] at listed
          exact .inr listed

/-! ### The global limit -/

/-- `allowed_output` is a limiter of eight replies to the window. -/
def policy : RateWindow.Policy where
  limit := 8
  span := 1000000
  positive := by decide

def DiscoveryState.window (state : DiscoveryState) : RateWindow.Window :=
  ⟨state.output_window, state.output_count⟩

def outcomes (state : DiscoveryState) : List Request → List RateWindow.Outcome
  | [] => []
  | request :: rest =>
      ⟨request.now, (allowed_output state request).2⟩ ::
        outcomes (allowed_output state request).1 rest

theorem outcomes_run {state : DiscoveryState} (counted : state.output_count ≤ 8)
    (requests : List Request) :
    Run (RateWindow.Step policy) state.window (outcomes state requests)
      (reached state requests).window := by
  induction requests generalizing state with
  | nil => exact .nil _
  | cons request rest inductionHypothesis =>
      have rolled : (state.accounted request.now).window =
          state.window.rolled policy request.now := by
        unfold DiscoveryState.accounted RateWindow.Window.rolled
        by_cases ended : request.now - state.output_window ≥ 1000000
        · rw [if_pos ended, if_pos (by exact ended)]
          rfl
        · rw [if_neg ended, if_neg (by exact ended)]
      have below : (state.accounted request.now).output_count ≤ 8 := by
        unfold DiscoveryState.accounted
        split
        · exact Nat.zero_le _
        · exact counted
      have step : RateWindow.Step policy state.window
          ⟨request.now, (allowed_output state request).2⟩ (allowed_output state request).1.window := by
        rw [RateWindow.Step, ← rolled]
        rcases allowed_output_spec state request with refused | ⟨index, inside, room, -, answer⟩
        · rw [refused]
          exact ⟨rfl, below⟩
        · rw [answer]
          exact ⟨rfl, room⟩
      exact .cons step (inductionHypothesis step.2)

theorem outcomes_times (state : DiscoveryState) (requests : List Request) :
    (outcomes state requests).map RateWindow.Outcome.time = requests.map Request.now := by
  induction requests generalizing state with
  | nil => rfl
  | cons request rest inductionHypothesis =>
      rw [outcomes, List.map_cons, List.map_cons, inductionHypothesis]

/-- The replies of an interval. -/
def repliesWithin (first : Nat) (answers : List Request) : List Request :=
  answers.filter fun reply => decide (first ≤ reply.now ∧ reply.now ≤ first + 1000000)

theorem repliesWithin_length (state : DiscoveryState) (requests : List Request) (first : Nat) :
    (repliesWithin first (replies state requests)).length =
      RateWindow.admissions policy first (outcomes state requests) := by
  rw [repliesWithin, ← List.countP_eq_length_filter]
  induction requests generalizing state with
  | nil => rfl
  | cons request rest inductionHypothesis =>
      rw [outcomes, RateWindow.admissions, List.countP_cons, ← RateWindow.admissions,
        ← inductionHypothesis, replies]
      by_cases allowed : (allowed_output state request).2
      · rw [if_pos allowed, List.countP_cons, allowed, Bool.true_and]
        rfl
      · rw [if_neg allowed, Bool.eq_false_iff.mpr allowed, Bool.false_and]
        rfl

theorem replies_rate {requests : List Request}
    (sorted : requests.Pairwise fun early late => early.now ≤ late.now) (first : Nat) :
    (repliesWithin first (replies started requests)).length ≤ 16 := by
  have times : (outcomes started requests).Pairwise fun early late => early.time ≤ late.time := by
    have mapped : ((outcomes started requests).map RateWindow.Outcome.time).Pairwise (· ≤ ·) := by
      rw [outcomes_times]
      exact List.pairwise_map.mpr sorted
    exact List.pairwise_map.mp mapped
  rw [repliesWithin_length]
  exact RateWindow.run_rate_le (outcomes_run (Nat.zero_le _) requests) times
    (fun _ _ => Nat.zero_le _) (Nat.zero_le _) first

/-- No peer is answered twice within a quarter of a second, none answered that recently is
forgotten, and no closed second holds more than sixteen replies. -/
theorem discovery_throttled (requests : List Request)
    (nonzero : ∀ request ∈ requests, request.peer ≠ 0)
    (nondecreasing : requests.Pairwise fun early late => early.now ≤ late.now) :
    ((replies started requests).Pairwise fun early late =>
      early.peer = late.peer → early.now + 250000 ≤ late.now) ∧
    (∀ reply ∈ replies started requests,
      (∀ request ∈ requests, request.now < reply.now + 250000) →
        ∃ slot ∈ (reached started requests).peer,
          slot.address = reply.peer ∧ reply.now + 250000 ≤ slot.next) ∧
    ∀ first, (repliesWithin first (replies started requests)).length ≤ 16 := by
  have after : ∀ request ∈ requests, started.output_window ≤ request.now :=
    fun _ _ => Nat.zero_le _
  refine ⟨started_kept.replies_apart nonzero after nondecreasing, ?_, replies_rate nondecreasing⟩
  intro reply answered pending
  exact started_kept.remembers_reached nonzero after nondecreasing pending (.inr answered)

/-- Two peers in turn; the first asks again too early, and once more in time. -/
theorem discovery_throttled_sample :
    let requests : List Request := [⟨7, 2000000⟩, ⟨9, 2100000⟩, ⟨7, 2200000⟩, ⟨7, 2250000⟩]
    replies started requests = [⟨7, 2000000⟩, ⟨9, 2100000⟩, ⟨7, 2250000⟩] ∧
      ((replies started requests).Pairwise fun early late =>
        early.peer = late.peer → early.now + 250000 ≤ late.now) ∧
      ∀ first, (repliesWithin first (replies started requests)).length ≤ 16 := by
  intro requests
  have throttled := discovery_throttled requests (by decide) (by decide)
  exact ⟨by decide +kernel, throttled.1, throttled.2.2⟩

end JooanW3U.Media.DiscoveryLimit

import JooanW3U.Guard.Network
import JooanW3U.Library.Runs

/-!
Owns the containment of the guarded process's network calls: what is passed on stays on the
device or answers on an approved listener port, in every run, but for data with an explicit
address on a connected stream.
-/

namespace JooanW3U.Guard

open JooanW3U.Library

namespace Network

/-! ## Where addresses lead -/

/-- A loopback address, or one of a family that never leaves the device. -/
def Safe (address : SockAddr) : Prop :=
  localFamily address.sa_family = true ∨
    (address.sa_family = AF_INET ∧ address.sin_addr >>> 24 = 127) ∨
    (address.sa_family = AF_INET6 ∧ address.sin6_addr = in6addr_loopback)

/-- A peer, on an IPv4 socket of an approved listener port. -/
def Reply (peer : SockAddr) (socket : Socket) : Prop :=
  socket.peer = some peer ∧ socket.established = true ∧
    socket.localAddress.sa_family = AF_INET ∧
    jooan_guard_listener_reply_port_allowed socket.localAddress.port = true

def Contained : Passed → Prop
  | .bind address => Safe address
  | .connect address => Safe address
  | .data destination socket => Safe destination ∨ Reply destination socket

theorem safe_of_loopback {address : SockAddr} {length : Nat}
    (loopback : jooan_guard_sockaddr_is_loopback (some address) length = true) : Safe address := by
  unfold jooan_guard_sockaddr_is_loopback at loopback
  simp only at loopback
  split at loopback
  · cases loopback
  · split at loopback
    · next family => exact .inl family
    · split at loopback
      · next family =>
          split at loopback
          · cases loopback
          · exact .inr (.inl ⟨family, beq_iff_eq.mp loopback⟩)
      · split at loopback
        · next family =>
            split at loopback
            · cases loopback
            · exact .inr (.inr ⟨family, beq_iff_eq.mp loopback⟩)
        · cases loopback

/-- With the length of its family, every safe address is recognised. -/
theorem loopback_of_safe {address : SockAddr} (safe : Safe address) :
    jooan_guard_sockaddr_is_loopback (some address) (sizeof address) = true := by
  have long : ¬sizeof address < sizeofFamily := by
    unfold sizeof
    split <;> decide
  unfold jooan_guard_sockaddr_is_loopback
  simp only [if_neg long]
  rcases safe with family | ⟨family, prefix8⟩ | ⟨family, same⟩
  · rw [if_pos family]
  · have apart : localFamily AF_INET = false := by decide
    simp [family, apart, sizeof, prefix8, sizeofSockaddrIn]
  · have apart : localFamily AF_INET6 = false := by decide
    have other : AF_INET6 ≠ AF_INET := by decide
    simp [family, apart, other, sizeof, same, sizeofSockaddrIn6]

theorem loopback_prefix : INADDR_LOOPBACK >>> 24 = 127 := by
  decide

theorem boundAddress_safe {socket : Option Socket} {address passed : SockAddr} {length : Nat}
    (bound : boundAddress socket address length = some passed) : Safe passed := by
  unfold boundAddress at bound
  split at bound
  · cases bound
  · split at bound
    · next family =>
        -- Both IPv4 branches put the loopback address in place.
        split at bound
        · cases bound
        · split at bound <;> cases bound <;> exact .inr (.inl ⟨family, loopback_prefix⟩)
    · split at bound
      · next family =>
          split at bound
          · cases bound
          · split at bound <;> cases bound <;> exact .inr (.inr ⟨family, rfl⟩)
      · split at bound
        · next family =>
            cases bound
            exact .inl family
        · cases bound

theorem connectedAddress_safe {address : Argument} {passed : SockAddr} {length : Nat}
    (connected : connectedAddress address length = some passed) : Safe passed := by
  unfold connectedAddress at connected
  split at connected
  · cases connected
  · next address =>
      split at connected
      · next redirected =>
          cases connected
          exact .inr (.inl ⟨redirected.2.1, (by decide : (0x7f000004 : BitVec 32) >>> 24 = 127)⟩)
      · split at connected
        · cases connected
        · next loopback =>
            have safe := safe_of_loopback (eq_true_of_ne_false loopback)
            split at connected
            · next mqtt =>
                cases connected
                refine .inr (.inl ⟨mqtt.2.1, ?_⟩)
                show address.sin_addr >>> 24 = 127
                rw [mqtt.2.2]
                decide
            · split at connected
              · next api =>
                  cases connected
                  exact .inr (.inl ⟨api.2.1, loopback_prefix⟩)
              · cases connected
                exact safe

/-! ## Data -/

/-- All that was passed on is contained, and a connection on its way leads to a safe peer. -/
structure Confined (s : State) : Prop where
  log : ∀ entry ∈ s.log, Contained entry
  pending : ∀ descriptor socket peer, s.sockets descriptor = some socket →
    socket.established = false → socket.peer = some peer → Safe peer

/-- Explicit safe addresses on a stream whose peer the guard refuses. -/
def strays (s : State) (descriptor : Int) (messages : List Message) (sent : Nat) : Bool :=
  match s.sockets descriptor with
  | none => false
  | some socket =>
      socket.stream && (getpeername s descriptor).isSome &&
        !connected_socket_is_allowed s descriptor &&
        (messages.all fun message =>
          jooan_guard_sockaddr_is_loopback message.msg_name message.msg_namelen) &&
        !(messages.take sent).isEmpty

/-- Data that leaves the device by an explicit address. -/
def escapes (s : State) : Event → Bool
  | .sendtos descriptor address address_length sent =>
      strays s descriptor [{ msg_name := address, msg_namelen := address_length }] sent
  | .sendmsgs descriptor (some message) sent => strays s descriptor [message] sent
  | .sendmmsgs descriptor (some messages) sent => strays s descriptor messages sent
  | .syscalls descriptor (some messages) sent =>
      decide (messages.length ≤ 1024) && strays s descriptor messages sent
  | _ => false

section Data

variable {s : State} {descriptor : Int} {socket : Socket}

theorem getpeername_of (found : s.sockets descriptor = some socket) :
    getpeername s descriptor = if socket.established then socket.peer else none := by
  rw [getpeername, found, Option.bind_some]

/-- An allowed connection's peer is safe, or replied to. -/
theorem allowed_contained (found : s.sockets descriptor = some socket)
    (allowed : connected_socket_is_allowed s descriptor = true) :
    ∃ peer, socket.peer = some peer ∧ Contained (.data peer socket) := by
  unfold connected_socket_is_allowed at allowed
  rw [getpeername_of found, found] at allowed
  split at allowed
  · next peer other named same =>
      cases same
      split at named
      · next established =>
          refine ⟨peer, named, ?_⟩
          rcases Bool.or_eq_true_iff.mp allowed with loopback | reply
          · exact .inl (safe_of_loopback loopback)
          · obtain ⟨family, port⟩ := Bool.and_eq_true_iff.mp reply
            exact .inr ⟨named, established, beq_iff_eq.mp family, port⟩
      · cases named
  · cases allowed

/-- A peer that the guard refuses is neither. -/
theorem refused_strays (found : s.sockets descriptor = some socket) {peer : SockAddr}
    (named : getpeername s descriptor = some peer)
    (refused : connected_socket_is_allowed s descriptor = false) :
    ¬Contained (.data peer socket) := by
  unfold connected_socket_is_allowed at refused
  rw [named, found] at refused
  obtain ⟨foreign, other⟩ := Bool.or_eq_false_iff.mp refused
  rintro (safe | ⟨-, -, family, port⟩)
  · rw [loopback_of_safe safe] at foreign
    cases foreign
  · rw [family, port] at other
    cases other

/-- What one message that the guard lets through reaches. -/
theorem message_contained (confined : Confined s) (found : s.sockets descriptor = some socket)
    {message : Message} {target : SockAddr}
    (passes : message_destination_is_loopback s descriptor message = true)
    (stays : message.msg_name.isSome → socket.stream = true →
      (getpeername s descriptor).isSome → connected_socket_is_allowed s descriptor = true)
    (delivered : destination socket message = some target) : Contained (.data target socket) := by
  unfold message_destination_is_loopback at passes
  unfold destination at delivered
  cases name : message.msg_name with
  | none =>
      rw [name] at passes delivered
      obtain ⟨peer, connected, contained⟩ := allowed_contained found passes
      have same : peer = target := by
        split at delivered <;> simpa [connected] using delivered
      exact same ▸ contained
  | some explicit =>
      rw [name] at passes delivered
      have safe := safe_of_loopback passes
      split at delivered
      · next stream =>
          cases connected : socket.peer with
          | none =>
              rw [connected] at delivered
              cases delivered
              exact .inl safe
          | some peer =>
              rw [connected] at delivered
              cases delivered
              cases established : socket.established with
              | false => exact .inl (confined.pending _ _ _ found established connected)
              | true =>
                  have named : (getpeername s descriptor).isSome := by
                    rw [getpeername_of found, established, connected]
                    rfl
                  obtain ⟨other, same, contained⟩ :=
                    allowed_contained found (stays (by rw [name]; rfl) stream named)
                  rw [connected] at same
                  exact Option.some.inj same ▸ contained
      · cases delivered
        exact .inl safe

theorem logged_confined (confined : Confined s) {entries : List Passed}
    (contained : ∀ entry ∈ entries, Contained entry) : Confined (s.logged entries) := by
  refine ⟨?_, confined.pending⟩
  intro entry member
  rcases List.mem_append.mp member with before | added
  · exact confined.log entry before
  · exact contained entry added

/-- Messages that all pass the guard and do not stray are contained. -/
theorem transmit_confined (confined : Confined s) {messages : List Message} {sent : Nat}
    (passes : messages.all (message_destination_is_loopback s descriptor) = true)
    (stays : strays s descriptor messages sent = false) :
    Confined (transmit s descriptor messages sent) := by
  unfold transmit
  split
  · exact confined
  · next socket found =>
      apply logged_confined confined
      intro entry member
      obtain ⟨message, taken, delivered⟩ := List.mem_filterMap.mp member
      obtain ⟨target, reached, rfl⟩ := Option.map_eq_some_iff.mp delivered
      have inside := List.mem_of_mem_take taken
      have each := List.all_eq_true.mp passes
      refine message_contained confined found (each message inside) ?_ reached
      intro _ stream named
      by_contra refused
      have unallowed := eq_false_of_ne_true refused
      -- With the peer refused, only named messages can have passed.
      have explicit : (messages.all fun message =>
          jooan_guard_sockaddr_is_loopback message.msg_name message.msg_namelen) = true := by
        apply List.all_eq_true.mpr
        intro other member
        have through := each other member
        unfold message_destination_is_loopback at through
        split at through
        · next name => rw [name]; exact through
        · rw [unallowed] at through
          cases through
      have sends : (messages.take sent).isEmpty = false := by
        cases first : messages.take sent with
        | nil => rw [first] at taken; cases taken
        | cons => rfl
      simp [strays, found, stream, named, unallowed, explicit, sends] at stays

/-- Messages that stray are passed on, and reach the refused peer. -/
theorem transmit_strays {messages : List Message} {sent : Nat}
    (stray : strays s descriptor messages sent = true) :
    messages.all (message_destination_is_loopback s descriptor) = true ∧
      ∃ entry ∈ (transmit s descriptor messages sent).log, ¬Contained entry := by
  unfold strays at stray
  split at stray
  · cases stray
  · next socket found =>
      simp only [Bool.and_eq_true, Bool.not_eq_true'] at stray
      obtain ⟨⟨⟨⟨stream, named⟩, refused⟩, explicit⟩, sends⟩ := stray
      obtain ⟨peer, named⟩ := Option.isSome_iff_exists.mp named
      refine ⟨?_, .data peer socket, ?_, refused_strays found named refused⟩
      · apply List.all_eq_true.mpr
        intro message member
        have loopback := List.all_eq_true.mp explicit message member
        unfold message_destination_is_loopback
        split
        · next name => rwa [name] at loopback
        · next none => rw [none] at loopback; cases loopback
      · have connected : socket.peer = some peer := by
          rw [getpeername_of found] at named
          split at named
          · exact named
          · cases named
        unfold transmit
        rw [found]
        apply List.mem_append_right
        cases first : messages.take sent with
        | nil => rw [first] at sends; cases sends
        | cons message rest =>
            have delivered : destination socket message = some peer := by
              simp [destination, stream, connected]
            exact List.mem_filterMap.mpr ⟨message, List.mem_cons_self .., by rw [delivered]; rfl⟩

end Data

/-! ## Runs -/

section Steps

variable {s : State} {descriptor : Int}

theorem put_confined (confined : Confined s) {socket : Option Socket}
    (pending : ∀ changed, socket = some changed → changed.established = false →
      ∀ peer, changed.peer = some peer → Safe peer) :
    Confined (s.put descriptor socket) := by
  refine ⟨confined.log, ?_⟩
  intro other changed peer found
  by_cases same : other = descriptor
  · have here : socket = some changed := by
      have updated : Function.update s.sockets descriptor socket descriptor = some changed := by
        rw [same] at found
        exact found
      rwa [Function.update_self] at updated
    exact fun waits => pending changed here waits peer
  · have before : s.sockets other = some changed := by
      rw [← found]
      exact (Function.update_of_ne same ..).symm
    exact confined.pending other changed peer before

theorem bind_confined (confined : Confined s) (address : Argument) (length : Nat)
    (succeeds : Bool) : Confined (bind s descriptor address length succeeds) := by
  unfold bind
  split
  · exact confined
  · next passed bound =>
      obtain ⟨given, -, bound⟩ := Option.bind_eq_some_iff.mp bound
      have logged : Confined (s.logged [.bind passed]) := by
        apply logged_confined confined
        intro entry member
        rw [List.mem_singleton.mp member]
        exact boundAddress_safe bound
      dsimp only
      split
      · exact logged
      · next socket found =>
          split
          · apply put_confined logged
            intro changed same
            cases same
            exact fun waits peer named => confined.pending _ _ _ found waits named
          · exact logged

theorem connect_confined (confined : Confined s) (address : Argument) (length : Nat)
    (outcome : Outcome) : Confined (connect s descriptor address length outcome) := by
  unfold connect
  split
  · exact confined
  · next passed connected =>
      have safe := connectedAddress_safe connected
      have logged : Confined (s.logged [.connect passed]) := by
        apply logged_confined confined
        intro entry member
        rw [List.mem_singleton.mp member]
        exact safe
      dsimp only
      split
      · exact logged
      · split
        · exact logged
        · split
          · exact logged
          · apply put_confined logged
            intro changed same
            cases same
            intro _ peer named
            exact Option.some.inj named ▸ safe
        · split
          · exact logged
          · apply put_confined logged
            intro changed same
            cases same
            exact nofun

theorem accept_confined (confined : Confined s) (connections : List Connection) :
    Confined (accept s descriptor connections) := by
  induction connections with
  | nil => exact confined
  | cons connection connections inductionHypothesis =>
      unfold accept
      split
      · exact confined
      · split
        · split
          · exact inductionHypothesis
          · apply put_confined confined
            intro changed same
            cases same
            exact nofun
        · exact confined

theorem changed_confined (confined : Confined s) {change : Socket → Socket}
    (kept : ∀ socket, (change socket).established = false → ∀ peer,
      (change socket).peer = some peer → socket.established = false ∧ socket.peer = some peer) :
    Confined (changed s descriptor change) := by
  unfold changed
  split
  · exact confined
  · next socket found =>
      apply put_confined confined
      intro changed same
      cases same
      intro waits peer named
      obtain ⟨waits, named⟩ := kept socket waits peer named
      exact confined.pending _ _ _ found waits named

/-- An allowed socket's data without an address does not stray. -/
theorem unnamed_confined (confined : Confined s) {sent : Nat}
    (allowed : connected_socket_is_allowed s descriptor = true) :
    Confined (transmit s descriptor [unnamed] sent) := by
  apply transmit_confined confined
  · simpa [message_destination_is_loopback, unnamed] using allowed
  · unfold strays
    split
    · rfl
    · simp [allowed]

theorem write_confined (confined : Confined s) (sent : Nat) :
    Confined (write s descriptor sent) := by
  unfold write
  split
  · exact confined
  · next passes =>
      cases named : getpeername s descriptor with
      | some peer =>
          have allowed : connected_socket_is_allowed s descriptor = true := by
            simpa [descriptor_has_disallowed_peer, named] using passes
          exact unnamed_confined confined allowed
      | none =>
          -- No peer, or one on its way, which the guard's own connect let through.
          unfold transmit
          split
          · exact confined
          · next socket found =>
              apply logged_confined confined
              intro entry member
              obtain ⟨message, taken, delivered⟩ := List.mem_filterMap.mp member
              obtain ⟨target, reached, rfl⟩ := Option.map_eq_some_iff.mp delivered
              rw [List.mem_singleton.mp (List.mem_of_mem_take taken)] at reached
              have connected : socket.peer = some target := by
                unfold destination unnamed at reached
                split at reached <;> simpa using reached
              rw [getpeername_of found] at named
              split at named
              · rw [connected] at named
                cases named
              · next waits =>
                  exact .inl (confined.pending _ _ _ found (eq_false_of_ne_true waits) connected)

/-- The two ways in which the guard words the same test. -/
theorem sendto_eq (address : Argument) (address_length sent : Nat) :
    sendto s descriptor address address_length sent =
      sendmsg s descriptor (some { msg_name := address, msg_namelen := address_length }) sent := by
  unfold sendto sendmsg message_destination_is_loopback
  cases address with
  | none => cases connected_socket_is_allowed s descriptor <;> rfl
  | some address =>
      by_cases loopback : jooan_guard_sockaddr_is_loopback (some address) address_length = true <;>
        simp [loopback]

theorem sendmsg_confined (confined : Confined s) {message : Message} {sent : Nat}
    (stays : strays s descriptor [message] sent = false) :
    Confined (sendmsg s descriptor (some message) sent) := by
  unfold sendmsg
  dsimp only
  split
  · next passes => exact transmit_confined confined (by simpa using passes) stays
  · exact confined

theorem sendmsg_strays {message : Message} {sent : Nat}
    (stray : strays s descriptor [message] sent = true) :
    ∃ entry ∈ (sendmsg s descriptor (some message) sent).log, ¬Contained entry := by
  obtain ⟨passes, entry⟩ := transmit_strays stray
  have through : message_destination_is_loopback s descriptor message = true := by
    simpa using passes
  simp only [sendmsg, if_pos through]
  exact entry

theorem step_confined (confined : Confined s) {event : Event}
    (stays : escapes s event = false) : Confined (step s event) := by
  cases event with
  | sockets descriptor stream localAddress =>
      simp only [step]
      split
      · exact confined
      · apply put_confined confined
        intro changed same
        cases same
        exact nofun
  | listens descriptor port =>
      apply changed_confined confined
      intro socket waits peer named
      by_cases unbound : socket.localAddress.port = 0
      · rw [if_pos unbound] at waits named
        exact ⟨waits, named⟩
      · rw [if_neg unbound] at waits named
        exact ⟨waits, named⟩
  | binds descriptor address length succeeds => exact bind_confined confined address length succeeds
  | connects descriptor address length outcome =>
      exact connect_confined confined address length outcome
  | accepts descriptor connections => exact accept_confined confined connections
  | sends descriptor sent =>
      simp only [step, send]
      split
      · next allowed => exact unnamed_confined confined allowed
      · exact confined
  | sendtos descriptor address address_length sent =>
      rw [step, sendto_eq]
      exact sendmsg_confined confined stays
  | sendmsgs descriptor message sent =>
      cases message with
      | none => exact confined
      | some message => exact sendmsg_confined confined stays
  | sendmmsgs descriptor messages sent =>
      simp only [step, sendmmsg]
      cases messages with
      | none => exact confined
      | some messages =>
          dsimp only
          split
          · next passes => exact transmit_confined confined passes stays
          · exact confined
  | syscalls descriptor messages sent =>
      simp only [step, syscallSendmmsg, sendmmsg]
      cases messages with
      | none => exact confined
      | some messages =>
          dsimp only
          split
          · exact confined
          · next few =>
              split
              · next passes =>
                  have stays : strays s descriptor messages sent = false := by
                    simpa [escapes, Nat.not_lt.mp few] using stays
                  exact transmit_confined confined passes stays
              · exact confined
  | writes descriptor sent => exact write_confined confined sent
  | closes descriptor => exact put_confined confined nofun
  | establishes descriptor => exact changed_confined confined nofun
  | drops descriptor => exact changed_confined confined nofun

/-- Escaping data is in the log. -/
theorem step_escapes {event : Event} (escape : escapes s event = true) :
    ∃ entry ∈ (step s event).log, ¬Contained entry := by
  cases event with
  | sendtos descriptor address address_length sent =>
      rw [step, sendto_eq]
      exact sendmsg_strays escape
  | sendmsgs descriptor message sent =>
      cases message with
      | none => cases escape
      | some message => exact sendmsg_strays escape
  | sendmmsgs descriptor messages sent =>
      cases messages with
      | none => cases escape
      | some messages =>
          obtain ⟨passes, entry⟩ := transmit_strays escape
          simp only [step, sendmmsg, if_pos passes]
          exact entry
  | syscalls descriptor messages sent =>
      cases messages with
      | none => cases escape
      | some messages =>
          obtain ⟨few, stray⟩ := Bool.and_eq_true_iff.mp escape
          obtain ⟨passes, entry⟩ := transmit_strays stray
          have bounded := Nat.not_lt.mpr (decide_eq_true_eq.mp few)
          simp only [step, syscallSendmmsg, sendmmsg, if_neg bounded, if_pos passes]
          exact entry
  | _ => cases escape

end Steps

/-- Before its first call the process has no sockets. -/
def start : State :=
  { sockets := fun _ => none, log := [] }

/-- A foreign host, and 127.0.0.1. -/
def foreign : SockAddr := ⟨AF_INET, 50000, 0xcb007105, 0⟩
def loopback : SockAddr := ⟨AF_INET, 9, INADDR_LOOPBACK, 0⟩

end Network

end JooanW3U.Guard

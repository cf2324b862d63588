import Mathlib.Logic.Function.Basic

/-!
Owns the guard's network calls as src/guard/guard_shim.c and guard_policy.c have them:
bind, connect, accept, send, sendto, sendmsg, sendmmsg (also through syscall), write, writev
and sendfile64, on IPv4 and IPv6 sockets, with what the kernel does with what they pass on.

Does not own names and their resolution, the descriptors' roles, nor raw system calls.
-/

namespace JooanW3U.Guard

namespace Network

/-! ## Addresses -/

def AF_UNIX : Nat := 1
def AF_INET : Nat := 2
def AF_INET6 : Nat := 10
def AF_NETLINK : Nat := 16
def AF_BLUETOOTH : Nat := 31
def AF_ALG : Nat := 38

/-- `struct sockaddr` by its bytes, numbers in host order: the port of both families at
offset 2, `sin_addr` or the flow information at 4, `sin6_addr` at 8. -/
structure SockAddr where
  sa_family : Nat
  port : Nat
  sin_addr : BitVec 32
  sin6_addr : BitVec 128
deriving Repr, DecidableEq

def sizeofFamily : Nat := 2
def sizeofSockaddrIn : Nat := 16
def sizeofSockaddrIn6 : Nat := 28

def INADDR_LOOPBACK : BitVec 32 := 0x7f000001
def in6addr_loopback : BitVec 128 := 1
def JOOAN_GUARD_MQTT_LOOPBACK4 : BitVec 32 := 0x7f000002
def JOOAN_GUARD_API_LOOPBACK4 : BitVec 32 := 0x7f000003
def JOOAN_GUARD_CONNECTIVITY_LOOPBACK4 : BitVec 32 := 0x7f000004
def JOOAN_GUARD_CONNECTIVITY_PORT : Nat := 9443
def JOOAN_GUARD_LOCAL_MQTT_PORT : Nat := 1883
def JOOAN_GUARD_RTSP_PUBLIC_PORT : Nat := 554
def JOOAN_GUARD_RTSP_UPSTREAM_PORT : Nat := 8554

def localFamily (family : Nat) : Bool :=
  family == AF_UNIX || family == AF_NETLINK || family == AF_ALG || family == AF_BLUETOOTH

/-- An address as an argument, NULL or with the length given for it. -/
abbrev Argument := Option SockAddr

def jooan_guard_sockaddr_is_loopback (address : Argument) (address_length : Nat) : Bool :=
  match address with
  | none => false
  | some address =>
      if address_length < sizeofFamily then false
      else if localFamily address.sa_family then true
      else if address.sa_family = AF_INET then
        if address_length < sizeofSockaddrIn then false
        else address.sin_addr >>> 24 == 127
      else if address.sa_family = AF_INET6 then
        if address_length < sizeofSockaddrIn6 then false
        else address.sin6_addr == in6addr_loopback
      else false

def jooan_guard_listener_reply_port_allowed (port : Nat) : Bool :=
  port == JOOAN_GUARD_RTSP_UPSTREAM_PORT || port == 8899 || port == 9898 || port == 24569

/-! ## Sockets -/

/-- An IPv4 or IPv6 socket. `peer` is where it is connected to or, until it is
`established`, where its connection is on its way to. -/
structure Socket where
  stream : Bool
  localAddress : SockAddr
  peer : Option SockAddr
  established : Bool
deriving Repr, DecidableEq

/-- The length of the address of a socket. -/
def sizeof (address : SockAddr) : Nat :=
  if address.sa_family = AF_INET then sizeofSockaddrIn else sizeofSockaddrIn6

/-- What was passed on: an address to libc's bind or connect, or data, with where the
kernel delivers it and the socket that it leaves by. -/
inductive Passed
  | bind (address : SockAddr)
  | connect (address : SockAddr)
  | data (destination : SockAddr) (socket : Socket)
deriving Repr, DecidableEq

structure State where
  sockets : Int → Option Socket
  log : List Passed

namespace State

def put (s : State) (descriptor : Int) (socket : Option Socket) : State :=
  { s with sockets := Function.update s.sockets descriptor socket }

def logged (s : State) (entries : List Passed) : State :=
  { s with log := s.log ++ entries }

end State

/-- `getpeername`. -/
def getpeername (s : State) (descriptor : Int) : Option SockAddr :=
  (s.sockets descriptor).bind fun socket => if socket.established then socket.peer else none

/-! ## bind and connect -/

/-- The address that goes to libc, if any does: a rewritten one for the two internet
families, and the RTSP port's own. -/
def boundAddress (socket : Option Socket) (address : SockAddr) (length : Nat) : Option SockAddr :=
  if length < sizeofFamily then none
  else if address.sa_family = AF_INET then
    if length < sizeofSockaddrIn then none
    else if address.port = JOOAN_GUARD_RTSP_PUBLIC_PORT ∧ socket.any (·.stream) then
      some { address with sin_addr := INADDR_LOOPBACK, port := JOOAN_GUARD_RTSP_UPSTREAM_PORT }
    else some { address with sin_addr := INADDR_LOOPBACK }
  else if address.sa_family = AF_INET6 then
    if length < sizeofSockaddrIn6 then none
    else if address.port = JOOAN_GUARD_RTSP_PUBLIC_PORT ∧ socket.any (·.stream) then
      some { address with sin6_addr := in6addr_loopback, port := JOOAN_GUARD_RTSP_UPSTREAM_PORT }
    else some { address with sin6_addr := in6addr_loopback }
  else if localFamily address.sa_family then some address
  else none

/-- Without an address there is nothing that the kernel could bind to. -/
def bind (s : State) (descriptor : Int) (address : Argument) (length : Nat) (succeeds : Bool) :
    State :=
  match address.bind (boundAddress (s.sockets descriptor) · length) with
  | none => s
  | some passed =>
      let s := s.logged [.bind passed]
      match s.sockets descriptor with
      | none => s
      | some socket =>
          if succeeds then s.put descriptor (some { socket with localAddress := passed }) else s

def connectedAddress (address : Argument) (length : Nat) : Option SockAddr :=
  match address with
  | none => none
  | some address =>
      if sizeofSockaddrIn ≤ length ∧ address.sa_family = AF_INET ∧
          jooan_guard_sockaddr_is_loopback (some address) length = false ∧ address.port = 443 then
        some { address with
          sin_addr := JOOAN_GUARD_CONNECTIVITY_LOOPBACK4, port := JOOAN_GUARD_CONNECTIVITY_PORT }
      else if jooan_guard_sockaddr_is_loopback (some address) length = false then none
      else if sizeofSockaddrIn ≤ length ∧ address.sa_family = AF_INET ∧
          address.sin_addr = JOOAN_GUARD_MQTT_LOOPBACK4 then
        some { address with port := JOOAN_GUARD_LOCAL_MQTT_PORT }
      else if sizeofSockaddrIn ≤ length ∧ address.sa_family = AF_INET ∧
          address.sin_addr = JOOAN_GUARD_API_LOOPBACK4 then
        some { address with sin_addr := INADDR_LOOPBACK }
      else some address

/-- The kernel refuses, connects, or is on its way. -/
inductive Outcome
  | refused
  | pending
  | connected
deriving Repr, DecidableEq

def connect (s : State) (descriptor : Int) (address : Argument) (length : Nat)
    (outcome : Outcome) : State :=
  match connectedAddress address length with
  | none => s
  | some passed =>
      let s := s.logged [.connect passed]
      match s.sockets descriptor with
      | none => s
      | some socket =>
          match outcome with
          | .refused => s
          | .pending =>
              if socket.peer.isSome then s
              else s.put descriptor (some { socket with peer := passed, established := false })
          | .connected =>
              if socket.peer.isSome ∧ socket.stream then s
              else s.put descriptor (some { socket with peer := passed, established := true })

/-! ## accept -/

/-- One connection that the kernel hands to `accept`, and whether the RTSP credentials are
synchronized then. -/
structure Connection where
  descriptor : Int
  localAddress : SockAddr
  peer : SockAddr
  synchronized : Bool
deriving Repr, DecidableEq

/-- `accepted_rtsp_must_close`, for a listener's address of either family. -/
def accepted_rtsp_must_close (listener : Socket) (connection : Connection) : Bool :=
  listener.localAddress.port == JOOAN_GUARD_RTSP_UPSTREAM_PORT &&
    !jooan_guard_sockaddr_is_loopback (some connection.peer) (sizeof connection.peer) &&
    !connection.synchronized

def loopbackSocket (address : SockAddr) : Bool :=
  jooan_guard_sockaddr_is_loopback (some address) (sizeof address)

/-- The kernel hands over connections to the listener's address only, on a number that is
free. -/
def arrives (s : State) (listener : Socket) (connection : Connection) : Prop :=
  s.sockets connection.descriptor = none ∧ listener.stream = true ∧
    (loopbackSocket listener.localAddress = true → loopbackSocket connection.peer = true)

instance (s : State) (listener : Socket) (connection : Connection) :
    Decidable (arrives s listener connection) :=
  have : Decidable (s.sockets connection.descriptor = none) :=
    decidable_of_iff _ Option.isNone_iff_eq_none
  inferInstanceAs (Decidable (_ ∧ _ ∧ _))

/-- `accept` and `accept4`, with room for the peer's address: a connection that must close
is closed, and the next one is waited for. -/
def accept (s : State) (descriptor : Int) : List Connection → State
  | [] => s
  | connection :: connections =>
      match s.sockets descriptor with
      | none => s
      | some listener =>
          if arrives s listener connection then
            if accepted_rtsp_must_close listener connection then
              accept s descriptor connections
            else
              s.put connection.descriptor (some
                { stream := true, localAddress := connection.localAddress, peer := connection.peer,
                  established := true })
          else s

/-! ## Data -/

def connected_socket_is_allowed (s : State) (descriptor : Int) : Bool :=
  match getpeername s descriptor, s.sockets descriptor with
  | some peer, some socket =>
      jooan_guard_sockaddr_is_loopback (some peer) (sizeof peer) ||
        (socket.localAddress.sa_family == AF_INET &&
          jooan_guard_listener_reply_port_allowed socket.localAddress.port)
  | _, _ => false

def descriptor_has_disallowed_peer (s : State) (descriptor : Int) : Bool :=
  match getpeername s descriptor with
  | none => false
  | some _ => !connected_socket_is_allowed s descriptor

/-- `msg_name` and `msg_namelen`, of a message or of `sendto`. -/
structure Message where
  msg_name : Argument
  msg_namelen : Nat
deriving Repr, DecidableEq

def unnamed : Message :=
  { msg_name := none, msg_namelen := 0 }

def message_destination_is_loopback (s : State) (descriptor : Int) (message : Message) : Bool :=
  match message.msg_name with
  | some name => jooan_guard_sockaddr_is_loopback (some name) message.msg_namelen
  | none => connected_socket_is_allowed s descriptor

/-- Where the kernel delivers: a connected stream has no use for an explicit address. -/
def destination (socket : Socket) (message : Message) : Option SockAddr :=
  if socket.stream then socket.peer <|> message.msg_name
  else message.msg_name <|> socket.peer

/-- The kernel takes the first so many of the messages. -/
def transmit (s : State) (descriptor : Int) (messages : List Message) (sent : Nat) : State :=
  match s.sockets descriptor with
  | none => s
  | some socket =>
      s.logged ((messages.take sent).filterMap fun message =>
        (destination socket message).map (.data · socket))

/-- `sendto`, and `send` without an address. -/
def sendto (s : State) (descriptor : Int) (address : Argument) (address_length sent : Nat) :
    State :=
  if (address.isSome && !jooan_guard_sockaddr_is_loopback address address_length) ||
      (address.isNone && !connected_socket_is_allowed s descriptor) then s
  else transmit s descriptor [{ msg_name := address, msg_namelen := address_length }] sent

def send (s : State) (descriptor : Int) (sent : Nat) : State :=
  if connected_socket_is_allowed s descriptor then transmit s descriptor [unnamed] sent else s

def sendmsg (s : State) (descriptor : Int) (message : Option Message) (sent : Nat) : State :=
  match message with
  | none => s
  | some message =>
      if message_destination_is_loopback s descriptor message then
        transmit s descriptor [message] sent
      else s

def sendmmsg (s : State) (descriptor : Int) (messages : Option (List Message)) (sent : Nat) :
    State :=
  match messages with
  | none => s
  | some messages =>
      if messages.all (message_destination_is_loopback s descriptor) then
        transmit s descriptor messages sent
      else s

/-- The exported `syscall` with SYS_sendmmsg, which has its own bound on the count. -/
def syscallSendmmsg (s : State) (descriptor : Int) (messages : Option (List Message))
    (sent : Nat) : State :=
  match messages with
  | none => s
  | some messages =>
      if messages.length > 1024 then s else sendmmsg s descriptor messages sent

/-- `write` and `writev` of a descriptor without a role, and `sendfile64`. -/
def write (s : State) (descriptor : Int) (sent : Nat) : State :=
  if descriptor_has_disallowed_peer s descriptor then s
  else transmit s descriptor [unnamed] sent

/-! ## Runs -/

/-- The process's calls, those that the guard leaves alone included, and what the network
does to a connection. -/
inductive Event
  | sockets (descriptor : Int) (stream : Bool) (localAddress : SockAddr)
  | listens (descriptor : Int) (port : Nat)
  | binds (descriptor : Int) (address : Argument) (length : Nat) (succeeds : Bool)
  | connects (descriptor : Int) (address : Argument) (length : Nat) (outcome : Outcome)
  | accepts (descriptor : Int) (connections : List Connection)
  | sends (descriptor : Int) (sent : Nat)
  | sendtos (descriptor : Int) (address : Argument) (address_length sent : Nat)
  | sendmsgs (descriptor : Int) (message : Option Message) (sent : Nat)
  | sendmmsgs (descriptor : Int) (messages : Option (List Message)) (sent : Nat)
  | syscalls (descriptor : Int) (messages : Option (List Message)) (sent : Nat)
  | writes (descriptor : Int) (sent : Nat)
  | closes (descriptor : Int)
  | establishes (descriptor : Int)
  | drops (descriptor : Int)

/-- A change to one socket. -/
def changed (s : State) (descriptor : Int) (change : Socket → Socket) : State :=
  match s.sockets descriptor with
  | none => s
  | some socket => s.put descriptor (some (change socket))

def step (s : State) : Event → State
  | .sockets descriptor stream localAddress =>
      if (s.sockets descriptor).isSome then s
      else s.put descriptor (some { stream, localAddress, peer := none, established := false })
  | .listens descriptor port =>
      changed s descriptor fun socket =>
        if socket.localAddress.port = 0 then
          { socket with localAddress := { socket.localAddress with port } }
        else socket
  | .binds descriptor address length succeeds => bind s descriptor address length succeeds
  | .connects descriptor address length outcome => connect s descriptor address length outcome
  | .accepts descriptor connections => accept s descriptor connections
  | .sends descriptor sent => send s descriptor sent
  | .sendtos descriptor address address_length sent =>
      sendto s descriptor address address_length sent
  | .sendmsgs descriptor message sent => sendmsg s descriptor message sent
  | .sendmmsgs descriptor messages sent => sendmmsg s descriptor messages sent
  | .syscalls descriptor messages sent => syscallSendmmsg s descriptor messages sent
  | .writes descriptor sent => write s descriptor sent
  | .closes descriptor => s.put descriptor none
  | .establishes descriptor => changed s descriptor ({ · with established := true })
  | .drops descriptor => changed s descriptor ({ · with peer := none, established := false })

end Network

end JooanW3U.Guard

import BrokerRelay.Relay.Server
/-!
# Handling a client

A connection together with what it meets: the client's side of the TLS handshake, the network that the
broker is dialed over, and the two peers whose bytes are relayed. A handler first accepts the client,
then dials the broker once, then relays; how a stage ends is what the handshake and the dial come to.

Each peer sends and finishes sending whenever it likes, also before the relay reads from it, and a
read takes the bytes that were sent next. A run is any list of events, so the sends of both peers, the
moves of both directions, failures of a stream and a shutdown fall between each other in every way.
-/

namespace BrokerRelay.Relay

/-- How a listener handles its clients: its TLS settings and the deadline of their handshake, if it
has TLS, and the way to the broker. -/
structure Handler where
  tls : Option Tls.ListenerSettings
  handshakeTimeout : Duration
  chain : Dial.Chain
  broker : String

/-- How a server handles its clients. -/
def Server.handler (s : Server) : Handler :=
  ⟨s.tls, s.settings.listen.handshakeTimeout, s.chain, s.settings.broker.address⟩

/-- A client that has connected: its address, and how a TLS handshake with it goes. -/
structure Arrival where
  client : String
  secure : Tls.ListenerSettings → Dial.Timely (Except String Unit)

namespace Handler

/-- Accepts a client: at once without TLS, and else by a handshake. -/
def accept (h : Handler) (a : Arrival) : Dial.Activity (Except RelayFailure Unit) :=
  match h.tls with
  | none => .now (.ok ())
  | some tls => acceptSecured h.handshakeTimeout a.client (.waiting (a.secure tls))

/-- Dials the broker. -/
def dial (h : Handler) (net : Dial.Network) : Dial.Activity (Except DialFailure Dial.DialedStream) :=
  h.chain.dial net "tcp" h.broker

end Handler

/-! ## Peers -/

/-- A peer as the source of a direction: all that it has sent, the part of it that no one has read,
and whether it has finished sending. -/
structure Sender where
  sent : Bytes
  unread : Bytes
  finished : Bool
deriving DecidableEq, Repr

namespace Sender

/-- A peer that has sent nothing. -/
def silent : Sender := ⟨[], [], false⟩

/-- A peer that has sent more. -/
def push (s : Sender) (bytes : Bytes) : Sender :=
  { s with sent := s.sent ++ bytes, unread := s.unread ++ bytes }

/-- A peer of which `count` more bytes were read. -/
def pull (s : Sender) (count : Nat) : Sender := { s with unread := s.unread.drop count }

end Sender

/-! ## Handling -/

/-- A direction of a connection. -/
def Connection.flow (c : Connection) : Direction → Flow
  | .toBroker => c.toBroker
  | .toClient => c.toClient

/-- A connection that is being handled, the source of each direction, and the sockets that were opened
to reach the broker. -/
structure Handling where
  connection : Connection
  client : Sender
  broker : Sender
  opened : List Dial.SocketAddress

/-- What can happen to a connection that is handled: the source of a direction sends or finishes, the
dial opens its next socket, or the connection makes a step. -/
inductive HandlingEvent where
  | sends (direction : Direction) (bytes : Bytes)
  | finishes (direction : Direction)
  | opens
  | connection (event : ConnectionEvent)

namespace Handling

/-- A client has just connected. -/
def begun (a : Arrival) : Handling := ⟨.arrived a.client, .silent, .silent, []⟩

/-- The source of a direction. -/
def sender (s : Handling) : Direction → Sender
  | .toBroker => s.client
  | .toClient => s.broker

/-- The source of a direction becomes another. -/
def withSender (s : Handling) (sender : Sender) : Direction → Handling
  | .toBroker => { s with client := sender }
  | .toClient => { s with broker := sender }

variable (h : Handler) (a : Arrival) (net : Dial.Network)

/-- The event is one that the client's handshake, the dial or the source of a direction leads to. A
dial ends after it has opened all its sockets; a read takes bytes that were sent, and the end is met
behind the last of them. -/
def allowed (s : Handling) : ConnectionEvent → Bool
  | .accepted =>
    match (h.accept a).value? with
    | some (.ok ()) => true
    | _ => false
  | .acceptFailed reason =>
    match (h.accept a).value? with
    | some (.error e) => e = .tlsAccept a.client reason
    | _ => false
  | .dialed =>
    match (h.dial net).value? with
    | some (.ok _) => s.opened = (h.dial net).targets
    | _ => false
  | .dialFailed cause =>
    match (h.dial net).value? with
    | some (.error e) => e = cause ∧ s.opened = (h.dial net).targets
    | _ => false
  | .moved direction (.read bytes) => bytes ≠ [] ∧ bytes <+: (s.sender direction).unread
  | .moved direction .finish =>
    (s.sender direction).finished ∧ (s.sender direction).unread = []
  | .moved _ (.deliver _) | .moved _ .close | .streamFailed _ | .shutdown => true

/-- What an event takes from the peers: a read takes its bytes from the source. -/
def taken (s : Handling) : ConnectionEvent → Handling
  | .moved direction (.read bytes) =>
    s.withSender ((s.sender direction).pull bytes.length) direction
  | _ => s

/-- A handled connection after an event, if the event is possible. -/
def step (s : Handling) : HandlingEvent → Option Handling
  | .sends direction bytes =>
    if (s.sender direction).finished then none
    else some (s.withSender ((s.sender direction).push bytes) direction)
  | .finishes direction =>
    if (s.sender direction).finished then none
    else some (s.withSender { s.sender direction with finished := true } direction)
  | .opens =>
    match s.connection.stage with
    | .dialing =>
      (h.dial net).targets[s.opened.length]?.map fun socket =>
        { s with opened := s.opened ++ [socket] }
    | _ => none
  | .connection e =>
    if s.allowed h a net e then
      (s.connection.step e).map fun c => { s.taken e with connection := c }
    else none

/-- A handled connection after a list of events, if they are possible in this order. -/
def after (s : Handling) (events : List HandlingEvent) : Option Handling :=
  events.foldlM (step h a net) s

end Handling

end BrokerRelay.Relay

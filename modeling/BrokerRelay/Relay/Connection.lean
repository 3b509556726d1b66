import BrokerRelay.Dial.Chain
/-!
# Relayed connections

An accepted client goes through three stages: its TLS handshake, if the listener has TLS, the dial to
the broker, and the relay of bytes in both directions at once. `Connection.step` says what may happen
next in each stage; a run is any list of events, so every interleaving of the two directions, of
failures and of a shutdown is covered.

The broker is dialed once and only after the client was accepted. Each direction reads, writes all it
has read, and closes the other side when its source has ended; the relay is over when both have done
so, and its result counts what was delivered.
-/

namespace BrokerRelay.Relay

/-- The numbers of bytes delivered in both directions. -/
structure Traffic where
  toBroker : Nat
  toClient : Nat
deriving DecidableEq, Repr

/-! ## One direction -/

/-- One direction of a relay: what its source has yielded, the part of it that is still to be
delivered, what has been delivered, whether the source has ended, and whether the end has been passed
on. -/
structure Flow where
  yielded : Bytes
  buffered : Bytes
  delivered : Bytes
  ended : Bool
  closed : Bool
deriving DecidableEq, Repr

namespace Flow

/-- A direction before its first byte. -/
def fresh : Flow := ⟨[], [], [], false, false⟩

/-- What a direction does: reads bytes, meets the end of its source, delivers the first `count` bytes
that are due, or passes the end on. -/
inductive Move where
  | read (bytes : Bytes)
  | finish
  | deliver (count : Nat)
  | close
deriving DecidableEq, Repr

/-- A direction after a move, if the move is possible. -/
def move (f : Flow) : Move → Option Flow
  | .read bytes =>
    if f.ended then none
    else some { f with yielded := f.yielded ++ bytes, buffered := f.buffered ++ bytes }
  | .finish => if f.ended then none else some { f with ended := true }
  | .deliver count =>
    if 0 < count ∧ count ≤ f.buffered.length then
      some { f with buffered := f.buffered.drop count,
                    delivered := f.delivered ++ f.buffered.take count }
    else none
  | .close =>
    if f.ended ∧ f.buffered = [] ∧ ¬f.closed then some { f with closed := true } else none

end Flow

/-! ## Connections -/

/-- How far a connection is. -/
inductive Stage where
  | accepting
  | dialing
  | relaying
  | over (result : Except RelayFailure Traffic)

/-- A direction. -/
inductive Direction where
  | toBroker
  | toClient
deriving DecidableEq, Repr

/-- What can happen to a connection. -/
inductive ConnectionEvent where
  | accepted
  | acceptFailed (reason : String)
  | dialed
  | dialFailed (cause : DialFailure)
  | moved (direction : Direction) (move : Flow.Move)
  | streamFailed (cause : IoFailure)
  | shutdown

/-- A connection: the client's address, its stage, how often the broker was dialed, and both
directions. -/
structure Connection where
  client : String
  stage : Stage
  dials : Nat
  toBroker : Flow
  toClient : Flow

namespace Connection

/-- A connection whose client has just arrived. -/
def arrived (client : String) : Connection := ⟨client, .accepting, 0, .fresh, .fresh⟩

/-- The connection has ended in a failure. -/
def failed (c : Connection) (e : RelayFailure) : Connection := { c with stage := .over (.error e) }

/-- The relay is over as soon as both directions are. -/
def settle (c : Connection) : Connection :=
  if c.toBroker.closed && c.toClient.closed then
    { c with stage :=
        .over (.ok ⟨c.toBroker.delivered.length, c.toClient.delivered.length⟩) }
  else c

/-- A move of one direction. -/
def moveFlow (c : Connection) (m : Flow.Move) : Direction → Option Connection
  | .toBroker => (c.toBroker.move m).map fun f => { c with toBroker := f }
  | .toClient => (c.toClient.move m).map fun f => { c with toClient := f }

/-- A connection after an event, if the event is possible. -/
def step (c : Connection) (e : ConnectionEvent) : Option Connection :=
  match c.stage, e with
  | .accepting, .accepted => some { c with stage := .dialing, dials := c.dials + 1 }
  | .accepting, .acceptFailed reason => some (c.failed (.tlsAccept c.client reason))
  | .dialing, .dialed => some { c with stage := .relaying }
  | .dialing, .dialFailed cause => some (c.failed (.dial cause))
  | .relaying, .moved direction m => (c.moveFlow m direction).map settle
  | .relaying, .streamFailed cause => some (c.failed (.connection cause))
  | .relaying, .shutdown => some (c.failed .shutdown)
  | _, _ => none

/-- A connection after a list of events, if they are possible in this order. -/
def run (c : Connection) (events : List ConnectionEvent) : Option Connection := events.foldlM step c

end Connection

/-! ## The client's handshake -/

/-- The TLS handshake of a client under a deadline; a zero deadline is none. -/
def acceptSecured {α : Type} (timeout : Duration) (client : String)
    (handshake : Dial.Activity (Except String α)) : Dial.Activity (Except RelayFailure α) :=
  let settled : Except String α → Except RelayFailure α := (·.mapError (.tlsAccept client))
  if timeout.isZero then handshake.map settled
  else (handshake.within timeout.toNanos).map fun
    | some r => settled r
    | none => .error (.tlsAccept client ("timed out after " ++ timeout.text))

/-! ## What is logged -/

/-- The event that tells of a failed connection. -/
def failureEvent (client : String) (e : RelayFailure) : LogEvent :=
  let told := [("peer", client), ("error", e.message)]
  match e with
  | .shutdown => ⟨.debug, .listener, "connection closed: shutdown", [("peer", client)]⟩
  | .dial cause =>
    if cause.isProxyFailure then ⟨.error, .listener, "forward proxy error", told⟩
    else
      match cause with
      | .tlsHandshakeFailed .. => ⟨.warn, .listener, "TLS handshake failed", told⟩
      | _ => ⟨.error, .listener, "connection error", told⟩
  | .tlsAccept .. => ⟨.warn, .listener, "TLS handshake failed", told⟩
  | _ => ⟨.error, .listener, "connection error", told⟩

end BrokerRelay.Relay

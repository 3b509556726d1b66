import BrokerRelay.Relay.Connection
import BrokerRelay.Relay.Listener
/-!
# Services

A listener together with the connections of the clients that it has admitted, one for each of its
tasks. The task of a client takes its connection through its stages and counts the client off when the
connection is over, whatever its result is. A connection is interrupted by a shutdown only when one
waits for its task.

Every event is a step of one party: the accept loop, a connection, or a task that counts its client
off. A run is any list of events, so any number of connections go on between two steps of the loop.

A task whose connection has failed tells why before it counts its client off.
-/

namespace BrokerRelay.Relay

/-- The result of a connection that is over. -/
def Connection.result? (c : Connection) : Option (Except RelayFailure Traffic) :=
  match c.stage with
  | .over result => some result
  | _ => none

/-- What is told of a connection when its client is counted off: why it failed, and nothing if it did
not. -/
def Connection.farewell? (c : Connection) : Option LogEvent :=
  match c.stage with
  | .over (.error e) => some (failureEvent c.client e)
  | _ => none

/-- A listener, and the connections of its tasks in order of admission. -/
structure Service where
  listener : Listener
  connections : List Connection

/-- What can happen to a service: a step of the accept loop, the start of the task of a client that
has been counted, a step of a connection, or the end of a task. -/
inductive ServiceEvent where
  | loop (event : ListenerEvent)
  | spawned (client : String)
  | connection (index : Nat) (event : ConnectionEvent)
  | countedOff (index : Nat)

/-- The event is one of the accept loop alone, or a shutdown. -/
def ListenerEvent.ofLoop : ListenerEvent → Bool
  | .spawned | .taskEnded _ => false
  | _ => true

/-- The event is possible for a task that a shutdown waits for, or not. -/
def ConnectionEvent.allowed (notified : Bool) : ConnectionEvent → Bool
  | .shutdown => notified
  | _ => true

namespace Service

/-- A service whose listener has just been made. -/
def new (limit : UInt64) : Service := ⟨.new limit, []⟩

/-- A step of a connection. -/
def stepConnection (s : Service) (index : Nat) (e : ConnectionEvent) : Option Service :=
  match s.connections[index]?, s.listener.tasks[index]? with
  | some c, some t =>
    if e.allowed t.notified then
      (c.step e).map fun c => { s with connections := s.connections.set index c }
    else none
  | _, _ => none

/-- The task of a connection that is over counts its client off. -/
def countOff (s : Service) (index : Nat) : Option Service :=
  match s.connections[index]?.bind Connection.result? with
  | some _ => (s.listener.step (.taskEnded index)).map fun l => { s with listener := l }
  | none => none

/-- A service after an event, if the event is possible. -/
def step (s : Service) : ServiceEvent → Option Service
  | .loop e =>
    if e.ofLoop then (s.listener.step e).map fun l => { s with listener := l } else none
  | .spawned client =>
    (s.listener.step .spawned).map fun l => ⟨l, s.connections ++ [.arrived client]⟩
  | .connection index e => s.stepConnection index e
  | .countedOff index => s.countOff index

/-- A service after a list of events, if they are possible in this order. -/
def after (s : Service) (events : List ServiceEvent) : Option Service := events.foldlM step s

/-- What is told of a connection at an event. -/
def told (s : Service) : ServiceEvent → Option LogEvent
  | .countedOff index => s.connections[index]?.bind Connection.farewell?
  | _ => none

/-- What is told of all connections in the course of a list of events, as far as they are possible. -/
def farewells (s : Service) : List ServiceEvent → List LogEvent
  | [] => []
  | e :: events =>
    match s.step e with
    | some s' => (s.told e).toList ++ s'.farewells events
    | none => []

end Service

end BrokerRelay.Relay

/-!
# Listeners

The accept loop as a machine: a listener is told to run, binds its address, subscribes to shutdowns
and then waits for clients and shutdowns. Each of its actions is a step of its own, because clients
arrive, tasks end and shutdowns are sent between any two of them. A run is any list of events.

A client that cannot be accepted changes nothing. Admission reads the counter, compares it with the
limit and only then counts the client, who gets a task with a subscription of its own. A shutdown
reaches the subscriptions that exist when it is sent, and waits there until it is received.
-/

namespace BrokerRelay.Relay

/-- What a listener is doing. -/
inductive Phase where
  | idle
  | binding
  | bound
  | waiting
  | deciding (read : UInt64)
  | counted
  | stopped
deriving DecidableEq, Repr

/-- The task of an admitted client: whether a shutdown waits for it, and whether it has ended and
counted its client off. -/
structure Task where
  notified : Bool
  ended : Bool
deriving DecidableEq, Repr

/-- A listener: the greatest number of clients, the counter of clients, the tasks in order of
admission, and whether a shutdown waits for the accept loop. -/
structure Listener where
  limit : UInt64
  phase : Phase
  active : UInt64
  tasks : List Task
  notified : Bool
deriving DecidableEq, Repr

/-- What can happen to a listener. -/
inductive ListenerEvent where
  | run
  | bound
  | bindFailed
  | subscribed
  | clientArrived
  | acceptFailed
  | decided
  | spawned
  | taskEnded (index : Nat)
  | shutdownSent
  | shutdownReceived
deriving DecidableEq, Repr

namespace Listener

/-- A listener that has just been made. -/
def new (limit : UInt64) : Listener := ⟨limit, .idle, 0, [], false⟩

/-- The accept loop has subscribed to shutdowns and not ended. -/
def subscribed (l : Listener) : Bool :=
  match l.phase with
  | .waiting | .deciding _ | .counted => true
  | _ => false

/-- The tasks that have not ended. -/
def live (l : Listener) : List Task := l.tasks.filter (!·.ended)

/-- A shutdown reaches every subscription. -/
def notify (l : Listener) : Listener :=
  { l with
    notified := l.notified || l.subscribed,
    tasks := l.tasks.map fun t => if t.ended then t else { t with notified := true } }

/-- A task ends and counts its client off. -/
def endTask (l : Listener) (index : Nat) : Option Listener :=
  match l.tasks[index]? with
  | some t =>
    if t.ended then none
    else some { l with tasks := l.tasks.set index { t with ended := true }, active := l.active - 1 }
  | none => none

/-- A listener after an event, if the event is possible. -/
def step (l : Listener) (e : ListenerEvent) : Option Listener :=
  match e, l.phase with
  | .run, .idle | .run, .stopped => some { l with phase := .binding }
  | .bound, .binding => some { l with phase := .bound }
  | .bindFailed, .binding => some { l with phase := .idle }
  | .subscribed, .bound => some { l with phase := .waiting, notified := false }
  | .clientArrived, .waiting => some { l with phase := .deciding l.active }
  | .acceptFailed, .waiting => some l
  | .decided, .deciding read =>
    if l.limit ≤ read then some { l with phase := .waiting }
    else some { l with phase := .counted, active := l.active + 1 }
  | .spawned, .counted => some { l with phase := .waiting, tasks := l.tasks ++ [⟨false, false⟩] }
  | .shutdownReceived, .waiting =>
    if l.notified then some { l with phase := .stopped, notified := false } else none
  | .taskEnded index, _ => l.endTask index
  | .shutdownSent, _ => some l.notify
  | _, _ => none

/-- A listener after a list of events, if they are possible in this order. -/
def after (l : Listener) (events : List ListenerEvent) : Option Listener := events.foldlM step l

/-- What happens when a listener is told to run and nothing goes wrong. -/
def start : List ListenerEvent := [.run, .bound, .subscribed]

/-- What happens when a listener that waits is shut down. -/
def stop : List ListenerEvent := [.shutdownSent, .shutdownReceived]

end Listener

end BrokerRelay.Relay

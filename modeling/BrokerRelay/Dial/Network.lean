import BrokerRelay.Dial.Activity
import BrokerRelay.Dial.Talk
import BrokerRelay.Tls.Settings
/-!
# The network

Everything that a dial meets outside this program, as data: how names resolve, what becomes of a
connect attempt, what the other side of a connection says and when, and how a TLS handshake goes.
Nothing is assumed about any of it; two attempts at one address may end differently.
-/

namespace BrokerRelay.Dial

/-- A connection: where it leads, what the other side says, and after which time how many of its
bytes are there. `arrival (n + 1)` for `n` bytes in all is the time of their end. -/
structure Route where
  socket : SocketAddress
  peer : Peer
  arrival : Nat → Option Nat

/-- What two sides of a TLS connection agreed on. -/
structure Session where
  version : String
  suite : Tls.CipherSuite
deriving DecidableEq, Repr

/-- A candidate of a dial: an address, and how many candidates stand in front of it. -/
structure Candidate where
  number : Nat
  address : SocketAddress
deriving DecidableEq, Repr

/-- The candidates that a row of addresses makes. -/
def Candidate.numbered (addresses : List SocketAddress) : List Candidate :=
  addresses.zipIdx.map fun (address, number) => ⟨number, address⟩

/-- What lies outside this program. `prepare` is the outcome of setting the options of a socket that
is connected; `bind` is that of listening on an address, with the address that was chosen. -/
structure Network where
  resolve : List Char → Timely (Except IoFailure (List IpAddress))
  connect : Candidate → Timely (Except IoFailure Route)
  prepare : SocketAddress → Except IoFailure Unit
  secure : Tls.ClientSettings → List Char → Route → Timely (Except String Session)
  bind : SocketAddress → Except IoFailure SocketAddress

/-- A stream to the broker, with the TLS session over it if there is one. -/
structure DialedStream where
  route : Route
  session : Option Session

/-- Talks over a connection: it takes until the bytes that the talk needs are there, and leaves the
others on the connection. -/
def Route.run {ε α : Type} (route : Route) (talk : Talk ε α) : Activity (Except ε (α × Route)) :=
  let o := talk.run route.peer
  let needed := talk.demand route.peer
  Activity.waiting ((route.arrival needed).map fun time =>
    (time, o.result.map fun x =>
      (x, { route with
              peer := o.peer,
              arrival := fun n => (route.arrival (needed + n)).map (· - time) })))

end BrokerRelay.Dial

import BrokerRelay.Config.Basic
import BrokerRelay.Dial.Network
import BrokerRelay.Dial.ProxyClient
/-!
# Direct connections

A connection to an address: its host is resolved, and the candidates of the wanted family are tried in
order until one answers, all under one deadline. The failure that is reported is that of the last
candidate.
-/

namespace BrokerRelay.Dial

/-- Which addresses a network name admits. -/
inductive Family where
  | any
  | v4
  | v6
deriving DecidableEq, Repr

namespace Family

/-- The family of a network name. -/
def ofNetwork? (network : String) : Option Family :=
  if network = "tcp" then some .any
  else if network = "tcp4" then some .v4
  else if network = "tcp6" then some .v6
  else none

/-- The family admits an address. -/
def admits : Family → IpAddress → Bool
  | .any, _ => true
  | .v4, ip => ip.isV4
  | .v6, ip => !ip.isV4

end Family

/-- The family of a network name, which must be a supported one. -/
def checkNetwork (network : String) : Except DialFailure Family :=
  match Family.ofNetwork? network with
  | some family => .ok family
  | none => .error (.unsupportedNetwork network)

/-- How direct connections are made. -/
structure Direct where
  connectTimeout : Duration
  keepAlive : Duration
deriving DecidableEq, Repr

namespace Direct

/-- The host that is resolved: an empty one is this machine. -/
def resolvedHost (host : List Char) : List Char := if host.isEmpty then "localhost".toList else host

/-- Tries candidates in order; `last` is the failure so far. -/
def tryEach (net : Network) : List Candidate → IoFailure → Activity (Except IoFailure Route)
  | [], last => .now (.error last)
  | candidate :: others, _ =>
    (Activity.opening candidate.address (net.connect candidate)).bind fun
      | .ok route => .now (.ok route)
      | .error e => tryEach net others e

/-- Resolves a host and tries the candidates of the family. -/
def attempt (net : Network) (network : String) (family : Family) (target : HostPort) :
    Activity (Except IoFailure Route) :=
  let host := resolvedHost target.host
  (Activity.waiting (net.resolve host)).andThen fun ips =>
    tryEach net (Candidate.numbered ((ips.filter family.admits).map fun ip => ⟨ip, target.port⟩))
      (.noAddress network (String.ofList host))

/-- The failure of a dial whose attempt failed. -/
def failureOf (d : Direct) (address : String) : IoFailure → DialFailure
  | .refused => .refused address
  | .timedOut => .timeout address d.connectTimeout
  | e => .unreachable address e

/-- The outcome of a dial from that of its attempt, which is missing when the deadline expired. -/
def settle (d : Direct) (net : Network) (address : String) :
    Option (Except IoFailure Route) → Except DialFailure Route
  | none => .error (.timeout address d.connectTimeout)
  | some (.error e) => .error (d.failureOf address e)
  | some (.ok route) =>
    match net.prepare route.socket with
    | .ok () => .ok route
    | .error e => .error (.unreachable address e)

/-- Connects to an address. -/
def connect (d : Direct) (net : Network) (network address : String) :
    Activity (Except DialFailure Route) :=
  match checkNetwork network, splitTarget address with
  | .error e, _ => .now (.error e)
  | .ok _, .error e => .now (.error e)
  | .ok family, .ok target =>
    ((attempt net network family target).within d.connectTimeout.toNanos).map
      (d.settle net address)

end Direct

end BrokerRelay.Dial

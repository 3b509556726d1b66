import BrokerRelay.Config.Load
import BrokerRelay.Dial.Talk
import BrokerRelay.Text.Quoted
/-!
# Clients of a forward proxy

What the two proxy protocols have in common: how the proxy is reached, who this side says it is, and
how long a negotiation may take. Credentials count only when both parts are there.
-/

namespace BrokerRelay.Dial

/-- Splits the target of a dial. -/
def splitTarget (address : String) : Except DialFailure HostPort :=
  match HostPort.ofString? address with
  | some a => .ok a
  | none => .error (.invalidAddress address)

/-- A client of a forward proxy. -/
structure ProxyClient where
  network : String
  address : String
  credentials : Option Config.Credentials
  handshakeTimeout : Duration
deriving DecidableEq, Repr

namespace ProxyClient

/-- A client without credentials. -/
def make (network address : String) : ProxyClient := ⟨network, address, none, .ofSecs 10⟩

/-- The client with credentials, if neither part is empty, and else without any. -/
def withCredentials (c : ProxyClient) (username password : String) : ProxyClient :=
  { c with credentials := Config.Credentials.of? username password }

/-- The client that a configuration describes. -/
def ofConfig (env : Environment) (p : Config.ForwardProxy) : ProxyClient :=
  ⟨p.network, p.address, p.credentials env, p.handshakeTimeout⟩

/-- A negotiation that failed for the stated reason. -/
def handshakeFailed (c : ProxyClient) (reason : String) : DialFailure :=
  .proxyHandshakeFailed c.address reason

/-- A negotiation whose stream failed. -/
def streamFailed (c : ProxyClient) (e : IoFailure) : DialFailure := c.handshakeFailed e.message

/-- The written form of a client of the named kind; the password is left out. -/
def display (c : ProxyClient) (kind : String) : String :=
  Text.record kind [
    ("proxy_network", Text.quoted c.network),
    ("proxy_address", Text.quoted c.address),
    ("username", Text.optional (c.credentials.map fun k => Text.quoted k.username)),
    ("handshake_timeout", c.handshakeTimeout.text)] false

end ProxyClient

end BrokerRelay.Dial

import BrokerRelay.Address.ServerName
import BrokerRelay.Dial.Direct
import BrokerRelay.Dial.HttpConnect
import BrokerRelay.Dial.Socks5
/-!
# Chains

The way to the broker: a direct connection, on it a tunnel through a forward proxy if one is
configured, and in that TLS if it is on. Each layer starts when the one below has ended, and a failure
is that of the layer where it arose.

The TLS deadline covers the whole way. When it expires before the stream below is there, the layer
below says what failed; a zero deadline is none.
-/

namespace BrokerRelay.Dial

/-- A forward proxy with its protocol. -/
structure Tunnel where
  protocol : Config.ProxyProtocol
  client : ProxyClient
deriving DecidableEq, Repr

namespace Tunnel

/-- The negotiation for a target. -/
def talk (t : Tunnel) (target : String) : Talk DialFailure Unit :=
  match t.protocol with
  | .socks5 => Socks5.handshake t.client target
  | .http => HttpConnect.handshake t.client target

/-- What is checked before the proxy is connected to: the network, and by the HTTP client the target
as well. -/
def precheck (t : Tunnel) (network target : String) : Except DialFailure Unit := do
  let _ ← checkNetwork network
  match t.protocol with
  | .socks5 => return
  | .http => let _ ← splitTarget target

/-- The failure of a dial to the proxy. -/
def unreachable (t : Tunnel) (cause : DialFailure) : DialFailure :=
  .proxyUnreachable t.client.address cause

/-- The failure of a negotiation that took too long. -/
def handshakeTimedOut (t : Tunnel) : DialFailure :=
  t.client.handshakeFailed ("handshake timed out after " ++ t.client.handshakeTimeout.text)

/-- The name of the tunnel in messages. -/
def title (t : Tunnel) : String :=
  match t.protocol with
  | .socks5 => "SOCKS5 tunnel"
  | .http => "CONNECT tunnel"

/-- The failure of a dial that an outer deadline cut short. -/
def deadlineExceeded (t : Tunnel) (address : String) (after : Duration) : DialFailure :=
  t.client.handshakeFailed (t.title ++ " to " ++ address ++ " not ready after " ++ after.text)

/-- Negotiates over a connection to the proxy. -/
def negotiate (t : Tunnel) (target : String) (route : Route) : Activity (Except DialFailure Route) :=
  ((route.run (t.talk target)).within t.client.handshakeTimeout.toNanos).map fun
    | none => .error t.handshakeTimedOut
    | some r => r.map Prod.snd

/-- Connects to a target through the proxy. -/
def connect (t : Tunnel) (d : Direct) (net : Network) (network target : String) :
    Activity (Except DialFailure Route) :=
  match t.precheck network target with
  | .error e => .now (.error e)
  | .ok () =>
    ((d.connect net t.client.network t.client.address).map (·.mapError t.unreachable)).andThen
      (t.negotiate target)

end Tunnel

/-- The way to the broker. -/
structure Chain where
  direct : Direct
  tunnel : Option Tunnel
  tls : Option Tls.ClientSettings
deriving DecidableEq, Repr

namespace Chain

/-- The event that connections go through a forward proxy. -/
def tunnelled (p : Config.ForwardProxy) : LogEvent :=
  let protocol := match p.protocol with
    | .socks5 => "Socks5"
    | .http => "Http"
  ⟨.info, .chain, "dialing brokers through forward proxy",
    [("protocol", protocol), ("proxy", p.address)]⟩

/-- Builds the tunnel that a configuration describes. -/
def buildTunnel {ε : Type} (env : Environment) : Option Config.ForwardProxy → Logged ε (Option Tunnel)
  | none => pure none
  | some p => do
    Logged.event (tunnelled p)
    pure (some ⟨p.protocol, .ofConfig env p⟩)

/-- Builds the way that a configuration describes. -/
def build (storage : Storage) (env : Environment) (b : Config.Broker) : Logged TlsFailure Chain := do
  let tunnel ← buildTunnel env b.forwardProxy
  let tls ← match b.enabledTls with
    | none => pure none
    | some t => some <$> Tls.ClientSettings.build storage env t
  pure ⟨⟨b.dialTimeout, b.keepAlive⟩, tunnel, tls⟩

/-! ## Below TLS -/

/-- Connects to an address, without TLS. -/
def connect (c : Chain) (net : Network) (network address : String) :
    Activity (Except DialFailure Route) :=
  match c.tunnel with
  | none => c.direct.connect net network address
  | some t => t.connect c.direct net network address

/-- The failure of a connection below TLS that a deadline cut short. -/
def connectExceeded (c : Chain) (address : String) (after : Duration) : DialFailure :=
  match c.tunnel with
  | none => .timeout address after
  | some t => t.deadlineExceeded address after

/-- The failure of a dial that an outer deadline cut short. With TLS it does not tell which layer was
at work. -/
def deadlineExceeded (c : Chain) (address : String) (after : Duration) : DialFailure :=
  match c.tls with
  | none => c.connectExceeded address after
  | some _ => .timeout address after

/-! ## TLS -/

/-- The host that the broker's certificate must be for. -/
def serverName (address : String) : Except DialFailure (List Char) := do
  let target ← splitTarget address
  if ServerName.isValid target.host then return target.host else throw (.invalidAddress address)

/-- The TLS handshake over a connection, with the time that is left for it. -/
def handshake (net : Network) (tls : Tls.ClientSettings) (address : String) (name : List Char)
    (left : Option Nat) (route : Route) : Activity (Except DialFailure DialedStream) :=
  let settled : Except String Session → Except DialFailure DialedStream
    | .ok session => .ok ⟨route, some session⟩
    | .error reason => .error (.tlsHandshakeFailed address reason)
  let secured := Activity.waiting (net.secure tls name route)
  match left with
  | none => secured.map settled
  | some limit => (secured.within limit).map fun
    | some r => settled r
    | none => .error (.tlsHandshakeFailed address
        ("timed out after " ++ tls.handshakeTimeout.text))

/-- Connects and secures the connection under one deadline. -/
def dialSecured (c : Chain) (net : Network) (tls : Tls.ClientSettings) (network address : String) :
    Activity (Except DialFailure DialedStream) :=
  match serverName address with
  | .error e => .now (.error e)
  | .ok name =>
    let below := c.connect net network address
    if tls.handshakeTimeout.isZero then
      below.andThen (handshake net tls address name none)
    else
      let limit := tls.handshakeTimeout.toNanos
      let spent := (below.ended.map Prod.fst).getD 0
      (below.within limit).bind fun
        | none => .now (.error (c.connectExceeded address tls.handshakeTimeout))
        | some (.error e) => .now (.error e)
        | some (.ok route) => handshake net tls address name (some (limit - spent)) route

/-- Dials an address. -/
def dial (c : Chain) (net : Network) (network address : String) :
    Activity (Except DialFailure DialedStream) :=
  match c.tls with
  | some tls => c.dialSecured net tls network address
  | none => (c.connect net network address).map (·.map fun route => ⟨route, none⟩)

end Chain

end BrokerRelay.Dial

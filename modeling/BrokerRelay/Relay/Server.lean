import BrokerRelay.Relay.Connection
import BrokerRelay.Relay.Listener
/-!
# Servers

A server is built once from the configuration, so that bad key material and bad names fail before
anything listens; then it binds its address and serves until it is shut down.
-/

namespace BrokerRelay.Relay

/-- A relay that can serve. -/
structure Server where
  settings : Config.Settings
  tls : Option Tls.ListenerSettings
  chain : Dial.Chain
deriving DecidableEq, Repr

namespace Server

/-- Builds the TLS settings towards clients, if there are any. -/
def buildTls (storage : Storage) (env : Environment) :
    Option Config.ListenerTls → Logged TlsFailure (Option Tls.ListenerSettings)
  | none => pure none
  | some t => some <$> Tls.ListenerSettings.build storage env t

/-- Builds a server: first what it needs towards clients, then towards the broker. -/
def build (storage : Storage) (env : Environment) (s : Config.Settings) :
    Logged RelayFailure Server :=
  Logged.mapFailure .tls do
    let tls ← buildTls storage env s.listen.tls
    let chain ← Dial.Chain.build storage env s.broker
    pure ⟨s, tls, chain⟩

/-! ## Binding -/

/-- A host without brackets around an IPv6 literal; other brackets stay. -/
def literalHost (host : List Char) : List Char :=
  let inner := HostPort.unbracketed host
  if ((IpAddress.ofChars? inner).map (·.isV4)) == some false then inner else host

/-- The addresses that a listen address stands for. -/
def listenAddresses (net : Dial.Network) (address : String) :
    Dial.Activity (Except IoFailure (List Dial.SocketAddress)) :=
  match Text.cutLast? ':' address.toList with
  | none => .now (.error .invalidSocketAddress)
  | some (host, port) =>
    match HostPort.port? port with
    | none => .now (.error .invalidPort)
    | some p =>
      (Dial.Activity.waiting (net.resolve (literalHost host))).map
        (·.map fun ips => ips.map fun ip => ⟨ip, p⟩)

/-- Listens on the first address that can be bound; `last` is the failure so far. -/
def bindFirst (net : Dial.Network) :
    List Dial.SocketAddress → IoFailure → Except IoFailure Dial.SocketAddress
  | [], last => .error last
  | a :: others, _ =>
    match net.bind a with
    | .ok chosen => .ok chosen
    | .error e => bindFirst net others e

/-- Binds the configured address. -/
def bind (s : Server) (net : Dial.Network) : Dial.Activity (Except RelayFailure Dial.SocketAddress) :=
  (listenAddresses net s.settings.listen.address).map fun r =>
    (r.bind (bindFirst net · .noListenAddress)).mapError .connection

/-- The event that a server listens. -/
def listening (s : Server) (address : Dial.SocketAddress) : LogEvent :=
  ⟨.info, .listener, "proxy listening", [("address", address.text),
    ("tls", Text.truth s.tls.isSome), ("upstream", s.settings.broker.address)]⟩

/-- The event that a server stops. -/
def stopping : LogEvent := ⟨.info, .listener, "shutdown signal received", []⟩

/-- The listener of a server. -/
def listener (s : Server) : Listener := .new (UInt64.ofNat s.settings.listen.maxConnections)

end Server

end BrokerRelay.Relay

import BrokerRelay.Config.Basic
import BrokerRelay.Text.Quoted
/-!
# Configurations on display

The written form of a configuration for logs and reports. Passwords are never shown: a stated one is
shown as `<redacted>`.
-/

namespace BrokerRelay.Config

open Text

/-- A stated secret without what it says. -/
def redacted (s : Option String) : String := optional (s.map fun _ => quoted "<redacted>")

/-- An optional text. -/
def optionalText (s : Option String) : String := optional (s.map quoted)

/-- An optional path. -/
def optionalPath (s : Option String) : String := optional (s.map quotedPath)

/-- TLS for accepted connections. -/
def ListenerTls.display (t : ListenerTls) : String :=
  record "ListenerTlsConfig" [
    ("cert_path", quotedPath t.certPath),
    ("key_path", quotedPath t.keyPath),
    ("key_password", redacted t.keyPassword),
    ("ca_chain_path", optionalPath t.caChainPath),
    ("cipher_suites", quotedList t.cipherSuites),
    ("curve_preferences", quotedList t.curves)] true

/-- The client-facing side. -/
def Listen.display (l : Listen) : String :=
  record "ListenConfig" [
    ("address", quoted l.address),
    ("max_connections", toString l.maxConnections),
    ("tls_handshake_timeout_ms", toString l.handshakeTimeoutMs),
    ("tls", optional (l.tls.map ListenerTls.display))] true

/-- TLS towards the broker. -/
def ClientTls.display (t : ClientTls) : String :=
  record "ClientTlsConfig" [
    ("enabled", truth t.enabled),
    ("cert_path", optionalPath t.certPath),
    ("key_path", optionalPath t.keyPath),
    ("key_password", redacted t.keyPassword),
    ("ca_chain_path", optionalPath t.caChainPath),
    ("insecure_skip_verify", truth t.skipVerify),
    ("handshake_timeout_ms", toString t.handshakeTimeoutMs),
    ("cipher_suites", quotedList t.cipherSuites),
    ("curve_preferences", quotedList t.curves)] true

/-- The protocol of a forward proxy. -/
def ProxyProtocol.display : ProxyProtocol → String
  | .socks5 => "Socks5"
  | .http => "Http"

/-- A forward proxy. -/
def ForwardProxy.display (p : ForwardProxy) : String :=
  record "ForwardProxyConfig" [
    ("protocol", p.protocol.display),
    ("network", quoted p.network),
    ("address", quoted p.address),
    ("username", optionalText p.username),
    ("password", redacted p.password),
    ("handshake_timeout_ms", toString p.handshakeTimeoutMs)] true

/-- The broker and the way to it. -/
def Broker.display (b : Broker) : String :=
  record "KafkaConfig" [
    ("address", quoted b.address),
    ("dial_timeout_ms", toString b.dialTimeoutMs),
    ("keep_alive_secs", toString b.keepAliveSecs),
    ("tls", optional (b.tls.map ClientTls.display)),
    ("forward_proxy", optional (b.forwardProxy.map ForwardProxy.display))] true

/-- What is logged. -/
def Logging.display (l : Logging) : String :=
  record "LoggingConfig" [("level", quoted l.level), ("json", truth l.json)] true

/-- A whole configuration. -/
def Settings.display (s : Settings) : String :=
  record "ProxyConfig" [
    ("listen", s.listen.display),
    ("kafka", s.broker.display),
    ("logging", s.logging.display)] true

end BrokerRelay.Config

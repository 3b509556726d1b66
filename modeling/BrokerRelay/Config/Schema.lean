import BrokerRelay.Config.Basic
import BrokerRelay.Yaml.Node.Grammar
import BrokerRelay.Yaml.Reader
/-!
# The shape of a configuration document

The fields of each section with their names, their types and what happens when they are left out.
-/

namespace BrokerRelay.Config

open Yaml Yaml.Reader

/-- A text. -/
def textValue : Reader String := text "a string"

/-- A path. -/
def pathValue : Reader String := text "path string"

/-- A number of milliseconds or seconds. -/
def timeValue : Reader Nat := word "u64"

/-- TLS for accepted connections. -/
def ListenerTls.reader : Reader ListenerTls :=
  record "ListenerTlsConfig" [
    field "cert_path" false pathValue fun v t => { t with certPath := v },
    field "key_path" false pathValue fun v t => { t with keyPath := v },
    field "key_password" false (optional textValue) fun v t => { t with keyPassword := v },
    field "ca_chain_path" false (optional pathValue) fun v t => { t with caChainPath := v },
    field "cipher_suites" false (list textValue) fun v t => { t with cipherSuites := v },
    field "curve_preferences" false (list textValue) fun v t => { t with curves := v }]
    .default

/-- The client-facing side. -/
def Listen.reader : Reader Listen :=
  record "ListenConfig" [
    field "address" false textValue fun v l => { l with address := v },
    field "max_connections" false (word "usize") fun v l => { l with maxConnections := v },
    field "tls_handshake_timeout_ms" false timeValue fun v l => { l with handshakeTimeoutMs := v },
    field "tls" false (optional ListenerTls.reader) fun v l => { l with tls := v }]
    .default

/-- TLS towards the broker. -/
def ClientTls.reader : Reader ClientTls :=
  record "ClientTlsConfig" [
    field "enabled" false bool fun v t => { t with enabled := v },
    field "cert_path" false (optional pathValue) fun v t => { t with certPath := v },
    field "key_path" false (optional pathValue) fun v t => { t with keyPath := v },
    field "key_password" false (optional textValue) fun v t => { t with keyPassword := v },
    field "ca_chain_path" false (optional pathValue) fun v t => { t with caChainPath := v },
    field "insecure_skip_verify" false bool fun v t => { t with skipVerify := v },
    field "handshake_timeout_ms" false timeValue fun v t => { t with handshakeTimeoutMs := v },
    field "cipher_suites" false (list textValue) fun v t => { t with cipherSuites := v },
    field "curve_preferences" false (list textValue) fun v t => { t with curves := v }]
    .default

/-- The protocols of a forward proxy by name. -/
def ProxyProtocol.names : List (String × ProxyProtocol) := [("socks5", .socks5), ("http", .http)]

/-- A forward proxy. -/
def ForwardProxy.reader : Reader ForwardProxy :=
  record "ForwardProxyConfig" [
    field "protocol" true (variant ProxyProtocol.names) fun v p => { p with protocol := v },
    field "network" false textValue fun v p => { p with network := v },
    field "address" true textValue fun v p => { p with address := v },
    field "username" false (optional textValue) fun v p => { p with username := v },
    field "password" false (optional textValue) fun v p => { p with password := v },
    field "handshake_timeout_ms" false timeValue fun v p => { p with handshakeTimeoutMs := v }]
    .default

/-- The broker and the way to it. -/
def Broker.reader : Reader Broker :=
  record "KafkaConfig" [
    field "address" true textValue fun v b => { b with address := v },
    field "dial_timeout_ms" false timeValue fun v b => { b with dialTimeoutMs := v },
    field "keep_alive_secs" false timeValue fun v b => { b with keepAliveSecs := v },
    field "tls" false (optional ClientTls.reader) fun v b => { b with tls := v },
    field "forward_proxy" false (optional ForwardProxy.reader) fun v b =>
      { b with forwardProxy := v }]
    .default

/-- What is logged. -/
def Logging.reader : Reader Logging :=
  record "LoggingConfig" [
    field "level" false textValue fun v l => { l with level := v },
    field "json" false bool fun v l => { l with json := v }]
    .default

/-- A whole configuration. -/
def Settings.reader : Reader Settings :=
  record "ProxyConfig" [
    field "listen" true Listen.reader fun v s => { s with listen := v },
    field "kafka" true Broker.reader fun v s => { s with broker := v },
    field "logging" false Logging.reader fun v s => { s with logging := v }]
    .default

/-- Reads a value from the root of a document. -/
def ofDocument {α : Type} (reader : Reader α) (d : Document) : Except ReadFault α :=
  reader d [] d.root

end BrokerRelay.Config

import BrokerRelay.Duration
import BrokerRelay.Environment
/-!
# Configuration

What an operator states: where to listen, which broker to reach and how, and what to log. Passwords
are kept as they are written; references to environment variables in them are expanded only when a
password is used. An empty path counts as no path.
-/

namespace BrokerRelay.Config

/-- TLS for accepted connections. A CA chain asks clients for certificates. -/
structure ListenerTls where
  certPath : String
  keyPath : String
  keyPassword : Option String
  caChainPath : Option String
  cipherSuites : List String
  curves : List String
deriving DecidableEq, Repr

/-- The client-facing side. -/
structure Listen where
  address : String
  maxConnections : Nat
  handshakeTimeoutMs : Nat
  tls : Option ListenerTls
deriving DecidableEq, Repr

/-- TLS towards the broker. A certificate and a key identify this side; a CA chain replaces the
bundled roots. -/
structure ClientTls where
  enabled : Bool
  certPath : Option String
  keyPath : Option String
  keyPassword : Option String
  caChainPath : Option String
  skipVerify : Bool
  handshakeTimeoutMs : Nat
  cipherSuites : List String
  curves : List String
deriving DecidableEq, Repr

/-- The protocol of a forward proxy. -/
inductive ProxyProtocol where
  | socks5
  | http
deriving DecidableEq, Repr

/-- A forward proxy on the way to the broker. -/
structure ForwardProxy where
  protocol : ProxyProtocol
  network : String
  address : String
  username : Option String
  password : Option String
  handshakeTimeoutMs : Nat
deriving DecidableEq, Repr

/-- The broker and the way to it. -/
structure Broker where
  address : String
  dialTimeoutMs : Nat
  keepAliveSecs : Nat
  tls : Option ClientTls
  forwardProxy : Option ForwardProxy
deriving DecidableEq, Repr

/-- What is logged. -/
structure Logging where
  level : String
  json : Bool
deriving DecidableEq, Repr

/-- A whole configuration. -/
structure Settings where
  listen : Listen
  broker : Broker
  logging : Logging
deriving DecidableEq, Repr

/-! ## Defaults -/

/-- The deadline of a handshake when none is stated. -/
def defaultHandshakeTimeoutMs : Nat := 10000

/-- TLS for accepted connections with nothing stated. -/
def ListenerTls.default : ListenerTls := ⟨"", "", none, none, [], []⟩

/-- The client-facing side with nothing stated. -/
def Listen.default : Listen := ⟨"0.0.0.0:32400", 1000, defaultHandshakeTimeoutMs, none⟩

/-- TLS towards the broker with nothing stated: it is on. -/
def ClientTls.default : ClientTls :=
  ⟨true, none, none, none, none, false, defaultHandshakeTimeoutMs, [], []⟩

/-- A forward proxy before its protocol and address are known. -/
def ForwardProxy.default : ForwardProxy :=
  ⟨.socks5, "tcp", "", none, none, defaultHandshakeTimeoutMs⟩

/-- A broker before its address is known. -/
def Broker.default : Broker := ⟨"", 15000, 60, none, none⟩

/-- Logging with nothing stated. -/
def Logging.default : Logging := ⟨"info", false⟩

/-- A configuration before its sections are known. -/
def Settings.default : Settings := ⟨.default, .default, .default⟩

/-! ## What the values mean -/

/-- An empty path counts as unset. -/
def nonEmpty (path : Option String) : Option String := path.filter (· != "")

/-- A secret with its references expanded; an unset one is empty. -/
def secret (env : Environment) (s : Option String) : String := (s.map env.expand).getD ""

/-- The password of the listener's key. -/
def ListenerTls.password (t : ListenerTls) (env : Environment) : String := secret env t.keyPassword

/-- The CA chain that clients are checked against. -/
def ListenerTls.caChain (t : ListenerTls) : Option String := nonEmpty t.caChainPath

/-- The deadline of an accepted connection's TLS handshake. -/
def Listen.handshakeTimeout (l : Listen) : Duration := .ofMillis l.handshakeTimeoutMs

/-- The password of the client's key. -/
def ClientTls.password (t : ClientTls) (env : Environment) : String := secret env t.keyPassword

/-- The CA chain that replaces the bundled roots. -/
def ClientTls.caChain (t : ClientTls) : Option String := nonEmpty t.caChainPath

/-- The deadline of a dial and its TLS handshake together. -/
def ClientTls.handshakeTimeout (t : ClientTls) : Duration := .ofMillis t.handshakeTimeoutMs

/-- The deadline of a connect attempt. -/
def Broker.dialTimeout (b : Broker) : Duration := .ofMillis b.dialTimeoutMs

/-- The interval of keep-alive probes. -/
def Broker.keepAlive (b : Broker) : Duration := .ofSecs b.keepAliveSecs

/-- TLS towards the broker, when it is stated and on. -/
def Broker.enabledTls (b : Broker) : Option ClientTls := b.tls.filter (·.enabled)

/-- The deadline of a negotiation with the forward proxy. -/
def ForwardProxy.handshakeTimeout (p : ForwardProxy) : Duration := .ofMillis p.handshakeTimeoutMs

/-- A user name and a password, neither of them empty. -/
structure Credentials where
  username : String
  password : String
  username_ne : username ≠ ""
  password_ne : password ≠ ""
deriving DecidableEq, Repr

/-- A user name and a password, if neither is empty. -/
def Credentials.of? (username password : String) : Option Credentials :=
  if h : username ≠ "" ∧ password ≠ "" then some ⟨username, password, h.1, h.2⟩ else none

/-- The files that a configuration names. -/
def Settings.files (s : Settings) : List String :=
  let listener := match s.listen.tls with
    | some t => [t.certPath, t.keyPath] ++ t.caChain.toList
    | none => []
  let client := match s.broker.enabledTls with
    | some t => (nonEmpty t.certPath).toList ++ (nonEmpty t.keyPath).toList ++ t.caChain.toList
    | none => []
  listener ++ client

/-- The variables that the secrets of a configuration mention. -/
def Settings.variables (s : Settings) : List String :=
  let secrets :=
    [s.listen.tls.bind (·.keyPassword), s.broker.tls.bind (·.keyPassword),
      s.broker.forwardProxy.bind (·.username), s.broker.forwardProxy.bind (·.password)]
  secrets.flatMap fun secret => Environment.mentioned (secret.getD "").toList

/-- The credentials for the forward proxy: only if both parts are stated and not empty. -/
def ForwardProxy.credentials (p : ForwardProxy) (env : Environment) : Option Credentials := do
  let username ← p.username.map env.expand
  let password ← p.password.map env.expand
  Credentials.of? username password

end BrokerRelay.Config

/-!
# Log events

What is worth telling an operator, as data: how grave it is, which part of the program says so, a
message and named details. A computation that may log keeps its events also when it fails. Whether an
event is shown is decided elsewhere.
-/

namespace BrokerRelay

/-- How grave an event is. -/
inductive LogLevel where
  | trace
  | debug
  | info
  | warn
  | error
deriving DecidableEq, Repr

/-- The written form of a level. -/
def LogLevel.text : LogLevel → String
  | .trace => "TRACE"
  | .debug => "DEBUG"
  | .info => "INFO"
  | .warn => "WARN"
  | .error => "ERROR"

/-- The rank of a level: graver ones are lower. -/
def LogLevel.rank : LogLevel → Nat
  | .error => 1
  | .warn => 2
  | .info => 3
  | .debug => 4
  | .trace => 5

/-- The part of the program that an event comes from. -/
inductive LogSource where
  | program
  | listener
  | connection
  | chain
  | direct
  | socks5
  | httpConnect
  | tlsDial
  | keyFiles
  | listenerTls
  | clientTls
  | ciphers
deriving DecidableEq, Repr

/-- The name that a source has in log lines and log filters. -/
def LogSource.target : LogSource → String
  | .program => "kafka_proxy"
  | .listener => "kafka_proxy_core::network::listener"
  | .connection => "kafka_proxy_core::network::connection"
  | .chain => "kafka_proxy_core::dial"
  | .direct => "kafka_proxy_core::dial::direct"
  | .socks5 => "kafka_proxy_core::dial::socks5"
  | .httpConnect => "kafka_proxy_core::dial::http_connect"
  | .tlsDial => "kafka_proxy_core::dial::tls"
  | .keyFiles => "kafka_proxy_core::tls::certs"
  | .listenerTls => "kafka_proxy_core::tls::server"
  | .clientTls => "kafka_proxy_core::tls::client"
  | .ciphers => "kafka_proxy_core::tls::ciphers"

/-- An event with its message and named details. -/
structure LogEvent where
  level : LogLevel
  source : LogSource
  message : String
  details : List (String × String)
deriving DecidableEq, Repr

/-- The event is a warning or an error. -/
def LogEvent.isGrave (e : LogEvent) : Bool := e.level.rank ≤ LogLevel.warn.rank

/-- A computation that logs events and may fail. -/
abbrev Logged (ε : Type) := ExceptT ε (StateM (List LogEvent))

namespace Logged

/-- Logs an event. -/
def event {ε : Type} (e : LogEvent) : Logged ε Unit := modify (· ++ [e])

/-- A result that logs nothing. -/
def ofExcept {ε α : Type} (r : Except ε α) : Logged ε α := r

/-- Changes the failure of a computation. -/
def mapFailure {ε ε' α : Type} (f : ε → ε') (x : Logged ε α) : Logged ε' α :=
  fun log => (x log).map (·.mapError f) id

/-- The result of a computation and the events it logged. -/
def outcome {ε α : Type} (x : Logged ε α) : Except ε α × List LogEvent := x.run []

end Logged

end BrokerRelay

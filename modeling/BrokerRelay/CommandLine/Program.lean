import BrokerRelay.CommandLine.Arguments
import BrokerRelay.CommandLine.LogFilter
import BrokerRelay.Relay.Server
/-!
# The program

One run of the program from its arguments to its exit: read the arguments, load the configuration, set
up logging, build the server and serve until a signal asks for an end. Everything that the run meets
is given as data, and everything that it shows is in its report.
-/

namespace BrokerRelay.CommandLine

/-- The version of the program. -/
def version : String := "0.1.0"

/-- What the help shows. -/
def help : String :=
  "Kafka TCP forwarding proxy with TLS listener, TLS upstream and forward-proxy support\n\n"
    ++ "Usage: kafka-proxy [OPTIONS]\n\nOptions:\n"
    ++ "  -c, --config <CONFIG>  Path to configuration file [default: config.yaml]\n"
    ++ "      --listen <LISTEN>  Override listen address\n"
    ++ "  -v, --verbose...       Increase logging verbosity (-v for debug, -vv for trace)\n"
    ++ "  -h, --help             Print help\n"
    ++ "  -V, --version          Print version\n"

/-- The configuration file when none is named. -/
def defaultConfig : String := "config.yaml"

/-- What a run meets. -/
structure World where
  storage : Storage
  environment : Environment
  network : Dial.Network

/-- What a run shows: its exit code, what it writes, and the events that its filter lets through, as
JSON or not. -/
structure Report where
  exitCode : Nat
  stdout : String
  stderr : String
  events : List LogEvent
  json : Bool
deriving DecidableEq, Repr

/-! ## Failures -/

/-- Indents every line of a text after the first. -/
def hanging (indent text : String) : String := ("\n" ++ indent).intercalate (text.splitOn "\n")

/-- A number before a cause, right-aligned. -/
def causeNumber (n : Nat) : String :=
  let digits := s!"{n}"
  String.ofList (List.replicate (5 - digits.length) ' ') ++ digits ++ ": "

/-- The causes of a failure, numbered if there are several. -/
def causesText : List String → String
  | [] => ""
  | [cause] => "\n\nCaused by:\n    " ++ hanging "    " cause
  | causes =>
    "\n\nCaused by:" ++ String.join (causes.zipIdx.map fun (cause, n) =>
      "\n" ++ causeNumber n ++ hanging "       " cause)

/-- What is written about a failure that ends the program. -/
def failureText (message : String) (causes : List String) : String :=
  "Error: " ++ message ++ causesText causes ++ "\n"

/-! ## Logging -/

/-- The rank that a configured level shows; any other text counts as `info`. -/
def configuredRank (level : String) : Nat :=
  let name := String.ofList (lowered level.toList)
  if name = "trace" then 5 else if name = "debug" then 4 else if name = "warn" then 2
  else if name = "error" then 1 else 3

/-- The level after the verbosity asked for. -/
def effectiveLevel (verbosity : Nat) (configured : String) : String :=
  match verbosity with
  | 0 => configured
  | 1 => "debug"
  | _ => "trace"

/-- The environment variable with log directives. -/
def filterVariable : String := "RUST_LOG"

/-- The filter of a run, and the parts of the environment's directives that are none. -/
def filterOf (env : Environment) (level : String) :
    LogFilter × List (String × DirectiveFault) :=
  let (filter, bad) := LogFilter.parse ((env.get? filterVariable).getD "")
  (filter.add ⟨"", configuredRank level⟩, bad)

/-- What is written about directives that are none. -/
def ignoredText (bad : List (String × DirectiveFault)) : String :=
  String.join (bad.map fun (part, fault) =>
    "ignoring \x60" ++ part ++ "\x60: " ++ fault.message ++ "\n")

/-! ## The run -/

/-- The event that the program starts. -/
def starting (s : Config.Settings) : LogEvent :=
  let proxy := s.broker.forwardProxy.map fun p =>
    match p.protocol with
    | .socks5 => "Socks5"
    | .http => "Http"
  ⟨.info, .program, "starting kafka proxy", [("version", version),
    ("listen", s.listen.address), ("listener_tls", Text.truth s.listen.tls.isSome),
    ("upstream", s.broker.address), ("upstream_tls", Text.truth s.broker.enabledTls.isSome),
    ("forward_proxy", Text.optional proxy)]⟩

/-- The event that a signal has come. -/
def signalled : LogEvent := ⟨.info, .program, "shutdown signal received, stopping proxy", []⟩

/-- The event that the program ends. -/
def finished : LogEvent := ⟨.info, .program, "proxy shutdown complete", []⟩

/-- Serves until a signal comes. -/
def serve (w : World) (s : Config.Settings) : Logged RelayFailure Unit := do
  Logged.event (starting s)
  let server ← Relay.Server.build w.storage w.environment s
  match (server.bind w.network).value? with
  | none => pure ()
  | some (.error e) => throw e
  | some (.ok address) =>
    Logged.event (server.listening address)
    Logged.event signalled
    Logged.event Relay.Server.stopping
    Logged.event finished

/-- The configuration that the options ask for. -/
def loadSettings (w : World) (o : Options) : Except ConfigFailure Config.Settings := do
  let s ← Config.Settings.ofFile w.storage (o.config.getD defaultConfig)
  match o.listen with
  | some address => s.listenAt address
  | none => return s

/-- Runs with options. -/
def runWith (w : World) (o : Options) : Report :=
  match loadSettings w o with
  | .error e => ⟨1, "", failureText e.message e.sources, [], false⟩
  | .ok s =>
    let (filter, bad) := filterOf w.environment (effectiveLevel o.verbosity s.logging.level)
    let (result, events) := (serve w s).outcome
    let shown := events.filter filter.shows
    match result with
    | .ok () => ⟨0, "", ignoredText bad, shown, s.logging.json⟩
    | .error e => ⟨1, "", ignoredText bad ++ failureText e.message e.sources, shown, s.logging.json⟩

/-- Runs the program. -/
def run (w : World) (args : List String) : Report :=
  match Wish.ofArguments args with
  | .error f => ⟨2, "", f.message, [], false⟩
  | .ok .showHelp => ⟨0, help, "", [], false⟩
  | .ok .showVersion => ⟨0, "kafka-proxy " ++ version ++ "\n", "", [], false⟩
  | .ok (.run o) => runWith w o

end BrokerRelay.CommandLine

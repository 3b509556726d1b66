import BrokerRelay.Address.HostPort
import BrokerRelay.Config.Schema
import BrokerRelay.Failure.Config
import BrokerRelay.Storage
/-!
# Loading a configuration

A configuration is read from a text that is one document, and accepted only if every address in it
names a host and a port. Key material is not looked at here.
-/

namespace BrokerRelay.Config

/-- Splits an address of the configuration. -/
def splitAddress (address : String) : Except ConfigFailure HostPort :=
  match HostPort.ofString? address with
  | some a => .ok a
  | none => .error (.invalidAddress address)

/-- Checks the addresses of a configuration: of the listener, the broker and the forward proxy. -/
def Settings.validate (s : Settings) : Except ConfigFailure Unit := do
  let _ ← splitAddress s.listen.address
  let _ ← splitAddress s.broker.address
  match s.broker.forwardProxy with
  | some p => let _ ← splitAddress p.address
  | none => pure ()

/-- Reads a configuration without checking its addresses. -/
def Settings.parse (text : String) : Except ParseFailure Settings :=
  match Yaml.Document.ofText text.toList with
  | .error fault => .error (.illFormed fault)
  | .ok d =>
    match ofDocument Settings.reader d with
    | .error fault => .error (.unfit fault)
    | .ok s => .ok s

/-- Reads and checks a configuration. -/
def Settings.ofText (text : String) : Except ConfigFailure Settings := do
  let s ← (Settings.parse text).mapError .unparsable
  s.validate
  return s

/-- Reads and checks the configuration in a file. -/
def Settings.ofFile (storage : Storage) (path : String) : Except ConfigFailure Settings := do
  let text ← (storage.readText path).mapError (.unreadable path)
  Settings.ofText text

/-- A configuration that listens elsewhere. It is checked again. -/
def Settings.listenAt (s : Settings) (address : String) : Except ConfigFailure Settings := do
  let s := { s with listen := { s.listen with address := address } }
  s.validate
  return s

/-- The client's certificate and key: both or neither. -/
def ClientTls.keyPair (t : ClientTls) : Except ConfigFailure (Option (String × String)) :=
  match nonEmpty t.certPath, nonEmpty t.keyPath with
  | some cert, some key => .ok (some (cert, key))
  | none, none => .ok none
  | _, _ => .error .incompleteClientKeyPair

end BrokerRelay.Config

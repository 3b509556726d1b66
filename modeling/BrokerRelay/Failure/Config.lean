import BrokerRelay.Failure.Io
import BrokerRelay.Text.Quoted
import BrokerRelay.Yaml.Reader
/-!
# Configuration failures

Why a configuration cannot be used, with the text of each cause.
-/

namespace BrokerRelay

/-- Why a configuration text was refused: it is no document, it does not fit, or a stated reason. -/
inductive ParseFailure where
  | illFormed (fault : Yaml.SyntaxFault)
  | unfit (fault : Yaml.ReadFault)
  | stated (text : String)
deriving DecidableEq, Repr

/-- The text of a refusal. -/
def ParseFailure.message : ParseFailure → String
  | .illFormed fault => fault.message
  | .unfit fault => fault.message
  | .stated text => text

/-- Why a configuration cannot be used. -/
inductive ConfigFailure where
  | unreadable (path : String) (cause : IoFailure)
  | unparsable (cause : ParseFailure)
  | invalidAddress (address : String)
  | missingListenerKeyPair
  | incompleteClientKeyPair
  | unknownCipherSuite (name : String)
  | unknownCurve (name : String)
  | noUsableCurves (names : List String)
deriving DecidableEq, Repr

namespace ConfigFailure

/-- The text of a failure. -/
def message : ConfigFailure → String
  | .unreadable path cause => s!"failed to read config file '" ++ path ++ "': " ++ cause.message
  | .unparsable cause => "failed to parse config: " ++ cause.message
  | .invalidAddress address => "invalid address format: " ++ address ++ " (expected 'host:port')"
  | .missingListenerKeyPair => "listener key and cert files must not be empty"
  | .incompleteClientKeyPair => "client cert and key files must be configured together"
  | .unknownCipherSuite name => "invalid cipher suite '" ++ name ++ "' selected"
  | .unknownCurve name => "invalid curve '" ++ name ++ "' selected"
  | .noUsableCurves names =>
    "none of the configured curves is supported: " ++ Text.quotedList names

/-- The texts of what lies behind a failure. -/
def sources : ConfigFailure → List String
  | .unreadable _ cause => [cause.message]
  | .unparsable cause => [cause.message]
  | _ => []

end ConfigFailure

end BrokerRelay

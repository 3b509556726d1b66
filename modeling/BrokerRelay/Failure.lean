import BrokerRelay.Duration
import BrokerRelay.Failure.Config
/-!
# Failures

Why key material, TLS settings, a dial or the relay failed. A failure that wraps another keeps it, so
that both the text and the kind of the inner one stay visible.
-/

namespace BrokerRelay

/-- Why key material cannot be used. -/
inductive KeyFailure where
  | malformedPem (reason : String)
  | encryptedWithoutPassword
  | decryptionFailed
  | unsupportedCipher (name : String)
  | mismatch (reason : String)
deriving DecidableEq, Repr

/-- The text of a failure. -/
def KeyFailure.message : KeyFailure → String
  | .malformedPem reason => "failed to parse PEM: " ++ reason
  | .encryptedWithoutPassword => "PEM is encrypted, but password is empty"
  | .decryptionFailed => "PEM decryption failed (incorrect password?)"
  | .unsupportedCipher name => "unsupported PEM encryption algorithm '" ++ name ++ "'"
  | .mismatch reason => "certificate and private key do not match: " ++ reason

/-- Why TLS settings cannot be built. -/
inductive TlsFailure where
  | config (cause : ConfigFailure)
  | key (cause : KeyFailure)
  | unreadable (path : String) (cause : IoFailure)
  | noCertificates (path : String)
  | noPrivateKeys (path : String)
  | setup (reason : String)
deriving DecidableEq, Repr

namespace TlsFailure

/-- The text of a failure; a wrapped one keeps its own. -/
def message : TlsFailure → String
  | .config cause => cause.message
  | .key cause => cause.message
  | .unreadable path cause => "failed to read '" ++ path ++ "': " ++ cause.message
  | .noCertificates path => "no valid certificates found in " ++ path
  | .noPrivateKeys path => "no valid private key found in " ++ path
  | .setup reason => "TLS setup failed: " ++ reason

/-- The texts of what lies behind a failure. -/
def sources : TlsFailure → List String
  | .config cause => cause.sources
  | .unreadable _ cause => [cause.message]
  | _ => []

end TlsFailure

/-- Why a dial attempt failed. -/
inductive DialFailure where
  | timeout (address : String) (after : Duration)
  | refused (address : String)
  | unreachable (address : String) (cause : IoFailure)
  | unsupportedNetwork (network : String)
  | invalidAddress (address : String)
  | proxyUnreachable (proxy : String) (cause : DialFailure)
  | proxyAuthRejected (proxy : String) (reason : String)
  | proxyRefused (proxy : String) (target : String) (reply : UInt8) (reason : String)
  | proxyHandshakeFailed (proxy : String) (reason : String)
  | tlsHandshakeFailed (address : String) (reason : String)
deriving DecidableEq, Repr

namespace DialFailure

/-- The text of a failure. -/
def message : DialFailure → String
  | .timeout address after => "dial " ++ address ++ ": i/o timeout after " ++ after.text
  | .refused address => "dial " ++ address ++ ": connection refused"
  | .unreachable address cause => "dial " ++ address ++ ": " ++ cause.message
  | .unsupportedNetwork network => "unsupported network '" ++ network ++ "'"
  | .invalidAddress address => "invalid address '" ++ address ++ "'"
  | .proxyUnreachable proxy cause =>
    "forward proxy " ++ proxy ++ " unreachable: " ++ cause.message
  | .proxyAuthRejected proxy reason =>
    "forward proxy " ++ proxy ++ " rejected authentication: " ++ reason
  | .proxyRefused proxy target reply reason =>
    "forward proxy " ++ proxy ++ " refused connect to " ++ target ++ ": " ++ reason
      ++ s!" (reply {reply.toNat})"
  | .proxyHandshakeFailed proxy reason =>
    "forward proxy " ++ proxy ++ " handshake failed: " ++ reason
  | .tlsHandshakeFailed address reason =>
    "TLS handshake with " ++ address ++ " failed: " ++ reason

/-- The failure arose at the forward proxy: reaching it or negotiating with it. -/
def isProxyFailure : DialFailure → Bool
  | .proxyUnreachable .. | .proxyAuthRejected .. | .proxyRefused .. | .proxyHandshakeFailed .. =>
    true
  | _ => false

/-- The texts of what lies behind a failure. -/
def sources : DialFailure → List String
  | .unreachable _ cause => [cause.message]
  | .proxyUnreachable _ cause => cause.message :: cause.sources
  | _ => []

end DialFailure

/-- Why the relay could not start or a connection ended. -/
inductive RelayFailure where
  | connection (cause : IoFailure)
  | dial (cause : DialFailure)
  | tls (cause : TlsFailure)
  | tlsAccept (peer : String) (reason : String)
  | shutdown
deriving DecidableEq, Repr

namespace RelayFailure

/-- The text of a failure. -/
def message : RelayFailure → String
  | .connection cause => "connection error: " ++ cause.message
  | .dial cause => "upstream dial failed: " ++ cause.message
  | .tls cause => "TLS configuration error: " ++ cause.message
  | .tlsAccept peer reason => "TLS accept from " ++ peer ++ " failed: " ++ reason
  | .shutdown => "proxy shutting down"

/-- The texts of what lies behind a failure. -/
def sources : RelayFailure → List String
  | .connection cause => [cause.message]
  | .dial cause => cause.message :: cause.sources
  | .tls cause => cause.message :: cause.sources
  | _ => []

end RelayFailure

end BrokerRelay

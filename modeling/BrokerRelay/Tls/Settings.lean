import BrokerRelay.Config.Load
import BrokerRelay.Tls.Identity
import BrokerRelay.Tls.Provider
/-!
# TLS settings

What both sides of the relay need for handshakes: as a server towards clients and as a client towards
the broker. Settings are built from the configuration, the environment and the files, or not at all:
nothing that cannot be read ever makes the policy weaker than configured.

Towards clients, a CA chain makes a client certificate mandatory. Towards the broker, its certificate
is checked against the configured CA chain or else the bundled roots, unless checking is switched off
in so many words.
-/

namespace BrokerRelay.Tls

/-- The parameters that both sides resolve alike. -/
structure Parameters where
  suites : List CipherSuite
  curves : List Curve
  provider : Provider
deriving DecidableEq, Repr

/-- Resolves the names of suites and curves. -/
def Parameters.resolve (suites curves : List String) : Logged TlsFailure Parameters :=
  Logged.mapFailure .config do
    let suites ← Logged.ofExcept (CipherSuite.resolve suites)
    let curves ← Logged.ofExcept (Curve.resolve curves)
    let provider ← Provider.restricted suites curves
    pure ⟨suites, curves, provider⟩

/-- The written form of the resolved names, as fields of a record. -/
def Parameters.fields (p : Parameters) : List (String × String) := [
  ("cipher_suites", Text.bracketed (p.suites.map CipherSuite.display)),
  ("curves", Text.bracketed (p.curves.map Curve.display))]

/-! ## Towards clients -/

/-- Whether clients need a certificate, and what it is checked against. -/
inductive ClientAuth where
  | none
  | requireAndVerify (trusted : TrustPool)
deriving DecidableEq, Repr

/-- The written form of a policy. -/
def ClientAuth.display : ClientAuth → String
  | .none => "None"
  | .requireAndVerify _ => "RequireAndVerify"

/-- The settings of a listener. It follows its own order of suites, not the client's. -/
structure ListenerSettings where
  parameters : Parameters
  identity : Identity
  clientAuth : ClientAuth
  ignoreClientOrder : Bool
deriving DecidableEq, Repr

/-- The policy towards clients. -/
def ClientAuth.load (storage : Storage) (caChain : Option String) : Logged TlsFailure ClientAuth :=
  match caChain with
  | some path => do
    Logged.event ⟨.debug, .listenerTls, "configuring mTLS with client certificate verification",
      [("ca_path", path)]⟩
    pure (.requireAndVerify (← TrustPool.load storage path))
  | .none => do
    Logged.event
      ⟨.debug, .listenerTls, "configuring TLS without client certificate verification", []⟩
    pure .none

/-- Builds the settings of a listener. -/
def ListenerSettings.build (storage : Storage) (env : Environment) (t : Config.ListenerTls) :
    Logged TlsFailure ListenerSettings := do
  if t.certPath.isEmpty || t.keyPath.isEmpty then throw (.config .missingListenerKeyPair)
  let parameters ← Parameters.resolve t.cipherSuites t.curves
  let identity ← Identity.load storage t.certPath t.keyPath (t.password env)
  let clientAuth ← ClientAuth.load storage t.caChain
  Logged.ofExcept identity.check
  Logged.event ⟨.info, .listenerTls, "TLS listener settings built",
    [("cert", t.certPath), ("client_auth", clientAuth.display)]⟩
  pure ⟨parameters, identity, clientAuth, true⟩

/-- The written form of a listener's settings. -/
def ListenerSettings.display (s : ListenerSettings) : String :=
  Text.record "TlsListenerSettings"
    (s.parameters.fields ++ [("client_auth", s.clientAuth.display)]) false

/-! ## Towards the broker -/

/-- What the broker's certificate is checked against: nothing, the bundled roots or a pool. -/
inductive PeerCheck where
  | disabled
  | bundled
  | anchored (trusted : TrustPool)
deriving DecidableEq, Repr

/-- The settings of a client. -/
structure ClientSettings where
  parameters : Parameters
  identity : Option Identity
  peerCheck : PeerCheck
  handshakeTimeout : Duration
deriving DecidableEq, Repr

/-- How the broker's certificate is checked. -/
def PeerCheck.load (storage : Storage) (t : Config.ClientTls) : Logged TlsFailure PeerCheck :=
  if t.skipVerify then do
    Logged.event ⟨.warn, .clientTls, "broker certificate verification is disabled", []⟩
    pure .disabled
  else
    match t.caChain with
    | some path => do pure (.anchored (← TrustPool.load storage path))
    | none => do
      Logged.event ⟨.debug, .clientTls, "using bundled webpki root certificates", []⟩
      pure .bundled

/-- The identity that is shown to the broker, if one is configured. -/
def ClientSettings.loadIdentity (storage : Storage) (env : Environment) (t : Config.ClientTls) :
    Logged TlsFailure (Option Identity) := do
  match ← Logged.ofExcept (t.keyPair.mapError .config) with
  | some (certPath, keyPath) =>
    Logged.event ⟨.debug, .clientTls, "loading client certificate for mTLS", []⟩
    pure (some (← Identity.load storage certPath keyPath (t.password env)))
  | none => pure none

/-- Builds the settings of a client. -/
def ClientSettings.build (storage : Storage) (env : Environment) (t : Config.ClientTls) :
    Logged TlsFailure ClientSettings := do
  let parameters ← Parameters.resolve t.cipherSuites t.curves
  let identity ← ClientSettings.loadIdentity storage env t
  let peerCheck ← PeerCheck.load storage t
  match identity with
  | some i => Logged.ofExcept i.check
  | none => pure ()
  pure ⟨parameters, identity, peerCheck, t.handshakeTimeout⟩

/-- The broker's certificate is not checked. -/
def ClientSettings.skipsVerify (s : ClientSettings) : Bool := s.peerCheck == .disabled

/-- The written form of a client's settings. -/
def ClientSettings.display (s : ClientSettings) : String :=
  Text.record "TlsClientSettings"
    (s.parameters.fields ++ [("insecure_skip_verify", Text.truth s.skipsVerify),
      ("handshake_timeout", s.handshakeTimeout.text)]) false

/-- The written form of a client that dials with these settings. -/
def ClientSettings.displayDialer (s : ClientSettings) : String :=
  Text.record "TlsDialer" [("settings", s.display)] false

end BrokerRelay.Tls

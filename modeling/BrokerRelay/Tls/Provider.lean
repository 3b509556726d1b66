import BrokerRelay.Log
import BrokerRelay.Tls.CipherSuite
/-!
# What can be negotiated

A provider lists the suites and curves that a handshake may use. It keeps every suite of the newest
protocol version, which cannot be selected by name, and then follows the selection in its order;
what the backend lacks is skipped with a warning. Without a usable curve there is no provider.
-/

namespace BrokerRelay.Tls

/-- The suites and curves of a handshake, in order of preference. -/
structure Provider where
  suites : List CipherSuite
  curves : List Curve
deriving DecidableEq, Repr

namespace Provider

/-- The suites that need no selection: those of TLS 1.3. -/
def fixedSuites : List CipherSuite := [⟨0x1302⟩, ⟨0x1301⟩, ⟨0x1303⟩]

/-- The suites that the backend offers. -/
def offeredSuites : List CipherSuite :=
  fixedSuites ++ [⟨0xc02c⟩, ⟨0xc02b⟩, ⟨0xcca9⟩, ⟨0xc030⟩, ⟨0xc02f⟩, ⟨0xcca8⟩]

/-- The curves that the backend offers. -/
def offeredCurves : List Curve := [⟨0x001d⟩, ⟨0x0017⟩, ⟨0x0018⟩]

/-- The name of a suite in a warning. -/
def suiteLabel (s : CipherSuite) : String := s.name?.getD "unknown"

/-- The name of a curve in a warning. -/
def curveLabel (c : Curve) : String := c.name?.getD "unknown"

/-- The warning about a suite that the backend lacks. -/
def suiteSkipped (s : CipherSuite) : LogEvent :=
  ⟨.warn, .ciphers, "cipher suite not supported by TLS backend, skipping", [("suite", suiteLabel s)]⟩

/-- The warning about a curve that the backend lacks. -/
def curveSkipped (c : Curve) : LogEvent :=
  ⟨.warn, .ciphers, "curve not supported by TLS backend, skipping", [("curve", curveLabel c)]⟩

/-- The event that a provider was built. -/
def built (p : Provider) : LogEvent :=
  ⟨.debug, .ciphers, "restricted crypto provider built",
    [("cipher_suites", s!"{p.suites.length}"), ("kx_groups", s!"{p.curves.length}")]⟩

/-- The selected members that are offered; each of the others is logged. -/
def select {ε α : Type} [BEq α] (offered : List α) (skipped : α → LogEvent) :
    List α → Logged ε (List α)
  | [] => pure []
  | x :: xs => do
    if offered.contains x then
      let rest ← select offered skipped xs
      pure (x :: rest)
    else
      Logged.event (skipped x)
      select offered skipped xs

/-- The provider for a selection. -/
def restricted (suites : List CipherSuite) (curves : List Curve) : Logged ConfigFailure Provider := do
  let usable ← select offeredSuites suiteSkipped suites
  let groups ← select offeredCurves curveSkipped curves
  if groups.isEmpty then throw (.noUsableCurves (curves.map curveLabel))
  let provider := Provider.mk (fixedSuites ++ usable) groups
  Logged.event provider.built
  pure provider

end Provider

end BrokerRelay.Tls

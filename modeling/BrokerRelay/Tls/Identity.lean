import BrokerRelay.Log
import BrokerRelay.Pem.Encrypted
import BrokerRelay.Storage
import BrokerRelay.Tls.Certificate
import BrokerRelay.Tls.SigningKey
/-!
# Identities and trust

An identity is a certificate chain with the private key of its first certificate; a trust pool holds
the certificates that others are checked against. Both come from files of PEM sections.

A malformed section is treated differently by what it may cost: among certificates it is skipped with
a warning, before the first private key it is an error. A key file may be encrypted; `Pem.decrypt`
leaves any other one as it is.
-/

namespace BrokerRelay.Tls

/-- A certificate chain and the private key of its first certificate, as they stand in files. -/
structure Identity where
  chain : List Bytes
  key : KeyMaterial
deriving DecidableEq, Repr

/-- The certificates that others are checked against. -/
structure TrustPool where
  anchors : List Certificate
deriving DecidableEq, Repr

/-! ## Sections of a file -/

/-- The contents of a file of key material. -/
def readKeyFile (storage : Storage) (path : String) : Except TlsFailure Bytes :=
  (storage.read path).mapError (.unreadable path)

/-- The warning about a section that is not read. -/
def sectionSkipped (path reason : String) : LogEvent :=
  ⟨.warn, .keyFiles, "skipping invalid certificate", [("error", reason), ("path", path)]⟩

/-- The certificates among sections, in order; malformed sections are logged. -/
def collectCertificates {ε : Type} (path : String) : List Pem.Section → Logged ε (List Bytes)
  | [] => pure []
  | .item .certificate der :: rest => do
    let others ← collectCertificates path rest
    pure (der :: others)
  | .item _ _ :: rest => collectCertificates path rest
  | .malformed reason :: rest => do
    Logged.event (sectionSkipped path reason)
    collectCertificates path rest

/-- The certificates of a text; there must be one. -/
def certificatesOf (path : String) (text : Bytes) : Logged TlsFailure (List Bytes) := do
  let certificates ← collectCertificates path (Pem.Section.scan text)
  if certificates.isEmpty then throw (.noCertificates path)
  Logged.event ⟨.debug, .keyFiles, "loaded certificates",
    [("count", s!"{certificates.length}"), ("path", path)]⟩
  pure certificates

/-- The first private key among sections, unless a malformed one comes before it. -/
def firstPrivateKey (path : String) : List Pem.Section → Except TlsFailure KeyMaterial
  | [] => .error (.noPrivateKeys path)
  | .malformed reason :: _ => .error (.key (.malformedPem (path ++ ": " ++ reason)))
  | .item kind contents :: rest =>
    match KeyForm.ofSection? kind with
    | some form => .ok ⟨form, contents⟩
    | none => firstPrivateKey path rest

/-- The name of a layout in events. -/
def KeyForm.title : KeyForm → String
  | .rsa => "PKCS#1 RSA"
  | .curve => "SEC1 EC"
  | .named => "PKCS#8"

/-- The first private key of a text. -/
def privateKeyOf (path : String) (text : Bytes) : Logged TlsFailure KeyMaterial := do
  let key ← Logged.ofExcept (firstPrivateKey path (Pem.Section.scan text))
  Logged.event ⟨.debug, .keyFiles, "loaded " ++ key.form.title ++ " private key", [("path", path)]⟩
  pure key

/-! ## Loading -/

/-- Loads an identity from a certificate file and a key file. The password is used only if the key
file is encrypted. -/
def Identity.load (storage : Storage) (certPath keyPath password : String) :
    Logged TlsFailure Identity := do
  let certText ← Logged.ofExcept (readKeyFile storage certPath)
  let keyText ← Logged.ofExcept (readKeyFile storage keyPath)
  let keyText ← Logged.ofExcept ((Pem.decrypt keyText password).mapError .key)
  let chain ← certificatesOf certPath certText
  let key ← privateKeyOf keyPath keyText
  pure ⟨chain, key⟩

/-- The anchors among certificates: those that can be read. -/
def TrustPool.ofCertificates (certificates : List Bytes) : TrustPool :=
  ⟨certificates.filterMap fun der => (Certificate.parseAnchor der).toOption⟩

/-- Loads a trust pool from a file; it must not be empty. -/
def TrustPool.load (storage : Storage) (path : String) : Logged TlsFailure TrustPool := do
  Logged.event ⟨.debug, .keyFiles, "loading CA chain", [("path", path)]⟩
  let text ← Logged.ofExcept (readKeyFile storage path)
  let certificates ← certificatesOf path text
  let pool := TrustPool.ofCertificates certificates
  let added := pool.anchors.length
  Logged.event ⟨.debug, .keyFiles, "added CA certificates to trust store",
    [("added", s!"{added}"), ("ignored", s!"{certificates.length - added}")]⟩
  if pool.anchors.isEmpty then throw (.noCertificates path)
  pure pool

/-- Checks that the private key can sign and that it belongs to the first certificate. -/
def Identity.check (identity : Identity) : Except TlsFailure Unit :=
  match SigningKey.ofMaterial? identity.key with
  | none =>
    .error (.setup "unexpected error: failed to parse private key as RSA, ECDSA, or EdDSA")
  | some key =>
    match Certificate.parse (identity.chain.headD []) with
    | .error fault => .error (.setup ("invalid peer certificate: " ++ fault.message))
    | .ok certificate =>
      if certificate.publicKeyInfo = key.publicKeyInfo then .ok ()
      else .error (.key (.mismatch "KeyMismatch"))

end BrokerRelay.Tls

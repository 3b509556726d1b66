import BrokerRelay.Der
/-!
# Certificates

What is read of a certificate: the identity of its holder and the public key, after its whole outer
structure has been checked. A trust anchor is a certificate that others are checked against; one of
the first version of the format can serve as an anchor, though not to identify an end point.
-/

namespace BrokerRelay.Tls

/-- Why a certificate is not usable. -/
inductive CertificateFault where
  | badEncoding
  | unsupportedVersion
  | algorithmMismatch
  | unsupportedCriticalExtension
  | invalidExtensionValue
deriving DecidableEq, Repr

/-- The text of a fault. -/
def CertificateFault.message : CertificateFault → String
  | .badEncoding => "BadEncoding"
  | .unsupportedVersion => "Other(OtherError(UnsupportedCertVersion))"
  | .algorithmMismatch => "Other(OtherError(SignatureAlgorithmMismatch))"
  | .unsupportedCriticalExtension => "Other(OtherError(UnsupportedCriticalExtension))"
  | .invalidExtensionValue => "Other(OtherError(ExtensionValueInvalid))"

/-- A certificate: the contents of its subject and of its public key information. -/
structure Certificate where
  subject : Bytes
  publicKeyInfo : Bytes
deriving DecidableEq, Repr

namespace Certificate

open Der

/-- A reader of parts of a certificate. -/
abbrev PartReader := Reader CertificateFault

/-- Elements of this size and above are not read. -/
def limit : Nat := 0xfffe

/-- The contents of the next element. -/
def part (tag : Tag) : PartReader Bytes := Reader.take limit .badEncoding tag

/-- Reads the contents of the next element as a whole. -/
def inside {α : Type} (tag : Tag) (r : PartReader α) : PartReader α :=
  Reader.inside limit .badEncoding tag r

/-- The version must be the third, and must be stated. -/
def version : PartReader Unit := do
  let stated ← Reader.inside limit .unsupportedVersion (Tag.constructed 0)
    (Reader.small limit .badEncoding)
  if stated ≠ 2 then throw .unsupportedVersion

/-! ## Extensions -/

/-- What the extensions that are understood have in common: they are numbered below this
identifier. -/
def extensionArc : Bytes := [0x55, 0x1d]

/-- The extensions that are understood: key usage, alternative names, basic constraints, name
constraints, revocation list places and extended key usage. -/
def understood : List UInt8 := [15, 17, 19, 30, 31, 37]

/-- The number of an understood extension. -/
def extensionNumber? (identifier : Bytes) : Option UInt8 :=
  understood.find? fun n => identifier == extensionArc ++ [n]

/-- Whether an extension is critical; one that does not say so is not. -/
def critical : PartReader Bool := do
  if ← Reader.next? Tag.boolean then
    match ← part Tag.boolean with
    | [0xff] => return true
    | [0x00] => return false
    | _ => throw .badEncoding
  else return false

/-- Reads an extension; `seen` are the numbers of those before it. Key usage is taken as it is, the
value of each other one must be a sequence. -/
def extension (seen : List UInt8) : PartReader (List UInt8) := do
  let identifier ← part Tag.identifier
  let isCritical ← critical
  let value ← part Tag.octetString
  match extensionNumber? identifier with
  | none => if isCritical then throw .unsupportedCriticalExtension else return seen
  | some n =>
    if seen.contains n then throw .invalidExtensionValue
    if n ≠ 15 then
      let _ ← (part Tag.sequence).whole .badEncoding value
    return n :: seen

/-- Reads at most `count` extensions up to the end. -/
def extensions : Nat → List UInt8 → PartReader Unit
  | 0, _ => return
  | count + 1, seen => do
    let seen ← inside Tag.sequence (extension seen)
    if ← Reader.atEnd then return else extensions count seen

/-- The list of extensions, which may be missing or empty. -/
def extensionList : PartReader Unit := do
  if ← Reader.atEnd then return
  inside (Tag.constructed 3) (inside Tag.sequence do
    if ← Reader.atEnd then return
    extensions (← get).length [])

/-! ## Certificates and anchors -/

/-- The signed part, under a signature with this algorithm. -/
def signedPart (algorithm : Bytes) : PartReader Certificate := do
  version
  let _ ← part Tag.integer
  if (← part Tag.sequence) ≠ algorithm then throw .algorithmMismatch
  let _issuer ← part Tag.sequence
  let _validity ← part Tag.sequence
  let subject ← part Tag.sequence
  let publicKeyInfo ← part Tag.sequence
  extensionList
  return ⟨subject, publicKeyInfo⟩

/-- Reads a certificate. -/
def parse (der : Bytes) : Except CertificateFault Certificate := do
  let (signed, algorithm) ← (inside Tag.sequence do
    let signed ← part Tag.sequence
    let algorithm ← part Tag.sequence
    let _signature ← Reader.bits limit .badEncoding Tag.bitString
    return (signed, algorithm)).whole .badEncoding der
  (signedPart algorithm).whole .badEncoding signed

/-- Reads a certificate of the first version, which states no version and has no extensions. -/
def parseFirstVersion (der : Bytes) : Except CertificateFault Certificate :=
  (inside Tag.sequence do
    let holder ← inside Tag.sequence do
      let _serial ← part Tag.integer
      let _algorithm ← part Tag.sequence
      let _issuer ← part Tag.sequence
      let _validity ← part Tag.sequence
      let subject ← part Tag.sequence
      let publicKeyInfo ← part Tag.sequence
      return Certificate.mk subject publicKeyInfo
    let _algorithm ← part Tag.sequence
    let _signature ← part Tag.bitString
    return holder).whole .badEncoding der

/-- Reads a certificate that others are to be checked against. -/
def parseAnchor (der : Bytes) : Except CertificateFault Certificate :=
  match parse der with
  | .error .unsupportedVersion => parseFirstVersion der
  | r => r

end Certificate

end BrokerRelay.Tls

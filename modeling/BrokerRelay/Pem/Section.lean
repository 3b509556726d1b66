import BrokerRelay.Pem.Block
/-!
# PEM sections

A file of certificates and keys is a row of sections among other lines. `Section.scan` cuts a text
into its sections, whole and malformed ones alike; what a caller makes of a malformed one is its own
affair. A section of a kind that is not known leaves no trace.

Reading goes line by line: a begin line opens a section, also where one is open already, and the
lines up to its end line hold base64 with blanks in it.
-/

namespace BrokerRelay.Pem

/-- What a section holds. -/
inductive SectionKind where
  | certificate
  | publicKey
  | rsaPrivateKey
  | privateKey
  | ecPrivateKey
  | revocationList
  | certificateRequest
  | echConfig
deriving DecidableEq, Repr

namespace SectionKind

/-- The label of a kind. -/
def label : SectionKind → String
  | certificate => "CERTIFICATE"
  | publicKey => "PUBLIC KEY"
  | rsaPrivateKey => "RSA PRIVATE KEY"
  | privateKey => "PRIVATE KEY"
  | ecPrivateKey => "EC PRIVATE KEY"
  | revocationList => "X509 CRL"
  | certificateRequest => "CERTIFICATE REQUEST"
  | echConfig => "ECHCONFIG"

/-- All kinds. -/
def all : List SectionKind :=
  [certificate, publicKey, rsaPrivateKey, privateKey, ecPrivateKey, revocationList,
    certificateRequest, echConfig]

/-- The kind of a label. -/
def ofLabel? (label : Bytes) : Option SectionKind :=
  all.find? fun kind => Bytes.encodeUtf8 kind.label == label

end SectionKind

/-! ## Base64 with blanks -/

/-- Why the body of a section is not base64. -/
inductive BodyFault where
  | invalidCharacter (byte : UInt8)
  | prematurePadding
  | invalidTrailingPadding
deriving DecidableEq, Repr

/-- The text of a fault. -/
def BodyFault.message : BodyFault → String
  | .invalidCharacter b => s!"InvalidCharacter({b.toNat})"
  | .prematurePadding => "PrematurePadding"
  | .invalidTrailingPadding => "InvalidTrailingPadding"

/-- A blank inside a body. -/
def isBodyBlank (b : UInt8) : Bool := b == 32 || (9 ≤ b && b ≤ 13)

/-- What a symbol stands for: six bits, or padding. -/
def symbol? (b : UInt8) : Except BodyFault (Option Nat) :=
  if b == Base64.pad then .ok none
  else
    match Base64.value? b with
    | some n => .ok (some n)
    | none => .error (.invalidCharacter b)

/-- The bytes of values of six bits each; bits that do not fill a byte are dropped. -/
def joined : List Nat → Bytes
  | a :: b :: c :: d :: rest =>
    UInt8.ofNat (a * 4 + b / 16) :: UInt8.ofNat (b % 16 * 16 + c / 4) ::
      UInt8.ofNat (c % 4 * 64 + d) :: joined rest
  | [a, b, c] => [UInt8.ofNat (a * 4 + b / 16), UInt8.ofNat (b % 16 * 16 + c / 4)]
  | [a, b] => [UInt8.ofNat (a * 4 + b / 16)]
  | _ => []

/-- The bytes of symbols that may not be padding. -/
def unpadded (symbols : List (Option Nat)) : Except BodyFault Bytes :=
  if symbols.all Option.isSome then .ok (joined (symbols.filterMap id)) else .error .prematurePadding

/-- The bytes of the last group, of at most four symbols. It may lack its padding. -/
def lastGroup : List (Option Nat) → Except BodyFault Bytes
  | [] => .ok []
  | [some a, some b, some c, some d] => .ok (joined [a, b, c, d])
  | [some a, some b, some c, none] | [some a, some b, some c] => .ok (joined [a, b, c])
  | [some a, some b, none, none] | [some a, some b] => .ok (joined [a, b])
  | _ => .error .invalidTrailingPadding

/-- Reads the body of a section from left to right. `held` are the symbols, at most eight, that nothing
has been made of yet: only when another one follows is it clear that they may not be padded. -/
def decodeFrom : List (Option Nat) → Bytes → Except BodyFault Bytes
  | held, [] =>
    if held.length ≤ 4 then lastGroup held
    else do return (← unpadded (held.take 4)) ++ (← lastGroup (held.drop 4))
  | held, b :: rest =>
    if isBodyBlank b then decodeFrom held rest
    else do
      let s ← symbol? b
      if held.length < 8 then decodeFrom (held ++ [s]) rest
      else return (← unpadded held) ++ (← decodeFrom [s] rest)

/-- Reads the body of a section: only the last group of four symbols may be padded. -/
def decodeBody (body : Bytes) : Except BodyFault Bytes := decodeFrom [] body

/-! ## Sections -/

/-- A section as it was found: whole, or malformed for a reason. -/
inductive Section where
  | item (kind : SectionKind) (contents : Bytes)
  | malformed (reason : String)
deriving DecidableEq, Repr

/-- The rest of a byte string that starts with `start`. -/
def after? (start bs : Bytes) : Option Bytes :=
  if start.isPrefixOf bs then some (bs.drop start.length) else none

/-- A byte that may stand among and after the dashes of a begin line. -/
def isFiller (b : UInt8) : Bool := b == 10 || b == 13 || b == 32

/-- The dashes and fillers that end a byte string, from its last byte. -/
def closing (bs : Bytes) : Bytes := bs.reverse.takeWhile fun b => b == 45 || isFiller b

/-- The label of a begin line, from what follows its mark: it ends in exactly five dashes. -/
def beginLabel? (rest : Bytes) : Option Bytes :=
  let tail := closing rest
  let trailing := tail.reverse.dropWhile isFiller
  if tail.count 45 = 5 then some (rest.take (rest.length - trailing.length)) else none

/-- The line ends the section with this label. -/
def endsSection (label line : Bytes) : Bool := (endMark ++ label ++ dashes).isPrefixOf line

/-- Cuts a text after every line feed and carriage return. -/
def lines : Bytes → List Bytes
  | [] => []
  | b :: rest =>
    if b == 10 || b == 13 then [b] :: lines rest
    else
      match lines rest with
      | [] => [[b]]
      | line :: others => (b :: line) :: others

/-- A section that is being read: its label and its body so far. -/
structure OpenSection where
  label : Bytes
  body : Bytes

/-- The section that an open one closes to, if its kind is known. -/
def OpenSection.close (s : OpenSection) : Option Section :=
  (SectionKind.ofLabel? s.label).map fun kind =>
    match decodeBody s.body with
    | .ok contents => .item kind contents
    | .error fault => .malformed fault.message

/-- The malformed section of a begin line that does not end as it should. -/
def illegalStart (line : Bytes) : Section :=
  .malformed ("illegal section start: " ++ Text.quoted (Bytes.decodeLossy line))

/-- The malformed section that the end of the text leaves open. -/
def unclosed (label : Bytes) : Section :=
  .malformed ("section end " ++ Text.quoted (Bytes.decodeLossy label) ++ " missing")

/-- The sections of lines, `current` being open. A second begin line changes the label and keeps the
body. -/
def sections : Option OpenSection → List Bytes → List Section
  | none, [] => []
  | some s, [] => [unclosed s.label]
  | current, line :: rest =>
    match after? beginMark line with
    | some tail =>
      match beginLabel? tail with
      | some label => sections (some ⟨label, (current.map OpenSection.body).getD []⟩) rest
      | none => illegalStart line :: sections none rest
    | none =>
      match current with
      | none => sections none rest
      | some s =>
        if endsSection s.label line then s.close.toList ++ sections none rest
        else sections (some ⟨s.label, s.body ++ line⟩) rest

/-- The sections of a text, in order. -/
def Section.scan (text : Bytes) : List Section := sections none (lines text)

end BrokerRelay.Pem

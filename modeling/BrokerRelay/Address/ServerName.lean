import BrokerRelay.Address.Ip
/-!
# Server names

The names that a TLS client can ask for and check a certificate against: DNS names, and IP literals.
A DNS name has labels of letters, digits, `_` and inner hyphens, at most 63 characters each and 253 in
all, may end in a dot, and its last label is not a number.
-/

namespace BrokerRelay.ServerName

/-- A character that a label may hold. -/
def isLabelChar (c : Char) : Bool := c.isAlphanum || c == '_' || c == '-'

/-- A label of a DNS name. -/
def isLabel (label : List Char) : Bool :=
  !label.isEmpty && label.length ≤ 63 && label.all isLabelChar
    && label.head? != some '-' && label.getLast? != some '-'

/-- The labels of a name, without the empty one after a closing dot. -/
def labels (name : List Char) : List (List Char) :=
  let parts := Text.splitAt '.' name
  if 1 < parts.length && parts.getLast? == some [] then parts.dropLast else parts

/-- A DNS name. -/
def isDnsName (name : List Char) : Bool :=
  let parts := labels name
  name.length ≤ 253 && parts.all isLabel
    && (match parts.getLast? with
        | some last => !last.all Char.isDigit
        | none => false)

/-- A name that a certificate can be checked against. -/
def isValid (name : List Char) : Bool := isDnsName name || (IpAddress.ofChars? name).isSome

end BrokerRelay.ServerName

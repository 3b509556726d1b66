import BrokerRelay.Text.Split
/-!
# Host and port

An address names a host and, after its last colon, a port in decimal digits. A host between brackets
is meant without them.
-/

namespace BrokerRelay

/-- A host with a port. -/
structure HostPort where
  host : List Char
  port : UInt16
deriving DecidableEq, Repr

namespace HostPort

/-- The value of decimal digits. -/
def digitsValue (ds : List Char) : Nat := ds.foldl (fun n d => n * 10 + (d.toNat - 48)) 0

/-- A port number: decimal digits, with or without a plus sign, below `2 ^ 16`. -/
def port? (cs : List Char) : Option UInt16 :=
  let ds := match cs with
    | '+' :: ds => ds
    | _ => cs
  if ds ≠ [] ∧ ds.all Char.isDigit ∧ digitsValue ds < 65536 then
    some (UInt16.ofNat (digitsValue ds))
  else none

/-- A host without the brackets around it. -/
def unbracketed (host : List Char) : List Char :=
  match host with
  | '[' :: inner => if inner.getLast? = some ']' then inner.dropLast else host
  | _ => host

/-- Splits an address at its last colon. -/
def ofChars? (cs : List Char) : Option HostPort :=
  match Text.cutLast? ':' cs with
  | none => none
  | some (host, port) => (port? port).map fun p => ⟨unbracketed host, p⟩

/-- Splits an address at its last colon. -/
def ofString? (s : String) : Option HostPort := ofChars? s.toList

/-- The host as text. -/
def hostText (a : HostPort) : String := String.ofList a.host

end HostPort

end BrokerRelay

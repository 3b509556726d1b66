import BrokerRelay.Bytes
import BrokerRelay.Text.Split
/-!
# IP address literals

Four decimal octets without leading zeros, or eight groups of up to four hexadecimal digits, in
which one run of groups may be left out as `::` and the last two groups may be written as four
octets.
-/

namespace BrokerRelay

/-- An IP address. -/
inductive IpAddress where
  | v4 (a b c d : UInt8)
  | v6 (groups : List UInt16) (size_eq : groups.length = 8)
deriving DecidableEq, Repr

namespace IpAddress

/-- A decimal octet: at most three digits, without a leading zero. -/
def octet? (cs : List Char) : Option UInt8 :=
  let n := cs.foldl (fun n d => n * 10 + (d.toNat - 48)) 0
  if cs ≠ [] ∧ cs.length ≤ 3 ∧ cs.all Char.isDigit ∧ (cs.head? = some '0' → cs.length = 1) ∧ n < 256
  then some (UInt8.ofNat n)
  else none

/-- Four decimal octets between points. -/
def octets? (cs : List Char) : Option (UInt8 × UInt8 × UInt8 × UInt8) :=
  match Text.splitAt '.' cs with
  | [a, b, c, d] => do
    let a ← octet? a
    let b ← octet? b
    let c ← octet? c
    let d ← octet? d
    pure (a, b, c, d)
  | _ => none

/-- A group: one to four hexadecimal digits. -/
def group? (cs : List Char) : Option UInt16 :=
  if cs.isEmpty || 4 < cs.length then none
  else (cs.mapM Bytes.hexDigit?).map fun ds => UInt16.ofNat (ds.foldl (fun n d => n * 16 + d) 0)

/-- The two groups that four octets stand for. -/
def pairOfOctets (a b c d : UInt8) : List UInt16 :=
  [UInt16.ofNat (a.toNat * 256 + b.toNat), UInt16.ofNat (c.toNat * 256 + d.toNat)]

/-- The groups of a list of parts; only the last part may be written as octets. -/
def groups? (octetsAllowed : Bool) : List (List Char) → Option (List UInt16)
  | [] => some []
  | [part] =>
    match group? part with
    | some g => some [g]
    | none =>
      if octetsAllowed then (octets? part).map fun (a, b, c, d) => pairOfOctets a b c d else none
  | part :: parts => do
    let g ← group? part
    let gs ← groups? octetsAllowed parts
    pure (g :: gs)

/-- The groups of a text between colons; an empty text has none. -/
def groupsOfText? (octetsAllowed : Bool) (cs : List Char) : Option (List UInt16) :=
  if cs.isEmpty then some [] else groups? octetsAllowed (Text.splitAt ':' cs)

/-- What stands before and after the first `::`. -/
def cutGap? : List Char → Option (List Char × List Char)
  | ':' :: ':' :: rest => some ([], rest)
  | c :: rest => (cutGap? rest).map fun (before, after) => (c :: before, after)
  | [] => none

/-- Eight groups as an address. -/
def ofGroups? (gs : List UInt16) : Option IpAddress :=
  if h : gs.length = 8 then some (.v6 gs h) else none

/-- Reads an IPv6 literal. -/
def v6? (cs : List Char) : Option IpAddress :=
  match cutGap? cs with
  | none => (groups? true (Text.splitAt ':' cs)).bind ofGroups?
  | some (before, after) => do
    let head ← groupsOfText? false before
    let tail ← groupsOfText? true after
    if head.length + tail.length ≤ 7 then
      ofGroups? (head ++ List.replicate (8 - head.length - tail.length) 0 ++ tail)
    else none

/-- Reads an IP literal of either version. -/
def ofChars? (cs : List Char) : Option IpAddress :=
  match octets? cs with
  | some (a, b, c, d) => some (.v4 a b c d)
  | none => v6? cs

/-- The address in network order: four or sixteen bytes. -/
def toBytes : IpAddress → Bytes
  | .v4 a b c d => [a, b, c, d]
  | .v6 groups _ => groups.flatMap fun g => [UInt8.ofNat (g.toNat / 256), UInt8.ofNat (g.toNat % 256)]

/-! ## Written form -/

/-- The length of the run of zeros at the start of a list of groups. -/
def leadingZeros : List UInt16 → Nat
  | 0 :: rest => leadingZeros rest + 1
  | _ => 0

/-- The first of the longest runs of zeros: where it starts and how long it is. -/
def longestGap (groups : List UInt16) : Nat × Nat :=
  (List.range groups.length).foldl
    (fun best start =>
      let n := leadingZeros (groups.drop start)
      if best.2 < n then (start, n) else best)
    (0, 0)

/-- Groups between colons. -/
def groupsText (groups : List UInt16) : String :=
  ":".intercalate (groups.map fun g => String.ofList (Nat.toDigits 16 g.toNat))

/-- Octets between points. -/
def octetsText (octets : List Nat) : String := ".".intercalate (octets.map fun o => s!"{o}")

/-- The written form of eight groups: the longest run of at least two zeros is left out, and an
address that stands for an IPv4 address ends in its octets. -/
def v6Text (groups : List UInt16) : String :=
  match groups with
  | [0, 0, 0, 0, 0, 0xffff, g, h] =>
    "::ffff:" ++ octetsText [g.toNat / 256, g.toNat % 256, h.toNat / 256, h.toNat % 256]
  | _ =>
    let (start, n) := longestGap groups
    if n < 2 then groupsText groups
    else groupsText (groups.take start) ++ "::" ++ groupsText (groups.drop (start + n))

/-- The written form of an address. -/
def text : IpAddress → String
  | .v4 a b c d => octetsText [a.toNat, b.toNat, c.toNat, d.toNat]
  | .v6 groups _ => v6Text groups

/-- The address is an IPv4 address. -/
def isV4 : IpAddress → Bool
  | .v4 .. => true
  | .v6 .. => false

end IpAddress

end BrokerRelay

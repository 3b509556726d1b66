import BrokerRelay.Bytes
import BrokerRelay.Decimal
import BrokerRelay.Text.Quoted
import BrokerRelay.Yaml.Node
/-!
# What a scalar stands for

A plain scalar stands for nothing, a truth value, a whole number, a decimal number or its own text,
tried in this order. Quoted and block scalars stand for their text. A standard tag decides instead of
the style.
-/

namespace BrokerRelay.Yaml

/-- Null, in its four spellings. -/
def isNull (s : String) : Bool := s == "null" || s == "Null" || s == "NULL" || s == "~"

/-- A truth value, each in three spellings. -/
def bool? (s : String) : Option Bool :=
  if s == "true" || s == "True" || s == "TRUE" then some true
  else if s == "false" || s == "False" || s == "FALSE" then some false
  else none

/-! ## Whole numbers -/

/-- The number that the digits write in base `radix`. -/
def numberIn? (radix : Nat) (cs : List Char) : Option Nat :=
  if cs.isEmpty then none
  else
    (cs.mapM fun c => (Bytes.hexDigit? c).filter (· < radix)).map
      (·.foldl (fun n d => n * radix + d) 0)

/-- A sign. -/
def isSign (c : Char) : Bool := c == '+' || c == '-'

/-- The text starts with a sign. -/
def startsWithSign (cs : List Char) : Bool := cs.head?.any isSign

/-- Digits after a leading zero write no number. -/
def isZeroPadded (cs : List Char) : Bool :=
  let ds := if startsWithSign cs then cs.drop 1 else cs
  1 < ds.length && ds.head? == some '0' && (ds.drop 1).all Char.isDigit

/-- The digits after a radix mark, with the radix. -/
def radixDigits? : List Char → Option (Nat × List Char)
  | '0' :: 'x' :: ds => some (16, ds)
  | '0' :: 'o' :: ds => some (8, ds)
  | '0' :: 'b' :: ds => some (2, ds)
  | _ => none

/-- A number without a minus sign: decimal, or in the radix that its mark gives. -/
def unsigned? (cs : List Char) : Option Nat :=
  let ds := if cs.head? == some '+' then cs.drop 1 else cs
  match radixDigits? ds with
  | some (radix, rest) => numberIn? radix rest
  | none =>
    if startsWithSign ds || isZeroPadded cs then none else numberIn? 10 ds

/-- The size of a number after a minus sign. -/
def negative? (cs : List Char) : Option Nat :=
  match cs with
  | '-' :: ds =>
    match radixDigits? ds with
    | some (radix, rest) => numberIn? radix rest
    | none => if isZeroPadded cs then none else numberIn? 10 ds
  | _ => none

/-- A whole number that 128 bits hold. -/
def integer? (s : String) : Option Int :=
  match unsigned? s.toList with
  | some n => if n < Nat.pow 2 128 then some n else none
  | none =>
    match negative? s.toList with
    | some n => if n ≤ Nat.pow 2 127 then some (-(n : Int)) else none
    | none => none

/-- A whole number that 64 bits hold without a sign. -/
def word? (s : String) : Option Nat := (unsigned? s.toList).filter (· < Nat.pow 2 64)

/-! ## Decimal numbers -/

/-- A decimal number, which may be infinite or not a number. -/
inductive Real where
  | finite (value : Double)
  | infinite (negative : Bool)
  | nan
deriving DecidableEq, Repr

/-- The written form of a decimal number. -/
def Real.text : Real → String
  | .finite x => x.text
  | .infinite negative => if negative then "-inf" else "inf"
  | .nan => "NaN"

/-- The spellings of infinity without its sign. -/
def isInfinity (cs : List Char) : Bool :=
  cs == ".inf".toList || cs == ".Inf".toList || cs == ".INF".toList

/-- Reads a decimal number. -/
def real? (s : String) : Option Real :=
  let cs := s.toList
  let unsigned := if cs.head? == some '+' then cs.drop 1 else cs
  if cs.head? == some '+' && startsWithSign unsigned then none
  else if isInfinity unsigned then some (.infinite false)
  else if cs.head? == some '-' && isInfinity (cs.drop 1) then some (.infinite true)
  else if s == ".nan" || s == ".NaN" || s == ".NAN" then some .nan
  else (Double.parse? unsigned).map .finite

/-! ## Classification -/

/-- What stands in the place of a value. -/
inductive Found where
  | unit
  | bool (value : Bool)
  | integer (value : Int)
  | real (value : Real)
  | string (value : String)
  | sequence
  | map
deriving DecidableEq, Repr

/-- The written form of a whole number; one outside 64 bits names its wider type. -/
def integerText (n : Int) : String :=
  if -(Nat.pow 2 63 : Int) ≤ n ∧ n < Nat.pow 2 64 then s!"integer \x60{n}\x60"
  else if 0 ≤ n then s!"integer \x60{n}\x60 as u128"
  else s!"integer \x60{n}\x60 as i128"

/-- How a message names what it found. -/
def Found.text : Found → String
  | .unit => "unit value"
  | .bool b => "boolean \x60" ++ Text.truth b ++ "\x60"
  | .integer n => integerText n
  | .real x => "floating point \x60" ++ x.text ++ "\x60"
  | .string s => "string " ++ Text.quoted s
  | .sequence => "sequence"
  | .map => "map"

/-- What a plain scalar without a tag stands for. -/
def Found.ofPlain (s : String) : Found :=
  if s.isEmpty || isNull s then .unit
  else
    match bool? s with
    | some b => .bool b
    | none =>
      match integer? s with
      | some n => .integer n
      | none =>
        if isZeroPadded s.toList then .string s
        else
          match real? s with
          | some x => .real x
          | none => .string s

/-- The tags of the standard scalar types. -/
def boolTag : String := "tag:yaml.org,2002:bool"
/-- The tag of whole numbers. -/
def intTag : String := "tag:yaml.org,2002:int"
/-- The tag of decimal numbers. -/
def floatTag : String := "tag:yaml.org,2002:float"
/-- The tag of nothing. -/
def nullTag : String := "tag:yaml.org,2002:null"

/-- What a scalar stands for; an error names what its tag asks for and its text is not. -/
def Found.ofScalar (tag : Option String) (style : ScalarStyle) (s : String) :
    Except String Found :=
  match tag with
  | some t =>
    if t == boolTag then
      match bool? s with
      | some b => .ok (.bool b)
      | none => .error "a boolean"
    else if t == intTag then
      match integer? s with
      | some n => .ok (.integer n)
      | none => .error "an integer"
    else if t == floatTag then
      match real? s with
      | some x => .ok (.real x)
      | none => .error "a float"
    else if t == nullTag then
      if isNull s then .ok .unit else .error "null"
    else if t.startsWith "!" && style == .plain then .ok (.ofPlain s)
    else .ok (.string s)
  | none => .ok (if style == .plain then .ofPlain s else .string s)

end BrokerRelay.Yaml

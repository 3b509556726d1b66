import BrokerRelay.Log
import BrokerRelay.Text.Blank
import BrokerRelay.Text.Split
/-!
# Log filters

Which events are shown. A filter is a list of directives, each a greatest rank for the sources whose
name starts with a given text, or for all of them; of those that apply to an event the one with the
longest text decides. The configured level is the directive for all sources.

A text of directives is read part by part; a part that is none is left out, and
`DirectiveFault.message` says why.
-/

namespace BrokerRelay.CommandLine

/-- A directive: what it applies to, and the greatest rank that it shows; rank zero shows nothing. -/
structure Directive where
  target : String
  rank : Nat
deriving DecidableEq, Repr

/-- A filter. -/
structure LogFilter where
  directives : List Directive
deriving DecidableEq, Repr

/-- Why a text is no directive. -/
inductive DirectiveFault where
  | illFormed
  | unknownLevel
deriving DecidableEq, Repr

/-- The text of a fault in a directive. -/
def DirectiveFault.message : DirectiveFault → String
  | .illFormed => "invalid filter directive"
  | .unknownLevel =>
    "error parsing level filter: expected one of \"off\", \"error\", \"warn\", \"info\", "
      ++ "\"debug\", \"trace\", or a number 0-5"

/-- A name without regard to the case of its ASCII letters. -/
def lowered (s : List Char) : List Char := s.map Char.toLower

/-- The names of the greatest rank that is shown. -/
def rankNames : List (String × Nat) :=
  [("off", 0), ("error", 1), ("warn", 2), ("info", 3), ("debug", 4), ("trace", 5)]

/-- The rank that a number states; it may have a plus sign and leading zeros. -/
def numericRank? (digits : List Char) : Option Nat :=
  let digits := match digits with
    | '+' :: rest => rest
    | _ => digits
  if digits ≠ [] ∧ digits.all Char.isDigit then
    match digits.dropWhile (· == '0') with
    | [] => some 0
    | [d] => if d.toNat - '0'.toNat ≤ LogLevel.trace.rank then some (d.toNat - '0'.toNat) else none
    | _ => none
  else none

/-- The rank of a level: a number or a name. -/
def rank? (level : List Char) : Option Nat :=
  (numericRank? level).or
    ((rankNames.find? fun (known, _) => known.toList == lowered level).map Prod.snd)

namespace Directive

/-- A character that a directive for sources may start with. -/
def startsTarget (c : Char) : Bool :=
  c.isAlphanum || c == '-' || c == ':' || c == '_' || 0x80 ≤ c.toNat

/-- The rank that stands after the equals sign; without one everything is shown. -/
def rankOf (level : List Char) : Except DirectiveFault Nat :=
  if level = [] then .ok LogLevel.trace.rank
  else
    match rank? level with
    | some rank => .ok rank
    | none => .error .unknownLevel

/-- What follows a span between brackets: nothing, or a level. -/
def afterSpan : List Char → Except DirectiveFault (Option Directive)
  | [] => .ok none
  | '=' :: level => (rankOf level).map fun _ => none
  | _ => .error .illFormed

/-- A directive for spans, after its opening bracket. No event here stands in a span that a directive
names, so one that is well formed shows nothing. -/
def span (body : List Char) : Except DirectiveFault (Option Directive) :=
  match body.dropWhile fun c => c != ']' && c != '\x7b' with
  | ']' :: rest => afterSpan rest
  | '\x7b' :: fields =>
    match fields.takeWhile (· != '\x7d'), fields.dropWhile (· != '\x7d') with
    | _ :: _, '\x7d' :: ']' :: rest => afterSpan rest
    | _, _ => .error .illFormed
  | _ => .error .illFormed

/-- Reads a directive: a level, the name of sources, or a name with its level. Without a level
everything from the sources is shown. Blanks at the ends do not count when the equals sign is looked
for, and do count in what stands around its place. -/
def parse (text : List Char) : Except DirectiveFault (Option Directive) :=
  let trimmed := Text.trimChars text
  match trimmed with
  | [] => .error .illFormed
  | '[' :: body => span body
  | c :: _ =>
    if !startsTarget c then .error .illFormed
    else
      let place := (trimmed.takeWhile fun c => c != '=' && c != '[').length
      match trimmed.drop place with
      | [] =>
        match rank? text with
        | some rank => .ok (some ⟨"", rank⟩)
        | none => .ok (some ⟨String.ofList text, LogLevel.trace.rank⟩)
      | '[' :: body => span body
      | _ =>
        (rankOf (text.drop (place + 1))).map fun rank =>
          some ⟨String.ofList (text.take place), rank⟩

/-- The directive applies to a source. -/
def applies (d : Directive) (source : LogSource) : Bool :=
  d.target.toList.isPrefixOf source.target.toList

end Directive

namespace LogFilter

/-- Adds a directive; it replaces one for the same text. -/
def add (f : LogFilter) (d : Directive) : LogFilter :=
  ⟨f.directives.filter (·.target != d.target) ++ [d]⟩

/-- The filter of a text with directives between commas, and the parts that are none. -/
def parse (text : String) : LogFilter × List (String × DirectiveFault) :=
  let parts := (Text.splitAt ',' text.toList).filter (· != [])
  parts.foldl
    (fun (f, bad) part =>
      match Directive.parse part with
      | .ok (some d) => (f.add d, bad)
      | .ok none => (f, bad)
      | .error fault => (f, bad ++ [(String.ofList part, fault)]))
    (⟨[]⟩, [])

/-- The directive that decides about a source. -/
def deciding? (f : LogFilter) (source : LogSource) : Option Directive :=
  (f.directives.filter (·.applies source)).foldl
    (fun best d =>
      match best with
      | some b => if b.target.length < d.target.length then some d else some b
      | none => some d)
    none

/-- An event is shown. -/
def shows (f : LogFilter) (e : LogEvent) : Bool :=
  match f.deciding? e.source with
  | some d => e.level.rank ≤ d.rank
  | none => false

end LogFilter

end BrokerRelay.CommandLine

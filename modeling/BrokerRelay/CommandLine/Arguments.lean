import BrokerRelay.Text.Similarity
/-!
# Arguments

The arguments of the program: options in long and short form, values attached or in the argument that
follows, short flags in one argument. Reading them yields the options, a wish to see the help or the
version, or a usage fault; `UsageFault.message` is the text of one.
-/

namespace BrokerRelay.CommandLine

/-- The flags. -/
inductive Flag where
  | config
  | listen
  | verbose
  | help
  | version
deriving DecidableEq, Repr

namespace Flag

/-- All flags. -/
def all : List Flag := [config, listen, verbose, help, version]

/-- The long name of a flag. -/
def long : Flag → String
  | config => "config"
  | listen => "listen"
  | verbose => "verbose"
  | help => "help"
  | version => "version"

/-- The short name of a flag. -/
def short? : Flag → Option Char
  | config => some 'c'
  | listen => none
  | verbose => some 'v'
  | help => some 'h'
  | version => some 'V'

/-- The flag takes a value. -/
def takesValue : Flag → Bool
  | config | listen => true
  | _ => false

/-- The form of a flag in messages. -/
def display : Flag → String
  | config => "--config <CONFIG>"
  | listen => "--listen <LISTEN>"
  | verbose => "--verbose..."
  | help => "--help"
  | version => "--version"

/-- The flag of a long name. -/
def ofLong? (name : List Char) : Option Flag := all.find? fun f => f.long.toList == name

/-- The flag of a short name. -/
def ofShort? (c : Char) : Option Flag := all.find? fun f => f.short? == some c

/-- A flag whose long name is similar to a word; the most similar one, and of equals the last. -/
def similar? (word : List Char) : Option Flag :=
  let threshold : Text.Similarity := ⟨7, 10⟩
  (all.foldl
    (fun (best : Option (Flag × Text.Similarity)) f =>
      let s := Text.similarity word f.long.toList
      if !s.exceeds threshold then best
      else
        match best with
        | some (g, t) => if t.exceeds s then some (g, t) else some (f, s)
        | none => some (f, s))
    none).map Prod.fst

end Flag

/-- Why arguments cannot be used; `used` are the flags that came before, in order. -/
inductive UsageFault where
  | unexpectedArgument (shown : String)
  | unknownFlag (name : String) (similar : Option Flag) (used : List Flag)
  | missingValue (flag : Flag)
  | unexpectedValue (value : String) (flag : Flag) (used : List Flag)
  | repeated (flag : Flag)
deriving DecidableEq, Repr

namespace UsageFault

/-- The usage line, with the flags in question or all of them. -/
def usage (flags : List Flag) : String :=
  "Usage: kafka-proxy "
    ++ (if flags.isEmpty then "[OPTIONS]" else " ".intercalate (flags.eraseDups.map Flag.display))

/-- The paragraphs of a fault. -/
def paragraphs : UsageFault → List String
  | .unexpectedArgument shown => ["unexpected argument '" ++ shown ++ "' found", usage []]
  | .unknownFlag name none used =>
    ["unexpected argument '--" ++ name ++ "' found", usage used]
  | .unknownFlag name (some f) used =>
    ["unexpected argument '--" ++ name ++ "' found",
      "  tip: a similar argument exists: '--" ++ f.long ++ "'", usage (used ++ [f])]
  | .missingValue f =>
    ["a value is required for '" ++ f.display ++ "' but none was supplied"]
  | .unexpectedValue value f used =>
    ["unexpected value '" ++ value ++ "' for '" ++ f.display
        ++ "' found; no more were expected", usage (used ++ [f])]
  | .repeated f =>
    ["the argument '" ++ f.display ++ "' cannot be used multiple times", usage []]

/-- The text of a fault. -/
def message (f : UsageFault) : String :=
  "error: " ++ "\n\n".intercalate (f.paragraphs ++ ["For more information, try '--help'."]) ++ "\n"

end UsageFault

/-- What the arguments ask for. -/
structure Options where
  config : Option String
  listen : Option String
  verbosity : Nat
deriving DecidableEq, Repr

/-- What the program is to do. -/
inductive Wish where
  | run (options : Options)
  | showHelp
  | showVersion
deriving DecidableEq, Repr

/-! ## Reading -/

/-- What has been read: the options, the flags in order, and a flag whose value has been announced
or read but not taken yet. -/
structure Reading where
  options : Options
  used : List Flag
  pending : Option (Flag × Option String)
deriving DecidableEq, Repr

/-- What ends the reading before the last argument. -/
inductive Stop where
  | fault (f : UsageFault)
  | wish (w : Wish)
deriving DecidableEq, Repr

namespace Reading

/-- Nothing has been read. -/
def start : Reading := ⟨⟨none, none, 0⟩, [], none⟩

/-- Takes the value of a flag; a flag with a value may be used once. -/
def takeValue (r : Reading) (f : Flag) (value : String) : Except Stop Reading :=
  if r.used.contains f then .error (.fault (.repeated f))
  else
    let options := match f with
      | .config => { r.options with config := some value }
      | _ => { r.options with listen := some value }
    .ok ⟨options, r.used ++ [f], none⟩

/-- Takes the value that is pending; it must have been read. -/
def settle (r : Reading) : Except Stop Reading :=
  match r.pending with
  | none => .ok r
  | some (f, none) => .error (.fault (.missingValue f))
  | some (f, some value) => { r with pending := none }.takeValue f value

/-- The flags that came before a fault; a pending value that cannot be taken does not matter. -/
def usedSoFar (r : Reading) : List Flag :=
  match r.settle with
  | .ok r => r.used
  | .error (.fault (.repeated f)) => r.used.erase f
  | .error _ => r.used

/-- A flag without a value. -/
def raise (r : Reading) (f : Flag) : Except Stop Reading := do
  let r ← r.settle
  match f with
  | .help => throw (.wish .showHelp)
  | .version => throw (.wish .showVersion)
  | _ =>
    return { r with options := { r.options with verbosity := r.options.verbosity + 1 },
                    used := if r.used.contains f then r.used else r.used ++ [f] }

/-- A flag with a value that is attached or still to come. -/
def announce (r : Reading) (f : Flag) (attached : Option (List Char)) : Except Stop Reading := do
  let r ← r.settle
  match attached with
  | some value => r.takeValue f (String.ofList value)
  | none => return { r with pending := some (f, none) }

/-- An argument in long form, without its hyphens. -/
def long (r : Reading) (body : List Char) : Except Stop Reading :=
  let name := body.takeWhile (· != '=')
  let attached := if body.contains '=' then some ((body.dropWhile (· != '=')).drop 1) else none
  match Flag.ofLong? name with
  | none =>
    .error (.fault (.unknownFlag (String.ofList name) (Flag.similar? name) r.usedSoFar))
  | some f =>
    if f.takesValue then r.announce f attached
    else
      match attached with
      | some value =>
        .error (.fault (.unexpectedValue (String.ofList value) f r.used))
      | none => r.raise f

/-- Short flags in one argument, without the hyphen. What follows a flag that takes a value is its
value. -/
def short (r : Reading) : List Char → Except Stop Reading
  | [] => .ok r
  | c :: rest =>
    match Flag.ofShort? c with
    | none => .error (.fault (.unexpectedArgument (String.ofList ['-', c])))
    | some f =>
      if f.takesValue then
        r.announce f (match rest with
          | [] => none
          | '=' :: value => some value
          | value => some value)
      else do short (← r.raise f) rest

/-- An argument that is no flag: the value of the flag before it, or too much. -/
def word (r : Reading) (arg : List Char) : Except Stop Reading :=
  match r.pending with
  | some (f, none) => .ok { r with pending := some (f, some (String.ofList arg)) }
  | _ => .error (.fault (.unexpectedArgument (String.ofList arg)))

/-- Reads arguments up to the last one. After `--` nothing is a flag, and nothing else is allowed. -/
def arguments (r : Reading) : List (List Char) → Except Stop Reading
  | [] => r.settle
  | ['-', '-'] :: [] => r.settle
  | ['-', '-'] :: next :: _ => .error (.fault (.unexpectedArgument (String.ofList next)))
  | ('-' :: '-' :: body) :: rest => do arguments (← r.long body) rest
  | ('-' :: c :: body) :: rest => do arguments (← r.short (c :: body)) rest
  | arg :: rest => do arguments (← r.word arg) rest

end Reading

/-- What the arguments ask for. -/
def Wish.ofArguments (args : List String) : Except UsageFault Wish :=
  match Reading.start.arguments (args.map String.toList) with
  | .ok r => .ok (.run r.options)
  | .error (.wish w) => .ok w
  | .error (.fault f) => .error f

end BrokerRelay.CommandLine

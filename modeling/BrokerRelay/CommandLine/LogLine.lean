import BrokerRelay.Log
/-!
# Log lines

The two written forms of an event, each on one line: an object in JSON, and plain text. Neither has a
time.
-/

namespace BrokerRelay.CommandLine

/-- One character inside a JSON string. Controls are escaped, by a letter if they have one. -/
def jsonChar (c : Char) : List Char :=
  if c = '"' then ['\\', '"']
  else if c = '\\' then ['\\', '\\']
  else if c = '\n' then ['\\', 'n']
  else if c = '\r' then ['\\', 'r']
  else if c = '\t' then ['\\', 't']
  else if c.toNat < 0x20 then
    ['\\', 'u', '0', '0', Nat.digitChar (c.toNat / 16), Nat.digitChar (c.toNat % 16)]
  else [c]

/-- A JSON string. -/
def jsonString (s : String) : String :=
  String.ofList ('"' :: s.toList.flatMap jsonChar ++ ['"'])

/-- A JSON object, from the texts of its members. -/
def jsonObject (members : List (String × String)) : String :=
  "\x7b" ++ ",".intercalate (members.map fun (key, value) => jsonString key ++ ":" ++ value) ++ "\x7d"

/-- An event as a JSON object. -/
def jsonLine (e : LogEvent) : String :=
  let fields := ("message", e.message) :: e.details
  jsonObject [("level", jsonString e.level.text),
    ("fields", jsonObject (fields.map fun (key, value) => (key, jsonString value))),
    ("target", jsonString e.source.target)]

/-- An event as text: its level to the right of five places, its source, its message, its details. -/
def textLine (e : LogEvent) : String :=
  let level := e.level.text
  String.ofList (List.replicate (5 - level.length) ' ') ++ level ++ " " ++ e.source.target ++ ": "
    ++ e.message ++ String.join (e.details.map fun (key, value) => " " ++ key ++ "=" ++ value)

/-- The lines of events. -/
def logText (json : Bool) (events : List LogEvent) : String :=
  String.join (events.map fun e => (if json then jsonLine e else textLine e) ++ "\n")

end BrokerRelay.CommandLine

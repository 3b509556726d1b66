import BrokerRelay.CommandLine.LogLine
import BrokerRelay.CommandLine.Program
/-!
# The command

Collects what a run meets (its arguments, the files that its configuration names and the variables that
its secrets mention), hands it to `CommandLine.run`, and shows the report. This layer opens no sockets:
to it every network operation is one that the system does not have, so a run ends when it has checked
its configuration and key material and would start to listen.
-/

namespace BrokerRelay.CommandLine

/-- The failure that an error of the system stands for. -/
def failureOf (e : IO.Error) : IoFailure :=
  match e with
  | .noFileOrDirectory .. => .notFound
  | .permissionDenied .. => .permissionDenied
  | .inappropriateType _ code _ => if code = 21 then .isDirectory else .notDirectory
  | _ => .other (toString e)

/-- What reading a file yields. -/
def readFile (path : String) : IO (Except IoFailure Bytes) := do
  if path.toList.contains '\x00' then return .error .nulInPath
  try
    let content ← IO.FS.readBinFile path
    return .ok content.toList
  catch e => return .error (failureOf e)

/-- What reading these files yields; no others are read. -/
def readFiles (paths : List String) : IO Storage := do
  let results ← paths.mapM fun path => do return (path, ← readFile path)
  return ⟨fun path => (results.lookup path).getD (.error .notFound)⟩

/-- These variables, as far as they are set. -/
def readEnvironment (names : List String) : IO Environment := do
  let vars ← names.mapM fun name => do return (← IO.getEnv name).map (name, ·)
  return ⟨vars.filterMap id⟩

/-- The failure of an operation that the system does not have. -/
def unavailable : IoFailure := .other "Function not implemented (os error 38)"

/-- A network without sockets. -/
def noNetwork : Dial.Network where
  resolve host := some (0, match IpAddress.ofChars? host with
    | some ip => .ok [ip]
    | none => .error unavailable)
  connect _ := some (0, .error unavailable)
  prepare _ := .error unavailable
  secure _ _ _ := some (0, .error unavailable.message)
  bind _ := .error unavailable

/-- What a run with these arguments meets. -/
def collect (args : List String) : IO World := do
  match Wish.ofArguments args with
  | .ok (.run o) =>
    let path := o.config.getD defaultConfig
    let files ← readFiles [path]
    match Config.Settings.ofFile files path with
    | .ok s =>
      return ⟨← readFiles (path :: s.files), ← readEnvironment (filterVariable :: s.variables), noNetwork⟩
    | .error _ => return ⟨files, .empty, noNetwork⟩
  | _ => return ⟨FileTree.storage ⟨[]⟩, .empty, noNetwork⟩

end BrokerRelay.CommandLine

open BrokerRelay.CommandLine in
/-- Runs the program with the arguments of the command line. -/
def main (args : List String) : IO UInt32 := do
  let report := run (← collect args) args
  IO.print (report.stdout ++ logText report.json report.events)
  IO.eprint report.stderr
  return UInt32.ofNat report.exitCode

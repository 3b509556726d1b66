import BrokerRelay.Failure.Io
import BrokerRelay.Text.Split
/-!
# Files

A storage answers what reading a path yields. One that can be written down is a file tree: the files
below a working directory, in which a path is walked component by component, so that a missing entry,
a file used as a directory and a directory used as a file are told apart.
-/

namespace BrokerRelay

/-- A file: the components of its path and what it holds. -/
structure StoredFile where
  path : List (List Char)
  content : Bytes

/-- What reading files yields, by path. -/
structure Storage where
  read : String → Except IoFailure Bytes

/-- Reads a file that holds text. -/
def Storage.readText (s : Storage) (path : String) : Except IoFailure String := do
  match Bytes.decodeUtf8 (← s.read path) with
  | .ok text => return text
  | .error _ => throw .notUtf8

/-- The files below a working directory. -/
structure FileTree where
  files : List StoredFile

namespace FileTree

/-- The components of a path; empty ones and `.` say nothing. -/
def components (path : List Char) : List (List Char) :=
  (Text.splitAt '/' path).filter fun part => part != [] && part != ['.']

/-- A file tree from paths and contents. -/
def ofList (files : List (String × Bytes)) : FileTree :=
  ⟨files.map fun (path, content) => ⟨components path.toList, content⟩⟩

/-- What the file with these components holds. -/
def file? (t : FileTree) (path : List (List Char)) : Option Bytes :=
  (t.files.find? (·.path == path)).map StoredFile.content

/-- The components name a directory: the working directory, or one that holds a file. -/
def isDirectory (t : FileTree) (path : List (List Char)) : Bool :=
  path == [] || t.files.any fun f => path.isPrefixOf f.path && path != f.path

/-- What a walk arrives at. -/
inductive Place where
  | directory (path : List (List Char))
  | file (content : Bytes)

/-- Walks the parts of a path from a directory. A file has no parts below it, not even `.`. -/
def walk (t : FileTree) : Place → List (List Char) → Except IoFailure Place
  | place, [] => .ok place
  | .file _, _ :: _ => .error .notDirectory
  | .directory dir, part :: parts =>
    if part == [] || part == ['.'] then walk t (.directory dir) parts
    else if part == ['.', '.'] then
      if dir == [] then .error .notFound else walk t (.directory dir.dropLast) parts
    else
      let path := dir ++ [part]
      if t.isDirectory path then walk t (.directory path) parts
      else
        match t.file? path with
        | some content => walk t (.file content) parts
        | none => .error .notFound

/-- Reads a file. Nothing outside the working directory exists. -/
def read (t : FileTree) (path : String) : Except IoFailure Bytes :=
  let cs := path.toList
  if cs.contains '\x00' then .error .nulInPath
  else if cs.isEmpty || cs.head? == some '/' then .error .notFound
  else
    match t.walk (.directory []) (Text.splitAt '/' cs) with
    | .error e => .error e
    | .ok (.directory _) => .error .isDirectory
    | .ok (.file content) => .ok content

/-- The storage that holds these files and no others. -/
def storage (t : FileTree) : Storage := ⟨t.read⟩

end FileTree

end BrokerRelay

import IssueGraph.Files.Basic

/-!
# Directories in memory

A directory is a list of files and directories with the names that lead to them. A path is followed
name by name, and what is passed on the way has to be a directory. Of what lies outside only the
directories above are known.
-/
namespace IssueGraph

/-- Files with their bytes, and directories without, by the names that lead to them. -/
structure Directory where
  entries : List (List String × Option (List UInt8)) := []
  deriving Repr, Inhabited

namespace Directory

/-- What is at a place. -/
inductive Entry where
  | file (bytes : List UInt8)
  | folder
  | absent
  deriving DecidableEq, Repr

/-- A place in the directory, by the names that lead there, or one above it. -/
abbrev Place := Option (List String)

/-- What is at a place. A directory need not be listed if something in it is. -/
def entry (d : Directory) : Place → Entry
  | none => .folder
  | some names =>
    match d.entries.lookup names with
    | some (some bytes) => .file bytes
    | some none => .folder
    | none =>
      if names.isEmpty || d.entries.any (names.isPrefixOf ·.1) then .folder else .absent

/-- The most bytes in a name. -/
def maxNameBytes : Nat := 255

/-- The number of bytes from which on a path is too long. -/
def pathBytesLimit : Nat := 4096

/-- The place that one part of a path leads to from a directory. -/
def step (place : Place) (part : String) : Except FileFault Place :=
  if part.isEmpty || part == "." then .ok place
  else if maxNameBytes < part.utf8ByteSize then .error .nameTooLong
  else match place with
    | none => if part == ".." then .ok none else .error .notFound
    | some names =>
      if part != ".." then .ok (some (names ++ [part]))
      else if names.isEmpty then .ok none
      else .ok (some names.dropLast)

/-- What the parts of a path lead to from a place. -/
def walk (d : Directory) (place : Place) : List String → Except FileFault Entry
  | [] =>
    match d.entry place with
    | .absent => .error .notFound
    | e => .ok e
  | part :: parts =>
    match d.entry place with
    | .file _ => .error .notDirectory
    | .absent => .error .notFound
    | .folder =>
      match step place part with
      | .ok next => d.walk next parts
      | .error fault => .error fault

/-- What a path leads to. -/
def find (d : Directory) (path : String) : Except FileFault Entry :=
  if path.toList.contains '\x00' then .error .nulInName
  else if path.isEmpty then .error .notFound
  else if pathBytesLimit ≤ path.utf8ByteSize then .error .nameTooLong
  else d.walk (if Path.isAbsolute path then none else some []) (Path.parts path)

/-- The directory that holds files with these paths, and directories where there are no bytes. -/
def ofPaths (paths : List (String × Option (List UInt8))) : Directory where
  entries := paths.map fun p => ((Path.parts p.1).filter fun q => !q.isEmpty && q != ".", p.2)

/-- The files of a program that runs in the directory. -/
def files (d : Directory) : Files :=
  .ofRead fun path =>
    match d.find path with
    | .ok (.file bytes) => .ok bytes
    | .ok .folder => .error .isDirectory
    | .ok .absent => .error .notFound
    | .error fault => .error fault

end Directory

end IssueGraph

/-!
# Files

Files are named by paths whose parts are set apart by slashes. Reading one gives its bytes or the
fault with which the system refuses.
-/
namespace IssueGraph

/-- Why the system does not give out a file. -/
inductive FileFault where
  | notFound
  /-- Something on the way is a file, not a directory. -/
  | notDirectory
  | isDirectory
  | nameTooLong
  | nulInName
  | other (code : Nat) (text : String)
  deriving DecidableEq, Repr

namespace FileFault

/-- A fault that the system counts, by its number. -/
def numbered (code : Nat) (text : String) : String :=
  text ++ " (os error " ++ toString code ++ ")"

def message : FileFault → String
  | notFound => numbered 2 "No such file or directory"
  | notDirectory => numbered 20 "Not a directory"
  | isDirectory => numbered 21 "Is a directory"
  | nameTooLong => numbered 36 "File name too long"
  | nulInName => "file name contained an unexpected NUL byte"
  | other code text => numbered code text

end FileFault

/-- The files that a program sees. -/
structure Files where
  /-- Whether there is something at a path. -/
  has : String → Except FileFault Bool
  /-- The bytes of the file at a path. -/
  read : String → Except FileFault (List UInt8)

namespace Files

/-- The files that are known by reading them. Something that cannot be read is there unless it is
just not found. -/
def ofRead (read : String → Except FileFault (List UInt8)) : Files where
  has path :=
    match read path with
    | .ok _ | .error .isDirectory => .ok true
    | .error .notFound => .ok false
    | .error fault => .error fault
  read

end Files

namespace Path

/-- The parts of a path between slashes; there is at least one. -/
def split : List Char → List (List Char)
  | [] => [[]]
  | c :: cs =>
    if c = '/' then [] :: split cs
    else match split cs with
      | [] => [[c]]
      | p :: ps => (c :: p) :: ps

/-- The parts of a path between slashes. -/
def parts (path : String) : List String := (split path.toList).map String.ofList

def isAbsolute (path : String) : Bool := path.toList.head? == some '/'

/-- The parts that lead somewhere: empty ones and single dots do not, but for a dot at the start. -/
def steps (path : String) : List String :=
  match parts path with
  | [] => []
  | p :: ps =>
    let rest := ps.filter fun q => !q.isEmpty && q != "."
    if p.isEmpty then rest else p :: rest

/-- The path of `name` in the directory that holds `path`. -/
def sibling (path name : String) : String :=
  let within := String.intercalate "/" ((steps path).dropLast ++ [name])
  if isAbsolute path && !(steps path).isEmpty then "/" ++ within else within

end Path

end IssueGraph

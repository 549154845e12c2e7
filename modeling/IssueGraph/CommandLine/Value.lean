import IssueGraph.CommandLine.Level
import IssueGraph.Dependency
import IssueGraph.Text.Basic

/-!
# Values on a command line

Ids and types are trimmed of blanks, and have to have something left.
-/
namespace IssueGraph.CommandLine

/-- Why a word is no id or type. -/
inductive Unfit where
  | emptyId
  | blankInId (id : String)
  | emptyType
  deriving DecidableEq, Repr

namespace Unfit

def message : Unfit → String
  | emptyId => "Issue ID cannot be empty"
  | blankInId id => "Invalid issue ID '" ++ id ++ "': IDs cannot contain whitespace"
  | emptyType => "Dependency type cannot be empty"

end Unfit

/-- An id, which has no blanks in it. -/
def issueId (word : String) : Except Unfit IssueId :=
  let id := Text.trimString word
  if id.isEmpty then .error .emptyId
  else if id.toList.any Text.isBlank then .error (.blankInId id)
  else .ok id

/-- A dependency type. -/
def dependencyType (word : String) : Except Unfit DependencyType :=
  let tag := Text.trimString word
  if tag.isEmpty then .error .emptyType else .ok (.ofTag tag)

/-- The words between commas; there is at least one. -/
def splitAtCommas : List Char → List (List Char)
  | [] => [[]]
  | c :: cs =>
    if c = ',' then [] :: splitAtCommas cs
    else match splitAtCommas cs with
      | [] => [[c]]
      | w :: ws => (c :: w) :: ws

/-- Dependency types between commas. -/
def dependencyTypes (word : String) : Except Unfit (List DependencyType) :=
  (splitAtCommas word.toList).mapM (dependencyType <| String.ofList ·)

/-- A path, which is not empty. -/
def path (word : String) : Except Stop String :=
  if word.isEmpty then .error .missingValue else .ok word

/-- The number of values that a depth can have, with zero, which it cannot. -/
def depthLimit : Nat := Nat.pow 2 32

/-- A depth of one at least. -/
def depth (word : String) : Except Stop Nat :=
  match Text.number? word with
  | some n => if 0 < n && n < depthLimit then .ok n else .error .unfitValue
  | none => .error .unfitValue

/-- The length of a listing. -/
def listingLimit (word : String) : Except Stop Nat :=
  match Text.number? word with
  | some n => .ok n
  | none => .error .unfitValue

/-- A value of a word that may be unfit. -/
def fit {α : Type} (read : String → Except Unfit α) (word : String) : Except Stop α :=
  (read word).mapError fun _ => .unfitValue

end IssueGraph.CommandLine

import IssueGraph.Issue.Json
import IssueGraph.Json.Shape.Text
import IssueGraph.Log
import IssueGraph.Text.Basic
import IssueGraph.Text.Utf8

/-!
# Collections of issues

A collection is read from lines of JSON, one issue a line. A line that is no issue and an issue
whose id was taken are left out with a warning, and a priority that is too low is raised to the
lowest one. Only bytes that are no text end the reading.
-/
namespace IssueGraph

/-- What was wrong with a line. -/
inductive Warning where
  | malformed (line : Nat) (fault : Json.Fault)
  | duplicate (line : Nat) (id : IssueId)
  | priority (line : Nat) (id : IssueId) (priority : Priority)
  deriving DecidableEq, Repr

namespace Warning

/-- The line, counted from one. -/
def lineNumber : Warning → Nat
  | malformed line _ | duplicate line _ | priority line _ _ => line

/-- The name of the kind of warning. -/
def kind : Warning → String
  | malformed .. => "malformed_json"
  | duplicate .. => "duplicate_id"
  | priority .. => "priority_out_of_range"

def message : Warning → String
  | malformed line fault => "line " ++ toString line ++ ": malformed JSON: " ++ fault.message
  | duplicate line id => "line " ++ toString line ++ ": duplicate issue ID " ++ id ++ ", skipped"
  | priority line id p =>
    "line " ++ toString line ++ ": issue " ++ id ++ " has priority " ++ toString p.toNat ++
      " outside " ++ toString Priority.highest.toNat ++ "-" ++ toString Priority.lowest.toNat ++
      ", using " ++ toString Priority.lowest.toNat

def logEntry (w : Warning) : LogEntry :=
  { message := w.message
    fields := [("line", toString w.lineNumber), ("kind", Text.quoted w.kind)] }

end Warning

structure Collection where
  issues : List Issue := []
  warnings : List Warning := []
  deriving DecidableEq, Repr, Inhabited

namespace Collection

/-- Whether an issue with this id is in the collection. -/
def hasId (c : Collection) (id : IssueId) : Bool := c.issues.any (·.id == id)

def warn (c : Collection) (w : Warning) : Collection := { c with warnings := c.warnings ++ [w] }

/-- Add an issue found on a line, unless its id is taken. -/
def add (c : Collection) (line : Nat) (issue : Issue) : Collection :=
  if c.hasId issue.id then c.warn (.duplicate line issue.id)
  else if issue.priority ≤ Priority.lowest then { c with issues := c.issues ++ [issue] }
  else
    { issues := c.issues ++ [issue.withPriority Priority.lowest]
      warnings := c.warnings ++ [.priority line issue.id issue.priority] }

/-- Add what is on a line; a blank line adds nothing. -/
def addLine (c : Collection) (line : Nat) (text : List Char) : Collection :=
  let text := String.ofList (Text.trim text)
  if text.isEmpty then c
  else match Issue.shape.readText text with
    | .ok issue => c.add line issue
    | .error fault => c.warn (.malformed line fault)

/-- Add lines, the first of which has the given number, up to one that is no text. A line is decoded
without what ends it, so a character that the line ends in the middle of is an incomplete one. -/
def addLines (c : Collection) (number : Nat) :
    List (List UInt8) → Collection × Option Utf8.Fault
  | [] => (c, none)
  | l :: ls =>
    match Utf8.decode l with
    | .ok text => (c.addLine number text).addLines (number + 1) ls
    | .error fault => (c, some fault)

/-- The collection in some bytes, with the fault that ended the reading early, if there was one. -/
def read (bytes : List UInt8) : Collection × Option Utf8.Fault :=
  ({} : Collection).addLines 1 (Text.linesOf 10 13 bytes)

end Collection

end IssueGraph

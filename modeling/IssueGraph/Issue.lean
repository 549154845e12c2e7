import IssueGraph.Dependency

/-!
# Issues

An issue carries a title, a priority, perhaps a status, and the dependencies recorded with it. The
`issueId` of a recorded dependency may name any issue, not only the one that carries the record.
-/
namespace IssueGraph

inductive Status where
  | opened
  | inProgress
  | review
  | blocked
  | closed
  | deferred
  deriving DecidableEq, Repr, Inhabited

namespace Status

/-- The written form. -/
def word : Status → String
  | opened => "open"
  | inProgress => "in_progress"
  | review => "review"
  | blocked => "blocked"
  | closed => "closed"
  | deferred => "deferred"

def all : List Status := [opened, inProgress, review, blocked, closed, deferred]

/-- Closed and deferred issues are never ready, whatever blocks them. -/
def isTerminalOrPaused : Status → Bool
  | closed | deferred => true
  | _ => false

end Status

/-- Urgency as a byte; issues that were loaded lie between `highest` and `lowest`. -/
abbrev Priority := UInt8

namespace Priority

def highest : Priority := 0

def lowest : Priority := 4

/-- The priority of an issue that states none. -/
def ordinary : Priority := 2

end Priority

structure Issue where
  id : IssueId
  title : String := ""
  priority : Priority := Priority.ordinary
  status : Option Status := none
  dependencies : List Dependency := []
  deriving DecidableEq, Repr, Inhabited

namespace Issue

/-- A new open issue. -/
def new (id : IssueId) (title : String) : Issue :=
  { id := id, title := title, status := some .opened }

def withStatus (i : Issue) (status : Option Status) : Issue := { i with status := status }

def withPriority (i : Issue) (priority : Priority) : Issue := { i with priority := priority }

/-- Record that this issue needs `target`. -/
def dependsOn (i : Issue) (target : IssueId) (type : DependencyType) : Issue :=
  { i with dependencies := i.dependencies ++ [⟨i.id, target, type⟩] }

def isClosed (i : Issue) : Bool := i.status == some .closed

/-- The placeholder for an issue that is named but not present. -/
def missing (id : IssueId) : Issue :=
  { id := id, title := "Missing: " ++ id, priority := Priority.lowest }

end Issue

/-- An issue can be worked on unless it is closed, deferred or known to be blocked. Without a set of
blocked ids nothing is known to be blocked. -/
def isReady (id : IssueId) (status : Option Status) (blocked : Option (SortedSet IssueId)) : Bool :=
  !(status.any Status.isTerminalOrPaused) && !(blocked.any (·.contains id))

end IssueGraph

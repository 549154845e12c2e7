import IssueGraph.Graph.Basic

/-!
# Listings of nodes

Two orders in which nodes of a graph are worth looking at: the issues that block most, and the
issues to work on next.
-/
namespace IssueGraph

namespace Node

/-- Whether `a` blocks more than `b`, or as much and comes first by its id. -/
def blocksMore (a b : Node) : Bool :=
  b.data.blockedCount < a.data.blockedCount ||
    a.data.blockedCount == b.data.blockedCount && decide (a.issueId ≤ b.issueId)

/-- Whether `a` has a higher priority than `b`, or the same one and comes first by its id. -/
def isMoreUrgent (a b : Node) : Bool :=
  decide (a.data.issue.priority < b.data.issue.priority) ||
    a.data.issue.priority == b.data.issue.priority && decide (a.issueId ≤ b.issueId)

end Node

namespace Graph

/-- The issues that block others, those that block most first. -/
def topBlockers (g : Graph) (limit : Nat) : List Node :=
  ((g.realNodes.filter (0 < ·.data.blockedCount)).mergeSort Node.blocksMore).take limit

/-- The issues that are ready, the most urgent first. -/
def readyIssues (g : Graph) (limit : Option Nat) : List Node :=
  let nodes := g.readyNodes.mergeSort Node.isMoreUrgent
  match limit with
  | some n => nodes.take n
  | none => nodes

end Graph

end IssueGraph

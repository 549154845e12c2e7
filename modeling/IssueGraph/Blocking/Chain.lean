import IssueGraph.Graph.Basic
import IssueGraph.Search

/-!
# Blocking chains

The blocking edges of a graph give pairs of a blocked issue and its blocker. The chain of an issue
holds the issues that block it and the issues it blocks, directly or through others, within a number
of hops; the blocked count of an issue has no such limit. Both depend on the pairs alone.
-/
namespace IssueGraph

/-- The blocked issue and the blocker of each blocking edge. -/
def blockingPairs (edges : List Edge) : List (IssueId × IssueId) :=
  edges.filterMap Edge.blockingPair?

/-- Which way to follow a pair: up to the blocker, or down to the blocked issue. -/
inductive Direction where
  | toBlockers
  | toBlocked
  deriving DecidableEq, Repr, Inhabited

namespace Direction

/-- The pair with the end it is followed from first. -/
def orient : Direction → IssueId × IssueId → IssueId × IssueId
  | toBlockers, p => p
  | toBlocked, p => (p.2, p.1)

end Direction

/-- The issues one hop away from `id`. -/
def neighbours (direction : Direction) (pairs : List (IssueId × IssueId)) (id : IssueId) :
    List IssueId :=
  pairs.filterMap fun p =>
    let q := direction.orient p
    if q.1 == id then some q.2 else none

/-- The ids at either end of a pair. -/
def endpoints (pairs : List (IssueId × IssueId)) : List IssueId := pairs.flatMap fun p => [p.1, p.2]

/-- The search from one issue, before its first visit. There is nothing to visit if the issue is at
no end of a pair. -/
def walkStart (pairs : List (IssueId × IssueId)) (id : IssueId) : Search.State IssueId :=
  .start ([id].filter (endpoints pairs).contains) (endpoints pairs)

/-- The search from one issue along the pairs. -/
def walk (direction : Direction) (pairs : List (IssueId × IssueId)) (limit : Option Nat)
    (id : IssueId) : Search.State IssueId :=
  (walkStart pairs id).run (neighbours direction pairs) limit

/-- The issues around one issue. -/
@[ext]
structure Chain where
  /-- The issues that block it, directly or through others. -/
  blockers : SortedSet IssueId := .empty
  /-- The issues that it blocks, directly or through others. -/
  blockedBy : SortedSet IssueId := .empty
  blockedCount : Nat := 0
  /-- Whether the limit on hops left an issue out. -/
  truncated : Bool := false
  deriving DecidableEq, Repr, Inhabited

namespace Chain

/-- The number of hops followed unless another one is asked for. -/
def defaultDepth : Nat := 20

/-- The chain of an issue over a list of edges, within `depth` hops each way. -/
def ofEdges (edges : List Edge) (id : IssueId) (depth : Nat) : Chain :=
  let pairs := blockingPairs edges
  let up := walk .toBlockers pairs (some depth) id
  let down := walk .toBlocked pairs (some depth) id
  { blockers := .ofList up.reached
    blockedBy := .ofList down.reached
    blockedCount := down.reached.length
    truncated := up.cut || down.cut }

end Chain

/-- How many other issues wait for `id`, directly or through others. -/
def blockedCount (pairs : List (IssueId × IssueId)) (id : IssueId) : Nat :=
  (walk .toBlocked pairs none id).reached.length

/-- The blocked count of each of the given issues. -/
def blockedCounts (ids : List IssueId) (edges : List Edge) : SortedMap IssueId Nat :=
  let pairs := blockingPairs edges
  .ofList (ids.map fun id => (id, blockedCount pairs id))

end IssueGraph

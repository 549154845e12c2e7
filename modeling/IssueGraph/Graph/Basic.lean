import IssueGraph.Issue

/-!
# The rendered dependency graph

A graph has one node per issue, one edge per kept dependency and a placeholder node, called a ghost,
for each kept target that is missing. An edge points from the dependent issue to the issue it needs.
-/
namespace IssueGraph

/-- The identifier of the node of an issue. -/
def nodeId (id : IssueId) : String := "node-" ++ id

/-- The identifier of the edge of a dependency. Each issue id is preceded by its length in bytes,
so that no text inside an id can be taken for a separator. -/
def edgeId (issueId dependsOnId : IssueId) (type : DependencyType) : String :=
  "edge-" ++ toString issueId.utf8ByteSize ++ ":" ++ issueId ++ "-" ++
    toString dependsOnId.utf8ByteSize ++ ":" ++ dependsOnId ++ "-" ++ type.tag

structure Position where
  x : Float := 0.0
  y : Float := 0.0
  deriving DecidableEq, Repr, Inhabited

/-- What is known about the issue behind a node. -/
structure NodeData where
  issue : Issue
  /-- Edges that leave this issue. -/
  dependencyCount : Nat
  /-- Edges that arrive at this issue. -/
  dependentCount : Nat
  isReady : Bool
  /-- Other issues that wait for this one, directly or indirectly. -/
  blockedCount : Nat
  /-- Blocks something and is not itself known to be blocked. -/
  isRootBlocker : Bool
  isClosed : Bool
  isGhost : Bool
  deriving DecidableEq, Repr, Inhabited

structure Node where
  id : String
  position : Position
  data : NodeData
  deriving DecidableEq, Repr, Inhabited

namespace Node

def issueId (n : Node) : IssueId := n.data.issue.id

end Node

/-- The dependency behind an edge. -/
structure EdgeData where
  depType : DependencyType
  isBlocking : Bool
  sourceIssueId : IssueId
  targetIssueId : IssueId
  deriving DecidableEq, Repr, Inhabited

structure Edge where
  id : String
  source : String
  target : String
  /-- An edge without data never blocks. -/
  data : Option EdgeData
  deriving DecidableEq, Repr, Inhabited

namespace Edge

/-- The edge of a dependency. -/
def ofDependency (d : Dependency) : Edge :=
  { id := edgeId d.issueId d.dependsOnId d.type
    source := nodeId d.issueId
    target := nodeId d.dependsOnId
    data := some
      { depType := d.type
        isBlocking := d.type.isBlocking
        sourceIssueId := d.issueId
        targetIssueId := d.dependsOnId } }

def isBlocking (e : Edge) : Bool := e.data.any EdgeData.isBlocking

/-- The blocked issue and its blocker, if the edge blocks. -/
def blockingPair? (e : Edge) : Option (IssueId × IssueId) :=
  match e.data with
  | some d => if d.isBlocking then some (d.sourceIssueId, d.targetIssueId) else none
  | none => none

end Edge

/-- What to keep in a graph. -/
structure BuildOptions where
  /-- The dependency types to keep; without a set every type is kept. -/
  types : Option (SortedSet DependencyType) := none
  /-- The issues known to be blocked. -/
  blocked : Option (SortedSet IssueId) := none
  /-- Whether dependencies on missing issues are kept. -/
  orphans : Bool := false
  deriving DecidableEq, Inhabited

namespace BuildOptions

def withTypes (o : BuildOptions) (types : List DependencyType) : BuildOptions :=
  { o with types := some (.ofList types) }

def withBlocked (o : BuildOptions) (blocked : SortedSet IssueId) : BuildOptions :=
  { o with blocked := some blocked }

def withOrphans (o : BuildOptions) (orphans : Bool) : BuildOptions := { o with orphans := orphans }

/-- Whether a dependency of this type passes the type filter. -/
def accepts (o : BuildOptions) (type : DependencyType) : Bool := o.types.all (·.contains type)

end BuildOptions

structure NodeDimensions where
  width : Float
  height : Float
  deriving DecidableEq, Repr, Inhabited

/-- What a layout needs to know: sized nodes and the two ends of each edge. -/
structure Layout where
  nodes : List (String × NodeDimensions)
  edges : List (String × String)
  deriving DecidableEq, Repr, Inhabited

structure Graph where
  nodes : List Node := []
  edges : List Edge := []
  nodeIds : SortedMap IssueId String := .empty
  totalDependencies : Nat := 0
  blockingDependencies : Nat := 0
  orphanEdgeCount : Nat := 0
  missingTargetIds : SortedSet IssueId := .empty
  deriving DecidableEq, Inhabited

namespace Graph

/-- The first node that carries the node id recorded for an issue. -/
def node? (g : Graph) (id : IssueId) : Option Node :=
  (g.nodeIds.find? id).bind fun n => g.nodes.find? (·.id == n)

/-- Nodes of issues that are present. -/
def realNodes (g : Graph) : List Node := g.nodes.filter (!·.data.isGhost)

/-- Placeholder nodes of missing issues. -/
def ghostNodes (g : Graph) : List Node := g.nodes.filter (·.data.isGhost)

def readyNodes (g : Graph) : List Node := g.realNodes.filter (·.data.isReady)

def isEmpty (g : Graph) : Bool := g.nodes.isEmpty

/-- The input of a layout in which every node has the same size. -/
def layout (g : Graph) (size : NodeDimensions) : Layout :=
  { nodes := g.nodes.map fun n => (n.id, size)
    edges := g.edges.map fun e => (e.source, e.target) }

end Graph

end IssueGraph

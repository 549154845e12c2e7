import IssueGraph.Blocking.Chain

/-!
# Building the graph of a collection

A dependency is kept when its type passes the filter and its target is present, or missing targets
are allowed. Counts of edges are taken over all kept dependencies, blocked counts over those with a
present target. Nothing is refused: loops, cycles and repeated records are all drawn.
-/
namespace IssueGraph.Graph

/-- Whether an issue with this id is in the collection. -/
def isPresent (issues : List Issue) (id : IssueId) : Bool := issues.any (·.id == id)

/-- Whether a dependency is kept. -/
def keeps (issues : List Issue) (options : BuildOptions) (d : Dependency) : Bool :=
  options.accepts d.type && (options.orphans || isPresent issues d.dependsOnId)

/-- The kept dependencies, in the order of the issues that carry them. -/
def kept (issues : List Issue) (options : BuildOptions) : List Dependency :=
  (issues.flatMap (·.dependencies)).filter (keeps issues options)

/-- The missing targets among some dependencies, each once, in order of first mention. -/
def missingTargets (issues : List Issue) (dependencies : List Dependency) : List IssueId :=
  ((dependencies.map (·.dependsOnId)).filter (!isPresent issues ·)).eraseDups

/-- The node of an issue that is present. -/
def realNode (options : BuildOptions) (dependencies : List Dependency)
    (pairs : List (IssueId × IssueId)) (issue : Issue) : Node :=
  let blockedCount := IssueGraph.blockedCount pairs issue.id
  { id := nodeId issue.id
    position := {}
    data :=
      { issue := issue
        dependencyCount := dependencies.countP (·.issueId == issue.id)
        dependentCount := dependencies.countP (·.dependsOnId == issue.id)
        isReady := IssueGraph.isReady issue.id issue.status options.blocked
        blockedCount := blockedCount
        isRootBlocker := 0 < blockedCount && !options.blocked.any (·.contains issue.id)
        isClosed := issue.isClosed
        isGhost := false } }

/-- The placeholder node of an issue that is missing. -/
def ghostNode (dependencies : List Dependency) (id : IssueId) : Node :=
  { id := nodeId id
    position := {}
    data :=
      { issue := Issue.missing id
        dependencyCount := 0
        dependentCount := dependencies.countP (·.dependsOnId == id)
        isReady := false
        blockedCount := 0
        isRootBlocker := false
        isClosed := false
        isGhost := true } }

/-- The graph of a collection of issues. -/
def build (issues : List Issue) (options : BuildOptions) : Graph :=
  let dependencies := kept issues options
  let real := dependencies.filter (isPresent issues ·.dependsOnId)
  let missing := missingTargets issues dependencies
  let pairs := blockingPairs (real.map Edge.ofDependency)
  { nodes :=
      issues.map (realNode options dependencies pairs) ++ missing.map (ghostNode dependencies)
    edges := dependencies.map Edge.ofDependency
    nodeIds := .ofList ((issues.map (·.id) ++ missing).map fun id => (id, nodeId id))
    totalDependencies := dependencies.length
    blockingDependencies := dependencies.countP (·.type.isBlocking)
    orphanEdgeCount := dependencies.countP (!isPresent issues ·.dependsOnId)
    missingTargetIds := .ofList missing }

end IssueGraph.Graph

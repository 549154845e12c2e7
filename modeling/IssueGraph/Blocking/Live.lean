import IssueGraph.Issue
import IssueGraph.Search

/-!
# Live blocked issues

An open issue is blocked when it needs an open issue through a dependency that blocks directly, or
when it is a child, within fifty levels, of an open issue that is blocked. An open parent alone does
not block its children. Dependencies with a missing end play no part.
-/
namespace IssueGraph

namespace DependencyType

/-- Whether an open target blocks the dependent at once. Being a child only passes a block on. -/
def blocksDirectly : DependencyType → Bool
  | known .blocks | known .conditionalBlocks | known .waitsFor => true
  | _ => false

end DependencyType

namespace Live

/-- How many levels of children a block is passed down. -/
def maxLevels : Nat := 50

/-- Whether the id names an issue that is not closed; of two issues with one id the later counts. -/
def isOpen (issues : List Issue) (id : IssueId) : Bool :=
  (issues.reverse.find? (·.id == id)).any (!·.isClosed)

/-- The dependencies whose ends are both open. -/
def openDependencies (issues : List Issue) : List Dependency :=
  (issues.flatMap (·.dependencies)).filter fun d =>
    isOpen issues d.issueId && isOpen issues d.dependsOnId

/-- The issues that wait for an open issue themselves. -/
def directlyBlocked (dependencies : List Dependency) : List IssueId :=
  ((dependencies.filter (·.type.blocksDirectly)).map (·.issueId)).eraseDups

/-- The children of an issue. -/
def children (dependencies : List Dependency) (id : IssueId) : List IssueId :=
  (dependencies.filter fun d => d.type == .known .parentChild && d.dependsOnId == id).map
    (·.issueId)

/-- The search from the directly blocked issues down to their children. -/
def propagate (dependencies : List Dependency) : Search.State IssueId :=
  (Search.State.start (directlyBlocked dependencies) (dependencies.map (·.issueId))).run
    (children dependencies) (some maxLevels)

end Live

/-- The issues that are blocked by open issues. -/
def liveBlocked (issues : List Issue) : SortedSet IssueId :=
  .ofList ((Live.propagate (Live.openDependencies issues)).visited.map (·.1))

end IssueGraph

import IssueGraph.Blocking.Chain
import IssueGraph.Report.Style
import IssueGraph.Text.Wrap

/-!
# Reports for people

The lines of the reports on a graph, on a chain, on the issues that block most and on those that are
ready. Titles are wrapped; their further lines are indented.
-/
namespace IssueGraph.Report

/-- The text of some lines. -/
def print (lines : List String) : String :=
  String.ofList (lines.flatMap fun l => l.toList ++ ['\n'])

/-- The fewest columns that a title is wrapped to. -/
def minTitleWidth : Nat := 20

/-- The report on a graph says below a node how it is connected. -/
def countsText (d : NodeData) : String :=
  "blocks " ++ toString d.blockedCount ++ ", depends on " ++ toString d.dependencyCount ++
    ", needed by " ++ toString d.dependentCount

/-- A number with blanks before it, to two columns. -/
def padStart (n : Nat) : String :=
  let digits := toString n
  String.ofList (List.replicate (2 - digits.length) ' ') ++ digits

/-- A number with blanks after it, to three columns. -/
def padEnd (n : Nat) : String :=
  let digits := toString n
  digits ++ String.ofList (List.replicate (3 - digits.length) ' ')

section Reports

variable (c : Console) (s : Settings)

/-- What stands before the title of a node. -/
def nodeHead (indent : String) (n : Node) : String :=
  let issue := n.data.issue
  indent ++ iconText c s (.of n.data) ++ " " ++ idText c s issue.id ++ "  " ++
    priorityText c s issue.priority ++ "  " ++ statusText c s issue.status

/-- The lines of a node, each after `indent`, in a report of the given width. -/
def nodeLines (width : Nat) (indent : String) (n : Node) : List String :=
  let head := nodeHead c s indent n
  match Text.wrap (max minTitleWidth (width - (indent.utf8ByteSize + 4))) n.data.issue.title with
  | [] => [head]
  | first :: rest => (head ++ "  " ++ first) :: rest.map fun l => indent ++ "    " ++ l

/-- The report on a graph. -/
def graphLines (width : Nat) (g : Graph) : List String :=
  if g.isEmpty then ["No issues found."]
  else
    let ghosts := g.ghostNodes.length
    let missing := g.missingTargetIds.toList
    [heading c s "Dependency graph:" ++ " " ++ toString (g.nodes.length - ghosts) ++
        " issue(s), " ++ toString ghosts ++ " missing, " ++ toString g.edges.length ++ " edge(s)",
      "  " ++ label c s "Dependencies:" ++ " " ++ toString g.totalDependencies ++ " total, " ++
        toString g.blockingDependencies ++ " blocking, " ++ toString g.orphanEdgeCount ++
        " orphan"]
      ++ (if missing.isEmpty then []
        else ["  " ++ label c s "Missing:" ++ " " ++ String.intercalate ", " missing])
      ++ [""]
      ++ g.nodes.flatMap fun n =>
        nodeLines c s width "  " n ++
          if n.data.isGhost then [] else ["      " ++ label c s (countsText n.data)]

/-- A heading with a count, and an id with its title on each line below. -/
def idLines (title : String) (ids : SortedSet IssueId) (g : Graph) : List String :=
  ("  " ++ heading c s title ++ " (" ++ toString ids.size ++ ")") ::
    ids.toList.map fun id =>
      "    " ++ idText c s id ++ " " ++ ((g.node? id).map (·.data.issue.title)).getD ""

/-- The report on a chain; titles come from the graph. -/
def chainLines (id : IssueId) (chain : Chain) (g : Graph) : List String :=
  [heading c s "Blocking chain for" ++ " " ++ idText c s id]
    ++ idLines c s ("Waiting on " ++ arrow s) chain.blockers g
    ++ idLines c s ("Blocks " ++ arrow s) chain.blockedBy g
    ++ ["  " ++ label c s "Blocked count:" ++ " " ++ toString chain.blockedCount]
    ++ if chain.truncated then ["  " ++ label c s "(chain truncated at the depth limit)"] else []

/-- The report on the issues that block most, in the order given. -/
def topLines (width : Nat) (nodes : List Node) : List String :=
  if nodes.isEmpty then ["No blocking issues found."]
  else
    heading c s "Top blockers:" ::
      nodes.zipIdx.flatMap fun (n, i) =>
        nodeLines c s width
          ("  " ++ padStart (i + 1) ++ ". blocks " ++ padEnd n.data.blockedCount ++ " ") n

/-- The report on the issues that are ready, in the order given. -/
def readyLines (width : Nat) (nodes : List Node) : List String :=
  if nodes.isEmpty then ["No ready issues."]
  else
    (heading c s "Ready to work on" ++ " (" ++ toString nodes.length ++ ")") ::
      nodes.flatMap (nodeLines c s width "  ")

end Reports

end IssueGraph.Report

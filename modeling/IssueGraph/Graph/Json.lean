import IssueGraph.Graph.Basic
import IssueGraph.Issue.Json

/-!
# Graphs as JSON

The shapes of graphs, of their parts and of their layouts.
-/
namespace IssueGraph

/-- A count that fits 64 bits. -/
def Json.Shape.size : Json.Shape Nat := .count (Nat.pow 2 64) "usize"

/-- A list in any order, of which each item counts once. -/
def Json.Shape.setOf {α : Type} [Ord α] [Std.TransOrd α] (item : Json.Shape α) :
    Json.Shape (SortedSet α) :=
  .image SortedSet.ofList (.list item)

/-- The members of a set of ids. -/
def idsJson (ids : SortedSet IssueId) : Json := .arr (ids.toList.map .str)

namespace Position

def shape : Json.Shape Position :=
  .image (fun (x, y, ()) => { x, y })
    (.record "Position" (.cons "x" .refused .real (.cons "y" .refused .real .nil)))

def toJson (p : Position) : Json := .obj [("x", .float p.x), ("y", .float p.y)]

end Position

namespace NodeData

def shape : Json.Shape NodeData :=
  .image
    (fun (issue, dependencyCount, dependentCount, isReady, blockedCount, isRootBlocker, isClosed,
        isGhost, ()) =>
      { issue, dependencyCount, dependentCount, isReady, blockedCount, isRootBlocker, isClosed,
        isGhost })
    (.record "NodeData"
      (.cons "issue" .refused Issue.shape
        (.cons "dependencyCount" .refused .size
          (.cons "dependentCount" .refused .size
            (.cons "isReady" .refused .flag
              (.cons "blockedCount" .refused .size
                (.cons "isRootBlocker" .refused .flag
                  (.cons "isClosed" .refused .flag
                    (.cons "isGhost" .refused .flag .nil)))))))))

def toJson (d : NodeData) : Json :=
  .obj
    [("issue", d.issue.toJson), ("dependencyCount", .int d.dependencyCount),
      ("dependentCount", .int d.dependentCount), ("isReady", .bool d.isReady),
      ("blockedCount", .int d.blockedCount), ("isRootBlocker", .bool d.isRootBlocker),
      ("isClosed", .bool d.isClosed), ("isGhost", .bool d.isGhost)]

end NodeData

namespace Node

def shape : Json.Shape Node :=
  .image (fun (id, position, data, ()) => { id, position, data })
    (.record "GraphNode"
      (.cons "id" .refused .text
        (.cons "position" .refused Position.shape
          (.cons "data" .refused NodeData.shape .nil))))

def toJson (n : Node) : Json :=
  .obj [("id", .str n.id), ("position", n.position.toJson), ("data", n.data.toJson)]

end Node

namespace EdgeData

def shape : Json.Shape EdgeData :=
  .image
    (fun (depType, isBlocking, sourceIssueId, targetIssueId, ()) =>
      { depType, isBlocking, sourceIssueId, targetIssueId })
    (.record "EdgeData"
      (.cons "depType" .refused DependencyType.shape
        (.cons "isBlocking" .refused .flag
          (.cons "sourceIssueId" .refused .text
            (.cons "targetIssueId" .refused .text .nil)))))

def toJson (d : EdgeData) : Json :=
  .obj
    [("depType", d.depType.toJson), ("isBlocking", .bool d.isBlocking),
      ("sourceIssueId", .str d.sourceIssueId), ("targetIssueId", .str d.targetIssueId)]

end EdgeData

namespace Edge

def shape : Json.Shape Edge :=
  .image (fun (id, source, target, data, ()) => { id, source, target, data })
    (.record "GraphEdge"
      (.cons "id" .refused .text
        (.cons "source" .refused .text
          (.cons "target" .refused .text
            (.cons "data" (.byDefault none) (.optional EdgeData.shape) .nil)))))

def toJson (e : Edge) : Json :=
  .obj
    ([("id", .str e.id), ("source", .str e.source), ("target", .str e.target)]
      ++ match e.data with
        | some d => [("data", d.toJson)]
        | none => [])

end Edge

namespace NodeDimensions

def shape : Json.Shape NodeDimensions :=
  .image (fun (width, height, ()) => { width, height })
    (.record "NodeDimensions" (.cons "width" .refused .real (.cons "height" .refused .real .nil)))

def toJson (d : NodeDimensions) : Json :=
  .obj [("width", .float d.width), ("height", .float d.height)]

end NodeDimensions

namespace Layout

def shape : Json.Shape Layout :=
  .image (fun (nodes, edges, ()) => { nodes, edges })
    (.record "LayoutInput"
      (.cons "nodes" .refused (.list (.pair .text NodeDimensions.shape))
        (.cons "edges" .refused (.list (.pair .text .text)) .nil)))

def toJson (l : Layout) : Json :=
  .obj
    [("nodes", .arr (l.nodes.map fun n => .arr [.str n.1, n.2.toJson])),
      ("edges", .arr (l.edges.map fun e => .arr [.str e.1, .str e.2]))]

end Layout

namespace Graph

def shape : Json.Shape Graph :=
  .image
    (fun (nodes, edges, nodeIds, totalDependencies, blockingDependencies, orphanEdgeCount,
        missingTargetIds, ()) =>
      { nodes, edges, nodeIds, totalDependencies, blockingDependencies, orphanEdgeCount,
        missingTargetIds })
    (.record "DependencyGraph"
      (.cons "nodes" .refused (.list Node.shape)
        (.cons "edges" .refused (.list Edge.shape)
          (.cons "nodeIds" .refused (.image SortedMap.ofList (.table .text))
            (.cons "totalDependencies" .refused .size
              (.cons "blockingDependencies" .refused .size
                (.cons "orphanEdgeCount" .refused .size
                  (.cons "missingTargetIds" .refused (.setOf .text) .nil))))))))

def toJson (g : Graph) : Json :=
  .obj
    [("nodes", .arr (g.nodes.map Node.toJson)), ("edges", .arr (g.edges.map Edge.toJson)),
      ("nodeIds", .obj (g.nodeIds.entries.map fun e => (e.1, .str e.2))),
      ("totalDependencies", .int g.totalDependencies),
      ("blockingDependencies", .int g.blockingDependencies),
      ("orphanEdgeCount", .int g.orphanEdgeCount),
      ("missingTargetIds", idsJson g.missingTargetIds)]

end Graph

end IssueGraph

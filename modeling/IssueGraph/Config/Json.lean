import IssueGraph.Config.Basic
import IssueGraph.Graph.Json

/-!
# Configurations as JSON

The shapes of configurations and of the options that select what is drawn of a graph.
-/
namespace IssueGraph

namespace Config

def shape : Json.Shape Config :=
  .image
    (fun (maxChainDepth, includeOrphanEdges, nodeWidth, nodeHeight, memoCapacity, ()) =>
      { maxChainDepth, includeOrphanEdges, nodeWidth, nodeHeight, memoCapacity })
    (.record "GraphConfig"
      (.cons "max-chain-depth" (.byDefault ({} : Config).maxChainDepth) .size
        (.cons "include-orphan-edges" (.byDefault ({} : Config).includeOrphanEdges) .flag
          (.cons "node-width" (.byDefault ({} : Config).nodeWidth) .real
            (.cons "node-height" (.byDefault ({} : Config).nodeHeight) .real
              (.cons "memo-capacity" (.byDefault ({} : Config).memoCapacity) .size .nil))))))

def toJson (c : Config) : Json :=
  .obj
    [("max-chain-depth", .int c.maxChainDepth),
      ("include-orphan-edges", .bool c.includeOrphanEdges),
      ("node-width", .float c.nodeWidth), ("node-height", .float c.nodeHeight),
      ("memo-capacity", .int c.memoCapacity)]

end Config

namespace BuildOptions

def shape : Json.Shape BuildOptions :=
  .image (fun (types, blocked, orphans, ()) => { types, blocked, orphans })
    (.record "BuildOptions"
      (.cons "include_dependency_types" (.inObjects none) (.optional (.setOf DependencyType.shape))
        (.cons "blocked_issue_ids" (.inObjects none) (.optional (.setOf .text))
          (.cons "include_orphan_edges" .refused .flag .nil))))

def toJson (o : BuildOptions) : Json :=
  .obj
    [("include_dependency_types", match o.types with
        | some types => .arr (types.toList.map DependencyType.toJson)
        | none => .null),
      ("blocked_issue_ids", match o.blocked with
        | some ids => idsJson ids
        | none => .null),
      ("include_orphan_edges", .bool o.orphans)]

end BuildOptions

end IssueGraph

import IssueGraph.Blocking.Chain
import IssueGraph.Graph.Json

/-!
# Blocking as JSON

Chains, by themselves and with the issue that they are about, and the listing of the issues that
block most.
-/
namespace IssueGraph

namespace Chain

def shape : Json.Shape Chain :=
  .image
    (fun (blockers, blockedBy, blockedCount, truncated, ()) =>
      { blockers, blockedBy, blockedCount, truncated })
    (.record "BlockedChain"
      (.cons "blockers" .refused (.setOf .text)
        (.cons "blockedBy" .refused (.setOf .text)
          (.cons "blockedCount" .refused .size
            (.cons "truncated" .refused .flag .nil)))))

/-- The members of a chain as an object. -/
def members (c : Chain) : List (String × Json) :=
  [("blockers", idsJson c.blockers), ("blockedBy", idsJson c.blockedBy),
    ("blockedCount", .int c.blockedCount), ("truncated", .bool c.truncated)]

def toJson (c : Chain) : Json := .obj c.members

end Chain

namespace Report

/-- A chain with the issue it is about. -/
def chainJson (id : IssueId) (c : Chain) : Json := .obj (("issueId", .str id) :: c.members)

def blockerJson (n : Node) : Json :=
  .obj
    [("id", .str n.data.issue.id), ("title", .str n.data.issue.title),
      ("priority", .int n.data.issue.priority.toNat), ("blockedCount", .int n.data.blockedCount),
      ("isRootBlocker", .bool n.data.isRootBlocker)]

/-- The issues that block most. -/
def topJson (nodes : List Node) : Json := .arr (nodes.map blockerJson)

end Report

end IssueGraph

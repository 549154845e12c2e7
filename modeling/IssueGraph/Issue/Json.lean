import IssueGraph.Issue
import IssueGraph.Json.Shape.Basic
import IssueGraph.Json.Value

/-!
# Issues as JSON

The shape of an issue says which fields it may leave out. Writing leaves out an undefined status and
an empty list of dependencies.
-/
namespace IssueGraph

namespace DependencyType

def shape : Json.Shape DependencyType := .image ofTag .text

def toJson (d : DependencyType) : Json := .str d.tag

end DependencyType

namespace Dependency

def shape : Json.Shape Dependency :=
  .image (fun (issueId, dependsOnId, type, ()) => { issueId, dependsOnId, type })
    (.record "Dependency"
      (.cons "issue_id" .refused .text
        (.cons "depends_on_id" .refused .text
          (.cons "type" .refused DependencyType.shape .nil))))

def toJson (d : Dependency) : Json :=
  .obj
    [("issue_id", .str d.issueId), ("depends_on_id", .str d.dependsOnId), ("type", d.type.toJson)]

end Dependency

namespace Status

def shape : Json.Shape Status := .choice (all.map fun s => (s.word, s))

def toJson (s : Status) : Json := .str s.word

end Status

namespace Issue

def shape : Json.Shape Issue :=
  .image
    (fun (id, title, priority, status, dependencies, ()) =>
      { id, title, priority := .ofNat priority, status, dependencies })
    (.record "Issue"
      (.cons "id" .refused .text
        (.cons "title" (.byDefault "") .text
          (.cons "priority" (.byDefault Priority.ordinary.toNat) (.count 256 "u8")
            (.cons "status" (.byDefault none) (.optional Status.shape)
              (.cons "dependencies" (.byDefault []) (.list Dependency.shape) .nil))))))

def toJson (i : Issue) : Json :=
  .obj
    ([("id", .str i.id), ("title", .str i.title), ("priority", .int i.priority.toNat)]
      ++ (match i.status with
        | some s => [("status", s.toJson)]
        | none => [])
      ++ (if i.dependencies.isEmpty then []
        else [("dependencies", .arr (i.dependencies.map Dependency.toJson))]))

end Issue

end IssueGraph

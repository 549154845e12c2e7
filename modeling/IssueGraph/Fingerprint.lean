import IssueGraph.Config.Json
import IssueGraph.Sha256

/-!
# Fingerprints

The inputs of an analysis are written as one JSON list that begins with the name of the analysis.
Its digest stands for the inputs wherever results are kept.
-/
namespace IssueGraph

structure Fingerprint where
  digest : Sha256.State
  deriving DecidableEq, Repr

namespace Fingerprint

/-- The fingerprint of a JSON value. -/
def of (j : Json) : Fingerprint := ⟨Sha256.digest (Utf8.encode j.compactText)⟩

/-- The digest in hexadecimal digits. -/
def text (f : Fingerprint) : String := f.digest.hex

/-- The inputs of a graph. -/
def graphInputs (issues : List Issue) (options : BuildOptions) : Json :=
  .arr [.str "graph", .arr (issues.map Issue.toJson), options.toJson]

/-- The inputs of blocked counts. -/
def countsInputs (ids : List IssueId) (edges : List Edge) : Json :=
  .arr [.str "counts", .arr (ids.map .str), .arr (edges.map Edge.toJson)]

/-- The inputs of a chain. -/
def chainInputs (id : IssueId) (edges : List Edge) (depth : Nat) : Json :=
  .arr [.str "chain", .str id, .arr (edges.map Edge.toJson), .int depth]

end Fingerprint

end IssueGraph

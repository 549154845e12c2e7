import IssueGraph.Blocking.Chain
import IssueGraph.Decimal.Format

/-!
# Configuration

How far chains are followed, what is drawn by default, how large nodes are and how many results are
kept. Values are checked when they come from a file.
-/
namespace IssueGraph

structure Config where
  maxChainDepth : Nat := Chain.defaultDepth
  includeOrphanEdges : Bool := false
  nodeWidth : Float := 260.0
  nodeHeight : Float := 90.0
  memoCapacity : Nat := 16
  deriving DecidableEq, Repr, Inhabited

namespace Config

/-- The name under which a configuration is looked for beside the issues. -/
def fileName : String := "blockgraph.yaml"

/-- Doubles inside sentences are positional, and whole ones have no point. -/
def plainNumber : Decimal.Format :=
  { tie := .up
    positional := fun _ => true
    showsPoint := false
    exponentMark := "e"
    infinite := "inf"
    notANumber := "NaN" }

/-- Doubles shown by themselves have a point or an exponent, and are positional from four places
after the point to sixteen before it. -/
def shownNumber : Decimal.Format :=
  { tie := .up
    positional := fun e => -4 ≤ e && e < 16
    showsPoint := true
    exponentMark := "e"
    infinite := "inf"
    notANumber := "NaN" }

/-- What is wrong with the values of a configuration. -/
inductive Invalid where
  | noDepth
  | noCapacity
  | dimensions (width height : Float)
  deriving DecidableEq, Repr

namespace Invalid

def message : Invalid → String
  | noDepth => "max-chain-depth must be at least 1"
  | noCapacity => "memo-capacity must be at least 1"
  | dimensions w h =>
    "node dimensions must be positive, got " ++ plainNumber.text w ++ "x" ++ plainNumber.text h

end Invalid

/-- Refuse a configuration with an unusable value; the first one is named. -/
def check (c : Config) : Except Invalid Unit :=
  if c.maxChainDepth = 0 then .error .noDepth
  else if c.memoCapacity = 0 then .error .noCapacity
  else if c.nodeWidth > 0.0 && c.nodeHeight > 0.0 then .ok ()
  else .error (.dimensions c.nodeWidth c.nodeHeight)

/-- The size of every node in a layout. -/
def nodeDimensions (c : Config) : NodeDimensions := ⟨c.nodeWidth, c.nodeHeight⟩

/-- The options of a graph that nobody asked anything special of. -/
def buildOptions (c : Config) : BuildOptions := { orphans := c.includeOrphanEdges }

end Config

end IssueGraph

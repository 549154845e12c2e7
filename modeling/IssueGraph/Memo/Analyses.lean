import IssueGraph.Config.Basic
import IssueGraph.Fingerprint
import IssueGraph.Graph.Build
import IssueGraph.Memo.Basic

/-!
# Remembered analyses

Graphs, blocked counts and chains are each kept in a memo under the fingerprint of their inputs.
There is always a fingerprint: inputs are lists and objects of texts, truth values and natural
numbers, the keys of the objects are texts, and each of these has a JSON text. So no analysis is
made past its memo.
-/
namespace IssueGraph

structure Analyses where
  graphs : Memo Fingerprint Graph
  counts : Memo Fingerprint (SortedMap IssueId Nat)
  chains : Memo Fingerprint Chain
  /-- The depth of a chain for which no other one is asked. -/
  maxChainDepth : Nat

namespace Analyses

/-- Nothing has been analysed yet. -/
def new (config : Config) : Analyses where
  graphs := .empty config.memoCapacity
  counts := .empty config.memoCapacity
  chains := .empty config.memoCapacity
  maxChainDepth := config.maxChainDepth

/-- The graph of a collection. -/
def graph (a : Analyses) (issues : List Issue) (options : BuildOptions) :
    Analyses × Served Graph :=
  let (graphs, served) := a.graphs.get (.of (Fingerprint.graphInputs issues options))
    fun _ => Graph.build issues options
  ({ a with graphs }, served)

/-- The blocked counts of some ids over a list of edges. -/
def blockedCounts (a : Analyses) (ids : List IssueId) (edges : List Edge) :
    Analyses × Served (SortedMap IssueId Nat) :=
  let (counts, served) := a.counts.get (.of (Fingerprint.countsInputs ids edges))
    fun _ => IssueGraph.blockedCounts ids edges
  ({ a with counts }, served)

/-- The chain of an issue over a list of edges, within the given depth or the configured one. -/
def chain (a : Analyses) (id : IssueId) (edges : List Edge) (depth : Option Nat) :
    Analyses × Served Chain :=
  let depth := depth.getD a.maxChainDepth
  let (chains, served) := a.chains.get (.of (Fingerprint.chainInputs id edges depth))
    fun _ => Chain.ofEdges edges id depth
  ({ a with chains }, served)

end Analyses

end IssueGraph

import IssueGraph.Blocking.Json
import IssueGraph.Report.Text

/-!
# Findings

What a command has found out, and how it is printed: as text under the settings in the environment,
or as JSON. A layout is always JSON. The environment is looked at only where text is printed.
-/
namespace IssueGraph.Report

/-- The issues that are ready. -/
def readyJson (nodes : List Node) : Json := .arr (nodes.map (·.data.issue.toJson))

/-- A JSON value over several lines. -/
def printJson (j : Json) : String := String.ofList (j.pretty 0 ++ ['\n'])

inductive Finding where
  | graph (graph : Graph)
  | layout (layout : Layout)
  | chain (id : IssueId) (chain : Chain) (graph : Graph)
  | top (nodes : List Node)
  | ready (nodes : List Node)

namespace Finding

def toJson : Finding → Json
  | graph g => g.toJson
  | layout l => l.toJson
  | chain id c _ => chainJson id c
  | top nodes => topJson nodes
  | ready nodes => readyJson nodes

/-- The lines of a finding that has a text. -/
def lines? (console : Console) (s : Settings) : Finding → Option (List String)
  | graph g => some (graphLines console s (s.contentWidth console) g)
  | layout _ => none
  | chain id c g => some (chainLines console s id c g)
  | top nodes => some (topLines console s (s.contentWidth console) nodes)
  | ready nodes => some (readyLines console s (s.contentWidth console) nodes)

/-- The text of a finding, and what to log about the environment. -/
def print (f : Finding) (json : Bool) (console : Console) : String × List LogEntry :=
  let (settings, log) := Settings.ofVariables console.environment
  match json, f.lines? console settings with
  | false, some lines => (Report.print lines, log)
  | _, _ => (printJson f.toJson, [])

end Finding

end IssueGraph.Report

import IssueGraph.Board
import IssueGraph.CommandLine.Invocation
import IssueGraph.Graph.Listing
import IssueGraph.Report.Finding

/-!
# Running commands

A command loads its board, finds out what it is asked for and prints it. Nothing is printed before
all is found.
-/
namespace IssueGraph.CommandLine

open Report (Finding Console)

/-- The options of a requested graph. -/
def GraphRequest.options (r : GraphRequest) (b : Board) : BuildOptions :=
  let o := b.defaultOptions
  let o := if r.noTypes then o.withTypes [] else if r.types.isEmpty then o else o.withTypes r.types
  let o := if r.orphans then o.withOrphans true else o
  if r.noLiveBlockers then o else o.withBlocked b.liveBlocked

/-- What a command finds out about a board. -/
def Command.find (b : Board) : Command → Except Failure Finding
  | graph r =>
    let g := (b.graph (r.options b)).2.value
    .ok (if r.layout then .layout (g.layout b.config.nodeDimensions) else .graph g)
  | chain id depth => do
    let (_, g, c) ← b.chain id depth
    return .chain id c.value g.value
  | top limit => .ok (.top ((b.graph b.defaultOptions).2.value.topBlockers limit))
  | ready limit =>
    let options := b.defaultOptions.withBlocked b.liveBlocked
    .ok (.ready ((b.graph options).2.value.readyIssues limit))

/-- What a run leaves behind. -/
structure Outcome where
  output : String := ""
  log : List LogEntry := []
  failure : Option Failure := none
  deriving DecidableEq, Repr

/-- What is printed if no command is given. -/
def greeting : String :=
  "Blockgraph dependency graph inspector\nUse --help for more information\n"

/-- Run an invocation. Without a command no file is looked at. -/
def Invocation.run (i : Invocation) (files : Files) (console : Console) : Outcome :=
  match i.command with
  | none => { output := greeting }
  | some command =>
    let (board, warnings) := Board.load files i.file i.config
    let log := warnings.map Warning.logEntry
    match board with
    | .error failure => { log, failure := some failure }
    | .ok board =>
      match command.find board with
      | .error failure => { log, failure := some failure }
      | .ok finding =>
        let (output, settingsLog) := finding.print i.json console
        { output, log := log ++ settingsLog }

end IssueGraph.CommandLine

import IssueGraph.CommandLine.Value

/-!
# Invocations

What a command line asks for: one of four commands, or none, and the files that it works on. The
options for files and for the kind of output may stand before and after the name of the command;
what stands after it prevails.
-/
namespace IssueGraph.CommandLine

/-- What a graph is to show. -/
structure GraphRequest where
  types : List DependencyType := []
  noTypes : Bool := false
  orphans : Bool := false
  noLiveBlockers : Bool := false
  layout : Bool := false
  deriving DecidableEq, Repr, Inhabited

inductive Command where
  | graph (request : GraphRequest)
  | chain (id : IssueId) (depth : Option Nat)
  | top (limit : Nat)
  | ready (limit : Option Nat)
  deriving DecidableEq, Repr

structure Invocation where
  file : String
  config : Option String
  json : Bool
  command : Option Command
  deriving DecidableEq, Repr

/-- The file of issues if none is named. -/
def defaultFile : String := "issues.jsonl"

/-- The length of the listing of blockers if none is given. -/
def defaultTopLimit : Nat := 10

/-- The options that may stand on either side of the name of a command. -/
structure Shared where
  file : Option String := none
  config : Option String := none
  json : Bool := false
  deriving DecidableEq, Repr, Inhabited

namespace Shared

/-- Both sides together; the inner one prevails. -/
def merge (outer inner : Shared) : Shared where
  file := inner.file <|> outer.file
  config := inner.config <|> outer.config
  json := outer.json || inner.json

def switches : List (Switch Shared) :=
  [{ long := "file", short := some 'f'
     action := .valueOnce (·.file.isSome) path fun v s => { s with file := some v } },
    { long := "config", short := some 'c'
      action := .valueOnce (·.config.isSome) path fun v s => { s with config := some v } },
    { long := "json", action := .flagOnce (·.json) fun s => { s with json := true } },
    { long := "help", short := some 'h', action := .flag fun _ => .error .help },
    { long := "version", short := some 'V', action := .flag fun _ => .error .version }]

/-- The invocation with these options. -/
def invocation (s : Shared) (command : Option Command) : Invocation where
  file := s.file.getD defaultFile
  config := s.config
  json := s.json
  command

end Shared

/-- The level of a command with some options and operands of its own. -/
def commandLevel {τ : Type} (switches : List (Switch τ))
    (operands : List (String → τ → Except Stop τ)) : Level (Shared × τ) where
  switches :=
    Shared.switches.map (fun s => { s with action := s.action.onFirst }) ++
      switches.map (fun s => { s with action := s.action.onSecond })
  operands := operands.map fun apply v s => (apply v s.2).map (s.1, ·)

def graphLevel : Level (Shared × GraphRequest) :=
  commandLevel
    [{ long := "types"
       action := .value fun v r =>
         (fit dependencyTypes v).map fun types => { r with types := r.types ++ types } },
      { long := "no-types", action := .flagOnce (·.noTypes) fun r => { r with noTypes := true } },
      { long := "orphans", action := .flagOnce (·.orphans) fun r => { r with orphans := true } },
      { long := "no-live-blockers"
        action := .flagOnce (·.noLiveBlockers) fun r => { r with noLiveBlockers := true } },
      { long := "layout", action := .flagOnce (·.layout) fun r => { r with layout := true } }]
    []

/-- The id and the depth of a chain. -/
def chainLevel : Level (Shared × Option IssueId × Option Nat) :=
  commandLevel
    [{ long := "max-depth"
       action := .valueOnce (·.2.isSome) depth fun n s => (s.1, some n) }]
    [fun v s => (fit issueId v).map fun id => (some id, s.2)]

/-- The length of a listing. -/
def listingLevel : Level (Shared × Option Nat) :=
  commandLevel
    [{ long := "limit", short := some 'n'
       action := .valueOnce Option.isSome listingLimit fun n _ => some n }]
    []

/-- The command with a name, from the arguments after it. -/
def readCommand (name : String) (args : List String) : Except Stop (Shared × Command) :=
  match name with
  | "graph" => do
    let (s, request) ← graphLevel.readAll ({}, {}) args
    if !request.types.isEmpty && request.noTypes then throw .conflict
    return (s, .graph request)
  | "chain" => do
    let (s, id, depth) ← chainLevel.readAll ({}, none, none) args
    match id with
    | some id => return (s, .chain id depth)
    | none => throw .missingOperand
  | "top" => do
    let (s, limit) ← listingLevel.readAll ({}, none) args
    return (s, .top (limit.getD defaultTopLimit))
  | "ready" => do
    let (s, limit) ← listingLevel.readAll ({}, none) args
    return (s, .ready limit)
  | _ => .error .unknownCommand

/-- The names of commands, with the one that asks for help. -/
def commandNames : List String := ["graph", "chain", "top", "ready", "help"]

def mainLevel : Level Shared where
  switches := Shared.switches
  commands := commandNames

/-- What the arguments after `help` ask for. -/
def helpFor : List String → Stop
  | [] => .help
  | [name] => if commandNames.contains name then .help else .unknownCommand
  | _ => .unknownCommand

/-- The invocation that some arguments ask for. The options before the name of a command are settled
last. -/
def Invocation.ofArguments (args : List String) : Except Stop Invocation := do
  let (outer, rest) ← mainLevel.read {} args
  match rest with
  | [] => return (← outer.settle).settings.invocation none
  | "help" :: names => .error (helpFor names)
  | name :: args =>
    let (inner, command) ← readCommand name args
    let outer := (← outer.settle).settings
    return (outer.merge inner).invocation (some command)

end IssueGraph.CommandLine

import IssueGraph.Blocking.Live
import IssueGraph.Collection
import IssueGraph.Failure
import IssueGraph.Memo.Analyses

/-!
# Boards

A board is a collection of issues under a configuration, with the analyses of it made so far. It is
loaded from files: the configuration first, then the issues.
-/
namespace IssueGraph

structure Board where
  issues : List Issue
  /-- What was wrong with the collection. -/
  warnings : List Warning
  config : Config
  analyses : Analyses

/-- The configuration in a file. -/
def Config.load (files : Files) (path : String) : Except Failure Config :=
  match files.read path with
  | .error fault => .error (.file fault)
  | .ok bytes =>
    match Utf8.decode bytes with
    | .error _ => .error .noText
    | .ok text => (Config.ofYaml (String.ofList text)).mapError .config

/-- The configuration in a file, or the default one if there is no such file. -/
def Config.loadOrDefault (files : Files) (path : String) : Except Failure Config :=
  match files.has path with
  | .error fault => .error (.file fault)
  | .ok true => Config.load files path
  | .ok false => .ok {}

/-- Where the configuration for a file of issues is looked for if none is named. -/
def Config.pathBeside (issueFile : String) : String := Path.sibling issueFile Config.fileName

/-- The configuration for a file of issues: the one named, or else the one beside the issues. -/
def Config.loadFor (files : Files) (issueFile : String) (configFile : Option String) :
    Except Failure Config :=
  match configFile with
  | some path => Config.load files path
  | none => Config.loadOrDefault files (Config.pathBeside issueFile)

/-- The collection in a file. A file that turns out to be no text leaves the warnings up to
there. -/
def Collection.load (files : Files) (path : String) : Collection × Option Failure :=
  match files.read path with
  | .error fault => ({}, some (.file fault))
  | .ok bytes =>
    let (c, fault) := Collection.read bytes
    (c, fault.map .encoding)

namespace Board

/-- The board of a collection, on which nothing has been analysed yet. -/
def new (c : Collection) (config : Config) : Board where
  issues := c.issues
  warnings := c.warnings
  config
  analyses := .new config

/-- The board of a collection under a configuration that has to be usable. -/
def ofCollection (c : Collection) (config : Config) : Except Failure Board :=
  match config.check with
  | .ok () => .ok (new c config)
  | .error invalid => .error (.config (.invalid invalid))

/-- The board in some files, and the warnings about them. -/
def load (files : Files) (issueFile : String) (configFile : Option String) :
    Except Failure Board × List Warning :=
  match Config.loadFor files issueFile configFile with
  | .error failure => (.error failure, [])
  | .ok config =>
    match Collection.load files issueFile with
    | (c, some failure) => (.error failure, c.warnings)
    | (c, none) => (.ok (new c config), c.warnings)

/-- The paths at which files are read to load a board. -/
def paths (issueFile : String) (configFile : Option String) : List String :=
  [configFile.getD (Config.pathBeside issueFile), issueFile]

/-- The issues that something open blocks. -/
def liveBlocked (b : Board) : SortedSet IssueId := IssueGraph.liveBlocked b.issues

/-- The options of a graph that nobody asked anything special of. -/
def defaultOptions (b : Board) : BuildOptions := b.config.buildOptions

/-- The graph of the board. -/
def graph (b : Board) (options : BuildOptions) : Board × Served Graph :=
  let (analyses, served) := b.analyses.graph b.issues options
  ({ b with analyses }, served)

/-- Ask for the chain of an issue of the board over the graph with the default options, and for that
graph. An id that no issue has is refused before anything is analysed. -/
def askChain (b : Board) (id : IssueId) (depth : Option Nat) :
    Board × Except Failure (Served Graph × Served Chain) :=
  if Graph.isPresent b.issues id then
    let (b, graph) := b.graph b.defaultOptions
    let (analyses, chain) := b.analyses.chain id graph.value.edges depth
    ({ b with analyses }, .ok (graph, chain))
  else (b, .error (.issueNotFound id))

/-- The chain of an issue of the board with the board after it, or why there is none. -/
def chain (b : Board) (id : IssueId) (depth : Option Nat) :
    Except Failure (Board × Served Graph × Served Chain) :=
  match b.askChain id depth with
  | (b, .ok (graph, chain)) => .ok (b, graph, chain)
  | (_, .error failure) => .error failure

end Board

end IssueGraph

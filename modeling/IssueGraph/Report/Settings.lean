import IssueGraph.Log
import IssueGraph.Text.Basic

/-!
# Settings of reports

How wide reports are, which icons they use and whether they have colors. Settings come from
environment variables; a value that cannot be used is logged and the default stands. Content gets no
more columns than the terminal has.
-/
namespace IssueGraph.Report

structure Settings where
  /-- The most columns that reports take. -/
  maxWidth : Nat := 100
  ascii : Bool := false
  colors : Bool := true
  deriving DecidableEq, Repr, Inhabited

/-- Where output goes to. -/
structure Console where
  /-- The environment variables. -/
  environment : String → Option String
  /-- Whether the terminal takes colors. -/
  takesColor : Bool
  /-- The columns of the terminal, if there is one. -/
  columns : Option UInt16 := none

/-- The columns of the terminal, or those taken for granted where there is none. -/
def Console.width (c : Console) : Nat := (c.columns.map UInt16.toNat).getD 80

/-- Whether a value is a digit or a word, in letters of either case. -/
def isChoice (digit word value : String) : Bool :=
  value == digit || value.map Char.toLower == word

namespace Settings

/-- The columns for content on a console. -/
def contentWidth (s : Settings) (c : Console) : Nat := min c.width s.maxWidth

/-- The width in a variable, and what to log about it. -/
def widthOf (value : Option String) : Nat × List LogEntry :=
  let default := ({} : Settings).maxWidth
  match value with
  | none | some "" => (default, [])
  | some v =>
    match Text.number? v with
    | some (n + 1) => (n + 1, [])
    | _ =>
      (default,
        [{ message := "Invalid value, using default"
           fields := [("env_var", "\"BLOCKGRAPH_MAX_WIDTH\""), ("value", v),
             ("default", toString default)] }])

/-- The choice of icons in a variable, and what to log about it. -/
def asciiOf (value : Option String) : Bool × List LogEntry :=
  match value with
  | none | some "" => (false, [])
  | some v =>
    if isChoice "1" "true" v then (true, [])
    else if isChoice "0" "false" v then (false, [])
    else
      (false,
        [{ message := "Invalid value (expected '1', 'true', '0', or 'false'), using default"
           fields := [("env_var", "\"BLOCKGRAPH_ASCII\""), ("value", v)] }])

/-- The settings in environment variables, and what to log about them. Colors are off if either
variable says so. -/
def ofVariables (lookup : String → Option String) : Settings × List LogEntry :=
  let (maxWidth, widthLog) := widthOf (lookup "BLOCKGRAPH_MAX_WIDTH")
  let (ascii, asciiLog) := asciiOf (lookup "BLOCKGRAPH_ASCII")
  let colors :=
    (lookup "NO_COLOR").isNone && !(lookup "BLOCKGRAPH_COLOR").any (isChoice "0" "false")
  ({ maxWidth, ascii, colors }, widthLog ++ asciiLog)

end Settings

end IssueGraph.Report

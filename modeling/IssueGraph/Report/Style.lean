import IssueGraph.Graph.Basic
import IssueGraph.Report.Settings

/-!
# Styled text

A text in a style stands between an escape sequence that begins the style and one that ends it.
Every kind of text in a report has a function of its own, which tells what the text is and, if the
settings ask for colors, which style it has.
-/
namespace IssueGraph.Report

inductive Color where
  | red
  | green
  | yellow
  | magenta
  | cyan
  | white
  deriving DecidableEq, Repr

namespace Color

/-- The number of the foreground color. -/
def code : Color → String
  | red => "31"
  | green => "32"
  | yellow => "33"
  | magenta => "35"
  | cyan => "36"
  | white => "37"

end Color

inductive Style where
  | bold
  | dimmed
  | plain (color : Color)
  | strong (color : Color)
  deriving DecidableEq, Repr

namespace Style

def codes : Style → String
  | bold => "1"
  | dimmed => "2"
  | plain c => c.code
  | strong c => "1;" ++ c.code

/-- The escape sequence that begins the style. -/
def opening (s : Style) : List Char := '\x1b' :: '[' :: (s.codes.toList ++ ['m'])

/-- The escape sequence that ends any style. -/
def closing : List Char := ['\x1b', '[', '0', 'm']

/-- Begin a style again wherever the text ends it. -/
def renew (opening : List Char) : List Char → List Char
  | [] => []
  | '\x1b' :: '[' :: '0' :: 'm' :: cs => closing ++ (opening ++ renew opening cs)
  | c :: cs => c :: renew opening cs

/-- A text in a style. No terminal is sent sequences that it does not take. -/
def apply (c : Console) (s : Style) (text : String) : String :=
  if c.takesColor then
    String.ofList (s.opening ++ (renew s.opening text.toList ++ closing))
  else text

end Style

/-- What the icon of a node shows; the first that applies. -/
inductive NodeState where
  | ghost
  | closed
  | rootBlocker
  | ready
  | blocked
  deriving DecidableEq, Repr

namespace NodeState

def of (d : NodeData) : NodeState :=
  if d.isGhost then ghost
  else if d.isClosed then closed
  else if d.isRootBlocker then rootBlocker
  else if d.isReady then ready
  else blocked

def icon (ascii : Bool) : NodeState → String
  | ghost => if ascii then "?" else "◌"
  | closed => if ascii then "+" else "✓"
  | rootBlocker => if ascii then "*" else "◆"
  | ready => if ascii then "o" else "○"
  | blocked => if ascii then "x" else "✗"

end NodeState

/-! ## Kinds of text -/

section Kinds

variable (c : Console) (s : Settings)

/-- A heading. -/
def heading (text : String) : String :=
  if s.colors then Style.bold.apply c text else text

/-- A label, or what is of less interest. -/
def label (text : String) : String :=
  if s.colors then Style.dimmed.apply c text else text

def idText (id : IssueId) : String :=
  if s.colors then (Style.plain .cyan).apply c id else id

def priorityText (p : Priority) : String :=
  let text := "P" ++ toString p.toNat
  if s.colors then
    match p.toNat with
    | 0 => (Style.strong .red).apply c text
    | 1 => (Style.plain .yellow).apply c text
    | _ => text
  else text

/-- The status, or a dash if there is none. -/
def statusText : Option Status → String
  | none => label c s "-"
  | some status =>
    let text := status.word
    if s.colors then
      match status with
      | .closed => (Style.plain .green).apply c text
      | .inProgress | .review => (Style.plain .yellow).apply c text
      | .blocked => (Style.plain .red).apply c text
      | .deferred => Style.dimmed.apply c text
      | .opened => (Style.plain .white).apply c text
    else text

def iconText (state : NodeState) : String :=
  let icon := state.icon s.ascii
  if s.colors then
    match state with
    | .ghost => (Style.plain .magenta).apply c icon
    | .closed => (Style.plain .green).apply c icon
    | .rootBlocker => (Style.strong .yellow).apply c icon
    | .ready => (Style.plain .white).apply c icon
    | .blocked => (Style.plain .red).apply c icon
  else icon

/-- The arrow between an issue and the issues around it. -/
def arrow : String := if s.ascii then "->" else "→"

end Kinds

end IssueGraph.Report

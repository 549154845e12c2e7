import IssueGraph.Text.Basic

/-!
# Log entries

What went wrong without stopping the program is logged as a warning, with named values after the
message. A newline in the message or in a value starts a new line in the log.
-/
namespace IssueGraph

structure LogEntry where
  message : String
  fields : List (String × String) := []
  deriving DecidableEq, Repr

namespace LogEntry

/-- A character of a message. Those with which a terminal can be steered are spelled out. -/
def shownChar (c : Char) : String :=
  if c = '\x07' then "\\x07"
  else if c = '\x08' then "\\x08"
  else if c = '\x0c' then "\\x0c"
  else if c = '\x1b' then "\\x1b"
  else if c = '\x7f' then "\\x7f"
  else if 0x80 ≤ c.toNat ∧ c.toNat ≤ 0x9f then
    "\\u\x7b" ++ String.ofList (Nat.toDigits 16 c.toNat) ++ "\x7d"
  else c.toString

/-- The text of a warning. -/
def text (e : LogEntry) : String :=
  " WARN " ++ String.join (e.message.toList.map shownChar) ++
    String.join (e.fields.map fun f => " " ++ f.1 ++ "=" ++ f.2)

/-- The lines that a warning takes in the log. -/
def lines (e : LogEntry) : List String :=
  (Text.linesOf '\n' '\r' (e.text.toList ++ ['\n'])).map String.ofList

end LogEntry

end IssueGraph

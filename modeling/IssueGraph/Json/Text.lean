import IssueGraph.Json.Shape.Text
import IssueGraph.SortedSet

/-!
# Any JSON value in text

A text without a shape is read to the JSON value that it writes. The members of an object come out
sorted by key, and of several members with one key the last one counts.
-/
namespace IssueGraph.Json

namespace Number

def toJson : Number → Json
  | int i => .int i
  | float x => .float x

end Number

/-- Read a value with at most `levels` brackets around its innermost part. -/
def readJson : (levels : Nat) → Reader Json
  | 0 => fun i => i.faultAhead .expectedValue
  | levels + 1 => Reader.atValue fun c =>
    match c with
    | 'n' => Reader.word "ull" .null
    | 't' => Reader.word "rue" (.bool true)
    | 'f' => Reader.word "alse" (.bool false)
    | '"' => Reader.map .str readString
    | '[' =>
      Reader.map .arr (afterBracket fun start i h => readItems start (readJson levels) [] i h)
    | '{' =>
      Reader.map (fun members => .obj members.entries) (afterBracket fun start i h =>
        readMembers start
          (fun key (members : SortedMap String Json) =>
            .ok (Reader.map (members.insert key) (readJson levels)))
          true .empty i h)
    | c =>
      if c == '-' || c.isDigit then Reader.map Number.toJson readNumber
      else fun i => i.faultAhead .expectedValue

/-- The JSON value that a text writes. -/
def ofText (s : String) : Except Fault Json := Json.readText (readJson (s.length + 1)) s

end IssueGraph.Json

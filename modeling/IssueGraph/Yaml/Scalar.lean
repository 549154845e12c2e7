import IssueGraph.Json.Literal
import IssueGraph.Yaml.Source

/-!
# Scalars in YAML text

A scalar is plain, quoted or a block. Line ends inside a plain or quoted scalar are folded: one
alone stands for a space, and of several the first is dropped. In a block they are kept, or folded
between lines that do not begin with a blank.
-/
namespace IssueGraph.Yaml

inductive Style where
  | plain
  | singleQuoted
  | doubleQuoted
  | literal
  | folded
  deriving DecidableEq, Repr

/-! ## Gaps between words -/

/-- Blanks and line ends inside a scalar. -/
structure Gap where
  /-- The blanks, if no line ended yet. -/
  blanks : List Char := []
  /-- Whether a line ended. -/
  broken : Bool := false
  /-- The end of the first line. -/
  first : List Char := []
  /-- The ends of the lines after it. -/
  more : List Char := []
  deriving Repr

namespace Gap

/-- What a gap stands for. -/
def text (g : Gap) : List Char :=
  if !g.broken then g.blanks
  else if g.first = ['\n'] then (if g.more.isEmpty then [' '] else g.more)
  else g.first ++ g.more

/-- Read the blanks and line ends that come next. A tab at the beginning of a line has to stand at
least in the column `indent`. -/
def read (since : Mark) (indent : Nat) : (fuel : Nat) → Gap → Source → Except Fault (Gap × Source)
  | 0, g, s => .ok (g, s)
  | fuel + 1, g, s =>
    if s.seesAny isBlank then
      if !g.broken then
        read since indent fuel { g with blanks := g.blanks ++ s.ahead.take 1 } s.skip
      else if s.sees '\t' && s.mark.column < indent then s.fault .plainScalar since .tabInIndent
      else read since indent fuel g s.skip
    else if s.seesAny isBreak then
      let g : Gap :=
        if g.broken then { g with more := g.more ++ s.breakChar }
        else { broken := true, first := s.breakChar }
      read since indent fuel g s.skipBreak
    else .ok (g, s)

end Gap

/-! ## Plain scalars -/

/-- A scalar that has been read, whether a line ended after it, and what follows. -/
structure PlainScalar where
  text : List Char
  broken : Bool
  rest : Source

/-- Whether a character has a meaning of its own inside flow collections. -/
def isFlowIndicator (c : Char) : Bool := [',', '[', ']', '{', '}'].contains c

/-- The characters of a plain scalar up to a blank, a line end or an indicator. -/
def plainWord (inFlow : Bool) : List Char → List Char
  | [] => []
  | c :: cs =>
    if isBlank c || isBreak c || (c == ':' && cs.head?.all fun d => isBlank d || isBreak d)
        || (inFlow && isFlowIndicator c)
        || (inFlow && c == ':' && cs.head?.any fun d => d == '?' || isFlowIndicator d) then []
    else c :: plainWord inFlow cs

/-- Read the words of a plain scalar, of which `text` and the gap after it have been read. -/
def readPlain (since : Mark) (inFlow : Bool) (indent : Nat) :
    (fuel : Nat) → (text : List Char) → Gap → Source → Except Fault PlainScalar
  | 0, text, g, s => .ok ⟨text, g.broken, s⟩
  | fuel + 1, text, g, s =>
    if s.atDocumentMark || s.sees '#' then .ok ⟨text, g.broken, s⟩
    else do
      let word := plainWord inFlow s.ahead
      let s := s.skipMany word.length
      if inFlow && s.sees ':' && (s.at? 1).any fun d => d == '?' || isFlowIndicator d then
        s.fault .plainScalar since .unexpectedColon
      let text := if word.isEmpty then text else text ++ g.text ++ word
      let pending := if word.isEmpty then g else {}
      if !s.seesAny fun c => isBlank c || isBreak c then return ⟨text, pending.broken, s⟩
      let (g, s) ← Gap.read since indent s.ahead.length pending s
      if !inFlow && s.mark.column < indent then return ⟨text, g.broken, s⟩
      readPlain since inFlow indent fuel text g s

/-! ## Quoted scalars -/

/-- The character that a letter after a backslash stands for. -/
def escapeOf? : Char → Option Char
  | '0' => some '\x00'
  | 'a' => some '\x07'
  | 'b' => some '\x08'
  | 't' => some '\t'
  | '\t' => some '\t'
  | 'n' => some '\n'
  | 'v' => some '\x0b'
  | 'f' => some '\x0c'
  | 'r' => some '\r'
  | 'e' => some '\x1b'
  | ' ' => some ' '
  | '"' => some '"'
  | '/' => some '/'
  | '\\' => some '\\'
  | 'N' => some '\u0085'
  | '_' => some '\u00a0'
  | 'L' => some '\u2028'
  | 'P' => some '\u2029'
  | _ => none

/-- The number of hexadecimal digits after a letter that follows a backslash. -/
def hexLength? : Char → Option Nat
  | 'x' => some 2
  | 'u' => some 4
  | 'U' => some 8
  | _ => none

/-- Read `n` hexadecimal digits, of a number that begins with `value`. -/
def readHexDigits (since : Mark) (s : Source) : (n : Nat) → (value : Nat) → (at_ : Nat) →
    Except Fault Nat
  | 0, value, _ => .ok value
  | n + 1, value, i =>
    match (s.at? i).bind Json.hexDigit? with
    | some d => readHexDigits since s n (16 * value + d) (i + 1)
    | none => s.fault .escape since .missingHexDigit

/-- Read an escape sequence whose backslash is next. -/
def readEscape (since : Mark) (s : Source) : Except Fault (Char × Source) :=
  match s.at? 1 with
  | none => s.fault .escape since .unknownEscape
  | some c =>
    match escapeOf? c, hexLength? c with
    | some d, _ => .ok (d, s.skipMany 2)
    | none, none => s.fault .escape since .unknownEscape
    | none, some n => do
      let s := s.skipMany 2
      let value ← readHexDigits since s n 0 0
      if (0xd800 ≤ value && value ≤ 0xdfff) || 0x10ffff < value then
        s.fault .escape since .badCodePoint
      else return (Char.ofNat value, s.skipMany n)

/-- Read the characters of a quoted scalar up to a blank, a line end or the closing quote; also
whether an escaped line end was passed. -/
def quotedWord (quote : Char) (since : Mark) : (fuel : Nat) → (text : List Char) → Source →
    Except Fault (List Char × Bool × Source)
  | 0, text, s => .ok (text, false, s)
  | fuel + 1, text, s =>
    match s.next? with
    | none => .ok (text, false, s)
    | some c =>
      if isBlank c || isBreak c then .ok (text, false, s)
      else if quote == '\'' && c == quote && s.at? 1 == some quote then
        quotedWord quote since fuel (text ++ [c]) (s.skipMany 2)
      else if c == quote then .ok (text, false, s)
      else if quote == '"' && c == '\\' then
        if (s.at? 1).any isBreak then .ok (text, true, s.skip.skipBreak)
        else do
          let (d, s) ← readEscape since s
          quotedWord quote since fuel (text ++ [d]) s
      else quotedWord quote since fuel (text ++ [c]) s.skip

/-- Read a quoted scalar after its opening quote. -/
def readQuoted (quote : Char) (since : Mark) : (fuel : Nat) → (text : List Char) → Source →
    Except Fault (List Char × Source)
  | 0, text, s => .ok (text, s)
  | fuel + 1, text, s =>
    if s.atDocumentMark then s.fault .quotedScalar since .documentInScalar
    else if s.next?.isNone then s.fault .quotedScalar since .endInScalar
    else do
      let (text, broken, s) ← quotedWord quote since s.ahead.length text s
      if s.sees quote then return (text, s.skip)
      let (g, s) ← Gap.read since 0 s.ahead.length { broken } s
      readQuoted quote since fuel (text ++ g.text) s

/-! ## Block scalars -/

/-- Whether the line ends after a block are dropped, kept as one, or all kept. -/
inductive Chomping where
  | strip
  | clip
  | keep
  deriving DecidableEq, Repr

/-- The header of a block: how its end is treated and its indentation, if it is given. -/
def readBlockHeader (since : Mark) (s : Source) :
    Except Fault (Chomping × Option Nat × Source) := do
  let chomping? : Source → Option Chomping := fun s =>
    if s.sees '+' then some .keep else if s.sees '-' then some .strip else none
  let indent? (s : Source) : Except Fault (Option Nat × Source) :=
    match s.next? with
    | some c =>
      if c == '0' then s.fault .blockScalar since .zeroIndent
      else if c.isDigit then .ok (some (c.toNat - '0'.toNat), s.skip)
      else .ok (none, s)
    | none => .ok (none, s)
  match chomping? s with
  | some c => do
    let (indent, s) ← indent? s.skip
    return (c, indent, s)
  | none => do
    let (indent, s) ← indent? s
    match indent, chomping? s with
    | some n, some c => return (c, some n, s.skip)
    | _, _ => return (.clip, indent, s)

/-- Pass over blanks and a comment to the end of the line. -/
def skipComment (s : Source) : Source :=
  let s := s.skipWhile isBlank
  if s.sees '#' then s.skipWhile fun c => !isBreak c else s

/-- Read the line ends before a line of a block that is not empty, and the indentation of that line
as far as it belongs to the block. While the block has no indentation yet, `widest` is the most
seen. -/
def readBlockBreaks (since : Mark) (indent : Option Nat) :
    (fuel : Nat) → (widest : Nat) → (breaks : List Char) → Source →
    Except Fault (Nat × List Char × Source)
  | 0, widest, breaks, s => .ok (widest, breaks, s)
  | fuel + 1, widest, breaks, s =>
    let spaces := (s.takeWhile (· == ' ')).length
    let s := s.skipMany (match indent with
      | none => spaces
      | some n => min spaces (n - s.mark.column))
    let widest := max widest s.mark.column
    if indent.all (s.mark.column < ·) && s.sees '\t' then s.fault .blockScalar since .tabForIndent
    else if s.seesAny isBreak then
      readBlockBreaks since indent fuel widest (breaks ++ s.breakChar) s.skipBreak
    else .ok (widest, breaks, s)

/-- What has been read of a block: its text, the end of the last line, the ends of empty lines after
it, and whether the last line began with a blank. -/
structure BlockText where
  text : List Char := []
  lineEnd : List Char := []
  breaks : List Char := []
  blank : Bool := false

/-- Read the lines of a block that are indented by `indent`. -/
def readBlockLines (since : Mark) (folds : Bool) (indent : Nat) :
    (fuel : Nat) → BlockText → Source → Except Fault (BlockText × Source)
  | 0, b, s => .ok (b, s)
  | fuel + 1, b, s =>
    if s.mark.column ≠ indent || s.next?.isNone then .ok (b, s)
    else do
      let blank := s.seesAny isBlank
      let folded := folds && b.lineEnd == ['\n'] && !b.blank && !blank
      let joint := if !folded then b.lineEnd else if b.breaks.isEmpty then [' '] else []
      let line := s.takeWhile fun c => !isBreak c
      let s := s.skipMany line.length
      let lineEnd := s.breakChar
      let (_, breaks, s) ← readBlockBreaks since (some indent) (s.ahead.length + 1) 0 []
        (if lineEnd.isEmpty then s else s.skipBreak)
      readBlockLines since folds indent fuel
        { text := b.text ++ joint ++ b.breaks ++ line, lineEnd, breaks, blank } s

/-- Read a block after its indicator, inside a collection that is indented by `outer`. -/
def readBlock (since : Mark) (folds : Bool) (outer : Int) (s : Source) :
    Except Fault (List Char × Source) := do
  let (chomping, given, s) ← readBlockHeader since s
  let s := skipComment s
  if !s.atLineEnd then s.fault .blockScalar since .trailingText
  let s := if s.next?.isSome then s.skipBreak else s
  let given := given.map fun n => (max 0 outer).toNat + n
  let (widest, breaks, s) ← readBlockBreaks since given (s.ahead.length + 1) 0 [] s
  let indent := given.getD (max widest (max 1 (outer + 1).toNat))
  let (b, s) ← readBlockLines since folds indent (s.ahead.length + 1) { breaks } s
  return (b.text ++ (if chomping = .strip then [] else b.lineEnd)
    ++ (if chomping = .keep then b.breaks else []), s)

end IssueGraph.Yaml

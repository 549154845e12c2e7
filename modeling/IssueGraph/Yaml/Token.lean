import IssueGraph.Yaml.Scalar
import IssueGraph.Yaml.Tag

/-!
# The tokens of YAML text

Besides what is written, there are tokens for the beginning and end of block collections, which
indentation shows, and for keys that are only seen to be keys at the colon after them. Until it is
clear whether a token begins such a key it is held back. A fault ends the tokens.
-/
namespace IssueGraph.Yaml

inductive Token.Kind where
  | streamEnd
  | documentStart
  | documentEnd
  | directive (value : Directive)
  | blockSequenceStart
  | blockMappingStart
  | blockEnd
  | flowSequenceStart
  | flowSequenceEnd
  | flowMappingStart
  | flowMappingEnd
  | blockEntry
  | flowEntry
  | key
  | value
  | reference (name : String)
  | anchor (name : String)
  | tag (tag : TagText)
  | scalar (style : Style) (text : String)
  deriving DecidableEq, Repr

structure Token where
  kind : Token.Kind
  start : Mark
  stop : Mark
  deriving DecidableEq, Repr

/-- The place of a token that may turn out to begin a key. -/
structure KeyCandidate where
  /-- Whether it has to be a key, because it stands where the keys of a block do. -/
  required : Bool
  /-- The number of tokens before it. -/
  number : Nat
  mark : Mark
  deriving Repr

structure Scanner where
  source : Source
  /-- The column of the innermost block collection. -/
  indent : Int := -1
  /-- The columns of those around it. -/
  outer : List Int := []
  /-- Whether a key may begin here. -/
  keyAllowed : Bool := true
  /-- The candidate of each flow collection that is open, and of the block around them. -/
  candidates : List (Option KeyCandidate) := [none]
  /-- The tokens held back. -/
  held : List Token := []
  /-- The number of tokens that were let go. -/
  released : Nat := 0
  /-- Whether the text has ended. -/
  ended : Bool := false

namespace Scanner

def inFlow (s : Scanner) : Bool := 1 < s.candidates.length

def mark (s : Scanner) : Mark := s.source.mark

def push (s : Scanner) (t : Token) : Scanner := { s with held := s.held ++ [t] }

/-- Add a token of no width. -/
def pushHere (s : Scanner) (kind : Token.Kind) : Scanner := s.push ⟨kind, s.mark, s.mark⟩

/-- Add a token that is `n` characters long. -/
def pushNext (s : Scanner) (n : Nat) (kind : Token.Kind) : Scanner :=
  let rest := s.source.skipMany n
  { s.push ⟨kind, s.mark, rest.mark⟩ with source := rest }

/-- Add a token before the one of a given number. -/
def insert (s : Scanner) (number : Nat) (t : Token) : Scanner :=
  let n := number - s.released
  { s with held := s.held.take n ++ t :: s.held.drop n }

/-! ## Blanks -/

/-- Pass over blanks, comments, line ends and marks of the byte order. A tab may only stand where no
key may begin. -/
def skipBlanks : (fuel : Nat) → Scanner → Scanner
  | 0, s => s
  | fuel + 1, s =>
    let tabs := s.inFlow || !s.keyAllowed
    let source := s.source.skipOrderMark.skipWhile fun c => c == ' ' || (tabs && c == '\t')
    let source := if source.sees '#' then source.skipWhile fun c => !isBreak c else source
    if source.seesAny isBreak then
      skipBlanks fuel
        { s with source := source.skipBreak, keyAllowed := s.keyAllowed || !s.inFlow }
    else { s with source := source }

/-! ## Keys -/

/-- The candidate is no key after all. -/
def dropCandidate (s : Scanner) (c : KeyCandidate) : Except Fault Unit :=
  if c.required then s.source.fault .simpleKey c.mark .missingColon else .ok ()

/-- Drop candidates that are too far back: a key is on one line and not longer than 1024 bytes. -/
def dropStale (s : Scanner) : Except Fault Scanner := do
  let candidates ← s.candidates.reverse.mapM fun candidate =>
    match candidate with
    | none => pure none
    | some c =>
      if c.mark.line < s.mark.line || c.mark.index + 1024 < s.mark.index then do
        s.dropCandidate c
        pure none
      else pure (some c)
  return { s with candidates := candidates.reverse }

/-- Drop the candidate of the innermost collection. -/
def clearCandidate (s : Scanner) : Except Fault Scanner :=
  match s.candidates with
  | some c :: rest => do
    s.dropCandidate c
    return { s with candidates := none :: rest }
  | _ => .ok s

/-- The next token may begin a key. -/
def noteCandidate (s : Scanner) : Except Fault Scanner :=
  if s.keyAllowed then do
    let s ← s.clearCandidate
    let c : KeyCandidate :=
      { required := !s.inFlow && s.indent = s.mark.column
        number := s.released + s.held.length
        mark := s.mark }
    return { s with candidates := some c :: s.candidates.drop 1 }
  else .ok s

/-! ## Indentation -/

/-- End the block collections that are indented by more than `column`. -/
def unindent (column : Int) (s : Scanner) : Scanner :=
  if s.inFlow then s else go s.outer.length s
where
  go : Nat → Scanner → Scanner
    | 0, s => s
    | n + 1, s =>
      if column < s.indent then
        go n { s.pushHere .blockEnd with indent := s.outer.headD (-1), outer := s.outer.drop 1 }
      else s

/-- Begin a block collection in a column, unless there is one. Its token comes before the one of the
given number, or last. -/
def indentTo (s : Scanner) (column : Nat) (number : Option Nat) (kind : Token.Kind) (mark : Mark) :
    Scanner :=
  if s.inFlow || column ≤ s.indent then s
  else
    let s := { s with indent := column, outer := s.indent :: s.outer }
    match number with
    | some n => s.insert n ⟨kind, mark, mark⟩
    | none => s.push ⟨kind, mark, mark⟩

/-! ## Tokens -/

/-- Leave all block collections; no key may begin here. -/
def leaveBlocks (s : Scanner) : Except Fault Scanner := do
  let s ← (s.unindent (-1)).clearCandidate
  return { s with keyAllowed := false }

def fetchEnd (s : Scanner) : Except Fault Scanner := do
  let m := s.mark
  let m : Mark := if m.column = 0 then m else { m with line := m.line + 1, column := 0 }
  let s ← { s with source := { s.source with mark := m } }.leaveBlocks
  return { s.pushHere .streamEnd with ended := true }

def fetchDirective (s : Scanner) : Except Fault Scanner := do
  let s ← s.leaveBlocks
  let since := s.mark
  let (directive, rest) ← readDirective s.source
  let after := skipComment rest
  if !after.atLineEnd then after.fault .directive since .trailingText
  let after' := if after.next?.isSome then after.skipBreak else after
  return { s.push ⟨.directive directive, since, rest.mark⟩ with source := after' }

def fetchDocumentMark (s : Scanner) (kind : Token.Kind) : Except Fault Scanner := do
  return (← s.leaveBlocks).pushNext 3 kind

def fetchFlowStart (s : Scanner) (kind : Token.Kind) : Except Fault Scanner := do
  let s ← s.noteCandidate
  return { s.pushNext 1 kind with candidates := none :: s.candidates, keyAllowed := true }

def fetchFlowEnd (s : Scanner) (kind : Token.Kind) : Except Fault Scanner := do
  let s ← s.clearCandidate
  let candidates := if s.inFlow then s.candidates.drop 1 else s.candidates
  return { s.pushNext 1 kind with candidates, keyAllowed := false }

def fetchFlowEntry (s : Scanner) : Except Fault Scanner := do
  return { (← s.clearCandidate).pushNext 1 .flowEntry with keyAllowed := true }

def fetchBlockEntry (s : Scanner) : Except Fault Scanner := do
  if !s.inFlow && !s.keyAllowed then s.source.plainFault .entryNotAllowed
  let s ← (s.indentTo s.mark.column none .blockSequenceStart s.mark).clearCandidate
  return { s.pushNext 1 .blockEntry with keyAllowed := true }

def fetchKey (s : Scanner) : Except Fault Scanner := do
  if !s.inFlow && !s.keyAllowed then s.source.plainFault .keyNotAllowed
  let s ← (s.indentTo s.mark.column none .blockMappingStart s.mark).clearCandidate
  return { s.pushNext 1 .key with keyAllowed := !s.inFlow }

def fetchValue (s : Scanner) : Except Fault Scanner :=
  match s.candidates with
  | some c :: rest =>
    let s := s.insert c.number ⟨.key, c.mark, c.mark⟩
    let s := s.indentTo c.mark.column (some c.number) .blockMappingStart c.mark
    .ok { s.pushNext 1 .value with candidates := none :: rest, keyAllowed := false }
  | _ => do
    if !s.inFlow && !s.keyAllowed then s.source.plainFault .valueNotAllowed
    let s := s.indentTo s.mark.column none .blockMappingStart s.mark
    return { s.pushNext 1 .value with keyAllowed := !s.inFlow }

def fetchAnchor (s : Scanner) (reading : Reading) (kind : String → Token.Kind) :
    Except Fault Scanner := do
  let s ← s.noteCandidate
  let (name, rest) ← readAnchor reading s.source
  return { s.push ⟨kind name, s.mark, rest.mark⟩ with source := rest, keyAllowed := false }

def fetchTag (s : Scanner) : Except Fault Scanner := do
  let s ← s.noteCandidate
  let (tag, rest) ← readTag s.inFlow s.source
  return { s.push ⟨.tag tag, s.mark, rest.mark⟩ with source := rest, keyAllowed := false }

def fetchBlockScalar (s : Scanner) (style : Style) : Except Fault Scanner := do
  let s ← s.clearCandidate
  let (text, rest) ← readBlock s.mark (style == .folded) s.indent s.source.skip
  return { s.push ⟨.scalar style (String.ofList text), s.mark, rest.mark⟩ with
    source := rest, keyAllowed := true }

def fetchQuoted (s : Scanner) (quote : Char) (style : Style) : Except Fault Scanner := do
  let s ← s.noteCandidate
  let (text, rest) ← readQuoted quote s.mark s.source.ahead.length [] s.source.skip
  return { s.push ⟨.scalar style (String.ofList text), s.mark, rest.mark⟩ with
    source := rest, keyAllowed := false }

def fetchPlain (s : Scanner) : Except Fault Scanner := do
  let s ← s.noteCandidate
  let r ← readPlain s.mark s.inFlow (s.indent + 1).toNat s.source.ahead.length [] {} s.source
  return { s.push ⟨.scalar .plain (String.ofList r.text), s.mark, r.rest.mark⟩ with
    source := r.rest, keyAllowed := r.broken }

/-- Characters that begin no plain scalar, unless something joins three of them. -/
def indicators : List Char :=
  ['-', '?', ':', ',', '[', ']', '{', '}', '#', '&', '*', '!', '|', '>', '\'', '"', '%', '@',
    '\x60']

/-- Read what comes next. -/
def fetch (s : Scanner) : Except Fault Scanner := do
  let s ← (s.skipBlanks (s.source.ahead.length + 1)).dropStale
  let s := s.unindent s.mark.column
  let src := s.source
  match src.next? with
  | none => s.fetchEnd
  | some c =>
    if c == '%' && s.mark.column = 0 then s.fetchDirective
    else if src.atDocumentMark then
      s.fetchDocumentMark (if c == '-' then .documentStart else .documentEnd)
    else if c == '[' then s.fetchFlowStart .flowSequenceStart
    else if c == '{' then s.fetchFlowStart .flowMappingStart
    else if c == ']' then s.fetchFlowEnd .flowSequenceEnd
    else if c == '}' then s.fetchFlowEnd .flowMappingEnd
    else if c == ',' then s.fetchFlowEntry
    else if c == '-' && src.endsAt 1 then s.fetchBlockEntry
    else if c == '?' && (s.inFlow || src.endsAt 1) then s.fetchKey
    else if c == ':' && (s.inFlow || src.endsAt 1) then s.fetchValue
    else if c == '*' then s.fetchAnchor .reference .reference
    else if c == '&' then s.fetchAnchor .anchor .anchor
    else if c == '!' then s.fetchTag
    else if c == '|' && !s.inFlow then s.fetchBlockScalar .literal
    else if c == '>' && !s.inFlow then s.fetchBlockScalar .folded
    else if c == '\'' then s.fetchQuoted c .singleQuoted
    else if c == '"' then s.fetchQuoted c .doubleQuoted
    else if !(isBlank c || indicators.contains c)
        || (c == '-' && !(src.at? 1).any isBlank)
        || (!s.inFlow && (c == '?' || c == ':') && !src.endsAt 1) then s.fetchPlain
    else src.fault .nextToken src.mark .noToken

/-- Whether the first token held back may yet turn out to begin a key. -/
def mustWait (s : Scanner) : Bool :=
  s.candidates.any fun c => c.any (·.number == s.released)

/-- All tokens, and the fault that ended them, if there was one. -/
def run : (fuel : Nat) → (before : List Token) → Scanner → List Token × Option Fault
  | 0, before, _ => (before.reverse, none)
  | fuel + 1, before, s =>
    let next (s : Scanner) := match s.fetch with
      | .error f => (before.reverse, some f)
      | .ok s => run fuel before s
    match s.held with
    | [] => if s.ended then (before.reverse, none) else next s
    | t :: held =>
      match s.dropStale with
      | .error f => (before.reverse, some f)
      | .ok s =>
        if s.mustWait then next s
        else run fuel (t :: before) { s with held, released := s.released + 1 }

end Scanner

/-- The tokens of a text, and the fault that ended them, if there was one. -/
def tokens (text : List Char) : List Token × Option Fault :=
  match firstForbidden? 0 text with
  | some offset => ([], some { problem := .controlCharacter, offset })
  | none => Scanner.run (8 * text.length + 16) [] { source := { ahead := text } }

end IssueGraph.Yaml

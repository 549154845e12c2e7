/-!
# What can be wrong with a YAML text

A fault names a problem and where it was noticed, and perhaps what was being read and where that
began.
-/
namespace IssueGraph.Yaml

/-- A place in a text, counted from zero. -/
structure Mark where
  /-- The number of bytes before it. -/
  index : Nat := 0
  line : Nat := 0
  column : Nat := 0
  deriving DecidableEq, Repr, Inhabited

namespace Mark

/-- Whether this is the first line and column, which messages do not mention. -/
def isStart (m : Mark) : Bool := m.line = 0 && m.column = 0

def message (m : Mark) : String :=
  "line " ++ toString (m.line + 1) ++ " column " ++ toString (m.column + 1)

end Mark

inductive Problem where
  | controlCharacter
  | noToken
  | missingColon
  | entryNotAllowed
  | keyNotAllowed
  | valueNotAllowed
  | unknownDirective
  | missingDirectiveName
  | badDirectiveName
  | trailingText
  | badVersion
  | longVersion
  | missingVersion
  | missingSpace
  | missingSpaceOrBreak
  | badAnchor
  | missingAngle
  | missingBang
  | missingUri
  | missingOctet
  | badLeadingOctet
  | badTrailingOctet
  | zeroIndent
  | tabForIndent
  | documentInScalar
  | endInScalar
  | unknownEscape
  | missingHexDigit
  | badCodePoint
  | unexpectedColon
  | tabInIndent
  | missingDocumentStart
  | repeatedVersion
  | incompatibleVersion
  | repeatedTagDirective
  | undefinedTag
  | missingContent
  | missingDash
  | missingKey
  | missingCommaOrBracket
  | missingCommaOrBrace
  | unknownAnchor
  deriving DecidableEq, Repr

namespace Problem

def message : Problem → String
  | controlCharacter => "control characters are not allowed"
  | noToken => "found character that cannot start any token"
  | missingColon => "could not find expected ':'"
  | entryNotAllowed => "block sequence entries are not allowed in this context"
  | keyNotAllowed => "mapping keys are not allowed in this context"
  | valueNotAllowed => "mapping values are not allowed in this context"
  | unknownDirective => "found unknown directive name"
  | missingDirectiveName => "could not find expected directive name"
  | badDirectiveName => "found unexpected non-alphabetical character"
  | trailingText => "did not find expected comment or line break"
  | badVersion => "did not find expected digit or '.' character"
  | longVersion => "found extremely long version number"
  | missingVersion => "did not find expected version number"
  | missingSpace => "did not find expected whitespace"
  | missingSpaceOrBreak => "did not find expected whitespace or line break"
  | badAnchor => "did not find expected alphabetic or numeric character"
  | missingAngle => "did not find the expected '>'"
  | missingBang => "did not find expected '!'"
  | missingUri => "did not find expected tag URI"
  | missingOctet => "did not find URI escaped octet"
  | badLeadingOctet => "found an incorrect leading UTF-8 octet"
  | badTrailingOctet => "found an incorrect trailing UTF-8 octet"
  | zeroIndent => "found an indentation indicator equal to 0"
  | tabForIndent => "found a tab character where an indentation space is expected"
  | documentInScalar => "found unexpected document indicator"
  | endInScalar => "found unexpected end of stream"
  | unknownEscape => "found unknown escape character"
  | missingHexDigit => "did not find expected hexadecimal number"
  | badCodePoint => "found invalid Unicode character escape code"
  | unexpectedColon => "found unexpected ':'"
  | tabInIndent => "found a tab character that violates indentation"
  | missingDocumentStart => "did not find expected <document start>"
  | repeatedVersion => "found duplicate %YAML directive"
  | incompatibleVersion => "found incompatible YAML document"
  | repeatedTagDirective => "found duplicate %TAG directive"
  | undefinedTag => "found undefined tag handle"
  | missingContent => "did not find expected node content"
  | missingDash => "did not find expected '-' indicator"
  | missingKey => "did not find expected key"
  | missingCommaOrBracket => "did not find expected ',' or ']'"
  | missingCommaOrBrace => "did not find expected ',' or '\x7d'"
  | unknownAnchor => "unknown anchor"

end Problem

/-- What was being read. -/
inductive Reading where
  | nextToken
  | simpleKey
  | directive
  | versionDirective
  | tagDirective
  | tagDirectiveStart
  | tagDirectiveHandle
  | tagDirectiveUri
  | anchor
  | reference
  | tag
  | tagUri
  | blockScalar
  | quotedScalar
  | escape
  | plainScalar
  | blockNode
  | flowNode
  | node
  | blockSequence
  | blockMapping
  | flowSequence
  | flowMapping
  deriving DecidableEq, Repr

namespace Reading

def message : Reading → String
  | nextToken => "while scanning for the next token"
  | simpleKey => "while scanning a simple key"
  | directive => "while scanning a directive"
  | versionDirective => "while scanning a %YAML directive"
  | tagDirective => "while scanning a %TAG directive"
  | tagDirectiveStart => "while scanning a tag directive"
  | tagDirectiveHandle => "while parsing a tag directive"
  | tagDirectiveUri => "while parsing a %TAG directive"
  | anchor => "while scanning an anchor"
  | reference => "while scanning an alias"
  | tag => "while scanning a tag"
  | tagUri => "while parsing a tag"
  | blockScalar => "while scanning a block scalar"
  | quotedScalar => "while scanning a quoted scalar"
  | escape => "while parsing a quoted scalar"
  | plainScalar => "while scanning a plain scalar"
  | blockNode => "while parsing a block node"
  | flowNode => "while parsing a flow node"
  | node => "while parsing a node"
  | blockSequence => "while parsing a block collection"
  | blockMapping => "while parsing a block mapping"
  | flowSequence => "while parsing a flow sequence"
  | flowMapping => "while parsing a flow mapping"

end Reading

structure Fault where
  problem : Problem
  place : Mark := {}
  /-- The number of bytes before the problem, where lines are not yet told apart. -/
  offset : Nat := 0
  reading : Option (Reading × Mark) := none
  deriving DecidableEq, Repr

namespace Fault

/-- The places are left out when they are the start of the text, and the second one when it is the
first one again. -/
def message (f : Fault) : String :=
  f.problem.message
    ++ (if !f.place.isStart then " at " ++ f.place.message
      else if f.offset ≠ 0 then " at position " ++ toString f.offset
      else "")
    ++ match f.reading with
      | none => ""
      | some (what, since) =>
        ", " ++ what.message ++
          if since.isStart || (since.line = f.place.line && since.column = f.place.column) then ""
          else " at " ++ since.message

end Fault

end IssueGraph.Yaml

import IssueGraph.Json.Literal
import IssueGraph.Yaml.Source

/-!
# Tags, anchors and directives in YAML text
-/
namespace IssueGraph.Yaml

/-! ## Names -/

/-- Read the name of an anchor or alias, whose indicator is next. -/
def readAnchor (reading : Reading) (s : Source) : Except Fault (String × Source) :=
  let rest := s.skip
  let name := rest.takeWhile isWordChar
  let rest := rest.skipMany name.length
  if name.isEmpty || !(rest.endsAt 0 ||
      rest.seesAny (['?', ':', ',', ']', '}', '%', '@', '\x60'].contains ·)) then
    rest.fault reading s.mark .badAnchor
  else .ok (String.ofList name, rest)

/-! ## Tags -/

/-- A tag is a handle, which stands for the beginning of a name, and the rest of the name. -/
structure TagText where
  handle : String
  suffix : String
  deriving DecidableEq, Repr

/-- Characters of a tag's name. Inside angle brackets commas and brackets are names too. -/
def isUriChar (verbatim : Bool) (c : Char) : Bool :=
  isWordChar c
    || [';', '/', '?', ':', '@', '&', '=', '+', '$', '.', '%', '!', '~', '*', '\'', '(',
      ')'].contains c
    || (verbatim && [',', '[', ']'].contains c)

/-- The number of bytes of a character that begins with the byte `n`. -/
def octetsOf? (n : Nat) : Option Nat :=
  if n < 0x80 then some 1
  else if n < 0xc0 then none
  else if n < 0xe0 then some 2
  else if n < 0xf0 then some 3
  else if n < 0xf8 then some 4
  else none

/-- The byte written as a percent sign and two digits. -/
def octet? (s : Source) : Option Nat :=
  if s.sees '%' then
    match (s.at? 1).bind Json.hexDigit?, (s.at? 2).bind Json.hexDigit? with
    | some a, some b => some (16 * a + b)
    | _, _ => none
  else none

/-- Read `n` more escaped bytes of a character, of which `bits` have been read. -/
def readOctets (reading : Reading) (since : Mark) : (n : Nat) → (bits : Nat) → Source →
    Except Fault (Char × Source)
  | 0, bits, s => .ok (Char.ofNat bits, s)
  | n + 1, bits, s =>
    match octet? s with
    | none => s.fault reading since .missingOctet
    | some o =>
      if o / 64 = 2 then readOctets reading since n (64 * bits + o % 64) (s.skipMany 3)
      else s.fault reading since .badTrailingOctet

/-- Read an escaped character of a tag's name. -/
def readUriEscape (reading : Reading) (since : Mark) (s : Source) : Except Fault (Char × Source) :=
  match octet? s with
  | none => s.fault reading since .missingOctet
  | some o =>
    match octetsOf? o with
    | none => s.fault reading since .badLeadingOctet
    | some 1 => .ok (Char.ofNat o, s.skipMany 3)
    | some n => readOctets reading since (n - 1) (o % Nat.pow 2 (7 - n)) (s.skipMany 3)

/-- Read the characters of a tag's name after those in `text`. -/
def readUriChars (reading : Reading) (since : Mark) (verbatim : Bool) :
    (fuel : Nat) → (text : List Char) → Source → Except Fault (List Char × Source)
  | 0, text, s => .ok (text, s)
  | fuel + 1, text, s =>
    match s.next? with
    | none => .ok (text, s)
    | some c =>
      if !isUriChar verbatim c then .ok (text, s)
      else if c == '%' then do
        let (d, s) ← readUriEscape reading since s
        readUriChars reading since verbatim fuel (text ++ [d]) s
      else readUriChars reading since verbatim fuel (text ++ [c]) s.skip

/-- Read a tag's name, which may be empty only after `head`. -/
def readUri (reading : Reading) (since : Mark) (verbatim : Bool) (head : List Char) (s : Source) :
    Except Fault (String × Source) := do
  let (text, rest) ← readUriChars reading since verbatim (s.ahead.length + 1) (head.drop 1) s
  if head.isEmpty && text.isEmpty then rest.fault reading since .missingUri
  else return (String.ofList text, rest)

/-- Read a handle: an exclamation mark, or a word between two of them. -/
def readHandle (reading : Reading) (since : Mark) (s : Source) :
    Except Fault (List Char × Source) :=
  if !s.sees '!' then s.fault reading since .missingBang
  else
    let name := s.skip.takeWhile isWordChar
    let rest := s.skip.skipMany name.length
    if rest.sees '!' then .ok ('!' :: (name ++ ['!']), rest.skip) else .ok ('!' :: name, rest)

/-- Read a tag, whose exclamation mark is next. -/
def readTag (inFlow : Bool) (s : Source) : Except Fault (TagText × Source) := do
  let since := s.mark
  let (tag, rest) ←
    if s.at? 1 == some '<' then do
      let (suffix, rest) ← readUri .tagUri since true [] (s.skipMany 2)
      if !rest.sees '>' then rest.fault .tag since .missingAngle
      pure (⟨"", suffix⟩, rest.skip)
    else do
      let (handle, rest) ← readHandle .tag since s
      if 1 < handle.length && handle.getLast? == some '!' then
        let (suffix, rest) ← readUri .tagUri since false [] rest
        pure (⟨String.ofList handle, suffix⟩, rest)
      else
        let (suffix, rest) ← readUri .tagUri since false handle rest
        pure (if suffix.isEmpty then (⟨"", "!"⟩, rest) else (⟨"!", suffix⟩, rest))
  if rest.endsAt 0 || (inFlow && rest.sees ',') then return (tag, rest)
  else rest.fault .tag since .missingSpaceOrBreak

/-! ## Directives -/

inductive Directive where
  | version (major minor : Nat)
  | tag (handle stem : String)
  deriving DecidableEq, Repr

/-- Read a number of at most nine digits. -/
def readVersionNumber (since : Mark) (s : Source) : Except Fault (Nat × Source) :=
  let digits := s.takeWhile Char.isDigit
  if digits.isEmpty then s.fault .versionDirective since .missingVersion
  else if 9 < digits.length then (s.skipMany 9).fault .versionDirective since .longVersion
  else
    .ok (digits.foldl (fun n c => 10 * n + (c.toNat - '0'.toNat)) 0, s.skipMany digits.length)

/-- Read a directive, whose percent sign is next. -/
def readDirective (s : Source) : Except Fault (Directive × Source) := do
  let since := s.mark
  let name := s.skip.takeWhile isWordChar
  let rest := s.skip.skipMany name.length
  if name.isEmpty then rest.fault .directive since .missingDirectiveName
  if !rest.endsAt 0 then rest.fault .directive since .badDirectiveName
  if name = "YAML".toList then
    let (major, rest) ← readVersionNumber since (rest.skipWhile isBlank)
    if !rest.sees '.' then rest.fault .versionDirective since .badVersion
    let (minor, rest) ← readVersionNumber since rest.skip
    return (.version major minor, rest)
  else if name = "TAG".toList then
    let (handle, rest) ← readHandle .tagDirectiveStart since (rest.skipWhile isBlank)
    if handle ≠ ['!'] && handle.getLast? != some '!' then
      rest.fault .tagDirectiveHandle since .missingBang
    if !rest.seesAny isBlank then rest.fault .tagDirective since .missingSpace
    let (stem, rest) ← readUri .tagDirectiveUri since true [] (rest.skipWhile isBlank)
    if !rest.endsAt 0 then rest.fault .tagDirective since .missingSpaceOrBreak
    return (.tag (String.ofList handle) stem, rest)
  else rest.fault .directive since .unknownDirective

end IssueGraph.Yaml

import IssueGraph.Json.Literal

/-!
# Passing over JSON values

The value of a field that nobody wants is passed over, however deep it is nested: the brackets that
are open are kept in a list. Such a value has to be well formed, but its numbers may be out of range
and its surrogate escapes need not come in pairs.
-/
namespace IssueGraph.Json

/-! ## Literals -/

/-- Pass over what follows a backslash. -/
def skipEscape : Reader Unit := fun i =>
  match h : i.next? with
  | none => i.fault .endInString
  | some (c, j) =>
    if (simpleEscape? c).isSome then .ok (.next () h)
    else if c == 'u' then do return ((← readHex j).afterNext h).map fun _ => ()
    else i.faultAhead .invalidEscape

/-- Pass over the characters up to the closing quote, as a step from an input further back. -/
def skipChars (start i : Input) (h : i.length < start.length) : Except Fault (Step start Unit) :=
  match hj : i.next? with
  | none => i.fault .endInString
  | some (c, j) =>
    if c == '"' then .ok ⟨(), j, Input.length_lt_start_of_next? hj h⟩
    else if c == '\\' then do
      let s := (← skipEscape j).afterNext hj
      skipChars start s.rest (Nat.lt_trans s.shorter h)
    else if c.toNat < 32 then i.fault .controlCharacter
    else skipChars start j (Input.length_lt_start_of_next? hj h)
termination_by i.length
decreasing_by
  · exact s.shorter
  · exact Input.length_lt_of_next? hj

/-- Pass over a string whose opening quote is ahead. -/
def skipString : Reader Unit := fun i =>
  match h : i.next? with
  | none => i.fault .endInValue
  | some (_, j) => skipChars i j (Input.length_lt_of_next? h)

/-- Pass over the digits of an exponent, one at least. -/
def skipExponentDigits (i : Input) : Except Fault (Within i Unit) :=
  match i.next? with
  | none => i.fault .invalidNumber
  | some (c, _) =>
    if c.isDigit then .ok ⟨(), i.dropWhile Char.isDigit, i.length_dropWhile_le Char.isDigit⟩
    else i.faultAhead .invalidNumber

/-- Pass over an exponent whose letter has been read. -/
def skipExponent (i : Input) : Except Fault (Within i Unit) :=
  match h : i.next? with
  | some (c, j) =>
    if c == '+' || c == '-' then do return (← skipExponentDigits j).afterNext h
    else skipExponentDigits i
  | none => skipExponentDigits i

/-- Pass over an exponent if the letter of one is ahead. -/
def skipFloatEnd (i : Input) : Except Fault (Within i Unit) :=
  match h : i.next? with
  | some (c, j) =>
    if c == 'e' || c == 'E' then do return (← skipExponent j).afterNext h else .ok (.here ())
  | none => .ok (.here ())

/-- Pass over what follows the whole digits of a number. -/
def skipFraction (i : Input) : Except Fault (Within i Unit) :=
  match h : i.next? with
  | some ('.', j) =>
    if j.ahead.head?.any Char.isDigit then do
      let w ← skipFloatEnd (j.dropWhile Char.isDigit)
      return ⟨(), w.rest, by
        have := Input.length_of_next? h
        have := w.bound
        have := Input.length_dropWhile_le j Char.isDigit
        omega⟩
    else j.faultAhead .invalidNumber
  | _ => skipFloatEnd i

/-- Pass over the digits of a number after its sign. -/
def skipDigits : Reader Unit := fun i =>
  match h : i.next? with
  | none => i.fault .invalidNumber
  | some (c, j) =>
    have hlt := Input.length_of_next? h
    if c == '0' then
      if j.ahead.head?.any Char.isDigit then j.faultAhead .invalidNumber
      else do
        let w ← skipFraction j
        return ⟨(), w.rest, by have := w.bound; omega⟩
    else if c.isDigit then do
      let w ← skipFraction (j.dropWhile Char.isDigit)
      return ⟨(), w.rest, by
        have := w.bound
        have := Input.length_dropWhile_le j Char.isDigit
        omega⟩
    else i.faultAhead .invalidNumber

/-! ## Values -/

inductive Bracket where
  | list
  | object
  deriving DecidableEq, Repr

namespace Bracket

def closing : Bracket → Char
  | list => ']'
  | object => '}'

def endInside : Bracket → Cause
  | list => .endInList
  | object => .endInObject

def expectedCommaOrEnd : Bracket → Cause
  | list => .expectedListCommaOrEnd
  | object => .expectedObjectCommaOrEnd

end Bracket

/-- Pass over a key and its colon, which are ahead after blanks. -/
def skipKey : Reader Unit := fun i =>
  match i.skipBlanks.next? with
  | none => i.skipBlanks.faultAhead .endInObject
  | some ('"', _) => do
    let s ← skipString i.skipBlanks
    let t ← readColon s.rest
    return ⟨(), t.rest, by
      have := i.length_skipBlanks_le
      have := s.shorter
      have := t.shorter
      omega⟩
  | some _ => i.skipBlanks.faultAhead .keyNotString

/-- Pass over a literal, or over an opening bracket, which is then yielded. -/
def skipToken : Reader (Option Bracket) :=
  Reader.atValue fun c => fun i =>
    match c with
    | 'n' => Reader.word "ull" none i
    | 't' => Reader.word "rue" none i
    | 'f' => Reader.word "alse" none i
    | '"' => (skipString i).map (Step.map fun _ => none)
    | '-' =>
      match h : i.next? with
      | none => i.fault .endInValue
      | some (_, j) => do return ((← skipDigits j).afterNext h).map fun _ => none
    | c =>
      if c.isDigit then (skipDigits i).map (Step.map fun _ => none)
      else if c == '[' || c == '{' then
        match h : i.next? with
        | none => i.fault .endInValue
        | some (_, _) => .ok (.next (some (if c == '[' then .list else .object)) h)
      else i.faultAhead .expectedValue

/-- Pass over closing brackets and a comma after a value inside the brackets `frame :: stack`; yield
the brackets that are still open. Right after an opening bracket, when `first`, no comma may
stand. -/
def skipClosing (first : Bool) (frame : Bracket) (stack : List Bracket) (i : Input) :
    Except Fault (Within i (List Bracket)) :=
  let j := i.skipBlanks
  have hj : j.length ≤ i.length := i.length_skipBlanks_le
  match h : j.next? with
  | none => j.faultAhead frame.endInside
  | some (c, k) =>
    have hk := Input.length_of_next? h
    if c == ',' && !first then .ok ⟨frame :: stack, k, by omega⟩
    else if c == frame.closing then
      match stack with
      | [] => .ok ⟨[], k, by omega⟩
      | outer :: stack => do
        let w ← skipClosing false outer stack k
        return ⟨w.value, w.rest, by have := w.bound; omega⟩
    else if first then .ok ⟨frame :: stack, j, hj⟩
    else j.faultAhead frame.expectedCommaOrEnd
termination_by i.length
decreasing_by omega

/-- Pass over a value inside some open brackets, and over all that follows until they are closed, as
a step from an input further back. -/
def skipInside (start : Input) (stack : List Bracket) (i : Input) (h : i.length ≤ start.length) :
    Except Fault (Step start Unit) := do
  let s ← skipToken i
  let (first, inner) := match s.value with
    | some b => (true, b :: stack)
    | none => (false, stack)
  match inner with
  | [] => return ⟨(), s.rest, by have := s.shorter; omega⟩
  | frame :: outer => do
    let w ← skipClosing first frame outer s.rest
    match w.value with
    | [] => return ⟨(), w.rest, by have := w.bound; have := s.shorter; omega⟩
    | .list :: stack =>
      skipInside start (.list :: stack) w.rest (by have := w.bound; have := s.shorter; omega)
    | .object :: stack => do
      let u ← skipKey w.rest
      skipInside start (.object :: stack) u.rest (by
        have := w.bound; have := s.shorter; have := u.shorter; omega)
termination_by i.length
decreasing_by
  · have := w.bound; have := s.shorter; omega
  · have := w.bound; have := s.shorter; have := u.shorter; omega

/-- Pass over one value. -/
def skipValue : Reader Unit := fun i => skipInside i [] i i.length_le_self

end IssueGraph.Json

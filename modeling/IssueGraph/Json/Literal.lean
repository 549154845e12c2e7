import IssueGraph.Json.Reader

/-!
# Strings and numbers in JSON text

A string is read to its closing quote; a pair of surrogate escapes stands for one character and a
lone one is refused. A number is a whole number if it has neither point nor exponent and fits 64
bits, and otherwise a double. The double of a long number is computed from the digits that fit 64
bits.
-/
namespace IssueGraph.Json

/-- A value and the input that remains, which is not longer. -/
structure Within (i : Input) (α : Type) where
  value : α
  rest : Input
  bound : rest.length ≤ i.length

namespace Within

variable {α : Type} {i j : Input} {c : Char}

/-- A value for which nothing is read. -/
def here (a : α) : Within i α := ⟨a, i, Nat.le_refl _⟩

/-- What follows one character. -/
def afterNext (w : Within j α) (h : i.next? = some (c, j)) : Within i α :=
  ⟨w.value, w.rest, Nat.le_trans w.bound (Nat.le_of_lt (Input.length_lt_of_next? h))⟩

end Within

/-! ## Strings -/

def hexDigit? (c : Char) : Option Nat :=
  if c.isDigit then some (c.toNat - '0'.toNat)
  else if 'a' ≤ c && c ≤ 'f' then some (c.toNat - 'a'.toNat + 10)
  else if 'A' ≤ c && c ≤ 'F' then some (c.toNat - 'A'.toNat + 10)
  else none

/-- The number that hexadecimal digits write. -/
def hexNumber? (cs : List Char) : Option Nat :=
  cs.foldl (fun n c => n.bind fun n => (hexDigit? c).map (16 * n + ·)) (some 0)

/-- Four bytes that are hexadecimal digits. -/
def readHex : Reader Nat := fun i =>
  let four := i.ahead.take 4
  if h : four.length = 4 then
    match hexNumber? four with
    | some n => .ok ⟨n, i.drop 4, by
        have := i.length_drop 4
        simp only [four, List.length_take] at h
        simp only [Input.length] at *
        omega⟩
    | none => .error ⟨.invalidEscape, i.place.afterBytes 4 i.ahead⟩
  else if 4 ≤ (String.ofList four).utf8ByteSize then
    .error ⟨.invalidEscape, i.place.afterBytes 4 i.ahead⟩
  else .error ⟨.endInString, i.place.afterChars i.ahead⟩

def isHighSurrogate (n : Nat) : Bool := 0xd800 ≤ n && n ≤ 0xdbff

def isLowSurrogate (n : Nat) : Bool := 0xdc00 ≤ n && n ≤ 0xdfff

/-- The escape of the second half of a pair whose first half is `high`. -/
def readLowSurrogate (high : Nat) : Reader Char := fun i =>
  match hj : i.next? with
  | none => i.fault .endInString
  | some ('\\', j) =>
    match hk : j.next? with
    | none => j.fault .endInString
    | some ('u', k) => do
      let s ← readHex k
      if isLowSurrogate s.value then
        return ⟨Char.ofNat ((high - 0xd800) * 0x400 + (s.value - 0xdc00) + 0x10000), s.rest, by
          have := Input.length_of_next? hj
          have := Input.length_of_next? hk
          have := s.shorter
          omega⟩
      else s.rest.fault .loneSurrogate
    | some _ => j.faultAhead .brokenSurrogatePair
  | some _ => i.faultAhead .brokenSurrogatePair

/-- What follows a backslash and the letter u. -/
def readUnicodeEscape : Reader Char := fun i => do
  let s ← readHex i
  if isLowSurrogate s.value then s.rest.fault .loneSurrogate
  else if isHighSurrogate s.value then
    let t ← readLowSurrogate s.value s.rest
    return ⟨t.value, t.rest, Nat.lt_trans t.shorter s.shorter⟩
  else return ⟨Char.ofNat s.value, s.rest, s.shorter⟩

/-- The character that a single letter after a backslash stands for. -/
def simpleEscape? : Char → Option Char
  | '"' => some '"'
  | '\\' => some '\\'
  | '/' => some '/'
  | 'b' => some '\x08'
  | 'f' => some '\x0c'
  | 'n' => some '\n'
  | 'r' => some '\r'
  | 't' => some '\t'
  | _ => none

/-- What follows a backslash. -/
def readEscape : Reader Char := fun i =>
  match h : i.next? with
  | none => i.fault .endInString
  | some (c, j) =>
    match simpleEscape? c with
    | some d => .ok (.next d h)
    | none =>
      if c == 'u' then do return (← readUnicodeEscape j).afterNext h
      else i.faultAhead .invalidEscape

/-- The characters up to the closing quote, with those before them in reverse, as a step from an
input further back. -/
def readChars (start : Input) (before : List Char) (i : Input) (h : i.length < start.length) :
    Except Fault (Step start String) :=
  match hj : i.next? with
  | none => i.fault .endInString
  | some (c, j) =>
    if c == '"' then
      .ok ⟨String.ofList before.reverse, j, Input.length_lt_start_of_next? hj h⟩
    else if c == '\\' then do
      let s := (← readEscape j).afterNext hj
      readChars start (s.value :: before) s.rest (Nat.lt_trans s.shorter h)
    else if c.toNat < 32 then i.faultAhead .controlCharacter
    else readChars start (c :: before) j (Input.length_lt_start_of_next? hj h)
termination_by i.length
decreasing_by
  · exact s.shorter
  · exact Input.length_lt_of_next? hj

/-- A string whose opening quote is ahead. -/
def readString : Reader String := fun i =>
  match h : i.next? with
  | none => i.fault .endInValue
  | some (_, j) => readChars i [] j (Input.length_lt_of_next? h)

/-! ## Numbers -/

inductive Number where
  | int (value : Int)
  | float (value : Float)
  deriving DecidableEq, Repr

namespace Number

def found : Number → Found
  | int i => .int i
  | float x => .float x

end Number

/-- The value of a digit. -/
def digitValue (c : Char) : Nat := c.toNat - '0'.toNat

/-- Append digits to `n` as long as the result fits 64 bits; the digits left over come second. -/
def appendDigits (n : Nat) : List Char → Nat × List Char
  | [] => (n, [])
  | c :: cs =>
    let m := 10 * n + digitValue c
    if m < Nat.pow 2 64 then appendDigits m cs else (n, c :: cs)

/-- A power of ten as a double. -/
def powerOfTen (n : Nat) : Float := Binary64.ofDecimal 1 n

/-- Divide by a power of ten, in steps that stay in the range of doubles. -/
def scaleDown (x : Float) (n : Nat) : Float :=
  if n ≤ 308 then x / powerOfTen n
  else if x == 0.0 then x
  else scaleDown (x / powerOfTen 308) (n - 308)
termination_by n

/-- The double `digits · 10 ^ exponent`, rounded once for the digits and once for the scale; it has
to be finite. -/
def scaled? (digits : Nat) (exponent : Int) : Option Float :=
  let x := Binary64.ofRatio digits 1
  if exponent < 0 then some (scaleDown x (-exponent).toNat)
  else if exponent ≤ 308 then
    let y := x * powerOfTen exponent.toNat
    if y.isInf then none else some y
  else if x == 0.0 then some x
  else none

def signed (negative : Bool) (x : Float) : Float := if negative then -x else x

/-- A double that ends at `i`. -/
def floatAt (negative : Bool) (digits : Nat) (exponent : Int) (i : Input) :
    Except Fault (Within i Number) :=
  match scaled? digits exponent with
  | some x => .ok (.here (.float (signed negative x)))
  | none => i.fault .numberOutOfRange

/-- The digits of an exponent, or nothing as soon as they pass 31 bits. -/
def readExponentDigits (e : Nat) (i : Input) : Within i (Option Nat) :=
  match h : i.next? with
  | none => .here (some e)
  | some (c, j) =>
    if c.isDigit then
      let d := 10 * e + digitValue c
      if d < Nat.pow 2 31 then (readExponentDigits d j).afterNext h
      else (Within.here none).afterNext h
    else .here (some e)
termination_by i.length
decreasing_by exact Input.length_lt_of_next? h

/-- The digits of an exponent, after the letter and the sign. -/
def readExponentAt (negative : Bool) (digits : Nat) (exponent : Int) (down : Bool) (i : Input) :
    Except Fault (Within i Number) :=
  match i.next? with
  | none => i.fault .endInValue
  | some (c, _) =>
    if c.isDigit then
      let w := readExponentDigits 0 i
      match w.value with
      | some e => do
        let r ← floatAt negative digits (if down then exponent - e else exponent + e) w.rest
        return ⟨r.value, r.rest, Nat.le_trans r.bound w.bound⟩
      | none =>
        if digits ≠ 0 && !down then w.rest.fault .numberOutOfRange
        else .ok ⟨.float (signed negative 0.0), w.rest.dropWhile Char.isDigit,
          Nat.le_trans (Input.length_dropWhile_le _ _) w.bound⟩
    else i.faultAhead .invalidNumber

/-- An exponent whose letter has been read. -/
def readExponent (negative : Bool) (digits : Nat) (exponent : Int) (i : Input) :
    Except Fault (Within i Number) :=
  match h : i.next? with
  | some ('+', j) => do return (← readExponentAt negative digits exponent false j).afterNext h
  | some ('-', j) => do return (← readExponentAt negative digits exponent true j).afterNext h
  | _ => readExponentAt negative digits exponent false i

/-- A double, or its exponent if the letter of one is ahead. -/
def readFloatEnd (negative : Bool) (digits : Nat) (exponent : Int) (i : Input) :
    Except Fault (Within i Number) :=
  match h : i.next? with
  | some (c, j) =>
    if c == 'e' || c == 'E' then do return (← readExponent negative digits exponent j).afterNext h
    else floatAt negative digits exponent i
  | none => floatAt negative digits exponent i

/-- The places after a point that has been read. -/
def readPlaces (negative : Bool) (digits : Nat) (exponent : Int) (i : Input) :
    Except Fault (Within i Number) :=
  let places := i.ahead.takeWhile Char.isDigit
  let after := i.dropWhile Char.isDigit
  if places.isEmpty then
    i.faultAhead (if i.ahead.isEmpty then .endInValue else .invalidNumber)
  else do
    let (taken, left) := appendDigits digits places
    let w ← readFloatEnd negative taken (exponent - (places.length - left.length : Nat)) after
    return ⟨w.value, w.rest, Nat.le_trans w.bound (Input.length_dropWhile_le _ _)⟩

/-- What follows the whole digits of a number, of which `dropped` did not fit 64 bits. -/
def readFraction (negative : Bool) (digits dropped : Nat) (i : Input) :
    Except Fault (Within i Number) :=
  match h : i.next? with
  | some (c, j) =>
    if c == '.' then do return (← readPlaces negative digits dropped j).afterNext h
    else if c == 'e' || c == 'E' || dropped ≠ 0 then readFloatEnd negative digits dropped i
    else whole
  | none => if dropped ≠ 0 then readFloatEnd negative digits dropped i else whole
where
  whole : Except Fault (Within i Number) :=
    let value : Number :=
      if !negative then .int digits
      else if digits = 0 || Nat.pow 2 63 < digits then .float (-Binary64.ofRatio digits 1)
      else .int (-digits)
    .ok (.here value)

/-- The digits of a number after its sign. -/
def readDigits (negative : Bool) : Reader Number := fun i =>
  match h : i.next? with
  | none => i.fault .endInValue
  | some (c, j) =>
    have hlt := Input.length_of_next? h
    if c == '0' then
      if j.ahead.head?.any Char.isDigit then j.faultAhead .invalidNumber
      else do
        let w ← readFraction negative 0 0 j
        return ⟨w.value, w.rest, by have := w.bound; omega⟩
    else if c.isDigit then do
      let (digits, left) := appendDigits 0 (c :: j.ahead.takeWhile Char.isDigit)
      let w ← readFraction negative digits left.length (j.dropWhile Char.isDigit)
      return ⟨w.value, w.rest, by
        have := w.bound
        have := Input.length_dropWhile_le j Char.isDigit
        omega⟩
    else i.faultAhead .invalidNumber

/-- A number whose sign or first digit is ahead. -/
def readNumber : Reader Number := fun i =>
  match h : i.next? with
  | some ('-', j) => do return (← readDigits true j).afterNext h
  | _ => readDigits false i

end IssueGraph.Json

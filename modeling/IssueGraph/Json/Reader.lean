import IssueGraph.Json.Cause

/-!
# Reading JSON text

A reader takes the characters ahead and yields a value with the characters that remain, of which
there are fewer. Faults carry the place at which the text was found wrong: a character that was only
looked at counts as read when it is the one at fault.
-/
namespace IssueGraph.Json

/-- The characters ahead and the place reached. -/
structure Input where
  ahead : List Char
  place : Place := {}
  deriving DecidableEq, Repr

namespace Input

/-- The whole of a text. -/
def ofString (s : String) : Input := { ahead := s.toList }

def length (i : Input) : Nat := i.ahead.length

theorem length_le_self (i : Input) : i.length ≤ i.length := Nat.le_refl _

/-- The place after one more byte. -/
def peekPlace (i : Input) : Place := i.place.afterBytes 1 i.ahead

/-- A fault at what has been read. -/
def fault (i : Input) (cause : Cause) : Except Fault α := .error ⟨cause, i.place⟩

/-- A fault at the byte ahead. -/
def faultAhead (i : Input) (cause : Cause) : Except Fault α := .error ⟨cause, i.peekPlace⟩

/-- Pass over `n` characters. -/
def drop (i : Input) (n : Nat) : Input :=
  { ahead := i.ahead.drop n, place := i.place.afterChars (i.ahead.take n) }

/-- Pass over the characters of a class. -/
def dropWhile (i : Input) (p : Char → Bool) : Input :=
  { ahead := i.ahead.dropWhile p, place := i.place.afterChars (i.ahead.takeWhile p) }

theorem length_drop (i : Input) (n : Nat) : (i.drop n).length = i.length - n := by
  simp [drop, length]

theorem length_dropWhile_le (i : Input) (p : Char → Bool) : (i.dropWhile p).length ≤ i.length :=
  (List.dropWhile_sublist p).length_le

/-- The four blanks that may stand between the parts of a text. -/
def isBlank (c : Char) : Bool := c == ' ' || c == '\n' || c == '\t' || c == '\r'

def skipBlanks (i : Input) : Input := i.dropWhile isBlank

theorem length_skipBlanks_le (i : Input) : i.skipBlanks.length ≤ i.length :=
  length_dropWhile_le i isBlank

/-- The character ahead, if there is one, with the input after it. -/
def next? (i : Input) : Option (Char × Input) :=
  match i.ahead with
  | [] => none
  | c :: cs => some (c, { ahead := cs, place := i.place.next c })

theorem length_of_next? {i j : Input} {c : Char} (h : i.next? = some (c, j)) :
    j.length + 1 = i.length := by
  unfold next? at h
  split at h
  · cases h
  · next heq => cases h; simp [length, heq]

theorem length_lt_of_next? {i j : Input} {c : Char} (h : i.next? = some (c, j)) :
    j.length < i.length := by
  have := length_of_next? h
  omega

theorem length_lt_start_of_next? {start i j : Input} {c : Char} (h : i.next? = some (c, j))
    (hi : i.length < start.length) : j.length < start.length :=
  Nat.lt_trans (length_lt_of_next? h) hi

end Input

/-- A value and the shorter input that remains. -/
structure Step (i : Input) (α : Type) where
  value : α
  rest : Input
  shorter : rest.length < i.length

namespace Step

variable {α β : Type} {i : Input}

def map (f : α → β) (s : Step i α) : Step i β := ⟨f s.value, s.rest, s.shorter⟩

/-- The step over one character. -/
def next {j : Input} {c : Char} (a : α) (h : i.next? = some (c, j)) : Step i α :=
  ⟨a, j, Input.length_lt_of_next? h⟩

/-- A step that follows one character. -/
def afterNext {j : Input} {c : Char} (s : Step j α) (h : i.next? = some (c, j)) : Step i α :=
  ⟨s.value, s.rest, Nat.lt_trans s.shorter (Input.length_lt_of_next? h)⟩

end Step

/-- A reader of values, each of which takes at least one character. -/
abbrev Reader (α : Type) := (i : Input) → Except Fault (Step i α)

namespace Reader

variable {α β : Type}

def map (f : α → β) (r : Reader α) : Reader β := fun i => (r i).map (Step.map f)

/-- Read after blanks, given the character ahead; a text that ends here ends within a value. -/
def atValue (r : Char → Reader α) : Reader α := fun i =>
  match i.skipBlanks.next? with
  | none => i.skipBlanks.faultAhead .endInValue
  | some (c, _) => do
    let s ← r c i.skipBlanks
    return ⟨s.value, s.rest, Nat.lt_of_lt_of_le s.shorter i.length_skipBlanks_le⟩

/-- Pass over the rest of a word whose first character is ahead. -/
def word (rest : String) (value : α) : Reader α := fun i =>
  match h : i.next? with
  | none => i.fault .endInValue
  | some (_, j) => go i rest.toList j (Input.length_lt_of_next? h)
where
  go (i : Input) : List Char → (j : Input) → j.length < i.length → Except Fault (Step i α)
    | [], j, h => .ok ⟨value, j, h⟩
    | c :: cs, j, h =>
      match hj : j.next? with
      | none => j.fault .endInValue
      | some (d, k) =>
        if d == c then go i cs k (Input.length_lt_start_of_next? hj h)
        else j.faultAhead .expectedWord

end Reader

/-- Pass over the colon between a key and its value. -/
def readColon : Reader Unit := fun i =>
  match h : i.skipBlanks.next? with
  | none => i.skipBlanks.faultAhead .endInObject
  | some (':', j) => .ok ⟨(), j, by
      have := Input.length_of_next? h; have := i.length_skipBlanks_le; omega⟩
  | some _ => i.skipBlanks.faultAhead .expectedColon

/-- Blanks may stand at the end of a text, and nothing else. -/
def atEnd (i : Input) : Except Fault Unit :=
  if i.skipBlanks.ahead.isEmpty then .ok () else i.skipBlanks.faultAhead .trailingCharacters

/-- Read a whole text. -/
def readText (r : Reader α) (s : String) : Except Fault α := do
  let step ← r (.ofString s)
  atEnd step.rest
  return step.value

end IssueGraph.Json

/-!
# Levels of a command line

A command line is read in levels: what comes before the name of a command, and what follows it. A
level takes options, some with a value, and operands. The value of an option stands in the same
argument or is the next one; it is applied to the settings when the following option or operand
begins, or at the end. After two dashes all is an operand.
-/
namespace IssueGraph.CommandLine

/-- Why a command line is not run. -/
inductive Stop where
  | unknownArgument
  | unknownCommand
  /-- Arguments that exclude each other, or one that is repeated. -/
  | conflict
  | unfitValue
  /-- No value, or an empty one where there has to be something. -/
  | missingValue
  | missingOperand
  /-- A value for an option that takes none. -/
  | needlessValue
  | help
  | version
  deriving DecidableEq, Repr

/-- What an option does to the settings. -/
inductive Action (σ : Type) where
  | flag (apply : σ → Except Stop σ)
  | value (apply : String → σ → Except Stop σ)

namespace Action

variable {σ τ α : Type}

/-- A flag that may be given once. -/
def flagOnce (isSet : σ → Bool) (set : σ → σ) : Action σ :=
  .flag fun s => if isSet s then .error .conflict else .ok (set s)

/-- An option with a value that may be given once. -/
def valueOnce (isSet : σ → Bool) (read : String → Except Stop α) (set : α → σ → σ) : Action σ :=
  .value fun v s => if isSet s then .error .conflict else (read v).map (set · s)

/-- An action on the first of two settings. -/
def onFirst : Action σ → Action (σ × τ)
  | flag apply => .flag fun s => (apply s.1).map (·, s.2)
  | value apply => .value fun v s => (apply v s.1).map (·, s.2)

/-- An action on the second of two settings. -/
def onSecond : Action τ → Action (σ × τ)
  | flag apply => .flag fun s => (apply s.2).map (s.1, ·)
  | value apply => .value fun v s => (apply v s.2).map (s.1, ·)

end Action

/-- An option: its name after two dashes, its letter after one, and what it does. -/
structure Switch (σ : Type) where
  long : String
  short : Option Char := none
  action : Action σ

/-- What one level takes. -/
structure Level (σ : Type) where
  switches : List (Switch σ)
  /-- What the operands are for, in order. -/
  operands : List (String → σ → Except Stop σ) := []
  /-- The names with which the next level begins. -/
  commands : List String := []

/-- The form of an argument. -/
inductive Form where
  | dashes
  | long (name : String) (value : Option String)
  | letters (cs : List Char)
  | plain
  deriving DecidableEq, Repr

/-- The form of an argument; a dash by itself is plain. -/
def Form.of (arg : String) : Form :=
  match arg.toList with
  | ['-', '-'] => .dashes
  | '-' :: '-' :: cs =>
    let value := match cs.dropWhile (· != '=') with
      | _ :: v => some (String.ofList v)
      | [] => none
    .long (String.ofList (cs.takeWhile (· != '='))) value
  | '-' :: c :: cs => .letters (c :: cs)
  | _ => .plain

/-- An option or operand that is not applied yet. Without a value the next argument is its value. -/
structure Pending (σ : Type) where
  apply : String → σ → Except Stop σ
  value : Option String

/-- How far a level has been read. -/
structure Progress (σ : Type) where
  settings : σ
  pending : Option (Pending σ) := none
  /-- What the next operands are for. -/
  operands : List (String → σ → Except Stop σ)
  /-- Whether two dashes have been read. -/
  dashes : Bool := false

namespace Progress

variable {σ : Type}

/-- Apply what is pending. -/
def settle (p : Progress σ) : Except Stop (Progress σ) :=
  match p.pending with
  | none => .ok p
  | some ⟨_, none⟩ => .error .missingValue
  | some ⟨apply, some v⟩ =>
    (apply v p.settings).map fun s => { p with settings := s, pending := none }

/-- The option that waits for its value. -/
def waiting? (p : Progress σ) : Option (String → σ → Except Stop σ) :=
  match p.pending with
  | some ⟨apply, none⟩ => some apply
  | _ => none

/-- Settle, and then carry out an action; an action with no value at hand waits for one. -/
def act (p : Progress σ) (action : Action σ) (value : Option String) :
    Except Stop (Progress σ) := do
  let p ← p.settle
  match action, value with
  | .flag apply, _ => return { p with settings := ← apply p.settings }
  | .value apply, some v => return { p with settings := ← apply v p.settings }
  | .value apply, none => return { p with pending := some ⟨apply, none⟩ }

end Progress

namespace Level

variable {σ : Type} (l : Level σ)

/-- The action of a long option. -/
def long? (name : String) : Option (Action σ) :=
  (l.switches.find? (·.long == name)).map (·.action)

/-- The action of a letter. -/
def short? (c : Char) : Option (Action σ) :=
  (l.switches.find? (·.short == some c)).map (·.action)

/-- Read a long option. -/
def readLong (p : Progress σ) (name : String) (value : Option String) :
    Except Stop (Progress σ) :=
  match l.long? name, value with
  | none, _ => .error .unknownArgument
  | some (.flag _), some _ => .error .needlessValue
  | some action, value => p.act action value

/-- Read letters after a dash. What follows the letter of an option with a value is its value,
perhaps after an equals sign. -/
def readLetters (p : Progress σ) : List Char → Except Stop (Progress σ)
  | [] => .ok p
  | c :: cs =>
    match l.short? c, cs with
    | none, _ => .error .unknownArgument
    | some (.flag apply), cs => do readLetters (← p.act (.flag apply) none) cs
    | some (.value apply), [] => p.act (.value apply) none
    | some (.value apply), '=' :: v => p.act (.value apply) (some (String.ofList v))
    | some (.value apply), v => p.act (.value apply) (some (String.ofList v))

/-- What is wrong with an operand that nothing is left for. -/
def stray (p : Progress σ) (arg : String) : Stop :=
  if l.commands.isEmpty || p.dashes && l.commands.contains arg then .unknownArgument
  else .unknownCommand

/-- Read an operand. -/
def readOperand (p : Progress σ) (arg : String) : Except Stop (Progress σ) :=
  match p.operands with
  | [] => .error (l.stray p arg)
  | apply :: operands =>
    p.settle.map fun p => { p with pending := some ⟨apply, some arg⟩, operands }

/-- Read arguments up to the name of a command. The arguments from there on are left. -/
def readFrom (p : Progress σ) : List String → Except Stop (Progress σ × List String)
  | [] => .ok (p, [])
  | arg :: args =>
    if p.dashes then do readFrom (← l.readOperand p arg) args
    else if p.waiting?.isNone && l.commands.contains arg then .ok (p, arg :: args)
    else match Form.of arg with
      | .dashes => readFrom { p with dashes := true } args
      | .long name value => do readFrom (← l.readLong p name value) args
      | .letters cs => do readFrom (← l.readLetters p cs) args
      | .plain =>
        match p.waiting? with
        | some apply => readFrom { p with pending := some ⟨apply, some arg⟩ } args
        | none => do readFrom (← l.readOperand p arg) args

/-- Read arguments from the start of the level. -/
def read (settings : σ) (args : List String) : Except Stop (Progress σ × List String) :=
  l.readFrom { settings, operands := l.operands } args

/-- The settings in the arguments of a level that ends with them. -/
def readAll (settings : σ) (args : List String) : Except Stop σ := do
  let (p, _) ← l.read settings args
  return (← p.settle).settings

end Level

end IssueGraph.CommandLine

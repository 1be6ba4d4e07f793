/-!
# Reading arguments

Arguments are read from first to last.  A flag is given by its long or its
short name, and its value is attached to it or is the argument after it; no
flag is given twice.  The first argument that makes no sense, or asks for help,
ends the reading.
-/

namespace Intermediary

inductive Refusal where
  | help
  /-- The arguments make no sense. -/
  | misuse
  deriving DecidableEq, Repr

/-- The exit code of a program whose arguments start nothing. -/
def Refusal.exitCode : Refusal -> Nat
  | .help => 0
  | .misuse => 2

structure ArgumentShape (κ : Type) where
  flags : List κ
  long : κ -> String
  short : κ -> Char
  /-- The one value that is given without a name, if there is one. -/
  operand : Option κ
  accepts : κ -> String -> Bool
  /-- The names of commands, each with arguments of its own. -/
  commands : List String

namespace Arguments

variable {κ : Type} [DecidableEq κ]

structure Reading (κ : Type) where
  given : List (κ × String)
  /-- The flag or operand read last, which is not checked yet. -/
  pending : Option (κ × Option String)
  /-- The next argument is the value of the flag read last. -/
  isExpecting : Bool
  /-- Everything that follows is an operand. -/
  isTrailing : Bool

def Reading.fresh : Reading κ := ⟨[], none, false, false⟩

/-- A command, and the arguments after its name. -/
abbrev Command := String × List String

/-- Accept a value, unless there already is one. -/
def accept (shape : ArgumentShape κ) (reading : Reading κ) (key : κ)
    (value : Option String) : Except Refusal (Reading κ) :=
  match value with
  | none => .error .misuse
  | some value =>
      if reading.given.any (·.1 = key) || ! shape.accepts key value then
        .error .misuse
      else .ok { reading with given := reading.given ++ [(key, value)] }

def settle (shape : ArgumentShape κ) (reading : Reading κ) :
    Except Refusal (Reading κ) :=
  match reading.pending with
  | none => .ok reading
  | some (key, value) =>
      accept shape { reading with pending := none, isExpecting := false } key value

def attached (shape : ArgumentShape κ) (reading : Reading κ) (key : κ)
    (value : String) : Except Refusal (Reading κ) := do
  accept shape (<- settle shape reading) key (some value)

def detached (shape : ArgumentShape κ) (reading : Reading κ) (key : κ) :
    Except Refusal (Reading κ) := do
  let settled <- settle shape reading
  return { settled with pending := some (key, none), isExpecting := true }

/-- Help is given once what was read before it is accepted. -/
def help (shape : ArgumentShape κ) (reading : Reading κ) :
    Except Refusal (Reading κ) := do
  let _ <- settle shape reading
  throw .help

/-- A flag by its long name, given without the dashes. -/
def readLong (shape : ArgumentShape κ) (reading : Reading κ)
    (text : List Char) : Except Refusal (Reading κ) :=
  let (name, tail) := text.span (· != '=')
  let name := String.ofList name
  if name = "help" then
    if tail.isEmpty then help shape reading else .error .misuse
  else
    match shape.flags.find? (shape.long · == name), tail with
    | none, _ => .error .misuse
    | some key, [] => detached shape reading key
    | some key, _ :: value => attached shape reading key (String.ofList value)

/-- The value attached to a short name, without the sign of equality before it. -/
def attachedValue : List Char -> String
  | '=' :: value => String.ofList value
  | value => String.ofList value

/-- A flag by its short name, given without the dash. -/
def readShort (shape : ArgumentShape κ) (reading : Reading κ) :
    List Char -> Except Refusal (Reading κ)
  | [] => .error .misuse
  | c :: tail =>
      if c = 'h' then help shape reading
      else
        match shape.flags.find? (shape.short · == c), tail with
        | none, _ => .error .misuse
        | some key, [] => detached shape reading key
        | some key, _ => attached shape reading key (attachedValue tail)

def readOperand (shape : ArgumentShape κ) (reading : Reading κ)
    (text : String) : Except Refusal (Reading κ) :=
  match shape.operand with
  | none => .error .misuse
  | some key => do
      let settled <- settle shape reading
      if settled.given.any (·.1 = key) then throw .misuse
      else return { settled with pending := some (key, some text) }

def readOne (shape : ArgumentShape κ) (reading : Reading κ) (text : String) :
    Except Refusal (Reading κ) :=
  if reading.isTrailing then readOperand shape reading text
  else
    match text.toList with
    | ['-', '-'] => .ok { reading with isTrailing := true }
    | '-' :: '-' :: name => readLong shape reading name
    | '-' :: c :: tail => readShort shape reading (c :: tail)
    | _ =>
        match reading.isExpecting, reading.pending with
        | true, some (key, _) =>
            .ok { reading with pending := some (key, some text), isExpecting := false }
        | _, _ => readOperand shape reading text

def helpCommand : String := "help"

def commandHelp (shape : ArgumentShape κ) : List String -> Refusal
  | [] => .help
  | [name] =>
      if name = helpCommand || shape.commands.contains name then .help
      else .misuse
  | _ => .misuse

/--
Read arguments up to the end or to a command.  What was read last before a
command is checked only after the arguments of the command.
-/
def readFrom (shape : ArgumentShape κ) (reading : Reading κ) :
    List String -> Except Refusal (Reading κ × Option Command)
  | [] => .ok (reading, none)
  | text :: rest =>
      let mayCommand :=
        ! shape.commands.isEmpty && ! reading.isExpecting && ! reading.isTrailing
      if mayCommand && text == helpCommand then .error (commandHelp shape rest)
      else if mayCommand && shape.commands.contains text then
        .ok (reading, some (text, rest))
      else
        match readOne shape reading text with
        | .ok next => readFrom shape next rest
        | .error refusal => .error refusal

def value? (given : List (κ × String)) (key : κ) : Option String :=
  (given.find? (·.1 = key)).map Prod.snd

end Arguments

end Intermediary

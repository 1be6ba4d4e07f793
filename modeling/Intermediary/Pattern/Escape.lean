import Intermediary.Pattern
import Intermediary.Text.Blank

/-!
# Single parts of a written pattern

What a character, an escape or a class with a name of its own stands for
depends on the flags in force.  Blanks and comments are passed over where a
flag asks for it.
-/

namespace Intermediary

namespace Pattern

open Text

/-- Reads a value at the front of a written pattern and leaves the rest. -/
abbrev Reader (α : Type) := List Char -> Option (α × List Char)

structure Flags where
  /-- Case does not matter. -/
  insensitive : Bool := false
  /-- The anchors hold at the ends of lines too. -/
  multiLine : Bool := false
  /-- The dot stands for a line feed too. -/
  dotAll : Bool := false
  /-- A carriage return ends a line too. -/
  carriage : Bool := false
  /-- Classes reach beyond ASCII. -/
  unicode : Bool := true
  /-- Blanks and comments are passed over. -/
  spaced : Bool := false
  deriving DecidableEq, Repr

namespace Flags

def set (flags : Flags) (value : Bool) : Char -> Option Flags
  | 'i' => some { flags with insensitive := value }
  | 'm' => some { flags with multiLine := value }
  | 's' => some { flags with dotAll := value }
  | 'R' => some { flags with carriage := value }
  | 'u' => some { flags with unicode := value }
  | 'x' => some { flags with spaced := value }
  | 'U' => some flags
  | _ => none

/-- The flags after a list of changes; those after a hyphen are unset. -/
def change (value : Bool) : List Char -> Flags -> Option Flags
  | [], flags => some flags
  | '-' :: cs, flags => if cs.isEmpty then none else change false cs flags
  | c :: cs, flags => (flags.set value c).bind (change value cs)

/-- The flags after a written change, in which nothing occurs twice. -/
def changed? (flags : Flags) (written : List Char) : Option Flags :=
  if written.eraseDups.length = written.length then change true written flags
  else none

end Flags

def skipBlank (inComment : Bool) : List Char -> List Char
  | [] => []
  | c :: cs =>
      if inComment then skipBlank (c != '\n') cs
      else if isBlank c then skipBlank false cs
      else if c = '#' then skipBlank true cs
      else c :: cs

def skip (flags : Flags) (cs : List Char) : List Char :=
  if flags.spaced then skipBlank false cs else cs

inductive Part where
  /-- A character, perhaps written as a single byte. -/
  | literal (c : Char) (byte : Bool)
  | set (members : CharSet)
  | look (condition : Look)

/-- The members of a set as the flags have it, and their complement if asked for. -/
def closeSet (flags : Flags) (negated : Bool) (set : CharSet) : Option CharSet :=
  let folded := if flags.insensitive then set.foldCase else set
  if negated then if flags.unicode then some folded.complement else none
  else some folded

def wordSet (flags : Flags) : CharSet :=
  if flags.unicode then CharSet.word else CharSet.asciiWord

/-- The class that a letter names, a capital one for the complement. -/
def letterClass? (flags : Flags) (c : Char) : Option CharSet :=
  let named :=
    match c.toLower with
    | 'd' => some (if flags.unicode then CharSet.digit else CharSet.asciiDigit)
    | 's' => some (if flags.unicode then CharSet.blank else CharSet.asciiBlank)
    | 'w' => some (wordSet flags)
    | _ => none
  named.bind fun set =>
    if c.isUpper then if flags.unicode then some set.complement else none
    else some set

/-- The digits of a character's number, of which there are so many. -/
def hexDigits? (flags : Flags) : Nat -> Reader (List Char)
  | 0, cs => some ([], cs)
  | n + 1, c :: cs =>
      if (digit? 16 c).isSome then
        (hexDigits? flags n (skip flags cs)).map fun (digits, rest) => (c :: digits, rest)
      else none
  | _ + 1, [] => none

/-- The digits before a closing brace; those already read are in `taken`. -/
def bracedDigits? (flags : Flags) (inComment : Bool) (taken : List Char) :
    Reader (List Char)
  | [] => none
  | c :: cs =>
      if inComment then bracedDigits? flags (c != '\n') taken cs
      else if flags.spaced && isBlank c then bracedDigits? flags false taken cs
      else if flags.spaced && c == '#' then bracedDigits? flags true taken cs
      else if c = '\x7d' then some (taken.reverse, skip flags cs)
      else if (digit? 16 c).isSome then bracedDigits? flags false (c :: taken) cs
      else none

def numbered? (digits : List Char) : Option Char :=
  if digits.isEmpty then none
  else
    match digits? 16 0 digits with
    | some n => if n.isValidChar then some (Char.ofNat n) else none
    | none => none

/-- A character by its number, after the letter that announces it. -/
def hexadecimal? (flags : Flags) (letter : Char) : Reader Part :=
  fun cs =>
    match skip flags cs with
    | '\x7b' :: rest => do
        let (digits, rest) <- bracedDigits? flags false [] rest
        let c <- numbered? digits
        return (.literal c false, rest)
    | rest => do
        let size := if letter = 'x' then 2 else if letter = 'u' then 4 else 8
        let (digits, rest) <- hexDigits? flags size rest
        let c <- numbered? digits
        return (.literal c (letter == 'x'), rest)

/-- The name before a closing brace; what is already read is in `taken`. -/
def bracedName? (flags : Flags) (inComment : Bool) (taken : List Char) :
    Reader (List Char)
  | [] => none
  | c :: cs =>
      if inComment then bracedName? flags (c != '\n') taken cs
      else if flags.spaced && isBlank c then bracedName? flags false taken cs
      else if flags.spaced && c == '#' then bracedName? flags true taken cs
      else if c = '\x7d' then some (taken.reverse, cs)
      else bracedName? flags false (c :: taken) cs

/-- A name, the sign that makes its value stand for the complement, the value. -/
def cutAtUnequal : List Char -> List Char -> Option (List Char × List Char)
  | _, [] => none
  | before, '!' :: '=' :: after => some (before.reverse, after)
  | before, c :: cs => cutAtUnequal (c :: before) cs

/-- A name and its value, when a colon or else an equals sign stands between. -/
def cutAtSign (name : List Char) : Option (List Char × List Char) :=
  match name.span (· != ':') with
  | (before, _ :: after) => some (before, after)
  | (_, []) =>
      match name.span (· != '=') with
      | (before, _ :: after) => some (before, after)
      | (_, []) => none

/-- The set that a description between braces names, and whether it is negated. -/
def described? (name : List Char) : Option (CharSet × Bool) :=
  match cutAtUnequal [] name with
  | some (property, value) =>
      (CharSet.ofNameAndValue? property value).map fun set => (set, true)
  | none =>
      match cutAtSign name with
      | some (property, value) =>
          (CharSet.ofNameAndValue? property value).map fun set => (set, false)
      | none => (CharSet.ofName? name).map fun set => (set, false)

/-- A class by its name, after the letter that announces it. -/
def namedClass? (flags : Flags) (negated : Bool) : Reader Part :=
  fun cs =>
    match skip flags cs with
    | [] => none
    | c :: rest => do
        let (name, rest) <-
          if c = '\x7b' then bracedName? flags false [] rest
          else if c = '\\' then none
          else some ([c], skip flags rest)
        let (set, unequal) <- described? name
        let closed <- closeSet flags (negated != unequal) set
        if flags.unicode then return (.set closed, rest) else none

/-- A character that needs a backslash to stand for itself somewhere. -/
def isMeta (c : Char) : Bool :=
  "\\.+*?()|[]\x7b\x7d^$#&-~".toList.contains c

/-- A character that stands for itself after a backslash. -/
def isEscapable (c : Char) : Bool :=
  isMeta c || c.toNat < 128 && ! c.isAlphanum && c != '<' && c != '>'

/-- The letters between the braces that make a word edge a special one. -/
def edgeName? (flags : Flags) (inComment : Bool) (taken : List Char) :
    Reader String
  | [] => none
  | c :: cs =>
      if inComment then edgeName? flags (c != '\n') taken cs
      else if flags.spaced && isBlank c then edgeName? flags false taken cs
      else if flags.spaced && c == '#' then edgeName? flags true taken cs
      else if c.isAlpha || c == '-' then edgeName? flags false (c :: taken) cs
      else if c = '\x7d' then some (String.ofList taken.reverse, cs)
      else none

/-- The edge of a word, after the letter that announces it. -/
def wordEdge? (flags : Flags) : Reader Part :=
  fun cs =>
    let word := wordSet flags
    match cs with
    | '\x7b' :: inner =>
        match skip flags inner with
        | [] => none
        | c :: rest =>
            if c.isAlpha || c == '-' then do
              let (name, rest) <- edgeName? flags false [] (c :: rest)
              match name with
              | "start" => return (.look (.wordStart word), rest)
              | "end" => return (.look (.wordEnd word), rest)
              | "start-half" => return (.look (.wordStartHalf word), rest)
              | "end-half" => return (.look (.wordEndHalf word), rest)
              | _ => none
            else some (.look (.wordEdge word), cs)
    | _ => some (.look (.wordEdge word), cs)

/-- What a backslash and the text after it stand for. -/
def escape? (flags : Flags) : Reader Part
  | [] => none
  | c :: cs =>
      match c with
      | 'x' | 'u' | 'U' => hexadecimal? flags c cs
      | 'p' => namedClass? flags false cs
      | 'P' => namedClass? flags true cs
      | 'd' | 's' | 'w' | 'D' | 'S' | 'W' =>
          (letterClass? flags c).map fun set => (.set set, cs)
      | 'a' => some (.literal '\x07' false, cs)
      | 'f' => some (.literal '\x0c' false, cs)
      | 't' => some (.literal '\t' false, cs)
      | 'n' => some (.literal '\n' false, cs)
      | 'r' => some (.literal '\r' false, cs)
      | 'v' => some (.literal '\x0b' false, cs)
      | 'A' => some (.look .textStart, cs)
      | 'z' => some (.look .textEnd, cs)
      | 'b' => wordEdge? flags cs
      | 'B' => some (.look (.noWordEdge (wordSet flags)), cs)
      | '<' => some (.look (.wordStart (wordSet flags)), cs)
      | '>' => some (.look (.wordEnd (wordSet flags)), cs)
      | _ => if isEscapable c then some (.literal c false, cs) else none

/-- The set that a character stands for, where a byte beyond ASCII is none. -/
def literalSet? (flags : Flags) (c : Char) (byte : Bool) : Option CharSet :=
  if flags.unicode then
    some (if flags.insensitive then (CharSet.single c).foldCase else CharSet.single c)
  else if byte && 128 ≤ c.toNat && c.toNat < 256 then none
  else if flags.insensitive && c.isAlpha then
    some ((CharSet.single c.toUpper).union (CharSet.single c.toLower))
  else some (CharSet.single c)

def dotSet? (flags : Flags) : Option CharSet :=
  if ! flags.unicode then none
  else if flags.dotAll then some CharSet.all
  else if flags.carriage then some (CharSet.complement ⟨[(10, 10), (13, 13)]⟩)
  else some (CharSet.complement ⟨[(10, 10)]⟩)

end Pattern

end Intermediary

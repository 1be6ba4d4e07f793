/-!
# Blanks, comments and line endings of a document

Between the parts of a line stand spaces and tabs.  A comment runs to the end
of its line, and a line ends with a line feed that a carriage return may
precede.
-/

namespace Intermediary

namespace Toml

/-- Reads a value at the front of a text and leaves the rest. -/
abbrev Reader (α : Type) := List Char -> Option (α × List Char)

def isSpace (c : Char) : Bool :=
  c == ' ' || c == '\t'

/-- A character that may stand in a comment or, unescaped, in a text. -/
def isPlain (c : Char) : Bool :=
  c == '\t' || (0x20 ≤ c.toNat && c.toNat != 0x7F)

def skipSpaces (cs : List Char) : List Char :=
  cs.dropWhile isSpace

def newline? : List Char -> Option (List Char)
  | '\n' :: cs => some cs
  | '\r' :: '\n' :: cs => some cs
  | _ => none

/-- The text after a comment, if one is at its front. -/
def skipComment : List Char -> List Char
  | '#' :: cs => cs.dropWhile isPlain
  | cs => cs

/-- The text after the end of a line that holds no further content. -/
def lineEnd? (cs : List Char) : Option (List Char) :=
  match skipComment (skipSpaces cs) with
  | [] => some []
  | rest => newline? rest

/--
The text after spaces, line endings and comments, as they may stand between the
items of an array.
-/
def gap? (inComment : Bool) : List Char -> Option (List Char)
  | [] => if inComment then none else some []
  | '\r' :: '\n' :: cs => gap? false cs
  | c :: cs =>
      if c = '\n' then gap? false cs
      else if inComment then if isPlain c then gap? true cs else none
      else if isSpace c then gap? false cs
      else if c = '#' then gap? true cs
      else if c = '\r' then none
      else some (c :: cs)

/-- What one round of a repeated reading finds. -/
inductive Round (α : Type) where
  | more (found : α) (rest : List Char)
  | last (found : Option α) (rest : List Char)

/-- Repeat a reading until a round is the last one, in at most `fuel` rounds. -/
def collectAux {α : Type} (round : List Char -> Option (Round α)) :
    Nat -> List α -> Reader (List α)
  | 0, _, _ => none
  | fuel + 1, found, cs =>
      match round cs with
      | none => none
      | some (.more next rest) => collectAux round fuel (next :: found) rest
      | some (.last next rest) =>
          some ((next.toList ++ found).reverse, rest)

/-- Repeat a reading, each round of which takes a character or is the last. -/
def collect {α : Type} (round : List Char -> Option (Round α)) :
    Reader (List α) :=
  fun cs => collectAux round (cs.length + 1) [] cs

end Toml

end Intermediary

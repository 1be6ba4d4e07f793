import Intermediary.Text.Numeral
import Intermediary.Toml.Blank

/-!
# Quoted texts of a document

A text between double quotes may hold escapes, one between apostrophes stands
for itself.  Three quotes in place of one let a text run over several lines; a
line ending at once after them is left out, and one or two quotes may stand
inside.
-/

namespace Intermediary

namespace Toml

open Text

/-- The character that a letter after a backslash stands for. -/
def shortEscape? : Char -> Option Char
  | 'b' => some '\x08'
  | 't' => some '\t'
  | 'n' => some '\n'
  | 'f' => some '\x0c'
  | 'r' => some '\r'
  | '"' => some '"'
  | '\\' => some '\\'
  | _ => none

/-- The character whose code point is written in `size` hexadecimal digits. -/
def codePoint? (size : Nat) : Reader Char :=
  fun cs =>
    let (digits, rest) := cs.splitAt size
    if digits.length = size then
      match digits? 16 0 digits with
      | some n => if n.isValidChar then some (Char.ofNat n, rest) else none
      | none => none
    else none

/-- The character that an escape stands for, after its backslash. -/
def escape? : Reader Char
  | 'u' :: cs => codePoint? 4 cs
  | 'U' :: cs => codePoint? 8 cs
  | c :: cs => (shortEscape? c).map fun meant => (meant, cs)
  | [] => none

def basicRound : List Char -> Option (Round (List Char))
  | '"' :: cs => some (.last none cs)
  | '\\' :: cs => (escape? cs).map fun (c, rest) => .more [c] rest
  | c :: cs => if isPlain c then some (.more [c] cs) else none
  | [] => none

def literalRound : List Char -> Option (Round (List Char))
  | '\'' :: cs => some (.last none cs)
  | c :: cs => if isPlain c then some (.more [c] cs) else none
  | [] => none

/-- A character of a text over several lines; a line ending is a line feed. -/
def lineRound : List Char -> Option (Round (List Char))
  | '\r' :: '\n' :: cs => some (.more ['\n'] cs)
  | c :: cs =>
      if c = '\n' ∨ isPlain c then some (.more [c] cs) else none
  | [] => none

/-- The text after the spaces and line endings at its front. -/
def skipLines : List Char -> List Char
  | '\r' :: '\n' :: cs => skipLines cs
  | c :: cs => if c = '\n' ∨ isSpace c then skipLines cs else c :: cs
  | [] => []

/-- One round of a text between triple double quotes. -/
def longBasicRound : List Char -> Option (Round (List Char))
  | '"' :: '"' :: '"' :: '"' :: '"' :: cs => some (.last (some ['"', '"']) cs)
  | '"' :: '"' :: '"' :: '"' :: cs => some (.last (some ['"']) cs)
  | '"' :: '"' :: '"' :: cs => some (.last none cs)
  | '\\' :: cs =>
      match newline? (skipSpaces cs) with
      | some rest => some (.more [] (skipLines rest))
      | none => (escape? cs).map fun (c, rest) => .more [c] rest
  | cs => lineRound cs

def longLiteralRound : List Char -> Option (Round (List Char))
  | '\'' :: '\'' :: '\'' :: '\'' :: '\'' :: cs =>
      some (.last (some ['\'', '\'']) cs)
  | '\'' :: '\'' :: '\'' :: '\'' :: cs => some (.last (some ['\'']) cs)
  | '\'' :: '\'' :: '\'' :: cs => some (.last none cs)
  | cs => lineRound cs

def assemble (round : List Char -> Option (Round (List Char))) :
    Reader String :=
  fun cs =>
    (collect round cs).map fun (parts, rest) => (String.ofList parts.flatten, rest)

/-- The text after the line ending that may follow an opening triple quote. -/
def skipFirstLine (cs : List Char) : List Char :=
  (newline? cs).getD cs

def quotation? : Reader String
  | '"' :: cs => assemble basicRound cs
  | '\'' :: cs => assemble literalRound cs
  | _ => none

def anyQuotation? : Reader String
  | '"' :: '"' :: '"' :: cs => assemble longBasicRound (skipFirstLine cs)
  | '\'' :: '\'' :: '\'' :: cs => assemble longLiteralRound (skipFirstLine cs)
  | cs => quotation? cs

end Toml

end Intermediary

/-!
# Blank characters

The characters with the Unicode property White_Space, and the two operations
that depend on them: trimming a text and cutting it into words.
-/

namespace Intermediary

namespace Text

def isBlank (c : Char) : Bool :=
  let n := c.toNat
  (9 ≤ n && n ≤ 13) || n == 0x20 || n == 0x85 || n == 0xA0 || n == 0x1680 ||
    (0x2000 ≤ n && n ≤ 0x200A) || n == 0x2028 || n == 0x2029 || n == 0x202F ||
    n == 0x205F || n == 0x3000

/-- Drop the longest suffix whose members all satisfy `p`. -/
def dropEnd (p : Char -> Bool) (cs : List Char) : List Char :=
  (cs.reverse.dropWhile p).reverse

/-- Characters without the blanks before the first and after the last other one. -/
def trimChars (cs : List Char) : List Char :=
  dropEnd isBlank (cs.dropWhile isBlank)

def trim (text : String) : String :=
  String.ofList (trimChars text.toList)

/-- The maximal runs of characters that are not blank, in order. -/
def words (text : String) : List String :=
  ((text.toList.splitOnP isBlank).filter (! ·.isEmpty)).map String.ofList

/--
Cut a text at the first character equal to `mark`, which belongs to neither
part.
-/
def cutAt (mark : Char) (text : String) : Option (String × String) :=
  match text.toList.span (· != mark) with
  | (_, []) => none
  | (before, _ :: after) => some (String.ofList before, String.ofList after)

/-- Cut a text at the last character equal to `mark`. -/
def cutAtLast (mark : Char) (text : String) : Option (String × String) :=
  match text.toList.reverse.span (· != mark) with
  | (_, []) => none
  | (after, _ :: before) =>
      some (String.ofList before.reverse, String.ofList after.reverse)

/-- The parts of a text between the characters equal to `mark`. -/
def pieces (mark : Char) (text : String) : List String :=
  (text.toList.splitOn mark).map String.ofList

/-- Whether `text` begins with `start`. -/
def startsWith (text start : String) : Bool :=
  start.toList.isPrefixOf text.toList

end Text

end Intermediary

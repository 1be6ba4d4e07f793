import Intermediary.Text.Numeral

/-!
# Tables of code point ranges

Properties of characters are given by ascending, disjoint ranges of code
points.  A table is written as a text whose entries are separated by blanks: a
hexadecimal range `first-last` or a single code point, and, where the ranges
carry values, a value after the sign `>`.
-/

namespace Intermediary

namespace Text

/-- Ascending, disjoint ranges of code points, both ends included, with values. -/
structure RangeMap (α : Type) where
  entries : Array (Nat × Nat × α)

/-- Ascending, disjoint ranges of code points. -/
abbrev RangeTable := RangeMap Unit

namespace RangeMap

def writtenEntries (text : String) : List (List Char) :=
  (text.toList.splitOnP (fun c => c == ' ' || c == '\n')).filter (! ·.isEmpty)

/--
The entry holding `n` among those with index at least `low` and below `high`,
found by halving that interval.
-/
def findBetween {α : Type} (entries : Array (Nat × Nat × α))
    (n low high : Nat) : Option (Nat × α) :=
  if _ : low < high then
    let mid := (low + high) / 2
    match entries[mid]? with
    | none => none
    | some (first, last, value) =>
        if n < first then findBetween entries n low mid
        else if last < n then findBetween entries n (mid + 1) high
        else some (first, value)
  else none
termination_by high - low

/-- The range that holds a code point: its first member and its value. -/
def find? {α : Type} (table : RangeMap α) (n : Nat) : Option (Nat × α) :=
  findBetween table.entries n 0 table.entries.size

/-- Whether the table holds a code point. -/
def contains {α : Type} (table : RangeMap α) (n : Nat) : Bool :=
  (table.find? n).isSome

end RangeMap

namespace RangeTable

/-- The hexadecimal number that a table entry spells. -/
def codePoint (text : String) : Nat :=
  (numeral? 16 wordBound text).getD 0

/-- The characters that a table entry spells, their code points parted by dots. -/
def sequence (text : String) : List Char :=
  (text.toList.splitOn '.').map fun cs =>
    Char.ofNat (codePoint (String.ofList cs))

def range (cs : List Char) : Nat × Nat :=
  match cs.splitOn '-' with
  | [first, last] =>
      (codePoint (String.ofList first), codePoint (String.ofList last))
  | _ => (codePoint (String.ofList cs), codePoint (String.ofList cs))

/-- The table of ranges that a text writes. -/
def ofText (text : String) : RangeTable :=
  ⟨((RangeMap.writtenEntries text).map fun cs =>
    ((range cs).1, (range cs).2, ())).toArray⟩

end RangeTable

/-- The table of ranges with values that a text writes. -/
def RangeMap.ofText {α : Type} (value : String -> α) (text : String) :
    RangeMap α :=
  ⟨((RangeMap.writtenEntries text).map fun cs =>
    let (span, spelled) := cs.span (· != '>')
    let bounds := RangeTable.range span
    (bounds.1, bounds.2, value (String.ofList (spelled.drop 1)))).toArray⟩

end Text

end Intermediary

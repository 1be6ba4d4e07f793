import Intermediary.Toml.Number

/-!
# Dates and times of a document

A date has a day that its month has.  A time of day has hours, minutes and
seconds, with room for a leap second.  A date and a time together may carry the
distance from universal time.
-/

namespace Intermediary

namespace Toml

open Text

/-- The number in exactly `size` digits that lies between two bounds. -/
def ranged? (size least most : Nat) : Reader Nat :=
  fun cs =>
    let (digits, rest) := cs.splitAt size
    if digits.length = size then
      match digits? 10 0 digits with
      | some n => if least ≤ n ∧ n ≤ most then some (n, rest) else none
      | none => none
    else none

def mark? (mark : Char) : List Char -> Option (List Char)
  | c :: cs => if c = mark then some cs else none
  | [] => none

def daysOf (year month : Nat) : Nat :=
  if month = 2 then
    if year % 4 = 0 ∧ (year % 100 ≠ 0 ∨ year % 400 = 0) then 29 else 28
  else if month = 4 ∨ month = 6 ∨ month = 9 ∨ month = 11 then 30
  else 31

def date? (cs : List Char) : Option (List Char) := do
  let (year, cs) <- ranged? 4 0 9999 cs
  let cs <- mark? '-' cs
  let (month, cs) <- ranged? 2 1 12 cs
  let cs <- mark? '-' cs
  let (_, cs) <- ranged? 2 1 (daysOf year month) cs
  return cs

/-- What follows the fraction of a second, if one is at the front. -/
def skipFraction : List Char -> List Char
  | '.' :: c :: cs =>
      if c.isDigit then cs.dropWhile Char.isDigit else '.' :: c :: cs
  | cs => cs

def time? (cs : List Char) : Option (List Char) := do
  let (_, cs) <- ranged? 2 0 23 cs
  let cs <- mark? ':' cs
  let (_, cs) <- ranged? 2 0 59 cs
  let cs <- mark? ':' cs
  let (_, cs) <- ranged? 2 0 60 cs
  return skipFraction cs

/-- What follows the distance from universal time, if one is at the front. -/
def offset? : List Char -> Option (List Char)
  | [] => some []
  | c :: cs =>
      if c = 'Z' ∨ c = 'z' then some cs
      else if c = '+' ∨ c = '-' then do
        let (_, cs) <- ranged? 2 0 23 cs
        let cs <- mark? ':' cs
        let (_, cs) <- ranged? 2 0 59 cs
        return cs
      else some (c :: cs)

/-- What follows the time of day that may come after a date. -/
def dayTime? : List Char -> Option (List Char)
  | [] => some []
  | c :: cs =>
      if c = 'T' ∨ c = 't' ∨ c = ' ' then
        match time? cs with
        | some rest => offset? rest
        | none => some (c :: cs)
      else some (c :: cs)

/-- What follows a date, a time of day or both. -/
def momentEnd? (cs : List Char) : Option (List Char) :=
  match date? cs with
  | some rest => dayTime? rest
  | none => time? cs

/-- A date, a time of day or both. -/
def moment? : Reader (List Char) :=
  fun cs => (momentEnd? cs).map fun rest => (spelled cs rest, rest)

end Toml

end Intermediary

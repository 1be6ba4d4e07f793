import Intermediary.Text.Numeral
import Intermediary.Toml.Blank

/-!
# Numbers of a document

An integer fits in sixty-four bits with a sign.  Single underscores may stand
between digits, and a decimal number has no leading zeros.  A number with a
fraction or an exponent may not round to positive infinity.
-/

namespace Intermediary

namespace Toml

open Text

/--
The digits of a run, with single underscores between them left out.  An
underscore stands between two digits.
-/
def runAux (isDigit : Char -> Bool) : List Char -> Reader (List Char)
  | taken, '_' :: c :: cs =>
      if isDigit c then runAux isDigit (c :: taken) cs else none
  | taken, c :: cs =>
      if isDigit c then runAux isDigit (c :: taken) cs
      else if c = '_' then none
      else some (taken.reverse, c :: cs)
  | taken, [] => some (taken.reverse, [])

/-- A run of at least one digit. -/
def run? (isDigit : Char -> Bool) : Reader (List Char)
  | c :: cs => if isDigit c then runAux isDigit [c] cs else none
  | [] => none

/-- A run of decimal digits that has no leading zero. -/
def decimalRun? : Reader (List Char)
  | '0' :: cs => some (['0'], cs)
  | cs => run? Char.isDigit cs

/-- Whether a minus sign is at the front, and what follows the sign. -/
def sign : List Char -> Bool × List Char
  | '+' :: cs => (false, cs)
  | '-' :: cs => (true, cs)
  | cs => (false, cs)

/-- The first integer above those with sixty-four bits and a sign. -/
def integerBound : Nat := 9223372036854775808

/-- An integer in a base other than ten, after the letter that names it. -/
def basedInteger? (base : Nat) : Reader Int :=
  fun cs =>
    match run? (fun c => (digit? base c).isSome) cs with
    | none => none
    | some (digits, rest) =>
        match digits? base 0 digits with
        | some n => if n < integerBound then some (n, rest) else none
        | none => none

def decimalInteger? : Reader Int :=
  fun cs =>
    let (negative, unsigned) := sign cs
    match decimalRun? unsigned with
    | none => none
    | some (digits, rest) =>
        match digits? 10 0 digits with
        | none => none
        | some n =>
            if negative then
              if n ≤ integerBound then some (-(n : Int), rest) else none
            else if n < integerBound then some (n, rest)
            else none

def integer? : Reader Int
  | '0' :: 'x' :: cs => basedInteger? 16 cs
  | '0' :: 'o' :: cs => basedInteger? 8 cs
  | '0' :: 'b' :: cs => basedInteger? 2 cs
  | cs => decimalInteger? cs

/-- Whether a significand times a power of ten is too large for double precision. -/
def overflows (mantissa : Nat) (exponent : Int) : Bool :=
  let size := (Nat.toDigits 10 mantissa).length
  if mantissa = 0 ∨ size + exponent < 300 then false
  else if 400 < size + exponent then true
  else reaches doubleBound mantissa exponent

/-- The digits of a fraction, if one is at the front. -/
def fraction? : Reader (List Char)
  | '.' :: cs => run? Char.isDigit cs
  | cs => some ([], cs)

/-- The exponent, if one is at the front. -/
def exponent? : Reader (Option Int) :=
  fun cs =>
    match cs with
    | c :: after =>
        if c = 'e' ∨ c = 'E' then
          let (negative, unsigned) := sign after
          match run? Char.isDigit unsigned with
          | none => none
          | some (digits, rest) =>
              (digits? 10 0 digits).map fun n =>
                (some (if negative then -(n : Int) else (n : Int)), rest)
        else some (none, cs)
    | [] => some (none, [])

def spelled (whole rest : List Char) : List Char :=
  whole.take (whole.length - rest.length)

def decimalFloat? : Reader (List Char) :=
  fun cs =>
    let (negative, unsigned) := sign cs
    match decimalRun? unsigned with
    | none => none
    | some (whole, afterWhole) =>
        match fraction? afterWhole with
        | none => none
        | some (parts, afterParts) =>
            match exponent? afterParts with
            | none => none
            | some (power, rest) =>
                if parts = [] ∧ power = none then none
                else
                  match digits? 10 0 (whole ++ parts) with
                  | none => none
                  | some mantissa =>
                      if ! negative && overflows mantissa (power.getD 0 - parts.length) then
                        none
                      else some (spelled cs rest, rest)

/-- Infinity or the mark of no number, with or without a sign. -/
def specialFloat? : Reader (List Char) :=
  fun cs =>
    match (sign cs).2 with
    | 'i' :: 'n' :: 'f' :: rest => some (spelled cs rest, rest)
    | 'n' :: 'a' :: 'n' :: rest => some (spelled cs rest, rest)
    | _ => none

def float? : Reader (List Char) :=
  fun cs => (decimalFloat? cs).or (specialFloat? cs)

end Toml

end Intermediary

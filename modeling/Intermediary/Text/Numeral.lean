/-!
# Numerals

Reading and writing of unsigned numerals.  A numeral that is read may carry one
leading plus sign and any number of leading zeros; it has at least one digit,
and its value lies below a bound given by the place it stands in.  A numeral with
an exponent is compared with such a bound without being rounded.
-/

namespace Intermediary

namespace Text

/-- The value of a digit in a base of at most sixteen. -/
def digit? (base : Nat) (c : Char) : Option Nat :=
  let value :=
    if '0' ≤ c ∧ c ≤ '9' then c.toNat - '0'.toNat
    else if 'a' ≤ c ∧ c ≤ 'f' then c.toNat - 'a'.toNat + 10
    else if 'A' ≤ c ∧ c ≤ 'F' then c.toNat - 'A'.toNat + 10
    else base
  if value < base then some value else none

/-- The value of a run of digits that continues the value `value`. -/
def digits? (base : Nat) : Nat -> List Char -> Option Nat
  | value, [] => some value
  | value, c :: cs =>
      match digit? base c with
      | some d => digits? base (base * value + d) cs
      | none => none

def unsigned : List Char -> List Char
  | '+' :: cs => cs
  | cs => cs

/-- The value of a numeral in base `base`, when it lies below `bound`. -/
def numeral? (base bound : Nat) (text : String) : Option Nat :=
  match unsigned text.toList with
  | [] => none
  | cs =>
      match digits? base 0 cs with
      | some value => if value < bound then some value else none
      | none => none

/-- The first number too large for a port. -/
def portBound : Nat := 65536

/-- The first number too large for sixty-four bits. -/
def wordBound : Nat := 18446744073709551616

/-- A number written in decimal digits, without leading zeros. -/
def decimal (n : Nat) : String :=
  String.ofList (Nat.toDigits 10 n)

/-- A number written in small hexadecimal digits, without leading zeros. -/
def hexadecimal (n : Nat) : String :=
  String.ofList (Nat.toDigits 16 n)

/--
The least number that double precision has no place for: from half a unit above
the largest one that it has.
-/
def doubleBound : Nat := Nat.pow 2 1024 - Nat.pow 2 970

/-- Whether a significand times a power of ten is no less than a bound. -/
def reaches (bound significand : Nat) : Int -> Bool
  | .ofNat up => bound ≤ significand * Nat.pow 10 up
  | .negSucc down => bound * Nat.pow 10 (down + 1) ≤ significand

theorem numeral?_lt {base bound value : Nat} {text : String}
    (h : numeral? base bound text = some value) : value < bound := by
  unfold numeral? at h
  split at h
  · cases h
  · split at h
    · split at h
      · cases h
        assumption
      · cases h
    · cases h

end Text

end Intermediary

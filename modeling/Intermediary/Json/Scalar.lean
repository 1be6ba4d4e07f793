import Intermediary.Bytes
import Intermediary.Text.Numeral

/-!
# Scalars of JSON

Readers of the texts, numbers and words of JSON.  Each takes the bytes from
where the scalar begins and gives what follows it; a scalar that is not well
formed is not read.
-/

namespace Intermediary

namespace Json

/-- The quotation mark, at both ends of a text. -/
def quote : UInt8 := 0x22

def backslash : UInt8 := 0x5C

def minus : UInt8 := 0x2D
def plus : UInt8 := 0x2B
def point : UInt8 := 0x2E
def comma : UInt8 := 0x2C
def colon : UInt8 := 0x3A
def openList : UInt8 := 0x5B
def closeList : UInt8 := 0x5D
def openObject : UInt8 := 0x7B
def closeObject : UInt8 := 0x7D

/-- Space, tab and the line endings. -/
def isBlank (b : UInt8) : Bool :=
  b == 0x20 || b == 0x09 || b == 0x0A || b == 0x0D

def skipBlank (bytes : Bytes) : Bytes :=
  bytes.dropWhile isBlank

def skipWord? (word : String) (bytes : Bytes) : Option Bytes :=
  let expected := Bytes.ofText word
  if expected.isPrefixOf bytes then some (bytes.drop expected.length) else none

/-! ## Texts -/

def hexDigit? (b : UInt8) : Option Nat :=
  let n := b.toNat
  if 0x30 ≤ n ∧ n ≤ 0x39 then some (n - 0x30)
  else if 0x41 ≤ n ∧ n ≤ 0x46 then some (n - 0x41 + 10)
  else if 0x61 ≤ n ∧ n ≤ 0x66 then some (n - 0x61 + 10)
  else none

def unit? : Bytes -> Option (Nat × Bytes)
  | a :: b :: c :: d :: rest => do
      let a <- hexDigit? a
      let b <- hexDigit? b
      let c <- hexDigit? c
      let d <- hexDigit? d
      return (4096 * a + 256 * b + 16 * c + d, rest)
  | _ => none

def isLeading (unit : Nat) : Bool := 0xD800 ≤ unit && unit ≤ 0xDBFF

def isTrailing (unit : Nat) : Bool := 0xDC00 ≤ unit && unit ≤ 0xDFFF

/-- The character of an escape by number, which may take a pair of numbers. -/
def numberedChar? (bytes : Bytes) : Option (Char × Bytes) := do
  let (unit, rest) <- unit? bytes
  if isLeading unit then
    let (trail, rest) <- unit? (<- skipWord? "\\u" rest)
    if isTrailing trail then
      return (Char.ofNat (0x10000 + 0x400 * (unit - 0xD800) + (trail - 0xDC00)),
        rest)
    else none
  else if isTrailing unit then none
  else return (Char.ofNat unit, rest)

def shortEscape? (letter : UInt8) : Option UInt8 :=
  match letter.toNat with
  | 0x22 => some 0x22
  | 0x5C => some 0x5C
  | 0x2F => some 0x2F
  | 0x62 => some 0x08
  | 0x66 => some 0x0C
  | 0x6E => some 0x0A
  | 0x72 => some 0x0D
  | 0x74 => some 0x09
  | _ => none

/-- The letter before the digits of an escape by number. -/
def numbered : UInt8 := 0x75

def escape? : Bytes -> Option (Bytes × Bytes)
  | [] => none
  | letter :: rest =>
      if letter = numbered then
        (numberedChar? rest).map fun (c, after) =>
          (Bytes.ofText (String.singleton c), after)
      else (shortEscape? letter).map fun b => ([b], rest)

/-- What follows an escape, whatever it stands for. -/
def skipEscape? : Bytes -> Option Bytes
  | [] => none
  | letter :: rest =>
      if letter = numbered then (unit? rest).map Prod.snd
      else (shortEscape? letter).map fun _ => rest

/-- Read to the closing mark, behind what was read so far, last byte first. -/
def readTextFor : Nat -> Bytes -> Bytes -> Option (Bytes × Bytes)
  | 0, _, _ => none
  | _ + 1, _, [] => none
  | fuel + 1, done, b :: rest =>
      if b = quote then some (done.reverse, rest)
      else if b = backslash then
        match escape? rest with
        | some (piece, after) => readTextFor fuel (piece.reverse ++ done) after
        | none => none
      else if b < 0x20 then none
      else readTextFor fuel (b :: done) rest

/-- The text after an opening mark, and what follows it. -/
def readText? (bytes : Bytes) : Option (String × Bytes) := do
  let (content, rest) <- readTextFor (bytes.length + 1) [] bytes
  return (<- Bytes.text? content, rest)

def skipTextFor : Nat -> Bytes -> Option Bytes
  | 0, _ => none
  | _ + 1, [] => none
  | fuel + 1, b :: rest =>
      if b = quote then some rest
      else if b = backslash then
        match skipEscape? rest with
        | some after => skipTextFor fuel after
        | none => none
      else if b < 0x20 then none
      else skipTextFor fuel rest

/-- What follows the text after an opening mark, which need not be UTF-8. -/
def skipText? (bytes : Bytes) : Option Bytes :=
  skipTextFor (bytes.length + 1) bytes

/-! ## Numbers -/

/-- A number as it is written: `±whole.fraction e exponent`. -/
structure Number where
  isNegative : Bool
  whole : List Nat
  fraction : Option (List Nat)
  exponent : Option Int
  deriving DecidableEq, Repr

def decimalDigit? (b : UInt8) : Option Nat :=
  if 0x30 ≤ b ∧ b ≤ 0x39 then some (b.toNat - 0x30) else none

/-- The longest run of digits, and what follows it. -/
def takeDigits (bytes : Bytes) : List Nat × Bytes :=
  let (digits, rest) := bytes.span fun b => (decimalDigit? b).isSome
  (digits.filterMap decimalDigit?, rest)

/-- A run of at least one digit, and what follows it. -/
def digits? (bytes : Bytes) : Option (List Nat × Bytes) :=
  match takeDigits bytes with
  | ([], _) => none
  | found => some found

def natOf (digits : List Nat) : Nat :=
  digits.foldl (fun value d => 10 * value + d) 0

/-- The fraction, if a point follows. -/
def fraction? : Bytes -> Option (Option (List Nat) × Bytes)
  | [] => some (none, [])
  | b :: rest =>
      if b = point then (digits? rest).map fun (ds, after) => (some ds, after)
      else some (none, b :: rest)

def signedExponent? : Bytes -> Option (Int × Bytes)
  | [] => none
  | b :: rest =>
      if b = minus then (digits? rest).map fun (ds, after) => (-(natOf ds), after)
      else if b = plus then
        (digits? rest).map fun (ds, after) => ((natOf ds : Int), after)
      else (digits? (b :: rest)).map fun (ds, after) => ((natOf ds : Int), after)

/-- The exponent, if its letter follows. -/
def exponent? : Bytes -> Option (Option Int × Bytes)
  | [] => some (none, [])
  | b :: rest =>
      if b = 0x65 || b = 0x45 then
        (signedExponent? rest).map fun (e, after) => (some e, after)
      else some (none, b :: rest)

/-- The number after its sign; a zero is not followed by another digit. -/
def unsigned? (isNegative : Bool) (bytes : Bytes) : Option (Number × Bytes) := do
  let (whole, rest) <- digits? bytes
  if 1 < whole.length ∧ whole.head? = some 0 then none
  else
    let (fraction, rest) <- fraction? rest
    let (exponent, rest) <- exponent? rest
    return ({ isNegative, whole, fraction, exponent }, rest)

/-- The number at the beginning, and what follows it. -/
def readNumber? : Bytes -> Option (Number × Bytes)
  | [] => none
  | b :: rest =>
      if b = minus then unsigned? true rest else unsigned? false (b :: rest)

def beginsNumber (b : UInt8) : Bool :=
  b = minus || (decimalDigit? b).isSome

namespace Number

def significand (number : Number) : List Nat :=
  (number.whole ++ number.fraction.getD []).dropWhile (· == 0)

/-- The power of ten by which the significand is multiplied. -/
def scale (number : Number) : Int :=
  number.exponent.getD 0 - (number.fraction.getD []).length

/-- Whether the magnitude has no place in double precision. -/
def isTooLarge (number : Number) : Bool :=
  let digits := number.significand
  let places := digits.length + number.scale
  if digits.isEmpty || places < 300 then false
  else if 310 < places then true
  else Text.reaches Text.doubleBound (natOf digits) number.scale

/-- The value of a number that is written as a natural number below a bound. -/
def natural? (bound : Nat) (number : Number) : Option Nat :=
  if number.isNegative || number.fraction.isSome || number.exponent.isSome then
    none
  else
    let value := natOf number.whole
    if value < bound then some value else none

end Number

end Json

end Intermediary

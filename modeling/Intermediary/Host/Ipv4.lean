import Intermediary.Text.Blank
import Intermediary.Text.Numeral

/-!
# IPv4 addresses as hosts

An address is one to four numbers with dots between them; the last one fills
the bytes that are left.  A number is decimal, octal after a zero, or
hexadecimal after `0x`.  A name whose last label is a number has to be an
address.
-/

namespace Intermediary

namespace Host

open Text

def splitBase : List Char -> Nat × List Char
  | '0' :: 'x' :: cs => (16, cs)
  | '0' :: 'X' :: cs => (16, cs)
  | '0' :: c :: cs => (8, c :: cs)
  | cs => (10, cs)

def ipv4Number? (cs : List Char) : Option Nat :=
  if cs.isEmpty then none
  else
    let (base, digits) := splitBase cs
    digits? base 0 digits

/-- The parts of a name between its dots, without an empty last one. -/
def dottedParts (name : String) : List (List Char) :=
  let parts := name.toList.splitOn '.'
  if parts.getLast? = some [] then parts.dropLast else parts

def endsInNumber (name : String) : Bool :=
  match (dottedParts name).getLast? with
  | none => false
  | some [] => false
  | some label => label.all (·.isDigit) || (ipv4Number? label).isSome

def byteValues (count : Nat) : Nat :=
  Nat.pow 256 count

/-- The numbers before the last one, each of which fills one byte. -/
def leadingBytes? : List Nat -> Option Nat
  | [] => some 0
  | n :: rest =>
      if n < 256 then
        (leadingBytes? rest).map fun value => n * byteValues rest.length + value
      else none

def ipv4OfNumbers? (numbers : List Nat) : Option Nat :=
  match numbers.getLast? with
  | none => none
  | some last =>
      let leading := numbers.dropLast
      let free := 4 - leading.length
      if leading.length ≤ 3 ∧ last < byteValues free then
        (leadingBytes? leading).map fun value => value * byteValues free + last
      else none

def ipv4? (name : String) : Option Nat := do
  let numbers <- (dottedParts name).mapM ipv4Number?
  ipv4OfNumbers? numbers

def renderIpv4 (address : Nat) : String :=
  ".".intercalate
    ([24, 16, 8, 0].map fun shift => decimal (address >>> shift % 256))

end Host

end Intermediary

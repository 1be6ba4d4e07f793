import Intermediary.Host.Ipv4

/-!
# IPv6 addresses as hosts

An address is eight groups of at most four hexadecimal digits.  One run of
groups that are zero may be left out, and the last two groups may be written
as an IPv4 address.
-/

namespace Intermediary

namespace Host

open Text

def group? (cs : List Char) : Option Nat :=
  if cs.isEmpty || 4 < cs.length then none else digits? 16 0 cs

/-- The value of one byte of an address written with dots. -/
def quadByte? (cs : List Char) : Option Nat :=
  match cs with
  | [] => none
  | '0' :: _ :: _ => none
  | _ =>
      match digits? 10 0 cs with
      | some value => if value < 256 then some value else none
      | none => none

/-- The two groups that an address written with dots fills. -/
def quad? (cs : List Char) : Option (List Nat) :=
  match (cs.splitOn '.').mapM quadByte? with
  | some [a, b, c, d] => some [a * 256 + b, c * 256 + d]
  | _ => none

/-- The groups of a run; the last part may be written with dots. -/
def groups? (dotted : Bool) : List (List Char) -> Option (List Nat)
  | [] => some []
  | [part] =>
      if dotted && part.contains '.' then quad? part
      else (group? part).map fun value => [value]
  | part :: parts => do
      let value <- group? part
      let values <- groups? dotted parts
      return value :: values

/-- The groups of one side of an address; an empty side has none. -/
def side? (dotted : Bool) (cs : List Char) : Option (List Nat) :=
  if cs.isEmpty then some [] else groups? dotted (cs.splitOn ':')

def cutAtGap : List Char -> List Char -> Option (List Char × List Char)
  | _, [] => none
  | before, ':' :: ':' :: after => some (before.reverse, after)
  | before, c :: cs => cutAtGap (c :: before) cs

def ipv6? (text : String) : Option (List Nat) :=
  match cutAtGap [] text.toList with
  | none =>
      match side? true text.toList with
      | some groups => if groups.length = 8 then some groups else none
      | none => none
  | some (before, after) =>
      match side? false before, side? true after with
      | some left, some right =>
          let given := left.length + right.length
          if given < 8 then
            some (left ++ List.replicate (8 - given) 0 ++ right)
          else none
      | _, _ => none

def leadingZeros (groups : List Nat) : Nat :=
  (groups.takeWhile (· == 0)).length

/--
The first longest run of zeros, as its place and its length, among the runs
that begin at or after place `place`.
-/
def longestGap : Nat -> List Nat -> Nat × Nat
  | place, [] => (place, 0)
  | place, g :: groups =>
      let here := leadingZeros (g :: groups)
      let (there, length) := longestGap (place + 1) groups
      if length ≤ here then (place, here) else (there, length)

def renderGroups (groups : List Nat) : String :=
  ":".intercalate (groups.map hexadecimal)

/--
The text of an address: the first longest run of at least two zero groups is
left out, and an address that embeds an IPv4 address shows it with dots.
-/
def renderIpv6 (groups : List Nat) : String :=
  match groups with
  | [0, 0, 0, 0, 0, 0xFFFF, high, low] =>
      "::ffff:" ++ renderIpv4 (high * 65536 + low)
  | _ =>
      let (place, length) := longestGap 0 groups
      if 1 < length then
        renderGroups (groups.take place) ++ "::" ++
          renderGroups (groups.drop (place + length))
      else renderGroups groups

end Host

end Intermediary

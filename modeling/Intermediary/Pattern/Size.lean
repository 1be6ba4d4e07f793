import Intermediary.Pattern

/-!
# The size of a pattern

A pattern is only accepted while the machine that matches it, which reads bytes
from the end of a text to its start, stays within a bound.  The machine has a
state for every byte of a character, and a set of characters needs a state for
every beginning of the encodings of its members.
-/

namespace Intermediary

namespace Pattern

/-- Bytes that one state of a machine takes. -/
def stateBytes : Nat := 32

/-- The largest machine that is accepted, in bytes. -/
def sizeBound : Nat := 10485760

/-- A range of code points as ranges of bytes, one for each byte of an encoding. -/
abbrev ByteRanges := List (Nat × Nat)

def encoding (n : Nat) : List Nat :=
  if n < 0x80 then [n]
  else if n < 0x800 then [0xC0 + n / 64, 0x80 + n % 64]
  else if n < 0x10000 then [0xE0 + n / 4096, 0x80 + n / 64 % 64, 0x80 + n % 64]
  else
    [0xF0 + n / 262144, 0x80 + n / 4096 % 64, 0x80 + n / 64 % 64, 0x80 + n % 64]

/-- Cut a range after a code point, if it lies inside. -/
def cutAfter (n : Nat) (ranges : List (Nat × Nat)) : List (Nat × Nat) :=
  ranges.flatMap fun (first, last) =>
    if first ≤ n ∧ n < last then [(first, n), (n + 1, last)] else [(first, last)]

/--
Cut a range so that in each part the last bytes, from the second on, that vary
run over all their values.
-/
def cutToBlocks (block : Nat) (ranges : List (Nat × Nat)) : List (Nat × Nat) :=
  ranges.flatMap fun (first, last) =>
    if first / block = last / block then [(first, last)]
    else
      let cutStart := if first % block = 0 then [(first, last)]
        else cutAfter (first / block * block + block - 1) [(first, last)]
      if last % block = block - 1 then cutStart
      else cutStart.flatMap fun (a, b) =>
        if a / block = b / block then [(a, b)]
        else cutAfter (b / block * block - 1) [(a, b)]

/-- The ranges of bytes that encode a range of code points. -/
def byteRanges (first last : Nat) : List ByteRanges :=
  let whole :=
    [(first, last)] |> cutAfter 0xD7FF |> cutAfter 0xDFFF |>
      List.filter (fun (first, _) => first < 0xD800 || 0xDFFF < first)
  let bySize := whole |> cutAfter 0x7F |> cutAfter 0x7FF |> cutAfter 0xFFFF
  let parts := bySize.flatMap fun (first, last) =>
    if last < 0x80 then [(first, last)]
    else [(first, last)] |> cutToBlocks 64 |> cutToBlocks 4096 |> cutToBlocks 262144
  parts.map fun (first, last) => (encoding first).zip (encoding last)

/-- The number of leading elements in which two lists agree. -/
def agreement : ByteRanges -> ByteRanges -> Nat
  | a :: as, b :: bs => if a = b then agreement as bs + 1 else 0
  | _, _ => 0

/-- The states for encodings in order, which share what they begin with. -/
def sharedStates : ByteRanges -> List ByteRanges -> Nat
  | _, [] => 0
  | earlier, next :: rest =>
      next.length - agreement earlier next + sharedStates next rest

def setSize (set : CharSet) : Nat :=
  match set.ranges with
  | [] => stateBytes
  | [(first, last)] =>
      if first = last then stateBytes * (encoding first).length
      else if last < 0x80 then stateBytes * 2
      else
        let encodings := byteRanges first last
        stateBytes * (sharedStates [] encodings + 2) + 4 * encodings.length
  | ranges =>
      if set.isAscii then stateBytes * 2 + 8 * ranges.length
      else
        let encodings := ranges.flatMap fun (first, last) => byteRanges first last
        stateBytes * (sharedStates [] encodings + 2) + 4 * encodings.length

def takesNothing : Pattern -> Bool
  | .empty => true
  | .chars _ => false
  | .look _ => true
  | .sequence first second => first.takesNothing && second.takesNothing
  | .either first second => first.takesNothing && second.takesNothing
  | .repeated body _ most => body.takesNothing || most == some 0

def size : Pattern -> Nat
  | .empty => stateBytes
  | .chars set => setSize set
  | .look _ => stateBytes
  | .sequence first second => first.size + second.size
  | .either first second => stateBytes + 4 * 2 + first.size + second.size
  | .repeated body least most =>
      match most with
      | none => max least 1 * body.size + 2 * stateBytes + 8
      | some most =>
          least * body.size + (most - least) * (body.size + stateBytes + 8) +
            (if most = least then 0 else stateBytes)

end Pattern

end Intermediary

/-!
# Punycode

Labels with characters outside ASCII are written in ASCII: first the ASCII
characters of the label, then, for every other character in ascending order,
how far to advance through the pairs of a place and a code point.  Each such
distance is a numeral whose digits have thresholds of their own.
-/

namespace Intermediary

namespace Host

namespace Punycode

/-- The number of digits. -/
def base : Nat := 36

/-- The first code point that is not written as itself. -/
def initialPoint : Nat := 128

/-- The bias before the first distance. -/
def initialBias : Nat := 72

/-- The value of a digit; letters come before decimal digits. -/
def digit? (c : Char) : Option Nat :=
  if 'a' ≤ c ∧ c ≤ 'z' then some (c.toNat - 'a'.toNat)
  else if 'A' ≤ c ∧ c ≤ 'Z' then some (c.toNat - 'A'.toNat)
  else if '0' ≤ c ∧ c ≤ '9' then some (c.toNat - '0'.toNat + 26)
  else none

def digit (value : Nat) : Char :=
  if value < 26 then Char.ofNat ('a'.toNat + value)
  else Char.ofNat ('0'.toNat + (value - 26))

/-- The least value of a digit, at a place, that is not the last one. -/
def threshold (bias place : Nat) : Nat :=
  if place ≤ bias + 1 then 1
  else if bias + 26 ≤ place then 26
  else place - bias

theorem threshold_pos (bias place : Nat) : 0 < threshold bias place := by
  unfold threshold
  split
  · omega
  · split <;> omega

theorem threshold_lt (bias place : Nat) : threshold bias place < base := by
  unfold threshold base
  split
  · omega
  · split <;> omega

/-- Scale a distance down until it is small, counting the places on the way. -/
def settle (distance places : Nat) : Nat × Nat :=
  if 455 < distance then settle (distance / 35) (places + base)
  else (distance, places)
termination_by distance
decreasing_by exact Nat.div_lt_self (by omega) (by omega)

/-- The bias for the next distance, after one for the `count`-th character. -/
def adapt (distance count : Nat) (isFirst : Bool) : Nat :=
  let damped := if isFirst then distance / 700 else distance / 2
  let (left, places) := settle (damped + damped / count) 0
  places + base * left / (left + 38)

/-- Read one distance and return the characters after it. -/
def readDistance (bias : Nat) :
    Nat -> Nat -> Nat -> List Char -> Option (Nat × List Char)
  | _, _, _, [] => none
  | place, weight, total, c :: cs =>
      match digit? c with
      | none => none
      | some d =>
          let sum := total + d * weight
          let t := threshold bias place
          if d < t then some (sum, cs)
          else readDistance bias (place + base) (weight * (base - t)) sum cs

theorem readDistance_length_lt {bias place weight total distance : Nat}
    {cs rest : List Char}
    (h : readDistance bias place weight total cs = some (distance, rest)) :
    rest.length < cs.length := by
  induction cs generalizing place weight total with
  | nil => cases h
  | cons c cs ih =>
      unfold readDistance at h
      split at h
      · cases h
      · dsimp only at h
        split at h
        · cases h
          exact Nat.lt_succ_self _
        · exact Nat.lt_succ_of_lt (ih h)

/-- Insert the characters that the distances place into `output`. -/
def readInsertions (point place bias : Nat) (output : List Char)
    (cs : List Char) : Option (List Char) :=
  match cs with
  | [] => some output
  | c :: rest =>
      match _h : readDistance bias base 1 0 (c :: rest) with
      | none => none
      | some (distance, after) =>
          let count := output.length + 1
          let step := place + distance
          let next := point + step / count
          let slot := step % count
          if next < 0xD800 ∨ (0xDFFF < next ∧ next < 0x110000) then
            readInsertions next (slot + 1)
              (adapt distance count (output.all (·.toNat < initialPoint)))
              (output.insertIdx slot (Char.ofNat next)) after
          else none
termination_by cs.length
decreasing_by exact readDistance_length_lt _h

/-- The label that its ASCII form stands for. -/
def decode (cs : List Char) : Option (List Char) :=
  match cs.reverse.span (· != '-') with
  | (_, []) => readInsertions initialPoint 0 initialBias [] cs
  | (after, _ :: before) =>
      if before.all (·.toNat < initialPoint) then
        readInsertions initialPoint 0 initialBias before.reverse after.reverse
      else none

def writeDistance (bias place distance : Nat) : List Char :=
  let t := threshold bias place
  if distance < t then [digit distance]
  else
    digit (t + (distance - t) % (base - t)) ::
      writeDistance bias (place + base) ((distance - t) / (base - t))
termination_by distance
decreasing_by
  have hpos := threshold_pos bias place
  exact Nat.lt_of_le_of_lt (Nat.div_le_self _ _) (by omega)

structure Writer where
  /-- Digits written so far, reversed. -/
  output : List Char
  /-- Places passed since the last character was written. -/
  distance : Nat
  bias : Nat
  /-- Characters of the label written so far. -/
  written : Nat

/-- Pass one character of the label while the characters `point` are written. -/
def Writer.pass (basic point : Nat) (writer : Writer) (c : Char) : Writer :=
  if c.toNat < point then
    { writer with distance := writer.distance + 1 }
  else if c.toNat = point then
    { output :=
        (writeDistance writer.bias base writer.distance).reverse ++
          writer.output
      distance := 0
      bias := adapt writer.distance (writer.written + 1)
        (writer.written == basic)
      written := writer.written + 1 }
  else writer

/-- Write the characters of each of the code points, given in ascending order. -/
def writePoints (cs : List Char) (basic : Nat) :
    Nat -> List Nat -> Writer -> Writer
  | _, [], writer => writer
  | reached, point :: points, writer =>
      let advanced :=
        { writer with
          distance :=
            writer.distance + (point - reached) * (writer.written + 1) }
      let passed := cs.foldl (Writer.pass basic point) advanced
      writePoints cs basic (point + 1) points
        { passed with distance := passed.distance + 1 }

/-- The ASCII form of a label. -/
def encode (cs : List Char) : List Char :=
  let basic := cs.filter (·.toNat < initialPoint)
  let points :=
    ((cs.filter (initialPoint ≤ ·.toNat)).map Char.toNat).mergeSort.eraseDups
  let start := if basic.isEmpty then [] else basic ++ ['-']
  let written := writePoints cs basic.length initialPoint points
    ⟨[], 0, initialBias, basic.length⟩
  start ++ written.output.reverse

end Punycode

end Host

end Intermediary

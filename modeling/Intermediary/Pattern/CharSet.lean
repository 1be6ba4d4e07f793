import Intermediary.Text.Folding

/-!
# Sets of characters

A set of characters is a list of ranges of code points, ascending, disjoint and
with a gap between each two.
-/

namespace Intermediary

namespace Pattern

open Text

/-- A set of characters by ranges of code points, both ends included. -/
structure CharSet where
  ranges : List (Nat × Nat)
  deriving DecidableEq, Repr

namespace CharSet

def lastCode : Nat := 0x10FFFF

def empty : CharSet := ⟨[]⟩

def all : CharSet := ⟨[(0, lastCode)]⟩

def hasCode (set : CharSet) (n : Nat) : Bool :=
  set.ranges.any fun (first, last) => first ≤ n && n ≤ last

def contains (set : CharSet) (c : Char) : Bool :=
  set.hasCode c.toNat

def insertRange (first last : Nat) : List (Nat × Nat) -> List (Nat × Nat)
  | [] => [(first, last)]
  | (a, b) :: rest =>
      if last + 1 < a then (first, last) :: (a, b) :: rest
      else if b + 1 < first then (a, b) :: insertRange first last rest
      else insertRange (min first a) (max last b) rest

def range (first last : Nat) : CharSet := ⟨[(first, last)]⟩

def single (c : Char) : CharSet := range c.toNat c.toNat

def union (a b : CharSet) : CharSet :=
  ⟨b.ranges.foldl (fun ranges (first, last) => insertRange first last ranges) a.ranges⟩

/-- The gaps between ascending ranges, from a code point on. -/
def gaps : Nat -> List (Nat × Nat) -> List (Nat × Nat)
  | start, [] => if start ≤ lastCode then [(start, lastCode)] else []
  | start, (first, last) :: rest =>
      if start < first then (start, first - 1) :: gaps (last + 1) rest
      else gaps (last + 1) rest

def complement (set : CharSet) : CharSet := ⟨gaps 0 set.ranges⟩

def inter (a b : CharSet) : CharSet :=
  (a.complement.union b.complement).complement

def diff (a b : CharSet) : CharSet := a.inter b.complement

/-- The members of exactly one of two sets. -/
def symmDiff (a b : CharSet) : CharSet := (a.union b).diff (a.inter b)

/-- The set of the code points in ascending ranges, some of which may touch. -/
def ofAscending (ranges : List (Nat × Nat)) : CharSet :=
  ⟨ranges.foldr
    (fun (first, last) later =>
      match later with
      | (a, b) :: rest =>
          if a ≤ last + 1 then (first, b) :: rest else (first, last) :: later
      | [] => [(first, last)])
    []⟩

/-- The set of the code points in a table whose value meets a condition. -/
def ofTable {α : Type} (table : RangeMap α) (keep : α -> Bool) : CharSet :=
  ofAscending
    ((table.entries.toList.filter fun (_, _, value) => keep value).map
      fun (first, last, _) => (first, last))

/-- The members and the characters that differ from one in case only. -/
def foldCase (set : CharSet) : CharSet :=
  let targets := foldings.filter fun (n, _) => set.hasCode n
  let folded := targets.foldl (fun s (_, target) => s.union (range target target)) set
  let sources := foldings.filter fun (_, target) => folded.hasCode target
  sources.foldl (fun s (n, _) => s.union (range n n)) folded

/-- Whether all members are ASCII. -/
def isAscii (set : CharSet) : Bool :=
  set.ranges.all fun (_, last) => last < 128

end CharSet

end Pattern

end Intermediary

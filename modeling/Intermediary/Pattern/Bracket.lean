import Intermediary.Pattern.Escape

/-!
# Classes between brackets

A class lists characters, ranges, classes and further brackets.  Lists may be
joined by operators, which bind less tightly than the listing itself and group
from the left.
-/

namespace Intermediary

namespace Pattern

open Text

inductive SetOperator where
  | intersection
  | difference
  | symmetricDifference
  deriving DecidableEq, Repr

/-- A set, and how deeply it is nested. -/
structure Nested where
  set : CharSet
  depth : Nat

/-- The items listed so far: their union, their number and their depth. -/
structure Listing where
  set : CharSet := CharSet.empty
  count : Nat := 0
  depth : Nat := 0

namespace Listing

def add (listing : Listing) (set : CharSet) (depth : Nat) : Listing where
  set := listing.set.union set
  count := listing.count + 1
  depth := max listing.depth depth

def whole (listing : Listing) : Nested where
  set := listing.set
  depth := if listing.count < 2 then listing.depth else listing.depth + 1

end Listing

structure Bracket where
  negated : Bool
  /-- What stands before the last operator. -/
  left : Option (SetOperator × Nested)
  listing : Listing

namespace Bracket

def join (flags : Flags) (operator : SetOperator) (left right : Nested) : Nested :=
  let a := if flags.insensitive then left.set.foldCase else left.set
  let b := if flags.insensitive then right.set.foldCase else right.set
  { set :=
      match operator with
      | .intersection => a.inter b
      | .difference => a.diff b
      | .symmetricDifference => a.symmDiff b
    depth := max left.depth right.depth + 1 }

def whole (flags : Flags) (bracket : Bracket) : Nested :=
  match bracket.left with
  | none => bracket.listing.whole
  | some (operator, left) => join flags operator left bracket.listing.whole

def operate (flags : Flags) (bracket : Bracket) (operator : SetOperator) : Bracket :=
  { bracket with left := some (operator, bracket.whole flags), listing := {} }

def add (bracket : Bracket) (set : CharSet) (depth : Nat) : Bracket :=
  { bracket with listing := bracket.listing.add set depth }

def takeHyphens (flags : Flags) : Nat -> Listing -> List Char -> Option (Listing × List Char)
  | 0, _, _ => none
  | _ + 1, _, [] => none
  | fuel + 1, listing, c :: cs =>
      if c = '-' then
        takeHyphens flags fuel (listing.add (CharSet.single '-') 0) (skip flags cs)
      else if c = ']' ∧ listing.count = 0 then
        match skip flags cs with
        | [] => none
        | rest => some (listing.add (CharSet.single ']') 0, rest)
      else some (listing, c :: cs)

/-- A bracket at its start, after the bracket itself. -/
def open? (flags : Flags) : Reader Bracket :=
  fun cs =>
    let (negated, start) :=
      match skip flags cs with
      | '^' :: rest => (true, skip flags rest)
      | rest => (false, rest)
    (takeHyphens flags (start.length + 1) {} start).map fun (listing, rest) =>
      ({ negated, left := none, listing }, rest)

end Bracket

/-- A set with a name of its own, after its opening bracket. -/
def asciiClass? (flags : Flags) : Reader CharSet
  | ':' :: cs =>
      let (negated, start) :=
        match cs with
        | '^' :: rest => (true, rest)
        | rest => (false, rest)
      match start.span (· != ':') with
      | (name, ':' :: ']' :: rest) =>
          (CharSet.ofAsciiName? (String.ofList name)).bind fun set =>
            (closeSet flags negated set).map fun closed => (closed, rest)
      | _ => none
  | _ => none

/-- Whether a set with a name of its own stands here, allowed or not. -/
def isAsciiClass (cs : List Char) : Bool :=
  (asciiClass? {} cs).isSome

/-- The character after the present one and what the flags pass over. -/
def peekPast (flags : Flags) (cs : List Char) : Option Char :=
  if flags.spaced then go false cs else cs.head?
where
  /-- Look further; a comment ends the search at its first character. -/
  go (inComment : Bool) : List Char -> Option Char
    | [] => cs.head?
    | c :: rest =>
        if isBlank c then go inComment rest
        else if ! inComment && c == '#' then go true rest
        else some c

def listed? (flags : Flags) : Reader Part
  | [] => none
  | '\\' :: cs => escape? flags cs
  | c :: cs => some (.literal c false, cs)

/-- The character that a part stands for, where a set must be in ASCII. -/
def literal? (flags : Flags) : Part -> Option Char
  | .literal c _ => if flags.unicode || c.toNat < 128 then some c else none
  | _ => none

def partSet? (flags : Flags) : Part -> Option CharSet
  | .set members => some members
  | part => (literal? flags part).map CharSet.single

def range? (flags : Flags) : Reader CharSet :=
  fun cs => do
    let (first, rest) <- listed? flags cs
    match skip flags rest with
    | [] => none
    | '-' :: after =>
        if peekPast flags after = some ']' ∨ peekPast flags after = some '-' then
          let set <- partSet? flags first
          return (set, '-' :: after)
        else
          let (last, rest) <- listed? flags (skip flags after)
          let a <- literal? flags first
          let b <- literal? flags last
          if a ≤ b then return (CharSet.range a.toNat b.toNat, rest) else none
    | rest => do
        let set <- partSet? flags first
        return (set, rest)

/-- The brackets around a place: the innermost one, and those around it. -/
def classAux (flags : Flags) :
    Nat -> Bracket -> List Bracket -> List Char -> Option (Nested × List Char)
  | 0, _, _, _ => none
  | fuel + 1, here, outer, cs =>
      match skip flags cs with
      | [] => none
      | '[' :: rest =>
          if isAsciiClass rest then
            match asciiClass? flags rest with
            | none => none
            | some (set, rest) => classAux flags fuel (here.add set 0) outer rest
          else
            match Bracket.open? flags rest with
            | none => none
            | some (inner, rest) => classAux flags fuel inner (here :: outer) rest
      | ']' :: rest =>
          let whole := here.whole flags
          match closeSet flags here.negated whole.set, outer with
          | none, _ => none
          | some set, [] => some (⟨set, whole.depth + 1⟩, rest)
          | some set, parent :: outer =>
              classAux flags fuel (parent.add set (whole.depth + 1)) outer rest
      | '&' :: '&' :: rest =>
          classAux flags fuel (here.operate flags .intersection) outer rest
      | '-' :: '-' :: rest =>
          classAux flags fuel (here.operate flags .difference) outer rest
      | '~' :: '~' :: rest =>
          classAux flags fuel (here.operate flags .symmetricDifference) outer rest
      | start =>
          match range? flags start with
          | none => none
          | some (set, rest) => classAux flags fuel (here.add set 0) outer rest

/-- A class between brackets, after its opening bracket. -/
def class? (flags : Flags) : Reader Nested :=
  fun cs =>
    match Bracket.open? flags cs with
    | none => none
    | some (bracket, rest) => classAux flags (rest.length + 1) bracket [] rest

end Pattern

end Intermediary

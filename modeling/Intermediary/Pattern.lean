import Intermediary.Pattern.Property

/-!
# Patterns

A pattern describes texts.  Matching keeps the set of positions that can be
reached in a text, so that no choice is ever made and undone.
-/

namespace Intermediary

namespace Pattern

/-- A condition on the characters before and after a position. -/
inductive Look where
  | textStart
  | textEnd
  /-- A line feed before, or, if so chosen, a carriage return that ends a line. -/
  | lineStart (carriage : Bool)
  /-- A line feed after, or, if so chosen, a carriage return. -/
  | lineEnd (carriage : Bool)
  /-- A word begins or ends here. -/
  | wordEdge (word : CharSet)
  | noWordEdge (word : CharSet)
  | wordStart (word : CharSet)
  | wordEnd (word : CharSet)
  | wordStartHalf (word : CharSet)
  | wordEndHalf (word : CharSet)
  deriving DecidableEq, Repr

namespace Look

def inWord (word : CharSet) (c : Option Char) : Bool :=
  c.any word.contains

/-- Whether the condition holds between two characters. -/
def holds (before after : Option Char) : Look -> Bool
  | .textStart => before.isNone
  | .textEnd => after.isNone
  | .lineStart false => before.isNone || before == some '\n'
  | .lineStart true =>
      before.isNone || before == some '\n' ||
        before == some '\r' && after != some '\n'
  | .lineEnd false => after.isNone || after == some '\n'
  | .lineEnd true =>
      after.isNone || after == some '\r' ||
        after == some '\n' && before != some '\r'
  | .wordEdge word => inWord word before != inWord word after
  | .noWordEdge word => inWord word before == inWord word after
  | .wordStart word => ! inWord word before && inWord word after
  | .wordEnd word => inWord word before && ! inWord word after
  | .wordStartHalf word => ! inWord word before
  | .wordEndHalf word => ! inWord word after

end Look

end Pattern

inductive Pattern where
  | empty
  | chars (set : Pattern.CharSet)
  /-- A condition that takes no character. -/
  | look (condition : Pattern.Look)
  | sequence (first second : Pattern)
  | either (first second : Pattern)
  /-- At least and, if bounded, at most so many copies. -/
  | repeated (body : Pattern) (least : Nat) (most : Option Nat)
  deriving DecidableEq, Repr

namespace Pattern

/-- Positions in a text, ascending. -/
abbrev Positions := List Nat

namespace Positions

def union : Positions -> Positions -> Positions
  | [], b => b
  | a, [] => a
  | i :: a, j :: b =>
      if i < j then i :: union a (j :: b)
      else if j < i then j :: union (i :: a) b
      else i :: union a b
  termination_by a b => a.length + b.length

/-- The positions of the first set that are not in the second. -/
def diff : Positions -> Positions -> Positions
  | [], _ => []
  | a, [] => a
  | i :: a, j :: b =>
      if i < j then i :: diff a (j :: b)
      else if j < i then diff (i :: a) b
      else diff a b
  termination_by a b => a.length + b.length

end Positions

/-- Take a step so many times, or until it changes nothing any more. -/
def iterate (step : Positions -> Positions) : Nat -> Positions -> Positions
  | 0, here => here
  | n + 1, here =>
      let there := step here
      if there = here then here else iterate step n there

/--
The positions reached in at most so many steps, where all those in `seen` have
been reached and `fresh` are the ones reached last.
-/
def spread (step : Positions -> Positions) :
    Nat -> Positions -> Positions -> Positions
  | 0, seen, _ => seen
  | n + 1, seen, fresh =>
      match Positions.diff (step fresh) seen with
      | [] => seen
      | found => spread step n (seen.union found) found

def charAt (text : Array Char) (i : Nat) : Option Char :=
  text[i]?

def charBefore (text : Array Char) : Nat -> Option Char
  | 0 => none
  | i + 1 => text[i]?

/-- The positions where a match that begins at one of the given positions ends. -/
def ends (text : Array Char) : Pattern -> Positions -> Positions
  | .empty, here => here
  | .chars set, here =>
      here.filterMap fun i =>
        if (charAt text i).any set.contains then some (i + 1) else none
  | .look condition, here =>
      here.filter fun i => condition.holds (charBefore text i) (charAt text i)
  | .sequence first second, here => ends text second (ends text first here)
  | .either first second, here =>
      Positions.union (ends text first here) (ends text second here)
  | .repeated body least most, here =>
      let start := iterate (ends text body) least here
      let rounds :=
        match most with
        | none => text.size + 1
        | some most => min (most - least) (text.size + 1)
      spread (ends text body) rounds start start

def occursIn (pattern : Pattern) (text : String) : Bool :=
  let chars := text.toList.toArray
  ! (ends chars pattern (List.range (chars.size + 1))).isEmpty

end Pattern

end Intermediary

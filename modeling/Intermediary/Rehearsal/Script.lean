import Intermediary.Bytes

/-!
# Scripted peers

A peer that plays a script says its lines one after the other, each on its cue,
and then ends its stream.  What it has said is a function of what it has heard,
so a rehearsed connection needs no clock and no threads.
-/

namespace Intermediary

/-- What a peer waits for before it says a line. -/
inductive Cue where
  | now
  /-- It has heard a blank line. -/
  | head
  /-- It has heard this many bytes in all. -/
  | bytes (count : Nat)
  /-- It will hear nothing more. -/
  | ending
  deriving DecidableEq, Repr

namespace Bytes

def blankLine : Bytes := crlf ++ crlf

def pastBlankLine? : Bytes -> Option Bytes
  | [] => none
  | b :: rest =>
      if blankLine.isPrefixOf (b :: rest) then some ((b :: rest).drop 4)
      else pastBlankLine? rest

end Bytes

/-- Whether a cue has come: any cue has once there is nothing more to hear. -/
def Cue.hasCome (cue : Cue) (heard : Bytes) (ended : Bool) : Bool :=
  ended ||
    match cue with
    | .now => true
    | .head => (Bytes.pastBlankLine? heard).isSome
    | .bytes count => decide (count ≤ heard.length)
    | .ending => false

inductive Part where
  | say (cue : Cue) (words : Bytes)
  /-- Repeat what is heard, or what is heard past the first blank line. -/
  | echo (pastHead : Bool)
  deriving DecidableEq, Repr

abbrev Script := List Part

namespace Script

def repeated (pastHead : Bool) (heard : Bytes) : Bytes :=
  if pastHead then (Bytes.pastBlankLine? heard).getD [] else heard

/-- What a peer has said by now, and whether that is its whole script. -/
def said (heard : Bytes) (ended : Bool) : Script -> Bytes × Bool
  | [] => ([], true)
  | .say cue words :: rest =>
      if cue.hasCome heard ended then
        let (more, isOver) := said heard ended rest
        (words.followedBy more, isOver)
      else ([], false)
  | .echo pastHead :: rest =>
      if ended then
        let (more, isOver) := said heard ended rest
        ((repeated pastHead heard).followedBy more, isOver)
      else (repeated pastHead heard, false)

end Script

end Intermediary

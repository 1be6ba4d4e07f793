import Intermediary.Json.Skip
import Intermediary.Text.Numeral

/-!
# The body of a request for a ceiling

The new ceiling comes as JSON: an object with the member `seconds`, or a list
of that number alone.  The body is read from front to back, so the first fault
in it decides how it is refused.
-/

namespace Intermediary

inductive BodyFault where
  /-- It is not JSON. -/
  | malformed
  /-- It is JSON so far, and of another shape than was asked for. -/
  | unsuitable
  deriving DecidableEq, Repr

namespace CeilingBody

open Json

/-- The fault of a value that should be of another kind. -/
def mismatch (bytes : Bytes) : BodyFault :=
  let judge (found : Bool) : BodyFault :=
    if found then .unsuitable else .malformed
  match bytes with
  | [] => .malformed
  | b :: rest =>
      if b = openList || b = openObject then .unsuitable
      else if b = quote then judge (readText? rest).isSome
      else if beginsNumber b then
        judge ((readNumber? bytes).any fun (number, _) => ! number.isTooLarge)
      else
        judge (["null", "true", "false"].any fun word =>
          (skipWord? word bytes).isSome)

/-- Read a number of seconds. -/
def readSeconds (bytes : Bytes) : Except BodyFault (Nat × Bytes) :=
  let start := skipBlank bytes
  if start.head?.any beginsNumber then
    match readNumber? start with
    | none => .error .malformed
    | some (number, rest) =>
        match number.natural? Text.wordBound with
        | some seconds => .ok (seconds, rest)
        | none =>
            .error (if number.isTooLarge then .malformed else .unsuitable)
  else .error (mismatch start)

/-- Read the rest of a list after its opening bracket. -/
def readList (bytes : Bytes) : Except BodyFault (Nat × Bytes) := do
  match skipBlank bytes with
  | [] => throw .malformed
  | b :: rest =>
      if b = closeList then throw .unsuitable
      else
        let (seconds, left) <- readSeconds (b :: rest)
        match skipBlank left with
        | [] => throw .malformed
        | c :: left =>
            if c = closeList then return (seconds, left) else throw .malformed

def memberName : String := "seconds"

def readMember (seconds : Option Nat) (bytes : Bytes) :
    Except BodyFault (Option Nat × Bytes) :=
  match readText? bytes with
  | none => .error .malformed
  | some (key, rest) =>
      if key = memberName ∧ seconds.isSome then .error .unsuitable
      else
        match skipColon? rest with
        | none => .error .malformed
        | some rest =>
            if key = memberName then do
              let (found, left) <- readSeconds rest
              return (some found, left)
            else
              match skipValue? rest with
              | some left => .ok (seconds, left)
              | none => .error .malformed

/-- The bytes at which the next key may begin: after a comma, but for the first. -/
def beforeKey (isFirst : Bool) (bytes : Bytes) : Option Bytes :=
  if isFirst then some bytes
  else
    match bytes with
    | [] => none
    | b :: rest => if b = comma then some (skipBlank rest) else none

def readMembers : Nat -> Bool -> Option Nat -> Bytes ->
    Except BodyFault (Nat × Bytes)
  | 0, _, _, _ => .error .malformed
  | fuel + 1, isFirst, seconds, bytes =>
      match skipBlank bytes with
      | [] => .error .malformed
      | b :: rest =>
          if b = closeObject then
            match seconds with
            | some found => .ok (found, rest)
            | none => .error .unsuitable
          else
            match beforeKey isFirst (b :: rest) with
            | none | some [] => .error .malformed
            | some (c :: left) =>
                if c = quote then
                  match readMember seconds left with
                  | .ok (found, left) => readMembers fuel false found left
                  | .error fault => .error fault
                else .error .malformed

def readValue (bytes : Bytes) : Except BodyFault (Nat × Bytes) :=
  match bytes with
  | [] => .error .malformed
  | b :: rest =>
      if b = openList then readList rest
      else if b = openObject then readMembers (rest.length + 1) true none rest
      else .error (mismatch (b :: rest))

/-- The number of seconds in a body. -/
def read (body : Bytes) : Except BodyFault Nat := do
  let (seconds, rest) <- readValue (skipBlank body)
  if (skipBlank rest).isEmpty then return seconds else throw .malformed

end CeilingBody

end Intermediary

import Intermediary.Json.Scalar

/-!
# Passing over JSON values

What follows a value of any kind and depth.  The lists and objects that are
open are kept in a list, so that depth costs no more than length.
-/

namespace Intermediary

namespace Json

inductive Frame where
  | list
  | object
  deriving DecidableEq, Repr

def Frame.close : Frame -> UInt8
  | .list => closeList
  | .object => closeObject

inductive Place where
  | value
  | key
  /-- What follows a value. -/
  | after
  deriving DecidableEq, Repr

def skipColon? (bytes : Bytes) : Option Bytes :=
  match skipBlank bytes with
  | [] => none
  | b :: rest => if b = colon then some rest else none

def skipKey? (bytes : Bytes) : Option Bytes :=
  match skipBlank bytes with
  | [] => none
  | b :: rest =>
      if b = quote then (skipText? rest).bind skipColon? else none

def skipScalar? (b : UInt8) (rest : Bytes) : Option Bytes :=
  if b = quote then skipText? rest
  else if beginsNumber b then (readNumber? (b :: rest)).map Prod.snd
  else
    ["null", "true", "false"].findSome? fun word => skipWord? word (b :: rest)

/-- The place after an opening byte: a frame may be empty. -/
def opening (frame : Frame) (rest : Bytes) : Place :=
  match skipBlank rest with
  | [] => .value
  | b :: _ =>
      if b = frame.close then .after
      else
        match frame with
        | .list => .value
        | .object => .key

/-- Pass over values until all frames are closed. -/
def skipFor : Nat -> Place -> List Frame -> Bytes -> Option Bytes
  | 0, _, _, _ => none
  | fuel + 1, .value, frames, bytes =>
      match skipBlank bytes with
      | [] => none
      | b :: rest =>
          if b = openList then
            skipFor fuel (opening .list rest) (.list :: frames) rest
          else if b = openObject then
            skipFor fuel (opening .object rest) (.object :: frames) rest
          else
            match skipScalar? b rest with
            | some left => skipFor fuel .after frames left
            | none => none
  | fuel + 1, .key, frames, bytes =>
      match skipKey? bytes with
      | some rest => skipFor fuel .value frames rest
      | none => none
  | _ + 1, .after, [], bytes => some bytes
  | fuel + 1, .after, frame :: frames, bytes =>
      match skipBlank bytes with
      | [] => none
      | b :: rest =>
          if b = frame.close then skipFor fuel .after frames rest
          else if b = comma then
            match frame with
            | .list => skipFor fuel .value (frame :: frames) rest
            | .object => skipFor fuel .key (frame :: frames) rest
          else none

def skipValue? (bytes : Bytes) : Option Bytes :=
  skipFor (3 * bytes.length + 3) .value [] bytes

end Json

end Intermediary

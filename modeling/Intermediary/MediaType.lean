import Intermediary.Method
import Intermediary.Text.Blank
import Intermediary.Text.Case

/-!
# Media types

The type of a body is written `type/subtype+suffix`, with parameters after it.
What is read here is whether a text writes a media type at all, and its parts.
-/

namespace Intermediary

open Text

structure MediaType where
  type : String
  /-- What stands before the last plus sign, if there is one. -/
  subtype : String
  suffix : Option String
  deriving DecidableEq, Repr

namespace MediaType

/-- A character that may stand between quotation marks. -/
def isQuotable (c : Char) : Bool :=
  31 < c.toNat && c.toNat != 127

/-- The parameters after the closing mark of a quoted value. -/
def afterQuoted : List Char -> Option (List Char)
  | [] => some []
  | ' ' :: rest => afterQuoted rest
  | ';' :: rest => some rest
  | _ => none

/--
What follows a quoted value after its opening mark.  The closing mark is not
the first character, and whatever precedes it must be quotable.
-/
def skipQuoted (isFirst : Bool) : List Char -> Option (List Char)
  | [] => none
  | c :: rest =>
      if c = '\x22' ∧ ! isFirst then afterQuoted rest
      else if isQuotable c then skipQuoted false rest
      else none

/-- What follows the value of a parameter, which may be quoted. -/
def skipValue (value : List Char) : Option (List Char) :=
  match value with
  | '\x22' :: rest => skipQuoted true rest
  | _ =>
      match value.span Method.isTokenChar with
      | (_, []) => some []
      | ([], _) => none
      | (_, c :: rest) => if c = ';' then some rest else none

def areParameters : Nat -> List Char -> Bool
  | _, [] => true
  | 0, _ => false
  | fuel + 1, ' ' :: rest => areParameters fuel rest
  | fuel + 1, cs =>
      match cs.span Method.isTokenChar with
      | ([], _) => false
      | (_, '=' :: value) =>
          match skipValue value with
          | some rest => areParameters fuel rest
          | none => false
      | _ => false

/-- Cut a subtype at its last plus sign, which is not its first character. -/
def cutSuffix (subtype : List Char) : String × Option String :=
  match subtype.reverse.span (· != '+') with
  | (suffix, _ :: before@(_ :: _)) =>
      (String.ofList before.reverse, some (String.ofList suffix.reverse))
  | _ => (String.ofList subtype, none)

def ofText? (text : String) : Option MediaType :=
  match text.toList.span Method.isTokenChar with
  | (type@(_ :: _), '/' :: rest) =>
      let (whole, tail) := rest.span Method.isTokenChar
      let (subtype, suffix) := cutSuffix whole
      let found : MediaType := ⟨String.ofList type, subtype, suffix⟩
      match whole, tail with
      | _, [] => some found
      | _ :: _, ';' :: parameters =>
          if areParameters parameters.length parameters then some found
          else none
      | _, _ => none
  | _ => none

def isJson (media : MediaType) : Bool :=
  sameIgnoringCase media.type "application" &&
    (sameIgnoringCase media.subtype "json" ||
      media.suffix.any (sameIgnoringCase · "json"))

end MediaType

end Intermediary

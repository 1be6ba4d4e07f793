import Intermediary.Bytes
import Intermediary.Message.Error
import Intermediary.Text.Blank
import Intermediary.Text.Case
import Intermediary.Text.Numeral

/-!
# Headers

A header is a list of named fields in the order of their first appearance.
Names are compared up to ASCII case, and every operation acts on the first
field of a name.  A value may be a list whose items are separated by commas.
-/

namespace Intermediary

open Text

structure Field where
  name : String
  value : String
  deriving DecidableEq, Repr

/-- The fields of a message, in order. -/
structure Header where
  fields : List Field
  deriving DecidableEq, Repr

namespace Header

def empty : Header := ⟨[]⟩

/-- The name of the field whose lines are never joined. -/
def setCookie : String := "set-cookie"

/-- What stands between the items of a list that is written. -/
def listSeparator : String := ", "

def size (header : Header) : Nat :=
  header.fields.length

def isEmpty (header : Header) : Bool :=
  header.fields.isEmpty

def find? (header : Header) (name : String) : Option Field :=
  header.fields.find? fun field => sameIgnoringCase field.name name

def get? (header : Header) (name : String) : Option String :=
  (header.find? name).map Field.value

def contains (header : Header) (name : String) : Bool :=
  (header.get? name).isSome

/-- The items of a list value: trimmed, the empty ones left out. -/
def valueItems (value : String) : List String :=
  ((pieces ',' value).map trim).filter (· != "")

def items (header : Header) (name : String) : List String :=
  match header.get? name with
  | some value => valueItems value
  | none => []

/-- The value of a field that must be a number of at most sixty-four bits. -/
def number (header : Header) (name : String) : Except MessageError Nat :=
  match header.get? name with
  | none => .error (.framing (.fieldMissing name))
  | some value =>
      match numeral? 10 wordBound value with
      | some n => .ok n
      | none => .error (.framing (.notNumeric name value))

/--
Apply `update` to the value of the first field of a name, or add a field with
the value `fresh` at the end.
-/
def upsert (name fresh : String) (update : String -> String) :
    List Field -> List Field
  | [] => [⟨name, fresh⟩]
  | field :: rest =>
      if sameIgnoringCase field.name name then
        { field with value := update field.value } :: rest
      else
        field :: upsert name fresh update rest

/-- Give the first field of a name a value, or add the field at the end. -/
def set (header : Header) (name value : String) : Header :=
  ⟨upsert name value (fun _ => value) header.fields⟩

def joined (value item : String) : String :=
  if value = "" then item else value ++ listSeparator ++ item

/-- Add an item to the list in the first field of a name. -/
def append (header : Header) (name item : String) : Header :=
  ⟨upsert name item (fun value => joined value item) header.fields⟩

/-- Add a field at the end, whatever fields there are. -/
def push (header : Header) (name value : String) : Header :=
  ⟨header.fields ++ [⟨name, value⟩]⟩

/--
Take in one received line.  Lines of one name are joined into a list, except
where each line stands for itself.
-/
def receive (header : Header) (name value : String) : Header :=
  if sameIgnoringCase name setCookie then header.push name value
  else header.append name value

def remove (header : Header) (name : String) : Header :=
  ⟨header.fields.eraseP fun field => sameIgnoringCase field.name name⟩

/-- Delete the first field of a name, and give its value. -/
def withdraw (header : Header) (name : String) : Option String × Header :=
  (header.get? name, header.remove name)

/-- A field as it is written, its line ending included. -/
def renderField (field : Field) : Bytes :=
  Bytes.ofText field.name ++ Bytes.ofText ": " ++
    Bytes.ofText field.value ++ Bytes.crlf

/-- The lines of a header, without the blank line that ends it. -/
def render (header : Header) : Bytes :=
  header.fields.flatMap renderField

end Header

end Intermediary

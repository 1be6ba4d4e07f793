/-!
# Values of a configuration document

A document is a table of named values.  A table keeps how it came to be,
because that decides which later lines may still add to it.
-/

namespace Intermediary

namespace Toml

inductive Standing where
  /-- Its own header names it. -/
  | header
  /-- The header of a table inside it names it on the way. -/
  | implied
  /-- A key with dots leads through it. -/
  | dotted
  /-- It is written as a value, between braces. -/
  | inline
  deriving DecidableEq, Repr

/-- A value, with the entries of a table in the order they were first named. -/
inductive Value where
  | text (content : String)
  | integer (n : Int)
  /-- A number with a fraction or an exponent, or one that is none, as spelled. -/
  | float (spelled : List Char)
  | boolean (b : Bool)
  /-- A date, a time of day or both, as spelled. -/
  | moment (spelled : List Char)
  | array (items : List Value)
  | table (standing : Standing) (fields : List (String × Value))
  /-- Tables that share one name, each begun by a header of its own. -/
  | tables (members : List (List (String × Value)))
  deriving Inhabited

abbrev Fields := List (String × Value)

namespace Fields

def find? (fields : Fields) (key : String) : Option Value :=
  List.lookup key fields

/-- The entries with another value for a name that is there. -/
def replace (fields : Fields) (key : String) (value : Value) : Fields :=
  fields.map fun entry => if entry.1 == key then (key, value) else entry

/-- The entries and one more, whose name is not there yet. -/
def add? (fields : Fields) (key : String) (value : Value) : Option Fields :=
  if (fields.find? key).isSome then none else some (fields ++ [(key, value)])

/-- The standing of a table that a path creates on its way. -/
def fresh (dotted : Bool) : Standing :=
  if dotted then .dotted else .implied

/--
Change the table to which a path leads.  Tables that are missing on the way are
created, the last of several tables stands for all of them, and the path of a
key may not lead through a table that has a header or is a value.
-/
def within (dotted : Bool) (change : Standing -> Fields -> Option Fields) :
    List String -> Standing -> Fields -> Option Fields
  | [], standing, fields => change standing fields
  | key :: path, _, fields =>
      match fields.find? key with
      | none => do
          let inner <- within dotted change path (fresh dotted) []
          return fields ++ [(key, .table (fresh dotted) inner)]
      | some (.table standing inner) =>
          if standing = .inline ∨ (dotted ∧ standing = .header) then none
          else do
            let inner <- within dotted change path standing inner
            return fields.replace key (.table standing inner)
      | some (.tables members) =>
          match members.getLast? with
          | none => none
          | some last => do
              let inner <- within dotted change path .header last
              return fields.replace key (.tables (members.dropLast ++ [inner]))
      | some _ => none

/--
Enter a value under a key that may have dots.  The dots lead to a table that
only such keys have made, and the last part of the key is new there.
-/
def enter (path : List String) (key : String) (value : Value)
    (standing : Standing) (fields : Fields) : Option Fields :=
  within true
    (fun reached inner =>
      if reached = .dotted ∧ path = [] ∨ reached ≠ .dotted ∧ path ≠ [] then none
      else inner.add? key value)
    path standing fields

/-- Begin a table by its header: it is new, or so far only implied. -/
def openTable (path : List String) (key : String) (fields : Fields) :
    Option Fields :=
  within false
    (fun _ inner =>
      match inner.find? key with
      | none => some (inner ++ [(key, .table .header [])])
      | some (.table .implied old) => some (inner.replace key (.table .header old))
      | some _ => none)
    path .header fields

def openMember (path : List String) (key : String) (fields : Fields) :
    Option Fields :=
  within false
    (fun _ inner =>
      match inner.find? key with
      | none => some (inner ++ [(key, .tables [[]])])
      | some (.tables members) => some (inner.replace key (.tables (members ++ [[]])))
      | some _ => none)
    path .header fields

end Fields

end Toml

end Intermediary

import Intermediary.Toml.Moment
import Intermediary.Toml.Quotation
import Intermediary.Toml.Value

/-!
# Reading a configuration document

A document is a sequence of lines: blank ones, headers that begin a table, and
entries that belong to the table begun last.  Nesting and keys with dots have a
bounded depth.
-/

namespace Intermediary

namespace Toml

/-- One more than the depth to which values nest and keys have parts. -/
def depthBound : Nat := 80

def isBare (c : Char) : Bool :=
  c.isAlphanum || c == '_' || c == '-'

def keyPart? : Reader String
  | [] => none
  | c :: cs =>
      if c = '"' ∨ c = '\'' then quotation? (c :: cs)
      else
        match (c :: cs).span isBare with
        | ([], _) => none
        | (part, rest) => some (String.ofList part, rest)

/-- One round of a key: a part, and whether a dot follows it. -/
def keyRound (cs : List Char) : Option (Round String) :=
  match keyPart? (skipSpaces cs) with
  | none => none
  | some (part, rest) =>
      match skipSpaces rest with
      | '.' :: after => some (.more part after)
      | after => some (.last (some part) after)

/-- A key: the parts before its last one, and the last one. -/
def key? : Reader (List String × String) :=
  fun cs =>
    match collect keyRound cs with
    | none => none
    | some (parts, rest) =>
        match parts.getLast? with
        | none => none
        | some last =>
            if parts.length < depthBound then some ((parts.dropLast, last), rest)
            else none

/-- A key, an equals sign and a value. -/
def assignment? (value? : Reader Value) :
    Reader ((List String × String) × Value) :=
  fun cs =>
    match key? cs with
    | some (key, '=' :: rest) =>
        (value? (skipSpaces rest)).map fun (value, rest) => ((key, value), rest)
    | _ => none

/-- One round of an array: an item, and whether a comma follows it. -/
def itemRound (value? : Reader Value) (cs : List Char) :
    Option (Round Value) :=
  match gap? false cs with
  | none => none
  | some (']' :: rest) => some (.last none rest)
  | some start =>
      match value? start with
      | none => none
      | some (item, rest) =>
          match gap? false rest with
          | some (',' :: after) => some (.more item after)
          | some (']' :: after) => some (.last (some item) after)
          | _ => none

def inlineRound (value? : Reader Value) (cs : List Char) :
    Option (Round ((List String × String) × Value)) :=
  match assignment? value? cs with
  | none => none
  | some (entry, rest) =>
      match skipSpaces rest with
      | ',' :: after => some (.more entry after)
      | '}' :: after => some (.last (some entry) after)
      | _ => none

/-- The table that the entries between two braces make up. -/
def inlineTable? (entries : List ((List String × String) × Value)) :
    Option Value :=
  (entries.foldlM
      (fun fields entry => Fields.enter entry.1.1 entry.1.2 entry.2 .inline fields)
      ([] : Fields)).map
    (.table .inline)

/-- An array, after its opening bracket. -/
def array? (value? : Reader Value) : Reader Value :=
  fun cs => (collect (itemRound value?) cs).map fun (items, rest) => (.array items, rest)

/-- A table as a value, after its opening brace. -/
def braced? (value? : Reader Value) : Reader Value :=
  fun cs =>
    match skipSpaces cs with
    | '}' :: rest => some (.table .inline [], rest)
    | _ =>
        match collect (inlineRound value?) cs with
        | none => none
        | some (entries, rest) =>
            (inlineTable? entries).map fun table => (table, rest)

/-- A date, a time or a number. -/
def measure? : Reader Value :=
  fun cs =>
    match moment? cs with
    | some (spelled, rest) => some (.moment spelled, rest)
    | none =>
        match float? cs with
        | some (spelled, rest) => some (.float spelled, rest)
        | none => (integer? cs).map fun (n, rest) => (.integer n, rest)

/-- A value inside which others nest to at most the given depth. -/
def value? : Nat -> Reader Value
  | depth, cs =>
      match cs with
      | '[' :: rest =>
          match depth with
          | 0 => none
          | below + 1 => array? (value? below) rest
      | '{' :: rest =>
          match depth with
          | 0 => none
          | below + 1 => braced? (value? below) rest
      | 't' :: 'r' :: 'u' :: 'e' :: rest => some (.boolean true, rest)
      | 'f' :: 'a' :: 'l' :: 's' :: 'e' :: rest => some (.boolean false, rest)
      | c :: rest =>
          if c = '"' ∨ c = '\'' then
            (anyQuotation? (c :: rest)).map fun (content, rest) => (.text content, rest)
          else if c = '+' ∨ c = '-' ∨ c.isDigit then measure? (c :: rest)
          else (specialFloat? (c :: rest)).map fun (spelled, rest) => (.float spelled, rest)
      | [] => none

inductive Statement where
  | blank
  | table (path : List String) (key : String)
  /-- Begins one more of the tables that the key names. -/
  | member (path : List String) (key : String)
  | entry (path : List String) (key : String) (value : Value)

/-- A header, after its opening brackets. -/
def header? (make : List String -> String -> Statement)
    (close : List Char -> Option (List Char)) : Reader Statement :=
  fun cs =>
    match key? cs with
    | none => none
    | some ((path, key), rest) => (close rest).map fun rest => (make path key, rest)

/-- What follows the end of a header that names one of several tables. -/
def doubleClose? : List Char -> Option (List Char)
  | ']' :: ']' :: cs => some cs
  | _ => none

def statement? : Reader Statement
  | [] => some (.blank, [])
  | '[' :: '[' :: cs => header? .member doubleClose? cs
  | '[' :: cs => header? .table (mark? ']') cs
  | c :: cs =>
      if c = '#' ∨ c = '\n' ∨ c = '\r' then some (.blank, c :: cs)
      else
        (assignment? (value? (depthBound - 1)) (c :: cs)).map fun (((path, key), value), rest) =>
          (.entry path key value, rest)

/-- One round of a document: a line and its ending. -/
def lineRound? (cs : List Char) : Option (Round Statement) :=
  match skipSpaces cs with
  | [] => some (.last none [])
  | start =>
      match statement? start with
      | none => none
      | some (statement, rest) =>
          (lineEnd? rest).map fun after => .more statement after

/-- A document under construction: its table, and where entries go. -/
structure Draft where
  fields : Fields
  /-- The table begun last. -/
  current : List String

namespace Draft

def empty : Draft where
  fields := []
  current := []

def add (draft : Draft) : Statement -> Option Draft
  | .blank => some draft
  | .table path key =>
      (draft.fields.openTable path key).map fun fields =>
        { fields, current := path ++ [key] }
  | .member path key =>
      (draft.fields.openMember path key).map fun fields =>
        { fields, current := path ++ [key] }
  | .entry path key value =>
      (draft.fields.within false (Fields.enter path key value) draft.current .header).map
        fun fields => { draft with fields }

end Draft

def withoutMark : List Char -> List Char
  | '\uFEFF' :: cs => cs
  | cs => cs

def read (document : String) : Option Fields :=
  match collect lineRound? (withoutMark document.toList) with
  | some (statements, []) => (statements.foldlM Draft.add Draft.empty).map (·.fields)
  | _ => none

end Toml

end Intermediary

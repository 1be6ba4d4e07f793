import Intermediary.Pattern.Bracket
import Intermediary.Pattern.Size

/-!
# Reading a pattern

A written pattern is a choice of sequences of parts, each of which may be
repeated, in groups that nest to a bounded depth.  Flags hold from where they
are set to the end of their group, through all its choices.
-/

namespace Intermediary

namespace Pattern

open Text

/-- The greatest depth of nesting. -/
def depthBound : Nat := 250

structure Item where
  pattern : Pattern
  depth : Nat
  /-- A change of flags is a part that cannot be repeated. -/
  repeatable : Bool := true

/-- Parts one after another, last first, as one part. -/
def joinRun (run : List Item) : Item :=
  match run with
  | [] => ⟨.empty, 0, true⟩
  | [item] => item
  | last :: earlier =>
      { pattern := earlier.foldl (fun rest item => .sequence item.pattern rest) last.pattern
        depth := (run.map Item.depth).foldl max 0 + 1 }

/-- Choices, last first, as one part. -/
def joinBranches (branches : List Item) : Item :=
  match branches with
  | [] => ⟨.empty, 0, true⟩
  | [item] => item
  | last :: earlier =>
      { pattern := earlier.foldl (fun rest item => .either item.pattern rest) last.pattern
        depth := (branches.map Item.depth).foldl max 0 + 1 }

structure Level where
  /-- The flags in force again after the group. -/
  flags : Flags
  /-- The finished choices, last first. -/
  branches : List Item
  /-- The parts of the present choice, last first. -/
  run : List Item

structure Draft where
  flags : Flags := {}
  branches : List Item := []
  run : List Item := []
  /-- The levels around the open groups, innermost first. -/
  outer : List Level := []
  /-- The names given to groups. -/
  names : List String := []

namespace Draft

def whole (draft : Draft) : Item :=
  joinBranches (joinRun draft.run :: draft.branches)

def add (draft : Draft) (item : Item) : Draft :=
  { draft with run := item :: draft.run }

def addSet (draft : Draft) (set : CharSet) (depth : Nat) : Draft :=
  draft.add { pattern := .chars set, depth }

def enter (draft : Draft) (flags : Flags) : Draft :=
  { draft with
    flags, branches := [], run := []
    outer := ⟨draft.flags, draft.branches, draft.run⟩ :: draft.outer }

def leave? (draft : Draft) : Option Draft :=
  match draft.outer with
  | [] => none
  | level :: outer =>
      let inner := draft.whole
      some { draft with
        flags := level.flags, branches := level.branches, outer
        run := { pattern := inner.pattern, depth := inner.depth + 1 } :: level.run }

def choose (draft : Draft) : Draft :=
  { draft with branches := joinRun draft.run :: draft.branches, run := [] }

/-- So many copies of a pattern, of which one suffices if it takes nothing. -/
def copies (body : Pattern) (least : Nat) (most : Option Nat) : Pattern :=
  if body.takesNothing then
    match min least 1, min (most.getD 1) 1 with
    | _, 0 => .empty
    | 0, _ => .either body .empty
    | _, _ => body
  else if most = some 0 then .empty
  else .repeated body least most

def repeat? (draft : Draft) (least : Nat) (most : Option Nat) : Option Draft :=
  match draft.run with
  | [] => none
  | item :: run =>
      if item.repeatable then
        some { draft with
          run := { pattern := copies item.pattern least most, depth := item.depth + 1 } :: run }
      else none

end Draft

def isNameChar (first : Bool) (c : Char) : Bool :=
  if first then c == '_' || CharSet.alphabetic.contains c
  else
    c == '_' || c == '.' || c == '[' || c == ']' ||
      CharSet.alphabetic.contains c || CharSet.numeric.contains c

/-- The name of a group, after its opening sign. -/
def groupName? (cs : List Char) : Option (String × List Char) :=
  match cs.span (· != '>') with
  | (first :: others, _ :: rest) =>
      if isNameChar true first && others.all (isNameChar false) then
        some (String.ofList (first :: others), rest)
      else none
  | _ => none

/-- The draft inside a group with a name that is new. -/
def enterNamed? (draft : Draft) (cs : List Char) : Option (Draft × List Char) :=
  match groupName? cs with
  | none => none
  | some (name, rest) =>
      if draft.names.contains name then none
      else some ({ draft.enter draft.flags with names := name :: draft.names }, rest)

/-- The draft after a change of flags, which a group may follow. -/
def changeFlags? (draft : Draft) (cs : List Char) : Option (Draft × List Char) :=
  match cs.span (fun c => c != ':' && c != ')') with
  | (written, ':' :: rest) =>
      (draft.flags.changed? written).map fun flags => (draft.enter flags, rest)
  | (written, ')' :: rest) =>
      if written.isEmpty then none
      else
        (draft.flags.changed? written).map fun flags =>
          ({ draft with flags }.add { pattern := .empty, depth := 0, repeatable := false }, rest)
  | _ => none

def enterGroup? (draft : Draft) (cs : List Char) : Option (Draft × List Char) :=
  match skip draft.flags cs with
  | '?' :: '=' :: _ => none
  | '?' :: '!' :: _ => none
  | '?' :: '<' :: '=' :: _ => none
  | '?' :: '<' :: '!' :: _ => none
  | '?' :: 'P' :: '<' :: rest => enterNamed? draft rest
  | '?' :: '<' :: rest => enterNamed? draft rest
  | '?' :: rest => changeFlags? draft rest
  | rest => some (draft.enter draft.flags, rest)

/-- The text after the sign that makes a repetition prefer fewer copies. -/
def skipLazy : List Char -> List Char
  | '?' :: cs => cs
  | cs => cs

/-- The digits of a count; those already read are in `taken`. -/
def countDigits (flags : Flags) (inComment : Bool) (taken : List Char) :
    List Char -> List Char × List Char
  | [] => (taken.reverse, [])
  | c :: cs =>
      if inComment then countDigits flags (c != '\n') taken cs
      else if c.isDigit then countDigits flags false (c :: taken) cs
      else if flags.spaced && ! taken.isEmpty && isBlank c then
        countDigits flags false taken cs
      else if flags.spaced && ! taken.isEmpty && c == '#' then
        countDigits flags true taken cs
      else (taken.reverse, c :: cs)

/-- The first number too large for a count. -/
def countBound : Nat := 4294967296

/-- A count, with blanks around it. -/
def count? (flags : Flags) : Reader Nat :=
  fun cs =>
    let (digits, rest) := countDigits flags false [] (cs.dropWhile isBlank)
    if digits.isEmpty then none
    else
      match digits? 10 0 digits with
      | some n =>
          if n < countBound then some (n, skip flags (rest.dropWhile isBlank)) else none
      | none => none

/-- The bounds of a repetition, after the opening brace. -/
def bounds? (flags : Flags) : Reader (Nat × Option Nat) :=
  fun cs => do
    let (least, rest) <- count? flags (skip flags cs)
    match rest with
    | '\x7d' :: rest => return ((least, some least), rest)
    | ',' :: rest =>
        match skip flags rest with
        | '\x7d' :: rest => return ((least, none), rest)
        | rest =>
            let (most, rest) <- count? flags rest
            match rest with
            | '\x7d' :: rest => if least ≤ most then return ((least, some most), rest) else none
            | _ => none
    | _ => none

def addEscape? (draft : Draft) (cs : List Char) : Option (Draft × List Char) :=
  match escape? draft.flags cs with
  | none => none
  | some (.literal c byte, rest) =>
      (literalSet? draft.flags c byte).map fun set => (draft.addSet set 0, rest)
  | some (.set set, rest) => some (draft.addSet set 0, rest)
  | some (.look condition, rest) =>
      some (draft.add { pattern := .look condition, depth := 0 }, rest)

def anchor (flags : Flags) (atEnd : Bool) : Look :=
  if flags.multiLine then
    if atEnd then .lineEnd flags.carriage else .lineStart flags.carriage
  else if atEnd then .textEnd
  else .textStart

/-- The draft after what stands at the front of a written pattern. -/
def step? (draft : Draft) (c : Char) (cs : List Char) : Option (Draft × List Char) :=
  match c with
  | '(' => enterGroup? draft cs
  | ')' => draft.leave?.map fun draft => (draft, cs)
  | '|' => some (draft.choose, cs)
  | '[' =>
      (class? draft.flags cs).map fun (nested, rest) =>
        (draft.addSet nested.set nested.depth, rest)
  | '?' => (draft.repeat? 0 (some 1)).map fun draft => (draft, skipLazy cs)
  | '*' => (draft.repeat? 0 none).map fun draft => (draft, skipLazy cs)
  | '+' => (draft.repeat? 1 none).map fun draft => (draft, skipLazy cs)
  | '\x7b' => do
      let ((least, most), rest) <- bounds? draft.flags cs
      let repeated <- draft.repeat? least most
      return (repeated, skipLazy (skip draft.flags rest))
  | '\\' => addEscape? draft cs
  | '.' => (dotSet? draft.flags).map fun set => (draft.addSet set 0, cs)
  | '^' => some (draft.add { pattern := .look (anchor draft.flags false), depth := 0 }, cs)
  | '$' => some (draft.add { pattern := .look (anchor draft.flags true), depth := 0 }, cs)
  | _ => (literalSet? draft.flags c false).map fun set => (draft.addSet set 0, cs)

/-- The draft of a whole written pattern, in at most `fuel` steps. -/
def draftAux : Nat -> Draft -> List Char -> Option Draft
  | 0, _, _ => none
  | fuel + 1, draft, cs =>
      match skip draft.flags cs with
      | [] => some draft
      | c :: rest =>
          match step? draft c rest with
          | none => none
          | some (draft, rest) => draftAux fuel draft rest

def ofText? (text : String) : Option Pattern :=
  match draftAux (text.toList.length + 1) {} text.toList with
  | none => none
  | some draft =>
      let whole := draft.whole
      if draft.outer.isEmpty && whole.depth ≤ depthBound then some whole.pattern else none

end Pattern

end Intermediary

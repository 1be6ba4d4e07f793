import Intermediary.Pattern.Reader
import Intermediary.Settings.Reader

/-!
# Blocklists

A blocklist is a list of patterns, each made to match a host as a whole.  It is
accepted only as a whole.
-/

namespace Intermediary

open Text

structure Blocklist where
  patterns : List Pattern
  deriving DecidableEq, Repr

inductive BlocklistError where
  | unreadable (path : String) (fault : FileFault)
  /-- A pattern is malformed, or all of them together are too large. -/
  | pattern
  deriving DecidableEq, Repr

namespace BlocklistError

def message : BlocklistError -> String
  | .unreadable path fault => "failed to read blocklist " ++ path ++ ": " ++ fault.message
  | .pattern => "invalid blocklist pattern"

end BlocklistError

namespace Blocklist

def empty : Blocklist := ⟨[]⟩

/-- A written pattern with anchors at both of its ends. -/
def anchored (pattern : String) : String :=
  "^(?:" ++ pattern ++ ")$"

def size (blocklist : Blocklist) : Nat :=
  blocklist.patterns.foldl (fun total pattern => total + pattern.size) 0

def ofPatterns (written : List String) : Except BlocklistError Blocklist :=
  match written.mapM fun text => Pattern.ofText? (anchored text) with
  | none => .error .pattern
  | some patterns =>
      if (⟨patterns⟩ : Blocklist).size ≤ Pattern.sizeBound then .ok ⟨patterns⟩
      else .error .pattern

/-- The patterns in a text: its lines, without blank ones and comments. -/
def writtenPatterns (text : String) : List String :=
  ((pieces '\n' text).map trim).filter fun line =>
    line != "" && ! Text.startsWith line "#"

/-- The blocklist in the file at a path, given what the file holds. -/
def ofFile (path : String) (content : Option Bytes) :
    Except BlocklistError Blocklist :=
  match fileText content with
  | .error fault => .error (.unreadable path fault)
  | .ok text => ofPatterns (writtenPatterns text)

def contains (blocklist : Blocklist) (host : String) : Bool :=
  blocklist.patterns.any fun pattern => pattern.occursIn host

end Blocklist

end Intermediary

import Intermediary.Text.Blank
import Intermediary.Text.Case
import Intermediary.Text.Numeral

/-!
# Log filters

A filter is a sequence of directives between commas.  Each sets a level, for
everything or for the targets that begin with a name; a line is written when
the level of the longest name that its target begins with allows it.
-/

namespace Intermediary

open Text

/-- How much is written: what is no less urgent than the level. -/
inductive LogLevel where
  | off
  | error
  | warn
  | info
  | debug
  | trace
  deriving DecidableEq, Repr

namespace LogLevel

/-- The levels from the least to the most. -/
def all : List LogLevel := [.off, .error, .warn, .info, .debug, .trace]

def rank (level : LogLevel) : Nat :=
  all.idxOf level

def name : LogLevel -> String
  | .off => "off"
  | .error => "error"
  | .warn => "warn"
  | .info => "info"
  | .debug => "debug"
  | .trace => "trace"

def ofText? (text : String) : Option LogLevel :=
  match (numeral? 10 wordBound text).bind (all[·]?) with
  | some level => some level
  | none =>
      if text = "" then some .error
      else all.find? fun level => sameIgnoringCase level.name text

end LogLevel

structure Directive where
  /-- The name with which a target begins. -/
  target : Option String
  level : LogLevel
  /-- It concerns only what happens within some span of time. -/
  isSpanned : Bool
  deriving DecidableEq, Repr

namespace Directive

def beginsName (c : Char) : Bool :=
  c == '-' || c == ':' || c == '_' || c.isAlphanum || 128 ≤ c.toNat

/-- The level after a sign of equality; nothing there stands for all levels. -/
def levelAfter? (text : List Char) : Option LogLevel :=
  if text.isEmpty then some .trace else LogLevel.ofText? (String.ofList text)

def afterSpan? : List Char -> Option LogLevel
  | [] => some .trace
  | '=' :: level => levelAfter? level
  | _ => none

def spanned? (target : Option String) (text : List Char) : Option Directive :=
  match text.span (· != ']') with
  | (_, _ :: rest) =>
      (afterSpan? rest).map fun level => ⟨target, level, true⟩
  | (_, []) => none

def ofText? (text : String) : Option Directive :=
  match text.toList with
  | [] => none
  | '[' :: rest => spanned? none rest
  | c :: rest =>
      if ! beginsName c then none
      else
        match (c :: rest).span fun c => c != '=' && c != '[' with
        | (name, '=' :: level) =>
            (levelAfter? level).map fun level =>
              ⟨some (String.ofList name), level, false⟩
        | (name, '[' :: span) => spanned? (some (String.ofList name)) span
        | (name, _) =>
            let name := String.ofList name
            match LogLevel.ofText? name with
            | some level => some ⟨none, level, false⟩
            | none => some ⟨some name, .trace, false⟩

def concerns (directive : Directive) (target : String) : Bool :=
  ! directive.isSpanned && directive.target.all (startsWith target)

/-- The length of the name, or zero. -/
def weight (directive : Directive) : Nat :=
  match directive.target with
  | none => 0
  | some name => name.length + 1

end Directive

structure LogFilter where
  directives : List Directive
  deriving DecidableEq, Repr

namespace LogFilter

/-- The filter of some directives; without any, only errors are written. -/
def ofDirectives (directives : List Directive) : LogFilter :=
  if directives.isEmpty then ⟨[⟨none, .error, false⟩]⟩ else ⟨directives⟩

def parts (text : String) : List String :=
  (pieces ',' text).filter (· != "")

/-- The filter that a text writes, if each part of it is a directive. -/
def ofText? (text : String) : Option LogFilter :=
  ((parts text).mapM Directive.ofText?).map ofDirectives

/-- The filter that a text writes, without the parts that are no directives. -/
def ofTextLeniently (text : String) : LogFilter :=
  ofDirectives ((parts text).filterMap Directive.ofText?)

/-- The filter from the environment if there is a sound one, else from the settings. -/
def choose (environment : Option String) (setting : String) : LogFilter :=
  (environment.bind ofText?).getD (ofTextLeniently setting)

/-- The directive that decides on a target: the longest name, of equals the last. -/
def deciding? (filter : LogFilter) (target : String) : Option Directive :=
  (filter.directives.filter (·.concerns target)).foldl
    (fun best directive =>
      match best with
      | none => some directive
      | some other =>
          if other.weight ≤ directive.weight then some directive else best)
    none

def shows (filter : LogFilter) (target : String) (level : LogLevel) : Bool :=
  (filter.deciding? target).any fun directive => level.rank ≤ directive.level.rank

end LogFilter

end Intermediary

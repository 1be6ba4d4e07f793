import Intermediary.Header

/-!
# Cache directives

The `Cache-Control` field says whether a response may be kept, and for how
long.  Unknown directives are passed over; of several ages the last counts.
-/

namespace Intermediary

open Text

def cacheControlField : String := "Cache-Control"

/-- The directives that decide whether a response is kept, and for how long. -/
structure CacheDirectives where
  isPrivate : Bool
  noCache : Bool
  noStore : Bool
  /-- Seconds. -/
  maxAge : Option Nat
  deriving DecidableEq, Repr

namespace CacheDirectives

def none : CacheDirectives :=
  ⟨false, false, false, Option.none⟩

def unquoted (text : String) : String :=
  String.ofList (dropEnd (· == '"') (text.toList.dropWhile (· == '"')))

/-- The name of a directive, and its argument if it has one. -/
def split (directive : String) : String × Option String :=
  match cutAt '=' directive with
  | some (name, argument) => (trim name, some (unquoted (trim argument)))
  | Option.none => (directive, Option.none)

def add (directives : CacheDirectives) (directive : String) : CacheDirectives :=
  let (name, argument) := split directive
  if sameIgnoringCase name "private" then
    { directives with isPrivate := true }
  else if sameIgnoringCase name "no-cache" then
    { directives with noCache := true }
  else if sameIgnoringCase name "no-store" then
    { directives with noStore := true }
  else if sameIgnoringCase name "max-age" then
    { directives with maxAge := argument.bind (numeral? 10 wordBound) }
  else directives

def ofValue (value : String) : CacheDirectives :=
  ((pieces ',' value).map trim).foldl add none

def ofHeader? (header : Header) : Option CacheDirectives :=
  (header.get? cacheControlField).map ofValue

/-- Seconds for which a response may be kept, at most `ceiling`. -/
def lifetime? (directives : CacheDirectives) (ceiling : Option Nat) :
    Option Nat :=
  if directives.isPrivate || directives.noCache || directives.noStore then
    Option.none
  else
    match directives.maxAge with
    | Option.none => Option.none
    | some age =>
        let capped :=
          match ceiling with
          | some most => min age most
          | Option.none => age
        if 0 < capped then some capped else Option.none

end CacheDirectives

end Intermediary

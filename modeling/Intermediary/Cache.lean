import Intermediary.Cache.Directives
import Intermediary.Metrics
import Intermediary.Request
import Intermediary.Response
import Intermediary.Settings

/-!
# The response cache

A store of responses by fingerprint.  Each entry has a lifetime, fixed when it
is stored; an entry that has outlived it is removed when it is next asked for.
Times are milliseconds, lifetimes seconds.
-/

namespace Intermediary

open Text

structure CacheEntry where
  response : Response
  storedAt : Nat
  /-- For how many seconds it may be served. -/
  lifetime : Nat
  deriving DecidableEq, Repr

def CacheEntry.isExpired (entry : CacheEntry) (now : Nat) : Bool :=
  1000 * entry.lifetime < now - entry.storedAt

/-- Stored responses, at most one for each fingerprint. -/
structure Cache where
  entries : List (Fingerprint × CacheEntry)
  /-- The longest lifetime of entries stored from now on. -/
  ceiling : Option Nat
  deriving DecidableEq, Repr

namespace Cache

def empty : Cache := ⟨[], none⟩

def size (cache : Cache) : Nat :=
  cache.entries.length

def isEmpty (cache : Cache) : Bool :=
  cache.entries.isEmpty

def find? (cache : Cache) (print : Fingerprint) : Option CacheEntry :=
  (cache.entries.find? (·.1 == print)).map Prod.snd

def erase (cache : Cache) (print : Fingerprint) : Cache :=
  { cache with entries := cache.entries.filter (·.1 != print) }

inductive Found where
  /-- An entry that may be served. -/
  | hit (response : Response)
  /-- An entry that has outlived its lifetime. -/
  | expired
  /-- No entry. -/
  | missing
  deriving DecidableEq, Repr

def peek (cache : Cache) (print : Fingerprint) (now : Nat) : Found :=
  match cache.find? print with
  | none => .missing
  | some entry =>
      if entry.isExpired now then .expired else .hit entry.response

/--
Remove the entry of a fingerprint if it has outlived its lifetime, and record
the entries left when it was removed.
-/
def evict (cache : Cache) (print : Fingerprint) (now : Nat) :
    Cache × List Measure :=
  match cache.find? print with
  | some entry =>
      if entry.isExpired now then
        let left := cache.erase print
        (left, [.entries left.size])
      else (cache, [])
  | none => (cache, [])

/-- The response to serve for a fingerprint; an entry too old is removed. -/
def lookup (cache : Cache) (print : Fingerprint) (now : Nat) :
    Option Response × Cache × List Measure :=
  match cache.peek print now with
  | .hit response => (some response, cache, [.lookup .hit])
  | .missing => (none, cache, [.lookup .miss])
  | .expired =>
      let (left, measures) := cache.evict print now
      (none, left, measures ++ [.lookup .expired])

/-- For how many seconds a response may be served, if it may be stored. -/
def lifetime? (cache : Cache) (response : Response) : Option Nat :=
  match CacheDirectives.ofHeader? response.header with
  | some directives => directives.lifetime? cache.ceiling
  | none => none

def mayStore (cache : Cache) (response : Response) : Bool :=
  (cache.lifetime? response).isSome

/-- Store a response that may be stored, in place of an earlier one. -/
def insert (cache : Cache) (print : Fingerprint) (response : Response)
    (now : Nat) : Cache × List Measure :=
  match cache.lifetime? response with
  | none => (cache, [])
  | some lifetime =>
      let entry : CacheEntry := ⟨response, now, lifetime⟩
      let left := cache.erase print
      let grown := { left with entries := (print, entry) :: left.entries }
      (grown, [.entries grown.size])

def clear (cache : Cache) : Cache × List Measure :=
  ({ cache with entries := [] }, [.entries 0])

/-- The number of seconds that stands for no ceiling. -/
def noCeiling : Nat := wordBound - 1

/-- Bound the lifetime of entries stored from now on. -/
def setCeiling (cache : Cache) (seconds : Nat) : Cache :=
  { cache with ceiling := if seconds = noCeiling then none else some seconds }

def ofSettings (settings : CacheSettings) : Cache :=
  match settings.ceiling with
  | none => empty
  | some seconds => empty.setCeiling seconds

end Cache

end Intermediary

import Intermediary.Metrics
import Intermediary.Text.Numeral

/-!
# Connections in service

Every connection that is served has a number of its own and is counted while it
is served.
-/

namespace Intermediary

structure ConnectionId where
  number : Nat
  deriving DecidableEq, Repr

def ConnectionId.text (id : ConnectionId) : String :=
  "conn-" ++ Text.decimal id.number

/-- How many connections are in service, and the next number. -/
structure Tracker where
  active : Nat
  next : ConnectionId
  deriving DecidableEq, Repr

namespace Tracker

/-- No connection is in service; the first is number one. -/
def fresh : Tracker := ⟨0, ⟨1⟩⟩

def takeId (tracker : Tracker) : ConnectionId × Tracker :=
  (tracker.next, { tracker with next := ⟨tracker.next.number + 1⟩ })

def track (tracker : Tracker) : ConnectionId × Tracker × List Measure :=
  let (id, numbered) := tracker.takeId
  (id, { numbered with active := tracker.active + 1 }, [.opened])

def release (tracker : Tracker) : Tracker × List Measure :=
  ({ tracker with active := tracker.active - 1 }, [.closed])

end Tracker

end Intermediary

/-!
# The request to stop

Stopping is requested once and for good.  Whoever waits for the request goes on
when it has been made, or when nobody is left who could make it.
-/

namespace Intermediary

/-- Whether stopping was requested, and whether it still can be. -/
structure Shutdown where
  isTriggered : Bool
  /-- Nobody is left who could request it. -/
  isDropped : Bool
  deriving DecidableEq, Repr

namespace Shutdown

def fresh : Shutdown := ⟨false, false⟩

def trigger (shutdown : Shutdown) : Shutdown :=
  { shutdown with isTriggered := true }

def drop (shutdown : Shutdown) : Shutdown :=
  { shutdown with isDropped := true }

/-- Whether a wait for the request ends at once. -/
def resolves (shutdown : Shutdown) : Bool :=
  shutdown.isTriggered || shutdown.isDropped

end Shutdown

/-- What the operating system sends a process. -/
inductive Signal where
  | terminate
  | interrupt
  deriving DecidableEq, Inhabited, Repr

namespace Signal

/-- The signal of a name, if it is one that the proxy handles. -/
def ofName? : String -> Option Signal
  | "TERM" => some .terminate
  | "INT" => some .interrupt
  | _ => none

def handle (_ : Signal) (shutdown : Shutdown) : Shutdown :=
  shutdown.trigger

end Signal

end Intermediary

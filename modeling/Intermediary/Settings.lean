import Intermediary.Message.Error
import Intermediary.Text.Blank
import Intermediary.Text.Numeral

/-!
# Settings

Everything about a running proxy that its operator may choose, and what holds
where nothing is chosen.  Times are in seconds.
-/

namespace Intermediary

open Text

/-- Another proxy, to which everything is handed on. -/
structure Parent where
  host : String
  port : Nat
  deriving DecidableEq, Repr

inductive ParentFault where
  /-- Nothing separates a host from a port. -/
  | shape (given : String)
  | port (given : String)
  | host (given : String)
  deriving DecidableEq, Repr

namespace ParentFault

def message : ParentFault -> String
  | .shape given => "expected host:port, got " ++ quoted given
  | .port given => "invalid port in " ++ quoted given
  | .host given => "missing host in " ++ quoted given

end ParentFault

namespace Parent

/-- A host without the brackets around an IPv6 address. -/
def withoutBrackets (host : String) : String :=
  String.ofList (dropEnd (· == ']') (host.toList.dropWhile (· == '[')))

/-- The parent that a text of the form `host:port` names. -/
def ofText (given : String) : Except ParentFault Parent :=
  match cutAtLast ':' given with
  | none => .error (.shape given)
  | some (host, port) =>
      match numeral? 10 portBound port with
      | none => .error (.port given)
      | some port =>
          if withoutBrackets host = "" then .error (.host given)
          else .ok { host := withoutBrackets host, port }

end Parent

/-- The key of the administration interface that counts as not chosen. -/
def placeholderKey : String := "CHANGE_ME_IN_PRODUCTION"

structure ListenerSettings where
  address : String := "0.0.0.0:8080"
  deriving DecidableEq, Repr

/-- How many connections are served at once and how many may wait. -/
structure SchedulerSettings where
  workers : Nat := 64
  queueDepth : Nat := 1024
  deriving DecidableEq, Repr

/-- Whether and for how long responses are kept. -/
structure CacheSettings where
  enabled : Bool := true
  stripes : Nat := 997
  /-- The longest time that a response is kept, whatever it allows itself. -/
  ceiling : Option Nat := none
  deriving DecidableEq, Repr

/-- When a silent tunnel ends, and how much of it is read at once. -/
structure TunnelSettings where
  idleTimeout : Nat := 5
  bufferSize : Nat := 65536
  deriving DecidableEq, Repr

/-- How long a peer may take to accept a connection, to send and to receive. -/
structure TimeoutSettings where
  connect : Nat := 10
  read : Nat := 30
  write : Nat := 30
  deriving DecidableEq, Repr

structure BlocklistSettings where
  path : Option String := none
  deriving DecidableEq, Repr

structure ReportSettings where
  logLevel : String := "info"
  metricsEnabled : Bool := true
  metricsAddress : String := "0.0.0.0:9090"
  deriving DecidableEq, Repr

structure AdminSettings where
  enabled : Bool := false
  key : String := placeholderKey
  address : String := "127.0.0.1:8081"
  deriving DecidableEq, Repr

structure Settings where
  listener : ListenerSettings := {}
  scheduler : SchedulerSettings := {}
  cache : CacheSettings := {}
  tunnel : TunnelSettings := {}
  timeouts : TimeoutSettings := {}
  limits : Limits := Limits.default
  blocklist : BlocklistSettings := {}
  parent : Option Parent := none
  report : ReportSettings := {}
  admin : AdminSettings := {}
  deriving DecidableEq, Repr

end Intermediary

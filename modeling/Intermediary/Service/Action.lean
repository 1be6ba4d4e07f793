import Intermediary.Metrics
import Intermediary.Program
import Intermediary.Request
import Intermediary.Response
import Intermediary.Service.Error

/-!
# What serving a connection consists of

Serving one connection is a sequence of actions on the world outside: reading
from and writing to two peers, connecting, and the use of what all connections
share.  Each action has a reply, and the actions that may have to wait for a
peer have a time limit or have none.
-/

namespace Intermediary

/-- The two peers of a connection that is served. -/
inductive Side where
  | client
  | origin
  deriving DecidableEq, Repr

namespace Side

def other : Side -> Side
  | .client => .origin
  | .origin => .client

end Side

inductive Ending where
  /-- The peer has ended its stream. -/
  | closed
  /-- The peer has dropped the connection. -/
  | reset
  /-- The peer has sent nothing more before the time limit. -/
  | silent
  deriving DecidableEq, Repr

/-- What a peer has sent, and how it came to a stop if more was needed. -/
structure Inflow where
  bytes : Bytes
  ending : Ending
  deriving DecidableEq, Repr

inductive TimeLimit where
  | connect
  | read
  | write
  | idle
  deriving DecidableEq, Repr

/-- How the cache took part in serving a request. -/
inductive CacheUse where
  | hit
  | miss
  | bypass
  deriving DecidableEq, Repr

def CacheUse.name : CacheUse -> String
  | .hit => "hit"
  | .miss => "miss"
  | .bypass => "bypass"

/-- What is written to the log about a connection. -/
inductive Event where
  | served (method : String) (status : Status) (use : CacheUse)
  | refused (method : String) (error : ServiceError)
  /-- The connection is closed without a response. -/
  | abandoned (method : String) (error : ServiceError)
  | tunnelClosed (toOrigin toClient : Nat)
  | handshakeFailed (cause : TransportError)
  deriving DecidableEq, Repr

def Event.message : Event -> String
  | .served .. => "Request served"
  | .refused .. => "Request refused"
  | .abandoned .. => "Closing connection without response"
  | .tunnelClosed .. => "Tunnel closed"
  | .handshakeFailed _ => "Tunnel handshake failed"

/-- What a tunnel has relayed, and whether it ended for want of traffic. -/
structure Relayed where
  toOrigin : Nat
  toClient : Nat
  timedOut : Bool
  deriving DecidableEq, Repr

inductive Action where
  /-- Read from a peer until what has come is enough. -/
  | receive (side : Side) (enough : Bytes -> Bool)
  | connect (host : String) (port : Nat)
  /-- Write to the origin. -/
  | send (bytes : Bytes)
  /-- Write a response to the client. -/
  | answer (bytes : Bytes)
  /-- Write to the client before a tunnel begins. -/
  | greet (bytes : Bytes)
  /-- Relay between the peers, beginning with what was read ahead from each. -/
  | relay (fromClient fromOrigin : Bytes)
  /-- Take a stripe, or wait for it. -/
  | lock (stripe : Nat)
  | unlock (stripe : Nat)
  | lookup (print : Fingerprint)
  | store (print : Fingerprint) (response : Response)
  | measure (recording : Measure)
  | log (event : Event)

namespace Action

def Reply : Action -> Type
  | .receive _ _ => Inflow
  | .connect _ _ | .send _ | .answer _ | .greet _ => Except TransportError Unit
  | .relay _ _ => Relayed
  | .lookup _ => Option Response
  | .lock _ | .unlock _ | .store _ _ | .measure _ | .log _ => Unit

def awaitsPeer : Action -> Bool
  | .receive _ _ | .connect _ _ | .send _ | .answer _ | .greet _ | .relay _ _ => true
  | _ => false

def limit? : Action -> Option TimeLimit
  | .receive _ _ => some .read
  | .connect _ _ => some .connect
  | .answer _ => some .write
  | .relay _ _ => some .idle
  | _ => none

end Action

abbrev Serving (α : Type) : Type := Program Action.Reply α

def Serving.perform (action : Action) : Serving action.Reply :=
  Program.perform action

end Intermediary

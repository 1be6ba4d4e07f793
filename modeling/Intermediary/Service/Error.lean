import Intermediary.Message.Error
import Intermediary.Method
import Intermediary.Status
import Intermediary.Text.Numeral

/-!
# Why a connection was not served

Every way in which serving a client fails.  All but one are answered with a
response composed here; a client that can no longer be read or written gets
nothing.
-/

namespace Intermediary

open Text

/-- How the exchange with an origin, or with the proxy before it, fails. -/
inductive ExchangeFault where
  | connect (host : String) (port : Nat) (cause : TransportError)
  /-- The request could not be written. -/
  | send (cause : TransportError)
  /-- The response could not be read. -/
  | response (cause : MessageError)
  /-- The response did not come in time. -/
  | timedOut
  /-- Any other failure, in its own words. -/
  | described (text : String)
  deriving DecidableEq, Repr

def ExchangeFault.message : ExchangeFault -> String
  | .connect host port cause =>
      "connect to " ++ host ++ ":" ++ decimal port ++ " failed: " ++
        cause.message
  | .send cause => "send failed: " ++ cause.message
  | .response cause => "bad response: " ++ cause.message
  | .timedOut => "timed out waiting for response"
  | .described text => text

inductive TunnelFault where
  /-- No connection to the target. -/
  | connect (cause : TransportError)
  /-- No connection to the proxy before the target. -/
  | parentConnect (host : String) (port : Nat) (cause : TransportError)
  /-- The request for the tunnel could not be written. -/
  | parentSend (cause : TransportError)
  /-- The reply to it could not be read. -/
  | parentReply (cause : MessageError)
  /-- The reply to it did not come in time. -/
  | parentTimedOut
  | parentRefused (status : Status)
  /-- Any other failure, in its own words. -/
  | described (text : String)
  deriving DecidableEq, Repr

def TunnelFault.message : TunnelFault -> String
  | .connect cause => cause.message
  | .parentConnect host port cause =>
      "upstream " ++ host ++ ":" ++ decimal port ++ ": " ++ cause.message
  | .parentSend cause => "upstream send failed: " ++ cause.message
  | .parentReply cause => "bad upstream reply: " ++ cause.message
  | .parentTimedOut => "timed out waiting for upstream"
  | .parentRefused status => "upstream answered " ++ status.text
  | .described text => text

inductive ServiceError where
  /-- The request makes no sense. -/
  | malformedRequest (text : String)
  | methodNotAllowed (token : String)
  /-- The host is blocked. -/
  | forbidden
  /-- The request has been here before. -/
  | loopDetected
  /-- The origin gave no response. -/
  | origin (host : String) (port : Nat) (cause : ExchangeFault)
  /-- No tunnel to the target. -/
  | tunnel (host : String) (port : Nat) (cause : TunnelFault)
  /-- The client cannot be read or written. -/
  | client (cause : TransportError)
  deriving DecidableEq, Repr

namespace ServiceError

/-- The error in words, which are also the payload of the response to it. -/
def message : ServiceError -> String
  | .malformedRequest text => text
  | .methodNotAllowed token => token ++ " is not supported"
  | .forbidden => "Forbidden Content"
  | .loopDetected => "Loop Detected"
  | .origin host port cause =>
      host ++ ":" ++ decimal port ++ ": " ++ cause.message
  | .tunnel host port cause =>
      "tunnel to " ++ host ++ ":" ++ decimal port ++ " failed: " ++
        cause.message
  | .client cause => "client connection failed: " ++ cause.message

def status : ServiceError -> Status
  | .malformedRequest _ | .loopDetected => .badRequest
  | .methodNotAllowed _ => .methodNotAllowed
  | .forbidden => .forbidden
  | .origin .. | .tunnel .. | .client _ => .proxyFailure

def isFatal : ServiceError -> Bool
  | .client _ => true
  | _ => false

/-- What the failure to read a request means for its client. -/
def ofMessageError : MessageError -> ServiceError
  | .closed => .client .ended
  | .transport cause => .client cause
  | e => .malformedRequest e.message

end ServiceError

inductive RequestKind where
  /-- Its response is passed back, through the cache. -/
  | forward
  /-- A tunnel to its target is opened. -/
  | tunnel
  deriving DecidableEq, Repr

def RequestKind.ofMethod : Method -> Except ServiceError RequestKind
  | .get | .post | .head => .ok .forward
  | .connect => .ok .tunnel
  | other => .error (.methodNotAllowed other.token)

end Intermediary

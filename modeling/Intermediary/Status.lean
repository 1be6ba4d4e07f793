import Intermediary.Text.Numeral

/-!
# Status codes

A status is a number.  Some numbers have a reason phrase of their own; the
phrase is always taken from this table.
-/

namespace Intermediary

structure Status where
  code : Nat
  deriving DecidableEq, Repr

namespace Status

def ok : Status := ⟨200⟩
def noContent : Status := ⟨204⟩
def notModified : Status := ⟨304⟩
def badRequest : Status := ⟨400⟩
def forbidden : Status := ⟨403⟩
def methodNotAllowed : Status := ⟨405⟩

/-- The status of a request that could not be passed on. -/
def proxyFailure : Status := ⟨510⟩

def unknownReason : String := "Unknown Code"

def reason (status : Status) : String :=
  match status.code with
  | 100 => "Continue"
  | 101 => "Switching Protocols"
  | 200 => "OK"
  | 201 => "Created"
  | 202 => "Accepted"
  | 203 => "Non-Authoritative Information"
  | 204 => "No Content"
  | 205 => "Reset Content"
  | 206 => "Partial Content"
  | 300 => "Multiple Choices"
  | 301 => "Permanently Moved"
  | 302 => "Found"
  | 303 => "See Other"
  | 304 => "Not Modified"
  | 305 => "Use Proxy"
  | 307 => "Temporary Redirect"
  | 400 => "Bad Request"
  | 401 => "Unauthorized"
  | 402 => "Payment Required"
  | 403 => "Forbidden"
  | 404 => "Not Found"
  | 405 => "Method Not Allowed"
  | 406 => "Not Acceptable"
  | 407 => "Proxy Authentication Required"
  | 408 => "Request Timeout"
  | 409 => "Conflict"
  | 410 => "Gone"
  | 500 => "Internal Server Error"
  | 501 => "Not Implemented"
  | 502 => "Bad Gateway"
  | 504 => "Gateway Timeout"
  | 505 => "HTTP Version Not Supported"
  | 510 => "General Proxy Failure"
  | _ => unknownReason

def text (status : Status) : String :=
  Text.decimal status.code ++ " " ++ status.reason

def isInformational (status : Status) : Bool :=
  100 ≤ status.code && status.code < 200

def isSuccess (status : Status) : Bool :=
  200 ≤ status.code && status.code < 300

/-- Whether a response of this status never has a payload. -/
def forbidsPayload (status : Status) : Bool :=
  status.isInformational || status == noContent || status == notModified

end Status

end Intermediary

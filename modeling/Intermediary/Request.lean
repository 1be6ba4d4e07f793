import Intermediary.Payload
import Intermediary.Target

/-!
# Requests

A request that a client sent, with its target resolved, and the two forms in
which it is written when it is passed on.
-/

namespace Intermediary

open Text

/-- How the target is written when a request is passed on. -/
inductive TargetForm where
  /-- The path alone, for the host itself. -/
  | origin
  /-- Scheme, host, port and path, for another proxy. -/
  | absolute
  deriving DecidableEq, Repr

/-- What decides whether two requests ask for the same thing. -/
structure Fingerprint where
  method : Method
  host : String
  port : Nat
  path : String
  deriving DecidableEq, Repr

namespace Fingerprint

def text (print : Fingerprint) : String :=
  print.method.token ++ " " ++ print.host ++ ":" ++ decimal print.port ++
    print.path

end Fingerprint

structure Request where
  method : Method
  host : String
  port : Nat
  path : String
  protocol : String
  header : Header
  payload : Payload
  client : String
  deriving DecidableEq, Repr

namespace Request

def bare (method : Method) (host : String) (port : Nat) (path : String) :
    Request where
  method := method
  host := host
  port := port
  path := path
  protocol := "HTTP/1.1"
  header := Header.empty
  payload := Payload.empty
  client := ""

def writtenHost (request : Request) : String :=
  if request.host.toList.contains ':' then "[" ++ request.host ++ "]"
  else request.host

def authority (request : Request) : String :=
  request.writtenHost ++ ":" ++ decimal request.port

/-- The `Host` field sent onward, which leaves out the default port. -/
def hostHeader (request : Request) : String :=
  if request.port = defaultPort then request.writtenHost
  else request.authority

/-- What the request asks for, apart from its header and payload. -/
def fingerprint (request : Request) : Fingerprint :=
  ⟨request.method, request.host, request.port, request.path⟩

def writtenTarget (request : Request) (form : TargetForm) : String :=
  if request.method = .connect then request.authority
  else
    match form with
    | .origin => request.path
    | .absolute => "http://" ++ request.authority ++ request.path

def line (request : Request) (form : TargetForm) : String :=
  request.method.token ++ " " ++ request.writtenTarget form ++ " " ++
    request.protocol

/-- The bytes of a request: its line, its header, a blank line, its payload. -/
def render (request : Request) (form : TargetForm) : Bytes :=
  Bytes.ofText (request.line form) ++ Bytes.crlf ++
    (request.header.render ++ (Bytes.crlf ++ request.payload.bytes))

end Request

end Intermediary

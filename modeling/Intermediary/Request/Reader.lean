import Intermediary.Header.Reader
import Intermediary.Payload.Reader
import Intermediary.Request

/-!
# Reading a request

A request is its line, its header, and, where the header announces one, its
payload.
-/

namespace Intermediary

open Text

namespace Request

def protocolStart : String := "HTTP/"

structure Line where
  method : Method
  target : String
  protocol : String
  deriving DecidableEq, Repr

def readLine (text : String) : Except MessageError Line :=
  match words text with
  | [method, target, protocol] =>
      if !startsWith protocol protocolStart then
        .error (.malformed (.protocol protocol))
      else
        match Method.ofToken method with
        | .error e => .error e
        | .ok parsed => .ok ⟨parsed, target, protocol⟩
  | _ => .error (.malformed (.requestLine text))

def announcesPayload (header : Header) : Bool :=
  header.isChunked || header.contains contentLengthField

/-- Read the payload of a request, if it has one. -/
def readPayload (limits : Limits) (header : Header) (stream : Bytes) :
    Except MessageError (Payload × Bytes) :=
  if announcesPayload header then Payload.read limits header stream
  else .ok (.empty, stream)

def read (limits : Limits) (client : String) (stream : Bytes) :
    Except MessageError (Request × Bytes) := do
  let (first, afterLine) <-
    Intermediary.Line.takeFirst .requestLine limits.lineBytes stream
  let text <- Intermediary.Line.text .request first
  let line <- readLine text
  let (header, afterHeader) <- Header.read limits afterLine
  let target <- Target.resolve line.method line.target header
  let (payload, rest) <- readPayload limits header afterHeader
  return (
    { method := line.method
      host := target.authority.host
      port := target.authority.port
      path := target.path
      protocol := line.protocol
      header := header
      payload := payload
      client := client }, rest)

end Request

end Intermediary

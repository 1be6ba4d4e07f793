import Intermediary.Payload
import Intermediary.Status

/-!
# Responses

A response, as an origin sent it or as it was composed here, and its bytes.
-/

namespace Intermediary

open Text

structure Response where
  protocol : String
  status : Status
  header : Header
  payload : Payload
  deriving DecidableEq, Repr

namespace Response

/-- The protocol token of the responses composed here. -/
def ownProtocol : String := "HTTP/1.0"

def bare (protocol : String) (status : Status) : Response :=
  ⟨protocol, status, Header.empty, Payload.empty⟩

/-- The response with a payload, whose length its header tells. -/
def withPayload (response : Response) (body : Bytes) : Response :=
  { response with
    payload := Payload.ofBytes body
    header := response.header.set contentLengthField (decimal body.length) }

def ofMessage (status : Status) (message : String) : Response :=
  (bare ownProtocol status).withPayload (Bytes.ofText message)

def tunnelEstablished : Response :=
  bare ownProtocol .ok

def line (response : Response) : String :=
  response.protocol ++ " " ++ response.status.text

/-- The bytes of a response: its line, its header, a blank line, its payload. -/
def render (response : Response) : Bytes :=
  Bytes.ofText response.line ++ Bytes.crlf ++
    (response.header.render ++ (Bytes.crlf ++ response.payload.bytes))

end Response

end Intermediary

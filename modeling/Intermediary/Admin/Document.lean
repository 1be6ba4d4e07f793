import Intermediary.Admin
import Intermediary.Header.Reader
import Intermediary.Payload.Reader
import Intermediary.Response

/-!
# The administration interface on the wire

A request is read from the bytes of a connection, and an answer is written as a
response with a JSON document in it.
-/

namespace Intermediary

open Text

namespace AdminReport

def optional : Option Nat -> String
  | some n => decimal n
  | none => "null"

/-- The members of the document, given for how many seconds the proxy has run. -/
def members (uptime : Nat) : AdminReport -> List (String × String)
  | .status connections => [
      ("version", "\"" ++ Admin.version ++ "\""),
      ("status", "\"" ++ Admin.operational ++ "\""),
      ("uptime_secs", decimal uptime),
      ("active_connections", decimal connections)]
  | .cache entries ceiling => [
      ("entries", decimal entries), ("max_age_secs", optional ceiling)]
  | .cleared entries => [("cleared", decimal entries)]

def document (uptime : Nat) (report : AdminReport) : String :=
  let written := (report.members uptime).map fun (name, value) =>
    "\"" ++ name ++ "\":" ++ value
  "\x7b" ++ ",".intercalate written ++ "\x7d"

end AdminReport

namespace AdminReply

def header (reply : AdminReply) : Header :=
  let typed := match reply.report with
    | some _ => Header.empty.set "content-type" "application/json"
    | none => Header.empty
  let allowing := match reply.allow with
    | some methods => typed.set "allow" methods
    | none => typed
  allowing.set "connection" "close"

def response (uptime : Nat) (reply : AdminReply) : Response :=
  let body := match reply.report with
    | some report => Bytes.ofText (report.document uptime)
    | none => []
  { Response.bare "HTTP/1.1" reply.status with header := reply.header }.withPayload body

end AdminReply

namespace AdminRequest

def limits : Limits :=
  { Limits.default with payloadBytes := Admin.bodyLimit + 1 }

def read (stream : Bytes) : Except MessageError (AdminRequest × Bytes) := do
  let (first, afterLine) <- Line.takeFirst .requestLine limits.lineBytes stream
  let text <- Line.text .request first
  match words text with
  | [method, target, _] => do
      let method <- Method.ofToken method
      let (header, afterHeader) <- Header.read limits afterLine
      let (payload, rest) <-
        if header.contains contentLengthField then
          Payload.read limits header afterHeader
        else .ok (.empty, afterHeader)
      let fields := header.fields.map fun field =>
        (field.name, Bytes.ofText field.value)
      return ({ method, target, header := fields, body := payload.bytes }, rest)
  | _ => throw (.malformed (.requestLine text))

end AdminRequest

end Intermediary

import Intermediary.Console
import Intermediary.Request
import Intermediary.Response

/-!
# The console on the wire

What the console sends is a request to the host that its address names, and
what it shows is the document in the answer.
-/

namespace Intermediary

open Text

/-- The request by which something is asked for, if the address names a host. -/
def ConsoleRequest.wire? (asked : ConsoleRequest) : Option Request := do
  let target <- (Target.resolve .get asked.url .empty).toOption
  let key <- Bytes.text? asked.authorization
  let bare :=
    Request.bare asked.method target.authority.host target.authority.port target.path
  let header := ((bare.header.set hostField bare.hostHeader).set "Authorization" key).set
    "Connection" "close"
  match asked.body with
  | none => return { bare with header }
  | some body =>
      let payload := Payload.ofBytes (Bytes.ofText body)
      return { bare with
        header := (header.set "Content-Type" "application/json").set
          contentLengthField (decimal payload.size)
        payload }

/-- What the console says to an answer, and whether that is a success. -/
def Console.shown (answer : Response) : Bool × String :=
  let body := (Bytes.text? answer.payload.bytes).getD ""
  if answer.status.isSuccess then (true, body)
  else
    (false,
      "Error: Admin API returned status " ++ answer.status.text ++ "\nResponse: " ++ body)

def Console.help : String :=
  "\n".intercalate [
    "Management CLI for the caching forward proxy",
    "",
    "Usage: proxy-cli [OPTIONS] --key <KEY> <COMMAND>",
    "",
    "Commands:",
    "  status       Check proxy status and active connections",
    "  cache        Show cache size and TTL ceiling",
    "  clear-cache  Drop every cached response",
    "  max-age      Cap the TTL of responses cached from now on",
    "  help         Print this message or the help of the given subcommand(s)",
    "",
    "Options:",
    "  -u, --url <URL>  Base URL of the admin API [default: " ++ Console.defaultUrl ++ "]",
    "  -k, --key <KEY>  Admin API key",
    "  -h, --help       Print help"]

end Intermediary

import Intermediary.Service.Action
import Intermediary.Startup

/-!
# Lines of the log

Whatever is written to the log has a level, the part of the proxy it comes
from, words, and fields.
-/

namespace Intermediary

open Text

structure LogLine where
  level : LogLevel
  target : String
  message : String
  fields : List (String × String)
  deriving DecidableEq, Repr

namespace LogLine

/-- The level of a line in capitals, in a column of five. -/
def levelColumn : LogLevel -> String
  | .off => "  OFF"
  | .error => "ERROR"
  | .warn => " WARN"
  | .info => " INFO"
  | .debug => "DEBUG"
  | .trace => "TRACE"

def text (line : LogLine) (moment : String) : String :=
  let fields := line.fields.map fun (name, value) => name ++ "=" ++ value
  " ".intercalate
    ([moment, levelColumn line.level, line.target ++ ":", line.message] ++ fields)

end LogLine

def StartupEvent.line (event : StartupEvent) : LogLine where
  level := event.level
  target := event.target
  message := event.message
  fields := event.fields

namespace Event

def target : String := "forward_proxy::proxy::handler"

def level : Event -> LogLevel
  | .served .. | .refused .. | .tunnelClosed .. => .info
  | .abandoned .. | .handshakeFailed _ => .debug

def fields : Event -> List (String × String)
  | .served method status use => [
      ("method", method), ("status", decimal status.code),
      ("cache", quoted use.name)]
  | .refused method error => [
      ("method", method), ("status", decimal error.status.code),
      ("error", error.message)]
  | .abandoned method error => [("method", method), ("error", error.message)]
  | .tunnelClosed toOrigin toClient => [
      ("client_to_origin", decimal toOrigin),
      ("origin_to_client", decimal toClient)]
  | .handshakeFailed cause => [("error", cause.message)]

def line (event : Event) : LogLine where
  level := event.level
  target := target
  message := event.message
  fields := event.fields

end Event

end Intermediary

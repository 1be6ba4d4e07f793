import Intermediary.Console.Wire
import Intermediary.Live.Socket
import Intermediary.Response.Reader

/-!
# Running the console

One request is sent to the administration interface of a proxy, and the answer
to it is shown.
-/

namespace Intermediary

namespace Live

open Std.Async

/-- How long an answer may take, in milliseconds. -/
def answerTime : Nat := 30000

/-- Send a request, and read the answer to it. -/
def exchange (request : Request) : Async (Except String Response) := do
  match <- connect request.host request.port answerTime with
  | .error cause => return .error cause.message
  | .ok socket =>
      match <- write socket (request.render .origin) with
      | .error cause => return .error cause.message
      | .ok () =>
          let reader := Response.read .default request.method
          let decides (bytes : Bytes) : Bool := (reader bytes).toOption.isSome
          let now <- IO.monoMsNow
          let inflow <- readUntil socket decides (now + answerTime) []
          return match reader inflow.bytes with
            | .ok (response, _) => .ok response
            | .error error => .error error.message

/-- Ask for what the arguments say, and show what comes of it. -/
def runConsole (console : Console) : IO UInt32 := do
  match console.request with
  | .error _ =>
      IO.eprintln "Error: the key cannot be sent"
      return 1
  | .ok asked =>
      match asked.wire? with
      | none =>
          IO.eprintln ("Error: no host in " ++ asked.url)
          return 1
      | some request =>
          match <- (exchange request).block with
          | .error text =>
              IO.eprintln ("Error: " ++ text)
              return 1
          | .ok answer =>
              let (isSuccess, text) := Console.shown answer
              if isSuccess then IO.println text else IO.eprintln text
              return if isSuccess then 0 else 1

end Live

end Intermediary

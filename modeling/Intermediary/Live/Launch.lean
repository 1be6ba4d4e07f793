import Intermediary.Live.AdminListener
import Std.Async.Signal
import Std.Time

/-!
# Running the proxy

The deeds of the proxy as a whole are carried out on files, on the standard
output and on sockets.
-/

namespace Intermediary

namespace Live

open Std.Async (Async await background)

/-- The variable of the environment that asks for another filter of the log. -/
def filterVariable : String := "FORWARD_PROXY_LOG"

structure Launch where
  filter : IO.Ref (Option LogFilter)
  doors : IO.Ref (List (Role × Door))
  began : Nat

namespace Launch

def fresh : IO Launch := do
  return {
    filter := <- IO.mkRef none
    doors := <- IO.mkRef []
    began := <- IO.monoMsNow }

/-- The present moment, as it is written to the log. -/
def moment : IO String := do
  let now <- Std.Time.Timestamp.now
  let date := Std.Time.DateTime.ofTimestampWithZone now Std.Time.TimeZone.UTC
  return date.format "uuuu-MM-dd'T'HH:mm:ss.SSSSSS'Z'"

/-- Write a line to the log, if the filter lets it through. -/
def write (launch : Launch) (line : LogLine) : IO Unit := do
  let filter <- launch.filter.get
  if filter.any (·.shows line.target line.level) then
    IO.println (line.text (<- moment))

def door? (launch : Launch) (role : Role) : IO (Option Door) := do
  return ((<- launch.doors.get).find? (·.1 = role)).map Prod.snd

/-- Answer at the door of a role, if there is one. -/
def attendAt (launch : Launch) (role : Role) (stop : Std.CancellationToken)
    (answer : AdminRequest -> IO Response) : Async Unit := do
  match <- launch.door? role with
  | some door => background (attend door stop answer)
  | none => return ()

def awaitSignal : Async Signal := do
  let terminate <- Std.Async.Signal.Waiter.mk .sigterm false
  let interrupt <- Std.Async.Signal.Waiter.mk .sigint false
  let terminated : Async Signal := do
    let _ <- await (<- terminate.wait)
    return .terminate
  let interrupted : Async Signal := do
    let _ <- await (<- interrupt.wait)
    return .interrupt
  Async.race terminated interrupted

/-- Serve until a signal comes, and finish with those in service. -/
def serve (launch : Launch) (settings : Settings) (blocklist : Blocklist) :
    Async Signal := do
  let site <- Site.ofSettings settings blocklist launch.write
  let crew <- Crew.ofSettings settings.scheduler site
  let stop <- Std.CancellationToken.new
  launch.attendAt .metrics stop (disclose crew)
  launch.attendAt .administration stop
    (administer crew settings.admin.key launch.began)
  if let some door <- launch.door? .clients then
    background (crew.accept door stop)
  let signal <- awaitSignal
  stop.cancel
  crew.close
  return signal

def readFile (path : String) : IO (Option Bytes) := do
  try
    return some (toBytes (<- IO.FS.readBinFile path))
  catch _ => return none

def perform (launch : Launch) : (deed : Deed) -> Async deed.Reply
  | .read path => readFile path
  | .complain violation => IO.eprintln (Startup.complaint violation)
  | .openLog filter => do
      let environment <- IO.getEnv filterVariable
      launch.filter.set (some (.choose environment filter))
  | .log event => launch.write event.line
  | .listen role endpoint => do
      match <- listen endpoint with
      | .error error => return .error error
      | .ok door =>
          launch.doors.modify ((role, door) :: ·)
          return .ok ()
  | .serve settings blocklist => launch.serve settings blocklist

def carryOut (launch : Launch) {α : Type} : Running α -> Async α
  | .done result => return result
  | .act deed next => do
      let reply <- launch.perform deed
      launch.carryOut (next reply)

end Launch

end Live

end Intermediary

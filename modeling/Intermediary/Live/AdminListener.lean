import Intermediary.Admin.Document
import Intermediary.Live.Crew
import Intermediary.Metrics.Exposition

/-!
# The listener of the administration interface

Each caller asks one question and gets one answer: administrators about the
proxy, and collectors for what was measured.
-/

namespace Intermediary

namespace Live

open Std.Async

/-- How long a question may take, in milliseconds. -/
def patience : Nat := 30000

def answerCaller (socket : Socket) (answer : AdminRequest -> IO Response) :
    Async Unit := do
  let deadline := (<- IO.monoMsNow) + patience
  let inflow <- readUntil socket (Inflow.decides AdminRequest.read) deadline []
  let response <- match AdminRequest.read inflow.bytes with
    | .ok (request, _) => answer request
    | .error _ => pure (Response.bare "HTTP/1.1" .badRequest)
  let _ <- write socket response.render
  shut socket

/-- Accept one caller; none after the request to stop, or when accepting fails. -/
def acceptCaller (door : Door) (stop : Std.CancellationToken) :
    Async (Option Socket) := do
  try
    Selectable.one #[
      .case stop.selector fun _ => return none,
      .case door.acceptSelector fun socket => return some socket]
  catch _ => return none

/-- Answer callers until the request to stop. -/
partial def attend (door : Door) (stop : Std.CancellationToken)
    (answer : AdminRequest -> IO Response) : Async Unit := do
  match <- acceptCaller door stop with
  | some socket =>
      background (answerCaller socket answer)
      attend door stop answer
  | none =>
      if ! (<- stop.isCancelled) then
        sleep (.ofNat Crew.respite)
        attend door stop answer

def administer (crew : Crew) (key : String) (began : Nat) (request : AdminRequest) :
    IO Response := do
  let tracker := (<- crew.scheduler.get).tracker
  let (reply, measures) <- crew.site.cache.modifyGet fun cache =>
    let (reply, after) := Admin.answer ⟨key, cache, tracker⟩ request
    let measures :=
      if after.cache.size == cache.size then []
      else [Measure.entries after.cache.size]
    ((reply, measures), after.cache)
  crew.site.measure measures
  return reply.response (((<- IO.monoMsNow) - began) / 1000)

def disclose (crew : Crew) (_ : AdminRequest) : IO Response := do
  let report <- crew.site.report.get
  let blank := Response.bare "HTTP/1.1" .ok
  let header := (Header.empty.set "content-type" "text/plain").set "connection" "close"
  return { blank with header }.withPayload (Bytes.ofText (Metrics.exposition report))

end Live

end Intermediary

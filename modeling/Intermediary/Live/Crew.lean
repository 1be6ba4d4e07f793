import Intermediary.Live.Exchange
import Intermediary.Scheduler
import Std.Sync.CancellationToken

/-!
# The crew

Clients are accepted at a door and brought to the scheduler; each that it
starts is served, and whoever has served one goes on with the next.  After the
request to stop no client is accepted any more, and those that are left have
some time to be served.
-/

namespace Intermediary

namespace Live

open Std.Async

structure Caller where
  socket : Socket
  address : String

structure Crew where
  site : Site
  scheduler : IO.Ref (Scheduler Caller)
  /-- The free places in the queue. -/
  places : Std.Semaphore

namespace Crew

/-- A crew that serves nobody yet. -/
def ofSettings (settings : SchedulerSettings) (site : Site) : IO Crew := do
  let scheduler : Scheduler Caller := .ofSettings settings
  return {
    site
    scheduler := <- IO.mkRef scheduler
    places := <- Std.Semaphore.new scheduler.depth }

/-- Take the next caller, if there is one and somebody is free. -/
def startNext (crew : Crew) : IO (Option (ConnectionId × Caller)) := do
  let started <- crew.scheduler.modifyGet fun scheduler =>
    match scheduler.startNext with
    | some (id, caller, after, measures) => (some (id, caller, measures), after)
    | none => (none, scheduler)
  match started with
  | none => return none
  | some (id, caller, measures) =>
      crew.site.measure measures
      crew.places.release
      return some (id, caller)

/-- Be done with a caller, of whom nothing is kept. -/
def finish (crew : Crew) (id : ConnectionId) : IO Unit := do
  let measures <- crew.scheduler.modifyGet fun scheduler =>
    let (after, measures) := scheduler.finish id
    (measures, { after with finished := [] })
  crew.site.measure measures

partial def work (crew : Crew) : Async Unit := do
  match <- crew.startNext with
  | none => return ()
  | some (id, caller) =>
      serveClient crew.site caller.socket caller.address
      crew.finish id
      crew.work

/-- Bring a caller; false if nobody is taken any more. -/
def bring (crew : Crew) (socket : Socket) : Async Bool := do
  let address := (toAddress (<- socket.getPeerName)).ip
  Async.ofPurePromise crew.places.acquire
  let isQueued <- crew.scheduler.modifyGet fun scheduler =>
    match scheduler.schedule ⟨socket, address⟩ with
    | .queued after => (true, after)
    | .full | .closed => (false, scheduler)
  if isQueued then background crew.work
  return isQueued

/-- How long to wait after a failure to accept, in milliseconds. -/
def respite : Nat := 50

/-- Accept one caller; false after the request to stop. -/
def acceptOne (crew : Crew) (door : Door) (stop : Std.CancellationToken) :
    Async Bool := do
  try
    Selectable.one #[
      .case stop.selector fun _ => return false,
      .case door.acceptSelector fun socket => crew.bring socket]
  catch _ =>
    sleep (.ofNat respite)
    return ! (<- stop.isCancelled)

/-- Accept callers until the request to stop. -/
partial def accept (crew : Crew) (door : Door) (stop : Std.CancellationToken) :
    Async Unit := do
  if <- crew.acceptOne door stop then crew.accept door stop

/-- How often to look whether everybody has been served, in milliseconds. -/
def glance : Nat := 20

/-- Wait up to a moment until everybody has been served. -/
partial def drain (crew : Crew) (deadline : Nat) : Async Unit := do
  let scheduler <- crew.scheduler.get
  if ! scheduler.isDrained && (<- IO.monoMsNow) < deadline then
    sleep (.ofNat glance)
    crew.drain deadline

/-- How long callers have to be served after the request to stop, in seconds. -/
def grace : Nat := 10

/-- Accept no more callers, and serve those that are left. -/
def close (crew : Crew) : Async Unit := do
  crew.scheduler.modify Scheduler.close
  crew.drain ((<- IO.monoMsNow) + 1000 * grace)

end Crew

end Live

end Intermediary

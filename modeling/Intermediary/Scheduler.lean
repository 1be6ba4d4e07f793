import Intermediary.Settings
import Intermediary.Tracker

/-!
# The scheduler

Accepted connections wait in a queue of bounded length for one of a fixed
number of workers.  A worker serves one connection at a time and then takes the
next, however the service ended.  Once the scheduler is closed nothing more is
queued, and what is queued is still served, until the period of grace is over.
-/

namespace Intermediary

/-- Workers and what they serve: jobs of any kind. -/
structure Scheduler (α : Type) where
  workers : Nat
  depth : Nat
  isClosed : Bool
  /-- The jobs that wait, the next first. -/
  queue : List α
  /-- The jobs in service, each under the number of its connection. -/
  serving : List (ConnectionId × α)
  /-- The jobs whose service has ended, the last first. -/
  finished : List α
  tracker : Tracker

namespace Scheduler

variable {α : Type}

/-- The scheduler that settings describe: at least one worker and one place. -/
def ofSettings (settings : SchedulerSettings) : Scheduler α where
  workers := max settings.workers 1
  depth := max settings.queueDepth 1
  isClosed := false
  queue := []
  serving := []
  finished := []
  tracker := .fresh

inductive Admission (α : Type) where
  | queued (scheduler : Scheduler α)
  /-- There is no place; whoever brings the job waits. -/
  | full
  | closed

def schedule (scheduler : Scheduler α) (job : α) : Admission α :=
  if scheduler.isClosed then .closed
  else if scheduler.queue.length < scheduler.depth then
    .queued { scheduler with queue := scheduler.queue ++ [job] }
  else .full

def startNext (scheduler : Scheduler α) :
    Option (ConnectionId × α × Scheduler α × List Measure) :=
  match scheduler.queue with
  | [] => none
  | job :: rest =>
      if scheduler.serving.length < scheduler.workers then
        let (id, tracker, measures) := scheduler.tracker.track
        some (id, job,
          { scheduler with
            queue := rest
            serving := (id, job) :: scheduler.serving
            tracker },
          measures)
      else none

/-- The service of a connection ends, in whatever way. -/
def finish (scheduler : Scheduler α) (id : ConnectionId) :
    Scheduler α × List Measure :=
  match scheduler.serving.find? (·.1 == id) with
  | none => (scheduler, [])
  | some (_, job) =>
      let (tracker, measures) := scheduler.tracker.release
      ({ scheduler with
          serving := scheduler.serving.filter (·.1 != id)
          finished := job :: scheduler.finished
          tracker },
        measures)

def close (scheduler : Scheduler α) : Scheduler α :=
  { scheduler with isClosed := true }

/-- Whether every job that was taken has been served. -/
def isDrained (scheduler : Scheduler α) : Bool :=
  scheduler.queue.isEmpty && scheduler.serving.isEmpty

/-- End every service that is left, and forget the jobs that wait. -/
def abort (scheduler : Scheduler α) : Scheduler α × List Measure :=
  let cut := { scheduler with queue := [] }
  scheduler.serving.foldl
    (fun (left, measures) (id, _) =>
      let (next, more) := left.finish id
      (next, measures ++ more))
    (cut, [])

end Scheduler

end Intermediary

import Intermediary.Scheduler
import Mathlib.Data.List.Basic
import Mathlib.Data.List.Nodup

/-!
# Workers at a scheduler

The workers of a scheduler, one by one.  They share one receiver, which one of
them has while it waits for a connection; between taking a connection and
counting it a worker waits for nothing, so that both are one step.  The service
of a connection ends in its own way, with or without a crash, and in either case
the worker asks for the next one.

A shutdown waits until every worker has left, or until the time it grants is
over.  In the second case the workers are stopped, each at a moment of its own,
and what is still queued falls with the receiver.
-/

namespace Intermediary

variable {α : Type}

/-! ## What the scheduler does -/

namespace Scheduler

variable {scheduler : Scheduler α} {id : ConnectionId} {job : α}

theorem queued_of_schedule {after : Scheduler α}
    (h : scheduler.schedule job = .queued after) :
    scheduler.isClosed = false ∧ scheduler.queue.length < scheduler.depth ∧
      after = { scheduler with queue := scheduler.queue ++ [job] } := by
  unfold schedule at h
  split at h
  · cases h
  · next hopen =>
    split at h
    · next hplace =>
      cases h
      exact ⟨Bool.eq_false_iff.2 hopen, hplace, rfl⟩
    · cases h

/-- The scheduler after the first job of its queue was taken. -/
def started (scheduler : Scheduler α) (job : α) (rest : List α) : Scheduler α :=
  { scheduler with
    queue := rest
    serving := (scheduler.tracker.next, job) :: scheduler.serving
    tracker := scheduler.tracker.track.2.1 }

theorem startNext_eq {rest : List α} (h : scheduler.queue = job :: rest)
    (hfree : scheduler.serving.length < scheduler.workers) :
    scheduler.startNext =
      some (scheduler.tracker.next, job, scheduler.started job rest, [.opened]) := by
  unfold startNext
  rw [h]
  exact if_pos hfree

theorem started_of_startNext {after : Scheduler α} {measures : List Measure}
    (h : scheduler.startNext = some (id, job, after, measures)) :
    ∃ rest, scheduler.queue = job :: rest ∧ id = scheduler.tracker.next ∧
      after = scheduler.started job rest := by
  unfold startNext at h
  split at h
  · cases h
  · next first rest hqueue =>
    split at h
    · cases h
      exact ⟨rest, hqueue, rfl, rfl⟩
    · cases h

/-- Of several services with distinct numbers, the one that ends is taken out. -/
theorem finish_eq {before after : List (ConnectionId × α)}
    (h : scheduler.serving = before ++ (id, job) :: after)
    (hids : (scheduler.serving.map Prod.fst).Nodup) :
    (scheduler.finish id).1 = { scheduler with
      serving := before ++ after
      finished := job :: scheduler.finished
      tracker := scheduler.tracker.release.1 } := by
  rw [h, List.map_append, List.map_cons, List.nodup_middle, List.nodup_cons,
    List.mem_append, not_or] at hids
  have hother : ∀ entries : List (ConnectionId × α), id ∉ entries.map Prod.fst ->
      ∀ entry ∈ entries, entry.1 ≠ id := by
    rintro entries hnot entry hentry rfl
    exact hnot (List.mem_map_of_mem hentry)
  have hbefore := hother before hids.1.1
  have hafter := hother after hids.1.2
  have hfind : scheduler.serving.find? (·.1 == id) = some (id, job) := by
    rw [h, List.find?_append, List.find?_eq_none.2 (by simpa using hbefore)]
    simp
  have hleft : scheduler.serving.filter (·.1 != id) = before ++ after := by
    rw [h, List.filter_append, List.filter_cons_of_neg (by simp),
      List.filter_eq_self.2 (by simpa using hbefore),
      List.filter_eq_self.2 (by simpa using hafter)]
  unfold finish
  rw [hfind, hleft]

/-- What the end of a service does not touch. -/
theorem finish_keeps (scheduler : Scheduler α) (id : ConnectionId) :
    (scheduler.finish id).1.workers = scheduler.workers ∧
      (scheduler.finish id).1.depth = scheduler.depth ∧
      (scheduler.finish id).1.isClosed = scheduler.isClosed ∧
      (scheduler.finish id).1.queue = scheduler.queue := by
  unfold finish
  split <;> exact ⟨rfl, rfl, rfl, rfl⟩

private theorem tracker_released {tracker : Tracker} (services : List (ConnectionId × α)) :
    { tracker.release.1 with active := tracker.release.1.active - services.length } =
      { tracker with active := tracker.active - (services.length + 1) } := by
  unfold Tracker.release
  dsimp only
  rw [Nat.sub_sub, Nat.add_comm 1]

/-- Ending every service leaves none, and no job in the queue. -/
theorem abort_eq (hids : (scheduler.serving.map Prod.fst).Nodup) :
    scheduler.abort.1 = { scheduler with
      queue := []
      serving := []
      finished := (scheduler.serving.map Prod.snd).reverse ++ scheduler.finished
      tracker := { scheduler.tracker with
        active := scheduler.tracker.active - scheduler.serving.length } } := by
  have hfold : ∀ (services : List (ConnectionId × α)) (left : Scheduler α)
      (measures : List Measure), left.serving = services ->
      (services.map Prod.fst).Nodup ->
      (services.foldl
        (fun (before : Scheduler α × List Measure) (entry : ConnectionId × α) =>
          ((before.1.finish entry.1).1, before.2 ++ (before.1.finish entry.1).2))
        (left, measures)).1 = { left with
          serving := []
          finished := (services.map Prod.snd).reverse ++ left.finished
          tracker := { left.tracker with
            active := left.tracker.active - services.length } } := by
    intro services
    induction services with
    | nil =>
        rintro ⟨⟩ measures rfl _
        rfl
    | cons entry services ih =>
        intro left measures hserving hnodup
        have hfirst : left.serving = [] ++ (entry.1, entry.2) :: services := hserving
        have hfinish := finish_eq hfirst (hserving ▸ hnodup)
        rw [List.foldl_cons, ih _ _ (by rw [hfinish]; rfl) (List.nodup_cons.1 hnodup).2,
          hfinish]
        simp only [List.map_cons, List.reverse_cons, List.append_assoc,
          List.singleton_append, List.length_cons, tracker_released]
  exact hfold scheduler.serving { scheduler with queue := [] } [] rfl hids

end Scheduler

/-! ## The workers -/

inductive WorkerState (α : Type) where
  /-- It asks for the receiver. -/
  | idle
  /-- It has the receiver, and waits for a connection. -/
  | listening
  | serving (id : ConnectionId) (job : α)
  /-- It has left, or was stopped. -/
  | gone

namespace WorkerState

def isListening : WorkerState α -> Bool
  | .listening => true
  | _ => false

def held? : WorkerState α -> Option (ConnectionId × α)
  | .serving id job => some (id, job)
  | _ => none

end WorkerState

/-- How it ended with a connection that was accepted. -/
inductive Fate where
  | served
  /-- The handler of the connection panicked. -/
  | crashed
  /-- Its worker was stopped. -/
  | cut
  /-- No worker took it from the queue. -/
  | discarded
  deriving DecidableEq

/-- How far the shutdown has come.  Times are milliseconds. -/
inductive Closing where
  | unasked
  | draining (deadline : Nat)
  | returned (deadline moment : Nat)
  deriving DecidableEq

/-- A scheduler with its workers, from the first connection to the end of the shutdown. -/
structure WorkerPool (α : Type) where
  scheduler : Scheduler α
  states : List (WorkerState α)
  /-- The connections for which there was a place in the queue. -/
  accepted : List α
  ended : List (α × Fate)
  closing : Closing
  now : Nat

namespace WorkerPool

def opened (settings : SchedulerSettings) : WorkerPool α where
  scheduler := .ofSettings settings
  states := List.replicate (max settings.workers 1) .idle
  accepted := []
  ended := []
  closing := .unasked
  now := 0

variable (pool : WorkerPool α)

def hands : List (ConnectionId × α) :=
  pool.states.filterMap WorkerState.held?

def withState (worker : Nat) (state : WorkerState α) : WorkerPool α :=
  { pool with states := pool.states.set worker state }

/-- The time that the shutdown grants was over when it returned. -/
def IsLate : Prop :=
  ∃ deadline moment, pool.closing = .returned deadline moment ∧ deadline ≤ moment

def IsDeserted : Prop :=
  ∀ state ∈ pool.states, state = .gone

/-- The service of a connection ends, and its worker goes to another state. -/
def dismiss (worker : Nat) (id : ConnectionId) (job : α) (fate : Fate) (state : WorkerState α) :
    WorkerPool α :=
  { pool.withState worker state with
    scheduler := (pool.scheduler.finish id).1
    ended := pool.ended ++ [(job, fate)] }

def crash (worker : Nat) (id : ConnectionId) (job : α) : WorkerPool α :=
  pool.dismiss worker id job .crashed .idle

def discard : WorkerPool α :=
  { pool with
    scheduler := { pool.scheduler with queue := [] }
    ended := pool.ended ++ pool.scheduler.queue.map fun job => (job, .discarded) }

/-- Every worker is stopped at once, and what is queued falls. -/
def abort : WorkerPool α :=
  { pool with
    scheduler := pool.scheduler.abort.1
    states := pool.states.map fun _ => .gone
    ended := pool.ended ++ (pool.scheduler.serving.map fun entry => (entry.2, .cut)) ++
      pool.scheduler.queue.map fun job => (job, .discarded) }

/-- One step of a worker, of whoever brings connections, or of the shutdown. -/
inductive Step : WorkerPool α -> Prop where
  | bring {job after} (h : pool.scheduler.schedule job = .queued after) :
      Step { pool with scheduler := after, accepted := pool.accepted ++ [job] }
  | listen {worker} (h : pool.states[worker]? = some .idle)
      (hfree : ∀ state ∈ pool.states, state.isListening = false) :
      Step (pool.withState worker .listening)
  | take {worker id job after measures} (h : pool.states[worker]? = some .listening)
      (hstart : pool.scheduler.startNext = some (id, job, after, measures)) :
      Step { pool.withState worker (.serving id job) with scheduler := after }
  | complete {worker id job} (h : pool.states[worker]? = some (.serving id job)) :
      Step (pool.dismiss worker id job .served .idle)
  | crash {worker id job} (h : pool.states[worker]? = some (.serving id job)) :
      Step (pool.crash worker id job)
  /-- The queue is closed and empty. -/
  | leave {worker} (h : pool.states[worker]? = some .listening)
      (hclosed : pool.scheduler.isClosed = true) (hempty : pool.scheduler.queue = []) :
      Step (pool.withState worker .gone)
  | wait (milliseconds : Nat) : Step { pool with now := pool.now + milliseconds }
  | close (grace : Nat) (h : pool.closing = .unasked) :
      Step { pool with
        scheduler := pool.scheduler.close
        closing := .draining (pool.now + grace) }
  | drained {deadline} (h : pool.closing = .draining deadline)
      (hdeserted : pool.IsDeserted) :
      Step { pool with closing := .returned deadline pool.now }
  | overdue {deadline} (h : pool.closing = .draining deadline)
      (hlate : deadline ≤ pool.now) :
      Step { pool with closing := .returned deadline pool.now }
  | cut {worker id job} (h : pool.states[worker]? = some (.serving id job))
      (hlate : pool.IsLate) :
      Step (pool.dismiss worker id job .cut .gone)
  | stop {worker state} (h : pool.states[worker]? = some state) (hfree : state.held? = none)
      (hlate : pool.IsLate) :
      Step (pool.withState worker .gone)
  | discard (h : pool.IsDeserted) : Step pool.discard
  | abort (hlate : pool.IsLate) : Step pool.abort

inductive Reaches (start : WorkerPool α) : WorkerPool α -> Prop where
  | here : Reaches start start
  | snoc {pool next} (h : Reaches start pool) (hstep : pool.Step next) :
      Reaches start next

end WorkerPool

end Intermediary

import Intermediary.Proofs.Cache.Users
import Intermediary.Service

/-!
# Workers that share a cache

Any number of workers pass on requests, purge the cache and set its ceiling
while time passes.  Each takes the steps of its own task in their order;
between two of them the others take theirs.

The stripes are left out of account: a worker takes one whenever it asks for
it.  This allows more than can happen, and what holds of all of it holds of
what can.
-/

namespace Intermediary

open Program (Taken)

inductive WorkerTask where
  | forward (request : Request)
  | clear
  | setCeiling (seconds : Nat)

/-- The workers that pass on requests, purge the cache and set its ceiling, as they begin. -/
structure CacheWorkers where
  handler : Handler
  sharding : Sharding
  tasks : List WorkerTask
  ceiling : Option Nat

namespace SharedEvent

def ceiling? (event : SharedEvent) : Option Nat :=
  match event.taken.action with
  | .setCeiling seconds => some seconds
  | _ => none

/-- What a worker was given from the cache for a fingerprint. -/
def hit? (event : SharedEvent) : Option (Fingerprint × Response) :=
  match event.taken with
  | ⟨.peek print, .hit response⟩ => some (print, response)
  | _ => none

theorem taken_of_hit {event : SharedEvent} {print : Fingerprint} {response : Response}
    (h : event.hit? = some (print, response)) :
    event.taken = ⟨.peek print, .hit response⟩ := by
  unfold hit? at h
  split at h
  · next htaken =>
    cases h
    exact htaken
  · cases h

end SharedEvent

namespace CacheWorkers

/-- The cache, the time, and what is left of each task. -/
structure State where
  cache : Cache
  now : Nat
  programs : List (Sharing Unit)

variable (workers : CacheWorkers)

def steps : WorkerTask -> Sharing Unit
  | .forward request => do
      let _ <- Sharing.ofServing (Service.forward workers.handler request)
      return ()
  | .clear => Sharing.clear workers.sharding
  | .setCeiling seconds => Sharing.perform (.setCeiling seconds)

/-- The empty cache, and all tasks before their first step. -/
def opened : State :=
  ⟨⟨[], workers.ceiling⟩, 0, workers.tasks.map workers.steps⟩

/-- The steps of the workers lead to a state. -/
inductive Reaches : List SharedEvent -> State -> Prop where
  | opened : Reaches [] workers.opened
  | wait {history state} (h : Reaches history state) (time : Nat) :
      Reaches history { state with now := state.now + time }
  | take {history state worker step next} (h : Reaches history state)
      (hstep : state.programs[worker]? = some (.act step next))
      (world : (action : Action) -> action.Reply) :
      Reaches
        (history ++ [⟨worker, ⟨step, step.reply world state.cache state.now⟩, state.now⟩])
        { cache := step.leave workers.sharding state.cache state.now
          now := state.now
          programs :=
            state.programs.set worker (next (step.reply world state.cache state.now)) }

def users : CacheUsers Unit where
  sharding := workers.sharding
  programs := workers.tasks.map workers.steps
  ceiling := workers.ceiling

def ceilingAfter (history : List SharedEvent) : Option Nat :=
  (history.filterMap SharedEvent.ceiling?).getLast?.or workers.ceiling

/-- Who takes the next step, or how much time passes before it. -/
inductive Turn where
  | step (worker : Nat)
  | wait (time : Nat)

/-- What happens in a turn, if the worker has a step left. -/
def turn (world : (action : Action) -> action.Reply) (before : List SharedEvent × State) :
    Turn -> List SharedEvent × State
  | .wait time => (before.1, { before.2 with now := before.2.now + time })
  | .step worker =>
      match before.2.programs[worker]? with
      | some (.act step next) =>
          let reply := step.reply world before.2.cache before.2.now
          (before.1 ++ [⟨worker, ⟨step, reply⟩, before.2.now⟩],
            { cache := step.leave workers.sharding before.2.cache before.2.now
              now := before.2.now
              programs := before.2.programs.set worker (next reply) })
      | _ => before

def play (world : (action : Action) -> action.Reply) (turns : List Turn) :
    List SharedEvent × State :=
  turns.foldl (workers.turn world) ([], workers.opened)

theorem reaches_play (world : (action : Action) -> action.Reply) (turns : List Turn) :
    workers.Reaches (workers.play world turns).1 (workers.play world turns).2 := by
  have hturns : ∀ before, workers.Reaches before.1 before.2 ->
      workers.Reaches (turns.foldl (workers.turn world) before).1
        (turns.foldl (workers.turn world) before).2 := by
    induction turns with
    | nil => exact fun _ h => h
    | cons turn turns ih =>
        refine fun before h => ih _ ?_
        unfold CacheWorkers.turn
        split
        · exact h.wait _
        · split
          · next hstep => exact h.take hstep world
          · exact h
  exact hturns _ .opened

end CacheWorkers

namespace CacheWorkers.Reaches

variable {workers : CacheWorkers} {history before after : List SharedEvent} {state : State}
  {event : SharedEvent}

/-- The workers use the cache by the steps of their tasks. -/
theorem toCacheUsers (h : workers.Reaches history state) :
    workers.users.Reaches history ⟨state.cache, state.now, state.programs⟩ := by
  induction h with
  | opened => exact .opened
  | wait _ time ih => exact ih.wait time
  | take _ hstep world ih => exact ih.take hstep world

private theorem ofCacheUsers {reached : CacheUsers.State Unit}
    (h : workers.users.Reaches history reached) :
    workers.Reaches history ⟨reached.cache, reached.now, reached.programs⟩ := by
  induction h with
  | opened => exact .opened
  | wait _ time ih => exact ih.wait time
  | take _ hstep world ih => exact ih.take hstep world

/-- What is left of a task is what its own steps lead to. -/
theorem runs (h : workers.Reaches history state) {worker : Nat} {task : WorkerTask}
    (htask : workers.tasks[worker]? = some task) :
    ∃ rest, state.programs[worker]? = some rest ∧
      (workers.steps task).Runs (takenBy worker history) rest :=
  h.toCacheUsers.runs (by simp [users, htask])

/-- What is left belongs to a task, and is what its own steps lead to. -/
theorem exists_runs (h : workers.Reaches history state) {worker : Nat} {rest : Sharing Unit}
    (hrest : state.programs[worker]? = some rest) :
    ∃ task, workers.tasks[worker]? = some task ∧
      (workers.steps task).Runs (takenBy worker history) rest := by
  obtain ⟨_, hprogram, hruns⟩ := h.toCacheUsers.exists_runs hrest
  rw [users, List.getElem?_map, Option.map_eq_some_iff] at hprogram
  obtain ⟨task, htask, rfl⟩ := hprogram
  exact ⟨task, htask, hruns⟩

/-- Each step was taken in a state that was reached. -/
theorem at_split (h : workers.Reaches (before ++ event :: after) state) :
    ∃ middle next world, workers.Reaches before middle ∧
      middle.programs[event.worker]? = some (.act event.taken.action next) ∧
      event.taken.reply = event.taken.action.reply world middle.cache middle.now ∧
      event.time = middle.now ∧ event.time ≤ state.now := by
  obtain ⟨_, next, world, hreach, hrest⟩ := h.toCacheUsers.at_split
  exact ⟨_, next, world, ofCacheUsers hreach, hrest⟩

/-- The cache gives the lifetimes under the ceiling that was set last. -/
theorem lifetime (h : workers.Reaches history state) (response : Response) :
    response.lifetime? state.cache.ceiling =
      response.lifetime? (workers.ceilingAfter history) := by
  induction h with
  | opened => rfl
  | wait _ _ ih => exact ih
  | @take history state worker step next _ _ world ih =>
      cases step with
      | setCeiling seconds =>
          have hset : workers.ceilingAfter (history ++ [⟨worker, ⟨.setCeiling seconds,
              SharedStep.reply world state.cache state.now (.setCeiling seconds)⟩,
              state.now⟩]) = some seconds := by
            simp [ceilingAfter, SharedEvent.ceiling?]
          rw [hset, ← Cache.lifetime?_setCeiling state.cache seconds, Cache.lifetime?_eq]
          rfl
      | evict print =>
          simpa [SharedStep.leave, ceilingAfter, SharedEvent.ceiling?] using ih
      | _ => simpa [SharedStep.leave, Cache.put, ceilingAfter, SharedEvent.ceiling?] using ih

end CacheWorkers.Reaches

end Intermediary

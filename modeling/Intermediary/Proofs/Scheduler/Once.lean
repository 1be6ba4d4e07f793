import Intermediary.Proofs.Scheduler.Sound

/-!
# Every connection is served once

Whatever workers, those who bring connections and the shutdown do, and in
whatever order, a connection that was accepted waits in the queue, is in the
hands of one worker, or is finished.  Those in hands are counted, so that the
count never goes below zero, and the worker of a connection that crashes is
there for the next one.
-/

namespace Intermediary

variable {α : Type}

namespace WorkerPool

variable {settings : SchedulerSettings} {pool : WorkerPool α} {worker other : Nat}
  {id number : ConnectionId} {job : α} {old : WorkerState α}

/-! ## One place for each connection -/

inductive Place where
  | queue
  | hands (worker : Nat)
  | finished

def Stands (pool : WorkerPool α) (job : α) : Place -> Prop
  | .queue => job ∈ pool.scheduler.queue
  | .hands worker => ∃ id, pool.states[worker]? = some (.serving id job)
  | .finished => ∃ fate, (job, fate) ∈ pool.ended

theorem mem_hands_iff :
    (id, job) ∈ pool.hands ↔
      ∃ worker : Nat, pool.states[worker]? = some (WorkerState.serving id job) := by
  constructor
  · intro hmem
    obtain ⟨state, hstate, hheld⟩ := List.mem_filterMap.1 hmem
    obtain ⟨worker, hworker⟩ := List.getElem?_of_mem hstate
    cases state with
    | serving =>
        cases hheld
        exact ⟨worker, hworker⟩
    | _ => cases hheld
  · rintro ⟨worker, hstate⟩
    exact List.mem_filterMap.2 ⟨_, List.mem_of_getElem? hstate, rfl⟩

theorem stands_finished_iff :
    pool.Stands job .finished ↔ job ∈ pool.ended.map Prod.fst := by
  simp [Stands]

theorem exists_hands_iff :
    (∃ worker, pool.Stands job (.hands worker)) ↔ job ∈ pool.hands.map Prod.snd := by
  constructor
  · rintro ⟨worker, id, hstate⟩
    exact List.mem_map.2 ⟨(id, job), mem_hands_iff.2 ⟨worker, hstate⟩, rfl⟩
  · intro hmem
    obtain ⟨⟨id, _⟩, hheld, rfl⟩ := List.mem_map.1 hmem
    obtain ⟨worker, hstate⟩ := mem_hands_iff.1 hheld
    exact ⟨worker, id, hstate⟩

/-- Two workers do not have the same connection in hands. -/
theorem worker_unique (hnodup : (pool.hands.map Prod.snd).Nodup)
    (hstate : pool.states[worker]? = some (.serving id job))
    (hother : pool.states[other]? = some (.serving number job)) : worker = other := by
  by_contra hne
  have hgone : (WorkerState.gone : WorkerState α).held? = none := rfl
  have hperm := (perm_hands_of_serving hstate hgone).map Prod.snd
  have hmem : (number, job) ∈ (pool.withState worker .gone).hands := by
    refine mem_hands_iff.2 ⟨other, ?_⟩
    exact (List.getElem?_set_ne hne).trans hother
  refine (List.nodup_cons.1 (hperm.nodup_iff.1 hnodup)).1 ?_
  exact List.mem_map.2 ⟨(number, job), hmem, rfl⟩

theorem Sound.placed_hands (h : pool.Sound settings) :
    pool.accepted.Perm (pool.scheduler.queue ++
      (pool.hands.map Prod.snd ++ pool.ended.map Prod.fst)) :=
  h.placed.placed.trans
    (((h.placed.held.symm.map Prod.snd).append_right _).append_left _)

theorem Sound.exists_place_iff (h : pool.Sound settings) :
    job ∈ pool.accepted ↔ ∃ place, pool.Stands job place := by
  rw [h.placed_hands.mem_iff, List.mem_append, List.mem_append, ← exists_hands_iff,
    ← stands_finished_iff]
  constructor
  · rintro (hqueue | ⟨worker, hhands⟩ | hfinished)
    · exact ⟨.queue, hqueue⟩
    · exact ⟨.hands worker, hhands⟩
    · exact ⟨.finished, hfinished⟩
  · rintro ⟨place, hstands⟩
    cases place with
    | queue => exact .inl hstands
    | hands worker => exact .inr (.inl ⟨worker, hstands⟩)
    | finished => exact .inr (.inr hstands)

/-- A connection that was brought once is at one place. -/
theorem Sound.place_unique (h : pool.Sound settings) (hnodup : pool.accepted.Nodup)
    {place another : Place} (hstands : pool.Stands job place)
    (hanother : pool.Stands job another) : place = another := by
  have hall := h.placed_hands.nodup_iff.1 hnodup
  obtain ⟨_, hrest, hqueue⟩ := List.nodup_append'.1 hall
  obtain ⟨hhands, _, hheld⟩ := List.nodup_append'.1 hrest
  have notQueued {later : Place} (hmem : job ∈ pool.scheduler.queue)
      (hlater : pool.Stands job later) : later = .queue := by
    cases later with
    | queue => rfl
    | hands worker =>
        exact absurd (List.mem_append_left _ (exists_hands_iff.1 ⟨worker, hlater⟩))
          (hqueue hmem)
    | finished =>
        exact absurd (List.mem_append_right _ (stands_finished_iff.1 hlater)) (hqueue hmem)
  have notHeld {worker : Nat} (hhand : pool.Stands job (.hands worker)) :
      ¬ pool.Stands job .finished := fun hfinished =>
    hheld (exists_hands_iff.1 ⟨worker, hhand⟩) (stands_finished_iff.1 hfinished)
  cases place with
  | queue => exact (notQueued hstands hanother).symm
  | hands worker =>
      cases another with
      | queue => exact notQueued hanother hstands
      | hands other =>
          obtain ⟨_, hstate⟩ := hstands
          obtain ⟨_, hother⟩ := hanother
          rw [worker_unique hhands hstate hother]
      | finished => exact absurd hanother (notHeld hstands)
  | finished =>
      cases another with
      | queue => exact notQueued hanother hstands
      | hands other => exact absurd hstands (notHeld hanother)
      | finished => rfl

/-! ## Taking the next connection -/

private theorem Sound.hands_lt (h : pool.Sound settings) (hstate : pool.states[worker]? = some old)
    (hold : old.held? = none) : pool.hands.length < max settings.workers 1 := by
  rw [← h.staffed]
  exact List.length_filterMap_lt_length_iff_exists.2
    ⟨old, List.mem_of_getElem? hstate, hold⟩

/-- A worker that does not serve leaves room for one service more. -/
theorem Sound.startNext_eq {rest : List α} (h : pool.Sound settings)
    (hstate : pool.states[worker]? = some old) (hold : old.held? = none)
    (hqueue : pool.scheduler.queue = job :: rest) :
    pool.scheduler.startNext = some (pool.scheduler.tracker.next, job,
      pool.scheduler.started job rest, [.opened]) := by
  refine Scheduler.startNext_eq hqueue ?_
  rw [h.workers, ← h.placed.held.length_eq]
  exact h.hands_lt hstate hold

/-- A worker that asks for the receiver while nobody has it can serve what comes next. -/
theorem Sound.exists_serving {rest : List α} (h : pool.Sound settings)
    (hstate : pool.states[worker]? = some .idle)
    (hfree : ∀ state ∈ pool.states, state.isListening = false)
    (hqueue : pool.scheduler.queue = job :: rest) :
    ∃ later, pool.Reaches later ∧ later.scheduler.queue = rest ∧
      ∃ id, later.states[worker]? = some (.serving id job) := by
  obtain ⟨hlt, _⟩ := List.getElem?_eq_some_iff.1 hstate
  have hlisten : pool.Step (pool.withState worker .listening) := .listen hstate hfree
  have hlistening : (pool.withState worker .listening).states[worker]? = some .listening :=
    List.getElem?_set_self hlt
  have hstart := (h.step hlisten).startNext_eq hlistening rfl hqueue
  refine ⟨_, (Reaches.here.snoc hlisten).snoc (.take hlistening hstart), rfl,
    pool.scheduler.tracker.next, ?_⟩
  exact List.getElem?_set_self (List.length_set.symm ▸ hlt)

/-! ## The end of a service -/

/-- What a crash leaves as it was: all but one connection. -/
structure Spared (before after : WorkerPool α) (worker : Nat) (job : α) : Prop where
  ended : after.ended = before.ended ++ [(job, .crashed)]
  others : ∀ other, other ≠ worker -> after.states[other]? = before.states[other]?
  queue : after.scheduler.queue = before.scheduler.queue
  closed : after.scheduler.isClosed = before.scheduler.isClosed
  /-- The worker takes the next connection when its turn comes. -/
  goesOn : ∀ next rest, after.scheduler.queue = next :: rest ->
    (∀ state ∈ after.states, state.isListening = false) ->
    ∃ later, after.Reaches later ∧ later.scheduler.queue = rest ∧
      ∃ id, later.states[worker]? = some (.serving id next)

private theorem Sound.spared_crash (h : pool.Sound settings)
    (hstate : pool.states[worker]? = some (.serving id job)) :
    pool.Spared (pool.crash worker id job) worker job := by
  obtain ⟨hlt, _⟩ := List.getElem?_eq_some_iff.1 hstate
  obtain ⟨_, _, hclosed, hqueue⟩ := pool.scheduler.finish_keeps id
  have hidle : (pool.crash worker id job).states[worker]? = some .idle :=
    List.getElem?_set_self hlt
  exact {
    ended := rfl
    others := fun other hne => List.getElem?_set_ne hne.symm
    queue := hqueue
    closed := hclosed
    goesOn := fun next rest hnext hfree =>
      (h.step (.crash hstate)).exists_serving hidle hfree hnext }

/-! ## The whole of it -/

/-- Every accepted connection is served once, and all are when the shutdown is in time. -/
structure ServesOnce (settings : SchedulerSettings) (pool : WorkerPool α) : Prop where
  /-- What was accepted is queued, in hands or ended, as often as it was accepted. -/
  conserved : pool.accepted.Perm (pool.scheduler.queue ++
    (pool.hands.map Prod.snd ++ pool.ended.map Prod.fst))
  /-- A connection, brought once, is at one place: with one worker, if with any. -/
  once : pool.accepted.Nodup -> ∀ job ∈ pool.accepted, ∃! place, pool.Stands job place
  queued : pool.scheduler.queue.length ≤ max settings.queueDepth 1
  busy : pool.hands.length ≤ max settings.workers 1
  counted : pool.scheduler.tracker.active = pool.hands.length
  apart : (pool.hands.map Prod.fst).Nodup
  /-- A service that ends takes one from the count, which is above zero before. -/
  released : ∀ (worker : Nat) id job, pool.states[worker]? = some (WorkerState.serving id job) ->
    (pool.scheduler.finish id).1.tracker.active + 1 = pool.scheduler.tracker.active
  spared : ∀ (worker : Nat) id job, pool.states[worker]? = some (WorkerState.serving id job) ->
    pool.Spared (pool.crash worker id job) worker job
  /-- Until there is a shutdown all workers are there. -/
  staffed : pool.closing = .unasked ->
    pool.states.length = max settings.workers 1 ∧ ∀ state ∈ pool.states, state ≠ .gone
  inTime : ∀ deadline moment, pool.closing = .returned deadline moment ->
    moment < deadline ->
      pool.accepted.Perm (pool.ended.map Prod.fst) ∧
      (∀ entry ∈ pool.ended, entry.2 = .served ∨ entry.2 = .crashed) ∧
      pool.scheduler.tracker.active = 0

private theorem IsDeserted.hands (h : pool.IsDeserted) : pool.hands = [] := by
  refine List.filterMap_eq_nil_iff.2 fun state hstate => ?_
  rw [h state hstate]
  rfl

/-- Steps of workers, of whoever brings connections and of the shutdown, in any
order and with any number of workers and places, serve every connection once. -/
theorem servesOnce_of_reaches (h : (WorkerPool.opened settings).Reaches pool) :
    pool.ServesOnce settings := by
  have hsound := Sound.of_reaches h
  have hcounted : pool.scheduler.tracker.active = pool.hands.length :=
    hsound.orderly.counted.trans hsound.placed.held.length_eq.symm
  exact {
    conserved := hsound.placed_hands
    once := fun hnodup job hjob => by
      obtain ⟨place, hplace⟩ := hsound.exists_place_iff.1 hjob
      exact ⟨place, hplace, fun another hanother =>
        hsound.place_unique hnodup hanother hplace⟩
    queued := hsound.depth ▸ hsound.orderly.queued
    busy := hsound.staffed ▸ List.length_filterMap_le _ _
    counted := hcounted
    apart := (hsound.placed.held.map Prod.fst).nodup_iff.2 hsound.orderly.apart
    released := fun worker id job hstate =>
      hsound.orderly.active_finish (hsound.placed.mem_serving hstate)
    spared := fun worker id job hstate => hsound.spared_crash hstate
    staffed := fun hunasked => by
      refine ⟨hsound.staffed, fun state hstate hgone => ?_⟩
      subst hgone
      exact hsound.attended.closed.1 (hsound.attended.left hstate).1 hunasked
    inTime := fun deadline moment hreturned hearly => by
      have hdeserted : pool.IsDeserted :=
        (hsound.attended.returned deadline moment hreturned).resolve_right
          (Nat.not_le.2 hearly)
      have hnotLate : ¬ pool.IsLate := by
        rintro ⟨_, _, hlate, hle⟩
        rw [hreturned] at hlate
        cases hlate
        exact Nat.not_le.2 hearly hle
      have hempty : pool.scheduler.queue = [] :=
        (hsound.attended.left (hsound.gone_of_isDeserted hdeserted)).2.resolve_right hnotLate
      have hconserved := hsound.placed_hands
      rw [hempty, hdeserted.hands] at hconserved
      rw [hcounted, hdeserted.hands]
      exact ⟨hconserved, hsound.attended.kept_of_not_isLate hnotLate, rfl⟩ }

/-- One worker, whose first connection crashes, serves the second; the shutdown is in
time, and both have been served. -/
theorem servesOnce_of_crashed :
    ∃ pool : WorkerPool Nat, (WorkerPool.opened ⟨1, 1⟩).Reaches pool ∧
      pool.closing = .returned 1000 0 ∧ pool.accepted = [5, 6] ∧
      pool.ended = [(5, .crashed), (6, .served)] ∧ pool.ServesOnce ⟨1, 1⟩ := by
  have start : (WorkerPool.opened ⟨1, 1⟩ : WorkerPool Nat).Reaches
      (WorkerPool.opened ⟨1, 1⟩) := .here
  have first := start.snoc (@Step.bring _ _ 5 _ rfl)
    |>.snoc (@Step.listen _ _ 0 rfl (by decide))
  have taken := first.snoc (@Step.take _ _ 0 _ _ _ _ rfl rfl) |>.snoc (@Step.bring _ _ 6 _ rfl)
  have crashed := taken.snoc (@Step.crash _ _ 0 _ _ rfl)
  have second := crashed.snoc (@Step.listen _ _ 0 rfl (by decide))
    |>.snoc (@Step.take _ _ 0 _ _ _ _ rfl rfl) |>.snoc (@Step.complete _ _ 0 _ _ rfl)
  have closed := second.snoc (.close 1000 rfl) |>.snoc (@Step.listen _ _ 0 rfl (by decide))
    |>.snoc (@Step.leave _ _ 0 rfl rfl rfl)
  have returned := closed.snoc (.drained rfl (List.forall_mem_singleton.2 rfl))
  exact ⟨_, returned, rfl, rfl, rfl, servesOnce_of_reaches returned⟩

end WorkerPool

end Intermediary

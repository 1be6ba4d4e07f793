import Intermediary.Proofs.Scheduler.Pool

/-!
# What a scheduler and its workers keep

The scheduler counts what is in the hands of its workers, under numbers that
differ.  What was accepted is queued, in hands or ended.  Nobody leaves and
nothing is lost before the queue is closed and empty, or the time that the
shutdown grants is over.  Every step of the workers and of the shutdown
preserves this.
-/

namespace Intermediary

variable {α : Type}

/-! ## The scheduler keeps its count -/

namespace Scheduler

/-- The services are counted, under numbers that differ. -/
structure Orderly (scheduler : Scheduler α) : Prop where
  counted : scheduler.tracker.active = scheduler.serving.length
  numbered : ∀ entry ∈ scheduler.serving,
    entry.1.number < scheduler.tracker.next.number
  apart : (scheduler.serving.map Prod.fst).Nodup
  queued : scheduler.queue.length ≤ scheduler.depth

namespace Orderly

variable {scheduler : Scheduler α} {id : ConnectionId} {job : α}

private theorem ofSettings (settings : SchedulerSettings) :
    (Scheduler.ofSettings settings : Scheduler α).Orderly where
  counted := rfl
  numbered := nofun
  apart := List.nodup_nil
  queued := Nat.zero_le _

private theorem schedule (h : scheduler.Orderly)
    (hplace : scheduler.queue.length < scheduler.depth) :
    ({ scheduler with queue := scheduler.queue ++ [job] } : Scheduler α).Orderly where
  counted := h.counted
  numbered := h.numbered
  apart := h.apart
  queued := by
    rw [List.length_append, List.length_singleton]
    exact hplace

private theorem started {rest : List α} (h : scheduler.Orderly)
    (hqueue : scheduler.queue = job :: rest) :
    (scheduler.started job rest).Orderly where
  counted := congrArg (· + 1) h.counted
  numbered := by
    intro entry hentry
    obtain rfl | hserving := List.mem_cons.1 hentry
    · exact Nat.lt_succ_self _
    · exact Nat.lt_succ_of_lt (h.numbered entry hserving)
  apart := by
    -- the number that is given out is above all that are in use
    refine List.nodup_cons.2 ⟨fun hmem => ?_, h.apart⟩
    obtain ⟨entry, hentry, hsame⟩ := List.mem_map.1 hmem
    have hlt := h.numbered entry hentry
    rw [hsame] at hlt
    exact Nat.lt_irrefl _ hlt
  queued := by
    have hle := h.queued
    rw [hqueue] at hle
    exact Nat.le_of_succ_le hle

/-- A service that ends is taken out, and counted no more. -/
theorem exists_finish (h : scheduler.Orderly) (hmem : (id, job) ∈ scheduler.serving) :
    ∃ before after, scheduler.serving = before ++ (id, job) :: after ∧
      (scheduler.finish id).1 = { scheduler with
        serving := before ++ after
        finished := job :: scheduler.finished
        tracker := scheduler.tracker.release.1 } := by
  obtain ⟨before, after, hserving⟩ := List.append_of_mem hmem
  exact ⟨before, after, hserving, finish_eq hserving h.apart⟩

private theorem finish (h : scheduler.Orderly) (hmem : (id, job) ∈ scheduler.serving) :
    (scheduler.finish id).1.Orderly := by
  obtain ⟨before, after, hserving, hfinish⟩ := h.exists_finish hmem
  have hperm : scheduler.serving.Perm ((id, job) :: (before ++ after)) :=
    hserving ▸ List.perm_middle
  rw [hfinish]
  exact {
    counted := by
      have hcounted := h.counted
      rw [hperm.length_eq] at hcounted
      exact congrArg (· - 1) hcounted
    numbered := fun entry hentry =>
      h.numbered entry (hperm.mem_iff.2 (List.mem_cons_of_mem _ hentry))
    apart := (List.nodup_cons.1 ((hperm.map Prod.fst).nodup_iff.1 h.apart)).2
    queued := h.queued }

/-- The count is above zero before a service ends. -/
theorem active_finish (h : scheduler.Orderly) (hmem : (id, job) ∈ scheduler.serving) :
    (scheduler.finish id).1.tracker.active + 1 = scheduler.tracker.active := by
  obtain ⟨before, after, hserving, hfinish⟩ := h.exists_finish hmem
  have hcounted := h.counted
  rw [hserving, List.length_append, List.length_cons] at hcounted
  rw [hfinish]
  exact Nat.sub_add_cancel (by omega)

private theorem abort (h : scheduler.Orderly) : scheduler.abort.1.Orderly := by
  rw [abort_eq h.apart]
  exact {
    counted := by simp [h.counted]
    numbered := nofun
    apart := List.nodup_nil
    queued := Nat.zero_le _ }

end Orderly

end Scheduler

/-! ## Where a connection is -/

namespace WorkerPool

variable {settings : SchedulerSettings} {pool next : WorkerPool α} {worker : Nat}
  {id : ConnectionId} {job : α} {old new : WorkerState α}

theorem filterMap_held?_cons (state : WorkerState α) (states : List (WorkerState α)) :
    (state :: states).filterMap WorkerState.held? =
      state.held?.toList ++ states.filterMap WorkerState.held? := by
  cases hheld : state.held? <;> simp [hheld]

/-- Where one worker changes its state, the hands of the others stay as they are. -/
theorem hands_withState (h : pool.states[worker]? = some old) :
    ∃ before after, pool.hands = before ++ (old.held?.toList ++ after) ∧
      ∀ state : WorkerState α,
        (pool.withState worker state).hands = before ++ (state.held?.toList ++ after) := by
  obtain ⟨hlt, rfl⟩ := List.getElem?_eq_some_iff.1 h
  refine ⟨(pool.states.take worker).filterMap WorkerState.held?,
    (pool.states.drop (worker + 1)).filterMap WorkerState.held?, ?_, fun state => ?_⟩
  · rw [← filterMap_held?_cons, ← List.filterMap_append, List.getElem_cons_drop,
      List.take_append_drop]
    rfl
  · rw [← filterMap_held?_cons, ← List.filterMap_append]
    unfold hands withState
    rw [List.set_eq_take_append_cons_drop, if_pos hlt]

private theorem hands_withState_of_none (h : pool.states[worker]? = some old)
    (hold : old.held? = none) (hnew : new.held? = none) :
    (pool.withState worker new).hands = pool.hands := by
  obtain ⟨before, after, hhands, hwith⟩ := hands_withState h
  rw [hwith, hhands, hold, hnew]

private theorem hands_withState_serving (h : pool.states[worker]? = some old)
    (hold : old.held? = none) :
    (pool.withState worker (.serving id job)).hands.Perm ((id, job) :: pool.hands) := by
  obtain ⟨before, after, hhands, hwith⟩ := hands_withState h
  rw [hwith, hhands, hold]
  exact List.perm_middle

theorem perm_hands_of_serving (h : pool.states[worker]? = some (.serving id job))
    (hnew : new.held? = none) :
    pool.hands.Perm ((id, job) :: (pool.withState worker new).hands) := by
  obtain ⟨before, after, hhands, hwith⟩ := hands_withState h
  rw [hwith, hhands, hnew]
  exact List.perm_middle

/-- Those who serve, and only they, have what the scheduler has in service; and no
connection is lost. -/
structure Placed (pool : WorkerPool α) : Prop where
  held : pool.hands.Perm pool.scheduler.serving
  placed : pool.accepted.Perm (pool.scheduler.queue ++
    (pool.scheduler.serving.map Prod.snd ++ pool.ended.map Prod.fst))
  finished : pool.scheduler.finished.reverse =
    (pool.ended.filter (·.2 ≠ .discarded)).map Prod.fst

namespace Placed

theorem mem_serving (h : pool.Placed)
    (hstate : pool.states[worker]? = some (.serving id job)) :
    (id, job) ∈ pool.scheduler.serving := by
  have hmem : (id, job) ∈ pool.hands :=
    List.mem_filterMap.2 ⟨_, List.mem_of_getElem? hstate, rfl⟩
  exact h.held.mem_iff.1 hmem

private theorem withState (h : pool.Placed) (hstate : pool.states[worker]? = some old)
    (hold : old.held? = none) (hnew : new.held? = none) :
    (pool.withState worker new).Placed where
  held := (hands_withState_of_none hstate hold hnew).symm ▸ h.held
  placed := h.placed
  finished := h.finished

private theorem bring (h : pool.Placed) :
    Placed { pool with
      scheduler := { pool.scheduler with queue := pool.scheduler.queue ++ [job] }
      accepted := pool.accepted ++ [job] } where
  held := h.held
  placed := by
    have hmoved := (List.perm_append_singleton job pool.accepted).trans
      ((h.placed.cons job).trans List.perm_middle.symm)
    simpa using hmoved
  finished := h.finished

private theorem take {rest : List α} (h : pool.Placed)
    (hstate : pool.states[worker]? = some .listening)
    (hqueue : pool.scheduler.queue = job :: rest) :
    Placed { pool.withState worker (.serving pool.scheduler.tracker.next job) with
      scheduler := pool.scheduler.started job rest } where
  held := (hands_withState_serving hstate rfl).trans (h.held.cons _)
  placed := by
    have hplaced := h.placed
    rw [hqueue] at hplaced
    exact hplaced.trans List.perm_middle.symm
  finished := h.finished

/-- The service of a connection ends, and no other is touched. -/
theorem dismiss {fate : Fate} (h : pool.Placed) (horderly : pool.scheduler.Orderly)
    (hstate : pool.states[worker]? = some (.serving id job)) (hnew : new.held? = none)
    (hfate : fate ≠ .discarded) :
    (pool.dismiss worker id job fate new).Placed := by
  obtain ⟨before, after, hserving, hfinish⟩ := horderly.exists_finish (h.mem_serving hstate)
  have hleft : (pool.withState worker new).hands.Perm (before ++ after) := by
    have hhands := (perm_hands_of_serving hstate hnew).symm.trans h.held
    rw [hserving] at hhands
    exact (hhands.trans List.perm_middle).cons_inv
  unfold WorkerPool.dismiss
  rw [hfinish]
  exact {
    held := hleft
    placed := by
      have hplaced := h.placed
      rw [hserving, List.map_append, List.map_cons] at hplaced
      refine hplaced.trans (List.Perm.append_left _ ?_)
      have hlast := List.perm_middle.trans (List.perm_append_singleton job
        (before.map Prod.snd ++ (after.map Prod.snd ++ pool.ended.map Prod.fst))).symm
      simpa using hlast
    finished := by
      simp only [List.reverse_cons, h.finished, List.filter_append, List.map_append]
      simp [hfate] }

private theorem discard (h : pool.Placed) : pool.discard.Placed where
  held := h.held
  placed := by
    refine h.placed.trans (List.perm_append_comm.trans (.of_eq ?_))
    simp [WorkerPool.discard, Function.comp_def]
  finished := by
    simp [WorkerPool.discard, h.finished, List.filter_map, Function.comp_def]

private theorem abort (h : pool.Placed) (horderly : pool.scheduler.Orderly) :
    pool.abort.Placed := by
  unfold WorkerPool.abort
  rw [Scheduler.abort_eq horderly.apart]
  exact {
    held := by simp [hands, WorkerState.held?]
    placed := by
      refine h.placed.trans (List.perm_append_comm.trans ?_)
      refine (List.perm_append_comm.append_right _).trans (.of_eq ?_)
      simp [Function.comp_def]
    finished := by simp [h.finished, List.filter_map, Function.comp_def] }

end Placed

/-! ## Who has left -/

/-- Nobody leaves and nothing is lost before the queue is closed and the time that
the shutdown grants is over. -/
structure Attended (pool : WorkerPool α) : Prop where
  closed : pool.scheduler.isClosed = true ↔ pool.closing ≠ .unasked
  left : .gone ∈ pool.states ->
    pool.scheduler.isClosed = true ∧ (pool.scheduler.queue = [] ∨ pool.IsLate)
  kept : ∀ entry ∈ pool.ended, entry.2 = .served ∨ entry.2 = .crashed ∨ pool.IsLate
  returned : ∀ deadline moment, pool.closing = .returned deadline moment ->
    pool.IsDeserted ∨ deadline ≤ moment

namespace Attended

private theorem isClosed_of_isLate (h : pool.Attended) (hlate : pool.IsLate) :
    pool.scheduler.isClosed = true := by
  obtain ⟨deadline, moment, hclosing, _⟩ := hlate
  refine h.closed.2 ?_
  rw [hclosing]
  exact nofun

/-- A step that is not one of the shutdown keeps what it respects. -/
private theorem of_step (h : pool.Attended) (hclosing : next.closing = pool.closing)
    (hclosed : next.scheduler.isClosed = pool.scheduler.isClosed)
    (hqueue : pool.scheduler.isClosed = true -> pool.scheduler.queue = [] ->
      next.scheduler.queue = [])
    (hleft : .gone ∈ next.states -> .gone ∈ pool.states ∨
      pool.scheduler.isClosed = true ∧ (next.scheduler.queue = [] ∨ pool.IsLate))
    (hended : ∀ entry ∈ next.ended, entry ∈ pool.ended ∨
      entry.2 = .served ∨ entry.2 = .crashed ∨ pool.IsLate)
    (hdeserted : pool.IsDeserted -> next.IsDeserted) : next.Attended := by
  have hlate : next.IsLate ↔ pool.IsLate := by
    unfold IsLate
    rw [hclosing]
  refine ⟨?_, fun hgone => ?_, fun entry hentry => ?_, fun deadline moment hreturned => ?_⟩
  · rw [hclosed, hclosing]
    exact h.closed
  · rw [hclosed, hlate]
    obtain hbefore | hnow := hleft hgone
    · obtain ⟨hisClosed, hempty⟩ := h.left hbefore
      exact ⟨hisClosed, hempty.imp_left (hqueue hisClosed)⟩
    · exact hnow
  · rw [hlate]
    obtain hbefore | hnow := hended entry hentry
    · exact h.kept entry hbefore
    · exact hnow
  · exact (h.returned deadline moment (hclosing ▸ hreturned)).imp_left hdeserted

private theorem not_isDeserted (hstate : pool.states[worker]? = some old) (hold : old ≠ .gone) :
    ¬ pool.IsDeserted :=
  fun hdeserted => hold (hdeserted old (List.mem_of_getElem? hstate))

private theorem withState (h : pool.Attended) (hstate : pool.states[worker]? = some old)
    (hold : old ≠ .gone) (hnew : new ≠ .gone) : (pool.withState worker new).Attended := by
  refine h.of_step rfl rfl (fun _ hempty => hempty) (fun hgone => .inl ?_)
    (fun _ hentry => .inl hentry) (fun hdeserted => absurd hdeserted (not_isDeserted hstate hold))
  obtain hmem | hsame := List.mem_or_eq_of_mem_set hgone
  · exact hmem
  · exact absurd hsame.symm hnew

/-- A worker leaves when nothing is queued any more, or when it is stopped. -/
private theorem withState_gone (h : pool.Attended) (hclosed : pool.scheduler.isClosed = true)
    (hwhy : pool.scheduler.queue = [] ∨ pool.IsLate) :
    (pool.withState worker .gone).Attended := by
  refine h.of_step rfl rfl (fun _ hempty => hempty) (fun _ => .inr ⟨hclosed, hwhy⟩)
    (fun _ hentry => .inl hentry) (fun hdeserted state hmem => ?_)
  obtain hbefore | hsame := List.mem_or_eq_of_mem_set hmem
  · exact hdeserted state hbefore
  · exact hsame

private theorem finish (h : pool.Attended) (id : ConnectionId) (entry : α × Fate)
    (hfate : entry.2 = .served ∨ entry.2 = .crashed ∨ pool.IsLate) :
    Attended { pool with
      scheduler := (pool.scheduler.finish id).1
      ended := pool.ended ++ [entry] } := by
  obtain ⟨_, _, hclosed, hqueue⟩ := pool.scheduler.finish_keeps id
  refine h.of_step rfl hclosed (fun _ hempty => hqueue.trans hempty) .inl
    (fun other hother => ?_) (fun hdeserted => hdeserted)
  obtain hbefore | hlast := List.mem_append.1 hother
  · exact .inl hbefore
  · rw [List.mem_singleton.1 hlast]
    exact .inr hfate

private theorem not_isLate_of_closing {closing : Closing} (h : pool.closing = closing)
    (hreturned : ∀ deadline moment, closing ≠ .returned deadline moment) :
    ¬ pool.IsLate := by
  rintro ⟨deadline, moment, hlate, _⟩
  exact hreturned deadline moment (h.symm.trans hlate)

theorem kept_of_not_isLate (h : pool.Attended) (hnotLate : ¬ pool.IsLate) :
    ∀ entry ∈ pool.ended, entry.2 = .served ∨ entry.2 = .crashed := by
  intro entry hentry
  obtain hserved | hcrashed | hlate := h.kept entry hentry
  · exact .inl hserved
  · exact .inr hcrashed
  · exact absurd hlate hnotLate

private theorem close (h : pool.Attended) (hclosing : pool.closing = .unasked) {grace : Nat} :
    Attended { pool with
      scheduler := pool.scheduler.close
      closing := .draining (pool.now + grace) } := by
  have hnotLate := not_isLate_of_closing hclosing nofun
  have hopen : ¬ pool.scheduler.isClosed = true := by
    rw [h.closed, hclosing]
    exact not_not.2 rfl
  exact {
    closed := ⟨fun _ => nofun, fun _ => rfl⟩
    left := fun hgone => absurd (h.left hgone).1 hopen
    kept := fun entry hentry => (h.kept_of_not_isLate hnotLate entry hentry).imp_right .inl
    returned := nofun }

/-- The shutdown returns because nobody is left, or because its time is over. -/
theorem conclude {deadline : Nat} (h : pool.Attended)
    (hclosing : pool.closing = .draining deadline)
    (hwhy : pool.IsDeserted ∨ deadline ≤ pool.now) :
    Attended { pool with closing := .returned deadline pool.now } := by
  have hnotLate := not_isLate_of_closing hclosing nofun
  have hclosed : pool.scheduler.isClosed = true := by
    rw [h.closed, hclosing]
    exact nofun
  exact {
    closed := ⟨fun _ => nofun, fun _ => hclosed⟩
    left := fun hgone =>
      ⟨hclosed, (h.left hgone).2.imp_right fun hlate => absurd hlate hnotLate⟩
    kept := fun entry hentry => (h.kept_of_not_isLate hnotLate entry hentry).imp_right .inl
    returned := by
      rintro _ _ ⟨⟩
      exact hwhy }

private theorem discard (h : pool.Attended) (hgone : .gone ∈ pool.states) :
    pool.discard.Attended := by
  obtain ⟨hclosed, hwhy⟩ := h.left hgone
  refine h.of_step rfl rfl (fun _ _ => rfl) .inl (fun entry hentry => ?_)
    (fun hdeserted => hdeserted)
  obtain hbefore | hqueued := List.mem_append.1 hentry
  · exact .inl hbefore
  · obtain ⟨job, hjob, rfl⟩ := List.mem_map.1 hqueued
    obtain hempty | hlate := hwhy
    · rw [hempty] at hjob
      cases hjob
    · exact .inr (.inr (.inr hlate))

private theorem abort (h : pool.Attended) (horderly : pool.scheduler.Orderly)
    (hlate : pool.IsLate) : pool.abort.Attended := by
  have habort := Scheduler.abort_eq horderly.apart
  have hclosed : pool.scheduler.abort.1.isClosed = pool.scheduler.isClosed := by
    rw [habort]
  have hempty : pool.scheduler.abort.1.queue = [] := by
    rw [habort]
  refine h.of_step rfl hclosed (fun _ _ => hempty)
    (fun _ => .inr ⟨h.isClosed_of_isLate hlate, .inr hlate⟩)
    (fun _ _ => .inr (.inr (.inr hlate))) (fun _ state hmem => ?_)
  obtain ⟨_, _, rfl⟩ := List.mem_map.1 hmem
  rfl

end Attended

/-! ## The invariant -/

structure Sound (settings : SchedulerSettings) (pool : WorkerPool α) : Prop where
  staffed : pool.states.length = max settings.workers 1
  workers : pool.scheduler.workers = max settings.workers 1
  depth : pool.scheduler.depth = max settings.queueDepth 1
  orderly : pool.scheduler.Orderly
  placed : pool.Placed
  attended : pool.Attended

namespace Sound

private theorem opened (settings : SchedulerSettings) :
    (WorkerPool.opened settings : WorkerPool α).Sound settings where
  staffed := List.length_replicate
  workers := rfl
  depth := rfl
  orderly := .ofSettings settings
  placed := {
    held := by simp [WorkerPool.opened, hands, WorkerState.held?, Scheduler.ofSettings]
    placed := .nil
    finished := rfl }
  attended := {
    closed := by simp [WorkerPool.opened, Scheduler.ofSettings]
    left := fun hgone => absurd (List.eq_of_mem_replicate hgone) nofun
    kept := nofun
    returned := nofun }

theorem length_withState (h : pool.Sound settings) :
    (pool.withState worker new).states.length = max settings.workers 1 :=
  List.length_set.trans h.staffed

private theorem withState (h : pool.Sound settings) (hstate : pool.states[worker]? = some old)
    (hold : old.held? = none) (hnew : new.held? = none)
    (hattended : (pool.withState worker new).Attended) :
    (pool.withState worker new).Sound settings where
  staffed := h.length_withState
  workers := h.workers
  depth := h.depth
  orderly := h.orderly
  placed := h.placed.withState hstate hold hnew
  attended := hattended

/-- A service ends: by itself, by a crash, or because its worker is stopped. -/
theorem dismiss {fate : Fate} (h : pool.Sound settings)
    (hstate : pool.states[worker]? = some (.serving id job)) (hnew : new.held? = none)
    (hattended : (pool.withState worker new).Attended)
    (hfate : fate = .served ∨ fate = .crashed ∨ fate = .cut ∧ pool.IsLate) :
    (pool.dismiss worker id job fate new).Sound settings := by
  have hmem := h.placed.mem_serving hstate
  have hkept : fate ≠ .discarded := by
    rintro rfl
    simp at hfate
  obtain ⟨hworkers, hdepth, _⟩ := pool.scheduler.finish_keeps id
  exact {
    staffed := h.length_withState
    workers := hworkers.trans h.workers
    depth := hdepth.trans h.depth
    orderly := h.orderly.finish hmem
    placed := h.placed.dismiss h.orderly hstate hnew hkept
    attended := hattended.finish id (job, fate) (hfate.imp_right (.imp_right And.right)) }

theorem gone_of_isDeserted (h : pool.Sound settings) (hdeserted : pool.IsDeserted) :
    .gone ∈ pool.states := by
  have hpos : 0 < pool.states.length := by
    rw [h.staffed]
    exact Nat.lt_of_lt_of_le Nat.one_pos (Nat.le_max_right _ _)
  have hmem := List.getElem_mem hpos
  rwa [hdeserted _ hmem] at hmem

theorem step (h : pool.Sound settings) (hstep : pool.Step next) :
    next.Sound settings := by
  cases hstep with
  | bring hqueued =>
      obtain ⟨hopen, hplace, rfl⟩ := Scheduler.queued_of_schedule hqueued
      refine ⟨h.staffed, h.workers, h.depth, h.orderly.schedule hplace, h.placed.bring, ?_⟩
      refine h.attended.of_step rfl rfl (fun hclosed => ?_) .inl (fun _ => .inl)
        (fun hdeserted => hdeserted)
      rw [hopen] at hclosed
      cases hclosed
  | listen hstate _ =>
      exact h.withState hstate rfl rfl (h.attended.withState hstate nofun nofun)
  | @take worker _ job _ _ hstate hstart =>
      obtain ⟨rest, hqueue, rfl, rfl⟩ := Scheduler.started_of_startNext hstart
      refine ⟨h.length_withState, h.workers, h.depth, h.orderly.started hqueue,
        h.placed.take hstate hqueue, ?_⟩
      have hserving : (pool.withState worker
          (.serving pool.scheduler.tracker.next job)).Attended :=
        h.attended.withState hstate nofun nofun
      refine hserving.of_step rfl rfl (fun _ hempty => ?_) .inl (fun _ => .inl)
        (fun hdeserted => hdeserted)
      rw [WorkerPool.withState, hqueue] at hempty
      cases hempty
  | complete hstate =>
      exact h.dismiss hstate rfl (h.attended.withState hstate nofun nofun) (.inl rfl)
  | crash hstate =>
      exact h.dismiss hstate rfl (h.attended.withState hstate nofun nofun) (.inr (.inl rfl))
  | leave hstate hclosed hempty =>
      exact h.withState hstate rfl rfl (h.attended.withState_gone hclosed (.inl hempty))
  | wait milliseconds =>
      refine ⟨h.staffed, h.workers, h.depth, h.orderly, ⟨h.placed.held, h.placed.placed,
        h.placed.finished⟩, ?_⟩
      exact h.attended.of_step rfl rfl (fun _ hempty => hempty) .inl (fun _ => .inl)
        (fun hdeserted => hdeserted)
  | close grace hclosing =>
      exact ⟨h.staffed, h.workers, h.depth,
        ⟨h.orderly.counted, h.orderly.numbered, h.orderly.apart, h.orderly.queued⟩,
        ⟨h.placed.held, h.placed.placed, h.placed.finished⟩, h.attended.close hclosing⟩
  | drained hclosing hdeserted =>
      exact ⟨h.staffed, h.workers, h.depth, h.orderly,
        ⟨h.placed.held, h.placed.placed, h.placed.finished⟩,
        h.attended.conclude hclosing (.inl hdeserted)⟩
  | overdue hclosing hlate =>
      exact ⟨h.staffed, h.workers, h.depth, h.orderly,
        ⟨h.placed.held, h.placed.placed, h.placed.finished⟩,
        h.attended.conclude hclosing (.inr hlate)⟩
  | cut hstate hlate =>
      have hclosed := h.attended.isClosed_of_isLate hlate
      exact h.dismiss hstate rfl (h.attended.withState_gone hclosed (.inr hlate))
        (.inr (.inr ⟨rfl, hlate⟩))
  | stop hstate hfree hlate =>
      have hclosed := h.attended.isClosed_of_isLate hlate
      exact h.withState hstate hfree rfl (h.attended.withState_gone hclosed (.inr hlate))
  | discard hdeserted =>
      exact ⟨h.staffed, h.workers, h.depth,
        ⟨h.orderly.counted, h.orderly.numbered, h.orderly.apart, Nat.zero_le _⟩,
        h.placed.discard, h.attended.discard (h.gone_of_isDeserted hdeserted)⟩
  | abort hlate =>
      have habort := Scheduler.abort_eq h.orderly.apart
      have hworkers : pool.scheduler.abort.1.workers = pool.scheduler.workers := by
        rw [habort]
      have hdepth : pool.scheduler.abort.1.depth = pool.scheduler.depth := by
        rw [habort]
      exact ⟨(List.length_map _).trans h.staffed, hworkers.trans h.workers,
        hdepth.trans h.depth, h.orderly.abort, h.placed.abort h.orderly,
        h.attended.abort h.orderly hlate⟩

theorem of_reaches (h : (WorkerPool.opened settings).Reaches pool) : pool.Sound settings := by
  induction h with
  | here => exact .opened settings
  | snoc _ hstep ih => exact ih.step hstep

end Sound

end WorkerPool

end Intermediary

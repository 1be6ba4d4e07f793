import Intermediary.Proofs.Service.Provenance
import Intermediary.Proofs.Service.Striped
import Mathlib.Logic.Relation

/-!
# The discipline of stripes

Whatever the workers do, and wherever one of them leaves, a stripe has one holder
at most, and a worker holds a stripe in its sections only.  Who stands in line has
empty hands, so that all who wait are served in the order of the lines.

What a worker holds is what its own steps have left it with.  That this is also
what the stripes say is kept by every step of all.
-/

namespace Intermediary

open Program (Taken)

namespace CacheWorkers

variable {workers : CacheWorkers} {history : List SharedEvent} {scene : Scene} {state : State}
  {worker other stripe : Nat} {step : SharedStep}

/-! ## What is known of a worker by its task -/

/-- What a worker is about to do, it may do with what its steps have left it with. -/
theorem Reaches.mayHold {next : step.Reply -> Sharing Unit} (h : workers.Reaches history state)
    (hstep : state.programs[worker]? = some (.act step next)) :
    ∃ task, workers.tasks[worker]? = some task ∧
      workers.MayHold (takenBy worker history) step task := by
  obtain ⟨task, htask, hruns⟩ := h.exists_runs hstep
  have hguards := (workers.holds_steps task).sound hruns
  exact ⟨task, htask, hguards.1⟩

/-- A worker that is done has empty hands. -/
theorem Reaches.heldBy_done (h : workers.Reaches history state)
    (hdone : state.programs[worker]? = some (.done ())) :
    heldBy (takenBy worker history) = [] := by
  obtain ⟨task, _, hruns⟩ := h.exists_runs hdone
  exact (workers.holds_steps task).sound hruns

private theorem MayHold.of_lock {past : List (Taken SharedStep.Reply)} {task : WorkerTask}
    (h : workers.MayHold past step task) (hlock : step.lock?.isSome = true) :
    heldBy past = [] := by
  unfold SharedStep.lock? at hlock
  split at hlock
  · cases task with
    | forward request => exact h.2
    | clear => exact h.1
    | setCeiling seconds => exact h.1
  · cases hlock

private theorem MayHold.of_unlock {past : List (Taken SharedStep.Reply)} {task : WorkerTask}
    (h : workers.MayHold past step task) (hunlock : step.unlock? = some stripe) :
    heldBy past = [stripe] := by
  unfold SharedStep.unlock? at hunlock
  split at hunlock
  · cases hunlock
    cases task with
    | forward request =>
        obtain ⟨rfl, hheld⟩ := h
        exact hheld
    | clear => cases h.2.2.1
    | setCeiling seconds => cases h.2.2.1
  · cases hunlock

/-! ## What every step keeps -/

/-- What the stripes say is what the workers hold and wait for. -/
structure Orderly (history : List SharedEvent) (scene : Scene) : Prop where
  nodup : ∀ stripe, (scene.stripes stripe).succession.Nodup
  placed : ∀ stripe, ∀ worker ∈ (scene.stripes stripe).succession,
    stripe ∈ scene.held worker ∨ scene.Faces worker (.outside (.lock stripe))
  granted : ∀ worker, ∀ stripe ∈ scene.held worker,
    (scene.stripes stripe).holder = some worker
  recorded : ∀ worker, worker ∉ scene.gone ->
    scene.held worker = heldBy (takenBy worker history)
  parted : ∀ worker ∈ scene.gone, scene.held worker = []
  single : ∀ worker, (scene.held worker).length ≤ 1

private theorem orderly_scene (workers : CacheWorkers) : Orderly [] workers.scene where
  nodup _ := List.nodup_nil
  placed _ := List.forall_mem_nil _
  granted _ := List.forall_mem_nil _
  recorded _ _ := rfl
  parted := List.forall_mem_nil _
  single _ := Nat.zero_le 1

private theorem Orderly.ask (h : Orderly history scene)
    (hfaces : scene.Faces worker (.outside (.lock stripe)))
    (hnew : worker ∉ (scene.stripes stripe).succession) :
    Orderly history (scene.ask worker stripe) where
  nodup s := by
    by_cases hs : s = stripe
    · subst hs
      simpa [Scene.ask] using Stripe.nodup_acquire (h.nodup s) hnew
    · simpa [Scene.ask, hs] using h.nodup s
  placed s other hother := by
    by_cases hs : s = stripe
    · subst hs
      simp only [Scene.ask, Function.update_self] at hother
      rcases Stripe.mem_succession_acquire hother with rfl | hbefore
      · exact .inr hfaces
      · exact h.placed s other hbefore
    · simp only [Scene.ask, Function.update_of_ne hs] at hother
      exact h.placed s other hother
  granted other s hheld := by
    have hholder := h.granted other s hheld
    by_cases hs : s = stripe
    · subst hs
      simpa [Scene.ask] using Stripe.holder_acquire hholder
    · simpa [Scene.ask, hs] using hholder
  recorded := h.recorded
  parted := h.parted
  single := h.single

/-- Behind the holder, the line of a stripe has others only. -/
theorem Orderly.of_release (h : Orderly history scene)
    (hheld : stripe ∈ scene.held worker) :
    (scene.stripes stripe).release.succession.Nodup ∧
      ∀ other ∈ (scene.stripes stripe).release.succession,
        other ≠ worker ∧ other ∈ (scene.stripes stripe).succession := by
  have hline := Stripe.succession_release (h.granted worker stripe hheld)
  have hnodup := h.nodup stripe
  rw [hline, List.nodup_cons] at hnodup
  refine ⟨hnodup.2, fun other hother => ⟨?_, ?_⟩⟩
  · rintro rfl
    exact hnodup.1 hother
  · rw [hline]
    exact List.mem_cons_of_mem worker hother

/-- A worker that leaves takes nothing away from the others. -/
theorem Orderly.leave (h : Orderly history scene) (hhere : worker ∉ scene.gone) :
    Orderly history (scene.leave worker) := by
  -- The lines lose the worker, and nobody else.
  have hlines : ∀ s, ((scene.leave worker).stripes s).succession.Nodup ∧
      ∀ other ∈ ((scene.leave worker).stripes s).succession,
        other ≠ worker ∧ other ∈ (scene.stripes s).succession := by
    intro s
    simp only [Scene.leave]
    split
    · next hheld => exact h.of_release hheld
    · rw [Stripe.succession_withdraw]
      refine ⟨(h.nodup s).erase worker, fun other hother => ?_⟩
      exact (h.nodup s).mem_erase_iff.1 hother
  refine {
    nodup := fun s => (hlines s).1
    placed := ?_
    granted := ?_
    recorded := ?_
    parted := ?_
    single := ?_ }
  · intro s other hother
    obtain ⟨hne, hbefore⟩ := (hlines s).2 other hother
    refine (h.placed s other hbefore).imp (fun hheld => ?_) fun ⟨hhere, next, hstep⟩ => ?_
    · simpa [Scene.leave, hne] using hheld
    · exact ⟨by simp [Scene.leave, hne, hhere], next, hstep⟩
  · intro other s hheld
    have hne : other ≠ worker := by
      rintro rfl
      simp [Scene.leave] at hheld
    have hkept : s ∈ scene.held other := by simpa [Scene.leave, hne] using hheld
    have hholder := h.granted other s hkept
    simp only [Scene.leave]
    split
    · next hown =>
      have hsame := (h.granted worker s hown).symm.trans hholder
      exact absurd (Option.some.inj hsame).symm hne
    · exact Stripe.holder_withdraw hholder hne
  · intro other hhere'
    obtain ⟨hne, hbefore⟩ : other ≠ worker ∧ other ∉ scene.gone := by
      simpa [Scene.leave] using hhere'
    simpa [Scene.leave, hne] using h.recorded other hbefore
  · intro other hgone
    by_cases hne : other = worker
    · simp [Scene.leave, hne]
    · have hbefore : other ∈ scene.gone := by simpa [Scene.leave, hne] using hgone
      simpa [Scene.leave, hne] using h.parted other hbefore
  · intro other
    by_cases hne : other = worker
    · simp [Scene.leave, hne]
    · simpa [Scene.leave, hne] using h.single other

/-- In the lines there is nobody new after a step, and a stripe given back is rid of its holder. -/
theorem Orderly.freed (h : Orderly history scene)
    (hunlock : ∀ freed, step.unlock? = some freed -> scene.held worker = [freed]) :
    (scene.freed step stripe).succession.Nodup ∧
      ∀ other ∈ (scene.freed step stripe).succession,
        other ∈ (scene.stripes stripe).succession ∧
          (step.unlock? = some stripe -> other ≠ worker) := by
  by_cases hfreed : step.unlock? = some stripe
  · have hheld : stripe ∈ scene.held worker := by
      rw [hunlock stripe hfreed]
      exact List.mem_singleton_self stripe
    have hline : scene.freed step stripe = (scene.stripes stripe).release := by
      simp [Scene.freed, hfreed]
    rw [hline]
    obtain ⟨hnodup, hothers⟩ := h.of_release hheld
    exact ⟨hnodup, fun other hother =>
      ⟨(hothers other hother).2, fun _ => (hothers other hother).1⟩⟩
  · rw [Scene.freed_of_ne hfreed]
    exact ⟨h.nodup stripe, fun other hother => ⟨hother, fun heq => absurd heq hfreed⟩⟩

private theorem Orderly.take {next : step.Reply -> Sharing Unit} (h : Orderly history scene)
    (hstep : scene.shared.programs[worker]? = some (.act step next))
    (hhere : worker ∉ scene.gone)
    (hgranted : ∀ stripe ∈ step.lock?, (scene.stripes stripe).holder = some worker)
    (hlock : step.lock?.isSome = true -> scene.held worker = [])
    (hunlock : ∀ freed, step.unlock? = some freed -> scene.held worker = [freed])
    (reply : step.Reply) (time : Nat) :
    Orderly (history ++ [⟨worker, ⟨step, reply⟩, time⟩])
      (scene.take workers.sharding worker step next reply) where
  nodup s := (h.freed hunlock).1
  placed s other hother := by
    obtain ⟨hbefore, hrid⟩ := (h.freed hunlock).2 other hother
    by_cases hne : other = worker
    · subst hne
      refine .inl ?_
      simp only [Scene.take, Function.update_self]
      rcases h.placed s other hbefore with hheld | ⟨_, _, hfaces⟩
      · exact SharedStep.mem_heldAfter_of_mem hheld fun hfreed => hrid hfreed rfl
      · cases hstep.symm.trans hfaces
        exact SharedStep.mem_heldAfter_of_lock rfl
    · refine (h.placed s other hbefore).imp (fun hheld => ?_) fun ⟨hthere, next, hfaces⟩ => ?_
      · simpa [Scene.take, hne] using hheld
      · refine ⟨hthere, next, ?_⟩
        simp only [Scene.take]
        rw [List.getElem?_set_ne (Ne.symm hne), hfaces]
  granted other s hheld := by
    by_cases hne : other = worker
    · subst hne
      simp only [Scene.take, Function.update_self] at hheld ⊢
      rcases SharedStep.of_mem_heldAfter hunlock hheld with hlocked | ⟨hmem, hkeep⟩
      · have hkeep : step.unlock? ≠ some s := by
          unfold SharedStep.lock? at hlocked
          split at hlocked
          · simp [SharedStep.unlock?]
          · cases hlocked
        rw [Scene.freed_of_ne hkeep]
        exact hgranted s hlocked
      · rw [Scene.freed_of_ne hkeep]
        exact h.granted other s hmem
    · have hkept : s ∈ scene.held other := by simpa [Scene.take, hne] using hheld
      have hholder := h.granted other s hkept
      have hkeep : step.unlock? ≠ some s := by
        intro hfreed
        have hown : s ∈ scene.held worker := by
          rw [hunlock s hfreed]
          exact List.mem_singleton_self s
        have hsame := (h.granted worker s hown).symm.trans hholder
        exact hne (Option.some.inj hsame).symm
      simp only [Scene.take]
      rw [Scene.freed_of_ne hkeep]
      exact hholder
  recorded other hthere := by
    have hbefore := h.recorded other hthere
    rw [takenBy_snoc]
    by_cases hne : other = worker
    · subst hne
      simp [Scene.take, hbefore]
    · have hother : worker ≠ other := Ne.symm hne
      simpa [Scene.take, hne, hother] using hbefore
  parted other hgone := by
    have hne : other ≠ worker := by
      rintro rfl
      exact hhere hgone
    simpa [Scene.take, hne] using h.parted other hgone
  single other := by
    by_cases hne : other = worker
    · subst hne
      simpa [Scene.take] using SharedStep.length_heldAfter hlock (h.single other)
    · simpa [Scene.take, hne] using h.single other

theorem Proceeds.orderly (h : workers.Proceeds history scene) : Orderly history scene := by
  induction h with
  | opened => exact orderly_scene workers
  | wait _ _ ih => exact ⟨ih.nodup, ih.placed, ih.granted, ih.recorded, ih.parted, ih.single⟩
  | ask _ hfaces hnew ih => exact ih.ask hfaces hnew
  | @take history scene worker step next h hstep hhere hgranted world ih =>
      obtain ⟨task, _, hmay⟩ := h.reaches.mayHold hstep
      have hheld := ih.recorded worker hhere
      refine ih.take hstep hhere hgranted (fun hlock => ?_) (fun freed hfreed => ?_) _ _
      · rw [hheld]
        exact hmay.of_lock hlock
      · rw [hheld]
        exact hmay.of_unlock hfreed
  | leave _ hhere ih => exact ih.leave hhere

/-! ## Waiting -/

/-- A worker waits for those that are before it in the line of a stripe. -/
def Scene.WaitsFor (scene : Scene) (worker other : Nat) : Prop :=
  ∃ stripe before after,
    (scene.stripes stripe).succession = before ++ worker :: after ∧ other ∈ before

/-- A worker that is not the first in a line is about to take its stripe. -/
theorem Orderly.faces_of_behind (h : Orderly history scene) {before after : List Nat}
    (hline : (scene.stripes stripe).succession = before ++ worker :: after)
    (hother : other ∈ before) : scene.Faces worker (.outside (.lock stripe)) := by
  have hmem : worker ∈ (scene.stripes stripe).succession := by simp [hline]
  refine (h.placed stripe worker hmem).resolve_left fun hheld => ?_
  -- The holder is the first in its line, and stands there once.
  have hfirst := Stripe.succession_release (h.granted worker stripe hheld)
  have hnodup := h.nodup stripe
  cases before with
  | nil => cases hother
  | cons first before =>
      rw [hline] at hfirst hnodup
      obtain ⟨rfl, _⟩ := List.cons_eq_cons.1 hfirst
      exact absurd hnodup (by simp)

theorem Proceeds.mayHold (h : workers.Proceeds history scene) (hfaces : scene.Faces worker step) :
    ∃ task, workers.tasks[worker]? = some task ∧
      workers.MayHold (takenBy worker history) step task ∧
      scene.held worker = heldBy (takenBy worker history) := by
  obtain ⟨hhere, next, hstep⟩ := hfaces
  obtain ⟨task, htask, hmay⟩ := h.reaches.mayHold hstep
  exact ⟨task, htask, hmay, h.orderly.recorded worker hhere⟩

private theorem Proceeds.held_of_lock (h : workers.Proceeds history scene)
    (hfaces : scene.Faces worker (.outside (.lock stripe))) : scene.held worker = [] := by
  obtain ⟨task, _, hmay, hheld⟩ := h.mayHold hfaces
  exact hheld.trans (hmay.of_lock rfl)

/-- Who waits for a stripe stands in no other line. -/
theorem Proceeds.line_unique (h : workers.Proceeds history scene) {line : Nat}
    (hfaces : scene.Faces worker (.outside (.lock stripe)))
    (hmem : worker ∈ (scene.stripes line).succession) : line = stripe := by
  rcases h.orderly.placed line worker hmem with hheld | ⟨_, _, hagain⟩
  · rw [h.held_of_lock hfaces] at hheld
    cases hheld
  · obtain ⟨_, _, hstep⟩ := hfaces
    cases hstep.symm.trans hagain
    rfl

private theorem Proceeds.idxOf_lt_of_waitsFor (h : workers.Proceeds history scene)
    (hwaits : scene.WaitsFor worker other) :
    ∃ stripe, scene.Faces worker (.outside (.lock stripe)) ∧
      other ∈ (scene.stripes stripe).succession ∧
      (scene.stripes stripe).succession.idxOf other <
        (scene.stripes stripe).succession.idxOf worker := by
  obtain ⟨stripe, before, after, hline, hother⟩ := hwaits
  refine ⟨stripe, h.orderly.faces_of_behind hline hother, by simp [hline, hother], ?_⟩
  have hnodup := h.orderly.nodup stripe
  rw [hline] at hnodup ⊢
  have hworker : worker ∉ before := fun hmem =>
    (List.nodup_append.1 hnodup).2.2 worker hmem worker List.mem_cons_self rfl
  have hlt := List.idxOf_lt_length_iff.2 hother
  rw [List.idxOf_append, List.idxOf_append, if_pos hother, if_neg hworker]
  omega

/-- Along all that a worker waits for, its line is the only one. -/
theorem Proceeds.idxOf_lt_of_transGen (h : workers.Proceeds history scene)
    (hwaits : Relation.TransGen scene.WaitsFor worker other) :
    ∃ stripe, other ∈ (scene.stripes stripe).succession ∧
      (scene.stripes stripe).succession.idxOf other <
        (scene.stripes stripe).succession.idxOf worker := by
  induction hwaits with
  | single hfirst =>
      obtain ⟨stripe, _, hmem, hlt⟩ := h.idxOf_lt_of_waitsFor hfirst
      exact ⟨stripe, hmem, hlt⟩
  | tail _ hlast ih =>
      obtain ⟨stripe, hmem, hlt⟩ := ih
      obtain ⟨line, hfaces, hmem', hlt'⟩ := h.idxOf_lt_of_waitsFor hlast
      obtain rfl := h.line_unique hfaces hmem
      exact ⟨stripe, hmem', Nat.lt_trans hlt' hlt⟩

/-! ## The discipline -/

/-- A worker has taken a stripe to use the cache, and has not yet given it back. -/
def InSection (history : List SharedEvent) (scene : Scene) (worker : Nat) : Prop :=
  ∃ step, scene.Faces worker step ∧
    (step.isCaching = true ∨ step.unlock?.isSome = true ∨
      step.isAnswer = true ∧ foundLast (takenBy worker history) = true)

/-- What holds of workers and stripes at any time. -/
structure Disciplined (workers : CacheWorkers) (history : List SharedEvent) (scene : Scene) :
    Prop where
  exclusive : ∀ {worker other stripe}, stripe ∈ scene.held worker ->
    stripe ∈ scene.held other -> worker = other
  /-- In its sections a worker holds the stripe of its request. -/
  inside : ∀ {worker request}, workers.tasks[worker]? = some (.forward request) ->
    InSection history scene worker ->
    scene.held worker = [workers.handler.stripes.index request.fingerprint]
  /-- No two workers are in sections of one stripe. -/
  apart : ∀ {worker other request asked},
    workers.tasks[worker]? = some (.forward request) ->
    workers.tasks[other]? = some (.forward asked) ->
    InSection history scene worker -> InSection history scene other ->
    workers.handler.stripes.index request.fingerprint =
      workers.handler.stripes.index asked.fingerprint -> worker = other
  single : ∀ worker, (scene.held worker).length ≤ 1
  waits : ∀ {worker stripe}, scene.Faces worker (.outside (.lock stripe)) ->
    scene.held worker = []
  exchange : ∀ {worker step}, scene.Faces worker step -> step.isExchange = true ->
    scene.held worker = []
  /-- A response is written with empty hands, if it was not found. -/
  answer : ∀ {worker step}, scene.Faces worker step -> step.isAnswer = true ->
    foundLast (takenBy worker history) = false -> scene.held worker = []
  acyclic : ∀ worker, ¬ Relation.TransGen scene.WaitsFor worker worker
  parted : ∀ {worker},
    worker ∈ scene.gone ∨ scene.shared.programs[worker]? = some (.done ()) ->
    scene.held worker = [] ∧ ∀ stripe, worker ∉ (scene.stripes stripe).succession

private theorem Proceeds.inside {request : Request} (h : workers.Proceeds history scene)
    (htask : workers.tasks[worker]? = some (.forward request))
    (hsection : InSection history scene worker) :
    scene.held worker = [workers.handler.stripes.index request.fingerprint] := by
  obtain ⟨step, hfaces, hkind⟩ := hsection
  obtain ⟨task, hsame, hmay, hheld⟩ := h.mayHold hfaces
  cases hsame.symm.trans htask
  rw [hheld]
  rcases hkind with hcaching | hunlock | ⟨hanswer, hfound⟩
  · unfold SharedStep.isCaching at hcaching
    split at hcaching <;> first | exact hmay | cases hcaching
  · obtain ⟨freed, hfreed⟩ := Option.isSome_iff_exists.1 hunlock
    unfold SharedStep.unlock? at hfreed
    split at hfreed
    · exact hmay.2
    · cases hfreed
  · unfold SharedStep.isAnswer at hanswer
    split at hanswer
    · exact hmay.trans (if_pos hfound)
    · cases hanswer

private theorem Proceeds.held_of_exchange (h : workers.Proceeds history scene)
    (hfaces : scene.Faces worker step) (hexchange : step.isExchange = true) :
    scene.held worker = [] := by
  obtain ⟨task, _, hmay, hheld⟩ := h.mayHold hfaces
  rw [hheld]
  cases task with
  | forward request =>
      unfold SharedStep.isExchange at hexchange
      split at hexchange <;> first | exact hmay | cases hexchange
  | clear => exact hmay.1
  | setCeiling seconds => exact hmay.1

private theorem Proceeds.held_of_answer (h : workers.Proceeds history scene)
    (hfaces : scene.Faces worker step) (hanswer : step.isAnswer = true)
    (hfound : foundLast (takenBy worker history) = false) : scene.held worker = [] := by
  obtain ⟨task, _, hmay, hheld⟩ := h.mayHold hfaces
  rw [hheld]
  cases task with
  | forward request =>
      unfold SharedStep.isAnswer at hanswer
      split at hanswer
      · exact hmay.trans (if_neg (by simp [hfound]))
      · cases hanswer
  | clear => exact hmay.1
  | setCeiling seconds => exact hmay.1

/-- A worker that is done holds no stripe, and waits for none. -/
theorem Proceeds.held_of_parted (h : workers.Proceeds history scene)
    (hparted : worker ∈ scene.gone ∨ scene.shared.programs[worker]? = some (.done ())) :
    scene.held worker = [] := by
  by_cases hgone : worker ∈ scene.gone
  · exact h.orderly.parted worker hgone
  · rw [h.orderly.recorded worker hgone]
    exact h.reaches.heldBy_done (hparted.resolve_left hgone)

/--
Whatever the workers do, in whatever order, and whether their actions succeed, fail
or never return: in each section a worker is alone with its stripe, it holds one
stripe at most, and none while it waits for one, for the origin or for a client to
which it writes what was not found; so nobody waits in a circle.  Who has left, or is
done, holds nothing.
-/
theorem disciplined_of_proceeds (h : workers.Proceeds history scene) :
    Disciplined workers history scene := by
  have horderly := h.orderly
  have hexclusive : ∀ {worker other stripe}, stripe ∈ scene.held worker ->
      stripe ∈ scene.held other -> worker = other := by
    intro worker other stripe hworker hother
    have hsame := (horderly.granted worker stripe hworker).symm.trans
      (horderly.granted other stripe hother)
    exact Option.some.inj hsame
  refine {
    exclusive := hexclusive
    inside := h.inside
    apart := ?_
    single := horderly.single
    waits := h.held_of_lock
    exchange := h.held_of_exchange
    answer := h.held_of_answer
    acyclic := ?_
    parted := ?_ }
  · intro worker other request asked htask hother hworker hsection hsame
    have hheld := h.inside htask hworker
    have hheld' := h.inside hother hsection
    rw [← hsame] at hheld'
    exact hexclusive (hheld ▸ List.mem_singleton_self _) (hheld' ▸ List.mem_singleton_self _)
  · intro worker hcycle
    obtain ⟨stripe, _, hlt⟩ := h.idxOf_lt_of_transGen hcycle
    exact absurd hlt (Nat.lt_irrefl _)
  · intro worker hparted
    have hheld := h.held_of_parted hparted
    refine ⟨hheld, fun stripe hmem => ?_⟩
    rcases horderly.placed stripe worker hmem with hown | ⟨hhere, _, hstep⟩
    · rw [hheld] at hown
      cases hown
    · cases hstep.symm.trans (hparted.resolve_left hhere)

/-- Two workers with one request, of which the first holds the stripe. -/
def crowded : List SharedEvent × Scene :=
  minuteWorkers.perform (fun action => (Serving.obliging [] [] action).1)
    [.ask 0, .take 0, .ask 1]

/-- The second worker waits for the first, and both keep the discipline. -/
theorem disciplined_of_crowded :
    crowded.2.WaitsFor 1 0 ∧ crowded.2.held 0 ≠ [] ∧
      Disciplined minuteWorkers crowded.1 crowded.2 := by
  have hline : (crowded.2.stripes (minuteWorkers.handler.stripes.index
      (Request.bare .get "::1" 81 "/").fingerprint)).succession = [0] ++ [1] := by
    decide +kernel
  refine ⟨⟨_, [0], [], hline, List.mem_singleton_self 0⟩, by decide +kernel, ?_⟩
  exact disciplined_of_proceeds (minuteWorkers.proceeds_perform _ _)

end CacheWorkers

end Intermediary

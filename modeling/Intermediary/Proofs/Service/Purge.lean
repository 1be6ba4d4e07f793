import Intermediary.Proofs.Service.Provenance
import Intermediary.Proofs.Service.Striped

/-!
# What a purge leaves

A purge takes no stripe, and a worker holds none while it waits for its origin.  So
a purge can come between the fetching of a response and its insertion: what was
stored before the purge is gone for good, and what is stored after it is found.
-/

namespace Intermediary

open Program (Taken)

/-- What stands before an entry of a later part, and is not behind it, is in that part. -/
private theorem exists_of_append_eq {α : Type} {early late before after : List α} {x y : α}
    (h : early ++ late = before ++ x :: after) (hy : y ∈ late) (hne : y ≠ x)
    (hafter : y ∉ after) :
    ∃ stored, before = early ++ stored ∧ late = stored ++ x :: after ∧ y ∈ stored := by
  rcases List.append_eq_append_iff.1 h with ⟨stored, rfl, rfl⟩ | ⟨begun, rfl, hrest⟩
  · have hmem : y ∈ stored := by
      rcases List.mem_append.1 hy with hstored | hrest
      · exact hstored
      · exact absurd hrest (by simp [hne, hafter])
    exact ⟨stored, rfl, rfl, hmem⟩
  · cases begun with
    | nil =>
        obtain rfl : x :: after = late := hrest
        exact absurd hy (by simp [hne, hafter])
    | cons first begun =>
        obtain ⟨_, rfl⟩ := List.cons_eq_cons.1 hrest
        exact absurd (List.mem_append_right begun hy) hafter

namespace CacheWorkers

/-- A purge that begins behind one part of a history has come to its end with the next. -/
structure Purges (workers : CacheWorkers) (purger : Nat)
    (early late : List SharedEvent) : Prop where
  task : workers.tasks[purger]? = some .clear
  unbegun : takenBy purger early = []
  returned : (workers.steps .clear).Runs (takenBy purger (early ++ late)) (.done ())

private theorem Purges.exists_empty {workers : CacheWorkers} {purger : Nat}
    {early late : List SharedEvent} (h : workers.Purges purger early late)
    {shard : Nat} (hshard : shard < workers.sharding.count) :
    ∃ event ∈ late, event.worker = purger ∧ event.taken = ⟨.empty shard, ()⟩ := by
  have hmem := mem_of_runs_clear h.returned hshard
  rw [takenBy_append, h.unbegun, List.nil_append] at hmem
  obtain ⟨event, hevent, htaken⟩ := List.mem_map.1 hmem
  obtain ⟨hlate, hworker⟩ := List.mem_filter.1 hevent
  exact ⟨event, hlate, eq_of_beq hworker, htaken⟩

/--
What is found after a purge was put in place after the purge had emptied its part
of the cache, by a worker that had fetched it for such a request.  What was stored
when the purge began is not found again.
-/
theorem stores_after_purge {workers : CacheWorkers} {early late after : List SharedEvent}
    {event : SharedEvent} {state : State} {request : Request} {print : Fingerprint}
    {response : Response} {purger : Nat}
    (hreach : workers.Reaches (early ++ late ++ event :: after) state)
    (htask : workers.tasks[event.worker]? = some (.forward request))
    (hhit : event.hit? = some (print, response)) (hpurges : workers.Purges purger early late) :
    print = request.fingerprint ∧
      ∃ (placement : Placement) (asked : Request) (emptied : List SharedEvent),
        early ++ late = placement.history ∧ placement.Stores workers asked print response ∧
        late = emptied ++ placement.put :: placement.later ∧
        (⟨.empty (workers.sharding.shard print), ()⟩ : Taken SharedStep.Reply) ∈
          takenBy purger emptied := by
  refine ⟨hreach.print_of_hit htask (SharedEvent.taken_of_hit hhit), ?_⟩
  obtain ⟨placement, asked, _, hhistory, hstores, _, _, halone⟩ :=
    hreach.exists_placement_of_hit hhit
  obtain ⟨empty, hmem, hworker, hempty⟩ :=
    hpurges.exists_empty (workers.sharding.shard_lt print)
  -- The shard was left alone since the insertion, so that it was emptied before it.
  have hne : empty ≠ placement.put := by
    rintro rfl
    obtain ⟨entry, hput, _⟩ := hstores.puts
    rw [hput] at hempty
    cases hempty
  have hbefore : empty ∉ placement.later := fun hlater =>
    halone empty hlater (by rw [hempty])
  obtain ⟨emptied, _, hlate, hin⟩ := exists_of_append_eq hhistory hmem hne hbefore
  refine ⟨placement, asked, emptied, hhistory, hstores, hlate, ?_⟩
  exact List.mem_map.2 ⟨empty, List.mem_filter.2 ⟨hin, beq_iff_eq.2 hworker⟩, hempty⟩

/-- Whoever finds a response after a purge, it came from an origin since the purge began. -/
def PurgesFinally (workers : CacheWorkers) : Prop :=
  ∀ {early late after : List SharedEvent} {event : SharedEvent} {scene : Scene}
    {request : Request} {print : Fingerprint} {response : Response} {purger : Nat},
    workers.Proceeds (early ++ late ++ event :: after) scene ->
    workers.tasks[event.worker]? = some (.forward request) ->
    event.hit? = some (print, response) -> workers.Purges purger early late ->
    ∃ received ∈ late, ∃ enough, received.taken.action = .outside (.receive .origin enough)

def strayWorkers : CacheWorkers where
  handler := Handler.ofSettings {} .empty
  sharding := ⟨1, fun _ => 0, fun _ => Nat.zero_lt_one⟩
  tasks := [.forward (Request.bare .get "::1" 81 "/"), .clear,
    .forward (Request.bare .get "::1" 81 "/")]
  ceiling := none

/--
The purge comes when the first worker has read its response and has not yet stored
it.  The second worker asks the cache when both are done.
-/
def stray : List SharedEvent × Scene :=
  strayWorkers.perform
    (fun action => (Serving.obliging []
      (Bytes.ofText "HTTP/1.1 204 No Content\r\nCache-Control: max-age=60\r\n\r\n")
      action).1)
    (.ask 0 :: List.replicate 6 (.take 0) ++ [.take 1] ++ .ask 0 ::
      List.replicate 6 (.take 0) ++ [.ask 2, .take 2, .take 2])

def isOver : Sharing Unit -> Bool
  | .done _ => true
  | .act _ _ => false

theorem stray_hit :
    ∃ event response, stray.1 = stray.1.take 6 ++ (stray.1.drop 6).take 8 ++ [event] ∧
      event.worker = 2 ∧
      strayWorkers.tasks[event.worker]? = some (.forward (Request.bare .get "::1" 81 "/")) ∧
      event.hit? = some ((Request.bare .get "::1" 81 "/").fingerprint, response) := by
  let response : Response :=
    ⟨"HTTP/1.1", .noContent, ⟨[⟨"Cache-Control", "max-age=60"⟩]⟩, .empty⟩
  have hlast : (stray.1.map fun event => (event.worker, event.hit?)).drop 14 =
      [(2, some ((Request.bare .get "::1" 81 "/").fingerprint, response))] := by
    decide +kernel
  rw [← List.map_drop] at hlast
  obtain ⟨event, hevent, heq⟩ := List.map_eq_singleton_iff.1 hlast
  obtain ⟨hworker, hhit⟩ := Prod.mk.inj heq
  refine ⟨event, response, ?_, hworker, hworker ▸ rfl, hhit⟩
  rw [← hevent, ← List.take_add, List.take_append_drop]

private theorem runs_stray : (strayWorkers.steps .clear).Runs (takenBy 1 stray.1) (.done ()) := by
  have htask : strayWorkers.tasks[1]? = some .clear := rfl
  obtain ⟨rest, hrest, hruns⟩ := (strayWorkers.proceeds_perform _ _).reaches.runs htask
  change stray.2.shared.programs[1]? = some rest at hrest
  have hover : (stray.2.shared.programs[1]?.map isOver) = some true := by
    decide +kernel
  rw [hrest] at hover
  cases rest with
  | done => exact hruns
  | act => cases hover

private theorem purges_stray :
    strayWorkers.Purges 1 (stray.1.take 6) ((stray.1.drop 6).take 8) := by
  obtain ⟨event, _, hsplit, hworker, _, _⟩ := stray_hit
  have hlast : takenBy 1 [event] = [] := by
    simp [takenBy, hworker]
  have hreturned := runs_stray
  rw [hsplit, takenBy_append, hlast, List.append_nil] at hreturned
  refine ⟨rfl, ?_, hreturned⟩
  have hothers : ∀ worker ∈ (stray.1.take 6).map (·.worker), (worker == 1) = false := by
    decide +kernel
  have hnone : (stray.1.take 6).filter (·.worker == 1) = [] := by
    refine List.filter_eq_nil_iff.2 fun first hfirst => ?_
    rw [hothers _ (List.mem_map_of_mem hfirst)]
    exact Bool.false_ne_true
  rw [takenBy, hnone, List.map_nil]

theorem stores_after_purge_stray :
    ∃ (placement : Placement) (event : SharedEvent) (asked : Request) (response : Response),
      stray.1 = placement.history ++ [event] ∧
      event.hit? = some ((Request.bare .get "::1" 81 "/").fingerprint, response) ∧
      placement.Stores strayWorkers asked (Request.bare .get "::1" 81 "/").fingerprint
        response := by
  obtain ⟨event, response, hsplit, _, htask, hhit⟩ := stray_hit
  have hreach : strayWorkers.Reaches stray.1 stray.2.shared :=
    (strayWorkers.proceeds_perform _ _).reaches
  rw [hsplit] at hreach
  obtain ⟨_, placement, asked, _, hhistory, hstores, _, _⟩ :=
    stores_after_purge hreach htask hhit purges_stray
  exact ⟨placement, event, asked, response, hhistory ▸ hsplit, hhit, hstores⟩

/-- What the second worker finds was stored behind the purge, but had come before it. -/
theorem not_purgesFinally_stray : ¬ strayWorkers.PurgesFinally := by
  intro hfinal
  obtain ⟨event, response, hsplit, _, htask, hhit⟩ := stray_hit
  have hproceeds : strayWorkers.Proceeds stray.1 stray.2 := strayWorkers.proceeds_perform _ _
  rw [hsplit] at hproceeds
  obtain ⟨received, hlate, _, haction⟩ := hfinal hproceeds htask hhit purges_stray
  have hquiet : ∀ exchange ∈ ((stray.1.drop 6).take 8).map (·.taken.action.isExchange),
      exchange = false := by
    decide +kernel
  have hexchange := hquiet _ (List.mem_map_of_mem hlate)
  rw [haction] at hexchange
  cases hexchange

end CacheWorkers

end Intermediary

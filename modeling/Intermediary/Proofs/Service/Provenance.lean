import Intermediary.Proofs.Service.Conduct
import Intermediary.Proofs.Service.Shared

/-!
# Where the responses of the cache come from

A response that the cache gives was read to its end from an origin, for a
request with the same fingerprint, and was put in place by the worker that had
read it.  Since then no more time has passed than it allows, nor than the
ceiling under which it was stored.

What a worker does before it puts an entry in place is shown along its task.
That an entry which is found was put in place is kept by every step of all.
-/

namespace Intermediary

open Program (Taken Guards guards_pure guards_bind)

private theorem Forwarding.fingerprint_augment (request : Request) :
    (Forwarding.augment request).fingerprint = request.fingerprint :=
  rfl

/--
A worker has connected, has sent the request on, and has read a response from
what came back.
-/
def Fetched (handler : Handler) (request : Request) (response : Response)
    (taken : List (Taken SharedStep.Reply)) : Prop :=
  ∃ (enough : Bytes -> Bool) (inflow : Inflow) (rest : Bytes),
    [⟨.outside (.connect (handler.route request).1 (handler.route request).2.1),
        (Except.ok () : Except TransportError Unit)⟩,
      ⟨.outside (.send ((Forwarding.augment request).render (handler.route request).2.2)),
        (Except.ok () : Except TransportError Unit)⟩,
      ⟨.outside (.receive .origin enough), inflow⟩].Sublist taken ∧
    Response.read handler.limits request.method inflow.bytes = .ok (response, rest)

theorem Fetched.append {handler : Handler} {request : Request} {response : Response}
    {taken : List (Taken SharedStep.Reply)} (h : Fetched handler request response taken)
    (more : List (Taken SharedStep.Reply)) :
    Fetched handler request response (taken ++ more) := by
  obtain ⟨enough, inflow, rest, hsublist, hread⟩ := h
  exact ⟨enough, inflow, rest, hsublist.trans (List.sublist_append_left taken more), hread⟩

/--
An insertion by which an entry comes to its place: the response was fetched,
and then the ceiling and the clock were read.
-/
structure Insertion (handler : Handler) (request : Request) (print : Fingerprint)
    (entry : CacheEntry) (earlier : List (Taken SharedStep.Reply))
    (ceiling : Option Nat) : Prop where
  print : print = (Forwarding.augment request).fingerprint
  fetched : Fetched handler request entry.response earlier
  lifetime : entry.response.lifetime? ceiling = some entry.lifetime

/-- When a worker that passes on a request may take a step. -/
def MayForward (handler : Handler) (request : Request)
    (past : List (Taken SharedStep.Reply)) : SharedStep -> Prop
  | .peek print => print = request.fingerprint
  | .put print entry =>
      ∃ earlier ceiling,
        past = earlier ++ [⟨.ceiling, ceiling⟩, ⟨.clock, entry.storedAt⟩] ∧
        Insertion handler request print entry earlier ceiling
  | .empty _ | .setCeiling _ => False
  | .outside _ | .evict _ | .ceiling | .clock => True

/-! ## Along a task -/

section WorkerTask

open Sharing

variable {handler : Handler} {request : Request} {past : List (Taken SharedStep.Reply)}
  {α β : Type}

private theorem guards_lookup {next : Option Response -> Serving β}
    {post : List (Taken SharedStep.Reply) -> β -> Prop}
    (hnext : ∀ past found, Guards (MayForward handler request) post
      (Sharing.ofServing (next found)) past) :
    Guards (MayForward handler request) post
      (Sharing.ofServing (Serving.perform (.lookup request.fingerprint) >>= next)) past := by
  refine ⟨rfl, fun found => ?_⟩
  cases found with
  | hit response => exact hnext _ (some response)
  | missing => exact hnext _ none
  | expired => exact ⟨trivial, fun _ => hnext _ none⟩

/-- A fetched response is put in place after the ceiling and the clock are read. -/
theorem guards_insert {response : Response} (h : Fetched handler request response past) :
    Guards (MayForward handler request) (fun _ _ => True)
      (Sharing.insert request.fingerprint response) past := by
  refine ⟨trivial, fun (ceiling : Option Nat) => ?_⟩
  dsimp only [Program.bind]
  cases hlifetime : response.lifetime? ceiling with
  | none => exact trivial
  | some lifetime =>
      refine ⟨trivial, fun (now : Nat) => ?_⟩
      have hinsertion : Insertion handler request request.fingerprint
          ⟨response, now, lifetime⟩ past ceiling :=
        ⟨(Forwarding.fingerprint_augment request).symm, h, hlifetime⟩
      exact ⟨⟨past, ceiling, by simp, hinsertion⟩, fun _ => trivial⟩

private theorem guards_store {response : Response} {next : Unit -> Serving β}
    {post : List (Taken SharedStep.Reply) -> β -> Prop}
    (h : Fetched handler request response past)
    (hnext : ∀ past, Guards (MayForward handler request) post
      (Sharing.ofServing (next ())) past) :
    Guards (MayForward handler request) post
      (Sharing.ofServing (Serving.perform (.store request.fingerprint response) >>= next))
      past := by
  have hstore : Guards (MayForward handler request) (fun _ _ => True)
      (Sharing.store request.fingerprint response) past := by
    refine ⟨trivial, fun (ceiling : Option Nat) => ?_⟩
    show Guards (MayForward handler request) _
      (if (response.lifetime? ceiling).isSome then _ else _) _
    split
    · exact guards_insert (h.append _)
    · exact trivial
  exact guards_bind (hstore.mono fun past _ _ => hnext past)

private theorem guards_readMessage {γ : Type} {side : Side}
    {reader : Bytes -> Except MessageError (γ × Bytes)} :
    Guards (MayForward handler request)
      (fun after result => ∃ enough inflow,
        after = past ++ [⟨.outside (.receive side enough), inflow⟩] ∧
          result = Inflow.read reader inflow)
      (Sharing.ofServing (Service.readMessage side reader)) past :=
  guards_outside rfl trivial fun inflow => guards_pure ⟨_, inflow, rfl, rfl⟩

private theorem guards_fetch :
    Guards (MayForward handler request)
      (fun after result => ∀ response, result = .ok response ->
        Fetched handler request response after)
      (Sharing.ofServing (Service.fetch handler request)) past := by
  unfold Service.fetch
  refine guards_outside rfl trivial fun reply => ?_
  cases reply with
  | error cause => exact guards_pure fun _ heq => by cases heq
  | ok =>
      refine guards_outside rfl trivial fun reply => ?_
      cases reply with
      | error cause => exact guards_pure fun _ heq => by cases heq
      | ok =>
          refine guards_then guards_readMessage fun after result hpost => ?_
          obtain ⟨enough, inflow, rfl, rfl⟩ := hpost
          cases hread : Inflow.read (Response.read handler.limits request.method) inflow with
          | error fault =>
              cases fault <;> exact guards_pure fun _ heq => by cases heq
          | ok found =>
              refine guards_pure fun response heq => ?_
              cases heq
              obtain ⟨rest, hresponse, _⟩ := Service.exists_of_inflow_read hread
              refine ⟨enough, inflow, rest, ?_, hresponse⟩
              simp only [List.append_assoc, List.cons_append, List.nil_append]
              exact List.sublist_append_right past _

private theorem guards_respond (response : Response) :
    Guards (MayForward handler request) (fun _ _ => True)
      (Sharing.ofServing (Service.respond response)) past := by
  refine guards_outside rfl trivial fun reply => ?_
  cases reply with
  | ok => exact guards_pure trivial
  | error cause => exact guards_pure trivial

theorem guards_respondWith (response : Response) (use : CacheUse) :
    Guards (MayForward handler request) (fun _ _ => True)
      (Sharing.ofServing (Service.respondWith response use)) past := by
  refine guards_then (guards_respond response) fun _ result _ => ?_
  cases result with
  | ok => exact guards_pure trivial
  | error cause => exact guards_pure trivial

private theorem guards_forwardPast :
    Guards (MayForward handler request) (fun _ _ => True)
      (Sharing.ofServing (Service.forwardPast handler request)) past := by
  refine guards_then guards_fetch fun _ result _ => ?_
  cases result with
  | error e => exact guards_pure trivial
  | ok response => exact guards_respondWith response .bypass

private theorem guards_forwardMiss {stripe : Nat} :
    Guards (MayForward handler request) (fun _ _ => True)
      (Sharing.ofServing (Service.forwardMiss handler request stripe)) past := by
  refine guards_then guards_fetch fun _ result hfetched => ?_
  cases result with
  | error e => exact guards_pure trivial
  | ok response =>
      refine guards_outside rfl trivial fun _ => ?_
      refine guards_store ((hfetched response rfl).append _) fun _ => ?_
      exact guards_outside rfl trivial fun _ => guards_respondWith response .miss

private theorem guards_forward :
    Guards (MayForward handler request) (fun _ _ => True)
      (Sharing.ofServing (Service.forward handler request)) past := by
  unfold Service.forward
  split
  · refine guards_outside rfl trivial fun _ => guards_lookup fun _ found => ?_
    cases found with
    | some response =>
        refine guards_then (guards_respondWith response .hit) fun _ _ _ => ?_
        exact guards_outside rfl trivial fun _ => guards_pure trivial
    | none => exact guards_outside rfl trivial fun _ => guards_forwardMiss
  · exact guards_forwardPast

end WorkerTask

namespace CacheWorkers

def MayTake (workers : CacheWorkers) :
    WorkerTask -> List (Taken SharedStep.Reply) -> SharedStep -> Prop
  | .forward request => MayForward workers.handler request
  | .clear => fun _ step => ∃ shard, step = .empty shard
  | .setCeiling seconds => fun _ step => step = .setCeiling seconds

theorem guards_steps (workers : CacheWorkers) (task : WorkerTask) :
    Guards (workers.MayTake task) (fun _ _ => True) (workers.steps task) [] := by
  cases task with
  | forward request => exact guards_bind (guards_forward.mono fun _ _ _ => guards_pure trivial)
  | clear => exact (Sharing.guards_emptyShards _ []).mono fun _ _ _ => trivial
  | setCeiling seconds => exact ⟨rfl, fun _ => trivial⟩

theorem mem_of_runs_clear {workers : CacheWorkers} {taken : List (Taken SharedStep.Reply)}
    (h : (workers.steps .clear).Runs taken (.done ())) {shard : Nat}
    (hshard : shard < workers.sharding.count) :
    (⟨.empty shard, ()⟩ : Taken SharedStep.Reply) ∈ taken := by
  obtain ⟨more, hmore, hall⟩ :=
    (Sharing.guards_emptyShards (List.range workers.sharding.count) []).sound h
  rw [List.nil_append, List.nil_append] at hmore
  rw [hmore]
  exact hall shard (List.mem_range.2 hshard)

/-! ## Over the steps of all -/

/-- An entry that is found after a step was put there by it, or was there before. -/
private theorem find?_leave {sharding : Sharding} {cache : Cache} {now : Nat} {step : SharedStep}
    {print : Fingerprint} {entry : CacheEntry}
    (h : (step.leave sharding cache now).find? print = some entry) :
    step = .put print entry ∨
      cache.find? print = some entry ∧ step ≠ .empty (sharding.shard print) := by
  cases step with
  | put other stored =>
      by_cases hsame : print = other
      · subst hsame
        rw [SharedStep.leave, Cache.find?_put_self] at h
        exact .inl (by rw [Option.some.inj h])
      · rw [SharedStep.leave, Cache.find?_put_of_ne hsame] at h
        exact .inr ⟨h, by simp⟩
  | evict other =>
      obtain hfound | ⟨hnone, _⟩ := cache.find?_evict other print now
      · exact .inr ⟨hfound ▸ h, by simp⟩
      · cases hnone.symm.trans h
  | empty shard =>
      obtain ⟨hshard, hfound⟩ := SharedStep.find?_empty h
      exact .inr ⟨hfound, fun heq => hshard (SharedStep.empty.inj heq).symm⟩
  | _ => exact .inr ⟨h, by simp⟩

namespace Reaches

variable {workers : CacheWorkers} {history before after : List SharedEvent} {state : State}
  {event : SharedEvent} {print : Fingerprint} {entry : CacheEntry}

/-- An entry that is found was put in place, and its shard was not emptied since. -/
private theorem exists_put (h : workers.Reaches history state)
    (hfound : state.cache.find? print = some entry) :
    ∃ before put after, history = before ++ put :: after ∧
      put.taken = ⟨.put print entry, ()⟩ ∧
      ∀ event ∈ after, event.taken.action ≠ .empty (workers.sharding.shard print) := by
  induction h with
  | opened => cases hfound
  | wait _ _ ih => exact ih hfound
  | take _ _ world ih =>
      obtain rfl | ⟨hbefore, hstep⟩ := find?_leave hfound
      · exact ⟨_, _, [], rfl, rfl, List.forall_mem_nil _⟩
      · obtain ⟨before, put, after, rfl, hput, hafter⟩ := ih hbefore
        refine ⟨before, put, _, List.append_assoc .., hput, ?_⟩
        exact List.forall_mem_append.2 ⟨hafter, by simpa using hstep⟩

/-- Every step was taken when the task of its worker allows it. -/
theorem mayTake (h : workers.Reaches (before ++ event :: after) state) :
    ∃ task, workers.tasks[event.worker]? = some task ∧
      workers.MayTake task (takenBy event.worker before) event.taken.action := by
  obtain ⟨middle, next, _, hreach, hstep, _⟩ := h.at_split
  obtain ⟨task, htask, hruns⟩ := hreach.exists_runs hstep
  exact ⟨task, htask, ((workers.guards_steps task).sound hruns).1⟩

/-- The clock showed no later time than that at which the entry was put in place. -/
private theorem clock_le (h : workers.Reaches (before ++ event :: after) state) {worker time : Nat}
    (hclock : takenBy worker after = [⟨.clock, time⟩]) : time ≤ state.now := by
  obtain ⟨left, clock, right, rfl, _, htaken, _⟩ :=
    exists_of_takenBy_eq (hclock.trans (List.nil_append _).symm)
  rw [← List.cons_append, ← List.append_assoc] at h
  obtain ⟨middle, _, world, _, _, hreply, htime, hle⟩ := h.at_split
  rw [htaken] at hreply
  have hread : time = middle.now := hreply
  omega

end Reaches

/-- An insertion in a history, with what came before it, during it and after it. -/
structure Placement where
  began : List SharedEvent
  reading : SharedEvent
  during : List SharedEvent
  /-- The entry is put in place. -/
  put : SharedEvent
  later : List SharedEvent

def Placement.history (placement : Placement) : List SharedEvent :=
  (placement.began ++ placement.reading :: placement.during) ++
    placement.put :: placement.later

/--
By an insertion, a worker has stored a response that it had fetched for a
request before the insertion began.
-/
structure Placement.Stores (placement : Placement) (workers : CacheWorkers) (asked : Request)
    (print : Fingerprint) (response : Response) : Prop where
  task : workers.tasks[placement.put.worker]? = some (.forward asked)
  fingerprint : print = (Forwarding.augment asked).fingerprint
  fetched : Fetched workers.handler asked response
    (takenBy placement.put.worker placement.began)
  worker : placement.reading.worker = placement.put.worker
  reads : placement.reading.taken.action = .ceiling
  ticks : (takenBy placement.put.worker placement.during).map (·.action) = [.clock]
  puts : ∃ entry, placement.put.taken = ⟨.put print entry, ()⟩ ∧ entry.response = response

/-- The ceiling that is read is that of the entry's place, if none is set in between. -/
theorem Placement.Stores.ceilingAfter_put {placement : Placement} {workers : CacheWorkers}
    {asked : Request} {print : Fingerprint} {response : Response}
    (h : placement.Stores workers asked print response)
    (hunset : ∀ event ∈ placement.during, event.ceiling? = none) :
    workers.ceilingAfter (placement.began ++ placement.reading :: placement.during) =
      workers.ceilingAfter placement.began := by
  have hduring : placement.during.filterMap SharedEvent.ceiling? = [] :=
    List.filterMap_eq_nil_iff.2 hunset
  simp [ceilingAfter, SharedEvent.ceiling?, h.reads, hduring]

namespace Reaches

variable {workers : CacheWorkers} {before after : List SharedEvent} {event : SharedEvent}
  {state : State} {request : Request} {print : Fingerprint} {response : Response}

theorem print_of_hit (h : workers.Reaches (before ++ event :: after) state)
    (htask : workers.tasks[event.worker]? = some (.forward request))
    (hhit : event.taken = ⟨.peek print, .hit response⟩) : print = request.fingerprint := by
  obtain ⟨task, hsame, hmay⟩ := h.mayTake
  cases hsame.symm.trans htask
  rw [hhit] at hmay
  exact hmay

/-- An entry was put in place by an insertion of a worker that had fetched it. -/
theorem exists_placement {entry : CacheEntry}
    (h : workers.Reaches (before ++ event :: after) state)
    (hput : event.taken = ⟨.put print entry, ()⟩) :
    ∃ began reading during asked age, before = began ++ reading :: during ∧
      Placement.Stores ⟨began, reading, during, event, after⟩ workers asked print
        entry.response ∧
      entry.response.AllowsAge age ∧
      entry.lifetime = capped (workers.ceilingAfter began) age ∧
      entry.storedAt ≤ event.time := by
  obtain ⟨task, htask, hmay⟩ := h.mayTake
  rw [hput] at hmay
  cases task with
  | clear =>
      obtain ⟨shard, heq⟩ := hmay
      cases heq
  | setCeiling seconds => cases hmay
  | forward asked =>
      obtain ⟨earlier, ceiling, hpast, hinsertion⟩ := hmay
      obtain ⟨began, reading, during, rfl, hworker, hreading, hbegan, hduring⟩ :=
        exists_of_takenBy_eq hpast
      obtain ⟨atPut, _, _, hatPut, _, _, hputTime, _⟩ := h.at_split
      obtain ⟨atReading, _, world, hatReading, _, hreply, _⟩ := hatPut.at_split
      -- the ceiling that was read is the one that was set last before
      rw [hreading] at hreply
      have hceiling : ceiling = atReading.cache.ceiling := hreply
      have hlifetime := hinsertion.lifetime
      rw [hceiling, hatReading.lifetime] at hlifetime
      obtain ⟨age, hage, hcapped, _⟩ := Response.lifetime?_eq_some_iff.1 hlifetime
      have hclock := hatPut.clock_le hduring
      exact ⟨began, reading, during, asked, age, rfl,
        { task := htask
          fingerprint := hinsertion.print
          fetched := hbegan ▸ hinsertion.fetched
          worker := hworker
          reads := by rw [hreading]
          ticks := by rw [hduring]; rfl
          puts := ⟨entry, hput, rfl⟩ },
        hage, hcapped, hputTime ▸ hclock⟩

/-- No purge was carried out whole while a shard of the cache was left alone. -/
theorem not_runs_clear {worker : Nat} {later : List SharedEvent}
    (h : ∀ event ∈ later, event.taken.action ≠ .empty (workers.sharding.shard print)) :
    ¬ (workers.steps .clear).Runs (takenBy worker later) (.done ()) := by
  intro hruns
  have hmem := mem_of_runs_clear hruns (workers.sharding.shard_lt print)
  obtain ⟨event, hevent, htaken⟩ := List.mem_map.1 hmem
  exact h event (List.mem_filter.1 hevent).1 (by rw [htaken])

/--
What is found was stored by an insertion, after which its shard was left alone,
and it is no older than it may be.
-/
theorem exists_placement_of_hit (h : workers.Reaches (before ++ event :: after) state)
    (hhit : event.hit? = some (print, response)) :
    ∃ (placement : Placement) (asked : Request) (age : Nat), before = placement.history ∧
      placement.Stores workers asked print response ∧ response.AllowsAge age ∧
      event.time ≤
        placement.put.time + 1000 * capped (workers.ceilingAfter placement.began) age ∧
      ∀ event ∈ placement.later, event.taken.action ≠ .empty (workers.sharding.shard print) := by
  have htaken := SharedEvent.taken_of_hit hhit
  obtain ⟨atHit, _, world, hatHit, _, hreply, htime, _⟩ := h.at_split
  rw [htaken] at hreply
  obtain ⟨entry, hfound, hfresh, rfl⟩ := Cache.exists_of_peek_hit hreply.symm
  obtain ⟨_, put, later, rfl, hput, hlater⟩ := hatHit.exists_put hfound
  obtain ⟨began, reading, during, asked, age, rfl, hstores, hage, hlifetime, hstored⟩ :=
    hatHit.exists_placement hput
  refine ⟨⟨began, reading, during, put, later⟩, asked, age, rfl, hstores, hage, ?_, hlater⟩
  rw [CacheEntry.isExpired_eq_false_iff, hlifetime] at hfresh
  dsimp only
  omega

/--
Where no ceiling is set while an entry is being stored, what is found is no
older than the ceiling in force when the entry was put in place.
-/
theorem time_le_of_hit (h : workers.Reaches (before ++ event :: after) state)
    (hhit : event.hit? = some (print, response)) :
    ∃ (placement : Placement) (asked : Request) (age : Nat), before = placement.history ∧
      placement.Stores workers asked print response ∧ response.AllowsAge age ∧
      ((∀ event ∈ placement.during, event.ceiling? = none) ->
        event.time ≤ placement.put.time + 1000 * capped (workers.ceilingAfter
          (placement.began ++ placement.reading :: placement.during)) age) := by
  obtain ⟨placement, asked, age, hbefore, hstores, hage, htime, _⟩ :=
    h.exists_placement_of_hit hhit
  refine ⟨placement, asked, age, hbefore, hstores, hage, ?_⟩
  intro hunset
  rw [hstores.ceilingAfter_put hunset]
  exact htime

end Reaches

/--
When a worker finds a response in the cache for its request, some worker had
fetched that response for a request with the same method, host, port and path,
and stored it.  The response may be kept; the time since it was put in place is
at most its age, and at most the ceiling that was in force when its insertion
began.  No purge was carried out whole in that time.
-/
theorem placement_of_hit {workers : CacheWorkers} {before after : List SharedEvent}
    {event : SharedEvent} {state : State} {request : Request} {print : Fingerprint}
    {response : Response} (hreach : workers.Reaches (before ++ event :: after) state)
    (htask : workers.tasks[event.worker]? = some (.forward request))
    (hhit : event.hit? = some (print, response)) :
    print = request.fingerprint ∧ ∃ (placement : Placement) (asked : Request) (age : Nat),
      before = placement.history ∧ placement.Stores workers asked print response ∧
      response.AllowsAge age ∧
      event.time ≤
        placement.put.time + 1000 * capped (workers.ceilingAfter placement.began) age ∧
      ∀ worker, workers.tasks[worker]? = some .clear ->
        ¬ (workers.steps .clear).Runs (takenBy worker placement.later) (.done ()) := by
  refine ⟨hreach.print_of_hit htask (SharedEvent.taken_of_hit hhit), ?_⟩
  obtain ⟨placement, asked, age, hbefore, hstores, hage, htime, hlater⟩ :=
    hreach.exists_placement_of_hit hhit
  exact ⟨placement, asked, age, hbefore, hstores, hage, htime,
    fun _ _ => Reaches.not_runs_clear hlater⟩

/-- Two workers with the same request, the second of which comes a minute later. -/
def minuteWorkers : CacheWorkers where
  handler := Handler.ofSettings {} .empty
  sharding := ⟨1, fun _ => 0, fun _ => Nat.zero_lt_one⟩
  tasks := List.replicate 2 (.forward (Request.bare .get "::1" 81 "/"))
  ceiling := none

/-- The first worker stores the response of the origin, and the second finds it. -/
def minuteHistory : List SharedEvent :=
  (minuteWorkers.play
    (fun action => (Serving.obliging []
      (Bytes.ofText "HTTP/1.1 204 No Content\r\nCache-Control: max-age=60\r\n\r\n")
      action).1)
    (List.replicate 11 (.step 0) ++ [.wait 60000, .step 1, .step 1])).1

/-- A response that is found after a minute was stored, and may be kept so long. -/
theorem placement_of_minute :
    ∃ before event response, minuteHistory = before ++ [event] ∧
      event.hit? = some ((Request.bare .get "::1" 81 "/").fingerprint, response) ∧
      ∃ (placement : Placement) (age : Nat), before = placement.history ∧
        response.AllowsAge age ∧ event.time ≤ placement.put.time + 1000 * age := by
  let response : Response :=
    ⟨"HTTP/1.1", .noContent, ⟨[⟨"Cache-Control", "max-age=60"⟩]⟩, .empty⟩
  have hlast : (minuteHistory.map fun event => (event.worker, event.hit?)).drop 12 =
      [(1, some ((Request.bare .get "::1" 81 "/").fingerprint, response))] := by
    decide +kernel
  rw [← List.map_drop] at hlast
  obtain ⟨event, hevent, heq⟩ := List.map_eq_singleton_iff.1 hlast
  have hsplit : minuteHistory = minuteHistory.take 12 ++ [event] := by
    rw [← hevent, List.take_append_drop]
  obtain ⟨hworker, hhit⟩ := Prod.mk.inj heq
  obtain ⟨state, hreach⟩ : ∃ state, minuteWorkers.Reaches minuteHistory state :=
    ⟨_, minuteWorkers.reaches_play _ _⟩
  rw [hsplit] at hreach
  have htask : minuteWorkers.tasks[event.worker]? =
      some (.forward (Request.bare .get "::1" 81 "/")) := by
    rw [hworker]
    rfl
  obtain ⟨_, placement, _, age, hbefore, _, hage, htime, _⟩ :=
    placement_of_hit hreach htask hhit
  have hcapped := capped_le (minuteWorkers.ceilingAfter placement.began) age
  exact ⟨_, event, response, hsplit, hhit, placement, age, hbefore, hage, by omega⟩

end CacheWorkers

end Intermediary

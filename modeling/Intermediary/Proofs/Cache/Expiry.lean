import Intermediary.Proofs.Cache.Users
import Intermediary.Proofs.Service.History
import Mathlib.Data.List.Induction

/-!
# Expiry under concurrent use

Lookups, insertions and purges go on at the same time, without taking turns,
and time passes between any two of their steps.  A lookup that has found an
entry too old comes back to remove it; by then another may have taken its place.

An entry that was put in place stays until another insertion takes its place, a
purge comes by, or a lookup removes it when it is too old.
-/

namespace Intermediary

open Program (Taken Guards guards_bind)

inductive CacheCall where
  | lookup (request : Request)
  | insert (request : Request) (response : Response)
  | clear
  | setCeiling (seconds : Nat)

namespace CacheCall

def steps (sharding : Sharding) : CacheCall -> Sharing (Option Response)
  | .lookup request => Sharing.lookup request.fingerprint
  | .insert request response => do
      Sharing.insert request.fingerprint response
      return none
  | .clear => do
      Sharing.clear sharding
      return none
  | .setCeiling seconds => do
      Sharing.perform (.setCeiling seconds)
      return none

def MayTake (call : CacheCall) (past : List (Taken SharedStep.Reply)) : SharedStep -> Prop
  | .peek print | .evict print =>
      ∃ request, call = .lookup request ∧ request.fingerprint = print
  | .put print entry =>
      ∃ request ceiling, call = .insert request entry.response ∧
        request.fingerprint = print ∧
        past = [⟨.ceiling, ceiling⟩, ⟨.clock, entry.storedAt⟩] ∧
        entry.response.lifetime? ceiling = some entry.lifetime
  | .empty _ => call = .clear
  | .setCeiling seconds => call = .setCeiling seconds
  | .ceiling | .clock => ∃ request response, call = .insert request response
  | .outside _ => False

/-- A call gives a response only if it is a lookup that was given it. -/
def MayGive (call : CacheCall) (past : List (Taken SharedStep.Reply))
    (result : Option Response) : Prop :=
  ∀ response, result = some response ->
    ∃ request, call = .lookup request ∧ past = [⟨.peek request.fingerprint, .hit response⟩]

private theorem mayGive_none (call : CacheCall) (past : List (Taken SharedStep.Reply)) :
    call.MayGive past none :=
  fun _ h => nomatch h

private theorem guards_lookup (request : Request) :
    Guards (MayTake (.lookup request)) (MayGive (.lookup request))
      (Sharing.lookup request.fingerprint) [] := by
  refine ⟨⟨request, rfl, rfl⟩, fun found => ?_⟩
  cases found with
  | hit response =>
      rintro _ ⟨⟩
      exact ⟨request, rfl, rfl⟩
  | missing => exact mayGive_none _ _
  | expired => exact ⟨⟨request, rfl, rfl⟩, fun _ => mayGive_none _ _⟩

private theorem guards_insert (request : Request) (response : Response) :
    Guards (MayTake (.insert request response)) (fun _ _ => True)
      (Sharing.insert request.fingerprint response) [] := by
  refine ⟨⟨request, response, rfl⟩, fun (ceiling : Option Nat) => ?_⟩
  dsimp only [Program.bind]
  cases hlifetime : response.lifetime? ceiling with
  | none => exact trivial
  | some lifetime =>
      refine ⟨⟨request, response, rfl⟩, fun (now : Nat) => ?_⟩
      exact ⟨⟨request, ceiling, rfl, rfl, rfl, hlifetime⟩, fun _ => trivial⟩

private theorem guards_clear (sharding : Sharding) :
    Guards (MayTake .clear) (fun _ _ => True) (Sharing.clear sharding) [] := by
  refine ((Sharing.guards_emptyShards _ []).weaken fun _ step hstep => ?_).mono
    fun _ _ _ => trivial
  obtain ⟨shard, rfl⟩ := hstep
  exact rfl

theorem guards_steps (sharding : Sharding) (call : CacheCall) :
    Guards call.MayTake call.MayGive (call.steps sharding) [] := by
  cases call with
  | lookup request => exact guards_lookup request
  | insert request response =>
      exact guards_bind ((guards_insert request response).mono
        fun _ _ _ => mayGive_none _ _)
  | clear => exact guards_bind ((guards_clear sharding).mono fun _ _ _ => mayGive_none _ _)
  | setCeiling seconds => exact ⟨rfl, fun _ => mayGive_none _ _⟩

end CacheCall

namespace SharedStep

variable {sharding : Sharding} {cache : Cache} {now : Nat} {print : Fingerprint}
  {entry : CacheEntry}

/-- What a step may do to an entry that is found before it. -/
private theorem find?_leave_of_find? (step : SharedStep) (h : cache.find? print = some entry) :
    (step.leave sharding cache now).find? print = some entry ∨
      (∃ newer, step = .put print newer) ∨ step = .empty (sharding.shard print) ∨
        step = .evict print ∧ entry.isExpired now = true := by
  cases step with
  | evict other =>
      by_cases hother : print = other
      · subst hother
        obtain hsame | ⟨_, old, hold, hexpired⟩ := cache.find?_evict print print now
        · exact .inl (hsame.trans h)
        · cases h.symm.trans hold
          exact .inr (.inr (.inr ⟨rfl, hexpired⟩))
      · exact .inl ((Cache.find?_evict_of_ne hother).trans h)
  | put other stored =>
      by_cases hother : print = other
      · exact .inr (.inl ⟨stored, hother ▸ rfl⟩)
      · exact .inl ((Cache.find?_put_of_ne hother).trans h)
  | empty shard =>
      by_cases hshard : sharding.shard print = shard
      · exact .inr (.inr (.inl (hshard ▸ rfl)))
      · refine .inl ?_
        rw [leave, Cache.find?_filter (sharding.shard · != shard)]
        simp [hshard, h]
  | _ => exact .inl h

end SharedStep

structure Callers where
  sharding : Sharding
  calls : List CacheCall
  ceiling : Option Nat

namespace Callers

variable (callers : Callers)

def users : CacheUsers (Option Response) where
  sharding := callers.sharding
  programs := callers.calls.map (·.steps callers.sharding)
  ceiling := callers.ceiling

/-- What may end the stay of an entry, however old it is. -/
inductive Supersedes (print : Fingerprint) (event : SharedEvent) : Prop where
  /-- An insertion for the same fingerprint. -/
  | replaces {request newer}
      (call : callers.calls[event.worker]? = some (.insert request newer.response))
      (print_eq : request.fingerprint = print)
      (taken : event.taken.action = .put print newer)
  /-- A purge that comes to the shard of the fingerprint. -/
  | clears (call : callers.calls[event.worker]? = some .clear)
      (taken : event.taken.action = .empty (callers.sharding.shard print))

/-- A lookup comes back for an entry, and finds it too old. -/
structure Expires (print : Fingerprint) (entry : CacheEntry) (event : SharedEvent) : Prop where
  call : ∃ request, callers.calls[event.worker]? = some (.lookup request) ∧
    request.fingerprint = print
  taken : event.taken.action = .evict print
  expired : entry.isExpired event.time = true

/-- No entry is lost before its time, and none is given after it. -/
structure KeepsFresh (history : List SharedEvent)
    (state : CacheUsers.State (Option Response)) : Prop where
  cache : state.cache = callers.users.cacheAfter history
  /--
  Only an insertion puts an entry in place, for its request, with its response,
  at the time that it read, and for as long as the ceiling that it read allows.
  -/
  placed {before put after print entry} :
    history = before ++ put :: after -> put.taken.action = .put print entry ->
      ∃ request ceiling,
        callers.calls[put.worker]? = some (.insert request entry.response) ∧
        request.fingerprint = print ∧
        takenBy put.worker before = [⟨.ceiling, ceiling⟩, ⟨.clock, entry.storedAt⟩] ∧
        entry.response.lifetime? ceiling = some entry.lifetime
  /-- At every moment since, the entry is there, or something has ended its stay. -/
  kept {before put during later print entry} :
    history = before ++ put :: (during ++ later) -> put.taken.action = .put print entry ->
      (callers.users.cacheAfter (before ++ put :: during)).find? print = some entry ∨
        ∃ event ∈ during,
          callers.Supersedes print event ∨ callers.Expires print entry event
  /-- While it is not too old, nothing but an insertion or a purge ends its stay. -/
  fresh {before put after print entry} :
    history = before ++ put :: after -> put.taken.action = .put print entry ->
      entry.isExpired state.now = false ->
      (∀ event ∈ after, ¬ callers.Supersedes print event) ->
      state.cache.find? print = some entry
  /-- A lookup leaves every entry that is not too old when its step is taken. -/
  spared {before event after request print entry} :
    history = before ++ event :: after ->
      callers.calls[event.worker]? = some (.lookup request) ->
      (callers.users.cacheAfter before).find? print = some entry ->
      entry.isExpired event.time = false ->
      (callers.users.cacheAfter (before ++ [event])).find? print = some entry
  /-- A lookup gives the response of an entry that it saw, and that was not too old then. -/
  answered {caller request response} :
    callers.calls[caller]? = some (.lookup request) ->
      state.programs[caller]? = some (.done (some response)) ->
      ∃ before event after entry, history = before ++ event :: after ∧
        event.worker = caller ∧
        (callers.users.cacheAfter before).find? request.fingerprint = some entry ∧
        entry.response = response ∧ entry.isExpired event.time = false

variable {callers} {history before after during later : List SharedEvent}
  {state : CacheUsers.State (Option Response)} {event put : SharedEvent} {print : Fingerprint}
  {entry : CacheEntry}

/-- What is left belongs to a call, and is what its own steps lead to. -/
theorem exists_runs (h : callers.users.Reaches history state) {caller : Nat}
    {rest : Sharing (Option Response)} (hrest : state.programs[caller]? = some rest) :
    ∃ call, callers.calls[caller]? = some call ∧
      (call.steps callers.sharding).Runs (takenBy caller history) rest := by
  obtain ⟨_, hprogram, hruns⟩ := h.exists_runs hrest
  rw [users, List.getElem?_map, Option.map_eq_some_iff] at hprogram
  obtain ⟨call, hcall, rfl⟩ := hprogram
  exact ⟨call, hcall, hruns⟩

/-- Every step was taken when the call of its worker allows it. -/
theorem mayTake (h : callers.users.Reaches (before ++ event :: after) state) :
    ∃ call, callers.calls[event.worker]? = some call ∧
      call.MayTake (takenBy event.worker before) event.taken.action := by
  obtain ⟨middle, next, _, hreach, hstep, _⟩ := h.at_split
  obtain ⟨call, hcall, hruns⟩ := exists_runs hreach hstep
  exact ⟨call, hcall, ((CacheCall.guards_steps _ call).sound hruns).1⟩

private theorem exists_insert (h : callers.users.Reaches (before ++ put :: after) state)
    (hput : put.taken.action = .put print entry) :
    ∃ request ceiling,
      callers.calls[put.worker]? = some (.insert request entry.response) ∧
      request.fingerprint = print ∧
      takenBy put.worker before = [⟨.ceiling, ceiling⟩, ⟨.clock, entry.storedAt⟩] ∧
      entry.response.lifetime? ceiling = some entry.lifetime := by
  obtain ⟨call, hcall, hmay⟩ := mayTake h
  rw [hput] at hmay
  obtain ⟨request, ceiling, rfl, hprint, hpast, hlifetime⟩ := hmay
  exact ⟨request, ceiling, hcall, hprint, hpast, hlifetime⟩

/-- A step leaves an entry where it is, or it is one that may end its stay. -/
theorem kept_step (h : callers.users.Reaches (before ++ event :: after) state)
    (hfound : (callers.users.cacheAfter before).find? print = some entry) :
    (callers.users.cacheAfter (before ++ [event])).find? print = some entry ∨
      callers.Supersedes print event ∨ callers.Expires print entry event := by
  obtain ⟨call, hcall, hmay⟩ := mayTake h
  rw [CacheUsers.cacheAfter_snoc]
  obtain hkept | ⟨newer, hput⟩ | hempty | ⟨hevict, hexpired⟩ :=
    event.taken.action.find?_leave_of_find? hfound
  · exact .inl hkept
  · rw [hput] at hmay
    obtain ⟨request, _, rfl, hprint, _⟩ := hmay
    exact .inr (.inl (.replaces hcall hprint hput))
  · rw [hempty] at hmay
    obtain rfl : call = .clear := hmay
    exact .inr (.inl (.clears hcall hempty))
  · rw [hevict] at hmay
    obtain ⟨request, rfl, hprint⟩ := hmay
    exact .inr (.inr ⟨⟨request, hcall, hprint⟩, hevict, hexpired⟩)

private theorem kept_of_put
    (h : callers.users.Reaches (before ++ put :: (during ++ later)) state)
    (hput : put.taken.action = .put print entry) :
    (callers.users.cacheAfter (before ++ put :: during)).find? print = some entry ∨
      ∃ event ∈ during,
        callers.Supersedes print event ∨ callers.Expires print entry event := by
  induction during using List.reverseRecOn generalizing later with
  | nil =>
      refine .inl ?_
      rw [CacheUsers.cacheAfter_snoc, hput]
      exact Cache.find?_put_self
  | append_singleton during event ih =>
      rw [List.append_assoc] at h
      obtain hfound | ⟨ended, hmem, hends⟩ := ih h
      · rw [List.singleton_append, ← List.cons_append, ← List.append_assoc] at h
        rw [← List.cons_append, ← List.append_assoc]
        exact (kept_step h hfound).imp_right fun hends =>
          ⟨event, List.mem_append_right _ List.mem_cons_self, hends⟩
      · exact .inr ⟨ended, List.mem_append_left _ hmem, hends⟩

/-- No step was taken later than now. -/
private theorem time_le (h : callers.users.Reaches history state) (hmem : event ∈ history) :
    event.time ≤ state.now := by
  obtain ⟨before, after, rfl⟩ := List.append_of_mem hmem
  obtain ⟨_, _, _, _, _, _, _, hle⟩ := h.at_split
  exact hle

private theorem fresh_of_put (h : callers.users.Reaches (before ++ put :: after) state)
    (hput : put.taken.action = .put print entry) (hfresh : entry.isExpired state.now = false)
    (hafter : ∀ event ∈ after, ¬ callers.Supersedes print event) :
    state.cache.find? print = some entry := by
  rw [← List.append_nil after] at h
  have hkept := kept_of_put h hput
  rw [List.append_nil] at h
  obtain hfound | ⟨event, hmem, hsupersedes | hexpires⟩ := hkept
  · rwa [h.cache_eq]
  · exact (hafter event hmem hsupersedes).elim
  · -- what was too old at an earlier step would be too old now
    have hle := time_le h (List.mem_append_right before (List.mem_cons_of_mem _ hmem))
    rw [entry.isExpired_mono hexpires.expired hle] at hfresh
    cases hfresh

private theorem spared_of_lookup (h : callers.users.Reaches (before ++ event :: after) state)
    {request : Request} (hcall : callers.calls[event.worker]? = some (.lookup request))
    (hfound : (callers.users.cacheAfter before).find? print = some entry)
    (hfresh : entry.isExpired event.time = false) :
    (callers.users.cacheAfter (before ++ [event])).find? print = some entry := by
  obtain hkept | (⟨hother, _, _⟩ | ⟨hother, _⟩) | hexpires := kept_step h hfound
  · exact hkept
  · cases hcall.symm.trans hother
  · cases hcall.symm.trans hother
  · rw [hexpires.expired] at hfresh
    cases hfresh

private theorem answered_of_done (h : callers.users.Reaches history state) {caller : Nat}
    {request : Request} {response : Response}
    (hcall : callers.calls[caller]? = some (.lookup request))
    (hdone : state.programs[caller]? = some (.done (some response))) :
    ∃ before event after entry, history = before ++ event :: after ∧
      event.worker = caller ∧
      (callers.users.cacheAfter before).find? request.fingerprint = some entry ∧
      entry.response = response ∧ entry.isExpired event.time = false := by
  obtain ⟨_, hsame, hruns⟩ := exists_runs h hdone
  cases hcall.symm.trans hsame
  obtain ⟨_, ⟨⟩, htaken⟩ :=
    (CacheCall.guards_steps callers.sharding _).sound hruns response rfl
  rw [List.nil_append, ← List.nil_append [_]] at htaken
  obtain ⟨before, event, after, rfl, hworker, hevent, _⟩ := exists_of_takenBy_eq htaken
  obtain ⟨middle, _, world, hreach, _, hreply, htime, _⟩ := h.at_split
  rw [hevent] at hreply
  obtain ⟨entry, hfound, hfresh, hresponse⟩ := Cache.exists_of_peek_hit hreply.symm
  rw [hreach.cache_eq] at hfound
  exact ⟨before, event, after, entry, rfl, hworker, hfound, hresponse, htime ▸ hfresh⟩

theorem keepsFresh_of_reaches (h : callers.users.Reaches history state) :
    callers.KeepsFresh history state where
  cache := h.cache_eq
  placed := by
    rintro _ _ _ _ _ rfl hput
    exact exists_insert h hput
  kept := by
    rintro _ _ _ _ _ _ rfl hput
    exact kept_of_put h hput
  fresh := by
    rintro _ _ _ _ _ rfl hput hfresh hafter
    exact fresh_of_put h hput hfresh hafter
  spared := by
    rintro _ _ _ _ _ _ rfl hcall hfound hfresh
    exact spared_of_lookup h hcall hfound hfresh
  answered := answered_of_done h

/-- A response that may be kept for some seconds. -/
def aging (seconds : String) : Response :=
  ⟨"HTTP/1.1", .noContent, ⟨[⟨"Cache-Control", "max-age=" ++ seconds⟩]⟩, .empty⟩

def raced : Callers :=
  let request := Request.bare .get "::1" 81 "/"
  { sharding := ⟨1, fun _ => 0, fun _ => Nat.zero_lt_one⟩
    calls := [.insert request (aging "1"), .lookup request, .insert request (aging "60"),
      .lookup request]
    ceiling := none }

/--
A lookup sees the first entry when it is too old.  Before it comes back, the
second entry has taken its place; then the other lookup begins.
-/
def racedPlay : List SharedEvent × CacheUsers.State (Option Response) :=
  raced.users.play (fun action => (Serving.obliging [] [] action).1)
    [⟨0, 0⟩, ⟨0, 0⟩, ⟨0, 0⟩, ⟨1001, 1⟩, ⟨0, 2⟩, ⟨0, 2⟩, ⟨0, 2⟩, ⟨0, 1⟩, ⟨60000, 3⟩]

/-- The second entry is still there after the lookup has come back for the first. -/
theorem keepsFresh_of_raced :
    racedPlay.1.map (·.worker) = [0, 0, 0, 1, 2, 2, 2, 1, 3] ∧
      racedPlay.2.cache.find? (Request.bare .get "::1" 81 "/").fingerprint =
        some ⟨aging "60", 1001, 60⟩ ∧
      raced.KeepsFresh racedPlay.1 racedPlay.2 :=
  ⟨by decide +kernel, by decide +kernel, keepsFresh_of_reaches (raced.users.reaches_play _ _)⟩

end Callers

end Intermediary

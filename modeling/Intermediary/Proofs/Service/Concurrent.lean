import Intermediary.Proofs.Metrics
import Intermediary.Proofs.Service.Call

/-!
# Calls that are served at once

Any number of calls to the service share a cache and the metrics.  A call can
begin at any time, and between two of its actions the others take theirs.  So do
those who only use the cache; they record nothing but the number of its entries.

The stripes are left out of account: a call takes one whenever it asks for it.
What others do to the cache is arbitrary, which allows them to change it also
while an entry is looked up or stored.
-/

namespace Intermediary

open Serving

def Action.records (cache : Cache) (now : Nat) : Action -> List Measure
  | .measure recording => [recording]
  | .lookup print => (cache.lookup print now).2.2
  | .store print response => (cache.insert print response now).2
  | _ => []

def Occurrence.Agrees (cache : Cache) (now : Nat) : Occurrence -> Prop
  | ⟨.lookup print, found, _, _⟩ => found = (cache.lookup print now).1
  | _ => True

structure ServedCall where
  client : String
  history : History
  recorded : List Measure
  rest : Serving Unit

namespace ServedCall

def opened (handler : Handler) (client : String) : ServedCall :=
  ⟨client, [], [], Service.serve handler client⟩

def call (handler : Handler) (served : ServedCall) : Call :=
  ⟨handler, served.client, served.history⟩

def isDone (served : ServedCall) : Bool :=
  match served.rest with
  | .done _ => true
  | .act _ _ => false

end ServedCall

/-- The calls that were made so far, with what they share. -/
structure ServiceCalls where
  handler : Handler
  cache : Cache
  now : Nat
  /-- All that was recorded, the first first. -/
  recorded : List Measure
  made : List ServedCall

namespace ServiceCalls

variable (service : ServiceCalls)

def opened (handler : Handler) (cache : Cache) : ServiceCalls :=
  ⟨handler, cache, 0, [], []⟩

def calls : List Call :=
  service.made.map (ServedCall.call service.handler)

def report : Metrics.Report :=
  Metrics.report service.recorded

def begin (client : String) : ServiceCalls :=
  { service with made := service.made ++ [.opened service.handler client] }

def take (place : Nat) (served : ServedCall) (o : Occurrence) (rest : Serving Unit) :
    ServiceCalls :=
  let records := o.action.records service.cache service.now
  { service with
    cache := o.action.leave service.cache service.now
    recorded := service.recorded ++ records
    made := service.made.set place
      { served with
        history := served.history ++ [o]
        recorded := served.recorded ++ records
        rest } }

/-- One step of a call, of the clock, or of others who use the cache. -/
inductive Step : ServiceCalls -> Prop where
  | begin (client : String) : Step (service.begin client)
  | wait (milliseconds : Nat) : Step { service with now := service.now + milliseconds }
  | others (cache : Cache) (gauges : List Measure)
      (h : ∀ recording ∈ gauges, recording.isGauge = true) :
      Step { service with cache, recorded := service.recorded ++ gauges }
  | take {place served} (o : Occurrence) {next : o.action.Reply -> Serving Unit}
      (h : service.made[place]? = some served) (hrest : served.rest = .act o.action next)
      (ho : o.Possible) (hagrees : o.Agrees service.cache service.now) :
      Step (service.take place served o (next o.reply))

/-- Steps of the calls and of others lead from one state to another. -/
inductive Reaches (start : ServiceCalls) : ServiceCalls -> Prop where
  | here : Reaches start start
  | snoc {service next} (h : Reaches start service) (hstep : service.Step next) :
      Reaches start next

end ServiceCalls

/-! ## A played run -/

def Serving.World.agreeing (world : World) (cache : Cache) (now : Nat) : World
  | .lookup print => ((cache.lookup print now).1, [], [])
  | action => world action

namespace ServiceCalls

/-- The next action of a call is carried out, if there is one. -/
def turn (world : World) (service : ServiceCalls) (place : Nat) : ServiceCalls :=
  match service.made[place]? with
  | none => service
  | some served =>
      match served.rest with
      | .done _ => service
      | .act action next =>
          let o := (world.agreeing service.cache service.now).occurrence action
          service.take place served o (next o.reply)

def play (handler : Handler) (cache : Cache) (world : World) (clients : List String)
    (turns : List Nat) : ServiceCalls :=
  turns.foldl (turn world) (clients.foldl begin (opened handler cache))

private theorem possible_agreeing {world : World}
    (h : ∀ action, (world.occurrence action).Possible) (cache : Cache) (now : Nat)
    (action : Action) : ((world.agreeing cache now).occurrence action).Possible := by
  cases action with
  | lookup print => exact ⟨rfl, rfl⟩
  | _ => exact h _

private theorem agrees_agreeing (world : World) (cache : Cache) (now : Nat) (action : Action) :
    ((world.agreeing cache now).occurrence action).Agrees cache now := by
  cases action with
  | lookup print => rfl
  | _ => exact trivial

theorem reaches_play {world : World} (h : ∀ action, (world.occurrence action).Possible)
    (handler : Handler) (cache : Cache) (clients : List String) (turns : List Nat) :
    (opened handler cache).Reaches (play handler cache world clients turns) := by
  have hbegun : ∀ service, (opened handler cache).Reaches service ->
      (opened handler cache).Reaches (clients.foldl begin service) := by
    induction clients with
    | nil => exact fun _ hservice => hservice
    | cons client clients ih => exact fun _ hservice => ih _ (hservice.snoc (.begin client))
  have hturns : ∀ service, (opened handler cache).Reaches service ->
      (opened handler cache).Reaches (turns.foldl (turn world) service) := by
    induction turns with
    | nil => exact fun _ hservice => hservice
    | cons place turns ih =>
        refine fun service hservice => ih _ ?_
        unfold turn
        split
        · exact hservice
        · next served hserved =>
          split
          · exact hservice
          · next action next hrest =>
            exact hservice.snoc (.take _ hserved hrest (possible_agreeing h ..)
              (agrees_agreeing ..))
  exact hturns _ (hbegun _ .here)

end ServiceCalls

/-! ## What is recorded on whose account -/

def Metrics.charges (measures : List Measure) : List Measure :=
  measures.filter fun recording => ! recording.isGauge

namespace Metrics

theorem charges_append (first last : List Measure) :
    charges (first ++ last) = charges first ++ charges last :=
  List.filter_append ..

theorem charges_eq_nil {gauges : List Measure}
    (h : ∀ recording ∈ gauges, recording.isGauge = true) : charges gauges = [] :=
  List.filter_eq_nil_iff.2 fun recording hmem => by simp [h recording hmem]

end Metrics

open Metrics

/-- What was recorded on an account: what was measured in a history, and one result each
time the cache was asked. -/
structure History.Recorded (history : History) (recorded : List Measure)
    (results : List LookupResult) : Prop where
  looked : results.map (· == .hit) = history.tally.lookups.map Option.isSome
  charged : (charges recorded).Perm
    (charges history.tally.measured ++ results.map .lookup)

namespace History.Recorded

variable {history later : History} {recorded added : List Measure}
  {results further : List LookupResult}

theorem append (h : history.Recorded recorded results) (h' : later.Recorded added further) :
    History.Recorded (history ++ later) (recorded ++ added) (results ++ further) where
  looked := by
    rw [tally_append, List.map_append, h.looked, h'.looked]
    exact List.map_append.symm
  charged := by
    rw [charges_append, tally_append, List.map_append]
    refine (h.charged.append h'.charged).trans ?_
    rw [show charges (history.tally.and later.tally).measured =
      charges history.tally.measured ++ charges later.tally.measured from charges_append ..,
      List.append_assoc, List.append_assoc]
    exact (List.perm_append_comm_assoc ..).append_left _

/-- What a lookup records: its result, and perhaps how many entries are left. -/
theorem lookup (cache : Cache) (now : Nat) (print : Fingerprint) (toClient fromOrigin : Bytes) :
    ∃ result, History.Recorded
      [⟨.lookup print, (cache.lookup print now).1, toClient, fromOrigin⟩]
      (cache.lookup print now).2.2 [result] := by
  unfold Cache.lookup
  cases cache.peek print now with
  | hit response => exact ⟨.hit, rfl, .of_eq rfl⟩
  | missing => exact ⟨.miss, rfl, .of_eq rfl⟩
  | expired =>
      refine ⟨.expired, rfl, .of_eq ?_⟩
      have hgauges : charges (cache.evict print now).2 = [] := by
        unfold Cache.evict
        split
        · split <;> rfl
        · rfl
      show charges ((cache.evict print now).2 ++ [.lookup .expired]) = _
      rw [charges_append, hgauges]
      rfl

/-- What is recorded while an action is carried out. -/
theorem occurrence {o : Occurrence} {cache : Cache} {now : Nat} (h : o.Agrees cache now) :
    ∃ results, History.Recorded [o] (o.action.records cache now) results := by
  obtain ⟨action, reply, toClient, fromOrigin⟩ := o
  cases action with
  | lookup print =>
      obtain rfl : reply = (cache.lookup print now).1 := h
      obtain ⟨result, hrecorded⟩ := lookup cache now print toClient fromOrigin
      exact ⟨_, hrecorded⟩
  | store print response =>
      refine ⟨[], rfl, .of_eq ?_⟩
      have hgauges : charges (cache.insert print response now).2 = [] := by
        unfold Cache.insert
        split <;> rfl
      exact hgauges
  | measure recording => exact ⟨[], rfl, .of_eq (List.append_nil _).symm⟩
  | _ => exact ⟨[], rfl, .refl _⟩

end History.Recorded

/-- Carrying out one more action leads to what follows on its reply. -/
theorem Serving.Reaches.snoc {α : Type} {program : Serving α} {history : History}
    (o : Occurrence) {next : o.action.Reply -> Serving α}
    (h : Serving.Reaches program history (.act o.action next)) (ho : o.Possible) :
    Serving.Reaches program (history ++ [o]) (next o.reply) := by
  generalize hrest : Program.act o.action next = rest at h
  induction h with
  | here =>
      subst hrest
      exact .more o ho .here
  | more first hfirst _ ih => exact .more first hfirst (ih hrest)

/-- A call in which the service was carried out as far as its history tells. -/
structure ServedCall.Kept (handler : Handler) (served : ServedCall) : Prop where
  run : Serving.Reaches (Service.serve handler served.client) served.history served.rest
  account : ∃ results, served.history.Recorded served.recorded results

private theorem ServedCall.kept_opened (handler : Handler) (client : String) :
    (ServedCall.opened handler client).Kept handler where
  run := .here
  account := ⟨[], rfl, .refl _⟩

namespace ServiceCalls

variable {start service next : ServiceCalls}

/-- Every call is in order, and nothing was recorded but on their accounts. -/
structure Sound (service : ServiceCalls) : Prop where
  made : ∀ served ∈ service.made, served.Kept service.handler
  recorded : (charges service.recorded).Perm
    (service.made.flatMap fun served => charges served.recorded)

namespace Sound

theorem opened (handler : Handler) (cache : Cache) : (opened handler cache).Sound where
  made := List.forall_mem_nil _
  recorded := .refl _

private theorem begin (h : service.Sound) (client : String) : (service.begin client).Sound where
  made := List.forall_mem_append.2
    ⟨h.made, List.forall_mem_singleton.2 (ServedCall.kept_opened service.handler client)⟩
  recorded := by
    refine h.recorded.trans (.of_eq ?_)
    rw [ServiceCalls.begin, List.flatMap_append]
    exact (List.append_nil _).symm

private theorem others (h : service.Sound) (cache : Cache) {gauges : List Measure}
    (hgauges : ∀ recording ∈ gauges, recording.isGauge = true) :
    Sound { service with cache, recorded := service.recorded ++ gauges } where
  made := h.made
  recorded := by
    rw [charges_append, charges_eq_nil hgauges, List.append_nil]
    exact h.recorded

private theorem take {place : Nat} {served : ServedCall} {o : Occurrence}
    {following : o.action.Reply -> Serving Unit} (h : service.Sound)
    (hserved : service.made[place]? = some served) (hrest : served.rest = .act o.action following)
    (ho : o.Possible) (hagrees : o.Agrees service.cache service.now) :
    (service.take place served o (following o.reply)).Sound := by
  obtain ⟨hlt, hget⟩ := List.getElem?_eq_some_iff.1 hserved
  obtain ⟨before, after, hmade, _, hset⟩ := List.exists_of_set hlt
  rw [hget] at hmade
  have hkept := h.made served (List.mem_of_getElem? hserved)
  obtain ⟨results, haccount⟩ := hkept.account
  obtain ⟨further, hadded⟩ := History.Recorded.occurrence hagrees
  constructor
  · intro other hmem
    obtain hmem | rfl := List.mem_or_eq_of_mem_set hmem
    · exact h.made other hmem
    · exact ⟨Serving.Reaches.snoc o (hrest ▸ hkept.run) ho, _, haccount.append hadded⟩
  · have hrecorded := h.recorded
    unfold ServiceCalls.take
    dsimp only
    rw [hmade, List.flatMap_append, List.flatMap_cons] at hrecorded
    rw [hset, List.flatMap_append, List.flatMap_cons, charges_append, charges_append]
    -- what is new stands at the end of all, and in the middle of the accounts
    refine (hrecorded.append_right _).trans ?_
    rw [List.append_assoc, List.append_assoc, List.append_assoc]
    exact (List.perm_append_comm.append_left _).append_left _

theorem step (h : service.Sound) (hstep : service.Step next) : next.Sound := by
  cases hstep with
  | begin client => exact h.begin client
  | wait milliseconds => exact ⟨h.made, h.recorded⟩
  | others cache gauges hgauges => exact h.others cache hgauges
  | take o hserved hrest ho hagrees => exact h.take hserved hrest ho hagrees

theorem of_reaches (h : start.Reaches service) (hstart : start.Sound) : service.Sound := by
  induction h with
  | here => exact hstart
  | snoc _ hstep ih => exact ih.step hstep

end Sound

end ServiceCalls

end Intermediary

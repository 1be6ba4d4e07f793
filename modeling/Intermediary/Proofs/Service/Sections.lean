import Intermediary.Proofs.Service.Shared

/-!
# Sections

While it passes on a request through the cache, a worker holds the stripe of the
request in two sections: one in which it asks the cache, and writes what it has
found, and one in which it offers the cache what it has fetched.  It takes the
stripe with empty hands each time, and gives it back whatever becomes of the
actions between.
-/

namespace Intermediary

open Program (Taken Guards guards_pure guards_bind)

namespace SharedStep

def lock? : SharedStep -> Option Nat
  | .outside (.lock stripe) => some stripe
  | _ => none

def unlock? : SharedStep -> Option Nat
  | .outside (.unlock stripe) => some stripe
  | _ => none

def heldAfter (held : List Nat) : SharedStep -> List Nat
  | .outside (.lock stripe) => stripe :: held
  | .outside (.unlock stripe) => held.erase stripe
  | _ => held

variable {step : SharedStep} {held : List Nat} {stripe : Nat}

private theorem heldAfter_of_aside (hlock : step.lock? = none)
    (hunlock : step.unlock? = none) : step.heldAfter held = held := by
  unfold heldAfter
  split
  · cases hlock
  · cases hunlock
  · rfl

theorem mem_heldAfter_of_lock (h : step.lock? = some stripe) :
    stripe ∈ step.heldAfter held := by
  unfold lock? at h
  split at h
  · cases h
    exact List.mem_cons_self
  · cases h

theorem mem_heldAfter_of_mem (h : stripe ∈ held)
    (hkeep : step.unlock? ≠ some stripe) : stripe ∈ step.heldAfter held := by
  unfold heldAfter
  split
  · exact List.mem_cons_of_mem _ h
  · next freed =>
    have hne : stripe ≠ freed := by
      rintro rfl
      exact hkeep rfl
    exact (List.mem_erase_of_ne hne).2 h
  · exact h

theorem of_mem_heldAfter
    (hfreed : ∀ freed, step.unlock? = some freed -> held = [freed])
    (h : stripe ∈ step.heldAfter held) :
    step.lock? = some stripe ∨ stripe ∈ held ∧ step.unlock? ≠ some stripe := by
  unfold heldAfter at h
  split at h
  · next locked =>
    rcases List.mem_cons.1 h with rfl | hmem
    · exact .inl rfl
    · exact .inr ⟨hmem, by simp [unlock?]⟩
  · next freed =>
    rw [hfreed freed rfl, List.erase_cons_head] at h
    cases h
  · next hlock hunlock =>
    refine .inr ⟨h, fun heq => ?_⟩
    unfold unlock? at heq
    split at heq
    · exact hunlock _ rfl
    · cases heq

theorem length_heldAfter (hlocked : step.lock?.isSome = true -> held = [])
    (h : held.length ≤ 1) : (step.heldAfter held).length ≤ 1 := by
  unfold heldAfter
  split
  · rw [hlocked rfl]
    exact Nat.le_refl 1
  · exact Nat.le_trans List.length_erase_le h
  · exact h

/-- Whether a step is about the entries of the cache, or the times they are given. -/
def isCaching : SharedStep -> Bool
  | .peek _ | .evict _ | .ceiling | .clock | .put _ _ => true
  | _ => false

/-- Whether a step waits for the origin, or for a host to connect to. -/
def isExchange : SharedStep -> Bool
  | .outside (.connect _ _) | .outside (.send _) | .outside (.receive _ _) => true
  | _ => false

def isAnswer : SharedStep -> Bool
  | .outside (.answer _) => true
  | _ => false

end SharedStep

/-- The stripes that a worker holds after the steps it has taken. -/
def heldBy (past : List (Taken SharedStep.Reply)) : List Nat :=
  past.foldl (fun held taken => taken.action.heldAfter held) []

@[simp] theorem heldBy_snoc (past : List (Taken SharedStep.Reply))
    (taken : Taken SharedStep.Reply) :
    heldBy (past ++ [taken]) = taken.action.heldAfter (heldBy past) := by
  simp [heldBy]

/-- Whether a worker has just found a response in the cache. -/
def foundLast (past : List (Taken SharedStep.Reply)) : Bool :=
  match past.getLast? with
  | some ⟨.peek _, .hit _⟩ => true
  | _ => false

def MayHold (handler : Handler) (request : Request) (past : List (Taken SharedStep.Reply)) :
    SharedStep -> Prop
  | .outside (.lock stripe) =>
      stripe = handler.stripes.index request.fingerprint ∧ heldBy past = []
  | .outside (.unlock stripe) =>
      stripe = handler.stripes.index request.fingerprint ∧
        heldBy past = [handler.stripes.index request.fingerprint]
  | .outside (.answer _) =>
      heldBy past =
        if foundLast past then [handler.stripes.index request.fingerprint] else []
  | .outside _ => heldBy past = []
  | .peek _ | .evict _ | .ceiling | .clock | .put _ _ =>
      heldBy past = [handler.stripes.index request.fingerprint]
  | .empty _ | .setCeiling _ => False

/-! ## Along a task -/

section WorkerTask

open Sharing

variable {handler : Handler} {request : Request} {past : List (Taken SharedStep.Reply)}
  {held : List Nat} {α : Type} {post : List (Taken SharedStep.Reply) -> α -> Prop}

theorem heldBy_aside (step : SharedStep) (reply : step.Reply) (hlock : step.lock? = none)
    (hunlock : step.unlock? = none) (h : heldBy past = held) :
    heldBy (past ++ [⟨step, reply⟩]) = held := by
  rw [heldBy_snoc, SharedStep.heldAfter_of_aside hlock hunlock, h]

/-- An action that is no use of the cache or a stripe leaves the hands as they were. -/
theorem holds_aside {action : Action} {next : action.Reply -> Serving α}
    (haction : ofAction action = perform (.outside action))
    (hlock : SharedStep.lock? (.outside action) = none)
    (hunlock : SharedStep.unlock? (.outside action) = none) (h : heldBy past = held)
    (hmay : MayHold handler request past (.outside action))
    (hnext : ∀ reply after, heldBy after = held -> foundLast after = false ->
      Guards (MayHold handler request) post (ofServing (next reply)) after) :
    Guards (MayHold handler request) post
      (ofServing (Serving.perform action >>= next)) past :=
  guards_outside haction hmay fun reply =>
    hnext reply _ (heldBy_aside (.outside action) reply hlock hunlock h)
      (by simp [foundLast])

private theorem holds_lock {next : Unit -> Serving α} (h : heldBy past = [])
    (hnext : ∀ after, heldBy after = [handler.stripes.index request.fingerprint] ->
      Guards (MayHold handler request) post (ofServing (next ())) after) :
    Guards (MayHold handler request) post (ofServing (Serving.perform
      (.lock (handler.stripes.index request.fingerprint)) >>= next)) past := by
  refine guards_outside rfl ⟨rfl, h⟩ fun _ => hnext _ ?_
  rw [heldBy_snoc, h]
  rfl

private theorem holds_unlock {next : Unit -> Serving α}
    (h : heldBy past = [handler.stripes.index request.fingerprint])
    (hnext : ∀ after, heldBy after = [] -> foundLast after = false ->
      Guards (MayHold handler request) post (ofServing (next ())) after) :
    Guards (MayHold handler request) post (ofServing (Serving.perform
      (.unlock (handler.stripes.index request.fingerprint)) >>= next)) past := by
  refine guards_outside rfl ⟨rfl, h⟩ fun _ => hnext _ ?_ (by simp [foundLast])
  rw [heldBy_snoc, h]
  exact List.erase_cons_head _ _

/-- The cache is asked, and an entry that is too old removed, with the stripe in hand. -/
theorem holds_lookup {next : Option Response -> Serving α}
    (h : heldBy past = [handler.stripes.index request.fingerprint])
    (hfound : ∀ response after, heldBy after = [handler.stripes.index request.fingerprint] ->
      foundLast after = true ->
      Guards (MayHold handler request) post (ofServing (next (some response))) after)
    (hmissed : ∀ after, heldBy after = [handler.stripes.index request.fingerprint] ->
      Guards (MayHold handler request) post (ofServing (next none)) after) :
    Guards (MayHold handler request) post
      (ofServing (Serving.perform (.lookup request.fingerprint) >>= next)) past := by
  refine ⟨h, fun found => ?_⟩
  have hpeeked := heldBy_aside (.peek request.fingerprint) found rfl rfl h
  cases found with
  | hit response => exact hfound response _ hpeeked (by simp [foundLast])
  | missing => exact hmissed _ hpeeked
  | expired =>
      refine ⟨hpeeked, fun reply => hmissed _ ?_⟩
      exact heldBy_aside (.evict request.fingerprint) reply rfl rfl hpeeked

private theorem holds_fetch (h : heldBy past = []) :
    Guards (MayHold handler request) (fun after _ => heldBy after = [] ∧ foundLast after = false)
      (ofServing (Service.fetch handler request)) past := by
  unfold Service.fetch
  refine holds_aside rfl rfl rfl h h fun connected past h hnone => ?_
  cases connected with
  | error cause => exact guards_pure ⟨h, hnone⟩
  | ok =>
      refine holds_aside rfl rfl rfl h h fun sent past h hnone => ?_
      cases sent with
      | error cause => exact guards_pure ⟨h, hnone⟩
      | ok =>
          have hread : Guards (MayHold handler request)
              (fun after _ => heldBy after = [] ∧ foundLast after = false)
              (ofServing (Service.readMessage .origin
                (Response.read handler.limits request.method))) past :=
            holds_aside rfl rfl rfl h h fun _ _ h hnone => guards_pure ⟨h, hnone⟩
          refine guards_then hread fun after result hafter => ?_
          cases result with
          | ok found => exact guards_pure hafter
          | error fault => cases fault <;> exact guards_pure hafter

private theorem holds_respondWith {response : Response} {use : CacheUse} (h : heldBy past = held)
    (hmay : MayHold handler request past (.outside (.answer response.render))) :
    Guards (MayHold handler request) (fun after _ => heldBy after = held)
      (ofServing (Service.respondWith response use)) past := by
  have hanswer : Guards (MayHold handler request) (fun after _ => heldBy after = held)
      (ofServing (Service.respond response)) past := by
    refine holds_aside rfl rfl rfl h hmay fun answered _ h _ => ?_
    cases answered <;> exact guards_pure h
  refine guards_then hanswer fun after result hafter => ?_
  cases result <;> exact guards_pure hafter

/-- A response that was not found is written with empty hands. -/
theorem holds_answer {response : Response} {use : CacheUse} (h : heldBy past = [])
    (hnone : foundLast past = false) :
    Guards (MayHold handler request) (fun after _ => heldBy after = [])
      (ofServing (Service.respondWith response use)) past := by
  refine holds_respondWith h ?_
  show heldBy past = _
  rw [h, hnone]
  rfl

private theorem holds_forwardPast (h : heldBy past = []) :
    Guards (MayHold handler request) (fun after _ => heldBy after = [])
      (ofServing (Service.forwardPast handler request)) past := by
  refine guards_then (holds_fetch h) fun after result hafter => ?_
  cases result with
  | error e => exact guards_pure hafter.1
  | ok response => exact holds_answer hafter.1 hafter.2

/-- The stripe is held through all steps of an insertion. -/
theorem holds_store {print : Fingerprint} {response : Response}
    (h : heldBy past = [handler.stripes.index request.fingerprint]) :
    Guards (MayHold handler request)
      (fun after _ => heldBy after = [handler.stripes.index request.fingerprint])
      (store print response) past := by
  refine ⟨h, fun (ceiling : Option Nat) => ?_⟩
  have hasked := heldBy_aside .ceiling ceiling rfl rfl h
  show Guards (MayHold handler request) _
    (if (response.lifetime? ceiling).isSome then _ else _) _
  split
  · refine ⟨hasked, fun (again : Option Nat) => ?_⟩
    have hagain := heldBy_aside .ceiling again rfl rfl hasked
    dsimp only [Program.bind]
    cases response.lifetime? again with
    | none => exact hagain
    | some lifetime =>
        refine ⟨hagain, fun (now : Nat) => ?_⟩
        have hclock := heldBy_aside .clock now rfl rfl hagain
        exact ⟨hclock, fun _ => heldBy_aside (.put _ _) _ rfl rfl hclock⟩
  · exact hasked

private theorem holds_forwardMiss (h : heldBy past = []) :
    Guards (MayHold handler request) (fun after _ => heldBy after = [])
      (ofServing (Service.forwardMiss handler request
        (handler.stripes.index request.fingerprint))) past := by
  refine guards_then (holds_fetch h) fun after result hafter => ?_
  cases result with
  | error e => exact guards_pure hafter.1
  | ok response =>
      refine holds_lock hafter.1 fun _ hlocked => ?_
      refine guards_bind ((holds_store hlocked).mono fun _ _ hstored => ?_)
      exact holds_unlock hstored fun _ hempty hnone => holds_answer hempty hnone

/-- A worker that passes on a request ends with empty hands as it began. -/
theorem holds_forward (h : heldBy past = []) :
    Guards (MayHold handler request) (fun after _ => heldBy after = [])
      (ofServing (Service.forward handler request)) past := by
  unfold Service.forward
  split
  · refine holds_lock h fun _ hlocked => holds_lookup hlocked ?_ ?_
    · intro response after hheld hfound
      have hanswer : MayHold handler request after (.outside (.answer response.render)) :=
        hheld.trans (if_pos hfound).symm
      refine guards_then (holds_respondWith hheld hanswer) fun _ _ hanswered => ?_
      exact holds_unlock hanswered fun _ hempty _ => guards_pure hempty
    · intro after hheld
      exact holds_unlock hheld fun _ hempty _ => holds_forwardMiss hempty
  · exact holds_forwardPast h

end WorkerTask

namespace CacheWorkers

def MayHold (workers : CacheWorkers) (past : List (Taken SharedStep.Reply)) (step : SharedStep) :
    WorkerTask -> Prop
  | .forward request => Intermediary.MayHold workers.handler request past step
  | .clear | .setCeiling _ =>
      heldBy past = [] ∧ step.lock? = none ∧ step.unlock? = none ∧ step.isCaching = false

private theorem holds_emptyShards (workers : CacheWorkers) (shards : List Nat)
    {past : List (Taken SharedStep.Reply)} (h : heldBy past = []) :
    Guards (fun past step => workers.MayHold past step .clear) (fun after _ => heldBy after = [])
      (Sharing.emptyShards shards) past := by
  induction shards generalizing past with
  | nil => exact h
  | cons shard shards ih =>
      exact ⟨⟨h, rfl, rfl, rfl⟩, fun reply =>
        ih (heldBy_aside (.empty shard) reply rfl rfl h)⟩

theorem holds_steps (workers : CacheWorkers) (task : WorkerTask) :
    Guards (fun past step => workers.MayHold past step task) (fun after _ => heldBy after = [])
      (workers.steps task) [] := by
  cases task with
  | forward request =>
      exact guards_bind ((holds_forward rfl).mono fun _ _ hlast => guards_pure hlast)
  | clear => exact workers.holds_emptyShards _ rfl
  | setCeiling seconds => exact ⟨⟨rfl, rfl, rfl, rfl⟩, fun reply =>
      heldBy_aside (.setCeiling seconds) reply rfl rfl rfl⟩

end CacheWorkers

end Intermediary

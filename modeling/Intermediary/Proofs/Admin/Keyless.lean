import Intermediary.Admin
import Intermediary.Proofs.Cache.TimedMap

/-!
# Requests without the key

The administration interface works beside the proxy, which uses the same cache
and takes up and ends connections meanwhile.  A request that does not bear the
key is refused before its method, its path or its body count.  Nobody else can
tell that it was made: without it every other answer is the same, and so is what
is left behind.
-/

namespace Intermediary

namespace AdminRequest

variable {request : AdminRequest}

/-- The first field of authorization is the scheme and the key, to the byte. -/
def Bears (key : String) (request : AdminRequest) : Prop :=
  request.field? "authorization" = some (Bytes.ofText (Admin.scheme ++ key))

instance (key : String) (request : AdminRequest) : Decidable (request.Bears key) :=
  inferInstanceAs (Decidable (_ = _))

private theorem field?_of_text? {name text : String} (h : request.text? name = some text) :
    request.field? name = some (Bytes.ofText text) := by
  obtain ⟨value, hfield, hvalue⟩ := Option.bind_eq_some_iff.1 h
  split at hvalue
  · rw [hfield, Bytes.ofText_of_text? hvalue]
  · cases hvalue

end AdminRequest

namespace Admin

variable {admin : Admin} {request : AdminRequest}

private theorem bears_of_isAuthorized (h : admin.isAuthorized request = true) :
    request.Bears admin.key :=
  AdminRequest.field?_of_text? (beq_iff_eq.1 h)

/-- Whoever does not bear the key learns nothing of the state and leaves it as it is. -/
theorem answer_of_not_bears (h : ¬ request.Bears admin.key) :
    admin.answer request = (trimmed request (refusing .unauthorized), admin) := by
  have hdenied : ¬ admin.isAuthorized request = true := mt bears_of_isAuthorized h
  unfold answer
  rw [if_neg hdenied]

private theorem key_setCeiling (admin : Admin) (request : AdminRequest) :
    (admin.setCeiling request).2.key = admin.key := by
  unfold setCeiling
  split
  · rfl
  · split
    · rfl
    · split <;> rfl

private theorem key_dispatch (admin : Admin) (request : AdminRequest) :
    (admin.dispatch request).2.key = admin.key := by
  unfold dispatch
  split
  · rfl
  · next route _ =>
    split
    · cases route with
      | ceiling => exact key_setCeiling admin request
      | _ => rfl
    · rfl

private theorem key_answer (admin : Admin) (request : AdminRequest) :
    (admin.answer request).2.key = admin.key := by
  unfold answer
  split
  · exact key_dispatch admin request
  · rfl

end Admin

/-- What happens while the interface is open. -/
inductive AdminEvent where
  | ask (request : AdminRequest)
  /-- The proxy uses the cache, or time passes. -/
  | use (operation : Cache.Operation)
  | opened
  | closed

namespace AdminEvent

inductive Told where
  | reply (reply : AdminReply)
  | found (response : Option Response)
  | storable (isStorable : Bool)
  | nothing
  deriving DecidableEq

def counts (key : String) : AdminEvent -> Bool
  | .ask request => request.Bears key
  | _ => true

end AdminEvent

/-- The interface with the proxy around it, and the time. -/
structure AdminApi where
  admin : Admin
  now : Nat
  deriving DecidableEq

namespace AdminApi

open AdminEvent (Told)

variable {api : AdminApi} {event : AdminEvent}

def timed (api : AdminApi) : Cache.Timed :=
  ⟨api.admin.cache, api.now⟩

/-- What is told in return to an event.  Only the uptime is left out. -/
def told (api : AdminApi) : AdminEvent -> Told
  | .ask request => .reply (api.admin.answer request).1
  | .use (.lookup request) => .found (api.timed.answer request)
  | .use (.mayStore response) => .storable (api.admin.cache.mayStore response)
  | _ => .nothing

def step (api : AdminApi) : AdminEvent -> AdminApi
  | .ask request => { api with admin := (api.admin.answer request).2 }
  | .use operation =>
      let timed := api.timed.step operation
      { admin := { api.admin with cache := timed.cache }, now := timed.now }
  | .opened =>
      { api with
        admin := { api.admin with tracker := api.admin.tracker.track.2.1 } }
  | .closed =>
      { api with
        admin := { api.admin with tracker := api.admin.tracker.release.1 } }

def after (api : AdminApi) (events : List AdminEvent) : AdminApi :=
  events.foldl step api

def record : AdminApi -> List AdminEvent -> List (AdminEvent × Told)
  | _, [] => []
  | api, event :: later => (event, api.told event) :: (api.step event).record later

theorem record_cons (api : AdminApi) (event : AdminEvent) (later : List AdminEvent) :
    api.record (event :: later) =
      (event, api.told event) :: (api.step event).record later :=
  rfl

private theorem told_ask (api : AdminApi) (request : AdminRequest) :
    api.told (.ask request) = .reply (api.admin.answer request).1 :=
  rfl

theorem key_step (api : AdminApi) (event : AdminEvent) :
    (api.step event).admin.key = api.admin.key := by
  cases event with
  | ask request => exact api.admin.key_answer request
  | _ => rfl

private theorem key_after (api : AdminApi) (events : List AdminEvent) :
    (api.after events).admin.key = api.admin.key := by
  induction events generalizing api with
  | nil => rfl
  | cons event later ih => exact (ih (api.step event)).trans (api.key_step event)

theorem step_of_not_counts (h : event.counts api.admin.key = false) :
    api.step event = api := by
  cases event with
  | ask request =>
      have hbare : ¬ request.Bears api.admin.key := of_decide_eq_false h
      unfold step
      dsimp only
      rw [Admin.answer_of_not_bears hbare]
  | _ => cases h

private theorem after_filter (api : AdminApi) (events : List AdminEvent) :
    api.after (events.filter (·.counts api.admin.key)) = api.after events := by
  induction events generalizing api with
  | nil => rfl
  | cons event later ih =>
      have hlater := ih (api.step event)
      rw [key_step] at hlater
      cases hcounts : event.counts api.admin.key with
      | false =>
          rw [step_of_not_counts hcounts] at hlater
          rw [List.filter_cons_of_neg (by simp [hcounts]), hlater]
          exact congrArg (later.foldl step) (step_of_not_counts hcounts).symm
      | true =>
          rw [List.filter_cons_of_pos hcounts]
          exact hlater

private theorem record_filter (api : AdminApi) (events : List AdminEvent) :
    api.record (events.filter (·.counts api.admin.key)) =
      (api.record events).filter (·.1.counts api.admin.key) := by
  induction events generalizing api with
  | nil => rfl
  | cons event later ih =>
      have hlater := ih (api.step event)
      rw [key_step] at hlater
      rw [record_cons]
      cases hcounts : event.counts api.admin.key with
      | false =>
          rw [step_of_not_counts hcounts] at hlater ⊢
          rw [List.filter_cons_of_neg (by simp [hcounts]),
            List.filter_cons_of_neg (by simp [hcounts])]
          exact hlater
      | true =>
          rw [List.filter_cons_of_pos hcounts, List.filter_cons_of_pos (by simp [hcounts]),
            record_cons, hlater]

/-- The requests that do not bear the key are refused, and missed by nobody. -/
structure Uninfluenced (api : AdminApi) (events : List AdminEvent) : Prop where
  /-- Such a request is refused, and what follows goes on from what was there before. -/
  refused : ∀ before request later, events = before ++ .ask request :: later ->
    ¬ request.Bears api.admin.key ->
      (∃ reply, (api.after before).told (.ask request) = .reply reply ∧
        reply.status = ⟨401⟩ ∧ reply.report = none) ∧
      api.after (before ++ [.ask request]) = api.after before
  told : api.record (events.filter (·.counts api.admin.key)) =
    (api.record events).filter (·.1.counts api.admin.key)
  /-- Without them the same entries and the same ceiling are left. -/
  left : api.after (events.filter (·.counts api.admin.key)) = api.after events

/-- Whatever the key, the cache and the connections at first, and whatever happens
between them, requests that do not bear the key have no influence. -/
theorem uninfluenced (api : AdminApi) (events : List AdminEvent) :
    api.Uninfluenced events where
  refused before request later _ hbare := by
    have hkey : ¬ request.Bears (api.after before).admin.key := by
      rw [key_after]
      exact hbare
    constructor
    · refine ⟨Admin.trimmed request (Admin.refusing .unauthorized), ?_, rfl, ?_⟩
      · rw [told_ask, Admin.answer_of_not_bears hkey]
      · unfold Admin.trimmed Admin.refusing
        dsimp only
        split <;> rfl
    · have hcounts :
          (AdminEvent.ask request).counts (api.after before).admin.key = false :=
        decide_eq_false hkey
      unfold after
      rw [List.foldl_append]
      exact step_of_not_counts hcounts
  told := api.record_filter events
  left := api.after_filter events

/-- A stranger with another spelling of the scheme, who adds a second field with
the right one, does not clear the cache: whoever has the key still finds one entry. -/
theorem uninfluenced_stranger :
    let api : AdminApi := ⟨⟨"k", .empty, .fresh⟩, 0⟩
    let stored : AdminEvent := .use (.insert (.bare .get "a" 80 "/")
      ⟨"HTTP/1.1", .ok, ⟨[⟨"cache-control", "max-age=60"⟩]⟩, .empty⟩)
    let stranger : AdminRequest := ⟨.post, "/admin/cache/clear",
      [("authorization", Bytes.ofText "bearer k"),
        ("authorization", Bytes.ofText "Bearer k")], []⟩
    let keeper : AdminRequest :=
      ⟨.get, "/admin/cache", [("Authorization", Bytes.ofText "Bearer k")], []⟩
    ¬ stranger.Bears "k" ∧ keeper.Bears "k" ∧
      api.after [stored, .ask stranger] = api.after [stored] ∧
      (api.after [stored]).told (.ask keeper) =
        .reply ⟨.ok, some (.cache 1 none), none⟩ := by
  intro api stored stranger keeper
  have hbare : ¬ stranger.Bears "k" := by decide +kernel
  refine ⟨hbare, by decide +kernel, ?_, by decide +kernel⟩
  exact ((uninfluenced api [stored, .ask stranger]).refused [stored] stranger [] rfl hbare).2

end AdminApi

end Intermediary

import Intermediary.Proofs.Service.Grants
import Intermediary.Proofs.Service.Succession

/-!
# The cache is transparent

A proxy that keeps responses writes to each client what it would write without
keeping any, as long as what is behind it goes by the fingerprint of a request.
What is kept is always what asking again would give; and apart from a hit,
serving takes the same course with the cache as without.
-/

namespace Intermediary

open Program

def Action.usesCache : Action -> Bool
  | .lookup _ | .store _ _ => true
  | _ => false

private theorem Action.not_usesCache_of_isHostless {action : Action}
    (h : action.isHostless = true) : action.usesCache = false := by
  cases action with
  | lookup print => cases h
  | store print response => cases h
  | _ => rfl

def Serving.Uncached {α : Type} (program : Serving α)
    (past : List (Taken Action.Reply)) : Prop :=
  Guards (fun _ action => action.usesCache = false) (fun _ _ => True) program past

/-! ## Programs without a cache -/

namespace Serving

variable {α β : Type}

/-- The result of a program that has no part in the cache, and what the client is written. -/
def told (around : Surroundings) : Serving α -> Bytes -> α × Bytes
  | .done result, written => (result, written)
  | .act action next, written =>
      told around (next (around written action).1) (written ++ (around written action).2)

theorem told_bind (around : Surroundings) (program : Serving α) (next : α -> Serving β)
    (written : Bytes) :
    told around (program >>= next) written =
      told around (next (told around program written).1) (told around program written).2 := by
  induction program generalizing written with
  | done result => rfl
  | act action rest ih => exact ih _ _

private theorem told_perform (around : Surroundings) (action : Action)
    (next : action.Reply -> Serving β) (written : Bytes) :
    told around (perform action >>= next) written =
      told around (next (around written action).1) (written ++ (around written action).2) :=
  rfl

end Serving

namespace Sharing

variable {α β : Type} {sharding : Sharding} {around : Surroundings}
  {kept : Cache -> Prop} {written : Bytes}

private theorem ofAction_of_not_usesCache {action : Action} (h : action.usesCache = false) :
    ofAction action = perform (.outside action) := by
  cases action with
  | lookup print => cases h
  | store print response => cases h
  | _ => rfl

theorem keeps_outside {action : Action} {next : action.Reply -> Serving α}
    {post : α -> Bytes -> Prop} (haction : action.usesCache = false)
    (hnext : Keeps sharding around kept post (ofServing (next (around written action).1))
      (written ++ (around written action).2)) :
    Keeps sharding around kept post (ofServing (.act action next)) written := by
  rw [ofServing, ofAction_of_not_usesCache haction]
  exact fun _ _ hkept => ⟨hkept, hnext⟩

private theorem keeps_aside {action : Action} {next : action.Reply -> Serving α}
    {post : α -> Bytes -> Prop} (haction : action.usesCache = false)
    (hsilent : (around written action).2 = [])
    (hnext : Keeps sharding around kept post (ofServing (next (around written action).1))
      written) :
    Keeps sharding around kept post (ofServing (Serving.perform action >>= next))
      written := by
  refine keeps_outside haction ?_
  rw [hsilent, List.append_nil]
  exact hnext

theorem keeps_then {program : Serving α} {next : α -> Serving β}
    {between : α -> Bytes -> Prop} {post : β -> Bytes -> Prop}
    (h : Keeps sharding around kept between (ofServing program) written)
    (hnext : ∀ result after, between result after ->
      Keeps sharding around kept post (ofServing (next result)) after) :
    Keeps sharding around kept post (ofServing (program >>= next)) written := by
  rw [ofServing_bind]
  exact keeps_bind (h.mono hnext)

/-- A program that has no part in the cache goes its way whatever the cache is. -/
theorem keeps_uncached (past : List (Taken Action.Reply)) {program : Serving α}
    (h : program.Uncached past) :
    Keeps sharding around kept
      (fun result after => Serving.told around program written = (result, after))
      (ofServing program) written := by
  induction program generalizing written past with
  | done result => rfl
  | act action next ih => exact keeps_outside h.1 (ih _ _ (h.2 _))

theorem keeps_written (past : List (Taken Action.Reply)) {program : Serving α}
    (h : program.Uncached past) :
    Keeps sharding around kept
      (fun _ after => after = (Serving.told around program written).2)
      (ofServing program) written :=
  (keeps_uncached past h).mono fun _ _ hresult => hresult ▸ rfl

end Sharing

/-! ## What is kept -/

/-- What asking for a fingerprint gives, if it gives a response. -/
structure OriginSide.Yields (origin : OriginSide) (limits : Limits) (print : Fingerprint)
    (response : Response) : Prop where
  connects : origin.connects print = .ok ()
  takes : origin.takes print = .ok ()
  reads : ∃ held, Inflow.read (Response.read limits print.method) (origin.answers print) =
    .ok (response, held)

/-- Every response that is kept is the one that asking again would give. -/
def OriginSide.Backs (origin : OriginSide) (limits : Limits) (cache : Cache) : Prop :=
  ∀ print entry, cache.find? print = some entry -> origin.Yields limits print entry.response

namespace OriginSide.Backs

variable {origin : OriginSide} {limits : Limits} {cache : Cache} {print : Fingerprint}

private theorem of_isEmpty (h : cache.entries = []) : origin.Backs limits cache := by
  intro print entry hfound
  simp [Cache.find?, h] at hfound

private theorem ofSettings (settings : CacheSettings) :
    origin.Backs limits (.ofSettings settings) := by
  refine of_isEmpty ?_
  unfold Cache.ofSettings
  split <;> rfl

private theorem put {entry : CacheEntry} (h : origin.Backs limits cache)
    (hyields : origin.Yields limits print entry.response) :
    origin.Backs limits (cache.put print entry) := by
  intro other found hfound
  by_cases hother : other = print
  · subst hother
    rw [Cache.find?_put_self] at hfound
    cases hfound
    exact hyields
  · rw [Cache.find?_put_of_ne hother] at hfound
    exact h other found hfound

private theorem evict (h : origin.Backs limits cache) (print : Fingerprint) (now : Nat) :
    origin.Backs limits (cache.evict print now).1 := by
  intro other found hfound
  obtain hsame | ⟨hnone, _⟩ := Cache.find?_evict cache print other now
  · exact h other found (hsame ▸ hfound)
  · cases hnone.symm.trans hfound

private theorem after {sharding : Sharding} (stock : Stock) (upkeep : Upkeep)
    (h : origin.Backs limits stock.cache) :
    origin.Backs limits (stock.after sharding upkeep).cache := by
  cases upkeep with
  | clear => exact of_isEmpty rfl
  | empty shard =>
      intro print entry hfound
      have hempty : ((SharedStep.empty shard).leave sharding stock.cache stock.now).find?
          print = some entry := hfound
      exact h print entry (SharedStep.find?_empty hempty).2
  | setCeiling seconds => exact h
  | wait time => exact h

end OriginSide.Backs

/-! ## The steps of the cache -/

namespace Sharing

variable {α : Type} {sharding : Sharding} {around : Surroundings} {kept : Cache -> Prop}
  {origin : OriginSide} {limits : Limits} {print : Fingerprint} {written : Bytes}

private theorem keeps_silent {step : SharedStep} {next : step.Reply -> Sharing α}
    {post : α -> Bytes -> Prop} (hsilent : writes around written step = [])
    (hnext : ∀ cache now, kept cache -> kept (step.leave sharding cache now) ∧
      Keeps sharding around kept post
        (next (step.reply (fun action => (around written action).1) cache now)) written) :
    Keeps sharding around kept post (perform step >>= next) written := by
  intro cache now hkept
  obtain ⟨hleave, hkeeps⟩ := hnext cache now hkept
  rw [hsilent, List.append_nil]
  exact ⟨hleave, hkeeps⟩

/-- A lookup finds what asking again would give, or nothing. -/
theorem keeps_lookup :
    Keeps sharding around (origin.Backs limits)
      (fun found after => after = written ∧
        ∀ response, found = some response -> origin.Yields limits print response)
      (lookup print) written := by
  refine keeps_silent rfl fun cache now hbacks => ⟨hbacks, ?_⟩
  simp only [SharedStep.reply]
  cases hpeek : cache.peek print now with
  | hit response =>
      obtain ⟨entry, hfound, _, rfl⟩ := Cache.exists_of_peek_hit hpeek
      refine ⟨rfl, fun response hresponse => ?_⟩
      cases hresponse
      exact hbacks print entry hfound
  | missing => exact ⟨rfl, fun _ hfound => by cases hfound⟩
  | expired =>
      -- Others may have come in between, so the entry is removed from another cache.
      refine keeps_silent rfl fun later time hlater => ⟨hlater.evict print time, ?_⟩
      exact ⟨rfl, fun _ hfound => by cases hfound⟩

private theorem keeps_store {response : Response} (hyields : origin.Yields limits print response) :
    Keeps sharding around (origin.Backs limits) (fun _ after => after = written)
      (store print response) written := by
  refine keeps_silent rfl fun cache now hbacks => ⟨hbacks, ?_⟩
  split
  · refine keeps_silent rfl fun cache now hbacks => ⟨hbacks, ?_⟩
    split
    · exact rfl
    · refine keeps_silent rfl fun cache now hbacks => ⟨hbacks, ?_⟩
      exact keeps_silent rfl fun cache now hbacks => ⟨hbacks.put hyields, rfl⟩
  · exact rfl

end Sharing

/-! ## Asking the origin -/

namespace OriginSide

variable (origin : OriginSide) (client : Client) (print : Fingerprint)

private theorem around_connect (written : Bytes) (host : String) (port : Nat) :
    origin.around client print written (.connect host port) = (origin.connects print, []) :=
  rfl

private theorem around_send (bytes : Bytes) :
    origin.around client print [] (.send bytes) = (origin.takes print, []) :=
  rfl

end OriginSide

namespace Service

open Serving
open Sharing (Keeps keeps_aside keeps_bind keeps_lookup keeps_outside keeps_store keeps_then
  keeps_uncached keeps_written)

variable (handler : Handler) (request : Request) (origin : OriginSide) (client : Client)

private theorem told_readMessage {α : Type} (print : Fingerprint) (written : Bytes)
    (reader : Bytes -> Except MessageError (α × Bytes)) :
    told (origin.around client print) (readMessage .origin reader) written =
      (Inflow.read reader (origin.answers print), written) :=
  congrArg (Prod.mk _) (List.append_nil written)

private theorem told_ask {α : Type} (print : Fingerprint) (host : String) (port : Nat)
    (bytes : Bytes) (reader : Bytes -> Except MessageError (α × Bytes)) :
    ∃ asked, told (origin.around client print) (ask host port bytes reader) [] =
        (asked, []) ∧
      ∀ found, asked = .answered (.ok found) ↔ origin.connects print = .ok () ∧
        origin.takes print = .ok () ∧
          Inflow.read reader (origin.answers print) = .ok found := by
  unfold ask
  rw [told_perform, OriginSide.around_connect]
  cases origin.connects print with
  | error cause =>
      exact ⟨_, rfl, fun found => ⟨fun h => (by cases h), fun h => (by cases h.1)⟩⟩
  | ok =>
      dsimp only
      rw [List.append_nil, told_perform, OriginSide.around_send]
      cases origin.takes print with
      | error cause =>
          exact ⟨_, rfl, fun found => ⟨fun h => (by cases h), fun h => (by cases h.2.1)⟩⟩
      | ok =>
          dsimp only
          rw [List.append_nil, told_bind, told_readMessage]
          refine ⟨_, rfl, fun found => ⟨fun h => ?_, fun h => ?_⟩⟩
          · exact ⟨rfl, rfl, Asked.answered.inj h⟩
          · exact congrArg Asked.answered h.2.2

/-- What an origin gives to a request depends on the fingerprint of the request. -/
theorem told_fetch :
    ∃ result, told (origin.around client request.fingerprint) (fetch handler request) [] =
        (result, []) ∧
      ∀ response, result = .ok response ↔
        origin.Yields handler.limits request.fingerprint response := by
  rw [fetch_eq, told_bind]
  obtain ⟨asked, htold, hasked⟩ := told_ask origin client request.fingerprint
    (handler.route request).1 (handler.route request).2.1
    ((Forwarding.augment request).render (handler.route request).2.2)
    (Response.read handler.limits request.method)
  rw [htold]
  refine ⟨_, rfl, fun response => fetched_eq_ok_iff.trans ?_⟩
  constructor
  · rintro ⟨held, h⟩
    obtain ⟨hconnects, htakes, hread⟩ := (hasked _).1 h
    exact ⟨hconnects, htakes, held, hread⟩
  · rintro ⟨hconnects, htakes, held, hread⟩
    exact ⟨held, (hasked _).2 ⟨hconnects, htakes, hread⟩⟩

/-! ## What has no part in the cache -/

theorem Hostless.uncached {α : Type} {program : Serving α}
    {past : List (Taken Action.Reply)} (h : Hostless program past) :
    program.Uncached past :=
  h.weaken fun _ _ => Action.not_usesCache_of_isHostless

theorem grants_uncached :
    Grants (fun _ action => action.usesCache = false)
      { handler with cacheEnabled := false } request where
  hostless _ _ := Action.not_usesCache_of_isHostless
  lookup henabled := by cases henabled
  store henabled := by cases henabled
  connect _ := rfl
  send _ _ := rfl
  sendTunnel _ _ _ := rfl
  sendAhead _ _ _ := rfl

private theorem uncached_fetch (hmethod : request.method ≠ .connect) :
    (fetch handler request).Uncached [] :=
  (grants_uncached handler request).fetch hmethod

private theorem uncached_serve (address : String) :
    (serve { handler with cacheEnabled := false } address).Uncached [] := by
  rw [serve_eq]
  refine ⟨rfl, fun inflow => ?_⟩
  dsimp only
  split
  · exact (grants_uncached handler _).dispatch
  · exact (hostless_refuse _ _).uncached
  · exact (hostless_refuse _ _).uncached

/-! ## With the cache as without -/

variable {handler request origin client} {sharding : Sharding} {around : Surroundings}
  {kept : Cache -> Prop} {written : Bytes}

/-- The same status or failure, and the same bytes, whatever the part of the cache in it. -/
def Alike (one other : Except ServiceError (Status × CacheUse) × Bytes) : Prop :=
  one.1.map Prod.fst = other.1.map Prod.fst ∧ one.2 = other.2

private theorem keeps_respondWith (response : Response) (use other : CacheUse) :
    Keeps sharding around kept
      (fun result after => Alike (result, after)
        (told around (respondWith response other) written))
      (Sharing.ofServing (respondWith response use)) written := by
  refine (keeps_uncached [] (hostless_respondWith _ _).uncached).mono ?_
  intro result after hresult
  rw [← hresult]
  unfold respondWith
  rw [told_bind, told_bind]
  cases (told around (respond response) written).1 <;> exact ⟨rfl, rfl⟩

private theorem told_finish {print : Fingerprint} {method : String}
    {one other : Except ServiceError (Status × CacheUse)}
    (h : one.map Prod.fst = other.map Prod.fst) :
    (told (origin.around client print) (finish method one) written).2 =
      (told (origin.around client print) (finish method other) written).2 := by
  cases one with
  | error e =>
      cases other with
      | error e' =>
          cases h
          rfl
      | ok served => cases h
  | ok served =>
      cases other with
      | error e => cases h
      | ok served' => rfl

private theorem told_forwardPast_error {e : ServiceError}
    (h : told around (fetch handler request) [] = (.error e, [])) :
    told around (forwardPast handler request) [] = (.error e, []) := by
  unfold forwardPast
  rw [told_bind, h]
  rfl

private theorem told_forwardPast_ok {response : Response}
    (h : told around (fetch handler request) [] = (.ok response, [])) :
    told around (forwardPast handler request) [] =
      told around (respondWith response .bypass) [] := by
  unfold forwardPast
  rw [told_bind, h]

private theorem keeps_forwardMiss (hmethod : request.method ≠ .connect) {stripe : Nat} :
    Keeps sharding (origin.around client request.fingerprint) (origin.Backs handler.limits)
      (fun result after => Alike (result, after)
        (told (origin.around client request.fingerprint) (forwardPast handler request) []))
      (Sharing.ofServing (forwardMiss handler request stripe)) [] := by
  obtain ⟨fetched, htold, hyields⟩ := told_fetch handler request origin client
  refine keeps_then (keeps_uncached [] (uncached_fetch handler request hmethod))
    fun result after hresult => ?_
  cases htold.symm.trans hresult
  cases fetched with
  | error e =>
      rw [told_forwardPast_error htold]
      exact ⟨rfl, rfl⟩
  | ok response =>
      rw [told_forwardPast_ok htold]
      refine keeps_aside rfl rfl (keeps_bind ?_)
      refine (keeps_store ((hyields response).1 rfl)).mono ?_
      rintro _ _ rfl
      exact keeps_aside rfl rfl (keeps_respondWith response .miss .bypass)

/-- A hit is what asking again would give, and what is asked for is kept as it is. -/
theorem keeps_forward (hmethod : request.method ≠ .connect) :
    Keeps sharding (origin.around client request.fingerprint) (origin.Backs handler.limits)
      (fun result after => Alike (result, after)
        (told (origin.around client request.fingerprint) (forwardPast handler request) []))
      (Sharing.ofServing (forward { handler with cacheEnabled := true } request)) [] := by
  unfold forward
  rw [if_pos rfl]
  refine keeps_aside rfl rfl (keeps_bind (keeps_lookup.mono ?_))
  rintro found _ ⟨rfl, hfound⟩
  cases found with
  | none => exact keeps_aside rfl rfl (keeps_forwardMiss hmethod)
  | some response =>
      -- The exchange that a hit spares would have given the same response.
      obtain ⟨fetched, htold, hyields⟩ := told_fetch handler request origin client
      obtain rfl := (hyields response).2 (hfound response rfl)
      rw [told_forwardPast_ok htold]
      dsimp only [Program.bind]
      exact keeps_then (keeps_respondWith response .hit .bypass) fun _ _ halike =>
        keeps_aside rfl rfl halike

/-- With a cache or without, only passing a request on takes another course. -/
theorem dispatch_enabled (handler : Handler) (request : Request) (held : Held) :
    dispatch { handler with cacheEnabled := true } request held =
        dispatch { handler with cacheEnabled := false } request held ∨
      request.method ≠ .connect ∧
        dispatch { handler with cacheEnabled := true } request held =
          (forward { handler with cacheEnabled := true } request >>=
            finish request.method.token) ∧
        dispatch { handler with cacheEnabled := false } request held =
          (forwardPast handler request >>= finish request.method.token) := by
  unfold dispatch
  dsimp only
  split
  · exact .inl rfl
  · split
    · exact .inl rfl
    · cases hkind : RequestKind.ofMethod request.method with
      | error e => exact .inl rfl
      | ok kind =>
          cases kind with
          | tunnel => exact .inl rfl
          | forward =>
              refine .inr ⟨fun hconnect => ?_, rfl, rfl⟩
              rw [hconnect] at hkind
              cases hkind

private theorem keeps_dispatch {held : Held} :
    Keeps sharding (origin.around client request.fingerprint) (origin.Backs handler.limits)
      (fun _ after => after = (told (origin.around client request.fingerprint)
        (dispatch { handler with cacheEnabled := false } request held) []).2)
      (Sharing.ofServing (dispatch { handler with cacheEnabled := true } request held))
      [] := by
  obtain hsame | ⟨hmethod, hwith, hwithout⟩ := dispatch_enabled handler request held
  · rw [hsame]
    exact keeps_written [] (grants_uncached handler request).dispatch
  · rw [hwith, hwithout, told_bind]
    refine keeps_then (keeps_forward hmethod) fun result after halike => ?_
    obtain ⟨hresult, rfl⟩ := halike
    rw [← told_finish hresult]
    exact keeps_written [] (hostless_finish _ _).uncached

private theorem keeps_serve (handler : Handler) (client : Client) :
    Keeps sharding (origin.around client (client.print handler.limits))
      (origin.Backs handler.limits)
      (fun _ after => after = (told (origin.around client (client.print handler.limits))
        (serve { handler with cacheEnabled := false } client.address) []).2)
      (Sharing.ofServing (serve { handler with cacheEnabled := true } client.address))
      [] := by
  rw [serve_eq, serve_eq]
  refine keeps_outside rfl ?_
  rw [told]
  dsimp only [OriginSide.around]
  rw [List.append_nil]
  cases hread : Inflow.read (Request.read handler.limits client.address) client.sends with
  | ok found =>
      have hprint : client.print handler.limits = found.1.fingerprint := by
        rw [Client.print, hread]
      rw [hprint]
      exact keeps_dispatch
  | error fault =>
      cases fault with
      | timedOut => exact keeps_written [] (hostless_refuse _ _).uncached
      | message e => exact keeps_written [] (hostless_refuse _ _).uncached

end Service

/-! ## Clients one after another -/

namespace Premises

open Service

variable (handler : Handler) (sharding : Sharding) (origin : OriginSide)

/-- What a client is written by a proxy without a cache. -/
def plainly (client : Client) : Bytes :=
  (Serving.told (origin.around client (client.print handler.limits))
    (serve { handler with cacheEnabled := false } client.address) []).2

private theorem keeps_plainly (enabled : Bool) (client : Client) :
    Sharing.Keeps sharding (origin.around client (client.print handler.limits))
      (origin.Backs handler.limits) (fun _ after => after = plainly handler origin client)
      (Sharing.ofServing (serve { handler with cacheEnabled := enabled } client.address))
      [] := by
  cases enabled with
  | true => exact keeps_serve handler client
  | false => exact Sharing.keeps_written [] (uncached_serve handler client.address)

theorem written_eq (enabled : Bool) (episodes : List Episode) {stock : Stock}
    (h : origin.Backs handler.limits stock.cache) :
    written ⟨{ handler with cacheEnabled := enabled }, sharding, origin⟩ episodes stock =
      (episodes.filterMap Episode.client?).map (plainly handler origin) := by
  induction episodes generalizing stock with
  | nil => rfl
  | cons episode episodes ih =>
      cases episode with
      | between upkeep => exact ih (h.after stock upkeep)
      | visit client meanwhile =>
          -- Of one client nothing goes on to the next but the cache, and that it is backed.
          obtain ⟨hbacks, _, hwritten⟩ :=
            (keeps_plainly handler sharding origin enabled client).sound
              OriginSide.Backs.after meanwhile h
          exact congrArg₂ List.cons hwritten (ih hbacks)

/--
Whatever the settings, and whatever is behind the proxy and goes by the fingerprint
of a request: what each client is written does not depend on whether the proxy has
a cache, however the clients are mixed with upkeep.
-/
theorem run_enabled (settings : Settings) (blocklist : Blocklist) (sharding : Sharding)
    (origin : OriginSide) (now : Nat) (episodes : List Episode) :
    run { settings with cache.enabled := true } blocklist sharding origin now episodes =
      run { settings with cache.enabled := false } blocklist sharding origin now
        episodes := by
  have hwritten : ∀ enabled,
      run { settings with cache.enabled := enabled } blocklist sharding origin now episodes =
        (episodes.filterMap Episode.client?).map
          (plainly (Handler.ofSettings settings blocklist) origin) := fun enabled =>
    written_eq (.ofSettings settings blocklist) sharding origin enabled episodes
      (.ofSettings settings.cache)
  rw [hwritten true, hwritten false]

def pageForMinute : OriginSide where
  connects _ := .ok ()
  takes _ := .ok ()
  answers _ :=
    ⟨Bytes.ofText ("HTTP/1.1 200 OK\r\nCache-Control: max-age=60\r\n" ++
      "Content-Length: 2\r\n\r\nhi"), .silent⟩
  admits _ _ := .ok ()
  relays _ _ _ _ := (⟨0, 0, false⟩, [])

/-- With a cache, the page is kept once a client has asked for it. -/
example :
    (attend ⟨.ofSettings {} .empty, ⟨1, fun _ => 0, fun _ => by decide⟩, pageForMinute⟩
      ⟨"203.0.113.7", ⟨Bytes.ofText "GET http://[::1]/ HTTP/1.1\r\n\r\n", .silent⟩,
        fun _ _ => none⟩ [] ⟨.empty, 0⟩).1.cache.size = 1 := by
  decide +kernel

end Premises

end Intermediary

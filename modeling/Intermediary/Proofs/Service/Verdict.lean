import Intermediary.Proofs.Service.Outcome

/-!
# What becomes of a failure

Every failure has a class, and the class alone decides what the client gets: not
a byte when the client itself is at fault, and otherwise one refusal.  Failures of
the origin count up to the moment in which the client is told that its tunnel is
open.  None of them reaches the cache.

Each part of the service is described by its own piece of a history: what the
client was sent in it, whether the cache was used, and whether the origin failed.
-/

namespace Intermediary

open Serving History

/-! ## The classes of failures -/

/-- Whether it is the stream that is at fault, and not what came in it. -/
def ReadFault.isCut : ReadFault -> Bool
  | .timedOut => true
  | .message e => e.isTransport

namespace Service

/--
The classes in their order, each with the status that the client gets, if it gets
one, and with the fingerprint for which the cache may have been asked.
-/
inductive Failure (handler : Handler) (client : String) (inflow : Inflow)
    (history : History) : Option Status -> Option Fingerprint -> Prop where
  | cut {fault}
      (hread : Inflow.read (Request.read handler.limits client) inflow = .error fault)
      (hcut : fault.isCut = true) : Failure handler client inflow history none none
  | malformed {fault}
      (hread : Inflow.read (Request.read handler.limits client) inflow = .error fault)
      (hcut : fault.isCut = false) :
      Failure handler client inflow history (some .badRequest) none
  | blocked {request held}
      (hread : Inflow.read (Request.read handler.limits client) inflow =
        .ok (request, held))
      (hblocked : handler.blocklist.contains request.host = true) :
      Failure handler client inflow history (some .forbidden) none
  | loop {request held}
      (hread : Inflow.read (Request.read handler.limits client) inflow =
        .ok (request, held))
      (hunblocked : handler.blocklist.contains request.host = false)
      (hloop : Forwarding.containsLoop request = true) :
      Failure handler client inflow history (some .badRequest) none
  | method {request held}
      (hread : Inflow.read (Request.read handler.limits client) inflow =
        .ok (request, held))
      (hunblocked : handler.blocklist.contains request.host = false)
      (hnoLoop : Forwarding.containsLoop request = false)
      (hmethod : request.method ∉ [Method.get, .post, .head, .connect]) :
      Failure handler client inflow history (some .methodNotAllowed) none
  | origin {request held o}
      (hread : Inflow.read (Request.read handler.limits client) inflow =
        .ok (request, held))
      (hunblocked : handler.blocklist.contains request.host = false)
      (hnoLoop : Forwarding.containsLoop request = false)
      (hmethod : request.method ∈ [Method.get, .post, .head, .connect])
      (hmem : o ∈ history.beforeTunnel)
      (hfails : o.originFails handler.limits request.method = true) :
      Failure handler client inflow history (some .proxyFailure)
        (some request.fingerprint)

end Service

namespace Service

variable {handler : Handler} {client : String} {request : Request} {piece : History}

/-! ## Reading -/

theorem ends_readMessage {α : Type} {side : Side}
    {reader : Bytes -> Except MessageError (α × Bytes)}
    {result : Except ReadFault (α × Held)} (h : Ends (readMessage side reader) piece result) :
    ∃ inflow toClient fromOrigin,
      piece = [⟨.receive side (Inflow.decides reader), inflow, toClient, fromOrigin⟩] ∧
      Occurrence.Possible
        ⟨.receive side (Inflow.decides reader), inflow, toClient, fromOrigin⟩ ∧
      result = Inflow.read reader inflow := by
  obtain ⟨inflow, toClient, fromOrigin, rest, rfl, hpossible, h⟩ := h.perform
  obtain ⟨rfl, rfl⟩ := h.pure
  exact ⟨inflow, toClient, fromOrigin, rfl, hpossible, rfl⟩

def faultOfRead : ReadFault -> ServiceError
  | .timedOut => .client .timedOut
  | .message e => .ofMessageError e

theorem isFatal_faultOfRead (fault : ReadFault) :
    (faultOfRead fault).isFatal = fault.isCut := by
  cases fault with
  | timedOut => rfl
  | message e => cases e <;> rfl

private theorem status_faultOfRead {fault : ReadFault} (h : fault.isCut = false) :
    (faultOfRead fault).status = .badRequest := by
  cases fault with
  | timedOut => cases h
  | message e => cases e <;> first | rfl | cases h

theorem ends_readRequest {result : Except ServiceError (Request × Held)}
    (h : Ends (readRequest handler client) piece result) :
    ∃ enough inflow, piece = [⟨.receive .client enough, inflow, [], []⟩] ∧
      result = (Inflow.read (Request.read handler.limits client) inflow).mapError
        faultOfRead := by
  obtain ⟨_, read, _, rfl, hmessage, h⟩ := h.bind
  obtain ⟨inflow, _, _, rfl, ⟨rfl, rfl⟩, rfl⟩ := ends_readMessage hmessage
  refine ⟨_, inflow, ?_⟩
  cases hread : Inflow.read (Request.read handler.limits client) inflow with
  | ok found =>
      rw [hread] at h
      obtain ⟨rfl, rfl⟩ := h.pure
      exact ⟨rfl, rfl⟩
  | error fault =>
      rw [hread] at h
      cases fault with
      | timedOut =>
          obtain ⟨rfl, rfl⟩ := h.pure
          exact ⟨rfl, rfl⟩
      | message e =>
          obtain ⟨rfl, rfl⟩ := h.pure
          exact ⟨rfl, rfl⟩

/-! ## Refusing -/

theorem ends_respond {response : Response} {result : Except ServiceError Unit}
    (h : Ends (respond response) piece result) :
    piece.Gets response ∧ piece.Apart ∧ ∀ e, result = .error e -> e.isFatal = true := by
  obtain ⟨reply, given, _, _, rfl, ⟨rfl, hbegun, hall⟩, hrest⟩ := h.perform
  have hclient : toClient [⟨.answer response.render, reply, given, []⟩] = given := by
    simp [toClient]
  cases reply with
  | ok =>
      obtain ⟨rfl, rfl⟩ := hrest.pure
      refine ⟨⟨rfl, rfl, ?_, fun _ => ?_⟩, List.forall_mem_singleton.2 rfl, ?_⟩
      · rw [hclient]
        exact hbegun
      · rw [hclient]
        exact hall rfl
      · intro e he
        cases he
  | error cause =>
      obtain ⟨rfl, rfl⟩ := hrest.pure
      refine ⟨⟨rfl, rfl, ?_, fun htaken => ?_⟩, List.forall_mem_singleton.2 rfl, ?_⟩
      · rw [hclient]
        exact hbegun
      · cases htaken _ List.mem_cons_self
      · intro e he
        cases he
        rfl

/-- What is measured and logged is nothing to the client. -/
theorem ends_note {action : Action} {reply : action.Reply}
    (hspoken : action.isSpoken = false) (hapart : action.isApart = true)
    (h : Ends (perform action) piece reply) : piece.Silent ∧ piece.Apart := by
  obtain ⟨reply', _, _, _, rfl, hpossible, hrest⟩ := Ends.act h
  obtain ⟨rfl, rfl⟩ := hrest.pure
  exact ⟨silent_singleton hpossible hspoken, List.forall_mem_singleton.2 hapart⟩

/-- A refusal, or nothing where the client itself is at fault. -/
structure Refused (error : ServiceError) (piece : History) : Prop where
  apart : piece.Apart
  silent : error.isFatal = true -> piece.Silent
  gets : error.isFatal = false -> piece.Gets (Response.ofMessage error.status error.message)

theorem ends_refuse {method : String} {error : ServiceError}
    (h : Ends (refuse method error) piece ()) : Refused error piece := by
  by_cases hfatal : error.isFatal = true
  · rw [refuse_of_fatal hfatal] at h
    obtain ⟨hsilent, hapart⟩ := ends_note rfl rfl h
    exact ⟨hapart, fun _ => hsilent, fun hnot => by rw [hfatal] at hnot; cases hnot⟩
  · rw [refuse_of_not_fatal hfatal] at h
    obtain ⟨logged, _, _, rfl, hlog, h⟩ := h.bind
    obtain ⟨answered, _, measured, rfl, hanswer, hmeasure⟩ := h.bind
    obtain ⟨hquiet, hlogged⟩ := ends_note rfl rfl hlog
    obtain ⟨hgets, hanswered, _⟩ := ends_respond hanswer
    obtain ⟨hend, hmeasured⟩ := ends_note rfl rfl hmeasure
    refine ⟨hlogged.append (hanswered.append hmeasured), fun hnot => absurd hnot hfatal,
      fun _ => (hgets.before hend).after hquiet⟩

/-! ## Asking -/

/-- While an origin is asked the client is sent nothing, and only the answer may be amiss. -/
theorem ends_ask {α : Type} {host : String} {port : Nat} {bytes : Bytes}
    {reader : Bytes -> Except MessageError (α × Bytes)} {asked : Asked α}
    (h : Ends (ask host port bytes reader) piece asked) :
    piece.Mute none ∧ ∀ {limits method} found, asked = .answered (.ok found) ->
      (∀ inflow, Inflow.read reader inflow = .ok found -> ∀ toClient fromOrigin,
        Occurrence.originFails limits method
          ⟨.receive .origin (Inflow.decides reader), inflow, toClient, fromOrigin⟩ =
            false) ->
      piece.Sound limits method := by
  obtain ⟨connected, _, _, _, rfl, hconnect, h⟩ := h.perform
  cases connected with
  | error cause =>
      obtain ⟨rfl, rfl⟩ := h.pure
      exact ⟨.cons hconnect rfl trivial .nil, fun _ hasked => by cases hasked⟩
  | ok =>
      obtain ⟨sent, _, _, _, rfl, hsend, h⟩ := h.perform
      cases sent with
      | error cause =>
          obtain ⟨rfl, rfl⟩ := h.pure
          exact ⟨.cons hconnect rfl trivial (.cons hsend rfl trivial .nil),
            fun _ hasked => by cases hasked⟩
      | ok =>
          obtain ⟨_, _, _, rfl, hmessage, h⟩ := h.bind
          obtain ⟨inflow, _, _, rfl, hreceive, rfl⟩ := ends_readMessage hmessage
          obtain ⟨rfl, rfl⟩ := h.pure
          refine ⟨.cons hconnect rfl trivial (.cons hsend rfl trivial
            (.cons hreceive rfl trivial .nil)), fun found hasked hsound => ?_⟩
          obtain hread := Asked.answered.inj hasked
          exact List.forall_mem_cons.2 ⟨rfl, List.forall_mem_cons.2 ⟨rfl,
            List.forall_mem_singleton.2 (hsound inflow hread _ _)⟩⟩

/-! ## Passing requests on -/

private theorem originFails_response {limits : Limits} {method : Method} {enough : Bytes -> Bool}
    {inflow : Inflow} {toClient fromOrigin : Bytes} {found : Response × Held}
    (hmethod : method ≠ .connect)
    (hread : Inflow.read (Response.read limits method) inflow = .ok found) :
    Occurrence.originFails limits method
      ⟨.receive .origin enough, inflow, toClient, fromOrigin⟩ = false := by
  simp only [Occurrence.originFails, if_neg hmethod, hread]

theorem ends_fetch (hmethod : request.method ≠ .connect)
    {result : Except ServiceError Response} (h : Ends (fetch handler request) piece result) :
    piece.Mute none ∧
      (∀ response, result = .ok response -> piece.Sound handler.limits request.method) ∧
      ∀ e, result = .error e -> ∃ fault, e = .origin request.host request.port fault := by
  rw [fetch_eq] at h
  obtain ⟨asking, asked, _, rfl, hask, h⟩ := h.bind
  obtain ⟨rfl, rfl⟩ := h.pure
  rw [List.append_nil]
  obtain ⟨hmute, hsound⟩ := ends_ask hask
  refine ⟨hmute, fun response hresult => ?_, fun e => exists_of_fetched_error⟩
  obtain ⟨held, hasked⟩ := fetched_eq_ok_iff.1 hresult
  exact hsound _ hasked fun _ hread _ _ => originFails_response hmethod hread

theorem ends_respondWith {response : Response} {use : CacheUse}
    {result : Except ServiceError (Status × CacheUse)}
    (h : Ends (respondWith response use) piece result) :
    piece.Apart ∧ ∀ e, result = .error e -> e.isFatal = true := by
  obtain ⟨_, answered, _, rfl, hrespond, h⟩ := h.bind
  obtain ⟨_, hapart, hfatal⟩ := ends_respond hrespond
  cases answered with
  | ok =>
      obtain ⟨rfl, rfl⟩ := h.pure
      exact ⟨hapart.append (List.forall_mem_nil _), fun _ he => by cases he⟩
  | error cause =>
      obtain ⟨rfl, rfl⟩ := h.pure
      refine ⟨hapart.append (List.forall_mem_nil _), fun e he => ?_⟩
      cases he
      exact hfatal cause rfl

/-- Either the origin failed before anything came of it, or it has not failed. -/
inductive Passed (handler : Handler) (request : Request) (piece : History) :
    Except ServiceError (Status × CacheUse) -> Prop where
  | failed {fault} (hmute : piece.Mute (some request.fingerprint)) :
      Passed handler request piece (.error (.origin request.host request.port fault))
  | sound {result} (hsound : piece.Sound handler.limits request.method) :
      Passed handler request piece result

private theorem passed_forwardPast (hmethod : request.method ≠ .connect)
    {result : Except ServiceError (Status × CacheUse)}
    (h : Ends (forwardPast handler request) piece result) :
    Passed handler request piece result := by
  obtain ⟨_, fetched, _, rfl, hfetch, h⟩ := h.bind
  obtain ⟨hmute, hsound, hfault⟩ := ends_fetch hmethod hfetch
  cases fetched with
  | error e =>
      obtain ⟨rfl, rfl⟩ := h.pure
      obtain ⟨fault, rfl⟩ := hfault e rfl
      exact .failed (hmute.weaken.append .nil)
  | ok response =>
      obtain ⟨hapart, _⟩ := ends_respondWith h
      exact .sound (List.forall_mem_append.2 ⟨hsound response rfl, hapart.sound⟩)

private theorem passed_forwardMiss (hmethod : request.method ≠ .connect) {stripe : Nat}
    {result : Except ServiceError (Status × CacheUse)}
    (h : Ends (forwardMiss handler request stripe) piece result) :
    Passed handler request piece result := by
  obtain ⟨_, fetched, _, rfl, hfetch, h⟩ := h.bind
  obtain ⟨hmute, hsound, hfault⟩ := ends_fetch hmethod hfetch
  cases fetched with
  | error e =>
      obtain ⟨rfl, rfl⟩ := h.pure
      obtain ⟨fault, rfl⟩ := hfault e rfl
      exact .failed (hmute.weaken.append .nil)
  | ok response =>
      obtain ⟨_, _, _, _, rfl, _, h⟩ := h.perform
      obtain ⟨_, _, _, _, rfl, _, h⟩ := h.perform
      obtain ⟨_, _, _, _, rfl, _, h⟩ := h.perform
      obtain ⟨hapart, _⟩ := ends_respondWith h
      refine .sound (List.forall_mem_append.2 ⟨hsound response rfl, ?_⟩)
      exact List.forall_mem_cons.2 ⟨rfl, List.forall_mem_cons.2 ⟨rfl,
        List.forall_mem_cons.2 ⟨rfl, hapart.sound⟩⟩⟩

private theorem Passed.after {first piece : History}
    {result : Except ServiceError (Status × CacheUse)}
    (h : Passed handler request piece result)
    (hmute : first.Mute (some request.fingerprint))
    (hsound : first.Sound handler.limits request.method) :
    Passed handler request (first ++ piece) result := by
  cases h with
  | failed hpiece => exact .failed (hmute.append hpiece)
  | sound hpiece => exact .sound (List.forall_mem_append.2 ⟨hsound, hpiece⟩)

private theorem passed_forward (hmethod : request.method ≠ .connect)
    {result : Except ServiceError (Status × CacheUse)}
    (h : Ends (forward handler request) piece result) :
    Passed handler request piece result := by
  unfold forward at h
  split at h
  · obtain ⟨_, _, _, _, rfl, hlock, h⟩ := h.perform
    obtain ⟨found, _, _, _, rfl, hlookup, h⟩ := h.perform
    cases found with
    | some response =>
        obtain ⟨_, answered, _, rfl, hrespond, h⟩ := h.bind
        obtain ⟨hapart, _⟩ := ends_respondWith hrespond
        obtain ⟨_, _, _, _, rfl, _, h⟩ := h.perform
        obtain ⟨rfl, rfl⟩ := h.pure
        refine .sound (List.forall_mem_cons.2 ⟨rfl, List.forall_mem_cons.2 ⟨rfl, ?_⟩⟩)
        exact List.forall_mem_append.2 ⟨hapart.sound, List.forall_mem_singleton.2 rfl⟩
    | none =>
        obtain ⟨_, _, _, _, rfl, hunlock, h⟩ := h.perform
        have hasked : Mute (some request.fingerprint) (_ :: _ :: [_]) :=
          .cons hlock rfl trivial (.cons hlookup rfl rfl
            (.cons hunlock rfl trivial .nil))
        exact (passed_forwardMiss hmethod h).after hasked (List.forall_mem_cons.2 ⟨rfl,
          List.forall_mem_cons.2 ⟨rfl, List.forall_mem_singleton.2 rfl⟩⟩)
  · exact passed_forwardPast hmethod h

/-- Nothing that is done about an outcome has to do with the origin. -/
theorem ends_finish {method : String} {result : Except ServiceError (Status × CacheUse)}
    (h : Ends (finish method result) piece ()) :
    piece.Apart ∧ ∀ e, result = .error e -> Refused e piece := by
  cases result with
  | error e =>
      have hrefused := ends_refuse h
      exact ⟨hrefused.apart, fun e' he => by cases he; exact hrefused⟩
  | ok served =>
      obtain ⟨_, _, _, rfl, hlog, hmeasure⟩ := h.bind
      obtain ⟨_, hlogged⟩ := ends_note rfl rfl hlog
      obtain ⟨_, hmeasured⟩ := ends_note rfl rfl hmeasure
      exact ⟨hlogged.append hmeasured, fun _ he => by cases he⟩

/-! ## Opening tunnels -/

theorem originFails_reply {limits : Limits} {enough : Bytes -> Bool} {inflow : Inflow}
    {toClient fromOrigin : Bytes} {reply : Response} {held : Held}
    (hread : Inflow.read (Response.readHead limits) inflow = .ok (reply, held))
    (hsuccess : reply.status.isSuccess = true) :
    Occurrence.originFails limits .connect
      ⟨.receive .origin enough, inflow, toClient, fromOrigin⟩ = false := by
  simp only [Occurrence.originFails, if_true, hread, hsuccess, Bool.not_true]

private theorem ends_openThroughParent {parent : Parent} {result : Except TunnelFault Held}
    (h : Ends (openThroughParent handler parent request) piece result) :
    piece.Mute none ∧ ∀ held, result = .ok held -> piece.Sound handler.limits .connect := by
  rw [openThroughParent_eq] at h
  obtain ⟨asking, asked, _, rfl, hask, h⟩ := h.bind
  obtain ⟨rfl, rfl⟩ := h.pure
  rw [List.append_nil]
  obtain ⟨hmute, hsound⟩ := ends_ask hask
  refine ⟨hmute, fun held hresult => ?_⟩
  obtain ⟨reply, hasked, hsuccess⟩ := exists_of_opened_ok hresult
  exact hsound _ hasked fun _ hread _ _ => originFails_reply hread hsuccess

private theorem ends_openTunnel {result : Except TunnelFault Held}
    (h : Ends (openTunnel handler request) piece result) :
    piece.Mute none ∧ ∀ held, result = .ok held -> piece.Sound handler.limits .connect := by
  unfold openTunnel at h
  split at h
  · exact ends_openThroughParent h
  · obtain ⟨connected, _, _, _, rfl, hconnect, h⟩ := h.perform
    cases connected with
    | error cause =>
        obtain ⟨rfl, rfl⟩ := h.pure
        exact ⟨.cons hconnect rfl trivial .nil, fun _ hopened => by cases hopened⟩
    | ok =>
        obtain ⟨rfl, rfl⟩ := h.pure
        exact ⟨.cons hconnect rfl trivial .nil,
          fun _ _ => List.forall_mem_singleton.2 rfl⟩

/-- Before anything else in a tunnel, its client is told that it is open. -/
theorem beforeTunnel_bridge {fromClient fromOrigin : Held}
    (h : Ends (bridge fromClient fromOrigin) piece ()) : piece.beforeTunnel = [] := by
  obtain ⟨_, _, _, rfl, hhandshake, _⟩ := h.bind
  obtain ⟨_, _, _, _, rfl, _, _⟩ := hhandshake.perform
  rfl

/-! ## Whole connections -/

/-- What a failure of the origin is for a request that is served. -/
structure Excused (request : Request) (piece : History) : Prop where
  gets : ∃ text, piece.Gets (Response.ofMessage .proxyFailure text)
  spares : ∀ o ∈ piece, o.action.Spares (some request.fingerprint)

private theorem excused_serveKind {held : Held} {kind : RequestKind}
    (hkind : RequestKind.ofMethod request.method = .ok kind) {o : Occurrence}
    (hmem : o ∈ piece.beforeTunnel)
    (hfails : o.originFails handler.limits request.method = true)
    (h : Ends (serveKind handler request held kind) piece ()) : Excused request piece := by
  cases kind with
  | forward =>
      obtain ⟨first, result, last, rfl, hforward, hfinish⟩ := h.bind
      have hmethod : request.method ≠ .connect := by
        intro hconnect
        rw [hconnect] at hkind
        cases hkind
      obtain ⟨hapart, hrefused⟩ := ends_finish hfinish
      have hpassed := passed_forward hmethod hforward
      cases hpassed with
      | failed hmute =>
          exact ⟨⟨_, ((hrefused _ rfl).gets rfl).after hmute.silent⟩,
            List.forall_mem_append.2 ⟨hmute.spares, hapart.spares⟩⟩
      | sound hsound =>
          have hall : Sound handler.limits request.method (first ++ last) :=
            List.forall_mem_append.2 ⟨hsound, hapart.sound⟩
          rw [hall o (mem_of_mem_beforeTunnel hmem)] at hfails
          cases hfails
  | tunnel =>
      obtain ⟨first, opened, last, rfl, hopen, hrest⟩ := h.bind
      have hconnect : request.method = .connect := by
        unfold RequestKind.ofMethod at hkind
        split at hkind <;> first | assumption | cases hkind
      obtain ⟨hmute, hsound⟩ := ends_openTunnel hopen
      cases opened with
      | error fault =>
          have hrefused := ends_refuse hrest
          exact ⟨⟨_, (hrefused.gets rfl).after hmute.silent⟩,
            List.forall_mem_append.2 ⟨hmute.weaken.spares, hrefused.apart.spares⟩⟩
      | ok fromOrigin =>
          have hnone := beforeTunnel_bridge hrest
          rw [hmute.silent.beforeTunnel_append, hnone, List.append_nil] at hmem
          rw [hconnect, hsound fromOrigin rfl o hmem] at hfails
          cases hfails

private theorem Refused.concludes {error : ServiceError} {first last : History}
    (h : Refused error last) (hfatal : error.isFatal = false) (hfirst : first.Silent) :
    Concludes (first ++ last) (some error.status) :=
  ⟨error.message, (h.gets hfatal).after hfirst⟩

theorem refused_of_blocked {held : Held}
    (hblocked : handler.blocklist.contains request.host = true)
    (h : Ends (dispatch handler request held) piece ()) :
    ∃ first last, piece = first ++ last ∧ first.Silent ∧ first.Apart ∧
      Refused .forbidden last := by
  unfold dispatch at h
  dsimp only at h
  rw [if_pos hblocked] at h
  obtain ⟨first, _, last, rfl, hmeasure, hrefuse⟩ := h.bind
  obtain ⟨hsilent, hapart⟩ := ends_note rfl rfl hmeasure
  exact ⟨first, last, rfl, hsilent, hapart, ends_refuse hrefuse⟩

theorem ends_dispatch {held : Held}
    (hunblocked : handler.blocklist.contains request.host = false)
    (h : Ends (dispatch handler request held) piece ()) :
    if Forwarding.containsLoop request = true then Refused .loopDetected piece
    else match RequestKind.ofMethod request.method with
      | .error e => Refused e piece
      | .ok kind => Ends (serveKind handler request held kind) piece () := by
  unfold dispatch at h
  dsimp only at h
  rw [hunblocked, if_neg Bool.false_ne_true] at h
  split at h
  · next hloop =>
    rw [if_pos hloop]
    exact ends_refuse h
  · next hloop =>
    rw [if_neg hloop]
    cases hkind : RequestKind.ofMethod request.method with
    | error e =>
        rw [hkind] at h
        exact ends_refuse h
    | ok kind =>
        rw [hkind] at h
        exact h

theorem ofMethod_of_not_mem {method : Method}
    (h : method ∉ [Method.get, .post, .head, .connect]) :
    RequestKind.ofMethod method = .error (.methodNotAllowed method.token) := by
  unfold RequestKind.ofMethod
  split <;> first | rfl | exact absurd (by decide) h

theorem exists_ofMethod_of_mem {method : Method}
    (h : method ∈ [Method.get, .post, .head, .connect]) :
    ∃ kind, RequestKind.ofMethod method = .ok kind := by
  simp only [List.mem_cons, List.not_mem_nil, or_false] at h
  rcases h with rfl | rfl | rfl | rfl <;> exact ⟨_, rfl⟩

/--
Whatever fails while a client is served, and wherever it fails until the client
is told that its tunnel is open: the client gets nothing when its own stream is at
fault, and one refusal otherwise, whose status is that of the first class that
applies.  Nothing is stored, and no entry is lost that could still be served.
-/
theorem concludes_of_reaches {history : History}
    (h : Reaches (serve handler client) history (.done ())) :
    ∃ inflow, history.fromClient? = some inflow ∧
      ∀ status print, Failure handler client inflow history status print ->
        history.Concludes status ∧ history.SparesCache print := by
  obtain ⟨_, _, last, rfl, hrequest, hrest⟩ := Ends.bind h
  obtain ⟨enough, inflow, rfl, rfl⟩ := ends_readRequest hrequest
  refine ⟨inflow, rfl, fun status print hfailure => ?_⟩
  have hfirst : Silent [⟨.receive .client enough, inflow, [], []⟩] :=
    silent_singleton ⟨rfl, rfl⟩ rfl
  have hapart : Apart [⟨.receive .client enough, inflow, [], []⟩] :=
    List.forall_mem_singleton.2 rfl
  have hspares : ∀ print, (∀ o ∈ last, o.action.Spares print) ->
      SparesCache ([⟨.receive .client enough, inflow, [], []⟩] ++ last) print :=
    fun print hlast =>
      sparesCache_of_spares (List.forall_mem_append.2 ⟨hapart.spares, hlast⟩)
  -- Each class brings what rules out the classes before it.
  cases hfailure with
  | @cut fault hread hcut =>
      rw [hread] at hrest
      have hrefused := ends_refuse hrest
      have hfatal := (isFatal_faultOfRead fault).trans hcut
      exact ⟨hfirst.append (hrefused.silent hfatal), hspares _ hrefused.apart.spares⟩
  | @malformed fault hread hcut =>
      rw [hread] at hrest
      have hrefused := ends_refuse hrest
      have hfatal := (isFatal_faultOfRead fault).trans hcut
      have hconcludes := hrefused.concludes hfatal hfirst
      rw [status_faultOfRead hcut] at hconcludes
      exact ⟨hconcludes, hspares _ hrefused.apart.spares⟩
  | blocked hread hblocked =>
      rw [hread] at hrest
      obtain ⟨first, piece, rfl, hsilent, hmeasured, hrefused⟩ :=
        refused_of_blocked hblocked hrest
      have hconcludes := hrefused.concludes rfl (hfirst.append hsilent)
      rw [List.append_assoc] at hconcludes
      exact ⟨hconcludes, hspares _ (hmeasured.append hrefused.apart).spares⟩
  | loop hread hunblocked hloop =>
      rw [hread] at hrest
      have hrefused := ends_dispatch hunblocked hrest
      rw [if_pos hloop] at hrefused
      exact ⟨hrefused.concludes rfl hfirst, hspares _ hrefused.apart.spares⟩
  | method hread hunblocked hnoLoop hmethod =>
      rw [hread] at hrest
      have hrefused := ends_dispatch hunblocked hrest
      rw [hnoLoop, if_neg Bool.false_ne_true, ofMethod_of_not_mem hmethod] at hrefused
      exact ⟨hrefused.concludes rfl hfirst, hspares _ hrefused.apart.spares⟩
  | origin hread hunblocked hnoLoop hmethod hmem hfails =>
      rw [hread] at hrest
      obtain ⟨kind, hkind⟩ := exists_ofMethod_of_mem hmethod
      have hserved := ends_dispatch hunblocked hrest
      rw [hnoLoop, if_neg Bool.false_ne_true, hkind] at hserved
      rw [hfirst.beforeTunnel_append] at hmem
      rcases List.mem_append.1 hmem with hmem | hmem
      · rw [hapart.sound _ hmem] at hfails
        cases hfails
      · obtain ⟨⟨text, hgets⟩, hpiece⟩ := excused_serveKind hkind hmem hfails hserved
        exact ⟨⟨text, hgets.after hfirst⟩, hspares _ hpiece⟩

def pageRequest : Request :=
  { Request.bare .get "::1" 81 "/" with
    header := ⟨[⟨"Host", "[::1]:81"⟩]⟩
    client := "127.0.0.1" }

/-- A request to which the origin answers with less than it announces. -/
def truncatedHistory : History :=
  (play (obliging (Bytes.ofText "GET / HTTP/1.1\r\nHost: [::1]:81\r\n\r\n")
    (Bytes.ofText "HTTP/1.1 200 OK\r\nContent-Length: 5\r\n\r\nhel"))
    (serve (Handler.ofSettings {} .empty) "127.0.0.1")).1

/-- The client of a response that breaks off gets nothing of it. -/
theorem concludes_of_truncated :
    truncatedHistory.Concludes (some .proxyFailure) ∧
      truncatedHistory.SparesCache (some pageRequest.fingerprint) := by
  have hreach : Reaches (serve (Handler.ofSettings {} .empty) "127.0.0.1")
      truncatedHistory (.done ()) := reaches_play (possible_obliging _ _) _
  obtain ⟨inflow, hinflow, hall⟩ := concludes_of_reaches hreach
  have hfirst : truncatedHistory.fromClient? =
      some ⟨Bytes.ofText "GET / HTTP/1.1\r\nHost: [::1]:81\r\n\r\n", .silent⟩ := rfl
  obtain rfl := Option.some.inj (hfirst.symm.trans hinflow)
  have hread : Inflow.read (Request.read Limits.default "127.0.0.1")
      ⟨Bytes.ofText "GET / HTTP/1.1\r\nHost: [::1]:81\r\n\r\n", .silent⟩ =
        .ok (pageRequest, ⟨[], []⟩) := by
    decide +kernel
  have hany : (truncatedHistory.beforeTunnel.any
      (Occurrence.originFails Limits.default .get)) = true := by
    decide +kernel
  obtain ⟨o, hmem, hfails⟩ := List.any_eq_true.1 hany
  exact hall _ _ (.origin hread rfl rfl (by decide) hmem hfails)

/-- A world in which nothing can be sent to the origin. -/
def unheard (client : Bytes) : World
  | .send _ => (.error .brokenPipe, [], [])
  | action => obliging client [] action

private theorem possible_unheard (client : Bytes) (action : Action) :
    ((unheard client).occurrence action).Possible := by
  cases action with
  | send bytes => exact ⟨rfl, rfl⟩
  | _ => exact possible_obliging client [] _

def hastyRequest : Request :=
  { Request.bare .connect "::1" 443 "" with client := "127.0.0.1" }

/-- A tunnel to an origin that is gone when the client is told that it is open. -/
def lateHistory : History :=
  (play (unheard (Bytes.ofText "CONNECT [::1]:443 HTTP/1.1\r\n\r\nearly"))
    (serve (Handler.ofSettings {} .empty) "127.0.0.1")).1

/-- Once its tunnel is announced, the client is not told that the origin failed. -/
theorem not_concludes_of_late :
    Reaches (serve (Handler.ofSettings {} .empty) "127.0.0.1") lateHistory (.done ()) ∧
      lateHistory.fromClient? =
        some ⟨Bytes.ofText "CONNECT [::1]:443 HTTP/1.1\r\n\r\nearly", .silent⟩ ∧
      Inflow.read (Request.read Limits.default "127.0.0.1")
          ⟨Bytes.ofText "CONNECT [::1]:443 HTTP/1.1\r\n\r\nearly", .silent⟩ =
        .ok (hastyRequest, ⟨Bytes.ofText "early", []⟩) ∧
      (Handler.ofSettings {} .empty).blocklist.contains hastyRequest.host = false ∧
      Forwarding.containsLoop hastyRequest = false ∧
      (∃ o ∈ lateHistory, o.originFails Limits.default hastyRequest.method = true) ∧
      ¬ lateHistory.Concludes (some .proxyFailure) := by
  refine ⟨reaches_play (possible_unheard _) _, rfl, by decide +kernel, rfl, rfl, ?_, ?_⟩
  · have hany : (lateHistory.any
        (Occurrence.originFails Limits.default hastyRequest.method)) = true := by
      decide +kernel
    exact List.any_eq_true.1 hany
  · rintro ⟨text, hgets⟩
    have hanswers : lateHistory.answers = [] := by decide +kernel
    rw [hgets.answers] at hanswers
    cases hanswers

end Service

end Intermediary

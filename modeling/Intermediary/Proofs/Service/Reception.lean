import Intermediary.Proofs.Response.Reread
import Intermediary.Proofs.Service.Provenance
import Intermediary.Proofs.Service.Verdict

/-!
# What a client reads

A client reads the answer to its request with the method that it has sent.  What
is relayed, and what is found in the cache, was read with that method before, so
that the client reads exactly it.  A refusal is composed without regard to the
method: to a client that expects no payload, its text is left over.
-/

namespace Intermediary

open Serving History Text

def Occurrence.hit? : Occurrence -> Option (Fingerprint × Response)
  | ⟨.lookup print, some response, _, _⟩ => some (print, response)
  | _ => none

namespace Service

/-- A response that workers of a handler can find in the cache that they share. -/
def Kept (handler : Handler) (print : Fingerprint) (response : Response) : Prop :=
  ∃ (workers : CacheWorkers) (before after : List SharedEvent) (event : SharedEvent)
    (state : CacheWorkers.State), workers.handler = handler ∧
      workers.Reaches (before ++ event :: after) state ∧ event.hit? = some (print, response)

private theorem Kept.sendable {handler : Handler} {print : Fingerprint} {response : Response}
    (h : Kept handler print response) : response.Sendable print.method := by
  obtain ⟨workers, before, after, event, state, _, hreach, hhit⟩ := h
  obtain ⟨placement, asked, _, _, hstores, _⟩ := hreach.exists_placement_of_hit hhit
  obtain ⟨_, _, _, _, hread⟩ := hstores.fetched
  rw [hstores.fingerprint]
  exact Response.sendable_of_read hread

/-- The cache gives nothing but what it can have been given. -/
def Trusts (handler : Handler) (history : History) : Prop :=
  ∀ o ∈ history, ∀ print response, o.hit? = some (print, response) ->
    Kept handler print response

private theorem Trusts.left {handler : Handler} {first last : History}
    (h : Trusts handler (first ++ last)) : Trusts handler first :=
  fun o ho => h o (List.mem_append_left last ho)

private theorem Trusts.right {handler : Handler} {first last : History}
    (h : Trusts handler (first ++ last)) : Trusts handler last :=
  fun o ho => h o (List.mem_append_right first ho)

inductive Received (handler : Handler) (client : String) (inflow : Inflow)
    (method : Method) (history : History) : Prop where
  /-- Nothing has failed, and the client reads one response. -/
  | relayed {response : Response}
      (hsound : ∀ status print, ¬ Failure handler client inflow history status print)
      (hbytes : history.toClient = response.render) (hread : response.ReadsBack method)
      (hhead : method = .head -> response.payload = .empty)
  /-- Something has failed, and the client reads a refusal, or the head of one. -/
  | refused {status : Status} {text : String} {print : Option Fingerprint}
      (hfailure : Failure handler client inflow history (some status) print)
      (hbytes : history.toClient = (Response.ofMessage status text).render)
      (htext : text ≠ "")
      (hread : ∀ limits tail, Response.Fits limits (Response.ofMessage status text) ->
        limits.payloadBytes < wordBound ->
        Response.read limits method (history.toClient ++ tail) =
          if method = .head then
            .ok ({ Response.ofMessage status text with payload := .empty },
              Bytes.ofText text ++ tail)
          else .ok (Response.ofMessage status text, tail))

variable {handler : Handler} {client : String} {request : Request} {piece : History}

/-! ## Reading refusals -/

private theorem sendable_refusal {limits : Limits} {status : Status} {text : String}
    {method : Method}
    (hmem : status ∈ Response.refusals) (hmethod : method ≠ .head)
    (hfits : Response.Fits limits (Response.ofMessage status text))
    (hword : limits.payloadBytes < wordBound) :
    (Response.ofMessage status text).Sendable method := by
  have hstatus : ∀ status ∈ Response.refusals,
      Response.IsWritableStatus status ∧ status.forbidsPayload = false := by
    unfold Response.IsWritableStatus
    decide
  obtain ⟨hwritable, hpayload⟩ := hstatus status hmem
  have hlength := Nat.lt_of_le_of_lt hfits.payload hword
  exact Response.sendable_ofMessage hwritable hpayload hlength hmethod

/-- With the method `HEAD`, the head of a refusal is read, and its text is not. -/
theorem read_head_ofMessage {limits : Limits} {status : Status} {text : String}
    (hmem : status ∈ Response.refusals)
    (hfits : Response.Fits limits (Response.ofMessage status text))
    (hword : limits.payloadBytes < wordBound) (tail : Bytes) :
    Response.read limits .head ((Response.ofMessage status text).render ++ tail) =
      .ok ({ Response.ofMessage status text with payload := .empty },
        Bytes.ofText text ++ tail) := by
  have hwhole := sendable_refusal hmem (show Method.get ≠ .head by decide) hfits hword
  let head : Response := { Response.ofMessage status text with payload := .empty }
  have hsendable : head.Sendable .head := {
    protocol := hwhole.protocol
    status := hwhole.status
    final := hwhole.final
    header := hwhole.header
    payload := .nothing (.inl rfl) }
  have hroom : Response.Fits limits head := {
    line := hfits.line
    fields := hfits.fields
    count := hfits.count
    payload := Nat.zero_le _
    chunks := Request.chunkLinesFit_of_size (Nat.zero_le _) }
  have hread := Response.readsBack_of_sendable hsendable limits
    (Bytes.ofText text ++ tail) hroom
  have hbytes : (Response.ofMessage status text).render ++ tail =
      head.render ++ (Bytes.ofText text ++ tail) := by
    have hpayload : (Response.ofMessage status text).payload.bytes = Bytes.ofText text := rfl
    have hnone : head.payload.bytes = [] := rfl
    have hline : head.line = (Response.ofMessage status text).line := rfl
    have hheader : head.header = (Response.ofMessage status text).header := rfl
    simp only [Response.render, hpayload, hnone, hline, hheader, List.append_assoc,
      List.nil_append]
  have hsame : head.reread = head := by
    have htrimmed := congrArg Response.header (Response.reread_ofMessage status text)
    exact congrArg (fun header => { head with header := header }) htrimmed
  rw [hbytes, hread, hsame]

private theorem read_ofMessage {limits : Limits} {status : Status} {text : String} {method : Method}
    (hmem : status ∈ Response.refusals) (hmethod : method ≠ .head)
    (hfits : Response.Fits limits (Response.ofMessage status text))
    (hword : limits.payloadBytes < wordBound) (tail : Bytes) :
    Response.read limits method ((Response.ofMessage status text).render ++ tail) =
      .ok (Response.ofMessage status text, tail) := by
  have hsendable := sendable_refusal hmem hmethod hfits hword
  have hread := Response.readsBack_of_sendable hsendable limits tail hfits
  rwa [Response.reread_ofMessage] at hread

/-! ## Passing a request on -/

/-- How passing a request on ends: the origin has failed, or one response is written. -/
inductive Handed (handler : Handler) (request : Request) (piece : History) :
    Except ServiceError (Status × CacheUse) -> Prop where
  | failed {fault o} (hsilent : piece.Silent) (hmem : o ∈ piece)
      (hfails : o.originFails handler.limits request.method = true) :
      Handed handler request piece (.error (.origin request.host request.port fault))
  | written {response served} (hgets : piece.Gets response)
      (hsendable : response.Sendable request.method)
      (hsound : piece.Sound handler.limits request.method) :
      Handed handler request piece (.ok served)
  | untaken {e o} (hmem : o ∈ piece) (hfails : o.answerFails = true) :
      Handed handler request piece (.error e)

private theorem Handed.after {first last : History}
    {result : Except ServiceError (Status × CacheUse)}
    (h : Handed handler request last result) (hsilent : first.Silent)
    (hsound : first.Sound handler.limits request.method) :
    Handed handler request (first ++ last) result := by
  cases h with
  | failed hquiet hmem hfails =>
      exact .failed (hsilent.append hquiet) (List.mem_append_right first hmem) hfails
  | written hgets hsendable hrest =>
      exact .written (hgets.after hsilent) hsendable
        (List.forall_mem_append.2 ⟨hsound, hrest⟩)
  | untaken hmem hfails => exact .untaken (List.mem_append_right first hmem) hfails

theorem Handed.cons {o : Occurrence} {result : Except ServiceError (Status × CacheUse)}
    (h : Handed handler request piece result) (ho : o.Possible)
    (hspoken : o.action.isSpoken = false)
    (hsound : o.originFails handler.limits request.method = false) :
    Handed handler request (o :: piece) result :=
  h.after (silent_singleton ho hspoken) (List.forall_mem_singleton.2 hsound)

private theorem Handed.before {first last : History}
    {result : Except ServiceError (Status × CacheUse)}
    (h : Handed handler request first result) (hsilent : last.Silent)
    (hsound : last.Sound handler.limits request.method) :
    Handed handler request (first ++ last) result := by
  cases h with
  | failed hquiet hmem hfails =>
      exact .failed (hquiet.append hsilent) (List.mem_append_left last hmem) hfails
  | written hgets hsendable hrest =>
      exact .written (hgets.before hsilent) hsendable
        (List.forall_mem_append.2 ⟨hrest, hsound⟩)
  | untaken hmem hfails => exact .untaken (List.mem_append_left last hmem) hfails

theorem handed_respondWith {response : Response} {use : CacheUse}
    {result : Except ServiceError (Status × CacheUse)}
    (hsendable : response.Sendable request.method)
    (h : Ends (respondWith response use) piece result) :
    Handed handler request piece result := by
  obtain ⟨_, answered, _, rfl, hrespond, h⟩ := h.bind
  obtain ⟨hgets, hapart, _⟩ := ends_respond hrespond
  cases answered with
  | ok =>
      obtain ⟨rfl, rfl⟩ := h.pure
      rw [List.append_nil]
      exact .written hgets hsendable hapart.sound
  | error e =>
      obtain ⟨rfl, rfl⟩ := h.pure
      obtain ⟨reply, _, _, _, rfl, _, hrest⟩ := hrespond.perform
      cases reply with
      | ok => cases hrest.pure.2
      | error cause => exact .untaken List.mem_cons_self rfl

/-- Asking fails where connecting or sending does, or reading the answer. -/
theorem outcome_of_ask {α : Type} {host : String} {port : Nat} {bytes : Bytes}
    {reader : Bytes -> Except MessageError (α × Bytes)} {asked : Asked α} {limits : Limits}
    {method : Method} (h : Ends (ask host port bytes reader) piece asked)
    (hread : ∀ inflow fault, Inflow.read reader inflow = .error fault ->
      ∀ toClient fromOrigin, Occurrence.originFails limits method
        ⟨.receive .origin (Inflow.decides reader), inflow, toClient, fromOrigin⟩ = true) :
    (∃ inflow found, asked = .answered (.ok found) ∧ Inflow.read reader inflow = .ok found) ∨
      (¬ ∃ found, asked = .answered (.ok found)) ∧
        ∃ o ∈ piece, o.originFails limits method = true := by
  obtain ⟨connected, _, _, _, rfl, _, h⟩ := h.perform
  cases connected with
  | error cause =>
      obtain ⟨rfl, rfl⟩ := h.pure
      exact .inr ⟨by simp, _, List.mem_cons_self, rfl⟩
  | ok =>
      obtain ⟨sent, _, _, _, rfl, _, h⟩ := h.perform
      cases sent with
      | error cause =>
          obtain ⟨rfl, rfl⟩ := h.pure
          exact .inr ⟨by simp, _, List.mem_cons_of_mem _ List.mem_cons_self, rfl⟩
      | ok =>
          obtain ⟨_, _, _, rfl, hmessage, h⟩ := h.bind
          obtain ⟨inflow, _, _, rfl, _, rfl⟩ := ends_readMessage hmessage
          obtain ⟨rfl, rfl⟩ := h.pure
          cases hfound : Inflow.read reader inflow with
          | ok found => exact .inl ⟨inflow, found, rfl, hfound⟩
          | error fault =>
              exact .inr ⟨by simp, _, List.mem_cons_of_mem _ (List.mem_cons_of_mem _
                List.mem_cons_self), hread inflow fault hfound _ _⟩

private theorem originFails_error {limits : Limits} {method : Method} {enough : Bytes -> Bool}
    {inflow : Inflow} {toClient fromOrigin : Bytes} {fault : ReadFault}
    (hmethod : method ≠ .connect)
    (hread : Inflow.read (Response.read limits method) inflow = .error fault) :
    Occurrence.originFails limits method
      ⟨.receive .origin enough, inflow, toClient, fromOrigin⟩ = true := by
  simp only [Occurrence.originFails, if_neg hmethod, hread]

private theorem sendable_of_inflow_read {limits : Limits} {method : Method} {inflow : Inflow}
    {response : Response} {held : Held}
    (h : Inflow.read (Response.read limits method) inflow = .ok (response, held)) :
    response.Sendable method := by
  obtain ⟨_, hread, _⟩ := exists_of_inflow_read h
  exact Response.sendable_of_read hread

/-- A response that was fetched can be sent on, and where there is none, the origin failed. -/
theorem fetch_outcome (hmethod : request.method ≠ .connect)
    {result : Except ServiceError Response} (h : Ends (fetch handler request) piece result) :
    (∀ response, result = .ok response -> response.Sendable request.method) ∧
      ∀ e, result = .error e -> ∃ o ∈ piece,
        o.originFails handler.limits request.method = true := by
  rw [fetch_eq] at h
  obtain ⟨asking, asked, _, rfl, hask, h⟩ := h.bind
  obtain ⟨rfl, rfl⟩ := h.pure
  rw [List.append_nil]
  have houtcome := outcome_of_ask hask fun inflow fault hread toClient fromOrigin =>
    @originFails_error handler.limits _ _ inflow toClient fromOrigin fault hmethod hread
  constructor
  · intro response hresult
    obtain ⟨held, rfl⟩ := fetched_eq_ok_iff.1 hresult
    rcases houtcome with ⟨inflow, found, hasked, hread⟩ | ⟨hnone, _⟩
    · cases hasked
      exact sendable_of_inflow_read hread
    · exact absurd ⟨_, rfl⟩ hnone
  · intro e hresult
    rcases houtcome with ⟨_, ⟨response, held⟩, rfl, _⟩ | ⟨_, hfails⟩
    · cases hresult
    · exact hfails

/-- What follows on a response is done with one that can be sent on. -/
theorem handed_fetch {next : Response -> Serving (Except ServiceError (Status × CacheUse))}
    {result : Except ServiceError (Status × CacheUse)} (hmethod : request.method ≠ .connect)
    (hnext : ∀ response piece, response.Sendable request.method ->
      Ends (next response) piece result -> Handed handler request piece result)
    (h : Ends (do
      match <- fetch handler request with
      | .error e => return .error e
      | .ok response => next response) piece result) :
    Handed handler request piece result := by
  obtain ⟨_, fetched, _, rfl, hfetch, h⟩ := h.bind
  obtain ⟨hmute, hsound, hfault⟩ := ends_fetch hmethod hfetch
  obtain ⟨hsendable, hfails⟩ := fetch_outcome hmethod hfetch
  cases fetched with
  | error e =>
      obtain ⟨rfl, rfl⟩ := h.pure
      obtain ⟨fault, rfl⟩ := hfault e rfl
      obtain ⟨o, hmem, ho⟩ := hfails _ rfl
      rw [List.append_nil]
      exact .failed hmute.silent hmem ho
  | ok response =>
      exact (hnext response _ (hsendable response rfl) h).after hmute.silent
        (hsound response rfl)

private theorem handed_forwardPast (hmethod : request.method ≠ .connect)
    {result : Except ServiceError (Status × CacheUse)}
    (h : Ends (forwardPast handler request) piece result) :
    Handed handler request piece result :=
  handed_fetch hmethod (fun _ _ => handed_respondWith) h

private theorem handed_forwardMiss (hmethod : request.method ≠ .connect) {stripe : Nat}
    {result : Except ServiceError (Status × CacheUse)}
    (h : Ends (forwardMiss handler request stripe) piece result) :
    Handed handler request piece result := by
  refine handed_fetch hmethod (fun response piece hsendable h => ?_) h
  obtain ⟨_, _, _, _, rfl, hlock, h⟩ := h.perform
  obtain ⟨_, _, _, _, rfl, hstore, h⟩ := h.perform
  obtain ⟨_, _, _, _, rfl, hunlock, h⟩ := h.perform
  have hwritten : Handed handler request _ result := handed_respondWith hsendable h
  have hoffered := (hwritten.cons hunlock rfl rfl).cons hstore rfl rfl
  exact hoffered.cons hlock rfl rfl

private theorem handed_forward (hmethod : request.method ≠ .connect)
    {result : Except ServiceError (Status × CacheUse)} (htrusts : Trusts handler piece)
    (h : Ends (forward handler request) piece result) :
    Handed handler request piece result := by
  unfold forward at h
  split at h
  · obtain ⟨_, _, _, _, rfl, hlock, h⟩ := h.perform
    obtain ⟨found, _, _, _, rfl, hlookup, h⟩ := h.perform
    cases found with
    | some response =>
        obtain ⟨_, answered, _, rfl, hrespond, h⟩ := h.bind
        obtain ⟨_, _, _, _, rfl, hunlock, h⟩ := h.perform
        obtain ⟨rfl, rfl⟩ := h.pure
        -- What was found answers the method of this request.
        have hkept : Kept handler request.fingerprint response :=
          htrusts _ (List.mem_cons_of_mem _ List.mem_cons_self) _ _ rfl
        have hwritten : Handed handler request _ result :=
          handed_respondWith hkept.sendable hrespond
        have hanswered := hwritten.before (silent_singleton hunlock rfl)
          (List.forall_mem_singleton.2 rfl)
        exact (hanswered.cons hlookup rfl rfl).cons hlock rfl rfl
    | none =>
        obtain ⟨_, _, _, _, rfl, hunlock, h⟩ := h.perform
        have hmissed := (handed_forwardMiss hmethod h).cons hunlock rfl rfl
        exact (hmissed.cons hlookup rfl rfl).cons hlock rfl rfl
  · exact handed_forwardPast hmethod h

/-! ## Whole connections -/

/-- A request that was served is noted, and nothing more is written. -/
theorem silent_finish {method : String} {served : Status × CacheUse}
    (h : Ends (finish method (.ok served)) piece ()) : piece.Silent ∧ piece.Apart := by
  obtain ⟨_, _, _, rfl, hlog, hmeasure⟩ := h.bind
  obtain ⟨hlogged, hfirst⟩ := ends_note rfl rfl hlog
  obtain ⟨hmeasured, hlast⟩ := ends_note rfl rfl hmeasure
  exact ⟨hlogged.append hmeasured, hfirst.append hlast⟩

/-- A refusal is read with every method but one as it was composed. -/
theorem received_of_gets {inflow : Inflow} {method : Method} {history : History}
    {status : Status} {text : String} {print : Option Fingerprint}
    (hfailure : Failure handler client inflow history (some status) print)
    (hgets : history.Gets (Response.ofMessage status text))
    (hwhole : ∀ o ∈ history, o.answerFails = false) (hmem : status ∈ Response.refusals)
    (htext : text ≠ "") : Received handler client inflow method history := by
  have hbytes := hgets.whole hwhole
  refine .refused hfailure hbytes htext fun limits tail hfits hword => ?_
  rw [hbytes]
  split
  · next hhead =>
    rw [hhead]
    exact read_head_ofMessage hmem hfits hword tail
  · next hmethod => exact read_ofMessage hmem hmethod hfits hword tail

private theorem payload_eq_empty {response : Response} (h : response.Sendable .head) :
    response.payload = .empty := by
  obtain ⟨protocol, status, header, payload⟩ := response
  cases h.payload with
  | nothing => rfl
  | framed hbody => exact absurd (.inl rfl) hbody

private theorem message_origin_ne_empty (host : String) (port : Nat) (fault : ExchangeFault) :
    (ServiceError.origin host port fault).message ≠ "" := by
  unfold ServiceError.message
  dsimp only
  rw [ne_eq, String.append_eq_empty_iff]
  rintro ⟨hfront, _⟩
  rw [String.append_eq_empty_iff] at hfront
  exact absurd hfront.2 (by decide)

private theorem message_methodNotAllowed_ne_empty (token : String) :
    (ServiceError.methodNotAllowed token).message ≠ "" := by
  unfold ServiceError.message
  dsimp only
  rw [ne_eq, String.append_eq_empty_iff]
  rintro ⟨_, hend⟩
  exact absurd hend (by decide)

/-- Where the request is served and the origin does not fail, nothing does. -/
theorem not_failure {inflow : Inflow} {held : Held} {history : History}
    (hread : Inflow.read (Request.read handler.limits client) inflow = .ok (request, held))
    (hunblocked : handler.blocklist.contains request.host = false)
    (hnoLoop : Forwarding.containsLoop request = false)
    (hserved : request.method ∈ [Method.get, .post, .head, .connect])
    (hsound : history.Sound handler.limits request.method) (status : Option Status)
    (print : Option Fingerprint) : ¬ Failure handler client inflow history status print := by
  intro hfailure
  cases hfailure with
  | cut hfault => rw [hread] at hfault; cases hfault
  | malformed hfault => rw [hread] at hfault; cases hfault
  | blocked hagain hblocked =>
      cases hread.symm.trans hagain
      rw [hunblocked] at hblocked
      cases hblocked
  | loop hagain _ hloop =>
      cases hread.symm.trans hagain
      rw [hnoLoop] at hloop
      cases hloop
  | method hagain _ _ hmethod =>
      cases hread.symm.trans hagain
      exact hmethod hserved
  | origin hagain _ _ _ hmem hfails =>
      cases hread.symm.trans hagain
      rw [hsound _ (mem_of_mem_beforeTunnel hmem)] at hfails
      cases hfails

private theorem received_forward {inflow : Inflow} {held ahead : Held} {first : History}
    (hread : Inflow.read (Request.read handler.limits client) inflow = .ok (request, held))
    (hunblocked : handler.blocklist.contains request.host = false)
    (hnoLoop : Forwarding.containsLoop request = false)
    (hkind : RequestKind.ofMethod request.method = .ok .forward)
    (hfirst : first.Silent) (hapart : first.Apart)
    (hwhole : ∀ o ∈ first ++ piece, o.answerFails = false)
    (htrusts : Trusts handler (first ++ piece))
    (h : Ends (serveKind handler request ahead .forward) piece ()) :
    Received handler client inflow request.method (first ++ piece) := by
  have hserved : request.method ∈ [Method.get, .post, .head, .connect] := by
    by_contra hnot
    rw [ofMethod_of_not_mem hnot] at hkind
    cases hkind
  have hmethod : request.method ≠ .connect := by
    intro hconnect
    rw [hconnect] at hkind
    cases hkind
  obtain ⟨passing, result, last, rfl, hforward, hfinish⟩ := h.bind
  have hhanded := handed_forward hmethod htrusts.right.left hforward
  cases hhanded with
  | @failed fault o hsilent hmem hfails =>
      obtain ⟨_, hrefused⟩ := ends_finish hfinish
      have hgets := (((hrefused _ rfl).gets rfl).after hsilent).after hfirst
      have hbefore : o ∈ (first ++ (passing ++ last)).beforeTunnel := by
        rw [hfirst.beforeTunnel_append, hsilent.beforeTunnel_append]
        exact List.mem_append_right _ (List.mem_append_left _ hmem)
      exact received_of_gets (.origin hread hunblocked hnoLoop hserved hbefore hfails) hgets
        hwhole (by decide) (message_origin_ne_empty _ _ _)
  | @written response served hgets hsendable hsound =>
      obtain ⟨hsilent, hlast⟩ := silent_finish hfinish
      have hbytes := ((hgets.before hsilent).after hfirst).whole hwhole
      have hall : Sound handler.limits request.method (first ++ (passing ++ last)) :=
        List.forall_mem_append.2 ⟨hapart.sound,
          List.forall_mem_append.2 ⟨hsound, hlast.sound⟩⟩
      refine .relayed (not_failure hread hunblocked hnoLoop hserved hall) hbytes
        (Response.readsBack_of_sendable hsendable) fun hhead => ?_
      rw [hhead] at hsendable
      exact payload_eq_empty hsendable
  | untaken hmem hfails =>
      have htaken := hwhole _ (List.mem_append_right _ (List.mem_append_left _ hmem))
      rw [htaken] at hfails
      cases hfails

/--
A client that was given its answer whole reads it with the method of its request,
and has nothing left over: one response, as it was fetched or found, where nothing
has failed, and otherwise a refusal.  Only where it has sent `HEAD` and is refused
does it read no more than the head, and the text is left over.
-/
theorem received_of_reaches {history : History} {inflow : Inflow} {held : Held}
    (h : Reaches (serve handler client) history (.done ()))
    (hinflow : history.fromClient? = some inflow)
    (hread : Inflow.read (Request.read handler.limits client) inflow = .ok (request, held))
    (hmethod : request.method ≠ .connect)
    (hwhole : ∀ o ∈ history, o.answerFails = false) (htrusts : Trusts handler history) :
    Received handler client inflow request.method history := by
  obtain ⟨_, _, last, rfl, hrequest, hrest⟩ := Ends.bind h
  obtain ⟨enough, inflow', rfl, rfl⟩ := ends_readRequest hrequest
  obtain rfl : inflow' = inflow := Option.some.inj hinflow
  rw [hread] at hrest
  have hfirst : Silent [⟨.receive .client enough, inflow', [], []⟩] :=
    silent_singleton ⟨rfl, rfl⟩ rfl
  have hapart : Apart [⟨.receive .client enough, inflow', [], []⟩] :=
    List.forall_mem_singleton.2 rfl
  cases hblocked : handler.blocklist.contains request.host with
  | true =>
      obtain ⟨before, refusing, rfl, hsilent, _, hrefused⟩ :=
        refused_of_blocked hblocked hrest
      have hgets := ((hrefused.gets rfl).after hsilent).after hfirst
      exact received_of_gets (.blocked hread hblocked) hgets hwhole (by decide) (by decide)
  | false =>
      have hserved := ends_dispatch hblocked hrest
      cases hloop : Forwarding.containsLoop request with
      | true =>
          rw [if_pos hloop] at hserved
          have hgets := (hserved.gets rfl).after hfirst
          exact received_of_gets (.loop hread hblocked hloop) hgets hwhole (by decide)
            (by decide)
      | false =>
          rw [hloop, if_neg Bool.false_ne_true] at hserved
          by_cases hmem : request.method ∈ [Method.get, .post, .head, .connect]
          · obtain ⟨kind, hkind⟩ := exists_ofMethod_of_mem hmem
            rw [hkind] at hserved
            cases kind with
            | forward =>
                exact received_forward hread hblocked hloop hkind hfirst hapart hwhole
                  htrusts hserved
            | tunnel =>
                unfold RequestKind.ofMethod at hkind
                split at hkind <;> contradiction
          · rw [ofMethod_of_not_mem hmem] at hserved
            have hgets := (hserved.gets rfl).after hfirst
            exact received_of_gets (.method hread hblocked hloop hmem) hgets hwhole
              (by decide) (message_methodNotAllowed_ne_empty _)

/-- What was found in a shared cache in some turns is kept there. -/
theorem kept_of_play {workers : CacheWorkers} {world : (action : Action) -> action.Reply}
    {turns : List CacheWorkers.Turn} {n : Nat} {print : Fingerprint} {response : Response}
    (h : ((workers.play world turns).1[n]?.bind SharedEvent.hit?) = some (print, response)) :
    Kept workers.handler print response := by
  obtain ⟨event, hevent, hhit⟩ := Option.bind_eq_some_iff.1 h
  obtain ⟨hlt, rfl⟩ := List.getElem?_eq_some_iff.1 hevent
  have hreach := workers.reaches_play world turns
  rw [← List.take_append_drop n (workers.play world turns).1,
    List.drop_eq_getElem_cons hlt] at hreach
  exact ⟨workers, _, _, _, _, rfl, hreach, hhit⟩

def minuteResponse : Response :=
  ⟨"HTTP/1.1", .noContent, ⟨[⟨"Cache-Control", "max-age=60"⟩]⟩, .empty⟩

def stocked (client : Bytes) (response : Response) : World
  | .lookup _ => (some response, [], [])
  | action => obliging client [] action

private theorem possible_stocked (client : Bytes) (response : Response) (action : Action) :
    ((stocked client response).occurrence action).Possible := by
  cases action with
  | lookup print => exact ⟨rfl, rfl⟩
  | _ => exact possible_obliging client [] _

def foundHistory : History :=
  (play (stocked (Bytes.ofText "GET / HTTP/1.1\r\nHost: [::1]:81\r\n\r\n") minuteResponse)
    (serve (Handler.ofSettings {} .empty) "127.0.0.1")).1

/-- The client of a page that was kept reads it as it was stored. -/
theorem received_of_found :
    foundHistory.filterMap Occurrence.hit? = [(pageRequest.fingerprint, minuteResponse)] ∧
      Received (Handler.ofSettings {} .empty) "127.0.0.1"
        ⟨Bytes.ofText "GET / HTTP/1.1\r\nHost: [::1]:81\r\n\r\n", .silent⟩ .get
        foundHistory := by
  have hhits : foundHistory.filterMap Occurrence.hit? =
      [(pageRequest.fingerprint, minuteResponse)] := by
    decide +kernel
  have hkept : Kept (Handler.ofSettings {} .empty) pageRequest.fingerprint minuteResponse :=
    @kept_of_play CacheWorkers.minuteWorkers
      (fun action => (obliging []
        (Bytes.ofText "HTTP/1.1 204 No Content\r\nCache-Control: max-age=60\r\n\r\n")
        action).1)
      (List.replicate 11 (.step 0) ++ List.replicate 2 (.step 1)) 12 _ _ (by decide +kernel)
  have hreach : Reaches (serve (Handler.ofSettings {} .empty) "127.0.0.1") foundHistory
      (.done ()) := reaches_play (possible_stocked _ _) _
  have hread : Inflow.read (Request.read Limits.default "127.0.0.1")
      ⟨Bytes.ofText "GET / HTTP/1.1\r\nHost: [::1]:81\r\n\r\n", .silent⟩ =
        .ok (pageRequest, ⟨[], []⟩) := by
    decide +kernel
  have hwhole : foundHistory.all (fun o => ! o.answerFails) = true := by decide +kernel
  refine ⟨hhits, received_of_reaches hreach rfl hread (by decide) ?_ ?_⟩
  · intro o ho
    simpa using List.all_eq_true.1 hwhole o ho
  · intro o ho print response hhit
    have hmem := List.mem_filterMap.2 ⟨o, ho, hhit⟩
    rw [hhits, List.mem_singleton] at hmem
    cases hmem
    exact hkept

/-- A request that has come in a circle, and asks for a head. -/
def circledRequest : Request :=
  { Request.bare .head "::1" 81 "/" with
    header := ⟨[⟨"Host", "[::1]:81"⟩, ⟨"X-Forwarded-For", "127.0.0.1"⟩]⟩
    client := "127.0.0.1" }

def circledInflow : Inflow :=
  ⟨Bytes.ofText "HEAD / HTTP/1.1\r\nHost: [::1]:81\r\nX-Forwarded-For: 127.0.0.1\r\n\r\n",
    .silent⟩

def circledHistory : History :=
  (play (obliging circledInflow.bytes [])
    (serve (Handler.ofSettings {} .empty) "127.0.0.1")).1

/-- The head of a refusal is read, and its text is left over. -/
theorem leftover_of_circled :
    Reaches (serve (Handler.ofSettings {} .empty) "127.0.0.1") circledHistory (.done ()) ∧
      circledHistory.fromClient? = some circledInflow ∧
      Inflow.read (Request.read Limits.default "127.0.0.1") circledInflow =
        .ok (circledRequest, ⟨[], []⟩) ∧
      circledRequest.method = .head ∧
      (∀ o ∈ circledHistory, o.answerFails = false ∧ o.hit? = none) ∧
      ∀ limits, Response.Fits limits (Response.ofMessage .badRequest "Loop Detected") ->
        limits.payloadBytes < wordBound ->
        Response.read limits .head circledHistory.toClient =
          .ok ({ Response.ofMessage .badRequest "Loop Detected" with payload := .empty },
            Bytes.ofText "Loop Detected") := by
  have hall : circledHistory.all (fun o => ! o.answerFails && o.hit?.isNone) = true := by
    decide +kernel
  refine ⟨reaches_play (possible_obliging _ _) _, rfl, by decide +kernel, rfl, ?_, ?_⟩
  · intro o ho
    simpa using List.all_eq_true.1 hall o ho
  · intro limits hfits hword
    have hbytes : circledHistory.toClient =
        (Response.ofMessage .badRequest "Loop Detected").render ++ [] := by
      decide +kernel
    rw [hbytes, read_head_ofMessage (by decide) hfits hword, List.append_nil]

end Service

end Intermediary

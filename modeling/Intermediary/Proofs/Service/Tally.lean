import Intermediary.Proofs.Service.Verdict

/-!
# What counts in a history

Of all that happens while a connection is served only little counts: what is
measured, what is asked of the cache, what the client is to be sent, and whether
a connection to an origin is attempted.  The tally of a history is put together
from the tallies of its pieces, and every part of the service has its own.
-/

namespace Intermediary

open Serving

namespace Occurrence

def measured? : Occurrence -> Option Measure
  | ⟨.measure recording, _, _, _⟩ => some recording
  | _ => none

def looked? : Occurrence -> Option (Option Response)
  | ⟨.lookup _, found, _, _⟩ => some found
  | _ => none

def isRefusal : Occurrence -> Bool
  | ⟨.log (.refused _ _), _, _, _⟩ => true
  | _ => false

def relayed? : Occurrence -> Option Relayed
  | ⟨.relay _ _, relayed, _, _⟩ => some relayed
  | _ => none

def fromOrigin? : Occurrence -> Option Inflow
  | ⟨.receive .origin _, inflow, _, _⟩ => some inflow
  | _ => none

/-- Whether something could not be written to either peer of a tunnel. -/
def writeFails : Occurrence -> Bool
  | ⟨.greet _, .error _, _, _⟩ | ⟨.send _, .error _, _, _⟩ => true
  | _ => false

end Occurrence

structure Tally where
  measured : List Measure := []
  /-- What the cache had, each time it was asked. -/
  lookups : List (Option Response) := []
  answers : List Bytes := []
  answerFails : Bool := false
  isRefused : Bool := false
  isConnected : Bool := false
  isTunnelled : Bool := false
  fromClient? : Option Inflow := none
  relayed? : Option Relayed := none

namespace Tally

def and (first last : Tally) : Tally where
  measured := first.measured ++ last.measured
  lookups := first.lookups ++ last.lookups
  answers := first.answers ++ last.answers
  answerFails := first.answerFails || last.answerFails
  isRefused := first.isRefused || last.isRefused
  isConnected := first.isConnected || last.isConnected
  isTunnelled := first.isTunnelled || last.isTunnelled
  fromClient? := first.fromClient?.or last.fromClient?
  relayed? := first.relayed?.or last.relayed?

end Tally

namespace History

def tally (history : History) : Tally where
  measured := history.filterMap Occurrence.measured?
  lookups := history.filterMap Occurrence.looked?
  answers := history.answers
  answerFails := history.any Occurrence.answerFails
  isRefused := history.any Occurrence.isRefusal
  isConnected := history.any Occurrence.isConnect
  isTunnelled := history.isTunnelled
  fromClient? := history.fromClient?
  relayed? := history.findSome? Occurrence.relayed?

theorem tally_append (first last : History) :
    tally (first ++ last) = first.tally.and last.tally := by
  simp [tally, Tally.and, answers_append, isTunnelled_append, fromClient?]

/-- What happened from the moment on in which the client was told of its tunnel. -/
def fromTunnel (history : History) : History :=
  history.dropWhile fun o => ! o.isTunnel

def fromOrigin? (history : History) : Option Inflow :=
  history.findSome? Occurrence.fromOrigin?

theorem fromTunnel_append {first last : History} (h : first.isTunnelled = false) :
    fromTunnel (first ++ last) = last.fromTunnel := by
  refine List.dropWhile_append_of_pos fun o ho => ?_
  have huntunnelled := List.any_eq_false.1 h o ho
  simpa using huntunnelled

theorem beforeTunnel_append {first last : History} (h : first.isTunnelled = false) :
    beforeTunnel (first ++ last) = first ++ last.beforeTunnel := by
  refine List.takeWhile_append_of_pos fun o ho => ?_
  have huntunnelled := List.any_eq_false.1 h o ho
  simpa using huntunnelled

theorem beforeTunnel_eq_self {history : History} (h : history.isTunnelled = false) :
    history.beforeTunnel = history := by
  have hnil := @beforeTunnel_append history [] h
  simpa [beforeTunnel] using hnil

end History

namespace Service

open History

variable {handler : Handler} {client : String} {request : Request} {piece : History}

/-! ## Asking -/

private theorem tally_ask {α : Type} {host : String} {port : Nat} {bytes : Bytes}
    {reader : Bytes -> Except MessageError (α × Bytes)} {asked : Asked α}
    (h : Ends (ask host port bytes reader) piece asked) :
    piece.tally = { isConnected := true } := by
  obtain ⟨connected, _, _, _, rfl, _, h⟩ := h.perform
  cases connected with
  | error cause =>
      obtain ⟨rfl, rfl⟩ := h.pure
      rfl
  | ok =>
      obtain ⟨sent, _, _, _, rfl, _, h⟩ := h.perform
      cases sent with
      | error cause =>
          obtain ⟨rfl, rfl⟩ := h.pure
          rfl
      | ok =>
          obtain ⟨_, _, _, rfl, hmessage, h⟩ := h.bind
          obtain ⟨inflow, _, _, rfl, _, rfl⟩ := ends_readMessage hmessage
          obtain ⟨rfl, rfl⟩ := h.pure
          rfl

private theorem tally_fetch {result : Except ServiceError Response}
    (h : Ends (fetch handler request) piece result) :
    piece.tally = { isConnected := true } ∧
      ∀ e, result = .error e -> e.isFatal = false := by
  rw [fetch_eq] at h
  obtain ⟨asking, asked, _, rfl, hask, h⟩ := h.bind
  obtain ⟨rfl, rfl⟩ := h.pure
  rw [List.append_nil]
  refine ⟨tally_ask hask, fun e he => ?_⟩
  obtain ⟨fault, rfl⟩ := exists_of_fetched_error he
  rfl

/-! ## Answering -/

/-- A response is written, or the client is lost over it. -/
inductive Wrote (response : Response) (use : CacheUse) (piece : History) :
    Except ServiceError (Status × CacheUse) -> Prop where
  | written (h : piece.tally = { answers := [response.render] }) :
      Wrote response use piece (.ok (response.status, use))
  | unwritten {cause}
      (h : piece.tally = { answers := [response.render], answerFails := true }) :
      Wrote response use piece (.error (.client cause))

theorem wrote_respondWith {response : Response} {use : CacheUse}
    {result : Except ServiceError (Status × CacheUse)}
    (h : Ends (respondWith response use) piece result) : Wrote response use piece result := by
  obtain ⟨_, answered, _, rfl, hrespond, h⟩ := h.bind
  obtain ⟨reply, _, _, _, rfl, _, hrespond⟩ := hrespond.perform
  cases reply with
  | ok =>
      obtain ⟨rfl, rfl⟩ := hrespond.pure
      obtain ⟨rfl, rfl⟩ := h.pure
      exact .written rfl
  | error cause =>
      obtain ⟨rfl, rfl⟩ := hrespond.pure
      obtain ⟨rfl, rfl⟩ := h.pure
      exact .unwritten rfl

/-- Whether the cache was asked, what it had, and whether an origin was. -/
inductive Consulted (handler : Handler) : List (Option Response) -> Bool -> Prop where
  | past (h : handler.cacheEnabled = false) : Consulted handler [] true
  | found (response : Response) (h : handler.cacheEnabled = true) :
      Consulted handler [some response] false
  | missed (h : handler.cacheEnabled = true) : Consulted handler [none] true

/-- What came of a request that was passed on, beside the consultations. -/
inductive Conveyed (lookups : List (Option Response)) (isConnected : Bool)
    (piece : History) : Except ServiceError (Status × CacheUse) -> Prop where
  | failed {e} (hfatal : e.isFatal = false)
      (h : piece.tally = { lookups, isConnected }) :
      Conveyed lookups isConnected piece (.error e)
  | written {use} (response : Response)
      (h : piece.tally = { lookups, isConnected, answers := [response.render] }) :
      Conveyed lookups isConnected piece (.ok (response.status, use))
  | unwritten {cause} (response : Response)
      (h : piece.tally =
        { lookups, isConnected, answers := [response.render], answerFails := true }) :
      Conveyed lookups isConnected piece (.error (.client cause))

variable {lookups : List (Option Response)} {isConnected : Bool}
  {result : Except ServiceError (Status × CacheUse)}

theorem Consulted.length_lookups (h : Consulted handler lookups isConnected) :
    lookups.length = if handler.cacheEnabled then 1 else 0 := by
  cases h with
  | past hdisabled => rw [hdisabled]; rfl
  | found _ henabled => rw [henabled]; rfl
  | missed henabled => rw [henabled]; rfl

/-- If there is a cache, an origin is asked exactly if the cache has nothing. -/
theorem Consulted.any_isSome (h : Consulted handler lookups isConnected)
    (henabled : handler.cacheEnabled = true) : lookups.any Option.isSome = ! isConnected := by
  cases h with
  | past hdisabled =>
      rw [henabled] at hdisabled
      cases hdisabled
  | found _ _ => rfl
  | missed _ => rfl

theorem Wrote.conveyed {response : Response} {use : CacheUse}
    (h : Wrote response use piece result) : Conveyed [] false piece result := by
  cases h with
  | written hpiece => exact .written response hpiece
  | unwritten hpiece => exact .unwritten response hpiece

/-- What was asked before belongs to it. -/
theorem Conveyed.after {asked : List (Option Response)} {hasCalled : Bool}
    (h : Conveyed lookups isConnected piece result) (first : History)
    (hfirst : first.tally = { lookups := asked, isConnected := hasCalled }) :
    Conveyed (asked ++ lookups) (hasCalled || isConnected) (first ++ piece) result := by
  cases h with
  | failed hfatal hpiece =>
      refine .failed hfatal ?_
      rw [tally_append, hfirst, hpiece]
      simp [Tally.and]
  | written response hpiece =>
      refine .written response ?_
      rw [tally_append, hfirst, hpiece]
      simp [Tally.and]
  | unwritten response hpiece =>
      refine .unwritten response ?_
      rw [tally_append, hfirst, hpiece]
      simp [Tally.and]

private theorem Conveyed.before (h : Conveyed lookups isConnected piece result) (last : History)
    (hlast : last.tally = {}) : Conveyed lookups isConnected (piece ++ last) result := by
  cases h with
  | failed hfatal hpiece =>
      refine .failed hfatal ?_
      rw [tally_append, hpiece, hlast]
      simp [Tally.and]
  | written response hpiece =>
      refine .written response ?_
      rw [tally_append, hpiece, hlast]
      simp [Tally.and]
  | unwritten response hpiece =>
      refine .unwritten response ?_
      rw [tally_append, hpiece, hlast]
      simp [Tally.and]

private theorem conveyed_forwardPast (h : Ends (forwardPast handler request) piece result) :
    Conveyed [] true piece result := by
  obtain ⟨fetching, fetched, _, rfl, hfetch, h⟩ := h.bind
  obtain ⟨htally, hfault⟩ := tally_fetch hfetch
  cases fetched with
  | error e =>
      obtain ⟨rfl, rfl⟩ := h.pure
      rw [List.append_nil]
      exact .failed (hfault e rfl) htally
  | ok response => exact (wrote_respondWith h).conveyed.after fetching htally

private theorem conveyed_forwardMiss {stripe : Nat}
    (h : Ends (forwardMiss handler request stripe) piece result) :
    Conveyed [] true piece result := by
  obtain ⟨fetching, fetched, _, rfl, hfetch, h⟩ := h.bind
  obtain ⟨htally, hfault⟩ := tally_fetch hfetch
  cases fetched with
  | error e =>
      obtain ⟨rfl, rfl⟩ := h.pure
      rw [List.append_nil]
      exact .failed (hfault e rfl) htally
  | ok response =>
      obtain ⟨_, _, _, _, rfl, _, h⟩ := h.perform
      obtain ⟨_, _, _, _, rfl, _, h⟩ := h.perform
      obtain ⟨_, _, _, _, rfl, _, h⟩ := h.perform
      refine Conveyed.after (show Conveyed [] false _ result from ?_) fetching htally
      exact (wrote_respondWith h).conveyed.after [_, _, _] (show tally _ = {} by exact rfl)

/-- A request that is passed on asks the cache once, if there is one, and an origin
exactly if the cache has nothing. -/
theorem consulted_forward (h : Ends (forward handler request) piece result) :
    ∃ lookups isConnected, Consulted handler lookups isConnected ∧
      Conveyed lookups isConnected piece result := by
  unfold forward at h
  split at h
  · next henabled =>
    obtain ⟨_, _, _, _, rfl, _, h⟩ := h.perform
    obtain ⟨found, _, _, _, rfl, _, h⟩ := h.perform
    cases found with
    | some response =>
        refine ⟨[some response], false, .found response henabled, ?_⟩
        obtain ⟨_, _, _, rfl, hrespond, h⟩ := h.bind
        obtain ⟨_, _, _, _, rfl, _, h⟩ := h.perform
        obtain ⟨rfl, rfl⟩ := h.pure
        refine Conveyed.after (show Conveyed [] false _ result from ?_) [_, _]
          (show tally _ = { lookups := [some response] } by exact rfl)
        exact (wrote_respondWith hrespond).conveyed.before [_] (by exact rfl)
    | none =>
        refine ⟨[none], true, .missed henabled, ?_⟩
        obtain ⟨_, _, _, _, rfl, _, h⟩ := h.perform
        exact (conveyed_forwardMiss h).after [_, _, _]
          (show tally _ = { lookups := [none] } by exact rfl)
  · next hdisabled =>
    exact ⟨[], true, .past (Bool.eq_false_iff.2 hdisabled), conveyed_forwardPast h⟩

/-! ## Closing the account -/

theorem tally_refuse_of_fatal {method : String} {error : ServiceError}
    (hfatal : error.isFatal = true) (h : Ends (refuse method error) piece ()) :
    piece.tally = {} := by
  rw [refuse_of_fatal hfatal] at h
  obtain ⟨_, _, _, _, rfl, _, h⟩ := Ends.act h
  obtain ⟨rfl, _⟩ := h.pure
  rfl

/-- A refusal is measured whether or not the client takes it. -/
theorem tally_refuse {method : String} {error : ServiceError}
    (hfatal : error.isFatal = false) (h : Ends (refuse method error) piece ()) :
    ∃ answerFails, piece.tally = {
      measured := [.request method error.status.code]
      answers := [(Response.ofMessage error.status error.message).render]
      answerFails
      isRefused := true } := by
  rw [refuse_of_not_fatal (Bool.eq_false_iff.1 hfatal)] at h
  obtain ⟨_, _, _, _, rfl, _, h⟩ := h.perform
  obtain ⟨_, answered, _, rfl, hrespond, hmeasure⟩ := h.bind
  obtain ⟨_, _, _, _, rfl, _, hmeasure⟩ := Ends.act hmeasure
  obtain ⟨rfl, _⟩ := hmeasure.pure
  obtain ⟨reply, _, _, _, rfl, _, hrespond⟩ := hrespond.perform
  cases reply with
  | ok =>
      obtain ⟨rfl, _⟩ := hrespond.pure
      exact ⟨false, rfl⟩
  | error cause =>
      obtain ⟨rfl, _⟩ := hrespond.pure
      exact ⟨true, rfl⟩

theorem tally_finish {method : String} {status : Status} {use : CacheUse}
    (h : Ends (finish method (.ok (status, use))) piece ()) :
    piece.tally = { measured := [.request method status.code] } := by
  obtain ⟨_, _, _, _, rfl, _, h⟩ := Ends.perform h
  obtain ⟨_, _, _, _, rfl, _, h⟩ := Ends.act h
  obtain ⟨rfl, _⟩ := h.pure
  rfl

/-! ## Tunnels -/

/-- How many bytes were read ahead behind the reply of a parent. -/
def readAhead (limits : Limits) (inflow? : Option Inflow) : Nat :=
  match inflow?.map (Inflow.read (Response.readHead limits)) with
  | some (.ok (_, held)) => held.pending.length
  | _ => 0

private theorem readAhead_of_read {limits : Limits} {inflow : Inflow} {reply : Response}
    {held : Held}
    (h : Inflow.read (Response.readHead limits) inflow = .ok (reply, held)) :
    readAhead limits (some inflow) = held.pending.length := by
  simp only [readAhead, Option.map_some, h]

/-- A tunnel is not opened only if an exchange on the way to its target fails. -/
inductive Opened (handler : Handler) (piece : History) : Except TunnelFault Held -> Prop where
  | failed {fault o} (hmem : o ∈ piece)
      (hfails : o.originFails handler.limits .connect = true) :
      Opened handler piece (.error fault)
  | reached {held} (hsound : piece.Sound handler.limits .connect)
      (hahead : readAhead handler.limits piece.fromOrigin? = held.pending.length) :
      Opened handler piece (.ok held)

private theorem originFails_of_refused {limits : Limits} {enough : Bytes -> Bool} {inflow : Inflow}
    {toClient fromOrigin : Bytes}
    (h : ∀ reply held, Inflow.read (Response.readHead limits) inflow = .ok (reply, held) ->
      reply.status.isSuccess = false) :
    Occurrence.originFails limits .connect
      ⟨.receive .origin enough, inflow, toClient, fromOrigin⟩ = true := by
  simp only [Occurrence.originFails, if_true]
  split
  · next reply held hread => rw [h reply held hread, Bool.not_false]
  · rfl

private theorem opened_openThroughParent {parent : Parent} {result : Except TunnelFault Held}
    (h : Ends (openThroughParent handler parent request) piece result) :
    piece.tally = { isConnected := true } ∧ Opened handler piece result := by
  rw [openThroughParent_eq] at h
  obtain ⟨asking, asked, _, rfl, hask, h⟩ := h.bind
  obtain ⟨rfl, rfl⟩ := h.pure
  rw [List.append_nil]
  refine ⟨tally_ask hask, ?_⟩
  obtain ⟨connected, _, _, _, rfl, _, hask⟩ := hask.perform
  cases connected with
  | error cause =>
      obtain ⟨rfl, rfl⟩ := hask.pure
      exact .failed List.mem_cons_self rfl
  | ok =>
      obtain ⟨sent, _, _, _, rfl, _, hask⟩ := hask.perform
      cases sent with
      | error cause =>
          obtain ⟨rfl, rfl⟩ := hask.pure
          exact .failed (List.mem_cons_of_mem _ List.mem_cons_self) rfl
      | ok =>
          obtain ⟨_, _, _, rfl, hmessage, hask⟩ := hask.bind
          obtain ⟨inflow, _, _, rfl, _, rfl⟩ := ends_readMessage hmessage
          obtain ⟨rfl, rfl⟩ := hask.pure
          have hlast {connected sent replied : Occurrence} :
              replied ∈ [connected, sent, replied] := by simp
          cases hread : Inflow.read (Response.readHead handler.limits) inflow with
          | error fault =>
              have hnone : ∀ reply held, Inflow.read (Response.readHead handler.limits) inflow =
                  .ok (reply, held) -> reply.status.isSuccess = false := by
                rw [hread]
                exact nofun
              cases fault <;> exact .failed hlast (originFails_of_refused hnone)
          | ok found =>
              obtain ⟨reply, held⟩ := found
              unfold opened
              dsimp only
              split
              · next hsuccess =>
                refine .reached ?_ ?_
                · exact List.forall_mem_cons.2 ⟨rfl, List.forall_mem_cons.2 ⟨rfl,
                    List.forall_mem_singleton.2 (originFails_reply hread hsuccess)⟩⟩
                · exact readAhead_of_read hread
              · next hrefused =>
                refine .failed hlast (originFails_of_refused ?_)
                rw [hread]
                rintro _ _ ⟨⟩
                exact Bool.eq_false_iff.2 hrefused

theorem opened_openTunnel {result : Except TunnelFault Held}
    (h : Ends (openTunnel handler request) piece result) :
    piece.tally = { isConnected := true } ∧ Opened handler piece result := by
  unfold openTunnel at h
  split at h
  · exact opened_openThroughParent h
  · obtain ⟨connected, _, _, _, rfl, _, h⟩ := h.perform
    cases connected with
    | error cause =>
        obtain ⟨rfl, rfl⟩ := h.pure
        exact ⟨rfl, .failed List.mem_cons_self rfl⟩
    | ok =>
        obtain ⟨rfl, rfl⟩ := h.pure
        exact ⟨rfl, .reached (List.forall_mem_singleton.2 rfl) rfl⟩

/-- What is passed on before a tunnel begins is told or sent, and the first failure ends it. -/
theorem ends_passOn {write : Bytes -> Action}
    {reply : {bytes : Bytes} -> (write bytes).Reply -> Except TransportError Unit}
    {bytes : Bytes} {result : Except TransportError Unit} {isTold : Bool}
    (htally : ∀ bytes value toClient fromOrigin,
      tally [⟨write bytes, value, toClient, fromOrigin⟩] = { isTunnelled := isTold })
    (hfails : ∀ bytes value toClient fromOrigin,
      Occurrence.writeFails ⟨write bytes, value, toClient, fromOrigin⟩ = ! (reply value).isOk)
    (h : Ends (passOn write reply bytes) piece result) :
    (∃ isTold, piece.tally = { isTunnelled := isTold }) ∧
      piece.any Occurrence.writeFails = ! result.isOk := by
  unfold passOn at h
  split at h
  · obtain ⟨rfl, rfl⟩ := h.pure
    exact ⟨⟨false, rfl⟩, rfl⟩
  · obtain ⟨value, _, _, _, rfl, _, h⟩ := h.perform
    obtain ⟨rfl, rfl⟩ := h.pure
    refine ⟨⟨isTold, htally ..⟩, ?_⟩
    rw [List.any_cons, hfails, List.any_nil, Bool.or_false]

/-- A handshake begins with the word to the client, and fails with its first failing write. -/
theorem ends_handshake {fromClient fromOrigin : Bytes} {result : Except TransportError Unit}
    (h : Ends (handshake fromClient fromOrigin) piece result) :
    piece.tally = { isTunnelled := true } ∧
      piece.any Occurrence.writeFails = ! result.isOk := by
  obtain ⟨greeted, _, _, _, rfl, _, h⟩ := h.perform
  cases greeted with
  | error cause =>
      obtain ⟨rfl, rfl⟩ := h.pure
      exact ⟨rfl, rfl⟩
  | ok =>
      obtain ⟨telling, told, _, rfl, htell, h⟩ := h.bind
      obtain ⟨⟨isTold, htold⟩, htellFails⟩ := ends_passOn
        (fun _ _ _ _ => rfl) (fun _ value _ _ => by cases value <;> rfl) htell
      cases told with
      | error cause =>
          obtain ⟨rfl, rfl⟩ := h.pure
          rw [List.append_nil]
          refine ⟨?_, htellFails⟩
          rw [← List.singleton_append, tally_append, htold]
          rfl
      | ok =>
          obtain ⟨⟨isSent, hsent⟩, hsendFails⟩ := ends_passOn
            (fun _ _ _ _ => rfl) (fun _ value _ _ => by cases value <;> rfl) h
          refine ⟨?_, ?_⟩
          · rw [← List.singleton_append, tally_append, tally_append, htold, hsent]
            rfl
          · rw [List.any_cons, List.any_append, htellFails, hsendFails]
            rfl

inductive Bridged (fromClient fromOrigin : Held) (piece : History) : Prop where
  | failed (hfails : piece.any Occurrence.writeFails = true)
      (h : piece.tally = { measured := [.tunnel .failed 0 0], isTunnelled := true })
  | closed (relayed : Relayed) (hwritten : piece.any Occurrence.writeFails = false)
      (h : piece.tally = {
        measured := [.request Method.connect.token Status.ok.code,
          .tunnel (if relayed.timedOut then .idleTimeout else .closed)
            (relayed.toOrigin + fromClient.pending.length)
            (relayed.toClient + fromOrigin.pending.length)]
        isTunnelled := true
        relayed? := some relayed })

theorem bridged_bridge {fromClient fromOrigin : Held}
    (h : Ends (bridge fromClient fromOrigin) piece ()) : Bridged fromClient fromOrigin piece := by
  obtain ⟨first, shaken, last, rfl, hhandshake, h⟩ := h.bind
  obtain ⟨htally, hfails⟩ := ends_handshake hhandshake
  cases shaken with
  | error cause =>
      obtain ⟨_, _, _, _, rfl, _, h⟩ := h.perform
      obtain ⟨_, _, _, _, rfl, _, h⟩ := Ends.act h
      obtain ⟨rfl, _⟩ := h.pure
      refine .failed ?_ ?_
      · rw [List.any_append, hfails]
        rfl
      · rw [tally_append, htally]
        rfl
  | ok =>
      obtain ⟨_, _, _, _, rfl, _, h⟩ := h.perform
      obtain ⟨relayed, _, _, _, rfl, _, h⟩ := h.perform
      obtain ⟨_, _, _, _, rfl, _, h⟩ := h.perform
      obtain ⟨_, _, _, _, rfl, _, h⟩ := Ends.act h
      obtain ⟨rfl, _⟩ := h.pure
      refine .closed relayed ?_ ?_
      · rw [List.any_append, hfails]
        rfl
      · rw [tally_append, htally]
        rfl

theorem fromTunnel_bridge {fromClient fromOrigin : Held}
    (h : Ends (bridge fromClient fromOrigin) piece ()) : piece.fromTunnel = piece := by
  have hsplit := List.takeWhile_append_dropWhile (p := fun o : Occurrence => ! o.isTunnel)
    (l := piece)
  rwa [show piece.takeWhile _ = [] from beforeTunnel_bridge h, List.nil_append] at hsplit

end Service

end Intermediary

import Intermediary.Proofs.Service.Tally

/-!
# The account of a call

A call to the service that was carried out to its end is counted under the method
that it sent and the status of its one response, or of its tunnel.  It is not
counted when the client is lost, before its request was read or over a response,
and when the handshake of its tunnel fails.  What is measured on its account is
just this, with what the tunnel carried and whether the host is blocked.
-/

namespace Intermediary

open Serving

/-- A call to the service, with what happened in it. -/
structure Call where
  handler : Handler
  client : String
  history : History

namespace Call

variable (call : Call)

def read? : Option (Except ReadFault (Request × Held)) :=
  call.history.fromClient?.map (Inflow.read (Request.read call.handler.limits call.client))

def request? : Option Request :=
  match call.read? with
  | some (.ok (request, _)) => some request
  | _ => none

def method : String :=
  (call.request?.map (·.method.token)).getD Service.noMethod

/-- The stream of the client came to a stop before there was a request. -/
def isUnreadable : Bool :=
  match call.read? with
  | some (.error fault) => fault.isCut
  | _ => false

/-- A response could not be written that was no refusal. -/
def isUnwritable : Bool :=
  call.history.any Occurrence.answerFails && ! call.history.any Occurrence.isRefusal

def isLost : Bool :=
  call.isUnreadable || call.isUnwritable

def isBlocked : Bool :=
  call.request?.any fun request => call.handler.blocklist.contains request.host

/-- The request, if its host is not blocked and it has not come in a circle. -/
def admitted? : Option Request :=
  call.request?.filter fun request =>
    ! call.handler.blocklist.contains request.host && ! Forwarding.containsLoop request

def asksCache : Bool :=
  call.handler.cacheEnabled &&
    call.admitted?.any fun request => request.method ∈ [Method.get, .post, .head]

def isHit : Bool :=
  call.history.tally.lookups.any Option.isSome

/-- A tunnel was asked for, and no exchange on the way to its target failed. -/
def reachesTarget : Bool :=
  (call.admitted?.any fun request => request.method = .connect) &&
    call.history.beforeTunnel.all fun o => ! o.originFails call.handler.limits .connect

/-- The target was reached, and something could not be written before the tunnel began. -/
def handshakeFails : Bool :=
  call.reachesTarget && call.history.fromTunnel.any Occurrence.writeFails

def isEstablished : Bool :=
  call.reachesTarget && ! call.history.fromTunnel.any Occurrence.writeFails

def readAhead : Nat :=
  match call.read? with
  | some (.ok (_, held)) => held.pending.length
  | _ => 0

/-- What the tunnel has carried to the origin, with what was read ahead. -/
def toOrigin : Nat :=
  match call.history.tally.relayed? with
  | some relayed => relayed.toOrigin + call.readAhead
  | none => 0

/-- What the tunnel has carried to the client, with what was read ahead. -/
def toClient : Nat :=
  match call.history.tally.relayed? with
  | some relayed =>
      relayed.toClient +
        Service.readAhead call.handler.limits call.history.beforeTunnel.fromOrigin?
  | none => 0

/-- The method and the status under which a call is counted, if it is. -/
inductive Labelled : Option (String × Nat) -> Prop where
  | lost (h : call.isLost = true) (hshaken : call.handshakeFails = false) : Labelled none
  | unshaken (h : call.handshakeFails = true) (hkept : call.isLost = false) : Labelled none
  | answered (response : Response) (h : call.history.answers = [response.render])
      (hkept : call.isLost = false) (hshaken : call.handshakeFails = false) :
      Labelled (some (call.method, response.status.code))
  | established (h : call.isEstablished = true) (hnone : call.history.answers = [])
      (hkept : call.isLost = false) (hshaken : call.handshakeFails = false) :
      Labelled (some (call.method, Status.ok.code))

/-- What is measured on the account of a call, and for what the cache is asked in it. -/
structure Settled (label : Option (String × Nat)) : Prop where
  labelled : call.Labelled label
  measured : ∃ outcome, call.history.tally.measured =
    (if call.isBlocked then [.blocked] else []) ++
      ((label.map fun counted => .request counted.1 counted.2).toList ++
        if call.reachesTarget then [.tunnel outcome call.toOrigin call.toClient] else [])
  unshaken : call.handshakeFails = true -> call.toOrigin = 0 ∧ call.toClient = 0
  lookups : call.history.tally.lookups.length = if call.asksCache then 1 else 0
  hit : call.asksCache = true -> call.isHit = ! call.history.tally.isConnected

/-! ## What is read off a request -/

section

variable {call} {request : Request} {held : Held} {inflow : Inflow}

private theorem read?_of_fromClient (h : call.history.tally.fromClient? = some inflow) :
    call.read? = some (Inflow.read (Request.read call.handler.limits call.client) inflow) :=
  congrArg (Option.map _) h

theorem request?_of_read (h : call.read? = some (.ok (request, held))) :
    call.request? = some request := by
  unfold request?
  rw [h]

private theorem request?_of_fault {fault : ReadFault} (h : call.read? = some (.error fault)) :
    call.request? = none := by
  unfold request?
  rw [h]

theorem method_of_read (h : call.read? = some (.ok (request, held))) :
    call.method = request.method.token := by
  unfold method
  rw [request?_of_read h]
  rfl

theorem isUnreadable_of_read (h : call.read? = some (.ok (request, held))) :
    call.isUnreadable = false := by
  unfold isUnreadable
  rw [h]

private theorem isBlocked_of_read (h : call.read? = some (.ok (request, held))) :
    call.isBlocked = call.handler.blocklist.contains request.host := by
  unfold isBlocked
  rw [request?_of_read h]
  rfl

private theorem admitted?_of_read (h : call.read? = some (.ok (request, held)))
    (hunblocked : call.handler.blocklist.contains request.host = false)
    (hnoLoop : Forwarding.containsLoop request = false) : call.admitted? = some request := by
  unfold admitted?
  rw [request?_of_read h, Option.filter_some, hunblocked, hnoLoop]
  rfl

theorem isBlocked_of_admitted (h : call.admitted? = some request) : call.isBlocked = false := by
  obtain ⟨hrequest, hadmitted⟩ := Option.filter_eq_some_iff.1 h
  unfold isBlocked
  rw [hrequest, Option.any_some]
  simpa using (Bool.and_eq_true_iff.1 hadmitted).1

theorem asksCache_of_not_admitted (h : call.admitted? = none) : call.asksCache = false := by
  unfold asksCache
  rw [h]
  exact Bool.and_false _

theorem reachesTarget_of_not_admitted (h : call.admitted? = none) :
    call.reachesTarget = false := by
  unfold reachesTarget
  rw [h]
  rfl

private theorem handshakeFails_of_not_reached (h : call.reachesTarget = false) :
    call.handshakeFails = false := by
  unfold handshakeFails
  rw [h]
  rfl

theorem asksCache_of_admitted (h : call.admitted? = some request) :
    call.asksCache =
      (call.handler.cacheEnabled && decide (request.method ∈ [Method.get, .post, .head])) := by
  unfold asksCache
  rw [h]
  rfl

private theorem reachesTarget_of_ne (h : call.admitted? = some request)
    (hmethod : request.method ≠ .connect) : call.reachesTarget = false := by
  unfold reachesTarget
  rw [h, Option.any_some, decide_eq_false hmethod]
  rfl

/-- Who has sent a request is not lost while everything can be written. -/
private theorem isLost_of_written (hreadable : call.isUnreadable = false)
    (hwritten : call.history.any Occurrence.answerFails = false) : call.isLost = false := by
  unfold isLost isUnwritable
  rw [hreadable, hwritten]
  rfl

private theorem handshakeFails_of_written
    (h : call.history.fromTunnel.any Occurrence.writeFails = false) :
    call.handshakeFails = false := by
  unfold handshakeFails
  rw [h, Bool.and_false]

/-! ## The ways in which an account is closed -/

private theorem settled_of_answered {response : Response}
    (hanswers : call.history.answers = [response.render]) (hkept : call.isLost = false)
    (hunreached : call.reachesTarget = false)
    (hmeasured : call.history.tally.measured =
      (if call.isBlocked then [.blocked] else []) ++
        [.request call.method response.status.code])
    (hlookups : call.history.tally.lookups.length = if call.asksCache then 1 else 0)
    (hhit : call.asksCache = true -> call.isHit = ! call.history.tally.isConnected) :
    call.Settled (some (call.method, response.status.code)) where
  labelled := .answered response hanswers hkept (handshakeFails_of_not_reached hunreached)
  measured := by
    rw [hmeasured, hunreached]
    exact ⟨.failed, rfl⟩
  unshaken := by
    rw [handshakeFails_of_not_reached hunreached]
    exact nofun
  lookups := hlookups
  hit := hhit

private theorem settled_of_lost (hlost : call.isLost = true)
    (hunreached : call.reachesTarget = false)
    (hmeasured : call.history.tally.measured = if call.isBlocked then [.blocked] else [])
    (hlookups : call.history.tally.lookups.length = if call.asksCache then 1 else 0)
    (hhit : call.asksCache = true -> call.isHit = ! call.history.tally.isConnected) :
    call.Settled none where
  labelled := .lost hlost (handshakeFails_of_not_reached hunreached)
  measured := by
    rw [hmeasured, hunreached]
    exact ⟨.failed, (List.append_nil _).symm⟩
  unshaken := by
    rw [handshakeFails_of_not_reached hunreached]
    exact nofun
  lookups := hlookups
  hit := hhit

/-- Whatever came before it, a refusal closes the account as an answer does. -/
theorem settled_of_refused {error : ServiceError} {first last : History}
    {lookups : List (Option Response)} {isConnected : Bool} {fromClient? : Option Inflow}
    (hhistory : call.history = first ++ last)
    (hfirst : first.tally = {
      measured := if call.isBlocked then [.blocked] else []
      lookups, isConnected, fromClient? })
    (hfatal : error.isFatal = false)
    (hrefuse : Ends (Service.refuse call.method error) last ())
    (hreadable : call.isUnreadable = false) (hunreached : call.reachesTarget = false)
    (hlookups : lookups.length = if call.asksCache then 1 else 0)
    (hhit : call.asksCache = true -> lookups.any Option.isSome = ! isConnected) :
    call.Settled (some (call.method, error.status.code)) := by
  obtain ⟨answerFails, hlast⟩ := Service.tally_refuse hfatal hrefuse
  have htally : call.history.tally = {
      measured := (if call.isBlocked then [.blocked] else []) ++
        [.request call.method error.status.code]
      lookups
      answers := [(Response.ofMessage error.status error.message).render]
      answerFails
      isRefused := true
      isConnected
      fromClient? } := by
    rw [hhistory, History.tally_append, hfirst, hlast]
    simp [Tally.and]
  have hunwritten : call.isUnwritable = false := by
    have hrefused : call.history.any Occurrence.isRefusal = true :=
      congrArg Tally.isRefused htally
    unfold isUnwritable
    rw [hrefused]
    exact Bool.and_false _
  refine settled_of_answered (congrArg Tally.answers htally) ?_ hunreached
    (congrArg Tally.measured htally) ?_ fun hasks => ?_
  · unfold isLost
    rw [hreadable, hunwritten]
    rfl
  · rw [congrArg Tally.lookups htally]
    exact hlookups
  · unfold isHit
    rw [congrArg Tally.lookups htally, congrArg Tally.isConnected htally]
    exact hhit hasks

private theorem settled_of_written {response : Response} {lookups : List (Option Response)}
    {isConnected : Bool} {fromClient? : Option Inflow}
    (htally : call.history.tally = {
      measured := [.request call.method response.status.code]
      lookups, isConnected, answers := [response.render], fromClient? })
    (hreadable : call.isUnreadable = false) (hunblocked : call.isBlocked = false)
    (hunreached : call.reachesTarget = false)
    (hlookups : lookups.length = if call.asksCache then 1 else 0)
    (hhit : call.asksCache = true -> lookups.any Option.isSome = ! isConnected) :
    call.Settled (some (call.method, response.status.code)) := by
  have hkept := isLost_of_written hreadable (congrArg Tally.answerFails htally)
  refine settled_of_answered (congrArg Tally.answers htally) hkept hunreached ?_ ?_ ?_
  · rw [htally, hunblocked]
    rfl
  · rw [htally]
    exact hlookups
  · unfold isHit
    rw [htally]
    exact hhit

/-- The client is lost over a response that is no refusal. -/
theorem settled_of_unwritten {answer : Bytes} {lookups : List (Option Response)}
    {isConnected : Bool} {fromClient? : Option Inflow}
    (htally : call.history.tally = {
      lookups, isConnected, answers := [answer], answerFails := true, fromClient? })
    (hreadable : call.isUnreadable = false) (hunblocked : call.isBlocked = false)
    (hunreached : call.reachesTarget = false)
    (hlookups : lookups.length = if call.asksCache then 1 else 0)
    (hhit : call.asksCache = true -> lookups.any Option.isSome = ! isConnected) :
    call.Settled none := by
  have hlost : call.isLost = true := by
    have hunwritten : call.history.any Occurrence.answerFails = true :=
      congrArg Tally.answerFails htally
    have hnot : call.history.any Occurrence.isRefusal = false :=
      congrArg Tally.isRefused htally
    unfold isLost isUnwritable
    rw [hreadable, hunwritten, hnot]
    rfl
  refine settled_of_lost hlost hunreached ?_ ?_ ?_
  · rw [htally, hunblocked]
    rfl
  · rw [htally]
    exact hlookups
  · unfold isHit
    rw [htally]
    exact hhit

/-- The target was reached, but not all was written that comes before the tunnel. -/
theorem settled_of_unshaken (hreadable : call.isUnreadable = false)
    (hunblocked : call.isBlocked = false) (hasks : call.asksCache = false)
    (hreached : call.reachesTarget = true)
    (hfails : call.history.fromTunnel.any Occurrence.writeFails = true)
    (htally : call.history.tally = {
      measured := [.tunnel .failed 0 0], isConnected := true, isTunnelled := true
      fromClient? := some inflow }) : call.Settled none where
  labelled := by
    refine .unshaken ?_ (isLost_of_written hreadable (congrArg Tally.answerFails htally))
    unfold handshakeFails
    rw [hreached, hfails]
    rfl
  measured := by
    unfold toOrigin toClient
    rw [htally, hunblocked, hreached]
    exact ⟨.failed, rfl⟩
  unshaken := by
    intro _
    unfold toOrigin toClient
    rw [htally]
    exact ⟨rfl, rfl⟩
  lookups := by
    rw [htally, hasks]
    rfl
  hit := by
    rw [hasks]
    exact nofun

/-- A tunnel that was established is counted with what it has carried. -/
theorem settled_of_established {relayed : Relayed} {outcome : TunnelOutcome}
    (hreadable : call.isUnreadable = false) (hunblocked : call.isBlocked = false)
    (hasks : call.asksCache = false) (hreached : call.reachesTarget = true)
    (hwritten : call.history.fromTunnel.any Occurrence.writeFails = false)
    (htally : call.history.tally = {
      measured := [.request call.method Status.ok.code,
        .tunnel outcome (relayed.toOrigin + call.readAhead) (relayed.toClient +
          Service.readAhead call.handler.limits call.history.beforeTunnel.fromOrigin?)]
      isConnected := true, isTunnelled := true
      fromClient? := some inflow, relayed? := some relayed }) :
    call.Settled (some (call.method, Status.ok.code)) where
  labelled := by
    refine .established ?_ (congrArg Tally.answers htally)
      (isLost_of_written hreadable (congrArg Tally.answerFails htally))
      (handshakeFails_of_written hwritten)
    unfold isEstablished
    rw [hreached, hwritten]
    rfl
  measured := by
    unfold toOrigin toClient
    rw [htally, hunblocked, hreached]
    exact ⟨outcome, rfl⟩
  unshaken := by
    rw [handshakeFails_of_written hwritten]
    exact nofun
  lookups := by
    rw [htally, hasks]
    rfl
  hit := by
    rw [hasks]
    exact nofun

/-! ## Every call settles its account -/

variable {enough : Bytes -> Bool} {last : History}

private theorem tally_received :
    History.tally [⟨.receive .client enough, inflow, [], []⟩] =
      { fromClient? := some inflow } :=
  rfl

/-- A request that is not passed on is refused before anything else. -/
theorem settled_of_unconveyed {error : ServiceError}
    (hhistory : call.history = [⟨.receive .client enough, inflow, [], []⟩] ++ last)
    (hreadable : call.isUnreadable = false) (hunblocked : call.isBlocked = false)
    (hasks : call.asksCache = false) (hunreached : call.reachesTarget = false)
    (hfatal : error.isFatal = false)
    (h : Ends (Service.refuse call.method error) last ()) : ∃ label, call.Settled label := by
  have hfirst : History.tally [⟨.receive .client enough, inflow, [], []⟩] =
      { measured := if call.isBlocked then [.blocked] else [], fromClient? := some inflow } := by
    rw [hunblocked]
    exact tally_received
  refine ⟨_, settled_of_refused hhistory hfirst hfatal h hreadable hunreached ?_ ?_⟩
  · rw [hasks]
    rfl
  · rw [hasks]
    exact nofun

private theorem settled_of_fault {fault : ReadFault}
    (hhistory : call.history = [⟨.receive .client enough, inflow, [], []⟩] ++ last)
    (hread : call.read? = some (.error fault))
    (h : Ends (Service.refuse Service.noMethod (Service.faultOfRead fault)) last ()) :
    ∃ label, call.Settled label := by
  have hrequest := request?_of_fault hread
  have hmethod : call.method = Service.noMethod := by
    unfold method
    rw [hrequest]
    rfl
  have hunblocked : call.isBlocked = false := by
    unfold isBlocked
    rw [hrequest]
    rfl
  have hnot : call.admitted? = none := by
    unfold admitted?
    rw [hrequest]
    rfl
  have hasks := asksCache_of_not_admitted hnot
  have hunreached := reachesTarget_of_not_admitted hnot
  have hunreadable : call.isUnreadable = fault.isCut := by
    unfold isUnreadable
    rw [hread]
  cases hcut : fault.isCut with
  | true =>
      have hnone := Service.tally_refuse_of_fatal
        ((Service.isFatal_faultOfRead fault).trans hcut) h
      have htally : call.history.tally = { fromClient? := some inflow } := by
        rw [hhistory, History.tally_append, hnone]
        rfl
      refine ⟨none, settled_of_lost ?_ hunreached ?_ ?_ ?_⟩
      · unfold isLost
        rw [hunreadable, hcut]
        rfl
      · rw [htally, hunblocked]
        rfl
      · rw [htally, hasks]
        rfl
      · rw [hasks]
        exact nofun
  | false =>
      rw [← hmethod] at h
      exact settled_of_unconveyed hhistory (hunreadable.trans hcut) hunblocked hasks hunreached
        ((Service.isFatal_faultOfRead fault).trans hcut) h

private theorem settled_of_blocked
    (hhistory : call.history = [⟨.receive .client enough, inflow, [], []⟩] ++ last)
    (hread : call.read? = some (.ok (request, held)))
    (hblocked : call.handler.blocklist.contains request.host = true)
    (h : Ends (Service.dispatch call.handler request held) last ()) :
    ∃ label, call.Settled label := by
  have hisBlocked := (isBlocked_of_read hread).trans hblocked
  have hnot : call.admitted? = none := by
    unfold admitted?
    rw [request?_of_read hread, Option.filter_some, hblocked]
    rfl
  have hasks := asksCache_of_not_admitted hnot
  unfold Service.dispatch at h
  dsimp only at h
  rw [if_pos hblocked] at h
  obtain ⟨_, _, _, rest, rfl, _, h⟩ := h.perform
  rw [← method_of_read hread] at h
  rw [List.append_cons] at hhistory
  have hfirst : ∀ noted toClient fromOrigin,
      History.tally [⟨.receive .client enough, inflow, [], []⟩,
        ⟨.measure .blocked, noted, toClient, fromOrigin⟩] =
      { measured := if call.isBlocked then [.blocked] else [], fromClient? := some inflow } := by
    intro noted toClient fromOrigin
    rw [hisBlocked]
    rfl
  refine ⟨_, settled_of_refused hhistory (hfirst ..) rfl h (isUnreadable_of_read hread)
    (reachesTarget_of_not_admitted hnot) ?_ ?_⟩
  · rw [hasks]
    rfl
  · rw [hasks]
    exact nofun

private theorem settled_of_forward
    (hhistory : call.history = [⟨.receive .client enough, inflow, [], []⟩] ++ last)
    (hread : call.read? = some (.ok (request, held))) (hadmitted : call.admitted? = some request)
    (hmethod : request.method ∈ [Method.get, .post, .head])
    (h : Ends (Service.serveKind call.handler request held .forward) last ()) :
    ∃ label, call.Settled label := by
  have hne : request.method ≠ .connect := by
    intro hconnect
    rw [hconnect] at hmethod
    exact absurd hmethod (by decide)
  have hunreached := reachesTarget_of_ne hadmitted hne
  have hunblocked := isBlocked_of_admitted hadmitted
  have hreadable := isUnreadable_of_read hread
  have hasks : call.asksCache = call.handler.cacheEnabled := by
    rw [asksCache_of_admitted hadmitted, decide_eq_true hmethod, Bool.and_true]
  obtain ⟨first, result, final, rfl, hforward, hfinish⟩ := h.bind
  obtain ⟨lookups, isConnected, hconsulted, hconveyed⟩ := Service.consulted_forward hforward
  rw [← method_of_read hread] at hfinish
  have hlookups := hconsulted.length_lookups
  have hhit := hconsulted.any_isSome
  rw [← hasks] at hlookups hhit
  rw [← List.append_assoc] at hhistory
  cases hconveyed with
  | failed hfatal hfirst =>
      have htally : History.tally ([⟨.receive .client enough, inflow, [], []⟩] ++ first) = {
          measured := if call.isBlocked then [.blocked] else []
          lookups, isConnected, fromClient? := some inflow } := by
        rw [History.tally_append, hfirst, hunblocked]
        rfl
      exact ⟨_, settled_of_refused hhistory htally hfatal hfinish hreadable hunreached
        hlookups hhit⟩
  | written response hfirst =>
      have htally : call.history.tally = {
          measured := [.request call.method response.status.code]
          lookups, isConnected, answers := [response.render], fromClient? := some inflow } := by
        rw [hhistory, History.tally_append, History.tally_append, hfirst,
          Service.tally_finish hfinish]
        simp [Tally.and, tally_received]
      exact ⟨_, settled_of_written htally hreadable hunblocked hunreached hlookups hhit⟩
  | unwritten response hfirst =>
      have hfinal := Service.tally_refuse_of_fatal rfl hfinish
      have htally : call.history.tally = {
          lookups, isConnected, answers := [response.render], answerFails := true,
          fromClient? := some inflow } := by
        rw [hhistory, History.tally_append, History.tally_append, hfirst, hfinal]
        simp [Tally.and, tally_received]
      exact ⟨_, settled_of_unwritten htally hreadable hunblocked hunreached hlookups hhit⟩

/-- The target of a tunnel is not reached if an exchange on the way to it fails. -/
private theorem reachesTarget_of_failed {o : Occurrence}
    (huntunnelled : call.history.isTunnelled = false) (hmem : o ∈ call.history)
    (hfails : o.originFails call.handler.limits .connect = true) :
    call.reachesTarget = false := by
  have hnot : (call.history.beforeTunnel.all
      fun o => ! o.originFails call.handler.limits .connect) = false := by
    rw [History.beforeTunnel_eq_self huntunnelled]
    refine List.all_eq_false.2 ⟨o, hmem, ?_⟩
    simp [hfails]
  unfold reachesTarget
  rw [hnot, Bool.and_false]

private theorem settled_of_unreached {first final : History} {fault : TunnelFault}
    (hhistory : call.history =
      [⟨.receive .client enough, inflow, [], []⟩] ++ first ++ final)
    (hread : call.read? = some (.ok (request, held))) (hunblocked : call.isBlocked = false)
    (hasks : call.asksCache = false) (hfirst : first.tally = { isConnected := true })
    {o : Occurrence} (hmem : o ∈ first)
    (hfails : o.originFails call.handler.limits .connect = true)
    (h : Ends (Service.refuse call.method
      (.tunnel request.host request.port fault)) final ()) : ∃ label, call.Settled label := by
  have htally : History.tally ([⟨.receive .client enough, inflow, [], []⟩] ++ first) = {
      measured := if call.isBlocked then [.blocked] else []
      isConnected := true, fromClient? := some inflow } := by
    rw [History.tally_append, hfirst, hunblocked]
    rfl
  obtain ⟨answerFails, hfinal⟩ := Service.tally_refuse rfl h
  have huntunnelled : call.history.isTunnelled = false := by
    have hwhole : call.history.tally.isTunnelled = false := by
      rw [hhistory, History.tally_append, htally, hfinal]
      rfl
    exact hwhole
  have hwithin : o ∈ call.history := by
    rw [hhistory]
    exact List.mem_append_left _ (List.mem_append_right _ hmem)
  refine ⟨_, settled_of_refused hhistory htally rfl h (isUnreadable_of_read hread)
    (reachesTarget_of_failed huntunnelled hwithin hfails) ?_ ?_⟩
  · rw [hasks]
    rfl
  · rw [hasks]
    exact nofun

/-- The target is reached if no exchange on the way to it fails. -/
private theorem reachesTarget_of_sound {first : History} (hadmitted : call.admitted? = some request)
    (hmethod : request.method = .connect)
    (hbefore : call.history.beforeTunnel =
      [⟨.receive .client enough, inflow, [], []⟩] ++ first)
    (hsound : first.Sound call.handler.limits .connect) : call.reachesTarget = true := by
  unfold reachesTarget
  rw [hadmitted, hbefore, Option.any_some, decide_eq_true hmethod, Bool.true_and]
  refine List.all_eq_true.2 fun o ho => ?_
  obtain hreceived | hway := List.mem_append.1 ho
  · rw [List.mem_singleton.1 hreceived]
    rfl
  · rw [hsound o hway]
    rfl

private theorem settled_of_reached {first final : History} {fromOrigin : Held}
    (hhistory : call.history =
      [⟨.receive .client enough, inflow, [], []⟩] ++ first ++ final)
    (hread : call.read? = some (.ok (request, held))) (hadmitted : call.admitted? = some request)
    (hmethod : request.method = .connect) (hfirst : first.tally = { isConnected := true })
    (hsound : first.Sound call.handler.limits .connect)
    (hahead : Service.readAhead call.handler.limits first.fromOrigin? =
      fromOrigin.pending.length)
    (h : Ends (Service.bridge held fromOrigin) final ()) : ∃ label, call.Settled label := by
  have hway : History.tally ([⟨.receive .client enough, inflow, [], []⟩] ++ first) =
      { isConnected := true, fromClient? := some inflow } := by
    rw [History.tally_append, hfirst]
    rfl
  have huntunnelled := congrArg Tally.isTunnelled hway
  have hbefore : call.history.beforeTunnel =
      [⟨.receive .client enough, inflow, [], []⟩] ++ first := by
    rw [hhistory, History.beforeTunnel_append huntunnelled, Service.beforeTunnel_bridge h,
      List.append_nil]
  have hfrom : call.history.fromTunnel = final := by
    rw [hhistory, History.fromTunnel_append huntunnelled, Service.fromTunnel_bridge h]
  have hreached := reachesTarget_of_sound hadmitted hmethod hbefore hsound
  have hreadable := isUnreadable_of_read hread
  have hunblocked := isBlocked_of_admitted hadmitted
  have hasks : call.asksCache = false := by
    rw [asksCache_of_admitted hadmitted, hmethod]
    exact Bool.and_false _
  cases Service.bridged_bridge h with
  | failed hfails hfinal =>
      have htally : call.history.tally = {
          measured := [.tunnel .failed 0 0], isConnected := true, isTunnelled := true
          fromClient? := some inflow } := by
        rw [hhistory, History.tally_append, hway, hfinal]
        rfl
      rw [← hfrom] at hfails
      exact ⟨none, settled_of_unshaken hreadable hunblocked hasks hreached hfails htally⟩
  | closed relayed hwritten hfinal =>
      have hheld : call.readAhead = held.pending.length := by
        unfold readAhead
        rw [hread]
      have hahead' : Service.readAhead call.handler.limits call.history.beforeTunnel.fromOrigin? =
          fromOrigin.pending.length := by
        rw [hbefore]
        exact hahead
      have htally : call.history.tally = {
          measured := [.request call.method Status.ok.code,
            .tunnel (if relayed.timedOut then .idleTimeout else .closed)
              (relayed.toOrigin + call.readAhead) (relayed.toClient +
                Service.readAhead call.handler.limits call.history.beforeTunnel.fromOrigin?)]
          isConnected := true, isTunnelled := true
          fromClient? := some inflow, relayed? := some relayed } := by
        rw [hheld, hahead', method_of_read hread, hmethod, hhistory, History.tally_append, hway,
          hfinal]
        rfl
      rw [← hfrom] at hwritten
      exact ⟨_, settled_of_established hreadable hunblocked hasks hreached hwritten htally⟩

private theorem settled_of_tunnel
    (hhistory : call.history = [⟨.receive .client enough, inflow, [], []⟩] ++ last)
    (hread : call.read? = some (.ok (request, held))) (hadmitted : call.admitted? = some request)
    (hmethod : request.method = .connect)
    (h : Ends (Service.serveKind call.handler request held .tunnel) last ()) :
    ∃ label, call.Settled label := by
  have hasks : call.asksCache = false := by
    rw [asksCache_of_admitted hadmitted, hmethod]
    exact Bool.and_false _
  obtain ⟨first, opened, final, rfl, hopen, h⟩ := h.bind
  rw [← List.append_assoc] at hhistory
  obtain ⟨hfirst, hopened⟩ := Service.opened_openTunnel hopen
  cases hopened with
  | failed hmem hfails =>
      rw [← method_of_read hread] at h
      exact settled_of_unreached hhistory hread (isBlocked_of_admitted hadmitted) hasks hfirst
        hmem hfails h
  | reached hsound hahead =>
      exact settled_of_reached hhistory hread hadmitted hmethod hfirst hsound hahead h

private theorem not_mem_of_ofMethod_error {method : Method} {e : ServiceError}
    (h : RequestKind.ofMethod method = .error e) :
    e.isFatal = false ∧ method ∉ [Method.get, .post, .head, .connect] := by
  have hnot : method ∉ [Method.get, .post, .head, .connect] := by
    intro hmem
    obtain ⟨kind, hkind⟩ := Service.exists_ofMethod_of_mem hmem
    rw [hkind] at h
    cases h
  rw [Service.ofMethod_of_not_mem hnot] at h
  cases h
  exact ⟨rfl, hnot⟩

private theorem method_of_forward {method : Method}
    (h : RequestKind.ofMethod method = .ok .forward) :
    method ∈ [Method.get, .post, .head] := by
  unfold RequestKind.ofMethod at h
  split at h <;> first | decide | cases h

private theorem method_of_tunnel {method : Method} (h : RequestKind.ofMethod method = .ok .tunnel) :
    method = .connect := by
  unfold RequestKind.ofMethod at h
  split at h <;> first | rfl | cases h

private theorem settled_of_dispatch
    (hhistory : call.history = [⟨.receive .client enough, inflow, [], []⟩] ++ last)
    (hread : call.read? = some (.ok (request, held)))
    (h : Ends (Service.dispatch call.handler request held) last ()) :
    ∃ label, call.Settled label := by
  cases hblocked : call.handler.blocklist.contains request.host with
  | true => exact settled_of_blocked hhistory hread hblocked h
  | false =>
      have hreadable := isUnreadable_of_read hread
      have hunblocked := (isBlocked_of_read hread).trans hblocked
      unfold Service.dispatch at h
      dsimp only at h
      rw [hblocked, if_neg Bool.false_ne_true] at h
      split at h
      · next hloop =>
        have hnot : call.admitted? = none := by
          unfold admitted?
          rw [request?_of_read hread, Option.filter_some, hloop, Bool.not_true, Bool.and_false]
          rfl
        rw [← method_of_read hread] at h
        exact settled_of_unconveyed hhistory hreadable hunblocked (asksCache_of_not_admitted hnot)
          (reachesTarget_of_not_admitted hnot) rfl h
      · next hnoLoop =>
        have hadmitted := admitted?_of_read hread hblocked (Bool.eq_false_iff.2 hnoLoop)
        cases hkind : RequestKind.ofMethod request.method with
        | error e =>
            obtain ⟨hfatal, hother⟩ := not_mem_of_ofMethod_error hkind
            have hnone : request.method ∉ [Method.get, .post, .head] := fun hmem =>
              hother (List.mem_append_left [Method.connect] hmem)
            have hne : request.method ≠ .connect := by
              intro hconnect
              rw [hconnect] at hother
              exact hother (by decide)
            have hasks : call.asksCache = false := by
              rw [asksCache_of_admitted hadmitted, decide_eq_false hnone, Bool.and_false]
            rw [hkind, ← method_of_read hread] at h
            exact settled_of_unconveyed hhistory hreadable hunblocked hasks
              (reachesTarget_of_ne hadmitted hne) hfatal h
        | ok kind =>
            rw [hkind] at h
            cases kind with
            | forward =>
                exact settled_of_forward hhistory hread hadmitted (method_of_forward hkind) h
            | tunnel =>
                exact settled_of_tunnel hhistory hread hadmitted (method_of_tunnel hkind) h

/-- Every call that is carried out to its end settles its account. -/
theorem settled_of_ends (h : Ends (Service.serve call.handler call.client) call.history ()) :
    ∃ label, call.Settled label := by
  obtain ⟨first, result, last, hhistory, hrequest, h⟩ := h.bind
  obtain ⟨enough, inflow, rfl, rfl⟩ := Service.ends_readRequest hrequest
  have hfrom : call.history.tally.fromClient? = some inflow := by
    rw [hhistory]
    rfl
  have hread := read?_of_fromClient hfrom
  cases hresult : Inflow.read (Request.read call.handler.limits call.client) inflow with
  | error fault =>
      rw [hresult] at h hread
      exact settled_of_fault hhistory hread h
  | ok found =>
      rw [hresult] at h hread
      exact settled_of_dispatch hhistory hread h

end

end Call

end Intermediary

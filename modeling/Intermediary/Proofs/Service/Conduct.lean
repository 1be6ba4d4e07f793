import Intermediary.Proofs.Message.Reading
import Intermediary.Proofs.Service.History
import Intermediary.Proofs.Tunnel.Faithful
import Intermediary.Service

/-!
# One connection, one reply

While a client is served, at most one attempt to connect is made, and only for
a request that may be passed on; and whatever fails, and wherever it fails, the
client gets a beginning of one response, or of a tunnel, and nothing else.

Most actions are quiet: they neither connect nor write to the client.  What
they do to a history is said once, and each part of the service is then
described by the few actions in it that are not.
-/

namespace Intermediary

open Serving

/-! ## What is promised -/

/-- Nothing was written to the client, and nothing was to be written. -/
structure History.Silent (history : History) : Prop where
  answers : history.answers = []
  untunnelled : history.isTunnelled = false
  toClient : history.toClient = []

/-- The client was sent a beginning of one reply at most. -/
inductive History.OneReply (history : History) : Prop where
  | silent (h : history.Silent)
  /-- One response was to be written, and no tunnel was opened. -/
  | answered (response : Response) (hanswers : history.answers = [response.render])
      (htunnel : history.isTunnelled = false)
      (hclient : history.toClient <+: response.render)
  /-- The head of a tunnel was to be written, and what the origin has sent. -/
  | tunnelled (before after : Bytes) (hanswers : history.answers = [])
      (horigin : history.fromOrigin = before ++ after)
      (hclient : history.toClient <+: Response.tunnelEstablished.render ++ after)

namespace Service

def WasRead (handler : Handler) (client : String) (request : Request)
    (history : History) : Prop :=
  ∃ enough inflow rest,
    (⟨.receive .client enough, inflow, [], []⟩ : Occurrence) ∈ history ∧
      Request.read handler.limits client (Inflow.bytes inflow) = .ok (request, rest)

/-- The cache was asked for the response to a request, and had none. -/
def WasMissed (request : Request) (history : History) : Prop :=
  (⟨.lookup request.fingerprint, (none : Option Response), [], []⟩ : Occurrence) ∈
    history

/-- A request that may be passed on after what has happened. -/
structure Admitted (handler : Handler) (client : String) (request : Request)
    (history : History) : Prop where
  read : WasRead handler client request history
  unblocked : handler.blocklist.contains request.host = false
  noLoop : Forwarding.containsLoop request = false
  method : request.method ∈ [Method.get, .post, .head, .connect]
  missed : handler.cacheEnabled = true -> request.method ≠ .connect ->
    WasMissed request history

/-- What precedes an attempt to connect: no other one, and a request to pass on. -/
structure MayConnect (handler : Handler) (client : String) (history : History) :
    Prop where
  unconnected : ∀ o ∈ history, o.isConnect = false
  admitted : ∃ request, Admitted handler client request history

/-- How a client is served, as far as its history goes. -/
structure Conduct (handler : Handler) (client : String) (history : History) :
    Prop where
  connects : ∀ before o after, history = before ++ o :: after ->
    o.isConnect = true -> MayConnect handler client before
  reply : history.OneReply

end Service

/-! ## Quiet actions -/

/-- The actions that neither connect nor write to the client. -/
def Action.isQuiet : Action -> Bool
  | .connect _ _ | .answer _ | .greet _ | .relay _ _ => false
  | .receive _ _ | .send _ | .lock _ | .unlock _ | .lookup _ | .store _ _
  | .measure _ | .log _ => true

namespace Occurrence

structure IsQuiet (o : Occurrence) : Prop where
  action : o.action.isQuiet = true
  toClient : o.toClient = []

variable {o : Occurrence}

theorem isQuiet_of_possible (h : o.Possible) (haction : o.action.isQuiet = true) :
    o.IsQuiet := by
  refine ⟨haction, ?_⟩
  obtain ⟨action, reply, toClient, fromOrigin⟩ := o
  cases action with
  | receive side enough =>
      cases side
      · exact h.1
      · exact h.1
  | connect host port => cases haction
  | answer bytes => cases haction
  | greet bytes => cases haction
  | relay ahead behind => cases haction
  | send bytes => exact h.1
  | lock stripe => exact h.1
  | unlock stripe => exact h.1
  | lookup print => exact h.1
  | store print response => exact h.1
  | measure recording => exact h.1
  | log event => exact h.1

private theorem IsQuiet.isConnect (h : o.IsQuiet) : o.isConnect = false := by
  obtain ⟨action, reply, toClient, fromOrigin⟩ := o
  cases action <;> first | rfl | cases h.action

private theorem IsQuiet.isTunnel (h : o.IsQuiet) : o.isTunnel = false := by
  obtain ⟨action, reply, toClient, fromOrigin⟩ := o
  cases action <;> first | rfl | cases h.action

theorem IsQuiet.answer? (h : o.IsQuiet) : o.answer? = none := by
  obtain ⟨action, reply, toClient, fromOrigin⟩ := o
  cases action <;> first | rfl | cases h.action

end Occurrence

namespace History

def Quietly (before after : History) : Prop :=
  ∃ more, after = before ++ more ∧ ∀ o ∈ more, o.IsQuiet

theorem Quietly.refl (history : History) : history.Quietly history :=
  ⟨[], (List.append_nil history).symm, List.forall_mem_nil _⟩

theorem quietly_snoc (history : History) {o : Occurrence} (h : o.IsQuiet) :
    history.Quietly (history ++ [o]) :=
  ⟨[o], rfl, by simpa using h⟩

theorem Quietly.trans {first second third : History} (h : first.Quietly second)
    (h' : second.Quietly third) : first.Quietly third := by
  obtain ⟨more, rfl, hmore⟩ := h
  obtain ⟨yet, rfl, hyet⟩ := h'
  exact ⟨more ++ yet, List.append_assoc _ _ _, List.forall_mem_append.2 ⟨hmore, hyet⟩⟩

/-- What quiet actions keep one at a time they keep altogether. -/
theorem Quietly.induction {P : History -> Prop} {before after : History}
    (h : before.Quietly after) (hbefore : P before)
    (hsnoc : ∀ history o, o.IsQuiet -> P history -> P (history ++ [o])) : P after := by
  obtain ⟨more, rfl, hmore⟩ := h
  induction more generalizing before with
  | nil => simpa using hbefore
  | cons o more ih =>
      obtain ⟨ho, hmore⟩ := List.forall_mem_cons.1 hmore
      rw [List.append_cons]
      exact ih (hsnoc before o ho hbefore) hmore

private theorem Silent.snoc {history : History} {o : Occurrence} (h : history.Silent)
    (ho : o.IsQuiet) : Silent (history ++ [o]) where
  answers := by simp [h.answers, ho.answer?]
  untunnelled := by simp [h.untunnelled, ho.isTunnel]
  toClient := by simp [h.toClient, ho.toClient]

theorem Silent.quietly {before after : History} (h : before.Silent)
    (hquiet : before.Quietly after) : after.Silent :=
  hquiet.induction h fun _ _ ho h => h.snoc ho

private theorem OneReply.snoc {history : History} {o : Occurrence} (h : history.OneReply)
    (ho : o.IsQuiet) : OneReply (history ++ [o]) := by
  cases h with
  | silent h => exact .silent (h.snoc ho)
  | answered response hanswers htunnel hclient =>
      refine .answered response ?_ ?_ ?_
      · simp [hanswers, ho.answer?]
      · simp [htunnel, ho.isTunnel]
      · simpa [ho.toClient] using hclient
  | tunnelled before after hanswers horigin hclient =>
      refine .tunnelled before (after ++ o.fromOrigin) ?_ ?_ ?_
      · simp [hanswers, ho.answer?]
      · simp [horigin]
      · rw [toClient_snoc, ho.toClient, List.append_nil, ← List.append_assoc]
        exact hclient.trans (List.prefix_append _ _)

private theorem unconnected_quietly {before after : History}
    (h : ∀ o ∈ before, o.isConnect = false) (hquiet : before.Quietly after) :
    ∀ o ∈ after, o.isConnect = false := by
  obtain ⟨more, rfl, hmore⟩ := hquiet
  exact List.forall_mem_append.2 ⟨h, fun o ho => (hmore o ho).isConnect⟩

end History

open History

namespace Service

variable {handler : Handler} {client : String} {history : History}

private theorem WasRead.quietly {request : Request} {after : History}
    (h : WasRead handler client request history) (hquiet : history.Quietly after) :
    WasRead handler client request after := by
  obtain ⟨enough, inflow, rest, hmem, hread⟩ := h
  obtain ⟨more, rfl, _⟩ := hquiet
  exact ⟨enough, inflow, rest, List.mem_append_left more hmem, hread⟩

/-- What is done next must be permitted if it is an attempt to connect. -/
theorem Conduct.snoc {o : Occurrence} (h : Conduct handler client history)
    (hconnect : o.isConnect = true -> MayConnect handler client history)
    (hreply : OneReply (history ++ [o])) :
    Conduct handler client (history ++ [o]) where
  connects := by
    intro before p after hsplit hp
    rcases List.eq_nil_or_concat after with rfl | ⟨after, q, rfl⟩
    · obtain ⟨rfl, hsame⟩ := List.append_inj' hsplit rfl
      cases hsame
      exact hconnect hp
    · rw [List.concat_eq_append, ← List.cons_append, ← List.append_assoc] at hsplit
      obtain ⟨hsplit, _⟩ := List.append_inj' hsplit rfl
      exact h.connects before p after hsplit hp
  reply := hreply

private theorem Conduct.snoc_quiet {o : Occurrence} (h : Conduct handler client history)
    (ho : o.IsQuiet) : Conduct handler client (history ++ [o]) := by
  refine h.snoc (fun hconnect => ?_) (h.reply.snoc ho)
  rw [ho.isConnect] at hconnect
  cases hconnect

/-! ## Rules for actions -/

theorem always_quiet {action : Action} (h : Conduct handler client history)
    (haction : action.isQuiet = true) :
    Always (Conduct handler client)
      (fun after reply => history.Quietly after ∧
        ∃ toClient fromOrigin, after =
            history ++ [⟨action, reply, toClient, fromOrigin⟩] ∧
          Occurrence.Possible ⟨action, reply, toClient, fromOrigin⟩)
      (perform action) history := by
  refine always_perform h fun reply toClient fromOrigin hpossible => ?_
  have ho := Occurrence.isQuiet_of_possible hpossible haction
  exact ⟨h.snoc_quiet ho, quietly_snoc history ho, toClient, fromOrigin, rfl, hpossible⟩

/-- A quiet action of which nothing but its reply is needed. -/
theorem always_aside {action : Action} (h : Conduct handler client history)
    (haction : action.isQuiet = true) :
    Always (Conduct handler client) (fun after _ => history.Quietly after)
      (perform action) history :=
  (always_quiet h haction).mono fun _ _ _ hpost => hpost.1

theorem always_connect {host : String} {port : Nat}
    (h : Conduct handler client history) (hsilent : history.Silent)
    (hmay : MayConnect handler client history) :
    Always (Conduct handler client)
      (fun after _ => after.Silent ∧ after.fromOrigin = history.fromOrigin)
      (perform (.connect host port)) history := by
  refine always_perform h fun reply toClient fromOrigin hpossible => ?_
  obtain ⟨rfl, rfl⟩ := hpossible
  have hsilent' : Silent (history ++ [⟨.connect host port, reply, [], []⟩]) := {
    answers := by simp [hsilent.answers, Occurrence.answer?]
    untunnelled := by simp [hsilent.untunnelled, Occurrence.isTunnel]
    toClient := by simp [hsilent.toClient] }
  exact ⟨h.snoc (fun _ => hmay) (.silent hsilent'), hsilent', by simp⟩

/-- Write a response that is the first thing the client is sent. -/
theorem always_respond (response : Response) (h : Conduct handler client history)
    (hsilent : history.Silent) :
    Always (Conduct handler client)
      (fun _ result => ∀ e, result = .error e -> e.isFatal = true)
      (respond response) history := by
  refine always_bind (always_perform h fun reply toClient fromOrigin hpossible => ?_)
  obtain ⟨rfl, hbegun, _⟩ := hpossible
  have hconduct : Conduct handler client
      (history ++ [⟨.answer response.render, reply, toClient, []⟩]) := by
    refine h.snoc (fun hconnect => by cases hconnect) (.answered response ?_ ?_ ?_)
    · simp [hsilent.answers, Occurrence.answer?]
    · simp [hsilent.untunnelled, Occurrence.isTunnel]
    · simpa [hsilent.toClient] using hbegun
  refine ⟨hconduct, ?_⟩
  cases reply with
  | ok =>
      refine always_pure hconduct fun e he => ?_
      cases he
  | error cause =>
      refine always_pure hconduct fun e he => ?_
      cases he
      rfl

/-! ## Reading messages -/

private theorem always_readMessage_client {α : Type}
    (reader : Bytes -> Except MessageError (α × Bytes))
    (h : Conduct handler client history) :
    Always (Conduct handler client)
      (fun after result => history.Quietly after ∧ ∃ inflow : Inflow,
        result = Inflow.read reader inflow ∧
          (⟨.receive .client (Inflow.decides reader), inflow, [], []⟩ : Occurrence) ∈
            after)
      (readMessage .client reader) history := by
  refine (always_quiet h rfl).then fun after inflow hafter hpost => ?_
  obtain ⟨hquiet, toClient, fromOrigin, rfl, rfl, rfl⟩ := hpost
  exact always_pure hafter ⟨hquiet, inflow, rfl, by simp⟩

private theorem always_readMessage_origin {α : Type}
    (reader : Bytes -> Except MessageError (α × Bytes))
    (h : Conduct handler client history) :
    Always (Conduct handler client)
      (fun after result => history.Quietly after ∧ ∃ inflow : Inflow,
        result = Inflow.read reader inflow ∧
          after.fromOrigin = history.fromOrigin ++ inflow.bytes)
      (readMessage .origin reader) history := by
  refine (always_quiet h rfl).then fun after inflow hafter hpost => ?_
  obtain ⟨hquiet, toClient, fromOrigin, rfl, rfl, rfl⟩ := hpost
  exact always_pure hafter ⟨hquiet, inflow, rfl, by simp⟩

theorem exists_of_inflow_read {α : Type}
    {reader : Bytes -> Except MessageError (α × Bytes)} {inflow : Inflow}
    {value : α} {held : Held} (h : Inflow.read reader inflow = .ok (value, held)) :
    ∃ rest, reader inflow.bytes = .ok (value, rest) ∧
      rest = held.pending ++ held.later := by
  unfold Inflow.read at h
  split at h
  · next hread =>
    cases h
    exact ⟨_, hread, (List.take_append_drop _ _).symm⟩
  · split at h
    · split at h <;> cases h
    · cases h

private theorem always_readRequest (h : Conduct handler client history) :
    Always (Conduct handler client)
      (fun after result => history.Quietly after ∧
        ∀ request held, result = .ok (request, held) ->
          WasRead handler client request after)
      (readRequest handler client) history := by
  refine (always_readMessage_client _ h).then fun after result hafter hpost => ?_
  obtain ⟨hquiet, inflow, rfl, hmem⟩ := hpost
  cases hread : Inflow.read (Request.read handler.limits client) inflow with
  | ok found =>
      refine always_pure hafter ⟨hquiet, fun request held heq => ?_⟩
      cases heq
      obtain ⟨rest, hrequest, _⟩ := exists_of_inflow_read hread
      exact ⟨_, inflow, rest, hmem, hrequest⟩
  | error fault =>
      cases fault with
      | timedOut => exact always_pure hafter ⟨hquiet, fun _ _ heq => by cases heq⟩
      | message e => exact always_pure hafter ⟨hquiet, fun _ _ heq => by cases heq⟩

/-! ## Passing requests on -/

private theorem always_fetch {request : Request} (h : Conduct handler client history)
    (hsilent : history.Silent) (hmay : MayConnect handler client history) :
    Always (Conduct handler client) (fun after _ => after.Silent)
      (fetch handler request) history := by
  unfold fetch
  refine (always_connect h hsilent hmay).then fun after reply hafter hpost => ?_
  obtain ⟨hsilent, _⟩ := hpost
  cases reply with
  | error cause => exact always_pure hafter hsilent
  | ok =>
      refine (always_aside hafter rfl).then fun after' reply hafter' hquiet => ?_
      have hsilent' := hsilent.quietly hquiet
      cases reply with
      | error cause => exact always_pure hafter' hsilent'
      | ok =>
          refine (always_readMessage_origin _ hafter').then
            fun last result hlast hpost => ?_
          obtain ⟨hquiet', _⟩ := hpost
          have hsilent'' := hsilent'.quietly hquiet'
          cases result with
          | ok found => exact always_pure hlast hsilent''
          | error fault => cases fault <;> exact always_pure hlast hsilent''

/-- An error is the client's own, or the client was not sent anything yet. -/
def Answerable {α : Type} (history : History) (result : Except ServiceError α) : Prop :=
  ∀ e, result = .error e -> e.isFatal = true ∨ history.Silent

theorem always_respondWith (response : Response) (use : CacheUse)
    (h : Conduct handler client history) (hsilent : history.Silent) :
    Always (Conduct handler client) Answerable (respondWith response use) history := by
  refine (always_respond response h hsilent).then fun after result hafter hpost => ?_
  cases result with
  | ok =>
      refine always_pure hafter fun e he => ?_
      cases he
  | error cause =>
      refine always_pure hafter fun e he => ?_
      cases he
      exact .inl (hpost cause rfl)

private theorem always_forwardPast {request : Request} (h : Conduct handler client history)
    (hsilent : history.Silent) (hmay : MayConnect handler client history) :
    Always (Conduct handler client) Answerable (forwardPast handler request) history := by
  refine (always_fetch h hsilent hmay).then fun after result hafter hsilent => ?_
  cases result with
  | error e => exact always_pure hafter fun _ _ => .inr hsilent
  | ok response => exact always_respondWith response .bypass hafter hsilent

private theorem always_forwardMiss {request : Request} {stripe : Nat}
    (h : Conduct handler client history) (hsilent : history.Silent)
    (hmay : MayConnect handler client history) :
    Always (Conduct handler client) Answerable
      (forwardMiss handler request stripe) history := by
  refine (always_fetch h hsilent hmay).then fun after result hafter hsilent => ?_
  cases result with
  | error e => exact always_pure hafter fun _ _ => .inr hsilent
  | ok response =>
      refine (always_aside hafter rfl).then fun locked _ hlocked hquiet => ?_
      refine (always_aside hlocked rfl).then fun stored _ hstored hquiet' => ?_
      refine (always_aside hstored rfl).then fun unlocked _ hunlocked hquiet'' => ?_
      exact always_respondWith response .miss hunlocked
        (((hsilent.quietly hquiet).quietly hquiet').quietly hquiet'')

private theorem Answerable.quietly {α : Type} {result : Except ServiceError α}
    {after : History} (h : Answerable history result)
    (hquiet : history.Quietly after) : Answerable after result :=
  fun e he => (h e he).imp_right fun hsilent => hsilent.quietly hquiet

private theorem always_forward {request : Request} (h : Conduct handler client history)
    (hsilent : history.Silent)
    (hmay : ∀ after, history.Quietly after ->
      (handler.cacheEnabled = true -> WasMissed request after) ->
        MayConnect handler client after) :
    Always (Conduct handler client) Answerable (forward handler request) history := by
  unfold forward
  split
  · refine (always_aside h rfl).then fun locked _ hlocked hquiet => ?_
    refine (always_quiet hlocked rfl).then fun asked found hasked hpost => ?_
    obtain ⟨hquiet', toClient, fromOrigin, rfl, rfl, rfl⟩ := hpost
    have hsilent' := (hsilent.quietly hquiet).quietly hquiet'
    cases found with
    | some response =>
        refine (always_respondWith response .hit hasked hsilent').then
          fun answered result hanswered hresult => ?_
        refine (always_aside hanswered rfl).then fun after _ hafter hquiet'' => ?_
        exact always_pure hafter (hresult.quietly hquiet'')
    | none =>
        refine (always_aside hasked rfl).then fun after _ hafter hquiet'' => ?_
        refine always_forwardMiss hafter (hsilent'.quietly hquiet'') ?_
        refine hmay after ((hquiet.trans hquiet').trans hquiet'') fun _ => ?_
        obtain ⟨more, rfl, _⟩ := hquiet''
        exact List.mem_append_left more (List.mem_append_right locked List.mem_cons_self)
  · next hdisabled =>
    exact always_forwardPast h hsilent
      (hmay history (.refl history) fun henabled => absurd henabled hdisabled)

/-! ## Tunnels -/

/-- The bytes that were read ahead are the last that the origin has sent. -/
def HoldsEnd (history : History) (held : Held) : Prop :=
  ∃ before, history.fromOrigin = before ++ (held.pending ++ held.later)

private theorem always_openThroughParent {parent : Parent} {request : Request}
    (h : Conduct handler client history) (hsilent : history.Silent)
    (hmay : MayConnect handler client history) :
    Always (Conduct handler client)
      (fun after result => after.Silent ∧
        ∀ held, result = .ok held -> HoldsEnd after held)
      (openThroughParent handler parent request) history := by
  refine (always_connect h hsilent hmay).then fun after reply hafter hpost => ?_
  obtain ⟨hsilent, _⟩ := hpost
  cases reply with
  | error cause => exact always_pure hafter ⟨hsilent, fun _ hheld => by cases hheld⟩
  | ok =>
      refine (always_aside hafter rfl).then fun after' reply hafter' hquiet => ?_
      have hsilent' := hsilent.quietly hquiet
      cases reply with
      | error cause =>
          exact always_pure hafter' ⟨hsilent', fun _ hheld => by cases hheld⟩
      | ok =>
          refine (always_readMessage_origin _ hafter').then
            fun last result hlast hpost => ?_
          obtain ⟨hquiet', inflow, rfl, horigin⟩ := hpost
          have hsilent'' := hsilent'.quietly hquiet'
          cases hread : Inflow.read (Response.readHead handler.limits) inflow with
          | error fault =>
              cases fault <;>
                exact always_pure hlast ⟨hsilent'', fun _ hheld => by cases hheld⟩
          | ok found =>
              obtain ⟨reply, held⟩ := found
              obtain ⟨rest, hhead, hrest⟩ := exists_of_inflow_read hread
              obtain ⟨head, hsplit, _⟩ :=
                (Response.settledOn_readHead handler.limits inflow.bytes).accepted hhead
              dsimp only
              split
              · refine always_pure hlast ⟨hsilent'', fun held' hheld => ?_⟩
                cases hheld
                refine ⟨after'.fromOrigin ++ head, ?_⟩
                rw [horigin, hsplit, hrest, List.append_assoc]
              · exact always_pure hlast ⟨hsilent'', fun _ hheld => by cases hheld⟩

private theorem always_openTunnel {request : Request} (h : Conduct handler client history)
    (hsilent : history.Silent) (hmay : MayConnect handler client history) :
    Always (Conduct handler client)
      (fun after result => after.Silent ∧
        ∀ held, result = .ok held -> HoldsEnd after held)
      (openTunnel handler request) history := by
  unfold openTunnel
  split
  · exact always_openThroughParent h hsilent hmay
  · refine (always_connect h hsilent hmay).then fun after reply hafter hpost => ?_
    obtain ⟨hsilent, _⟩ := hpost
    cases reply with
    | error cause => exact always_pure hafter ⟨hsilent, fun _ hheld => by cases hheld⟩
    | ok =>
        refine always_pure hafter ⟨hsilent, fun held hheld => ?_⟩
        cases hheld
        exact ⟨after.fromOrigin, (List.append_nil _).symm⟩

/-- The client was sent the head of a tunnel and then some of what the origin sent. -/
structure Greeted (history : History) (given later : Bytes) : Prop where
  answers : history.answers = []
  toClient : history.toClient = Response.tunnelEstablished.render ++ given
  fromOrigin : ∃ before, history.fromOrigin = before ++ (given ++ later)

private theorem Greeted.snoc_quiet {given later : Bytes} {o : Occurrence}
    (h : Greeted history given later) (ho : o.IsQuiet) (hnothing : o.fromOrigin = []) :
    Greeted (history ++ [o]) given later where
  answers := by simp [h.answers, ho.answer?]
  toClient := by simp [h.toClient, ho.toClient]
  fromOrigin := by simpa [hnothing] using h.fromOrigin

/-- Write to the client what the origin has sent next. -/
theorem always_greet {given bytes later : Bytes} (h : Conduct handler client history)
    (hgreeted : Greeted history given (bytes ++ later)) :
    Always (Conduct handler client)
      (fun after (reply : Except TransportError Unit) => reply = .ok () ->
        Greeted after (given ++ bytes) later)
      (perform (.greet bytes)) history := by
  obtain ⟨hanswers, hclient, before, horigin⟩ := hgreeted
  refine always_perform h fun reply toClient fromOrigin hpossible => ?_
  obtain ⟨rfl, hbegun, hall⟩ := hpossible
  have hanswers' : answers (history ++ [⟨.greet bytes, reply, toClient, []⟩]) = [] := by
    simp [hanswers, Occurrence.answer?]
  constructor
  · refine h.snoc (fun hconnect => by cases hconnect)
      (.tunnelled before (given ++ (bytes ++ later)) hanswers' (by simp [horigin]) ?_)
    rw [toClient_snoc, hclient, List.append_assoc]
    exact (List.prefix_append_right_inj _).2 ((List.prefix_append_right_inj _).2
      (hbegun.trans (List.prefix_append _ _)))
  · intro hok
    refine ⟨hanswers', ?_, before, ?_⟩
    · rw [toClient_snoc, hclient, hall hok, List.append_assoc]
    · simp [horigin]

/-- Begin a tunnel with its head. -/
theorem always_greet_head {later : Bytes} (h : Conduct handler client history)
    (hsilent : history.Silent)
    (horigin : ∃ before, history.fromOrigin = before ++ later) :
    Always (Conduct handler client)
      (fun after (reply : Except TransportError Unit) => reply = .ok () ->
        Greeted after [] later)
      (perform (.greet Response.tunnelEstablished.render)) history := by
  obtain ⟨before, horigin⟩ := horigin
  refine always_perform h fun reply toClient fromOrigin hpossible => ?_
  obtain ⟨rfl, hbegun, hall⟩ := hpossible
  have hanswers : answers (history ++
      [⟨.greet Response.tunnelEstablished.render, reply, toClient, []⟩]) = [] := by
    simp [hsilent.answers, Occurrence.answer?]
  constructor
  · refine h.snoc (fun hconnect => by cases hconnect)
      (.tunnelled before later hanswers (by simp [horigin]) ?_)
    rw [toClient_snoc, hsilent.toClient, List.nil_append]
    exact hbegun.trans (List.prefix_append _ _)
  · intro hok
    refine ⟨hanswers, ?_, before, ?_⟩
    · rw [toClient_snoc, hsilent.toClient, hall hok, List.nil_append, List.append_nil]
    · simp [horigin]

private theorem always_handshake {fromClient : Bytes} {held : Held}
    (h : Conduct handler client history) (hsilent : history.Silent)
    (hholds : HoldsEnd history held) :
    Always (Conduct handler client)
      (fun after result => result = .ok () ->
        Greeted after held.pending held.later)
      (handshake fromClient held.pending) history := by
  refine (always_greet_head h hsilent hholds).then fun after reply hafter hpost => ?_
  cases reply with
  | error cause => exact always_pure hafter fun hok => by cases hok
  | ok =>
      have hpending : Always (Conduct handler client)
          (fun after reply => reply = .ok () -> Greeted after held.pending held.later)
          (passOn .greet id held.pending) after := by
        unfold passOn
        split
        · next hempty =>
          have hnil := List.isEmpty_iff.1 hempty
          have hgreeted := hpost rfl
          rw [hnil, List.nil_append] at hgreeted
          rw [hnil]
          exact always_pure hafter fun _ => hgreeted
        · exact (always_greet hafter (hpost rfl)).then
            fun after' _ hafter' hgreeted => always_pure hafter' hgreeted
      refine hpending.then fun after' reply hafter' hgreeted => ?_
      cases reply with
      | error cause => exact always_pure hafter' fun hok => by cases hok
      | ok =>
          by_cases hempty : fromClient.isEmpty = true
          · simp only [passOn, if_pos hempty]
            exact always_pure hafter' fun _ => hgreeted rfl
          · simp only [passOn, if_neg hempty]
            have hsend : (Action.send fromClient).isQuiet = true := rfl
            refine (always_quiet hafter' hsend).then fun last reply hlast hpost => ?_
            obtain ⟨_, toClient, fromOrigin, rfl, hpossible⟩ := hpost
            exact always_pure hlast fun _ => (hgreeted rfl).snoc_quiet
              (Occurrence.isQuiet_of_possible hpossible rfl) hpossible.2

/-- A tunnel continues where the handshake has stopped. -/
theorem always_relay {fromClient given later : Bytes}
    (h : Conduct handler client history) (hgreeted : Greeted history given later) :
    Always (Conduct handler client) (fun _ _ => True)
      (perform (.relay fromClient later)) history := by
  obtain ⟨hanswers, hclient, before, horigin⟩ := hgreeted
  refine always_perform h fun reply toClient fromOrigin hpossible => ⟨?_, trivial⟩
  obtain ⟨waits, _, rfl, htaken⟩ := hpossible
  have hgiven := (Tunnel.faithful_run Tunnel.faithful_fresh waits .origin).given_begins
  refine h.snoc (fun hconnect => by cases hconnect)
    (.tunnelled before (given ++ (later ++ fromOrigin)) ?_ ?_ ?_)
  · simp [hanswers, Occurrence.answer?]
  · simp [horigin]
  · rw [toClient_snoc, hclient, List.append_assoc]
    exact (List.prefix_append_right_inj _).2 ((List.prefix_append_right_inj _).2
      (hgiven.trans htaken))

private theorem always_bridge {fromClient fromOrigin : Held}
    (h : Conduct handler client history) (hsilent : history.Silent)
    (hholds : HoldsEnd history fromOrigin) :
    Always (Conduct handler client) (fun _ _ => True)
      (bridge fromClient fromOrigin) history := by
  refine (always_handshake h hsilent hholds).then fun after result hafter hpost => ?_
  cases result with
  | error cause =>
      refine (always_aside hafter rfl).then fun logged _ hlogged _ => ?_
      exact (always_aside hlogged rfl).mono fun _ _ _ _ => trivial
  | ok =>
      refine (always_quiet hafter rfl).then fun measured _ hmeasured hquiet => ?_
      obtain ⟨_, toClient, came, rfl, hpossible⟩ := hquiet
      have hgreeted := (hpost rfl).snoc_quiet
        (Occurrence.isQuiet_of_possible hpossible rfl) hpossible.2
      refine (always_relay hmeasured hgreeted).then fun relayed _ hrelayed _ => ?_
      refine (always_aside hrelayed rfl).then fun closed _ hclosed _ => ?_
      exact (always_aside hclosed rfl).mono fun _ _ _ _ => trivial

/-! ## Refusals -/

theorem refuse_of_fatal {method : String} {error : ServiceError}
    (h : error.isFatal = true) :
    refuse method error = perform (.log (.abandoned method error)) :=
  if_pos h

theorem refuse_of_not_fatal {method : String} {error : ServiceError}
    (h : ¬ error.isFatal = true) :
    refuse method error = (do
      perform (.log (.refused method error))
      let _ <- respond (Response.ofMessage error.status error.message)
      perform (.measure (.request method error.status.code))) :=
  if_neg h

theorem always_refuse {method : String} {error : ServiceError}
    (h : Conduct handler client history)
    (hanswerable : error.isFatal = true ∨ history.Silent) :
    Always (Conduct handler client) (fun _ _ => True) (refuse method error) history := by
  by_cases hfatal : error.isFatal = true
  · rw [refuse_of_fatal hfatal]
    exact (always_aside h rfl).mono fun _ _ _ _ => trivial
  · rw [refuse_of_not_fatal hfatal]
    have hsilent := hanswerable.resolve_left hfatal
    refine (always_aside h rfl).then fun logged _ hlogged hquiet => ?_
    refine (always_respond _ hlogged (hsilent.quietly hquiet)).then
      fun answered _ hanswered _ => ?_
    exact (always_aside hanswered rfl).mono fun _ _ _ _ => trivial

private theorem always_finish {method : String}
    {result : Except ServiceError (Status × CacheUse)}
    (h : Conduct handler client history) (hanswerable : Answerable history result) :
    Always (Conduct handler client) (fun _ _ => True) (finish method result) history := by
  cases result with
  | error e => exact always_refuse h (hanswerable e rfl)
  | ok served =>
      refine (always_aside h rfl).then fun logged _ hlogged _ => ?_
      exact (always_aside hlogged rfl).mono fun _ _ _ _ => trivial

/-! ## Whole connections -/

private theorem always_serveKind {request : Request} {held : Held} {kind : RequestKind}
    (h : Conduct handler client history) (hsilent : history.Silent)
    (hkind : RequestKind.ofMethod request.method = .ok kind)
    (hmay : ∀ after, history.Quietly after ->
      (handler.cacheEnabled = true -> request.method ≠ .connect ->
        WasMissed request after) -> MayConnect handler client after) :
    Always (Conduct handler client) (fun _ _ => True)
      (serveKind handler request held kind) history := by
  cases kind with
  | forward =>
      refine (always_forward h hsilent fun after hquiet hmissed =>
        hmay after hquiet fun henabled _ => hmissed henabled).then
          fun after result hafter hanswerable => ?_
      exact always_finish hafter hanswerable
  | tunnel =>
      have hconnect : request.method = .connect := by
        unfold RequestKind.ofMethod at hkind
        split at hkind <;> first | assumption | cases hkind
      have hnow := hmay history (.refl history) fun _ hne => absurd hconnect hne
      refine (always_openTunnel h hsilent hnow).then fun after result hafter hpost => ?_
      obtain ⟨hsilent', hholds⟩ := hpost
      cases result with
      | ok fromOrigin => exact always_bridge hafter hsilent' (hholds fromOrigin rfl)
      | error fault => exact always_refuse hafter (.inr hsilent')

private theorem method_mem_of_ofMethod {method : Method} {kind : RequestKind}
    (h : RequestKind.ofMethod method = .ok kind) :
    method ∈ [Method.get, .post, .head, .connect] := by
  unfold RequestKind.ofMethod at h
  split at h <;> first | decide | cases h

private theorem always_dispatch {request : Request} {held : Held}
    (h : Conduct handler client history) (hsilent : history.Silent)
    (hunconnected : ∀ o ∈ history, o.isConnect = false)
    (hread : WasRead handler client request history) :
    Always (Conduct handler client) (fun _ _ => True)
      (dispatch handler request held) history := by
  unfold dispatch
  dsimp only
  split
  · refine (always_aside h rfl).then fun after _ hafter hquiet => ?_
    exact always_refuse hafter (.inr (hsilent.quietly hquiet))
  · next hunblocked =>
    split
    · exact always_refuse h (.inr hsilent)
    · next hloop =>
      cases hkind : RequestKind.ofMethod request.method with
      | error e => exact always_refuse h (.inr hsilent)
      | ok kind =>
          refine always_serveKind h hsilent hkind fun after hquiet hmissed => ?_
          exact {
            unconnected := unconnected_quietly hunconnected hquiet
            admitted := ⟨request, {
              read := hread.quietly hquiet
              unblocked := by simpa using hunblocked
              noLoop := by simpa using hloop
              method := method_mem_of_ofMethod hkind
              missed := hmissed }⟩ }

theorem conduct_nil : Conduct handler client [] where
  connects := by
    intro before o after hsplit
    simp at hsplit
  reply := .silent ⟨rfl, rfl, rfl⟩

private theorem always_serve :
    Always (Conduct handler client) (fun _ _ => True) (serve handler client) [] := by
  refine (always_readRequest conduct_nil).then fun after result hafter hpost => ?_
  obtain ⟨hquiet, hread⟩ := hpost
  have hsilent : after.Silent := Silent.quietly ⟨rfl, rfl, rfl⟩ hquiet
  cases result with
  | error e => exact always_refuse hafter (.inr hsilent)
  | ok found =>
      obtain ⟨request, held⟩ := found
      exact always_dispatch hafter hsilent
        (unconnected_quietly (List.forall_mem_nil _) hquiet) (hread request held rfl)

/--
However a connection goes, and wherever it has come to: a connection is opened
once at most and only for a request that may be passed on, and the client was
sent a beginning of one reply at most.
-/
theorem conduct_of_reaches {handler : Handler} {client : String} {history : History}
    {rest : Serving Unit} (h : Reaches (serve handler client) history rest) :
    Conduct handler client history :=
  (always_serve.sound h).now

/-- What happens when a request is served that the cache has nothing for. -/
def missHistory : History :=
  (play (obliging (Bytes.ofText "GET / HTTP/1.1\r\nHost: [::1]:81\r\n\r\n")
    (Bytes.ofText "HTTP/1.1 204 No Content\r\n\r\n"))
    (serve (Handler.ofSettings {} .empty) "127.0.0.1")).1

/-- A connection is opened and a response written where nothing fails. -/
theorem conduct_of_miss :
    Conduct (Handler.ofSettings {} .empty) "127.0.0.1" missHistory ∧
      (missHistory.filter Occurrence.isConnect).length = 1 ∧
      missHistory.answers = [(Response.bare "HTTP/1.1" .noContent).render] :=
  ⟨conduct_of_reaches (reaches_play (possible_obliging _ _) _),
    by decide +kernel, by decide +kernel⟩

end Service

end Intermediary

import Intermediary.Proofs.Service.Asking
import Intermediary.Proofs.Service.Conduct

/-!
# What serving a request needs

Which actions are taken about a request is said once: most of them are given no
host, and the others are listed with all that they are given.  Whatever grants
these actions holds in every run of every part of the service.
-/

namespace Intermediary

open Program

namespace Action

/-- The actions that are given no host, and nothing that names one. -/
def isHostless : Action -> Bool
  | .receive _ _ | .answer _ | .greet _ | .relay _ _ | .lock _ | .unlock _
  | .measure _ | .log _ => true
  | .connect _ _ | .send _ | .lookup _ | .store _ _ => false

/-- Whether the client is told that its tunnel is open. -/
def isGreeting : Action -> Bool
  | .greet _ => true
  | _ => false

end Action

namespace Service

/-- All that is done about a request may be done. -/
structure Grants (may : List (Taken Action.Reply) -> Action -> Prop) (handler : Handler)
    (request : Request) : Prop where
  hostless : ∀ past action, action.isHostless = true -> may past action
  lookup : handler.cacheEnabled = true -> ∀ past, may past (.lookup request.fingerprint)
  store : handler.cacheEnabled = true -> ∀ past response,
    may past (.store request.fingerprint response)
  connect : ∀ past,
    may past (.connect (handler.route request).1 (handler.route request).2.1)
  send : request.method ≠ .connect -> ∀ past,
    may past (.send ((Forwarding.augment request).render (handler.route request).2.2))
  sendTunnel : ∀ parent, handler.parent = some parent -> ∀ past,
    may past (.send ((tunnelRequest request).render .absolute))
  /-- What the client sent ahead goes into the tunnel that was announced to it. -/
  sendAhead : ∀ past bytes, (∃ taken ∈ past, taken.action.isGreeting = true) ->
    may past (.send bytes)

variable {handler : Handler} {request : Request} {past : List (Taken Action.Reply)}
  {may : List (Taken Action.Reply) -> Action -> Prop} {α : Type}

/-! ## Programs that need no host -/

def Hostless (program : Serving α) (past : List (Taken Action.Reply)) : Prop :=
  Guards (fun _ action => action.isHostless = true) (fun _ _ => True) program past

theorem hostless_perform {action : Action} (haction : action.isHostless = true) :
    Hostless (Serving.perform action) past :=
  ⟨haction, fun _ => trivial⟩

private theorem hostless_readMessage {β : Type} (side : Side)
    (reader : Bytes -> Except MessageError (β × Bytes)) :
    Hostless (readMessage side reader) past :=
  guards_act rfl fun _ => guards_pure trivial

private theorem hostless_respond (response : Response) : Hostless (respond response) past := by
  refine guards_act rfl fun reply => ?_
  cases reply <;> exact guards_pure trivial

theorem hostless_respondWith (response : Response) (use : CacheUse) :
    Hostless (respondWith response use) past := by
  refine (hostless_respond response).then fun _ result _ => ?_
  cases result <;> exact guards_pure trivial

theorem hostless_refuse (method : String) (error : ServiceError) :
    Hostless (refuse method error) past := by
  by_cases hfatal : error.isFatal = true
  · rw [refuse_of_fatal hfatal]
    exact hostless_perform rfl
  · rw [refuse_of_not_fatal hfatal]
    refine guards_act rfl fun _ => (hostless_respond _).then fun _ _ _ => ?_
    exact hostless_perform rfl

theorem hostless_finish (method : String)
    (result : Except ServiceError (Status × CacheUse)) :
    Hostless (finish method result) past := by
  cases result with
  | error e => exact hostless_refuse method e
  | ok served => exact guards_act rfl fun _ => hostless_perform rfl

private theorem guards_passOn {write : Bytes -> Action}
    {reply : {bytes : Bytes} -> (write bytes).Reply -> Except TransportError Unit}
    {bytes : Bytes} (hwrite : may past (write bytes)) :
    Guards may (fun after _ => ∀ taken ∈ past, taken ∈ after)
      (passOn write reply bytes) past := by
  unfold passOn
  split
  · exact guards_pure fun _ hmem => hmem
  · exact guards_act hwrite fun _ => guards_pure fun _ hmem => List.mem_append_left _ hmem

/-! ## Passing requests on -/

namespace Grants

theorem ofHostless (h : Grants may handler request) {program : Serving α}
    (hprogram : Hostless program past) :
    Guards may (fun _ _ => True) program past :=
  hprogram.weaken h.hostless

theorem aside (h : Grants may handler request) {action : Action}
    {next : action.Reply -> Serving α} {post : List (Taken Action.Reply) -> α -> Prop}
    (haction : action.isHostless = true)
    (hnext : ∀ reply, Guards may post (next reply) (past ++ [⟨action, reply⟩])) :
    Guards may post (Serving.perform action >>= next) past :=
  guards_act (h.hostless past action haction) hnext

private theorem ask (h : Grants may handler request) {β : Type} {host : String} {port : Nat}
    {bytes : Bytes} (reader : Bytes -> Except MessageError (β × Bytes))
    (hconnect : may past (.connect host port)) (hsend : ∀ past, may past (.send bytes)) :
    Guards may (fun _ _ => True) (ask host port bytes reader) past := by
  refine guards_act hconnect fun connected => ?_
  cases connected with
  | error cause => exact guards_pure trivial
  | ok =>
      refine guards_act (hsend _) fun sent => ?_
      cases sent with
      | error cause => exact guards_pure trivial
      | ok =>
          refine (h.ofHostless (hostless_readMessage _ _)).then fun _ _ _ => ?_
          exact guards_pure trivial

theorem fetch (h : Grants may handler request) (hmethod : request.method ≠ .connect) :
    Guards may (fun _ _ => True) (fetch handler request) past := by
  rw [fetch_eq]
  refine (h.ask _ (h.connect past) (h.send hmethod)).then fun _ _ _ => ?_
  exact guards_pure trivial

private theorem forwardPast (h : Grants may handler request) (hmethod : request.method ≠ .connect) :
    Guards may (fun _ _ => True) (forwardPast handler request) past := by
  refine (h.fetch hmethod).then fun _ result _ => ?_
  cases result with
  | error e => exact guards_pure trivial
  | ok response => exact h.ofHostless (hostless_respondWith response .bypass)

private theorem forwardMiss (h : Grants may handler request) (hmethod : request.method ≠ .connect)
    (henabled : handler.cacheEnabled = true) {stripe : Nat} :
    Guards may (fun _ _ => True) (forwardMiss handler request stripe) past := by
  refine (h.fetch hmethod).then fun _ result _ => ?_
  cases result with
  | error e => exact guards_pure trivial
  | ok response =>
      refine h.aside rfl fun _ => guards_act (h.store henabled _ _) fun _ => ?_
      exact h.aside rfl fun _ => h.ofHostless (hostless_respondWith response .miss)

private theorem forward (h : Grants may handler request) (hmethod : request.method ≠ .connect) :
    Guards may (fun _ _ => True) (forward handler request) past := by
  unfold Service.forward
  split
  · next henabled =>
    refine h.aside rfl fun _ => guards_act (h.lookup henabled _) fun found => ?_
    cases found with
    | some response =>
        refine (h.ofHostless (hostless_respondWith response .hit)).then fun _ _ _ => ?_
        exact h.aside rfl fun _ => guards_pure trivial
    | none => exact h.aside rfl fun _ => h.forwardMiss hmethod henabled
  · exact h.forwardPast hmethod

/-! ## Tunnels -/

private theorem openThroughParent (h : Grants may handler request) {parent : Parent}
    (hparent : handler.parent = some parent) :
    Guards may (fun _ _ => True) (openThroughParent handler parent request) past := by
  have hconnect := h.connect past
  rw [Handler.route, hparent] at hconnect
  rw [openThroughParent_eq]
  refine (h.ask _ hconnect (h.sendTunnel parent hparent)).then fun _ _ _ => ?_
  exact guards_pure trivial

private theorem openTunnel (h : Grants may handler request) :
    Guards may (fun _ _ => True) (openTunnel handler request) past := by
  unfold Service.openTunnel
  split
  · next hparent => exact h.openThroughParent hparent
  · next hparent =>
    have hconnect := h.connect past
    rw [Handler.route, hparent] at hconnect
    refine guards_act hconnect fun connected => ?_
    cases connected <;> exact guards_pure trivial

/-- What goes through a tunnel goes there after its client was told that it is open. -/
theorem handshake (h : Grants may handler request) {fromClient fromOrigin : Bytes} :
    Guards may (fun _ _ => True) (handshake fromClient fromOrigin) past := by
  refine h.aside rfl fun greeted => ?_
  cases greeted with
  | error cause => exact guards_pure trivial
  | ok =>
      refine (guards_passOn (h.hostless _ _ rfl)).then fun after result hkept => ?_
      cases result with
      | error cause => exact guards_pure trivial
      | ok =>
          -- The greeting is among what was done before, whatever was passed on since.
          refine (guards_passOn (h.sendAhead _ _ ?_)).mono fun _ _ _ => trivial
          exact ⟨_, hkept _ (List.mem_append_right _ (List.mem_singleton_self _)), rfl⟩

private theorem bridge (h : Grants may handler request) {fromClient fromOrigin : Held} :
    Guards may (fun _ _ => True) (bridge fromClient fromOrigin) past := by
  refine h.handshake.then fun _ result _ => ?_
  cases result with
  | error cause =>
      exact h.aside rfl fun _ => h.ofHostless (hostless_perform rfl)
  | ok =>
      refine h.aside rfl fun _ => h.aside rfl fun _ => h.aside rfl fun _ => ?_
      exact h.ofHostless (hostless_perform rfl)

/-! ## Whole connections -/

private theorem serveKind (h : Grants may handler request) {held : Held} {kind : RequestKind}
    (hkind : RequestKind.ofMethod request.method = .ok kind) :
    Guards may (fun _ _ => True) (serveKind handler request held kind) past := by
  cases kind with
  | forward =>
      have hmethod : request.method ≠ .connect := by
        intro hconnect
        rw [hconnect] at hkind
        cases hkind
      refine (h.forward hmethod).then fun _ result _ => ?_
      exact h.ofHostless (hostless_finish _ result)
  | tunnel =>
      refine h.openTunnel.then fun _ result _ => ?_
      cases result with
      | ok fromOrigin => exact h.bridge
      | error fault => exact h.ofHostless (hostless_refuse _ _)

theorem dispatch (h : Grants may handler request) {held : Held} :
    Guards may (fun _ _ => True) (dispatch handler request held) past := by
  unfold Service.dispatch
  dsimp only
  split
  · exact h.aside rfl fun _ => h.ofHostless (hostless_refuse _ _)
  · split
    · exact h.ofHostless (hostless_refuse _ _)
    · cases hkind : RequestKind.ofMethod request.method with
      | error e => exact h.ofHostless (hostless_refuse _ _)
      | ok kind => exact h.serveKind hkind

end Grants

theorem hostless_dispatch {held : Held}
    (hblocked : handler.blocklist.contains request.host = true) :
    Hostless (dispatch handler request held) past := by
  unfold dispatch
  dsimp only
  rw [if_pos hblocked]
  exact guards_act rfl fun _ => hostless_refuse _ _

theorem inflow_read_of_read {α : Type} {reader : Bytes -> Except MessageError (α × Bytes)}
    {inflow : Inflow} {value : α} {rest : Bytes}
    (h : reader inflow.bytes = .ok (value, rest)) :
    ∃ held, Inflow.read reader inflow = .ok (value, held) := by
  unfold Inflow.read
  rw [h]
  exact ⟨_, rfl⟩

/-- Serving is reading a stream and then dispatching the request that was read. -/
theorem serve_eq (handler : Handler) (client : String) :
    serve handler client =
      .act (.receive .client (Inflow.decides (Request.read handler.limits client)))
        fun inflow =>
          match Inflow.read (Request.read handler.limits client) inflow with
          | .ok (request, held) => dispatch handler request held
          | .error .timedOut => refuse noMethod (.client .timedOut)
          | .error (.message e) => refuse noMethod (.ofMessageError e) := by
  refine congrArg (Program.act _) (funext fun inflow => ?_)
  cases hread : Inflow.read (Request.read handler.limits client) inflow with
  | ok found => simp only [Program.bind, pure, hread]
  | error fault => cases fault <;> simp only [Program.bind, pure, hread]

theorem runs_serve_iff (handler : Handler) {client : String} {inflow : Inflow}
    {held : Held}
    (hread : Inflow.read (Request.read handler.limits client) inflow = .ok (request, held))
    {enough : Bytes -> Bool} {later : List (Taken Action.Reply)} {rest : Serving Unit} :
    (serve handler client).Runs (⟨.receive .client enough, inflow⟩ :: later) rest ↔
      enough = Inflow.decides (Request.read handler.limits client) ∧
        (dispatch handler request held).Runs later rest := by
  rw [serve_eq]
  constructor
  · intro h
    obtain ⟨hnil, _⟩ | ⟨reply, later', hsplit, hlater⟩ := h.act
    · cases hnil
    · cases hsplit
      rw [hread] at hlater
      exact ⟨rfl, hlater⟩
  · rintro ⟨rfl, h⟩
    refine Runs.cons ?_
    rw [hread]
    exact h

end Service

end Intermediary

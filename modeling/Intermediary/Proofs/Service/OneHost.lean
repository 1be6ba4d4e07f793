import Intermediary.Proofs.Request.Reread
import Intermediary.Proofs.Service.Grants

/-!
# One host decides everything

A request names its host in its target, in its `Host` field, or in both, and in
many spellings.  What is read from it is one host and one port.  These are what
the blocklist is asked about, what the cache is asked for, where a connection is
opened, and what the bytes that are sent onward name, wherever they name a host.
With a parent, connections are opened to the parent and to nothing else.
-/

namespace Intermediary

open Text Program

/-! ## What the bytes of a request name -/

namespace Request

/--
The bytes of a request name one authority only: in their one `Host` field, in
their target where that has an authority, and when they are read.
-/
structure Names (sent : Request) (form : TargetForm) (authority : Authority)
    (value : String) : Prop where
  field : ∃ given, sent.header.named hostField = [⟨given, value⟩]
  resolves : Authority.ofText defaultPort value = .ok authority
  target : form = .absolute ∨ sent.method = .connect -> ∀ header,
    ∃ path, Target.resolve sent.method (sent.writtenTarget form) header =
      .ok ⟨authority, path⟩
  reads : ∀ limits client tail, Fits limits sent form -> ∃ again : Request,
    read limits client (sent.render form ++ tail) = .ok (again, tail) ∧
      again.host = authority.host ∧ again.port = authority.port

variable {request : Request}

private theorem ofText_authority (h : request.Sendable)
    (hhost : (Host.ofText request.writtenHost).map Host.text = .ok request.host)
    (default : Nat) :
    Authority.ofText default request.authority = .ok ⟨request.host, request.port⟩ := by
  have hwritten := isWritten_writtenHost h.target.authority.host
  have hport : request.port < portBound := h.target.authority.port
  unfold Authority.ofText authority
  rw [Authority.ofText?_written_port hwritten hhost hport]

private theorem ofText_hostHeader (h : request.Sendable)
    (hhost : (Host.ofText request.writtenHost).map Host.text = .ok request.host) :
    Authority.ofText defaultPort request.hostHeader =
      .ok ⟨request.host, request.port⟩ := by
  have hwritten := isWritten_writtenHost h.target.authority.host
  unfold hostHeader
  split
  · next hport =>
    unfold Authority.ofText
    rw [Authority.ofText?_written hwritten hhost, hport]
  · exact ofText_authority h hhost defaultPort

private theorem named_of_get? {header : Header} {value : String} (h : header.Sendable)
    (hvalue : header.get? hostField = some value) :
    ∃ given, header.named hostField = [⟨given, value⟩] :=
  h.named_of_get? (by decide) hvalue

private theorem names_of_readsBack (h : request.Sendable) (hreads : request.ReadsBack)
    (hhost : (Host.ofText request.writtenHost).map Host.text = .ok request.host)
    (form : TargetForm) {value : String}
    (hvalue : request.header.get? hostField = some value)
    (hresolves : Authority.ofText defaultPort value = .ok ⟨request.host, request.port⟩) :
    request.Names form ⟨request.host, request.port⟩ value where
  field := named_of_get? h.header hvalue
  resolves := hresolves
  target hform header := ⟨_, resolve_writtenTarget_alone h.target hhost hform header⟩
  reads limits client tail hfits := ⟨_, hreads form limits client tail hfits, rfl, rfl⟩

/-- What is sent on for a request names its host, in either form. -/
private theorem names_augment (h : request.Sendable) (hclient : '\n' ∉ request.client.toList)
    (hhost : (Host.ofText request.writtenHost).map Host.text = .ok request.host)
    (form : TargetForm) :
    (Forwarding.augment request).Names form ⟨request.host, request.port⟩
      request.hostHeader := by
  have hsendable := Forwarding.sendable_augment h hclient
  have hnamed := Forwarding.get?_host_augment request
  exact names_of_readsBack hsendable (readsBack_of_sendable hsendable hhost (.inr hnamed))
    hhost form hnamed (ofText_hostHeader h hhost)

end Request

namespace Service

open Request

private theorem sendable_tunnelRequest {request : Request} (h : request.Sendable) :
    (tunnelRequest request).Sendable where
  line := by
    have hread : readLine "CONNECT * HTTP/1.1" = .ok ⟨.connect, "*", "HTTP/1.1"⟩ := by
      decide +kernel
    exact ⟨"*", isWritable_of_readLine hread⟩
  target := ⟨h.target.authority, fun _ => rfl, fun hmethod => absurd rfl hmethod⟩
  header := by
    have hname : IsFieldName hostField :=
      isFieldName_of_clean (clean_of_all (by decide)) (by decide) (by decide)
    exact Header.sendable_set Header.sendable_empty hname
      (clean_authority h.target.authority.host).no_break
  payload := by
    have hnone : ∀ name, sameIgnoringCase hostField name = false ->
        (tunnelRequest request).header.get? name = none :=
      fun name hname => Header.get?_set_of_ne hname
    have hcoding := hnone transferEncodingField (by decide)
    have hlength := hnone contentLengthField (by decide)
    exact .absent (Header.isChunked_of_get?_none hcoding) (by simp [Header.contains, hlength])

/-- What a parent is asked for a tunnel names the host of the request. -/
theorem names_tunnelRequest {request : Request} (h : request.Sendable)
    (hhost : (Host.ofText request.writtenHost).map Host.text = .ok request.host) :
    (tunnelRequest request).Names .absolute ⟨request.host, request.port⟩
      request.authority := by
  have hsendable := sendable_tunnelRequest h
  have hnamed : (tunnelRequest request).header.get? hostField = some request.authority :=
    Header.get?_set_self _ _ _
  exact names_of_readsBack hsendable (readsBack_of_sendable hsendable hhost (.inl rfl))
    hhost .absolute hnamed (ofText_authority h hhost defaultPort)

end Service

/-! ## What may be done about a request -/

namespace Service

open Request

/--
What may be done about a request after what was done before: the cache and the
origin, or the parent before it, are given the host and the port of the request.
-/
inductive Permits (handler : Handler) (request : Request)
    (past : List (Taken Action.Reply)) : Action -> Prop where
  | hostless {action} (h : action.isHostless = true) : Permits handler request past action
  | lookup {print} (hhost : print.host = request.host) (hport : print.port = request.port) :
      Permits handler request past (.lookup print)
  | store {print response} (hhost : print.host = request.host)
      (hport : print.port = request.port) :
      Permits handler request past (.store print response)
  | connect (hparent : handler.parent = none) :
      Permits handler request past (.connect request.host request.port)
  | connectParent {parent} (hparent : handler.parent = some parent) :
      Permits handler request past (.connect parent.host parent.port)
  /-- A request is sent on, in the form that the parent or the origin expects. -/
  | send {sent : Request} {form : TargetForm} (hmethod : sent.method ≠ .connect)
      (hform : form = .absolute ↔ handler.parent.isSome = true)
      (hnames : sent.Names form ⟨request.host, request.port⟩ request.hostHeader) :
      Permits handler request past (.send (sent.render form))
  | sendTunnel {sent : Request} {parent} (hmethod : sent.method = .connect)
      (hparent : handler.parent = some parent)
      (hnames : sent.Names .absolute ⟨request.host, request.port⟩ request.authority) :
      Permits handler request past (.send (sent.render .absolute))
  /-- What the client sent ahead goes into the tunnel that was announced to it. -/
  | tunnelled {bytes} (h : ∃ taken ∈ past, taken.action.isGreeting = true) :
      Permits handler request past (.send bytes)

/-- A request whose bytes, and those of its tunnel request, name its host. -/
structure Named (request : Request) : Prop where
  forwarded : ∀ form, (Forwarding.augment request).Names form
    ⟨request.host, request.port⟩ request.hostHeader
  tunnel : (tunnelRequest request).Names .absolute ⟨request.host, request.port⟩
    request.authority

variable {handler : Handler} {request : Request}

/-- Whatever is done about a request that is named so is permitted. -/
theorem grants_permits (hnamed : Named request) :
    Grants (Permits handler request) handler request where
  hostless _ _ haction := .hostless haction
  lookup _ _ := .lookup rfl rfl
  store _ _ _ := .store rfl rfl
  connect past := by
    unfold Handler.route
    split
    · next hparent => exact .connectParent hparent
    · next hparent => exact .connect hparent
  send hmethod past := by
    refine .send hmethod ?_ (hnamed.forwarded _)
    unfold Handler.route
    split
    · next hparent => simp [hparent]
    · next hparent => simp [hparent]
  sendTunnel parent hparent past := .sendTunnel rfl hparent hnamed.tunnel
  sendAhead past bytes htold := .tunnelled htold

/-- The blocklist is asked about the host of the request, and about no other. -/
theorem dispatch_congr {blocklist : Blocklist} {held : Held}
    (h : blocklist.contains request.host = handler.blocklist.contains request.host) :
    dispatch { handler with blocklist := blocklist } request held =
      dispatch handler request held := by
  unfold dispatch
  dsimp only
  rw [h]
  rfl

/-- A run in which the client's stream was read as a request. -/
def Accepts (handler : Handler) (client : String) (request : Request)
    (run : List (Taken Action.Reply)) : Prop :=
  ∃ enough inflow later rest, run = ⟨.receive .client enough, inflow⟩ :: later ∧
    Request.read handler.limits client (Inflow.bytes inflow) = .ok (request, rest)

structure OneHost (handler : Handler) (client : String) (request : Request)
    (run : List (Taken Action.Reply)) : Prop where
  /-- A blocklist that says the same about this host makes no difference. -/
  asked : ∀ blocklist : Blocklist,
    blocklist.contains request.host = handler.blocklist.contains request.host ->
      ∃ rest, (serve { handler with blocklist := blocklist } client).Runs run rest
  unblocked : ∀ taken ∈ run, taken.action.isHostless = false ->
    handler.blocklist.contains request.host = false
  permitted : ∀ before taken after, run = before ++ taken :: after ->
    Permits handler request before taken.action

/--
Whatever stream is read as a request, however it names its host, that one host
decides everything that is done about it.  What is asked of the parser of hosts is
that the text it gave the host of this request stands for that host.
-/
theorem oneHost_of_runs {client : String} {run : List (Taken Action.Reply)}
    {rest : Serving Unit} (hruns : (serve handler client).Runs run rest)
    (haccepts : Accepts handler client request run) (hclient : '\n' ∉ client.toList)
    (hhost : (Host.ofText request.writtenHost).map Host.text = .ok request.host) :
    OneHost handler client request run := by
  obtain ⟨enough, inflow, later, after, rfl, hread⟩ := haccepts
  obtain ⟨held, hinflow⟩ := inflow_read_of_read hread
  obtain ⟨henough, hdispatch⟩ := (runs_serve_iff handler hinflow).1 hruns
  have hsendable := sendable_of_read hread
  have hnamed : Named request := {
    forwarded := names_augment hsendable ((client_of_read hread).symm ▸ hclient) hhost
    tunnel := names_tunnelRequest hsendable hhost }
  refine ⟨fun blocklist hsame => ?_, fun taken hmem hhost => ?_, ?_⟩
  · have hother : (dispatch { handler with blocklist := blocklist } request held).Runs
        later rest := by
      rw [dispatch_congr hsame]
      exact hdispatch
    exact ⟨rest, (runs_serve_iff { handler with blocklist := blocklist } hinflow).2
      ⟨henough, hother⟩⟩
  · -- A request to a blocked host is refused, and a refusal names no host.
    by_contra hblocked
    rw [Bool.not_eq_false] at hblocked
    rcases List.mem_cons.1 hmem with rfl | hmem
    · cases hhost
    · obtain ⟨before, after, rfl⟩ := List.append_of_mem hmem
      have hguards : Hostless (dispatch handler request held) [] :=
        hostless_dispatch hblocked
      have hhostless := hguards.may_of_runs hdispatch
      rw [hhost] at hhostless
      cases hhostless
  · intro before taken after hsplit
    cases before with
    | nil =>
        obtain ⟨rfl, rfl⟩ := List.cons.inj hsplit
        exact .hostless rfl
    | cons first before =>
        obtain ⟨rfl, rfl⟩ := List.cons.inj hsplit
        have hguards : Guards (Permits handler request) (fun _ _ => True)
            (dispatch handler request held) [⟨.receive .client enough, inflow⟩] :=
          (grants_permits hnamed).dispatch
        exact hguards.may_of_runs hdispatch

/-- A request that names one host in its target and two others beside it. -/
def spelledBytes : Bytes :=
  Bytes.ofText ("GET http://[0:0::1]:81/a HTTP/1.1\r\nHost: one.example\r\n" ++
    "host: two.example\r\n\r\n")

def spelledRequest : Request :=
  { Request.bare .get "::1" 81 "/a" with
    header := ⟨[⟨"Host", "one.example, two.example"⟩]⟩
    client := "203.0.113.7" }

def spelledRun : List (Taken Action.Reply) :=
  (complete (fun action => (Serving.obliging spelledBytes
      (Bytes.ofText "HTTP/1.1 204 No Content\r\n\r\n") action).1)
    (serve (Handler.ofSettings {} .empty) "203.0.113.7")).1

/-- The host in the target decides, and the cache and the origin are given it. -/
theorem oneHost_of_spelled :
    OneHost (Handler.ofSettings {} .empty) "203.0.113.7" spelledRequest spelledRun ∧
      (spelledRun.filter fun taken => ! taken.action.isHostless).length = 4 := by
  have hread : Request.read Limits.default "203.0.113.7" spelledBytes =
      .ok (spelledRequest, []) := by
    decide +kernel
  have hhost : (Host.ofText spelledRequest.writtenHost).map Host.text =
      .ok spelledRequest.host := by
    decide +kernel
  refine ⟨oneHost_of_runs (runs_complete _ _) ⟨_, _, _, _, rfl, hread⟩ (by decide) hhost, ?_⟩
  decide +kernel

end Service

end Intermediary

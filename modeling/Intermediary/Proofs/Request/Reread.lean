import Intermediary.Forwarding
import Intermediary.Proofs.Payload.Reread
import Intermediary.Proofs.Target.Reread

/-!
# Reading a request again

A request that was read, and what is made of it before it is passed on, can be
written in either form and read again.  What holds of every request that is read
is collected first, then shown to survive the changes to its header, and then to
be enough for the bytes to give the request again.
-/

namespace Intermediary

open Text Host

/-! ## The line of a request -/

private theorem Method.token_of_ofToken {word : String} {method : Method}
    (h : ofToken word = .ok method) : method.token = word := by
  unfold ofToken at h
  split at h
  · next found hfound =>
    cases h
    simpa using List.find?_some hfound
  · split at h
    · cases h
      rfl
    · cases h

namespace Request

def IsWord (word : String) : Prop :=
  Clean word.toList ∧ word ≠ ""

/-- A line of three words that are read as its method, target and protocol. -/
structure Line.IsWritable (line : Line) : Prop where
  method : Method.ofToken line.method.token = .ok line.method
  token : IsWord line.method.token
  target : IsWord line.target
  protocol : IsWord line.protocol
  begun : startsWith line.protocol protocolStart = true

theorem isWritable_of_readLine {text : String} {line : Line}
    (h : readLine text = .ok line) : line.IsWritable := by
  unfold readLine at h
  split at h
  · next token target protocol hwords =>
    have hword : ∀ word ∈ [token, target, protocol], IsWord word := by
      intro word hmem
      rw [← hwords] at hmem
      exact clean_of_mem_words hmem
    split at h
    · cases h
    · next hbegun =>
      split at h
      · cases h
      · next method hmethod =>
        cases h
        have htoken := Method.token_of_ofToken hmethod
        exact {
          method := htoken ▸ hmethod
          token := htoken ▸ hword token (by simp)
          target := hword target (by simp)
          protocol := hword protocol (by simp)
          begun := by simpa using hbegun }
  · cases h

private theorem readLine_of_isWritable {line : Line} (h : line.IsWritable) :
    readLine (line.method.token ++ " " ++ line.target ++ " " ++ line.protocol) =
      .ok line := by
  have hwords := words_of_three h.token h.target h.protocol
  simp only [readLine, hwords, h.begun, h.method, Bool.not_true, Bool.false_eq_true,
    if_false]

/-! ## What is known of a request that was read -/

def target (request : Request) : Target :=
  ⟨⟨request.host, request.port⟩, request.path⟩

/-- A request that can be written so that its bytes give it again. -/
structure Sendable (request : Request) : Prop where
  line : ∃ given, (Line.mk request.method given request.protocol).IsWritable
  target : request.target.IsWritable request.method
  header : request.header.Sendable
  payload : Framed request.header request.payload

/-- The parts of a request that was read. -/
theorem read_eq_ok {limits : Limits} {client : String} {stream rest : Bytes}
    {request : Request} (h : read limits client stream = .ok (request, rest)) :
    ∃ text line target header payload afterLine afterHeader,
      readLine text = .ok line ∧
      Header.read limits afterLine = .ok (header, afterHeader) ∧
      Target.resolve line.method line.target header = .ok target ∧
      readPayload limits header afterHeader = .ok (payload, rest) ∧
      request = assembled client line target header payload := by
  simp only [read, bind, Except.bind, pure, Except.pure] at h
  split at h
  · cases h
  split at h
  · cases h
  split at h
  · cases h
  next line hline =>
  split at h
  · cases h
  next found hheader =>
  split at h
  · cases h
  next target htarget =>
  split at h
  · cases h
  next filled hpayload =>
  cases h
  exact ⟨_, line, target, found.1, filled.1, _, found.2, hline, hheader, htarget,
    hpayload, rfl⟩

theorem sendable_of_read {limits : Limits} {client : String} {stream rest : Bytes}
    {request : Request} (h : read limits client stream = .ok (request, rest)) :
    request.Sendable := by
  obtain ⟨text, line, target, header, payload, _, _, hline, hheader, htarget, hpayload,
    rfl⟩ := read_eq_ok h
  have hwritable := isWritable_of_readLine hline
  exact {
    line := ⟨line.target, hwritable⟩
    target := Target.isWritable_of_resolve hwritable.target.1 htarget
    header := Header.sendable_read hheader
    payload := framed_of_readPayload hpayload }

theorem client_of_read {limits : Limits} {client : String} {stream rest : Bytes}
    {request : Request} (h : read limits client stream = .ok (request, rest)) :
    request.client = client := by
  obtain ⟨_, _, _, _, _, _, _, _, _, _, _, rfl⟩ := read_eq_ok h
  rfl

/-! ## How the host and the port of a request are written -/

theorem isWritten_writtenHost {request : Request}
    (h : AllHostChars request.host.toList) :
    Authority.IsWritten request.writtenHost.toList := by
  unfold writtenHost
  split
  · rw [String.toList_append, String.toList_append]
    exact .bracketed h
  · next hcolon =>
    rw [List.contains_iff_mem] at hcolon
    exact .plain h hcolon

theorem clean_authority {request : Request} (h : AllHostChars request.host.toList) :
    Clean request.authority.toList :=
  fun c hc => (Authority.chars_authority (isWritten_writtenHost h) request.port c hc).1

theorem clean_hostHeader {request : Request} (h : AllHostChars request.host.toList) :
    Clean request.hostHeader.toList := by
  unfold hostHeader
  split
  · exact (isWritten_writtenHost h).clean
  · exact clean_authority h

end Request

/-! ## Changes to the header -/

namespace Forwarding

open Request

/-- The changes touch three fields, and none of those that frame the payload. -/
theorem get?_augment_of_ne {request : Request} {name : String}
    (hproto : sameIgnoringCase forwardedProto name = false)
    (hfor : sameIgnoringCase forwardedFor name = false)
    (hhost : sameIgnoringCase hostField name = false) :
    (augment request).header.get? name = request.header.get? name := by
  simp only [augment, mark, addFields]
  rw [Header.get?_set_of_ne hhost, Header.get?_append_of_ne hfor,
    Header.get?_set_of_ne hproto]

/-- The fields that are added or replaced have names that can be sent. -/
theorem isFieldName_added :
    ∀ name ∈ [forwardedProto, forwardedFor, hostField], IsFieldName name := by
  intro name hmem
  simp only [List.mem_cons, List.not_mem_nil, or_false] at hmem
  rcases hmem with rfl | rfl | rfl <;>
    exact isFieldName_of_clean (clean_of_all (by decide)) (by decide) (by decide)

theorem sendable_addFields {header : Header} {client : String} (h : header.Sendable)
    (hclient : '\n' ∉ client.toList) : (addFields client header).Sendable := by
  have hproto : (header.set forwardedProto "http").Sendable :=
    Header.sendable_set h (isFieldName_added _ (by simp)) (by decide)
  exact Header.sendable_append hproto (isFieldName_added forwardedFor (by simp)) hclient

theorem sendable_setHost {header : Header} {host : String} (h : header.Sendable)
    (hhost : '\n' ∉ host.toList) : (header.set hostField host).Sendable :=
  Header.sendable_set h (isFieldName_added hostField (by simp)) hhost

theorem sendable_augment {request : Request} (h : request.Sendable)
    (hclient : '\n' ∉ request.client.toList) : (augment request).Sendable where
  line := h.line
  target := h.target
  header := by
    have hbreak := (clean_hostHeader h.target.authority.host).no_break
    exact sendable_setHost (sendable_addFields h.header hclient) hbreak
  payload :=
    h.payload.congr (get?_augment_of_ne (by decide) (by decide) (by decide))
      (get?_augment_of_ne (by decide) (by decide) (by decide))

theorem get?_host_augment (request : Request) :
    (augment request).header.get? hostField = some (augment request).hostHeader :=
  Header.get?_set_self _ _ _

end Forwarding

/-! ## What is written can be read -/

namespace Request

/-- The limits leave room for each line of a request, their number and its payload. -/
structure Fits (limits : Limits) (request : Request) (form : TargetForm) : Prop where
  line : (Bytes.ofText (request.line form) ++ Bytes.crlf).length ≤ limits.lineBytes
  fields : ∀ field ∈ request.header.fields,
    (Header.renderField field).length ≤ limits.lineBytes
  count : request.header.size ≤ limits.headerFields
  payload : request.payload.size ≤ limits.payloadBytes
  chunks : ChunkLinesFit limits request.header request.payload

/-- A request as it is read from the bytes in which it was written. -/
def reread (request : Request) (client : String) : Request :=
  { request with header := request.header.trimmed, client := client }

/-- Whatever is written behind a request, its bytes in either form give it again. -/
def ReadsBack (request : Request) : Prop :=
  ∀ form limits client tail, Fits limits request form ->
    read limits client (request.render form ++ tail) =
      .ok (request.reread client, tail)

variable {request : Request}

theorem isWord_writtenTarget (h : request.target.IsWritable request.method)
    (form : TargetForm) : IsWord (request.writtenTarget form) := by
  have hauthority := clean_authority h.authority.host
  have hne : ∀ {text : String} {c : Char}, c ∈ text.toList -> text ≠ "" := by
    rintro text c hmem rfl
    cases hmem
  unfold writtenTarget
  split
  · exact ⟨hauthority, hne (show ':' ∈ request.authority.toList by simp [authority])⟩
  · next hmethod =>
    obtain ⟨cs, hpath, hcs⟩ := h.path hmethod
    have hclean : Clean request.path.toList := by
      rw [show request.path.toList = '/' :: cs from hpath]
      exact List.forall_mem_cons.2 ⟨by decide, hcs⟩
    have hslash : '/' ∈ request.path.toList := by
      rw [show request.path.toList = '/' :: cs from hpath]
      exact List.mem_cons_self
    cases form with
    | origin => exact ⟨hclean, hne hslash⟩
    | absolute =>
        have hscheme : Clean "http://".toList := clean_of_all (by decide)
        refine ⟨?_, @hne _ '/' (by simp)⟩
        rw [String.toList_append, String.toList_append]
        exact (hscheme.append hauthority).append hclean

/-- A target with an authority of its own is read without the header. -/
theorem resolve_writtenTarget_alone (h : request.target.IsWritable request.method)
    (hhost : (Host.ofText request.writtenHost).map Host.text = .ok request.host)
    {form : TargetForm} (hform : form = .absolute ∨ request.method = .connect)
    (header : Header) :
    Target.resolve request.method (request.writtenTarget form) header =
      .ok request.target := by
  have hwritten := isWritten_writtenHost h.authority.host
  have hport : request.port < portBound := h.authority.port
  unfold writtenTarget
  split
  · next hconnect =>
    have hpath : request.path = "" := h.tunnel hconnect
    rw [hconnect, authority, Target.resolve_authority hwritten hhost hport, target, hpath]
  · next hmethod =>
    obtain ⟨cs, hpath, hclean⟩ := h.path hmethod
    obtain rfl := hform.resolve_right hmethod
    exact Target.resolve_absolute hwritten hhost hport hmethod hpath

/-- The target in a line is read as what the request is for. -/
theorem resolve_writtenTarget (h : request.target.IsWritable request.method)
    (hhost : (Host.ofText request.writtenHost).map Host.text = .ok request.host)
    {header : Header}
    (hfield : request.method = .connect ∨
      header.get? hostField = some request.hostHeader) (form : TargetForm) :
    Target.resolve request.method (request.writtenTarget form) header =
      .ok request.target := by
  by_cases halone : form = .absolute ∨ request.method = .connect
  · exact resolve_writtenTarget_alone h hhost halone header
  · rw [not_or] at halone
    obtain ⟨hform, hmethod⟩ := halone
    obtain rfl : form = .origin := by
      cases form with
      | origin => rfl
      | absolute => exact absurd rfl hform
    have hwritten := isWritten_writtenHost h.authority.host
    obtain ⟨cs, hpath, hclean⟩ := h.path hmethod
    have hslash : startsWith request.path "/" = true := by
      unfold startsWith
      rw [show request.path.toList = '/' :: cs from hpath]
      rfl
    rw [writtenTarget, if_neg hmethod]
    exact Target.resolve_path hwritten hhost h.authority.port hmethod hslash
      (hfield.resolve_left hmethod)

theorem says_line {form : TargetForm} (htoken : IsWord request.method.token)
    (htarget : IsWord (request.writtenTarget form)) (hprotocol : IsWord request.protocol) :
    Intermediary.Line.Says (Bytes.ofText (request.line form) ++ Bytes.crlf)
      (Bytes.ofText (request.line form)) := by
  refine ⟨?_, .inl rfl⟩
  rw [Bytes.lf_mem_ofText_iff]
  simp [line, htoken.1.no_break, htarget.1.no_break, hprotocol.1.no_break]

/-- A request that can be written is read again when its `Host` field is its own. -/
theorem readsBack_of_sendable (h : request.Sendable)
    (hhost : (Host.ofText request.writtenHost).map Host.text = .ok request.host)
    (hfield : request.method = .connect ∨
      request.header.get? hostField = some request.hostHeader) :
    request.ReadsBack := by
  intro form limits client tail hfits
  obtain ⟨given, hgiven⟩ := h.line
  have htarget := isWord_writtenTarget h.target form
  have hsaid := says_line hgiven.token htarget hgiven.protocol
  have hline : (Line.mk request.method (request.writtenTarget form)
      request.protocol).IsWritable := { hgiven with target := htarget }
  -- The blank line is no longer than the request line, which ends as it does.
  have hblank : 2 ≤ limits.lineBytes := by
    have hlength := hfits.line
    rw [List.length_append] at hlength
    exact Nat.le_trans (Nat.le_add_left 2 _) hlength
  obtain ⟨htake, htext⟩ := (Intermediary.Line.takeFirst_text_iff .requestLine .request
    (request.header.render ++ (Bytes.crlf ++ (request.payload.bytes ++ tail)))).2
      ⟨rfl, hsaid, hfits.line⟩
  have hread := readLine_of_isWritable hline
  have hheader := Header.read_render h.header hfits.fields hfits.count hblank
    (request.payload.bytes ++ tail)
  -- The value of the `Host` field has no blanks, so that it stays what it was.
  have hnamed : request.method = .connect ∨
      request.header.trimmed.get? hostField = some request.hostHeader := by
    refine hfield.imp_right fun hfound => ?_
    have hclean := clean_hostHeader h.target.authority.host
    rw [Header.get?_trimmed, hfound, Option.map_some, trim_of_trimmed hclean.trimmed]
  have hresolved := resolve_writtenTarget h.target hhost hnamed form
  have hchunks : ChunkLinesFit limits request.header.trimmed request.payload := by
    unfold ChunkLinesFit
    rw [Header.isChunked_trimmed]
    exact hfits.chunks
  have hpayload := readPayload_of_framed h.payload.trimmed hfits.payload hchunks tail
  have hbytes : request.render form ++ tail =
      (Bytes.ofText (request.line form) ++ Bytes.crlf) ++
        (request.header.render ++ (Bytes.crlf ++ (request.payload.bytes ++ tail))) := by
    simp only [render, List.append_assoc]
  simp only [read, bind, Except.bind, pure, Except.pure, hbytes, htake, htext]
  rw [line, hread]
  simp only [hheader, hresolved, hpayload]
  rfl

/--
Relaying a request loses nothing.  Whatever was read, the request that is passed
on for it is read again from its bytes in either form, and a tunnel request from
its own bytes.  What is asked of the parser of hosts is that the text it gave the
host of this request stands for that host.
-/
theorem readsBack_relayed {limits : Limits} {client : String} {stream rest : Bytes}
    (hread : read limits client stream = .ok (request, rest))
    (hclient : '\n' ∉ client.toList)
    (hhost : (Host.ofText request.writtenHost).map Host.text = .ok request.host) :
    (Forwarding.augment request).ReadsBack ∧
      (request.method = .connect -> request.ReadsBack) := by
  have hsendable := sendable_of_read hread
  have hnamed := client_of_read hread
  refine ⟨?_, fun hconnect => readsBack_of_sendable hsendable hhost (.inl hconnect)⟩
  exact readsBack_of_sendable (Forwarding.sendable_augment hsendable (hnamed ▸ hclient))
    hhost (.inr (Forwarding.get?_host_augment request))

/-- A request to an address with colons, for a port of its own. -/
def posted : Request :=
  { Request.bare .post "::1" 8080 "/a?b" with
    header := ⟨[⟨"content-length", "2"⟩, ⟨"Accept", "x, y"⟩]⟩
    payload := .ofBytes (Bytes.ofText "hi")
    client := "203.0.113.7" }

/-- The request is read, and read again from what is sent to another proxy. -/
theorem readsBack_relayed_posted :
    read .default "203.0.113.7" (Bytes.ofText ("POST http://[0::1]:8080/a?b HTTP/1.1\r\n" ++
      "content-length: 2\r\nAccept: x\r\nAccept:  y\r\n\r\nhi")) = .ok (posted, []) ∧
    read .default "127.0.0.1" ((Forwarding.augment posted).render .absolute ++ [0]) =
      .ok ((Forwarding.augment posted).reread "127.0.0.1", [0]) := by
  have hread : read .default "203.0.113.7"
      (Bytes.ofText ("POST http://[0::1]:8080/a?b HTTP/1.1\r\n" ++
        "content-length: 2\r\nAccept: x\r\nAccept:  y\r\n\r\nhi")) =
          .ok (posted, []) := by
    decide +kernel
  have hhost : (Host.ofText posted.writtenHost).map Host.text = .ok posted.host := by
    decide +kernel
  have hfits : Fits .default (Forwarding.augment posted) .absolute := {
    line := by decide
    fields := by decide
    count := by decide
    payload := by decide
    chunks := fun hchunked => absurd hchunked (by decide) }
  exact ⟨hread, (readsBack_relayed hread (by decide) hhost).1 .absolute .default
    "127.0.0.1" [0] hfits⟩

end Request

end Intermediary

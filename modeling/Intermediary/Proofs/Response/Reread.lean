import Intermediary.Proofs.Payload.Reread

/-!
# Reading a response again

A response that was read, from an origin or out of the cache, is written and read
by the next in line.  What holds of every response that is read is enough for its
bytes to give it again, and so it is for a refusal that is composed here.  The
reason phrase is not part of this: it is taken from the table each time.
-/

namespace Intermediary

open Text

/-! ## Where a payload is to be expected -/

private theorem Request.announcesPayload_of_read {limits : Limits} {header : Header}
    {stream rest : Bytes} {payload : Payload}
    (h : Payload.read limits header stream = .ok (payload, rest)) :
    announcesPayload header = true := by
  unfold Payload.read at h
  unfold announcesPayload
  split at h
  · next hchunked => rw [hchunked, Bool.true_or]
  · split at h
    · cases h
    · next hnumber => rw [contains_of_number hnumber, Bool.or_true]

namespace Response

variable {limits : Limits} {method : Method} {response : Response}

/-- What answers this method with this status ends with its header. -/
def IsBodiless (method : Method) (status : Status) : Prop :=
  method = .head ∨ status.forbidsPayload = true

/-- A payload that is found behind a head of this kind. -/
inductive Carries (method : Method) (status : Status) (header : Header) :
    Payload -> Prop where
  | nothing (hbodiless : IsBodiless method status) : Carries method status header .empty
  | framed {payload} (hbody : ¬ IsBodiless method status)
      (hannounced : Request.announcesPayload header = true)
      (hframed : Request.Framed header payload) : Carries method status header payload

theorem readPayload_eq_ok_iff {head : Response} {stream rest : Bytes} :
    readPayload limits method head stream = .ok (response, rest) ↔
      IsBodiless method head.status ∧ response = head ∧ rest = stream ∨
      ¬ IsBodiless method head.status ∧ ∃ payload,
        Payload.read limits head.header stream = .ok (payload, rest) ∧
          response = { head with payload := payload } := by
  unfold readPayload
  split
  · next hbodiless =>
    have hkind : IsBodiless method head.status := hbodiless
    simp [hkind, eq_comm]
  · next hbody =>
    have hkind : ¬ IsBodiless method head.status := hbody
    cases Payload.read limits head.header stream with
    | error e => simp [hkind]
    | ok found =>
        obtain ⟨payload, after⟩ := found
        simp [hkind, and_comm, eq_comm]

/-! ## The status line -/

/-- A protocol token that is cut off a status line as it was written. -/
structure IsProtocol (protocol : String) : Prop where
  begun : startsWith protocol "HTTP/" = true
  no_blank : ' ' ∉ protocol.toList
  no_break : '\n' ∉ protocol.toList

def IsWritableStatus (status : Status) : Prop :=
  100 ≤ status.code ∧ status.code < 1000

private theorem isProtocol_own : IsProtocol ownProtocol where
  begun := by decide
  no_blank := by decide
  no_break := by decide

private theorem isWritableStatus_of_statusCode? {text : String} {code : Nat}
    (h : statusCode? text = some code) : IsWritableStatus ⟨code⟩ := by
  unfold statusCode? at h
  split at h
  · cases h
  · split at h
    · split at h
      · split at h
        · next hrange =>
          cases h
          exact hrange
        · cases h
      · cases h
    · cases h

private theorem isWritable_of_readLine {text protocol : String} {status : Status}
    (hbreak : '\n' ∉ text.toList) (h : readLine text = .ok (protocol, status)) :
    IsProtocol protocol ∧ IsWritableStatus status := by
  unfold readLine at h
  split at h
  · cases h
  · next before after hcut =>
    obtain ⟨hsplit, hblank⟩ := cutAt_eq_some_iff.1 hcut
    split at h
    · cases h
    · next hbegun =>
      split at h
      · cases h
      · next code hcode =>
        cases h
        have hfront : '\n' ∉ protocol.toList := by
          intro hmem
          rw [hsplit] at hbreak
          exact hbreak (List.mem_append_left _ hmem)
        exact ⟨⟨by simpa using hbegun, hblank, hfront⟩,
          isWritableStatus_of_statusCode? hcode⟩

/-- The phrase behind a code does not matter to what the code is read as. -/
private theorem statusCode?_text {status : Status} (h : IsWritableStatus status) :
    statusCode? status.text = some status.code := by
  obtain ⟨hleast, hbelow⟩ := h
  have hwords := words_of_first
    ⟨clean_decimal status.code, decimal_ne_empty status.code⟩ status.reason
  have hlength : (Bytes.ofText (decimal status.code)).length = 3 := by
    rw [Bytes.length_ofText_of_ascii fun c hc => toNat_lt_of_mem_decimal hc]
    rw [decimal, String.toList_ofList]
    exact length_toDigits_of_three hleast hbelow
  have hnumber : numeral? 10 portBound (decimal status.code) = some status.code :=
    numeral?_decimal (Nat.lt_trans hbelow (by decide))
  simp only [statusCode?, Status.text, hwords, hlength, hnumber, hleast, hbelow, and_self,
    if_true]

private theorem readLine_line (hprotocol : IsProtocol response.protocol)
    (hstatus : IsWritableStatus response.status) :
    readLine response.line = .ok (response.protocol, response.status) := by
  have hcut : cutAt ' ' response.line =
      some (response.protocol, response.status.text) := by
    refine cutAt_eq_some_iff.2 ⟨?_, hprotocol.no_blank⟩
    simp [line]
  simp only [readLine, hcut, hprotocol.begun, statusCode?_text hstatus, Bool.not_true,
    Bool.false_eq_true, if_false]

private theorem no_break_reason (status : Status) : '\n' ∉ status.reason.toList := by
  unfold Status.reason
  split <;> decide

private theorem says_line (hprotocol : IsProtocol response.protocol) :
    Intermediary.Line.Says (Bytes.ofText response.line ++ Bytes.crlf)
      (Bytes.ofText response.line) := by
  refine ⟨?_, .inl rfl⟩
  rw [Bytes.lf_mem_ofText_iff]
  simp [line, Status.text, hprotocol.no_break, (clean_decimal _).no_break,
    no_break_reason]

/-! ## What is known of a response that was read -/

/-- A response that can be written so that its bytes give it again. -/
structure Sendable (method : Method) (response : Response) : Prop where
  protocol : IsProtocol response.protocol
  status : IsWritableStatus response.status
  final : response.isInterim = false
  header : response.header.Sendable
  payload : Carries method response.status response.header response.payload

private theorem exists_of_readHead {head : Response} {stream rest : Bytes}
    (h : readHead limits stream = .ok (head, rest)) :
    IsProtocol head.protocol ∧ IsWritableStatus head.status ∧ head.header.Sendable ∧
      head.payload = .empty := by
  unfold readHead at h
  split at h
  · cases h
  next first afterLine hfirst =>
  split at h
  · cases h
  next text htext =>
  split at h
  · cases h
  next protocol status hline =>
  split at h
  · cases h
  next header rest' hheader =>
  cases h
  obtain ⟨_, hsaid, _⟩ := (Intermediary.Line.takeFirst_text_iff _ _ _).1 ⟨hfirst, htext⟩
  have hbreak : '\n' ∉ text.toList :=
    fun hmem => hsaid.not_mem (Bytes.lf_mem_ofText_iff.2 hmem)
  obtain ⟨hprotocol, hstatus⟩ := isWritable_of_readLine hbreak hline
  exact ⟨hprotocol, hstatus, Header.sendable_read hheader, rfl⟩

private theorem carries_of_readPayload {head : Response} {stream rest : Bytes}
    (hempty : head.payload = .empty)
    (h : readPayload limits method head stream = .ok (response, rest)) :
    Carries method head.status head.header response.payload := by
  rcases readPayload_eq_ok_iff.1 h with ⟨hbodiless, rfl, rfl⟩ | ⟨hbody, payload, hread, rfl⟩
  · rw [hempty]
    exact .nothing hbodiless
  · have hannounced := Request.announcesPayload_of_read hread
    have hframed : Request.readPayload limits head.header stream =
        .ok (payload, rest) := by
      unfold Request.readPayload
      rw [if_pos hannounced, hread]
    exact .framed hbody hannounced (Request.framed_of_readPayload hframed)

/-- Interim responses are read like any other, and leave nothing behind. -/
theorem sendable_of_read {stream rest : Bytes}
    (h : read limits method stream = .ok (response, rest)) : response.Sendable method := by
  fun_induction read limits method stream with
  | case1 => cases h
  | case2 stream head rest' hhead hinterim ih => exact ih h
  | case3 stream head rest' hhead hfinal =>
      obtain ⟨hprotocol, hstatus, hheader, hempty⟩ := exists_of_readHead hhead
      have hcarries := carries_of_readPayload hempty h
      have hsame : response.protocol = head.protocol ∧ response.status = head.status ∧
          response.header = head.header := by
        rcases readPayload_eq_ok_iff.1 h with ⟨_, rfl, _⟩ | ⟨_, _, _, rfl⟩ <;>
          exact ⟨rfl, rfl, rfl⟩
      obtain ⟨hprotocol', hstatus', hheader'⟩ := hsame
      exact {
        protocol := hprotocol' ▸ hprotocol
        status := hstatus' ▸ hstatus
        final := by
          rw [Bool.not_eq_true] at hfinal
          simpa only [isInterim, hstatus'] using hfinal
        header := hheader' ▸ hheader
        payload := by rwa [hstatus', hheader'] }

/-! ## What is written can be read -/

/-- The limits leave room for each line of a response, their number and its payload. -/
structure Fits (limits : Limits) (response : Response) : Prop where
  line : (Bytes.ofText response.line ++ Bytes.crlf).length ≤ limits.lineBytes
  fields : ∀ field ∈ response.header.fields,
    (Header.renderField field).length ≤ limits.lineBytes
  count : response.header.size ≤ limits.headerFields
  payload : response.payload.size ≤ limits.payloadBytes
  chunks : Request.ChunkLinesFit limits response.header response.payload

/-- A response as it is read from the bytes in which it was written. -/
def reread (response : Response) : Response :=
  { response with header := response.header.trimmed }

/-- Whatever is written behind a response, its bytes give it again. -/
def ReadsBack (response : Response) (method : Method) : Prop :=
  ∀ limits tail, Fits limits response ->
    read limits method (response.render ++ tail) = .ok (response.reread, tail)

private theorem readHead_render (h : response.Sendable method) (hfits : Fits limits response)
    (rest : Bytes) :
    readHead limits (Bytes.ofText response.line ++ Bytes.crlf ++
        (response.header.render ++ (Bytes.crlf ++ rest))) =
      .ok ({ response.reread with payload := .empty }, rest) := by
  have hsaid := says_line h.protocol
  -- The blank line is no longer than the status line, which ends as it does.
  have hblank : 2 ≤ limits.lineBytes := by
    have hlength := hfits.line
    rw [List.length_append] at hlength
    exact Nat.le_trans (Nat.le_add_left 2 _) hlength
  obtain ⟨htake, htext⟩ := (Intermediary.Line.takeFirst_text_iff .statusLine .status
    (response.header.render ++ (Bytes.crlf ++ rest))).2 ⟨rfl, hsaid, hfits.line⟩
  have hread := readLine_line h.protocol h.status
  have hheader := Header.read_render h.header hfits.fields hfits.count hblank rest
  simp only [readHead, htake, htext, hread, hheader]
  rfl

/-- A payload is framed by the trimmed header as it was by the header. -/
theorem readPayload_render (h : response.Sendable method) (hfits : Fits limits response)
    (tail : Bytes) :
    readPayload limits method { response.reread with payload := .empty }
        (response.payload.bytes ++ tail) = .ok (response.reread, tail) := by
  rw [readPayload_eq_ok_iff]
  obtain ⟨protocol, status, header, payload⟩ := response
  cases h.payload with
  | nothing hbodiless => exact .inl ⟨hbodiless, rfl, rfl⟩
  | framed hbody hannounced hframed =>
      have hchunks : Request.ChunkLinesFit limits header.trimmed payload := by
        unfold Request.ChunkLinesFit
        rw [Header.isChunked_trimmed]
        exact hfits.chunks
      have hread :=
        Request.readPayload_of_framed hframed.trimmed hfits.payload hchunks tail
      have htrimmed : Request.announcesPayload header.trimmed = true := by
        unfold Request.announcesPayload
        rw [Header.isChunked_trimmed, Header.contains_trimmed]
        exact hannounced
      unfold Request.readPayload at hread
      rw [if_pos htrimmed] at hread
      exact .inr ⟨hbody, payload, hread, rfl⟩

theorem readsBack_of_sendable (h : response.Sendable method) :
    response.ReadsBack method := by
  intro limits tail hfits
  have hhead := readHead_render h hfits (response.payload.bytes ++ tail)
  have hbytes : response.render ++ tail =
      Bytes.ofText response.line ++ Bytes.crlf ++
        (response.header.render ++ (Bytes.crlf ++ (response.payload.bytes ++ tail))) := by
    simp only [render, List.append_assoc]
  have hfinal : isInterim { response.reread with payload := .empty } = false := h.final
  rw [read_eq, hbytes]
  simp only [StreamReader.andThen, hhead, hfinal, Bool.false_eq_true, if_false]
  exact readPayload_render h hfits tail

/-! ## Refusals -/

theorem sendable_ofMessage {status : Status} (hstatus : IsWritableStatus status)
    (hpayload : status.forbidsPayload = false) {text : String}
    (hlength : (Bytes.ofText text).length < wordBound) (hmethod : method ≠ .head) :
    (ofMessage status text).Sendable method where
  protocol := isProtocol_own
  status := hstatus
  final := by
    simp only [Status.forbidsPayload, Bool.or_eq_false_iff] at hpayload
    simp [isInterim, ofMessage, withPayload, bare, hpayload.1.1]
  header := by
    have hname : IsFieldName contentLengthField :=
      isFieldName_of_clean (clean_of_all (by decide)) (by decide) (by decide)
    exact Header.sendable_set Header.sendable_empty hname (clean_decimal _).no_break
  payload := by
    have hlengthField : (ofMessage status text).header.get? contentLengthField =
        some (decimal (Bytes.ofText text).length) := Header.get?_set_self _ _ _
    have hnumber : (ofMessage status text).header.number contentLengthField =
        .ok (Bytes.ofText text).length := by
      simp only [Header.number, hlengthField, numeral?_decimal hlength]
    have hcoding : (ofMessage status text).header.isChunked = false :=
      Header.isChunked_of_get?_none (Header.get?_set_of_ne (by decide))
    have hannounced : Request.announcesPayload (ofMessage status text).header = true := by
      unfold Request.announcesPayload
      rw [Request.contains_of_number hnumber, Bool.or_true]
    have hbody : ¬ IsBodiless method status := by
      simp [IsBodiless, hmethod, hpayload]
    exact .framed hbody hannounced (.sized hcoding hnumber)

/-- The one field of a message is the length of its text, which has no blanks. -/
theorem reread_ofMessage (status : Status) (text : String) :
    (ofMessage status text).reread = ofMessage status text := by
  have htrim := trim_of_trimmed (clean_decimal (Bytes.ofText text).length).trimmed
  simp [reread, ofMessage, withPayload, bare, Header.trimmed, Header.set, Header.empty,
    Header.upsert, Field.trimmed, htrim]

def refusals : List Status :=
  [.badRequest, .forbidden, .methodNotAllowed, .proxyFailure]

/--
Responses replay.  Whatever was read in answer to a method is read again from its
bytes, interim responses before it left out; and so is every refusal, as it was
composed, in answer to each method that has a payload in its answer.
-/
theorem readsBack_response :
    (∀ {limits : Limits} {method : Method} {stream rest : Bytes} {response : Response},
      read limits method stream = .ok (response, rest) -> response.ReadsBack method) ∧
    ∀ {status : Status} {text : String} {method : Method} {limits : Limits}
      (tail : Bytes), status ∈ refusals -> method ≠ .head ->
      (Bytes.ofText text).length < wordBound -> Fits limits (ofMessage status text) ->
      read limits method ((ofMessage status text).render ++ tail) =
        .ok (ofMessage status text, tail) := by
  refine ⟨fun hread => readsBack_of_sendable (sendable_of_read hread), ?_⟩
  intro status text method limits tail hmem hmethod hlength hfits
  have hstatus : ∀ status ∈ refusals,
      IsWritableStatus status ∧ status.forbidsPayload = false := by
    unfold IsWritableStatus
    decide
  obtain ⟨hwritable, hpayload⟩ := hstatus status hmem
  have hsendable := sendable_ofMessage hwritable hpayload hlength hmethod
  have hread := readsBack_of_sendable hsendable limits tail hfits
  rwa [reread_ofMessage] at hread

/-- A response in chunks, one of whose fields came in two lines. -/
def chunked : Response where
  protocol := "HTTP/1.1"
  status := .ok
  header := ⟨[⟨"Vary", "x, y"⟩, ⟨"Set-Cookie", "a"⟩, ⟨"Set-Cookie", "b"⟩,
    ⟨"Transfer-Encoding", "chunked"⟩]⟩
  payload := ⟨Bytes.ofText "2;q\r\nhi\r\n0\r\n\r\n", 2⟩

/-- The response is read behind an interim one, and read again from its bytes. -/
theorem readsBack_response_chunked :
    read .default .get (Bytes.ofText ("HTTP/1.1 103 Soon\r\n\r\nHTTP/1.1 200 Fine\n" ++
      "Vary: x\r\nSet-Cookie: a\r\nVary:  y\r\nSet-Cookie: b\r\n" ++
      "Transfer-Encoding: chunked\r\n\r\n2;q\r\nhi\r\n0\r\n\r\n")) = .ok (chunked, []) ∧
    read .default .get (chunked.render ++ [0]) = .ok (chunked.reread, [0]) ∧
    read .default .post ((ofMessage .forbidden "no").render ++ [0]) =
      .ok (ofMessage .forbidden "no", [0]) := by
  have hread : read .default .get
      (Bytes.ofText ("HTTP/1.1 103 Soon\r\n\r\nHTTP/1.1 200 Fine\n" ++
        "Vary: x\r\nSet-Cookie: a\r\nVary:  y\r\nSet-Cookie: b\r\n" ++
        "Transfer-Encoding: chunked\r\n\r\n2;q\r\nhi\r\n0\r\n\r\n")) =
          .ok (chunked, []) := by
    decide +kernel
  have hfits : Fits .default chunked := {
    line := by decide
    fields := by decide
    count := by decide
    payload := by decide
    chunks := Request.chunkLinesFit_of_size (by decide) }
  have hrefusal : Fits .default (ofMessage .forbidden "no") := {
    line := by decide
    fields := by decide
    count := by decide
    payload := by decide
    chunks := fun hchunked => absurd hchunked (by decide) }
  exact ⟨hread, readsBack_response.1 hread .default [0] hfits,
    readsBack_response.2 [0] (by decide) (by decide) (by decide) hrefusal⟩

end Response

end Intermediary

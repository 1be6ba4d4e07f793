import Intermediary.Proofs.Message.Layout
import Intermediary.Proofs.Request.Reread

/-!
# Where a request that is passed on ends

The header of a request is sent on as it was received, beside a payload that was
found by it.  A reader further on that accepts less finds the same payload, or
none: what decides where a payload ends is the same for both.
-/

namespace Intermediary

open Text

namespace Payload

/-- The text of a line that begins a chunk and has nothing but digits for its size. -/
def SaysDigits (text : String) : Prop :=
  ∃ before digits after extension size,
    text.toList = before ++ digits ++ after ++ extension ∧
      AllBlank before ∧ AllBlank after ∧ Spells 16 digits size ∧
        ∀ c ∈ extension.head?, c = ';'

def ChunkedInDigits (body : Bytes) : Prop :=
  ∃ chunkLines trailerLines sizes chunks trailer,
    Chunks chunkLines sizes chunks ∧ Trailer trailerLines trailer ∧
      body = chunks ++ trailer ∧
        ∀ line ∈ chunkLines, ∃ text, Line.Says line (Bytes.ofText text) ∧ SaysDigits text

private theorem ChunkedInDigits.exists_body {body : Bytes} (h : ChunkedInDigits body) :
    ∃ lines sizes, ChunkedBody lines sizes body := by
  obtain ⟨chunkLines, trailerLines, sizes, chunks, trailer, hchunks, htrailer, rfl, _⟩ := h
  exact ⟨_, _, .intro hchunks htrailer⟩

/-- The first line of such a body. -/
private theorem ChunkedInDigits.exists_first {body : Bytes} (h : ChunkedInDigits body) :
    ∃ line text rest, body = line ++ rest ∧ Line.Says line (Bytes.ofText text) ∧
      SaysDigits text := by
  obtain ⟨chunkLines, trailerLines, sizes, chunks, trailer, hchunks, _, rfl, hlines⟩ := h
  cases hchunks with
  | last =>
      obtain ⟨text, hsaid, hdigits⟩ := hlines _ List.mem_cons_self
      exact ⟨_, text, trailer, rfl, hsaid, hdigits⟩
  | more =>
      obtain ⟨text, hsaid, hdigits⟩ := hlines _ List.mem_cons_self
      exact ⟨_, text, _, List.append_assoc _ _ _, hsaid, hdigits⟩

private theorem not_saysDigits_of_plus {text : String} {cs : List Char}
    (hsplit : text.toList = '+' :: cs) : ¬ SaysDigits text := by
  rintro ⟨before, digits, after, extension, size, htext, hbefore, _, hspells, _⟩
  rw [hsplit] at htext
  cases before with
  | cons c before =>
      have hc : c = '+' := by simpa using (congrArg List.head? htext).symm
      have hblank := hbefore c List.mem_cons_self
      rw [hc] at hblank
      exact absurd hblank (by decide)
  | nil =>
      cases digits with
      | nil => exact hspells.1 rfl
      | cons c digits =>
          have hc : c = '+' := by simpa using (congrArg List.head? htext).symm
          rw [hc] at hspells
          exact not_spells_plus hspells

end Payload

namespace Text

private theorem Spells.plus_not_mem {base n : Nat} {cs : List Char} (h : Spells base cs n) :
    '+' ∉ cs := by
  intro hmem
  have hdigit := digit?_of_spells h hmem
  rw [digit?_plus] at hdigit
  cases hdigit

end Text

namespace Request

/-- The body that a strict reader finds behind a header; any other header is refused. -/
inductive Delimits (header : Header) (body : Bytes) : Prop where
  /-- Chunks decide, also where a length is given beside them. -/
  | chunked {field} (hcoding : header.named transferEncodingField = [field])
      (hchunked : header.isChunked = true) (hbody : Payload.ChunkedInDigits body)
  | sized {field} (hcoding : header.named transferEncodingField = [])
      (hlength : header.named contentLengthField = [field])
      (hdigits : Spells 10 field.value.toList body.length)
  | absent (hcoding : header.named transferEncodingField = [])
      (hlength : header.named contentLengthField = []) (hbody : body = [])

/-- A message whose end is given in one way, without a second field beside it. -/
def Single (wire : Bytes) : Prop :=
  ∃ header body, Laid wire header body ∧ Delimits header body ∧
    (header.isChunked = true -> header.named contentLengthField = [])

/-- What a strict reader takes for the first message of a stream, and what it leaves. -/
def Finds (stream body rest : Bytes) : Prop :=
  ∃ header, Laid stream header (body ++ rest) ∧ Delimits header body

/-- How the end of a request that was read is given in its header. -/
inductive Described (header : Header) (body : Bytes) : Prop where
  | chunked {field lines sizes} (hcoding : header.named transferEncodingField = [field])
      (hchunked : header.isChunked = true) (hbody : Payload.ChunkedBody lines sizes body)
  | sized {field sign digits} (hchunked : header.isChunked = false)
      (hlength : header.named contentLengthField = [field])
      (hvalue : field.value.toList = sign ++ digits) (hsign : sign = [] ∨ sign = ['+'])
      (hdigits : Spells 10 digits body.length)
  | absent (hchunked : header.isChunked = false)
      (hlength : header.named contentLengthField = []) (hbody : body = [])

/-- Nothing in a request that a strict reader would refuse or pass over. -/
structure Plain (header : Header) (body : Bytes) : Prop where
  coding : header.contains transferEncodingField = true ->
    header.isChunked = true ∧ header.contains contentLengthField = false
  length : ∀ value, header.get? contentLengthField = some value -> '+' ∉ value.toList
  sizes : header.isChunked = true -> Payload.ChunkedInDigits body

/-! ## The fields that give the end -/

private theorem contains_of_isChunked {header : Header} (h : header.isChunked = true) :
    header.contains transferEncodingField = true := by
  unfold Header.isChunked Header.items at h
  unfold Header.contains
  cases hvalue : header.get? transferEncodingField with
  | none => simp [hvalue] at h
  | some value => rfl

theorem isChunked_of_named_nil {header : Header}
    (h : header.named transferEncodingField = []) : header.isChunked = false :=
  Header.isChunked_of_get?_none (Header.get?_of_named_nil h)

private theorem exists_coding {header : Header} (h : header.Sendable)
    (hchunked : header.isChunked = true) :
    ∃ field, header.named transferEncodingField = [field] :=
  h.exists_named (by decide) (contains_of_isChunked hchunked)

/-- The one field of a length that was read: a numeral with its value. -/
private theorem exists_length {header : Header} (h : header.Sendable) {n : Nat}
    (hnumber : header.number contentLengthField = .ok n) :
    ∃ field sign digits, header.named contentLengthField = [field] ∧
      field.value.toList = sign ++ digits ∧ (sign = [] ∨ sign = ['+']) ∧
        Spells 10 digits n := by
  unfold Header.number at hnumber
  split at hnumber
  · cases hnumber
  · next value hvalue =>
    split at hnumber
    · next n' hn =>
      cases hnumber
      obtain ⟨sign, digits, hsplit, hsign, hspells, _⟩ := numeral?_eq_some_iff.1 hn
      obtain ⟨given, hnamed⟩ := h.named_of_get? (by decide) hvalue
      exact ⟨_, sign, digits, hnamed, hsplit, hsign, hspells⟩
    · cases hnumber

private theorem described_of_framed {header : Header} {payload : Payload} (h : header.Sendable)
    (hframed : Framed header payload) : Described header payload.bytes := by
  cases hframed with
  | absent hchunked hlength =>
      exact .absent hchunked ((h.named_nil_iff (by decide)).2 hlength) rfl
  | chunked hchunked hbody =>
      obtain ⟨field, hcoding⟩ := exists_coding h hchunked
      exact .chunked hcoding hchunked hbody
  | sized hchunked hnumber =>
      obtain ⟨field, sign, digits, hlength, hvalue, hsign, hspells⟩ := exists_length h hnumber
      exact .sized hchunked hlength hvalue hsign hspells

/-! ## What a strict reader finds -/

/-- Behind a header that was read, a strict reader finds no other body. -/
theorem Described.unique {header : Header} {body found rest after : Bytes}
    (h : Described header body) (hfound : Delimits header found)
    (heq : body ++ rest = found ++ after) : body = found ∧ rest = after := by
  cases hfound with
  | chunked _ hchunked hbody =>
      obtain ⟨lines, sizes, hgrammar⟩ := hbody.exists_body
      cases h with
      | chunked _ _ hown => exact hown.unique hgrammar heq
      | sized hnone => simp [hnone] at hchunked
      | absent hnone => simp [hnone] at hchunked
  | @sized field hcoding hlength hdigits =>
      have hnone := isChunked_of_named_nil hcoding
      cases h with
      | chunked _ hchunked => simp [hnone] at hchunked
      | @sized field' sign digits _ hagain hvalue hsign hspells =>
          rw [hlength] at hagain
          cases hagain
          -- The plus sign is no digit, so that both read the same digits.
          rw [hvalue] at hdigits
          have hsame : body.length = found.length := by
            rcases hsign with rfl | rfl
            · exact hspells.unique hdigits
            · exact absurd hdigits not_spells_plus
          exact List.append_inj heq hsame
      | absent _ hagain =>
          rw [hlength] at hagain
          cases hagain
  | absent hcoding hlength hempty =>
      have hnone := isChunked_of_named_nil hcoding
      subst hempty
      cases h with
      | chunked _ hchunked => simp [hnone] at hchunked
      | sized _ hagain =>
          rw [hlength] at hagain
          cases hagain
      | absent _ _ hbody =>
          subst hbody
          exact ⟨rfl, heq⟩

/-- A header that was read gives the end of its body in one way if it is plain. -/
theorem delimits_of_plain {header : Header} {body : Bytes} (h : header.Sendable)
    (hbody : Described header body) (hplain : Plain header body) :
    Delimits header body ∧
      (header.isChunked = true -> header.named contentLengthField = []) := by
  have hcoding : header.isChunked = false -> header.named transferEncodingField = [] := by
    intro hnone
    rw [h.named_nil_iff (by decide), ← Bool.not_eq_true]
    intro hcontains
    have hchunked := (hplain.coding hcontains).1
    rw [hnone] at hchunked
    cases hchunked
  constructor
  · cases hbody with
    | chunked hfield hchunked _ => exact .chunked hfield hchunked (hplain.sizes hchunked)
    | @sized field sign digits hnone hlength hvalue hsign hspells =>
        refine .sized (hcoding hnone) hlength ?_
        have hplus := hplain.length _ (Header.get?_of_named_singleton hlength)
        rw [hvalue] at hplus ⊢
        rcases hsign with rfl | rfl
        · exact hspells
        · exact absurd (List.mem_append_left _ (List.mem_singleton_self '+')) hplus
    | absent hnone hlength hempty => exact .absent (hcoding hnone) hlength hempty
  · intro hchunked
    rw [h.named_nil_iff (by decide)]
    exact (hplain.coding (contains_of_isChunked hchunked)).2

private theorem plain_of_delimits {header : Header} {body : Bytes} (hbody : Delimits header body)
    (hlone : header.isChunked = true -> header.named contentLengthField = []) :
    Plain header body := by
  have habsent : ∀ name, header.named name = [] -> header.contains name = false := by
    intro name hnil
    simp [Header.contains, Header.get?_of_named_nil hnil]
  cases hbody with
  | chunked _ hchunked hdigits =>
      have hnil := hlone hchunked
      exact {
        coding := fun _ => ⟨hchunked, habsent _ hnil⟩
        length := by
          intro value hvalue
          rw [Header.get?_of_named_nil hnil] at hvalue
          cases hvalue
        sizes := fun _ => hdigits }
  | sized hcoding hlength hdigits =>
      exact {
        coding := by simp [habsent _ hcoding]
        length := by
          intro value hvalue
          rw [Header.get?_of_named_singleton hlength] at hvalue
          cases hvalue
          exact hdigits.plus_not_mem
        sizes := by simp [isChunked_of_named_nil hcoding] }
  | absent hcoding hlength _ =>
      exact {
        coding := by simp [habsent _ hcoding]
        length := by simp [Header.get?_of_named_nil hlength]
        sizes := by simp [isChunked_of_named_nil hcoding] }

/-! ## Requests that are passed on -/

private theorem laid_render {request : Request} (h : request.Sendable) (form : TargetForm) :
    Laid (request.render form) request.header request.payload.bytes where
  writable := h.header.writable
  split := by
    obtain ⟨given, hgiven⟩ := h.line
    have htarget := isWord_writtenTarget h.target form
    have hsaid := says_line hgiven.token htarget hgiven.protocol
    exact ⟨request.line form, mt Bytes.lf_mem_ofText_iff.2 hsaid.not_mem, rfl⟩

theorem single_render_iff {request : Request} (h : request.Sendable) (form : TargetForm) :
    Single (request.render form) ↔ Plain request.header request.payload.bytes := by
  have hlaid := laid_render h form
  have hbody := described_of_framed h.header h.payload
  constructor
  · rintro ⟨header, body, hagain, hdelimits, hlone⟩
    obtain ⟨rfl, rfl⟩ := hlaid.unique hagain
    exact plain_of_delimits hdelimits hlone
  · intro hplain
    obtain ⟨hdelimits, hlone⟩ := delimits_of_plain h.header hbody hplain
    exact ⟨_, _, hlaid, hdelimits, hlone⟩

/-- The end of a request as it is written is the end of its payload. -/
structure EndsOnce (request : Request) (form : TargetForm) : Prop where
  /-- The header that was written is the one that is seen. -/
  laid : Laid (request.render form) request.header request.payload.bytes
  described : Described request.header request.payload.bytes
  single_iff : Single (request.render form) ↔ Plain request.header request.payload.bytes
  /-- Whatever is sent after it, a strict reader finds the payload, or refuses. -/
  found : ∀ tail body rest, Finds (request.render form ++ tail) body rest ->
    body = request.payload.bytes ∧ rest = tail

private theorem endsOnce_of_sendable {request : Request} (h : request.Sendable)
    (form : TargetForm) : request.EndsOnce form where
  laid := laid_render h form
  described := described_of_framed h.header h.payload
  single_iff := single_render_iff h form
  found := by
    rintro tail body rest ⟨header, hlaid, hdelimits⟩
    obtain ⟨rfl, hrest⟩ := ((laid_render h form).append tail).unique hlaid
    have hbody := described_of_framed h.header h.payload
    obtain ⟨hsame, htail⟩ := hbody.unique hdelimits hrest
    exact ⟨hsame.symm, htail.symm⟩

/--
No request hides in another.  What is written for a request that was read ends
where its payload does, for every reader that is no more lenient; its end is given
in one way only where it has one field for that, with digits alone.
-/
theorem endsOnce_of_read {limits : Limits} {client : String} {stream rest : Bytes}
    {request : Request} (hread : read limits client stream = .ok (request, rest))
    (form : TargetForm) :
    request.EndsOnce form ∧
      ('\n' ∉ client.toList -> (Forwarding.augment request).EndsOnce form) := by
  have hsendable := sendable_of_read hread
  refine ⟨endsOnce_of_sendable hsendable form, fun hclient => ?_⟩
  rw [← client_of_read hread] at hclient
  exact endsOnce_of_sendable (Forwarding.sendable_augment hsendable hclient) form

/-- A request with the given fields and the given bytes behind them. -/
def offered (fields : List Field) (body : String) : Request :=
  { Request.bare .post "::1" 80 "/" with
    header := ⟨fields⟩
    payload := ⟨Bytes.ofText body, 0⟩ }

/-- A length and chunks at once: the length would reach past the last chunk. -/
def doubled : Request :=
  offered [⟨"Content-Length", "64"⟩, ⟨"Transfer-Encoding", "chunked"⟩] "0\r\n\r\n"

/-- Read with its chunks, the request ends with them when it is passed on. -/
theorem endsOnce_of_read_doubled :
    read .default "" (doubled.render .absolute ++ [71]) = .ok (doubled, [71]) ∧
      '\n' ∉ "".toList ∧ (Forwarding.augment doubled).EndsOnce .origin := by
  have hread : read .default "" (doubled.render .absolute ++ [71]) = .ok (doubled, [71]) := by
    decide +kernel
  have hclient : '\n' ∉ "".toList := by decide
  exact ⟨hread, hclient, (endsOnce_of_read hread .origin).2 hclient⟩

/-- A request that is accepted, and passed on with an end that is not given in one way. -/
def Ambiguous (request : Request) : Prop :=
  read .default "" (request.render .absolute) = .ok (request, []) ∧
    ¬ Single (request.render .origin)

private theorem ambiguous_of_not_plain {request : Request}
    (hread : read .default "" (request.render .absolute) = .ok (request, []))
    (hplain : ¬ Plain request.header request.payload.bytes) : Ambiguous request := by
  refine ⟨hread, fun hsingle => hplain ?_⟩
  exact (single_render_iff (sendable_of_read hread) .origin).1 hsingle

private theorem not_plain_of_signed_chunk {header : Header} (hchunked : header.isChunked = true) :
    ¬ Plain header (Bytes.ofText "+0\r\n\r\n") := by
  intro hplain
  obtain ⟨line, text, rest, hsplit, hsaid, hdigits⟩ := (hplain.sizes hchunked).exists_first
  have hfirst : Line.Says (Bytes.ofText "+0" ++ Bytes.crlf) (Bytes.ofText "+0") :=
    ⟨by decide, .inl rfl⟩
  have hbody : Bytes.ofText "+0" ++ Bytes.crlf ++ Bytes.crlf = line ++ rest := hsplit
  obtain ⟨_, rfl, _⟩ := hfirst.text_unique hsaid hbody
  exact Payload.not_saysDigits_of_plus rfl hdigits

/-- Two fields for the end, a coding that gives none, and numbers that are not digits alone. -/
theorem ambiguous_forms :
    Ambiguous doubled ∧
      Ambiguous (offered [⟨"Transfer-Encoding", "gzip"⟩] "") ∧
      Ambiguous (offered [⟨"Content-Length", "+0"⟩] "") ∧
      Ambiguous (offered [⟨"Transfer-Encoding", "chunked"⟩] "+0\r\n\r\n") := by
  refine ⟨?_, ?_, ?_, ?_⟩ <;> apply ambiguous_of_not_plain (by decide +kernel)
  · intro hplain
    exact absurd (hplain.coding (by decide)).2 (by decide)
  · intro hplain
    exact absurd (hplain.coding (by decide)).1 (by decide)
  · intro hplain
    exact absurd (hplain.length "+0" (by decide)) (by decide)
  · exact not_plain_of_signed_chunk (by decide)

end Request

end Intermediary

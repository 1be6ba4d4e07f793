import Intermediary.Proofs.Request.Reread

/-!
# What a receiver takes for the lines of a header

Who receives a header cuts it into lines in a way of its own.  Since no name and no
value holds a line feed, there is one line for each field wherever lines end at line
feeds, alone or behind a carriage return.  Carriage returns inside a line are kept,
so a receiver that ends lines there too sees one line for each field only if there
are none.
-/

namespace Intermediary

open Text

/-- What a receiver takes for the end of a line. -/
inductive Receiver where
  /-- A carriage return with a line feed behind it, and nothing else. -/
  | strict
  /-- A line feed; a carriage return right before it is part of the ending. -/
  | lineFeed
  /-- A carriage return as well, whether or not a line feed is behind it. -/
  | carriage
  deriving DecidableEq, Repr

namespace Receiver

def endsAt (receiver : Receiver) (b : UInt8) : Bool :=
  match receiver with
  | .strict => false
  | .lineFeed => b == Bytes.lf
  | .carriage => b == Bytes.lf || b == Bytes.cr

/-- The lines that come to an end, when `line` is what there is of the first one. -/
def cut (receiver : Receiver) : Bytes -> Bytes -> List Bytes
  | _, [] => []
  | line, [b] => if receiver.endsAt b then [line] else []
  | line, b :: c :: rest =>
      if b = Bytes.cr ∧ c = Bytes.lf then line :: cut receiver [] rest
      else if receiver.endsAt b then line :: cut receiver [] (c :: rest)
      else cut receiver (line ++ [b]) (c :: rest)

/-- The lines of a run of bytes, without their endings. -/
def lines (receiver : Receiver) (bytes : Bytes) : List Bytes :=
  receiver.cut [] bytes

def Unbroken (receiver : Receiver) (bytes : Bytes) : Prop :=
  Bytes.lf ∉ bytes ∧ (receiver = .carriage -> Bytes.cr ∉ bytes)

variable {receiver : Receiver}

private theorem Unbroken.endsAt {bytes : Bytes} (h : receiver.Unbroken bytes) :
    ∀ b ∈ bytes, receiver.endsAt b = false := by
  intro b hb
  have hlf : b ≠ Bytes.lf := fun heq => h.1 (heq ▸ hb)
  cases hkind : receiver with
  | strict => rfl
  | lineFeed => simpa [Receiver.endsAt] using hlf
  | carriage =>
      have hcr : b ≠ Bytes.cr := fun heq => h.2 hkind (heq ▸ hb)
      simp [Receiver.endsAt, hlf, hcr]

theorem cut_unbroken {content : Bytes} (h : receiver.Unbroken content) (line rest : Bytes) :
    receiver.cut line (content ++ (Bytes.crlf ++ rest)) =
      (line ++ content) :: receiver.cut [] rest := by
  induction content generalizing line with
  | nil => simp [Bytes.crlf, cut]
  | cons b content ih =>
      have hcontent : receiver.Unbroken content :=
        ⟨fun hmem => h.1 (List.mem_cons_of_mem b hmem),
          fun hkind hmem => h.2 hkind (List.mem_cons_of_mem b hmem)⟩
      -- What follows `b` is not a line feed, so `b` does not begin an ending.
      obtain ⟨c, tail, htail, hc⟩ : ∃ c tail,
          content ++ (Bytes.crlf ++ rest) = c :: tail ∧ c ≠ Bytes.lf := by
        cases content with
        | nil => exact ⟨Bytes.cr, Bytes.lf :: rest, rfl, by decide⟩
        | cons c content =>
            exact ⟨c, _, rfl, fun heq => hcontent.1 (heq ▸ List.mem_cons_self)⟩
      have hnext := ih hcontent (line ++ [b])
      rw [htail] at hnext
      have hopen := h.endsAt b List.mem_cons_self
      rw [List.cons_append, htail, cut, if_neg fun hboth => hc hboth.2, hopen,
        if_neg Bool.false_ne_true, hnext, List.append_assoc, List.singleton_append]

/-- Where carriage returns end lines, no line holds one. -/
theorem not_mem_of_mem_cut (line bytes : Bytes) (hline : Bytes.cr ∉ line) :
    ∀ seen ∈ carriage.cut line bytes, Bytes.cr ∉ seen := by
  fun_induction cut carriage line bytes with
  | case1 => exact List.forall_mem_nil _
  | case2 => exact List.forall_mem_singleton.2 hline
  | case3 => exact List.forall_mem_nil _
  | case4 line b c rest _ ih =>
      exact List.forall_mem_cons.2 ⟨hline, ih List.not_mem_nil⟩
  | case5 line b c rest _ _ ih =>
      exact List.forall_mem_cons.2 ⟨hline, ih List.not_mem_nil⟩
  | case6 line b c rest _ hopen ih =>
      have hb : b ≠ Bytes.cr := by
        rintro rfl
        exact hopen rfl
      exact ih (by simp [hline, hb.symm])

end Receiver

namespace Header

/-! ## One line for each field -/

def NoCarriage (header : Header) : Prop :=
  ∀ field ∈ header.fields, '\r' ∉ field.name.toList ∧ '\r' ∉ field.value.toList

def writtenLines (header : Header) : List Bytes :=
  header.fields.map fun field => Bytes.ofText (lineText field)

/-- Receivers of a header see its fields and nothing else. -/
structure OneLineEach (header : Header) : Prop where
  /-- Nothing that is stored holds a line feed. -/
  unbroken : ∀ field ∈ header.fields,
    '\n' ∉ field.name.toList ∧ '\n' ∉ field.value.toList
  told : ∀ field ∈ header.fields, ofLine (lineText field) = .ok field.trimmed
  /-- Who ends lines at line feeds sees these lines. -/
  seen : ∀ receiver : Receiver, receiver ≠ .carriage ->
    receiver.lines header.render = header.writtenLines
  /-- Who ends them at carriage returns sees these lines if there are none inside. -/
  seen_iff : Receiver.carriage.lines header.render = header.writtenLines ↔ header.NoCarriage

theorem renderField_eq (field : Field) :
    renderField field = Bytes.ofText (lineText field) ++ Bytes.crlf := by
  simp [renderField, lineText, Bytes.ofText_append]

theorem cr_mem_lineText_iff {field : Field} :
    Bytes.cr ∈ Bytes.ofText (lineText field) ↔
      '\r' ∈ field.name.toList ∨ '\r' ∈ field.value.toList := by
  have hmem := @Bytes.mem_ofText_iff '\r' (lineText field) (by decide)
  have hcr : UInt8.ofNat '\r'.toNat = Bytes.cr := by decide
  rw [hcr] at hmem
  rw [hmem]
  simp [lineText]

private theorem lines_render {receiver : Receiver} {header : Header}
    (h : ∀ field ∈ header.fields, receiver.Unbroken (Bytes.ofText (lineText field))) :
    receiver.lines header.render = header.writtenLines := by
  obtain ⟨fields⟩ := header
  unfold Receiver.lines render writtenLines
  induction fields with
  | nil => rfl
  | cons field fields ih =>
      obtain ⟨hfield, hfields⟩ := List.forall_mem_cons.1 h
      rw [List.flatMap_cons, renderField_eq, List.append_assoc,
        Receiver.cut_unbroken hfield, List.nil_append, ih hfields, List.map_cons]

private theorem Sendable.oneLineEach {header : Header} (h : header.Sendable) :
    header.OneLineEach := by
  have hfeed : ∀ field ∈ header.fields, Bytes.lf ∉ Bytes.ofText (lineText field) := by
    intro field hfield
    exact (says_renderField (h.names field hfield) (h.values field hfield)).not_mem
  refine ⟨fun field hfield => ⟨(h.names field hfield).no_break, h.values field hfield⟩,
    fun field hfield => ofLine_lineText (h.names field hfield), ?_, ?_⟩
  · intro receiver hkind
    exact lines_render fun field hfield => ⟨hfeed field hfield, fun heq => absurd heq hkind⟩
  · constructor
    · intro heq field hfield
      have hline : Bytes.ofText (lineText field) ∈ Receiver.carriage.lines header.render := by
        rw [heq]
        exact List.mem_map_of_mem hfield
      have hnone := Receiver.not_mem_of_mem_cut [] _ List.not_mem_nil _ hline
      rw [cr_mem_lineText_iff, not_or] at hnone
      exact hnone
    · intro hnone
      refine lines_render fun field hfield => ⟨hfeed field hfield, fun _ => ?_⟩
      rw [cr_mem_lineText_iff, not_or]
      exact hnone field hfield

/-! ## The edits of a proxy -/

/-- An edit that a proxy makes to the header of a request. -/
inductive Edit where
  /-- Add a client to those for whom the request is forwarded. -/
  | forward (client : String)
  /-- Name the host that the request is for. -/
  | address (host : String)

namespace Edit

def perform (header : Header) : Edit -> Header
  | .forward client => Forwarding.addFields client header
  | .address host => header.set hostField host

def text : Edit -> String
  | .forward client => client
  | .address host => host

/-- What an edit brings in does not end a line anywhere. -/
def IsPlain (edit : Edit) : Prop :=
  '\n' ∉ edit.text.toList ∧ '\r' ∉ edit.text.toList

end Edit

def editedBy (header : Header) (edits : List Edit) : Header :=
  edits.foldl Edit.perform header

private theorem noCarriage_upsert {name fresh : String} {update : String -> String}
    {header : Header}
    (h : header.NoCarriage) (hname : '\r' ∉ name.toList) (hfresh : '\r' ∉ fresh.toList)
    (hupdate : ∀ value : String, '\r' ∉ value.toList -> '\r' ∉ (update value).toList) :
    NoCarriage ⟨upsert name fresh update header.fields⟩ := by
  unfold NoCarriage at h ⊢
  rcases upsert_cases name fresh update header.fields with
    ⟨before, field, after, hsplit, _, _, heq⟩ | ⟨_, heq⟩
  · rw [hsplit] at h
    simp only [heq, List.forall_mem_append, List.forall_mem_cons] at h ⊢
    exact ⟨h.1, ⟨h.2.1.1, hupdate _ h.2.1.2⟩, h.2.2⟩
  · simp only [heq, List.forall_mem_append, List.forall_mem_singleton]
    exact ⟨h, hname, hfresh⟩

private theorem noCarriage_perform {header : Header} {edit : Edit} (h : header.NoCarriage)
    (hedit : edit.IsPlain) : (edit.perform header).NoCarriage := by
  cases edit with
  | forward client =>
      have hproto : (header.set Forwarding.forwardedProto "http").NoCarriage :=
        noCarriage_upsert h (by decide) (by decide) fun _ _ => by decide
      refine noCarriage_upsert hproto (by decide) hedit.2 fun value hvalue => ?_
      unfold joined
      split
      · exact hedit.2
      · have hclient : '\r' ∉ client.toList := hedit.2
        simp [hvalue, hclient, listSeparator]
  | address host => exact noCarriage_upsert h (by decide) hedit.2 fun _ _ => hedit.2

private theorem sendable_perform {header : Header} {edit : Edit} (h : header.Sendable)
    (hedit : edit.IsPlain) : (edit.perform header).Sendable := by
  cases edit with
  | forward client => exact Forwarding.sendable_addFields h hedit.1
  | address host => exact Forwarding.sendable_setHost h hedit.1

private theorem editedBy_induction {motive : Header -> Prop} {header : Header} {edits : List Edit}
    (hedits : ∀ edit ∈ edits, edit.IsPlain) (hstart : motive header)
    (hstep : ∀ before (edit : Edit), edit.IsPlain -> motive before ->
      motive (edit.perform before)) : motive (header.editedBy edits) := by
  unfold editedBy
  induction edits generalizing header with
  | nil => exact hstart
  | cons edit edits ih =>
      obtain ⟨hedit, hedits⟩ := List.forall_mem_cons.1 hedits
      exact ih hedits (hstep header edit hedit hstart)

/-- What is done to a request before it is passed on are two plain edits. -/
theorem exists_edits_augment {limits : Limits} {client : String} {stream rest : Bytes}
    {request : Request} (h : Request.read limits client stream = .ok (request, rest))
    (hfeed : '\n' ∉ client.toList) (hcarriage : '\r' ∉ client.toList) :
    ∃ edits : List Edit, (∀ edit ∈ edits, edit.IsPlain) ∧
      (Forwarding.augment request).header = request.header.editedBy edits := by
  have hclean := Request.clean_hostHeader (Request.sendable_of_read h).target.authority.host
  have hhost : (Edit.address request.hostHeader).IsPlain :=
    ⟨hclean.no_break, fun hmem => absurd (hclean _ hmem) (by decide)⟩
  have hclient : (Edit.forward request.client).IsPlain := by
    rw [Request.client_of_read h]
    exact ⟨hfeed, hcarriage⟩
  refine ⟨[.forward request.client, .address request.hostHeader], ?_, rfl⟩
  exact List.forall_mem_cons.2 ⟨hclient, List.forall_mem_singleton.2 hhost⟩

/--
Line feeds are not stored, so whatever edits are made, receivers that end lines at
line feeds see one line for each field of a header that was read, and each line is
read as its field.  Receivers that end lines at carriage returns as well see the
same where no carriage return is stored, and no edit brings one in.  This holds of
the header of a request as it is passed on.
-/
theorem oneLineEach_of_read :
    (∀ {limits : Limits} {stream rest : Bytes} {header : Header},
      read limits stream = .ok (header, rest) ->
      ∀ edits : List Edit, (∀ edit ∈ edits, edit.IsPlain) ->
        (header.editedBy edits).OneLineEach ∧
          (header.NoCarriage -> (header.editedBy edits).NoCarriage)) ∧
    ∀ {limits : Limits} {client : String} {stream rest : Bytes} {request : Request},
      Request.read limits client stream = .ok (request, rest) ->
      '\n' ∉ client.toList -> '\r' ∉ client.toList ->
        (Forwarding.augment request).header.OneLineEach ∧
          (request.header.NoCarriage -> (Forwarding.augment request).header.NoCarriage) := by
  have hkept : ∀ {header : Header}, header.Sendable ->
      ∀ edits : List Edit, (∀ edit ∈ edits, edit.IsPlain) ->
        (header.editedBy edits).OneLineEach ∧
          (header.NoCarriage -> (header.editedBy edits).NoCarriage) := by
    intro header hsendable edits hedits
    have hedited : (header.editedBy edits).Sendable :=
      editedBy_induction hedits hsendable fun _ _ hedit hbefore =>
        sendable_perform hbefore hedit
    exact ⟨hedited.oneLineEach, fun hnone =>
      editedBy_induction hedits hnone fun _ _ hedit hbefore =>
        noCarriage_perform hbefore hedit⟩
  refine ⟨fun h => hkept (sendable_read h), fun h hfeed hcarriage => ?_⟩
  obtain ⟨edits, hedits, heq⟩ := exists_edits_augment h hfeed hcarriage
  rw [heq]
  exact hkept (Request.sendable_of_read h).header edits hedits

/-- A line with another one behind a carriage return inside it. -/
def hiddenLine : Bytes :=
  Bytes.ofText "A: x\rHost: b\r\n\r\n"

private theorem read_hiddenLine :
    read .default hiddenLine = .ok (⟨[⟨"A", "x\rHost: b"⟩]⟩, []) := by
  decide +kernel

/-- Before and after the edits, who ends lines at line feeds sees no hidden line. -/
theorem oneLineEach_of_hiddenLine :
    read .default hiddenLine = .ok (⟨[⟨"A", "x\rHost: b"⟩]⟩, []) ∧
      (∀ edit ∈ [Edit.forward "10.0.0.5", .address "[::1]"], edit.IsPlain) ∧
      Receiver.lineFeed.lines (render
          (editedBy ⟨[⟨"A", "x\rHost: b"⟩]⟩ [.forward "10.0.0.5", .address "[::1]"])) =
        ["A: x\rHost: b", "X-Forwarded-Proto: http", "X-Forwarded-For: 10.0.0.5",
          "Host: [::1]"].map Bytes.ofText ∧
      ∃ request,
        Request.read .default "10.0.0.5"
            (Bytes.ofText "GET http://[::1]/ HTTP/1.1\r\n" ++ hiddenLine) =
          .ok (request, []) ∧ (Forwarding.augment request).header.OneLineEach := by
  have hedits : ∀ edit ∈ [Edit.forward "10.0.0.5", .address "[::1]"], edit.IsPlain := by
    simp only [List.forall_mem_cons, Edit.IsPlain, Edit.text]
    decide
  obtain ⟨request, hrequest⟩ : ∃ request, Request.read .default "10.0.0.5"
      (Bytes.ofText "GET http://[::1]/ HTTP/1.1\r\n" ++ hiddenLine) =
        .ok (request, []) :=
    ⟨{ method := .get, host := "::1", port := 80, path := "/", protocol := "HTTP/1.1",
       header := ⟨[⟨"A", "x\rHost: b"⟩]⟩, payload := .empty, client := "10.0.0.5" },
      by decide +kernel⟩
  refine ⟨read_hiddenLine, hedits, ?_, request, hrequest, ?_⟩
  · rw [(oneLineEach_of_read.1 read_hiddenLine _ hedits).1.seen .lineFeed (by decide)]
    decide
  · exact (oneLineEach_of_read.2 hrequest (by decide) (by decide)).1

/-- A stored value can hold a carriage return, and a field that was not read behind it. -/
theorem hiddenLine_shows :
    read .default hiddenLine = .ok (⟨[⟨"A", "x\rHost: b"⟩]⟩, []) ∧
      '\r' ∈ "x\rHost: b".toList ∧
      Receiver.carriage.lines (render ⟨[⟨"A", "x\rHost: b"⟩]⟩) =
        ["A: x", "Host: b"].map Bytes.ofText ∧
      ofLine "Host: b" = .ok ⟨"Host", "b"⟩ ∧
      Header.get? ⟨[⟨"A", "x\rHost: b"⟩]⟩ "Host" = none :=
  ⟨read_hiddenLine, by decide, by decide, by decide, by decide⟩

end Header

end Intermediary

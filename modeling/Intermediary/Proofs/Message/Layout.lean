import Intermediary.Proofs.Header.Reread
import Intermediary.Proofs.Payload.Reread

/-!
# How a message is laid out

Bytes that are a first line, lines of a header, a blank line and a body are that
in one way only, whoever takes them apart: each line ends at its line feed, each
name at its colon, and a body in chunks where its grammar does.
-/

namespace Intermediary

open Text

namespace Line

/-- The line at the front of a stream is the only one there. -/
theorem Says.unique {line other said told rest after : Bytes} (h : Says line said)
    (hother : Says other told) (heq : line ++ rest = other ++ after) :
    line = other ∧ said = told ∧ rest = after := by
  have hsaid : Says line (content line) := by rwa [h.content_eq]
  have htold : Says other (content other) := by rwa [hother.content_eq]
  have htake : take (line.length + other.length) (line ++ rest) = .ok (line, rest) :=
    take_eq_ok_iff.2 ⟨rfl, hsaid, Nat.le_add_right _ _⟩
  have hagain : take (line.length + other.length) (other ++ after) = .ok (other, after) :=
    take_eq_ok_iff.2 ⟨rfl, htold, Nat.le_add_left _ _⟩
  rw [heq, hagain] at htake
  cases htake
  exact ⟨rfl, h.content_eq.symm.trans hother.content_eq, rfl⟩

/-- The same for lines of text. -/
theorem Says.text_unique {line other rest after : Bytes} {said told : String}
    (h : Says line (Bytes.ofText said)) (hother : Says other (Bytes.ofText told))
    (heq : line ++ rest = other ++ after) : line = other ∧ said = told ∧ rest = after := by
  obtain ⟨hline, hsaid, hrest⟩ := h.unique hother heq
  exact ⟨hline, Bytes.ofText_injective hsaid, hrest⟩

end Line

namespace Header

/-- A header whose fields can be written in lines, also where names are repeated. -/
structure Writable (header : Header) : Prop where
  names : ∀ field ∈ header.fields, IsFieldName field.name
  values : ∀ field ∈ header.fields, '\n' ∉ field.value.toList

theorem Sendable.writable {header : Header} (h : header.Sendable) : header.Writable where
  names := h.names
  values := h.values

private theorem field_eq_of_lineText {field other : Field} (hname : IsFieldName field.name)
    (hother : IsFieldName other.name) (h : lineText field = lineText other) :
    field = other := by
  have hsplit : ∀ field : Field, (lineText field).toList =
      field.name.toList ++ ':' :: (' ' :: field.value.toList) := by
    intro field
    simp [lineText]
  have hcut := cutAt_of_split (hsplit field) hname.no_colon
  rw [h, cutAt_of_split (hsplit other) hother.no_colon] at hcut
  simp only [Option.some.injEq, Prod.mk.injEq, String.ofList_toList] at hcut
  obtain ⟨hnames, hvalues⟩ := hcut
  have hvalue := congrArg String.toList hvalues
  simp only [String.toList_ofList, List.cons.injEq, true_and] at hvalue
  cases field with
  | mk name value =>
      cases other with
      | mk name' value' =>
          rw [Field.mk.injEq]
          exact ⟨hnames.symm, (String.toList_inj.1 hvalue).symm⟩

/-- Lines of a header up to the blank one come from one header only. -/
theorem unique_of_render {fields others : List Field} {rest after : Bytes}
    (h : Writable ⟨fields⟩) (hothers : Writable ⟨others⟩)
    (heq : fields.flatMap renderField ++ (Bytes.crlf ++ rest) =
      others.flatMap renderField ++ (Bytes.crlf ++ after)) :
    fields = others ∧ rest = after := by
  have hblank : Line.Says Bytes.crlf (Bytes.ofText "") := ⟨List.not_mem_nil, .inl rfl⟩
  induction fields generalizing others with
  | nil =>
      cases others with
      | nil => exact ⟨rfl, List.append_cancel_left heq⟩
      | cons other others =>
          have hline := says_renderField (hothers.names other List.mem_cons_self)
            (hothers.values other List.mem_cons_self)
          rw [List.flatMap_cons, List.append_assoc] at heq
          obtain ⟨_, htext, _⟩ := hblank.text_unique hline heq
          exact absurd htext.symm lineText_ne_empty
  | cons field fields ih =>
      have hline := says_renderField (h.names field List.mem_cons_self)
        (h.values field List.mem_cons_self)
      rw [List.flatMap_cons, List.append_assoc] at heq
      cases others with
      | nil =>
          obtain ⟨_, htext, _⟩ := hline.text_unique hblank heq
          exact absurd htext lineText_ne_empty
      | cons other others =>
          have hother := says_renderField (hothers.names other List.mem_cons_self)
            (hothers.values other List.mem_cons_self)
          rw [List.flatMap_cons, List.append_assoc] at heq
          obtain ⟨_, htext, hrest⟩ := hline.text_unique hother heq
          have hfield := field_eq_of_lineText (h.names field List.mem_cons_self)
            (hothers.names other List.mem_cons_self) htext
          obtain ⟨hfields, hafter⟩ := ih
            ⟨fun f hf => h.names f (List.mem_cons_of_mem field hf),
              fun f hf => h.values f (List.mem_cons_of_mem field hf)⟩
            ⟨fun f hf => hothers.names f (List.mem_cons_of_mem other hf),
              fun f hf => hothers.values f (List.mem_cons_of_mem other hf)⟩ hrest
          exact ⟨by rw [hfield, hfields], hafter⟩

/-! ## The fields of one name -/

private theorem find?_eq_head?_named (header : Header) (name : String) :
    header.find? name = (header.named name).head? :=
  List.head?_filter.symm

theorem get?_of_named_nil {header : Header} {name : String} (h : header.named name = []) :
    header.get? name = none := by
  simp [get?, find?_eq_head?_named, h]

theorem get?_of_named_singleton {header : Header} {name : String} {field : Field}
    (h : header.named name = [field]) : header.get? name = some field.value := by
  simp [get?, find?_eq_head?_named, h]

/-- A header that was read has no field of a name, or one. -/
theorem Sendable.named_nil_iff {header : Header} (h : header.Sendable) {name : String}
    (hname : sameIgnoringCase name setCookie = false) :
    header.named name = [] ↔ header.contains name = false := by
  rw [h.named_eq hname]
  simp [contains, get?]

theorem Sendable.exists_named {header : Header} (h : header.Sendable) {name : String}
    (hname : sameIgnoringCase name setCookie = false)
    (hcontains : header.contains name = true) : ∃ field, header.named name = [field] := by
  obtain ⟨value, hvalue⟩ := Option.isSome_iff_exists.1 hcontains
  obtain ⟨given, hnamed⟩ := h.named_of_get? hname hvalue
  exact ⟨_, hnamed⟩

end Header

/-- Bytes that are a first line, a header, a blank line and whatever follows. -/
structure Laid (wire : Bytes) (header : Header) (rest : Bytes) : Prop where
  writable : header.Writable
  split : ∃ text : String, '\n' ∉ text.toList ∧
    wire = Bytes.ofText text ++ Bytes.crlf ++ (header.render ++ (Bytes.crlf ++ rest))

namespace Laid

theorem append {wire rest : Bytes} {header : Header} (h : Laid wire header rest)
    (tail : Bytes) : Laid (wire ++ tail) header (rest ++ tail) where
  writable := h.writable
  split := by
    obtain ⟨text, htext, rfl⟩ := h.split
    exact ⟨text, htext, by simp only [List.append_assoc]⟩

/-- There is one way to take a message apart. -/
theorem unique {wire rest after : Bytes} {header other : Header}
    (h : Laid wire header rest) (hother : Laid wire other after) :
    header = other ∧ rest = after := by
  obtain ⟨text, htext, hwire⟩ := h.split
  obtain ⟨told, htold, hagain⟩ := hother.split
  have hsaid : ∀ text : String, '\n' ∉ text.toList ->
      Line.Says (Bytes.ofText text ++ Bytes.crlf) (Bytes.ofText text) := by
    intro text hbreak
    exact ⟨by rwa [Bytes.lf_mem_ofText_iff], .inl rfl⟩
  obtain ⟨_, _, hrest⟩ := (hsaid text htext).unique (hsaid told htold)
    (hwire.symm.trans hagain)
  obtain ⟨hfields, hafter⟩ := Header.unique_of_render h.writable hother.writable hrest
  exact ⟨congrArg Header.mk hfields, hafter⟩

end Laid

namespace Payload

/-- A body in chunks ends in one place only, whatever follows it. -/
theorem ChunkedBody.unique {lines others : List Bytes} {sizes counts : List Nat}
    {body found rest after : Bytes} (h : ChunkedBody lines sizes body)
    (hother : ChunkedBody others counts found) (heq : body ++ rest = found ++ after) :
    body = found ∧ rest = after := by
  let room : Limits := ⟨body.length + found.length, 0, body.length + found.length⟩
  have hread : readChunked room (body ++ rest) = .ok (⟨body, sizes.sum⟩, rest) :=
    readChunked_body h
      (fun line hline => Nat.le_trans (h.length_le line hline) (Nat.le_add_right _ _))
      (Nat.le_add_right _ _) rest
  have hagain : readChunked room (found ++ after) = .ok (⟨found, counts.sum⟩, after) :=
    readChunked_body hother
      (fun line hline => Nat.le_trans (hother.length_le line hline) (Nat.le_add_left _ _))
      (Nat.le_add_left _ _) after
  rw [heq, hagain] at hread
  simp only [Except.ok.injEq, Prod.mk.injEq, Payload.mk.injEq] at hread
  exact ⟨hread.1.1.symm, hread.2.symm⟩

end Payload

end Intermediary

import Intermediary.Proofs.Header.Fields
import Intermediary.Proofs.Message.Reading
import Intermediary.Proofs.Text.Encoding

/-!
# Reading a header again

A header that was read can be written and read again: its fields come back in
their order, each with the value that is left when its value is trimmed.
-/

namespace Intermediary

open Text StreamReader

/-- A field as it is read from the line in which it was written. -/
def Field.trimmed (field : Field) : Field :=
  { field with value := trim field.value }

/-- A header as it is read from the lines in which it was written. -/
def Header.trimmed (header : Header) : Header :=
  ⟨header.fields.map Field.trimmed⟩

namespace Header

/-! ## What is read can be written -/

private theorem ofLine_eq_ok {line : String} {field : Field} (h : ofLine line = .ok field)
    (hbreak : '\n' ∉ line.toList) :
    IsFieldName field.name ∧ '\n' ∉ field.value.toList := by
  unfold ofLine at h
  split at h
  · cases h
  · next before after hcut =>
    dsimp only at h
    split at h
    · cases h
    · next hne =>
      cases h
      obtain ⟨hsplit, hcolon⟩ := cutAt_eq_some_iff.1 hcut
      rw [hsplit] at hbreak
      have hbefore : '\n' ∉ before.toList := fun hmem => hbreak (by simp [hmem])
      have hafter : '\n' ∉ after.toList := fun hmem => hbreak (by simp [hmem])
      refine ⟨⟨?_, hne, ?_, ?_⟩, ?_⟩
      · rw [toList_trim]
        exact trimmed_trimChars before.toList
      · rw [toList_trim]
        exact fun hmem => hcolon (mem_trimChars hmem)
      · rw [toList_trim]
        exact fun hmem => hbefore (mem_trimChars hmem)
      · rw [toList_trim]
        exact fun hmem => hafter (mem_trimChars hmem)

private theorem sendable_addLine {limits : Limits} {header grown : Header} {line : String}
    (hheader : header.Sendable) (hbreak : '\n' ∉ line.toList)
    (h : header.addLine limits line = .ok grown) : grown.Sendable := by
  unfold addLine at h
  split at h
  · cases h
  · split at h
    · next field hfield =>
      cases h
      obtain ⟨hname, hvalue⟩ := ofLine_eq_ok hfield hbreak
      exact sendable_receive hheader hname hvalue
    · cases h

private theorem sendable_readInto {limits : Limits} {start header : Header}
    {stream rest : Bytes} (hstart : start.Sendable)
    (h : readInto limits start stream = .ok (header, rest)) : header.Sendable := by
  fun_induction readInto limits start stream with
  | case1 => cases h
  | case2 => cases h
  | case3 =>
      cases h
      exact hstart
  | case4 => cases h
  | case5 start stream line rest' hline text htext hne grown hgrown ih =>
      have hsaid := ((Line.takeWithin_text_iff _ _).1 ⟨hline, htext⟩).2.1
      have hbreak : '\n' ∉ text.toList :=
        fun hmem => hsaid.not_mem (Bytes.lf_mem_ofText_iff.2 hmem)
      exact ih (sendable_addLine hstart hbreak hgrown) h

/-- Every header that is read can be written so that its lines give it again. -/
theorem sendable_read {limits : Limits} {header : Header} {stream rest : Bytes}
    (h : read limits stream = .ok (header, rest)) : header.Sendable :=
  sendable_readInto sendable_empty h

/-! ## What is written can be read -/

def lineText (field : Field) : String :=
  field.name ++ ": " ++ field.value

theorem says_renderField {field : Field} (hname : IsFieldName field.name)
    (hvalue : '\n' ∉ field.value.toList) :
    Line.Says (renderField field) (Bytes.ofText (lineText field)) := by
  refine ⟨?_, .inl ?_⟩
  · rw [Bytes.lf_mem_ofText_iff]
    simp [lineText, hname.no_break, hvalue]
  · simp [renderField, lineText, Bytes.ofText_append]

theorem lineText_ne_empty {field : Field} : lineText field ≠ "" := by
  intro h
  have hlist := congrArg String.toList h
  simp [lineText] at hlist

theorem ofLine_lineText {field : Field} (hname : IsFieldName field.name) :
    ofLine (lineText field) = .ok field.trimmed := by
  have hsplit : (lineText field).toList =
      field.name.toList ++ ':' :: (' ' :: field.value.toList) := by
    simp [lineText]
  have hspace : AllBlank [' '] := by
    intro c hc
    rw [List.mem_singleton.1 hc]
    decide
  have hvalue : trim (String.ofList (' ' :: field.value.toList)) = trim field.value := by
    unfold trim
    rw [String.toList_ofList]
    rw [← List.singleton_append, trimChars_before hspace]
  unfold ofLine
  rw [cutAt_of_split hsplit hname.no_colon]
  simp only [String.ofList_toList, trim_of_trimmed hname.trimmed, hvalue,
    if_neg hname.ne_empty]
  rfl

/-- A field that is apart from all fields read before it is added behind them. -/
theorem receive_of_apart {header : Header} {field : Field}
    (h : ∀ other ∈ header.fields, NamesApart other.name field.name) :
    header.receive field.name field.value = ⟨header.fields ++ [field]⟩ := by
  unfold receive
  split
  · rfl
  · next hcookie =>
    unfold append
    rw [upsert_of_absent]
    intro other hother
    by_cases hsame : sameIgnoringCase other.name field.name = true
    · have hset := h other hother hsame
      rw [sameIgnoringCase_comm] at hsame
      exact absurd (sameIgnoringCase_trans hsame hset) hcookie
    · simpa using hsame

theorem readInto_line {limits : Limits} {header : Header} {line rest : Bytes}
    {text : String} (hsaid : Line.Says line (Bytes.ofText text))
    (hlength : line.length ≤ limits.lineBytes) :
    readInto limits header (line ++ rest) =
      if text = "" then .ok (header, rest)
      else
        match header.addLine limits text with
        | .error e => .error e
        | .ok grown => readInto limits grown rest := by
  obtain ⟨htake, htext⟩ :
      Line.takeWithin .headerLine limits.lineBytes (line ++ rest) = .ok (line, rest) ∧
        Line.text .header line = .ok text :=
    (Line.takeWithin_text_iff .headerLine .header).2 ⟨rfl, hsaid, hlength⟩
  rw [readInto_eq]
  simp only [andThen, htake, htext, check, Except.map]
  split
  · rfl
  · cases header.addLine limits text <;> rfl

private theorem readInto_render {limits : Limits} {fields : List Field} {start : Header}
    (hnames : ∀ field ∈ fields, IsFieldName field.name)
    (hvalues : ∀ field ∈ fields, '\n' ∉ field.value.toList)
    (hapart : ((start.fields ++ fields).map Field.name).Pairwise NamesApart)
    (hlines : ∀ field ∈ fields, (renderField field).length ≤ limits.lineBytes)
    (hcount : start.fields.length + fields.length ≤ limits.headerFields)
    (hblank : 2 ≤ limits.lineBytes) (rest : Bytes) :
    readInto limits start (fields.flatMap renderField ++ (Bytes.crlf ++ rest)) =
      .ok (⟨start.fields ++ fields.map Field.trimmed⟩, rest) := by
  -- The fields read so far stay apart from those that are still to come.
  induction fields generalizing start with
  | nil =>
      have hsaid : Line.Says Bytes.crlf (Bytes.ofText "") :=
        ⟨List.not_mem_nil, .inl rfl⟩
      rw [List.flatMap_nil, List.nil_append, readInto_line hsaid hblank, if_pos rfl,
        List.map_nil, List.append_nil]
  | cons field fields ih =>
      obtain ⟨hname, hnames⟩ := List.forall_mem_cons.1 hnames
      obtain ⟨hvalue, hvalues⟩ := List.forall_mem_cons.1 hvalues
      obtain ⟨hline, hlines⟩ := List.forall_mem_cons.1 hlines
      rw [List.length_cons] at hcount
      have hroom : ¬ limits.headerFields ≤ start.size := by
        unfold size
        omega
      have hbefore : ∀ other ∈ start.fields,
          NamesApart other.name field.trimmed.name := by
        intro other hother
        rw [List.map_append, List.pairwise_append] at hapart
        exact hapart.2.2 _ (List.mem_map_of_mem hother) _ (by simp [Field.trimmed])
      have hadd : start.addLine limits (lineText field) =
          .ok ⟨start.fields ++ [field.trimmed]⟩ := by
        unfold addLine
        rw [if_neg hroom, ofLine_lineText hname]
        simp only [receive_of_apart hbefore]
      have hapart' : ((start.fields ++ [field.trimmed] ++ fields).map
          Field.name).Pairwise NamesApart := by
        simpa [Field.trimmed] using hapart
      have hrest := @ih ⟨start.fields ++ [field.trimmed]⟩ hnames hvalues hapart' hlines
        (by rw [List.length_append, List.length_singleton]; omega)
      rw [List.flatMap_cons, List.append_assoc,
        readInto_line (says_renderField hname hvalue) hline,
        if_neg lineText_ne_empty, hadd]
      simpa using hrest

/-- The lines of a sendable header give its fields again, with trimmed values. -/
theorem read_render {limits : Limits} {header : Header} (h : header.Sendable)
    (hlines : ∀ field ∈ header.fields, (renderField field).length ≤ limits.lineBytes)
    (hcount : header.size ≤ limits.headerFields) (hblank : 2 ≤ limits.lineBytes)
    (rest : Bytes) :
    read limits (header.render ++ (Bytes.crlf ++ rest)) = .ok (header.trimmed, rest) :=
  @readInto_render limits header.fields empty h.names h.values h.apart hlines
    (by simpa [size, empty] using hcount) hblank rest

end Header

end Intermediary

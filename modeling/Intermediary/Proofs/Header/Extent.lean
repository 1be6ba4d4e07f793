import Intermediary.Proofs.Header.Reread

/-!
# How much is read of a header

The lines that are read as a header, exactly.  What is bounded is the number of
fields that they have given so far, before each further line.  A line whose
field is joined to an earlier one does not add to it, so that a header may have
as many more lines than the limit allows as there are lines that are joined.
-/

namespace Intermediary

open Text

namespace Header

/-! ## The size of a header -/

/-- Whether a received line is joined to a field that is already there. -/
def joins (header : Header) (name : String) : Bool :=
  !sameIgnoringCase name setCookie && header.contains name

def receiveAll (header : Header) (fields : List Field) : Header :=
  fields.foldl (fun grown field => grown.receive field.name field.value) header

/-- How many of the lines that are received are joined to earlier fields. -/
def joinedCount (header : Header) : List Field -> Nat
  | [] => 0
  | field :: rest =>
      (header.joins field.name).toNat +
        (header.receive field.name field.value).joinedCount rest

theorem contains_eq_any (header : Header) (name : String) :
    header.contains name = header.fields.any (sameIgnoringCase ·.name name) := by
  rw [Bool.eq_iff_iff]
  simp [contains, get?, find?, List.find?_isSome]

theorem names_append (header : Header) (name item : String) :
    (header.append name item).fields.map Field.name =
      header.fields.map Field.name ++ if header.contains name then [] else [name] := by
  unfold append
  rw [contains_eq_any]
  rcases upsert_cases name item (joined · item) header.fields with
    ⟨before, field, after, hsplit, _, hfield, heq⟩ | ⟨habsent, heq⟩
  · rw [heq, hsplit]
    simp [hfield]
  · have hany : header.fields.any (sameIgnoringCase ·.name name) = false :=
      List.any_eq_false.2 fun other hother => by simp [habsent other hother]
    rw [heq, hany]
    simp

/-- A line adds its name unless it is joined to a field. -/
theorem names_receive (header : Header) (name value : String) :
    (header.receive name value).fields.map Field.name =
      header.fields.map Field.name ++ if header.joins name then [] else [name] := by
  unfold receive joins
  split
  · next hcookie => simp [push, hcookie]
  · next hcookie =>
    rw [names_append]
    simp [hcookie]

/-- A line adds a field unless it is joined to one. -/
theorem size_receive (header : Header) (name value : String) :
    (header.receive name value).size + (header.joins name).toNat = header.size + 1 := by
  have hlength := congrArg List.length (names_receive header name value)
  simp only [List.length_append, List.length_map] at hlength
  unfold size
  rw [hlength]
  cases header.joins name <;> rfl

private theorem size_le_receive (header : Header) (name value : String) :
    header.size ≤ (header.receive name value).size := by
  have hsize := size_receive header name value
  have hjoins := Bool.toNat_le (header.joins name)
  omega

private theorem size_le_receiveAll (header : Header) (fields : List Field) :
    header.size ≤ (header.receiveAll fields).size := by
  induction fields generalizing header with
  | nil => exact Nat.le_refl _
  | cons field rest ih =>
      exact Nat.le_trans (size_le_receive header field.name field.value) (ih _)

/-- Every line adds a field or is joined to one. -/
theorem size_receiveAll (header : Header) (fields : List Field) :
    (header.receiveAll fields).size + header.joinedCount fields =
      header.size + fields.length := by
  induction fields generalizing header with
  | nil => rfl
  | cons field rest ih =>
      have hfirst := size_receive header field.name field.value
      have hrest := ih (header.receive field.name field.value)
      simp only [receiveAll, List.foldl_cons, joinedCount, List.length_cons] at hrest ⊢
      omega

/-! ## The lines of a header -/

structure IsFieldLine (limits : Limits) (line : Bytes) (field : Field) : Prop where
  said : ∃ text, Line.Says line (Bytes.ofText text) ∧ text ≠ "" ∧ ofLine text = .ok field
  length_le : line.length ≤ limits.lineBytes

structure IsBlankLine (limits : Limits) (line : Bytes) : Prop where
  said : Line.Says line []
  length_le : line.length ≤ limits.lineBytes

abbrev FieldLines : Type := List (Bytes × Field)

namespace FieldLines

def bytes (lines : FieldLines) : Bytes :=
  (lines.map Prod.fst).flatten

def fields (lines : FieldLines) : List Field :=
  lines.map Prod.snd

private theorem length_bytes_le {limits : Limits} {lines : FieldLines}
    (h : ∀ line ∈ lines, IsFieldLine limits line.1 line.2) :
    lines.bytes.length ≤ lines.length * limits.lineBytes := by
  induction lines with
  | nil => exact Nat.zero_le _
  | cons first rest ih =>
      obtain ⟨hfirst, hrest⟩ := List.forall_mem_cons.1 h
      have hline := hfirst.length_le
      have hlines := ih hrest
      simp only [bytes, List.map_cons, List.flatten_cons, List.length_append,
        List.length_cons, Nat.succ_mul] at hlines ⊢
      omega

end FieldLines

/-- There is room for another field before each line is taken in. -/
def HasRoom (limits : Limits) (header : Header) : List Field -> Prop
  | [] => True
  | field :: rest =>
      header.size < limits.headerFields ∧
        (header.receive field.name field.value).HasRoom limits rest

/-- Since fields only become more, it is the last line that needs to find room. -/
theorem hasRoom_iff {limits : Limits} {header : Header} {fields : List Field} :
    header.HasRoom limits fields ↔
      fields = [] ∨ (header.receiveAll fields.dropLast).size < limits.headerFields := by
  induction fields generalizing header with
  | nil => simp [HasRoom]
  | cons field rest ih =>
      cases rest with
      | nil => simp [HasRoom, receiveAll]
      | cons next rest =>
          have hle := size_le_receiveAll header ((field :: next :: rest).dropLast)
          simp only [HasRoom, reduceCtorEq, false_or] at ih ⊢
          rw [ih]
          simp only [List.dropLast_cons_cons, receiveAll, List.foldl_cons] at hle ⊢
          exact ⟨fun h => h.2, fun h => ⟨by omega, h⟩⟩

/-- The lines of a header, its blank line, and what follows in a stream. -/
structure Lines (limits : Limits) (stream : Bytes) (lines : FieldLines) (blank rest : Bytes) :
    Prop where
  stream_eq : stream = lines.bytes ++ blank ++ rest
  lines : ∀ line ∈ lines, IsFieldLine limits line.1 line.2
  blank : IsBlankLine limits blank

theorem Lines.cons {limits : Limits} {line stream blank rest : Bytes} {field : Field}
    {lines : FieldLines} (hline : IsFieldLine limits line field)
    (h : Lines limits stream lines blank rest) :
    Lines limits (line ++ stream) ((line, field) :: lines) blank rest where
  stream_eq := by simp [h.stream_eq, FieldLines.bytes]
  lines := List.forall_mem_cons.2 ⟨hline, h.lines⟩
  blank := h.blank

theorem addLine_eq_ok_iff {limits : Limits} {header grown : Header} {line : String} :
    header.addLine limits line = .ok grown ↔
      header.size < limits.headerFields ∧
        ∃ field, ofLine line = .ok field ∧ grown = header.receive field.name field.value := by
  unfold addLine
  by_cases hroom : limits.headerFields ≤ header.size
  · simp [hroom]
  · rw [if_neg hroom]
    cases ofLine line with
    | error e => simp
    | ok field => simp [Nat.lt_of_not_le hroom, eq_comm]

/-- Lines that are read into a header are field lines that find room, up to a blank one. -/
theorem exists_lines_of_readInto {limits : Limits} {start header : Header}
    {stream rest : Bytes} (h : readInto limits start stream = .ok (header, rest)) :
    ∃ lines blank, Lines limits stream lines blank rest ∧
      start.HasRoom limits lines.fields ∧ header = start.receiveAll lines.fields := by
  fun_induction readInto limits start stream with
  | case1 => cases h
  | case2 => cases h
  | case3 start stream line after htake htext =>
      cases h
      obtain ⟨hsplit, hsaid, hlength⟩ :=
        (Line.takeWithin_text_iff .headerLine .header).1 ⟨htake, htext⟩
      refine ⟨[], line, ⟨?_, List.forall_mem_nil _, ?_, hlength⟩, trivial, rfl⟩
      · simpa [FieldLines.bytes] using hsplit
      · exact hsaid
  | case4 => cases h
  | case5 start stream line after htake text htext hne grown hgrown ih =>
      obtain ⟨hsplit, hsaid, hlength⟩ :=
        (Line.takeWithin_text_iff .headerLine .header).1 ⟨htake, htext⟩
      obtain ⟨hroom, field, hfield, rfl⟩ := addLine_eq_ok_iff.1 hgrown
      obtain ⟨lines, blank, hlines, hrest, rfl⟩ := ih h
      rw [hsplit]
      exact ⟨(line, field) :: lines, blank,
        hlines.cons ⟨⟨text, hsaid, hne, hfield⟩, hlength⟩, ⟨hroom, hrest⟩, rfl⟩

private theorem readInto_of_lines {limits : Limits} {start : Header} {lines : FieldLines}
    {stream blank rest : Bytes} (h : Lines limits stream lines blank rest)
    (hroom : start.HasRoom limits lines.fields) :
    readInto limits start stream = .ok (start.receiveAll lines.fields, rest) := by
  obtain ⟨rfl, hlines, hblank⟩ := h
  induction lines generalizing start with
  | nil =>
      have hsaid : Line.Says blank (Bytes.ofText "") := hblank.said
      have hnothing : FieldLines.bytes [] ++ blank ++ rest = blank ++ rest := rfl
      rw [hnothing, readInto_line hsaid hblank.length_le, if_pos rfl]
      rfl
  | cons first lines ih =>
      obtain ⟨hfirst, hlines⟩ := List.forall_mem_cons.1 hlines
      obtain ⟨text, hsaid, hne, hfield⟩ := hfirst.said
      obtain ⟨hsize, hroom⟩ := hroom
      have hadd : start.addLine limits text =
          .ok (start.receive first.2.name first.2.value) :=
        addLine_eq_ok_iff.2 ⟨hsize, first.2, hfield, rfl⟩
      have hsplit : FieldLines.bytes (first :: lines) ++ blank ++ rest =
          first.1 ++ (FieldLines.bytes lines ++ blank ++ rest) := by
        simp [FieldLines.bytes]
      rw [hsplit, readInto_line hsaid hfirst.length_le, if_neg hne, hadd]
      exact ih hroom hlines

/--
A header is read exactly where lines with fields stand before a blank line, and
the lines but the last give fewer fields than the limit allows.
-/
theorem read_eq_ok_iff {limits : Limits} {stream rest : Bytes} {header : Header} :
    read limits stream = .ok (header, rest) ↔
      ∃ lines blank, Lines limits stream lines blank rest ∧
        header = empty.receiveAll lines.fields ∧
        (lines = [] ∨
          (empty.receiveAll (FieldLines.fields lines.dropLast)).size < limits.headerFields) := by
  have hlast : ∀ lines : FieldLines, empty.HasRoom limits lines.fields ↔ lines = [] ∨
      (empty.receiveAll (FieldLines.fields lines.dropLast)).size <
        limits.headerFields := by
    intro lines
    rw [hasRoom_iff]
    simp [FieldLines.fields, List.map_dropLast]
  constructor
  · intro h
    obtain ⟨lines, blank, hlines, hroom, heq⟩ := exists_lines_of_readInto h
    exact ⟨lines, blank, hlines, heq, (hlast lines).1 hroom⟩
  · rintro ⟨lines, blank, hlines, rfl, hroom⟩
    exact readInto_of_lines hlines ((hlast lines).2 hroom)

/-! ## What the limit bounds -/

private theorem HasRoom.size_le {limits : Limits} {header : Header} {fields : List Field}
    (h : header.HasRoom limits fields) (hsize : header.size ≤ limits.headerFields) :
    (header.receiveAll fields).size ≤ limits.headerFields := by
  induction fields generalizing header with
  | nil => exact hsize
  | cons field rest ih =>
      have hgrown := size_receive header field.name field.value
      have hroom := h.1
      have hbound : (header.receive field.name field.value).size ≤ limits.headerFields := by
        omega
      exact ih h.2 hbound

/--
The lines that are read are as many as their fields and the lines that are
joined to fields, and the limit bounds the fields alone.  It bounds the lines
exactly when those that are joined fit into what the fields leave of it.
-/
theorem extent_of_read {limits : Limits} {stream rest : Bytes} {header : Header}
    (h : read limits stream = .ok (header, rest)) :
    ∃ lines blank, Lines limits stream lines blank rest ∧
      header.size ≤ limits.headerFields ∧
      lines.length = header.size + empty.joinedCount lines.fields ∧
      (lines.bytes ++ blank).length ≤ (lines.length + 1) * limits.lineBytes ∧
      (lines.length ≤ limits.headerFields ↔
        empty.joinedCount lines.fields ≤ limits.headerFields - header.size) := by
  obtain ⟨lines, blank, hlines, hroom, rfl⟩ := exists_lines_of_readInto h
  have hsize := hroom.size_le (Nat.zero_le _)
  have hcount : (empty.receiveAll lines.fields).size + empty.joinedCount lines.fields =
      lines.length := by
    simpa [FieldLines.fields, empty, size] using size_receiveAll empty lines.fields
  have hbytes := FieldLines.length_bytes_le hlines.lines
  have hblank := hlines.blank.length_le
  refine ⟨lines, blank, hlines, hsize, by omega, ?_, by omega⟩
  rw [List.length_append, Nat.succ_mul]
  omega

def repeatedLines : FieldLines :=
  ["1", "2", "3"].map fun value => (renderField ⟨"A", value⟩, ⟨"A", value⟩)

private theorem read_repeatedLines :
    read ⟨6, 2, 0⟩ (repeatedLines.bytes ++ Bytes.crlf) =
      .ok (⟨[⟨"A", "1, 2, 3"⟩]⟩, []) := by
  decide +kernel

/-- The lines of one name give one field, and two of them are joined. -/
theorem extent_of_repeatedLines :
    read ⟨6, 2, 0⟩ (repeatedLines.bytes ++ Bytes.crlf) =
        .ok (⟨[⟨"A", "1, 2, 3"⟩]⟩, []) ∧
      ∃ lines blank,
        Lines ⟨6, 2, 0⟩ (repeatedLines.bytes ++ Bytes.crlf) lines blank [] ∧
          lines.length = 1 + empty.joinedCount lines.fields := by
  obtain ⟨lines, blank, hlines, _, hlength, _⟩ := extent_of_read read_repeatedLines
  exact ⟨read_repeatedLines, lines, blank, hlines, hlength⟩

private theorem isFieldLine_renderField {limits : Limits} {field : Field}
    (hname : IsFieldName field.name) (hvalue : '\n' ∉ field.value.toList)
    (htrimmed : field.trimmed = field)
    (hlength : (renderField field).length ≤ limits.lineBytes) :
    IsFieldLine limits (renderField field) field where
  said := by
    refine ⟨lineText field, says_renderField hname hvalue, lineText_ne_empty, ?_⟩
    rw [ofLine_lineText hname, htrimmed]
  length_le := hlength

/--
Where two fields are allowed three lines are read, and more bytes than three
lines may have.
-/
theorem repeatedLines_pass_limit :
    read ⟨6, 2, 0⟩ (repeatedLines.bytes ++ Bytes.crlf) =
        .ok (⟨[⟨"A", "1, 2, 3"⟩]⟩, []) ∧
      Lines ⟨6, 2, 0⟩ (repeatedLines.bytes ++ Bytes.crlf) repeatedLines Bytes.crlf [] ∧
      ¬ repeatedLines.length ≤ 2 ∧
      ¬ (repeatedLines.bytes ++ Bytes.crlf).length ≤ (2 + 1) * 6 := by
  have hname : IsFieldName "A" :=
    isFieldName_of_clean (clean_of_all (by decide)) (by decide) (by decide)
  have hblank : IsBlankLine ⟨6, 2, 0⟩ Bytes.crlf :=
    ⟨⟨List.not_mem_nil, .inl rfl⟩, by decide⟩
  refine ⟨read_repeatedLines, ⟨by simp, ?_, hblank⟩, by decide, by decide +kernel⟩
  intro line hline
  obtain ⟨value, hvalue, rfl⟩ := List.mem_map.1 hline
  have hdigit : '\n' ∉ value.toList ∧ Field.trimmed ⟨"A", value⟩ = ⟨"A", value⟩ ∧
      (renderField ⟨"A", value⟩).length ≤ 6 := by
    revert value
    decide +kernel
  exact isFieldLine_renderField hname hdigit.1 hdigit.2.1 hdigit.2.2

end Header

end Intermediary

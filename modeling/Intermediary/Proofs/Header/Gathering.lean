import Intermediary.Cache.Directives
import Intermediary.Forwarding
import Intermediary.Proofs.Header.Extent
import Intermediary.Proofs.Header.Items

/-!
# What a header gathers from its lines

Lines of one name are joined into one field, which stands where the first of them
stood and shows the items of all of them in order.  A line whose name is not
joined keeps a field of its own.  So whatever is read off the list of a name has
been read off every line of that name.
-/

namespace Intermediary

open Text

namespace Header

/-! ## What the lines say -/

def listed (lines : List Field) (name : String) : List String :=
  (lines.filter (sameIgnoringCase ·.name name)).flatMap (valueItems ·.value)

def opens (before : List Field) (line : Field) : Bool :=
  sameIgnoringCase line.name setCookie || !before.any (sameIgnoringCase ·.name line.name)

/-- The lines that begin a field, given the lines before all of them. -/
def openings (before : List Field) : List Field -> List Field
  | [] => []
  | line :: rest =>
      (if opens before line then [line] else []) ++ openings (before ++ [line]) rest

theorem listed_append (lines more : List Field) (name : String) :
    listed (lines ++ more) name = listed lines name ++ listed more name := by
  simp [listed]

theorem openings_append (before lines more : List Field) :
    openings before (lines ++ more) =
      openings before lines ++ openings (before ++ lines) more := by
  induction lines generalizing before with
  | nil => simp [openings]
  | cons line lines ih => simp [openings, ih]

private theorem opens_of_same {name : String} (hname : sameIgnoringCase name setCookie = false)
    {line : Field} (hsame : sameIgnoringCase line.name name = true) (before : List Field) :
    opens before line = !before.any (sameIgnoringCase ·.name name) := by
  simp only [opens, sameIgnoringCase_congr_left hsame, sameIgnoringCase_congr_right hsame,
    hname, Bool.false_or]

/-- Of the lines of a name that are joined, the first one begins a field. -/
private theorem filter_openings {name : String} (hname : sameIgnoringCase name setCookie = false)
    (before lines : List Field) :
    (openings before lines).filter (sameIgnoringCase ·.name name) =
      if before.any (sameIgnoringCase ·.name name) then []
      else (lines.find? (sameIgnoringCase ·.name name)).toList := by
  induction lines generalizing before with
  | nil => simp [openings]
  | cons line lines ih =>
      rw [openings, List.filter_append, ih, List.any_append]
      cases hsame : sameIgnoringCase line.name name with
      | false =>
          have hnothing : (if opens before line then [line] else []).filter
              (sameIgnoringCase ·.name name) = [] := by
            split <;> simp [hsame]
          simp [hnothing, hsame]
      | true =>
          rw [opens_of_same hname hsame]
          cases before.any (sameIgnoringCase ·.name name) <;> simp [hsame]

/-! ## What one more line does -/

private theorem contains_receive (header : Header) (name value asked : String) :
    (header.receive name value).contains asked =
      (header.contains asked || sameIgnoringCase name asked) := by
  have hany : ∀ grown : Header, grown.contains asked =
      (grown.fields.map Field.name).any (sameIgnoringCase · asked) := by
    intro grown
    rw [contains_eq_any, List.any_map]
    rfl
  rw [hany, names_receive, List.any_append, ← hany]
  cases hjoins : header.joins name with
  | false => simp
  | true =>
      -- A line that is joined brings no name that was not there.
      obtain ⟨_, hcontains⟩ := Bool.and_eq_true_iff.1 hjoins
      cases hsame : sameIgnoringCase name asked with
      | false => simp
      | true =>
          have hasked : header.contains asked = true := by
            rw [← hcontains, contains, contains, get?_congr hsame]
          simp [hasked]

private theorem named_setCookie_receive (header : Header) (name value : String) :
    (header.receive name value).named setCookie =
      header.named setCookie ++ [⟨name, value⟩].filter (sameIgnoringCase ·.name setCookie) := by
  unfold receive named
  split
  · simp [push]
  · next hcookie =>
    unfold append
    rw [filter_upsert]
    · simp [hcookie]
    · intro field hfield
      simpa [sameIgnoringCase_congr_left hfield] using hcookie

/-! ## What a header gathers -/

/--
A header that gathers lines: the list of every name that is joined has the items
of all lines of that name, lines that are not joined keep their fields, and the
fields stand where their first lines did.
-/
structure Gathers (lines : List Field) (header : Header) : Prop where
  items : ∀ name, sameIgnoringCase name setCookie = false ->
    header.items name = listed lines name
  cookies : header.named setCookie = lines.filter (sameIgnoringCase ·.name setCookie)
  order : header.fields.map Field.name = (openings [] lines).map Field.name
  present : ∀ name, header.contains name = lines.any (sameIgnoringCase ·.name name)

theorem gathers_empty : Gathers [] empty where
  items := fun _ _ => rfl
  cookies := rfl
  order := rfl
  present := fun _ => rfl

/-- One more line keeps what was gathered, and is gathered itself. -/
theorem Gathers.receive {lines : List Field} {header : Header} (h : Gathers lines header)
    (line : Field) : Gathers (lines ++ [line]) (header.receive line.name line.value) where
  items := by
    intro name hname
    rw [items_receive hname, h.items name hname, listed_append]
    cases hsame : sameIgnoringCase line.name name <;> simp [listed, hsame]
  cookies := by
    rw [named_setCookie_receive, h.cookies, List.filter_append]
  order := by
    have hopens : opens lines line = !header.joins line.name := by
      simp [opens, joins, h.present]
    rw [names_receive, h.order, openings_append, List.nil_append, List.map_append]
    cases hjoins : header.joins line.name <;> simp [openings, hopens, hjoins]
  present := by
    intro name
    rw [contains_receive, h.present]
    simp

theorem Gathers.receiveAll {seen : List Field} {header : Header} (h : Gathers seen header)
    (lines : List Field) : Gathers (seen ++ lines) (header.receiveAll lines) := by
  induction lines generalizing seen header with
  | nil => simpa [Header.receiveAll] using h
  | cons line lines ih =>
      have hstep := ih (h.receive line)
      rwa [List.append_assoc] at hstep

/-- A name that is joined has one field, which is spelled as its first line. -/
theorem Gathers.map_name_named {lines : List Field} {header : Header} (h : Gathers lines header)
    {name : String} (hname : sameIgnoringCase name setCookie = false) :
    (header.named name).map Field.name =
      ((lines.find? (sameIgnoringCase ·.name name)).map Field.name).toList := by
  have hfilter : ∀ fields : List Field,
      (fields.filter (sameIgnoringCase ·.name name)).map Field.name =
        (fields.map Field.name).filter (sameIgnoringCase · name) := by
    intro fields
    rw [List.filter_map]
    rfl
  rw [named, hfilter, h.order, ← hfilter, filter_openings hname]
  cases lines.find? (sameIgnoringCase ·.name name) <;> rfl

end Header

/-! ## What is read off the lists -/

namespace CacheDirectives

/-- An empty piece of a list is no directive. -/
theorem add_empty (directives : CacheDirectives) : directives.add "" = directives := by
  have hsplit : split "" = ("", Option.none) := by
    decide
  have hname : sameIgnoringCase "" "private" = false ∧ sameIgnoringCase "" "no-cache" = false ∧
      sameIgnoringCase "" "no-store" = false ∧ sameIgnoringCase "" "max-age" = false := by
    decide
  simp [add, hsplit, hname]

theorem ofValue_eq (value : String) :
    ofValue value = (Header.valueItems value).foldl add none := by
  have hskip : ∀ (directives : CacheDirectives) (piece : String),
      (if piece != "" then directives.add piece else directives) = directives.add piece := by
    intro directives piece
    by_cases hempty : piece = ""
    · simp [hempty, add_empty]
    · simp [hempty]
  simp only [ofValue, Header.valueItems, List.foldl_filter, hskip]

theorem ofHeader?_eq (header : Header) :
    ofHeader? header =
      if header.contains cacheControlField then
        some ((header.items cacheControlField).foldl add none)
      else Option.none := by
  unfold ofHeader? Header.contains Header.items
  cases header.get? cacheControlField with
  | none => rfl
  | some value => simp [ofValue_eq]

end CacheDirectives

namespace Header

/-- What is decided by a header that gathers lines is decided by all of these lines. -/
structure DecidedBy (lines : List Field) (header : Header) : Prop where
  chunked : header.isChunked = true ↔
    ∃ coding, (listed lines transferEncodingField).getLast? = some coding ∧
      sameIgnoringCase coding "chunked" = true
  circles : ∀ request : Request, request.header = header ->
    (Forwarding.containsLoop request = true ↔
      request.client ∈ listed lines Forwarding.forwardedFor)
  directives : CacheDirectives.ofHeader? header =
    if lines.any (sameIgnoringCase ·.name cacheControlField) then
      some ((listed lines cacheControlField).foldl CacheDirectives.add .none)
    else none

theorem Gathers.decidedBy {lines : List Field} {header : Header} (h : Gathers lines header) :
    DecidedBy lines header where
  chunked := by
    rw [isChunked_iff, h.items _ (by decide)]
  circles := by
    rintro request rfl
    rw [Forwarding.containsLoop_iff, h.items _ (by decide)]
  directives := by
    rw [CacheDirectives.ofHeader?_eq, h.present, h.items _ (by decide)]

/--
A header that was read gathers the lines it was read from: nothing is lost by
joining them, each name that is joined has one field, and what the header decides
is decided by all lines.
-/
theorem gathers_of_read {limits : Limits} {stream rest : Bytes} {header : Header}
    (h : read limits stream = .ok (header, rest)) :
    ∃ lines blank, Lines limits stream lines blank rest ∧ Gathers lines.fields header ∧
      (∀ name, sameIgnoringCase name setCookie = false ->
        (header.named name).map Field.name =
          ((lines.fields.find? (sameIgnoringCase ·.name name)).map Field.name).toList) ∧
      DecidedBy lines.fields header := by
  obtain ⟨lines, blank, hlines, _, rfl⟩ := exists_lines_of_readInto h
  have hgathers : Gathers lines.fields (empty.receiveAll lines.fields) := by
    simpa using gathers_empty.receiveAll lines.fields
  exact ⟨lines, blank, hlines, hgathers, fun _ => hgathers.map_name_named, hgathers.decidedBy⟩

/-- Lines of one name in different spellings, one without items, with others between them. -/
def mixedLines : Bytes :=
  Bytes.ofText "via: a\r\nSet-Cookie: x\r\nVIA: ,\r\nset-cookie: y\r\nVia: b, c\r\n\r\n"

theorem gathers_of_mixedLines :
    read ⟨40, 5, 0⟩ mixedLines =
        .ok (⟨[⟨"via", "a, ,, b, c"⟩, ⟨"Set-Cookie", "x"⟩, ⟨"set-cookie", "y"⟩]⟩, []) ∧
      ∃ lines blank, Lines ⟨40, 5, 0⟩ mixedLines lines blank [] ∧
        listed lines.fields "VIA" = ["a", "b", "c"] ∧
        lines.fields.filter (sameIgnoringCase ·.name setCookie) =
          [⟨"Set-Cookie", "x"⟩, ⟨"set-cookie", "y"⟩] := by
  have hread : read ⟨40, 5, 0⟩ mixedLines =
      .ok (⟨[⟨"via", "a, ,, b, c"⟩, ⟨"Set-Cookie", "x"⟩, ⟨"set-cookie", "y"⟩]⟩, []) := by
    decide +kernel
  obtain ⟨lines, blank, hlines, hgathers, _⟩ := gathers_of_read hread
  refine ⟨hread, lines, blank, hlines, ?_, ?_⟩
  · rw [← hgathers.items "VIA" (by decide)]
    decide +kernel
  · rw [← hgathers.cookies]
    decide +kernel

end Header

end Intermediary

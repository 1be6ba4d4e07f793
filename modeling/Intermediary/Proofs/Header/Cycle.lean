import Intermediary.Proofs.Header.Gathering
import Mathlib.Data.List.Induction

/-!
# A header that is relayed again and again

A header is written by one relay and read by the next.  What the next one reads is
the same but for the blank at the end of a value whose last line said nothing: a
line that is joined brings its separator with it, and a separator ends with a
blank.  Every further reading leaves the header as it is.
-/

namespace Intermediary

open Text

namespace Header

/-! ## Values that are joined -/

def valuesOf (lines : List Field) (name : String) : List String :=
  (lines.filter (sameIgnoringCase ·.name name)).map Field.value

def joinedAll (values : List String) : String :=
  values.foldl joined ""

/-- Some line of a name has a value, and the last one has none. -/
structure EndsEmpty (lines : List Field) (name : String) : Prop where
  joins : sameIgnoringCase name setCookie = false
  value : ∃ value ∈ valuesOf lines name, value ≠ ""
  last : (valuesOf lines name).getLast? = some ""

theorem joinedAll_concat (values : List String) (value : String) :
    joinedAll (values ++ [value]) = joined (joinedAll values) value := by
  simp [joinedAll]

theorem joined_eq_empty_iff {value item : String} :
    joined value item = "" ↔ value = "" ∧ item = "" := by
  unfold joined
  split
  · next hempty => simp [hempty]
  · next hne => simp [hne]

theorem joinedAll_eq_empty_iff {values : List String} :
    joinedAll values = "" ↔ ∀ value ∈ values, value = "" := by
  induction values using List.reverseRecOn with
  | nil => simp [joinedAll]
  | append_singleton values value ih =>
      rw [joinedAll_concat, joined_eq_empty_iff, ih, List.forall_mem_append,
        List.forall_mem_singleton]

/-- Values that do not begin with a blank are joined to one that does not either. -/
private theorem head_joinedAll {values : List String} (h : ∀ value ∈ values, Trimmed value.toList) :
    ∀ c ∈ (joinedAll values).toList.head?, isBlank c = false := by
  induction values using List.reverseRecOn with
  | nil => simp [joinedAll]
  | append_singleton values value ih =>
      rw [List.forall_mem_append, List.forall_mem_singleton] at h
      rw [joinedAll_concat]
      unfold joined
      split
      · exact h.2.head
      · next hne =>
        obtain ⟨c, cs, hcs⟩ := List.exists_cons_of_ne_nil (mt String.toList_eq_nil_iff.1 hne)
        have hhead := ih h.1
        rw [hcs] at hhead
        simpa [hcs] using hhead

/-- A joined value is trimmed unless its last line has nothing to join. -/
theorem trimmed_joinedAll_iff {values : List String}
    (h : ∀ value ∈ values, Trimmed value.toList) :
    Trimmed (joinedAll values).toList ↔
      ¬ ((∃ value ∈ values, value ≠ "") ∧ values.getLast? = some "") := by
  rcases List.eq_nil_or_concat values with rfl | ⟨front, value, rfl⟩
  · simp only [List.not_mem_nil, false_and, exists_false, not_false_iff, iff_true]
    exact ⟨by simp [joinedAll], by simp [joinedAll]⟩
  · rw [List.concat_eq_append] at h ⊢
    have hhead := head_joinedAll h
    have hvalue := h value (by simp)
    rw [joinedAll_concat] at hhead ⊢
    by_cases hfront : joinedAll front = ""
    · have hall := joinedAll_eq_empty_iff.1 hfront
      have hjoined : joined (joinedAll front) value = value := by
        rw [joined, if_pos hfront]
      have hnothing : ¬ ((∃ v ∈ front ++ [value], v ≠ "") ∧
          (front ++ [value]).getLast? = some "") := by
        rintro ⟨⟨v, hmem, hne⟩, hlast⟩
        rw [List.getLast?_concat, Option.some.injEq] at hlast
        rcases List.mem_append.1 hmem with hmem | hmem
        · exact hne (hall v hmem)
        · exact hne ((List.mem_singleton.1 hmem).trans hlast)
      rw [hjoined]
      exact iff_of_true hvalue hnothing
    · have hsome : ∃ v ∈ front ++ [value], v ≠ "" := by
        by_contra hnone
        push Not at hnone
        exact hfront (joinedAll_eq_empty_iff.2 fun v hv => hnone v (by simp [hv]))
      rw [joined, if_neg hfront] at hhead ⊢
      by_cases hempty : value = ""
      · -- The separator is the end of the value, and ends with a blank.
        have hlast : (front ++ [value]).getLast? = some "" := by simp [hempty]
        refine iff_of_false (fun htrimmed => ?_) (fun hnot => hnot ⟨hsome, hlast⟩)
        have hblank := htrimmed.last ' ' (by simp [hempty, listSeparator])
        exact absurd hblank (by decide)
      · refine iff_of_true ⟨hhead, ?_⟩ fun hand => hempty (by simpa using hand.2)
        obtain ⟨cs, c, hcs⟩ := List.eq_nil_or_concat value.toList |>.resolve_left
          (mt String.toList_eq_nil_iff.1 hempty)
        have hlast := hvalue.last
        rw [hcs] at hlast
        simpa [hcs] using hlast

/-! ## The values of a header that was read -/

private theorem trimmed_of_ofLine {line : String} {field : Field} (h : ofLine line = .ok field) :
    Trimmed field.value.toList := by
  unfold ofLine at h
  split at h
  · cases h
  · dsimp only at h
    split at h
    · cases h
    · cases h
      rw [toList_trim]
      exact trimmed_trimChars _

/-- A line of a name is joined to what there is of the name. -/
private theorem getD_get?_receive {header : Header} {asked : String}
    (hasked : sameIgnoringCase asked setCookie = false) (name value : String) :
    ((header.receive name value).get? asked).getD "" =
      if sameIgnoringCase name asked then joined ((header.get? asked).getD "") value
      else (header.get? asked).getD "" := by
  unfold receive
  by_cases hsame : sameIgnoringCase name asked = true
  · have hjoins : sameIgnoringCase name setCookie = false := by
      rw [sameIgnoringCase_congr_left hsame, hasked]
    have hget : ∀ grown : Header, grown.get? asked = grown.get? name :=
      fun grown => (get?_congr hsame).symm
    rw [if_pos hsame, if_neg (by simp [hjoins]), hget, hget, get?_append_self]
    rfl
  · have hne : sameIgnoringCase name asked = false := by simpa using hsame
    rw [if_neg hsame]
    split
    · rw [get?_push_of_ne hne]
    · rw [get?_append_of_ne hne]

private theorem getD_get?_receiveAll {header : Header} {asked : String}
    (hasked : sameIgnoringCase asked setCookie = false) (lines : List Field) :
    ((header.receiveAll lines).get? asked).getD "" =
      (valuesOf lines asked).foldl joined ((header.get? asked).getD "") := by
  induction lines generalizing header with
  | nil => rfl
  | cons line lines ih =>
      have hrest := @ih (header.receive line.name line.value)
      rw [getD_get?_receive hasked] at hrest
      cases hsame : sameIgnoringCase line.name asked with
      | false => simpa [receiveAll, valuesOf, hsame] using hrest
      | true => simpa [receiveAll, valuesOf, hsame] using hrest

private theorem valuesOf_congr {name other : String} (h : sameIgnoringCase name other = true)
    (lines : List Field) : valuesOf lines name = valuesOf lines other := by
  simp only [valuesOf, sameIgnoringCase_congr_right h]

/-- A field has the values of the lines of its name, joined, or is a line that is not joined. -/
theorem value_of_receiveAll {lines : List Field} {field : Field}
    (hfield : field ∈ (empty.receiveAll lines).fields)
    (hapart : ((empty.receiveAll lines).fields.map Field.name).Pairwise NamesApart) :
    (sameIgnoringCase field.name setCookie = false ∧
      field.value = joinedAll (valuesOf lines field.name)) ∨
    (sameIgnoringCase field.name setCookie = true ∧ field ∈ lines) := by
  cases hcookie : sameIgnoringCase field.name setCookie with
  | false =>
      have hfound : (empty.receiveAll lines).fields.find?
          (sameIgnoringCase ·.name field.name) = some field := by
        refine Option.mem_toList.1 ?_
        rw [← filter_of_apart hapart hcookie]
        exact List.mem_filter.2 ⟨hfield, sameIgnoringCase_refl _⟩
      have hget : (empty.receiveAll lines).get? field.name = some field.value := by
        unfold get? find?
        rw [hfound]
        rfl
      have hvalue := @getD_get?_receiveAll empty _ hcookie lines
      rw [hget] at hvalue
      exact .inl ⟨rfl, hvalue⟩
  | true =>
      have hgathers : Gathers lines (empty.receiveAll lines) := by
        simpa using gathers_empty.receiveAll lines
      have hnamed : field ∈ (empty.receiveAll lines).named setCookie :=
        List.mem_filter.2 ⟨hfield, hcookie⟩
      rw [hgathers.cookies] at hnamed
      exact .inr ⟨rfl, (List.mem_filter.1 hnamed).1⟩

theorem trimmed_eq_self_iff {header : Header} :
    header.trimmed = header ↔ ∀ field ∈ header.fields, Trimmed field.value.toList := by
  have hfield : ∀ field : Field, field.trimmed = field ↔ Trimmed field.value.toList := by
    intro field
    cases field with
    | mk name value =>
        simp only [Field.trimmed, Field.mk.injEq, true_and]
        refine ⟨fun heq => ?_, trim_of_trimmed⟩
        rw [← heq, toList_trim]
        exact trimmed_trimChars _
  cases header with
  | mk fields =>
      simp only [trimmed, Header.mk.injEq, ← hfield]
      simpa using @List.map_inj_left _ _ fields Field.trimmed id

/-- The values of a header stay as they are unless a name ends with a line without value. -/
theorem trimmed_receiveAll_iff {lines : List Field}
    (hlines : ∀ line ∈ lines, Trimmed line.value.toList)
    (hapart : ((empty.receiveAll lines).fields.map Field.name).Pairwise NamesApart) :
    (empty.receiveAll lines).trimmed = empty.receiveAll lines ↔
      ∀ name, ¬ EndsEmpty lines name := by
  have hvalues : ∀ name, ∀ value ∈ valuesOf lines name, Trimmed value.toList := by
    intro name value hvalue
    obtain ⟨line, hline, rfl⟩ := List.mem_map.1 hvalue
    exact hlines line ((List.mem_filter.1 hline).1)
  have hgathers : Gathers lines (empty.receiveAll lines) := by
    simpa using gathers_empty.receiveAll lines
  rw [trimmed_eq_self_iff]
  constructor
  · intro htrimmed name hends
    have hcontains : (empty.receiveAll lines).contains name = true := by
      obtain ⟨value, hvalue, _⟩ := hends.value
      obtain ⟨line, hline, _⟩ := List.mem_map.1 hvalue
      rw [hgathers.present]
      exact List.any_eq_true.2 ⟨line, List.mem_filter.1 hline⟩
    rw [contains_eq_any] at hcontains
    obtain ⟨field, hfield, hsame⟩ := List.any_eq_true.1 hcontains
    have hjoins : sameIgnoringCase field.name setCookie = false := by
      rw [sameIgnoringCase_congr_left hsame, hends.joins]
    rcases value_of_receiveAll hfield hapart with ⟨_, hvalue⟩ | ⟨hcookie, _⟩
    · have hkept := htrimmed field hfield
      rw [hvalue, valuesOf_congr hsame, trimmed_joinedAll_iff (hvalues name)] at hkept
      exact hkept ⟨hends.value, hends.last⟩
    · rw [hjoins] at hcookie
      cases hcookie
  · intro hends field hfield
    rcases value_of_receiveAll hfield hapart with ⟨hjoins, hvalue⟩ | ⟨_, hline⟩
    · rw [hvalue, trimmed_joinedAll_iff (hvalues field.name)]
      exact fun hempty => hends field.name ⟨hjoins, hempty.1, hempty.2⟩
    · exact hlines field hline

/-! ## Writing and reading in turn -/

/-- The limits leave room for each line of a header, the blank one, and their number. -/
structure Fits (limits : Limits) (header : Header) : Prop where
  lines : ∀ field ∈ header.fields, (renderField field).length ≤ limits.lineBytes
  blank : 2 ≤ limits.lineBytes
  count : header.size ≤ limits.headerFields

/-- A header after it was written and read so many times. -/
def relayed (limits : Limits) : Nat -> Header -> Except MessageError Header
  | 0, header => .ok header
  | n + 1, header =>
      match read limits (header.render ++ Bytes.crlf) with
      | .error e => .error e
      | .ok (next, _) => relayed limits n next

private theorem trimmed_trimmed (header : Header) : header.trimmed.trimmed = header.trimmed := by
  rw [trimmed_eq_self_iff]
  intro field hfield
  obtain ⟨given, _, rfl⟩ := List.mem_map.1 hfield
  simp only [Field.trimmed, toList_trim]
  exact trimmed_trimChars _

private theorem Sendable.trimmed {header : Header} (h : header.Sendable) :
    header.trimmed.Sendable where
  names := by
    intro field hfield
    obtain ⟨given, hgiven, rfl⟩ := List.mem_map.1 hfield
    exact h.names given hgiven
  values := by
    intro field hfield
    obtain ⟨given, hgiven, rfl⟩ := List.mem_map.1 hfield
    simp only [Field.trimmed, toList_trim]
    exact fun hmem => h.values given hgiven (mem_trimChars hmem)
  apart := by
    have hnames : header.trimmed.fields.map Field.name = header.fields.map Field.name := by
      simp [Header.trimmed, Field.trimmed]
    rw [hnames]
    exact h.apart

private theorem length_ofText_trim_le (text : String) :
    (Bytes.ofText (trim text)).length ≤ (Bytes.ofText text).length := by
  obtain ⟨before, after, _, _, hsplit⟩ := trimChars_split text.toList
  have htext : text = String.ofList before ++ trim text ++ String.ofList after := by
    apply String.toList_inj.1
    simpa [toList_trim] using hsplit
  have hlength := congrArg (fun text => (Bytes.ofText text).length) htext
  simp only [Bytes.ofText_append, List.length_append] at hlength
  omega

private theorem Fits.trimmed {limits : Limits} {header : Header} (h : Fits limits header) :
    Fits limits header.trimmed where
  lines := by
    intro field hfield
    obtain ⟨given, hgiven, rfl⟩ := List.mem_map.1 hfield
    have hline := h.lines given hgiven
    have hvalue := length_ofText_trim_le given.value
    simp only [renderField, Field.trimmed, List.length_append] at hline ⊢
    omega
  blank := h.blank
  count := by
    have hcount := h.count
    simpa [size, Header.trimmed] using hcount

private theorem relayed_of_trimmed {limits : Limits} {header : Header} (hsendable : header.Sendable)
    (hfits : Fits limits header) (htrimmed : header.trimmed = header) (n : Nat) :
    relayed limits n header = .ok header := by
  induction n with
  | zero => rfl
  | succ n ih =>
      have hread := read_render hsendable hfits.lines hfits.count hfits.blank []
      rw [List.append_nil, htrimmed] at hread
      unfold relayed
      rw [hread]
      exact ih

/--
A header that was read is written and read again as the same fields in the same
order, whatever follows.  It is the same header unless a name that is joined has
lines with a value but none on its last line; and from the first reading on it
stays the same, however often it is written and read.
-/
theorem settles_of_read {limits : Limits} {stream rest : Bytes} {header : Header}
    (h : read limits stream = .ok (header, rest)) :
    ∃ lines blank, Lines limits stream lines blank rest ∧
      (header.trimmed = header ↔ ∀ name, ¬ EndsEmpty lines.fields name) ∧
      ∀ room, Fits room header ->
        (∀ tail, read room (header.render ++ (Bytes.crlf ++ tail)) =
          .ok (header.trimmed, tail)) ∧
        ∀ n, relayed room (n + 1) header = .ok header.trimmed := by
  have hsendable := sendable_read h
  obtain ⟨lines, blank, hlines, _, rfl⟩ := exists_lines_of_readInto h
  have htrimmed : ∀ line ∈ lines.fields, Trimmed line.value.toList := by
    intro field hfield
    obtain ⟨line, hline, rfl⟩ := List.mem_map.1 hfield
    obtain ⟨_, _, _, hgiven⟩ := (hlines.lines line hline).said
    exact trimmed_of_ofLine hgiven
  refine ⟨lines, blank, hlines, trimmed_receiveAll_iff htrimmed hsendable.apart, ?_⟩
  intro room hfits
  have hread := fun tail =>
    read_render hsendable hfits.lines hfits.count hfits.blank tail
  refine ⟨hread, fun n => ?_⟩
  have hfirst := hread []
  rw [List.append_nil] at hfirst
  unfold relayed
  rw [hfirst]
  exact relayed_of_trimmed hsendable.trimmed hfits.trimmed (trimmed_trimmed _) n

/-- Two lines of one name, of which the second has no value, around one that is not joined. -/
def emptyLast : Bytes :=
  Bytes.ofText "Via: a\r\nSet-Cookie: x\r\nvia:\r\n\r\n"

private theorem read_emptyLast :
    read .default emptyLast = .ok (⟨[⟨"Via", "a, "⟩, ⟨"Set-Cookie", "x"⟩]⟩, []) := by
  decide +kernel

/-- The header loses the blank when it is read again, and nothing after that. -/
theorem settles_of_emptyLast :
    read .default emptyLast = .ok (⟨[⟨"Via", "a, "⟩, ⟨"Set-Cookie", "x"⟩]⟩, []) ∧
      Fits .default ⟨[⟨"Via", "a, "⟩, ⟨"Set-Cookie", "x"⟩]⟩ ∧
      relayed .default 3 ⟨[⟨"Via", "a, "⟩, ⟨"Set-Cookie", "x"⟩]⟩ =
        .ok ⟨[⟨"Via", "a,"⟩, ⟨"Set-Cookie", "x"⟩]⟩ := by
  have hfits : Fits .default ⟨[⟨"Via", "a, "⟩, ⟨"Set-Cookie", "x"⟩]⟩ :=
    ⟨by decide, by decide, by decide⟩
  obtain ⟨_, _, _, _, hroom⟩ := settles_of_read read_emptyLast
  refine ⟨read_emptyLast, hfits, ?_⟩
  rw [(hroom .default hfits).2 2]
  decide +kernel

/-- A header that is read does not always come back as it was. -/
theorem emptyLast_changes :
    read .default emptyLast = .ok (⟨[⟨"Via", "a, "⟩, ⟨"Set-Cookie", "x"⟩]⟩, []) ∧
      Fits .default ⟨[⟨"Via", "a, "⟩, ⟨"Set-Cookie", "x"⟩]⟩ ∧
      ¬ read .default
          (render ⟨[⟨"Via", "a, "⟩, ⟨"Set-Cookie", "x"⟩]⟩ ++ (Bytes.crlf ++ [])) =
        .ok (⟨[⟨"Via", "a, "⟩, ⟨"Set-Cookie", "x"⟩]⟩, []) :=
  ⟨read_emptyLast, ⟨by decide, by decide, by decide⟩, by decide +kernel⟩

end Header

end Intermediary

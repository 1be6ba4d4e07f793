import Intermediary.Header
import Intermediary.Proofs.Text.Blank

/-!
# Fields that can be written in lines

The fields that are read from lines, and those that take their place when a
header is edited: each can be written in a line of its own, and no two of them
would be joined when their lines are read.
-/

namespace Intermediary

open Text

/-- A text that can stand before the colon of a header line. -/
structure IsFieldName (name : String) : Prop where
  trimmed : Trimmed name.toList
  ne_empty : name ≠ ""
  no_colon : ':' ∉ name.toList
  no_break : '\n' ∉ name.toList

theorem isFieldName_of_clean {name : String} (hclean : Clean name.toList)
    (hne : name ≠ "") (hcolon : ':' ∉ name.toList) : IsFieldName name where
  trimmed := hclean.trimmed
  ne_empty := hne
  no_colon := hcolon
  no_break := hclean.no_break

def NamesApart (a b : String) : Prop :=
  sameIgnoringCase a b = true -> sameIgnoringCase a Header.setCookie = true

/-- A header whose lines give its fields again. -/
structure Header.Sendable (header : Header) : Prop where
  names : ∀ field ∈ header.fields, IsFieldName field.name
  values : ∀ field ∈ header.fields, '\n' ∉ field.value.toList
  apart : (header.fields.map Field.name).Pairwise NamesApart

namespace Header

/-! ## Changing one field -/

variable {name fresh : String} {update : String -> String}

/-- Only the first field of a name is changed, and added where there is none. -/
theorem upsert_cases (name fresh : String) (update : String -> String)
    (fields : List Field) :
    (∃ before field after, fields = before ++ field :: after ∧
      (∀ other ∈ before, sameIgnoringCase other.name name = false) ∧
      sameIgnoringCase field.name name = true ∧
      upsert name fresh update fields =
        before ++ { field with value := update field.value } :: after) ∨
    (∀ other ∈ fields, sameIgnoringCase other.name name = false) ∧
      upsert name fresh update fields = fields ++ [⟨name, fresh⟩] := by
  induction fields with
  | nil => exact .inr ⟨List.forall_mem_nil _, rfl⟩
  | cons first rest ih =>
      by_cases hsame : sameIgnoringCase first.name name = true
      · refine .inl ⟨[], first, rest, rfl, List.forall_mem_nil _, hsame, ?_⟩
        simp [upsert, hsame]
      · have hother : sameIgnoringCase first.name name = false := by
          simpa using hsame
        rcases ih with ⟨before, field, after, rfl, hbefore, hfield, heq⟩ | ⟨hrest, heq⟩
        · refine .inl ⟨first :: before, field, after, rfl,
            List.forall_mem_cons.2 ⟨hother, hbefore⟩, hfield, ?_⟩
          simp [upsert, hother, heq]
        · refine .inr ⟨List.forall_mem_cons.2 ⟨hother, hrest⟩, ?_⟩
          simp [upsert, hother, heq]

theorem upsert_of_absent {fields : List Field}
    (h : ∀ other ∈ fields, sameIgnoringCase other.name name = false) :
    upsert name fresh update fields = fields ++ [⟨name, fresh⟩] := by
  rcases upsert_cases name fresh update fields with
    ⟨before, field, after, rfl, _, hfield, _⟩ | ⟨_, heq⟩
  · have hother := h field (by simp)
    rw [hfield] at hother
    cases hother
  · exact heq

/-- A change of one name is not seen under another. -/
theorem find?_upsert_of_ne {other : String} {fields : List Field}
    (h : sameIgnoringCase name other = false) :
    (upsert name fresh update fields).find? (sameIgnoringCase ·.name other) =
      fields.find? (sameIgnoringCase ·.name other) := by
  rcases upsert_cases name fresh update fields with
    ⟨before, field, after, rfl, _, hfield, heq⟩ | ⟨_, heq⟩
  · rw [heq]
    simp [List.find?_append, sameIgnoringCase_congr_left hfield, h]
  · rw [heq]
    simp [List.find?_append, h]

/-- A change of one name is not seen among fields of other names. -/
theorem filter_upsert {p : Field -> Bool} {fields : List Field}
    (h : ∀ field : Field, sameIgnoringCase field.name name = true -> p field = false) :
    (upsert name fresh update fields).filter p = fields.filter p := by
  rcases upsert_cases name fresh update fields with
    ⟨before, field, after, rfl, _, hfield, heq⟩ | ⟨_, heq⟩
  · rw [heq]
    simp [List.filter_append, h field hfield, h ⟨field.name, update field.value⟩ hfield]
  · rw [heq]
    simp [List.filter_append, h ⟨name, fresh⟩ (sameIgnoringCase_refl name)]

theorem get?_set_of_ne {header : Header} {other value : String}
    (h : sameIgnoringCase name other = false) :
    (header.set name value).get? other = header.get? other := by
  simp only [get?, find?, set]
  rw [find?_upsert_of_ne h]

theorem get?_append_of_ne {header : Header} {other item : String}
    (h : sameIgnoringCase name other = false) :
    (header.append name item).get? other = header.get? other := by
  simp only [get?, find?, append]
  rw [find?_upsert_of_ne h]

/-- What is found under a name after a change is the changed value, or the fresh one. -/
theorem get?_upsert_self (name fresh : String) (update : String -> String)
    (header : Header) :
    get? ⟨upsert name fresh update header.fields⟩ name =
      some ((header.get? name).elim fresh update) := by
  unfold get? find?
  rcases upsert_cases name fresh update header.fields with
    ⟨before, field, after, hsplit, hbefore, hfield, heq⟩ | ⟨habsent, heq⟩
  · have hnone : before.find? (sameIgnoringCase ·.name name) = none :=
      List.find?_eq_none.2 fun other hother => by simp [hbefore other hother]
    rw [heq, hsplit]
    simp [List.find?_append, hnone, hfield]
  · have hnone : header.fields.find? (sameIgnoringCase ·.name name) = none :=
      List.find?_eq_none.2 fun other hother => by simp [habsent other hother]
    rw [heq]
    simp [List.find?_append, hnone, sameIgnoringCase_refl]

theorem get?_set_self (header : Header) (name value : String) :
    (header.set name value).get? name = some value := by
  unfold set
  rw [get?_upsert_self]
  cases header.get? name <;> rfl

theorem get?_append_self (header : Header) (name item : String) :
    (header.append name item).get? name =
      some (joined ((header.get? name).getD "") item) := by
  unfold append
  rw [get?_upsert_self]
  cases header.get? name <;> rfl

theorem get?_congr {header : Header} {name other : String}
    (h : sameIgnoringCase name other = true) : header.get? name = header.get? other := by
  simp only [get?, find?, sameIgnoringCase_congr_right h]

theorem get?_push_of_ne {header : Header} {name other value : String}
    (h : sameIgnoringCase name other = false) :
    (header.push name value).get? other = header.get? other := by
  simp [get?, find?, push, List.find?_append, h]

/-! ## The fields of one name -/

/-- The fields of a name; each of them is written in one line. -/
def named (header : Header) (name : String) : List Field :=
  header.fields.filter (sameIgnoringCase ·.name name)

theorem filter_of_apart {fields : List Field} {name : String}
    (hapart : (fields.map Field.name).Pairwise NamesApart)
    (hname : sameIgnoringCase name setCookie = false) :
    fields.filter (sameIgnoringCase ·.name name) =
      (fields.find? (sameIgnoringCase ·.name name)).toList := by
  induction fields with
  | nil => rfl
  | cons field fields ih =>
      obtain ⟨hfield, hfields⟩ := List.pairwise_cons.1 hapart
      cases hsame : sameIgnoringCase field.name name with
      | false => simp [hsame, ih hfields]
      | true =>
          -- Another field of the name would be one whose lines are not joined.
          have hnone : ∀ other ∈ fields, ¬ sameIgnoringCase other.name name = true := by
            intro other hother hagain
            rw [sameIgnoringCase_comm] at hagain
            have hcookie := hfield other.name (List.mem_map_of_mem hother)
              (sameIgnoringCase_trans hsame hagain)
            rw [sameIgnoringCase_comm] at hsame
            rw [sameIgnoringCase_trans hsame hcookie] at hname
            cases hname
          simp [hsame, List.filter_eq_nil_iff.2 hnone]

/-- There is one field of a name at most, where lines of that name are joined. -/
theorem Sendable.named_eq {header : Header} (h : header.Sendable) {name : String}
    (hname : sameIgnoringCase name setCookie = false) :
    header.named name = (header.find? name).toList :=
  filter_of_apart h.apart hname

theorem Sendable.named_of_get? {header : Header} (h : header.Sendable)
    {name value : String} (hname : sameIgnoringCase name setCookie = false)
    (hvalue : header.get? name = some value) :
    ∃ given, header.named name = [⟨given, value⟩] := by
  rw [h.named_eq hname]
  obtain ⟨⟨given, _⟩, hfound, rfl⟩ := Option.map_eq_some_iff.1 hvalue
  exact ⟨given, by rw [hfound]; rfl⟩

/-! ## Sendable headers -/

theorem sendable_empty : empty.Sendable where
  names := List.forall_mem_nil _
  values := List.forall_mem_nil _
  apart := List.Pairwise.nil

/-- Changing or adding one field keeps the names of the fields apart. -/
theorem apart_upsert {fields : List Field}
    (hapart : (fields.map Field.name).Pairwise NamesApart) :
    ((upsert name fresh update fields).map Field.name).Pairwise NamesApart := by
  rcases upsert_cases name fresh update fields with
    ⟨before, field, after, rfl, _, _, heq⟩ | ⟨habsent, heq⟩
  · rw [heq]
    simpa using hapart
  · rw [heq, List.map_append, List.pairwise_append]
    refine ⟨hapart, List.pairwise_singleton _ _, ?_⟩
    intro other hother added hadded hsame
    obtain ⟨field, hfield, rfl⟩ := List.mem_map.1 hother
    obtain rfl : added = name := by simpa using hadded
    rw [habsent field hfield] at hsame
    cases hsame

/-- A field whose lines are not joined is apart from any field. -/
theorem apart_push {header : Header} {value : String}
    (hapart : (header.fields.map Field.name).Pairwise NamesApart)
    (hcookie : sameIgnoringCase name setCookie = true) :
    ((header.push name value).fields.map Field.name).Pairwise NamesApart := by
  simp only [push, List.map_append, List.pairwise_append]
  refine ⟨hapart, List.pairwise_singleton _ _, ?_⟩
  intro other _ added hadded hsame
  obtain rfl : added = name := by simpa using hadded
  exact sameIgnoringCase_trans hsame hcookie

/-- Changing or adding one field keeps a header sendable. -/
theorem sendable_upsert {header : Header} (h : header.Sendable)
    (hname : IsFieldName name) (hfresh : '\n' ∉ fresh.toList)
    (hupdate : ∀ value : String, '\n' ∉ value.toList -> '\n' ∉ (update value).toList) :
    Sendable ⟨upsert name fresh update header.fields⟩ := by
  obtain ⟨hnames, hvalues, hapart⟩ := h
  rcases upsert_cases name fresh update header.fields with
    ⟨before, field, after, hsplit, _, _, heq⟩ | ⟨_, heq⟩
  · rw [hsplit] at hnames hvalues
    simp only [List.forall_mem_append, List.forall_mem_cons] at hnames hvalues
    refine ⟨?_, ?_, apart_upsert hapart⟩ <;> rw [heq]
    · simpa only [List.forall_mem_append, List.forall_mem_cons] using hnames
    · simp only [List.forall_mem_append, List.forall_mem_cons]
      exact ⟨hvalues.1, hupdate _ hvalues.2.1, hvalues.2.2⟩
  · refine ⟨?_, ?_, apart_upsert hapart⟩ <;> rw [heq]
    · exact List.forall_mem_append.2 ⟨hnames, by simpa using hname⟩
    · exact List.forall_mem_append.2 ⟨hvalues, by simpa using hfresh⟩

theorem sendable_set {header : Header} {value : String} (h : header.Sendable)
    (hname : IsFieldName name) (hvalue : '\n' ∉ value.toList) :
    (header.set name value).Sendable :=
  sendable_upsert h hname hvalue fun _ _ => hvalue

theorem sendable_append {header : Header} {item : String} (h : header.Sendable)
    (hname : IsFieldName name) (hitem : '\n' ∉ item.toList) :
    (header.append name item).Sendable := by
  refine sendable_upsert h hname hitem fun value hvalue => ?_
  unfold joined
  split
  · exact hitem
  · simp [hvalue, hitem, listSeparator]

private theorem sendable_push {header : Header} {value : String} (h : header.Sendable)
    (hname : IsFieldName name) (hvalue : '\n' ∉ value.toList)
    (hcookie : sameIgnoringCase name setCookie = true) :
    (header.push name value).Sendable where
  names := List.forall_mem_append.2 ⟨h.names, by simpa using hname⟩
  values := List.forall_mem_append.2 ⟨h.values, by simpa using hvalue⟩
  apart := apart_push h.apart hcookie

theorem sendable_receive {header : Header} {value : String} (h : header.Sendable)
    (hname : IsFieldName name) (hvalue : '\n' ∉ value.toList) :
    (header.receive name value).Sendable := by
  unfold receive
  split
  · next hcookie => exact sendable_push h hname hvalue hcookie
  · exact sendable_append h hname hvalue

end Header

end Intermediary

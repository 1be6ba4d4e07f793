import Intermediary.Proofs.Header.Extent

/-!
# Headers as ordered maps

However a header was made, by reading it and by changing it field by field, a name
has one field at most, apart from the name whose lines are never joined.  All that
is asked about a name is asked of its first field; a change of a name is a change
of that field where it stands, or adds a field at the end.
-/

namespace Intermediary

open Text

namespace Header

/-! ## Histories of a header -/

inductive Operation where
  /-- Another header is read in its place, unless that fails. -/
  | read (limits : Limits) (stream : Bytes)
  /-- A line that was read is taken in. -/
  | receive (name value : String)
  | set (name value : String)
  | append (name item : String)
  | remove (name : String)
  deriving DecidableEq

def perform (header : Header) : Operation -> Header
  | .read limits stream =>
      match Header.read limits stream with
      | .ok (found, _) => found
      | .error _ => header
  | .receive name value => header.receive name value
  | .set name value => header.set name value
  | .append name item => header.append name item
  | .remove name => (header.withdraw name).2

def performAll (operations : List Operation) : Header :=
  operations.foldl perform empty

/-- Every operation keeps the names of the fields apart. -/
theorem apart_perform {header : Header}
    (h : (header.fields.map Field.name).Pairwise NamesApart) (operation : Operation) :
    ((header.perform operation).fields.map Field.name).Pairwise NamesApart := by
  cases operation with
  | read limits stream =>
      unfold perform
      dsimp only
      split
      · next hread => exact (sendable_read hread).apart
      · exact h
  | receive name value =>
      unfold perform receive
      dsimp only
      split
      · next hcookie => exact apart_push h hcookie
      · exact apart_upsert h
  | set name value => exact apart_upsert h
  | append name item => exact apart_upsert h
  | remove name => exact h.sublist (List.eraseP_sublist.map Field.name)

private theorem apart_performAll (operations : List Operation) :
    ((performAll operations).fields.map Field.name).Pairwise NamesApart := by
  have hall : ∀ header : Header, (header.fields.map Field.name).Pairwise NamesApart ->
      ((operations.foldl perform header).fields.map Field.name).Pairwise NamesApart := by
    induction operations with
    | nil => exact fun _ h => h
    | cons operation operations ih => exact fun _ h => ih _ (apart_perform h operation)
  exact hall empty List.Pairwise.nil

/-! ## The first field of a name -/

def Lacks (header : Header) (name : String) : Prop :=
  ∀ field ∈ header.fields, sameIgnoringCase field.name name = false

/-- The first field of a name, and the fields before and after it. -/
structure First (header : Header) (name : String) (before : List Field) (field : Field)
    (after : List Field) : Prop where
  fields : header.fields = before ++ field :: after
  before : ∀ other ∈ before, sameIgnoringCase other.name name = false
  named : sameIgnoringCase field.name name = true

variable {header : Header} {name : String} {before after : List Field} {field : Field}

private theorem first_or_lacks (header : Header) (name : String) :
    (∃ before field after, First header name before field after) ∨ header.Lacks name := by
  rcases upsert_cases name "" id header.fields with
    ⟨before, field, after, hfields, hbefore, hnamed, _⟩ | ⟨hlacks, _⟩
  · exact .inl ⟨before, field, after, hfields, hbefore, hnamed⟩
  · exact .inr hlacks

theorem First.get?_eq (h : First header name before field after) :
    header.get? name = some field.value := by
  have hnone : before.find? (sameIgnoringCase ·.name name) = none :=
    List.find?_eq_none.2 fun other hother => by simp [h.before other hother]
  unfold get? find?
  rw [h.fields, List.find?_append, hnone]
  simp [h.named]

theorem First.upsert_eq (h : First header name before field after) (fresh : String)
    (update : String -> String) :
    upsert name fresh update header.fields =
      before ++ { field with value := update field.value } :: after := by
  obtain ⟨hfields, hbefore, hnamed⟩ := h
  rw [hfields]
  clear hfields
  induction before with
  | nil => simp [upsert, hnamed]
  | cons other before ih =>
      obtain ⟨hother, hbefore⟩ := List.forall_mem_cons.1 hbefore
      simp [upsert, hother, ih hbefore]

theorem First.remove_eq (h : First header name before field after) :
    header.remove name = ⟨before ++ after⟩ := by
  have hnone : ∀ other ∈ before, ¬ sameIgnoringCase other.name name = true :=
    fun other hother => by simp [h.before other hother]
  unfold remove
  rw [h.fields, List.eraseP_append_right _ hnone]
  simp [h.named]

theorem Lacks.get?_eq (h : header.Lacks name) : header.get? name = none := by
  unfold get? find?
  rw [List.find?_eq_none.2 fun other hother => by simp [h other hother]]
  rfl

theorem Lacks.remove_eq (h : header.Lacks name) : header.remove name = header := by
  have hnone : ∀ other ∈ header.fields, ¬ sameIgnoringCase other.name name = true :=
    fun other hother => by simp [h other hother]
  unfold remove
  rw [List.eraseP_of_forall_not hnone]

theorem contains_eq_false_iff : header.contains name = false ↔ header.Lacks name := by
  rw [contains_eq_any, List.any_eq_false]
  simp [Lacks]

/-- What a field is worth as a number, where one is asked for. -/
def numberOf (name value : String) : Except MessageError Nat :=
  match numeral? 10 wordBound value with
  | some n => .ok n
  | none => .error (.framing (.notNumeric name value))

/-- A name that is there: all is asked of its first field, and done to it alone. -/
structure ActsOn (header : Header) (name : String) (before : List Field) (field : Field)
    (after : List Field) : Prop where
  get? : header.get? name = some field.value
  contains : header.contains name = true
  number : header.number name = numberOf name field.value
  items : header.items name = valueItems field.value
  set : ∀ value,
    header.set name value = ⟨before ++ { field with value := value } :: after⟩
  append : ∀ item, header.append name item =
    ⟨before ++ { field with value := joined field.value item } :: after⟩
  withdraw : header.withdraw name = (some field.value, ⟨before ++ after⟩)

/-- A name that is not there: nothing is found, and a field of it comes last. -/
structure Adds (header : Header) (name : String) : Prop where
  get? : header.get? name = none
  contains : header.contains name = false
  number : header.number name = .error (.framing (.fieldMissing name))
  items : header.items name = []
  set : ∀ value, header.set name value = ⟨header.fields ++ [⟨name, value⟩]⟩
  append : ∀ item, header.append name item = ⟨header.fields ++ [⟨name, item⟩]⟩
  withdraw : header.withdraw name = (none, header)

private theorem First.actsOn (h : First header name before field after) :
    header.ActsOn name before field after where
  get? := h.get?_eq
  contains := by rw [Header.contains, h.get?_eq]; rfl
  number := by rw [Header.number, h.get?_eq]; rfl
  items := by rw [Header.items, h.get?_eq]
  set value := by rw [Header.set, h.upsert_eq]
  append item := by rw [Header.append, h.upsert_eq]
  withdraw := by rw [Header.withdraw, h.get?_eq, h.remove_eq]

private theorem Lacks.adds (h : header.Lacks name) : header.Adds name where
  get? := h.get?_eq
  contains := contains_eq_false_iff.2 h
  number := by rw [Header.number, h.get?_eq]
  items := by rw [Header.items, h.get?_eq]
  set value := by rw [Header.set, upsert_of_absent h]
  append item := by rw [Header.append, upsert_of_absent h]
  withdraw := by rw [Header.withdraw, h.get?_eq, h.remove_eq]

/-- Where names are apart, the first field of a name that is joined is its only one. -/
theorem First.lacks_remove (h : First header name before field after)
    (hapart : (header.fields.map Field.name).Pairwise NamesApart)
    (hname : sameIgnoringCase name setCookie = false) :
    Lacks ⟨before ++ after⟩ name := by
  rw [h.fields, List.map_append, List.map_cons, List.pairwise_append] at hapart
  obtain ⟨_, hafter, _⟩ := hapart
  refine List.forall_mem_append.2 ⟨h.before, fun other hother => ?_⟩
  refine Bool.eq_false_iff.2 fun hsame => ?_
  have hcookie := (List.pairwise_cons.1 hafter).1 other.name (List.mem_map_of_mem hother)
    (sameIgnoringCase_trans h.named (sameIgnoringCase_comm _ _ ▸ hsame))
  rw [sameIgnoringCase_congr_left h.named, hname] at hcookie
  cases hcookie

/-! ## Ordered maps -/

/--
A header is a map from names to values that keeps its fields in order: no name that
is joined has two fields, and questions and changes go to the first field of a name.
-/
structure IsOrderedMap (header : Header) : Prop where
  apart : (header.fields.map Field.name).Pairwise NamesApart
  total : ∀ name, (∃ before field after, First header name before field after) ∨
    header.Lacks name
  first : ∀ name before field after, First header name before field after ->
    header.ActsOn name before field after
  lacks : ∀ name, header.Lacks name -> header.Adds name
  removed : ∀ name, sameIgnoringCase name setCookie = false ->
    (header.withdraw name).2.contains name = false
  found : ∀ name value, (header.set name value).get? name = some value

private theorem isOrderedMap_of_apart (h : (header.fields.map Field.name).Pairwise NamesApart) :
    header.IsOrderedMap where
  apart := h
  total := first_or_lacks header
  first _ _ _ _ hfirst := hfirst.actsOn
  lacks _ hlacks := hlacks.adds
  removed name hname := by
    rcases first_or_lacks header name with ⟨before, field, after, hfirst⟩ | hlacks
    · rw [hfirst.actsOn.withdraw]
      exact contains_eq_false_iff.2 (hfirst.lacks_remove h hname)
    · rw [hlacks.adds.withdraw]
      exact hlacks.adds.contains
  found := get?_set_self header

/-- However a header was made, it is an ordered map. -/
theorem isOrderedMap_performAll (operations : List Operation) :
    (performAll operations).IsOrderedMap :=
  isOrderedMap_of_apart (apart_performAll operations)

example : performAll
    [.read ⟨40, 5, 0⟩ (Bytes.ofText "a: 1\r\nSet-Cookie: x\r\nA: 2\r\nset-cookie: y\r\n\r\n"),
      .set "A" "3", .remove "SET-COOKIE", .append "b" "4"] =
    ⟨[⟨"a", "3"⟩, ⟨"set-cookie", "y"⟩, ⟨"b", "4"⟩]⟩ := by
  decide +kernel

end Header

end Intermediary

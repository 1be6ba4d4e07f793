import Intermediary.Proofs.Header.Fields

/-!
# The items of a field

A value that is written as a list is the same list whatever blanks and empty
items stand in it.  Joining two values joins their items, so that a header shows
every item it was given under a name, in order.
-/

namespace Intermediary

open Text

namespace Header

/-! ## The items of a value -/

private theorem valueItems_empty : valueItems "" = [] := by
  decide

/-- The items of two values that are joined are those of the one and then of the other. -/
theorem valueItems_joined (value item : String) :
    valueItems (joined value item) = valueItems value ++ valueItems item := by
  unfold joined
  split
  · next hempty => rw [hempty, valueItems_empty, List.nil_append]
  · have hlist : (value ++ listSeparator ++ item).toList =
        value.toList ++ ',' :: ([' '] ++ item.toList) := by
      simp [listSeparator]
    have hspace : AllBlank [' '] := by
      simp [AllBlank, isBlank]
    unfold valueItems
    rw [map_trim_pieces, hlist, List.splitOn_append_cons_self, List.map_append,
      map_trimChars_splitOn_before (by decide) hspace, List.map_append,
      ← map_trim_pieces, ← map_trim_pieces, List.filter_append]

/-- A text that stands in a list as one item of it. -/
structure IsItem (text : String) : Prop where
  ne_empty : text ≠ ""
  trimmed : Trimmed text.toList
  no_comma : ',' ∉ text.toList

theorem valueItems_of_isItem {text : String} (h : IsItem text) : valueItems text = [text] := by
  unfold valueItems
  rw [map_trim_pieces, List.splitOn_eq_singleton h.no_comma]
  simp [trimChars_of_trimmed h.trimmed, h.ne_empty]

/-! ## The items of a header -/

private theorem items_append_of_ne {header : Header} {name other item : String}
    (h : sameIgnoringCase name other = false) :
    (header.append name item).items other = header.items other := by
  simp only [items, get?_append_of_ne h]

theorem items_set_of_ne {header : Header} {name other value : String}
    (h : sameIgnoringCase name other = false) :
    (header.set name value).items other = header.items other := by
  simp only [items, get?_set_of_ne h]

theorem items_append_self (header : Header) (name item : String) :
    (header.append name item).items name = header.items name ++ valueItems item := by
  simp only [items, get?_append_self, valueItems_joined]
  cases header.get? name with
  | none => simp [valueItems_empty]
  | some value => rfl

/-- A received line adds its items to the list of its name, and to no other. -/
theorem items_receive {header : Header} {asked : String}
    (hasked : sameIgnoringCase asked setCookie = false) (name value : String) :
    (header.receive name value).items asked =
      header.items asked ++ if sameIgnoringCase name asked then valueItems value else [] := by
  unfold receive
  by_cases hsame : sameIgnoringCase name asked = true
  · -- A name that is asked for here is not one whose lines stand for themselves.
    rw [if_pos hsame, sameIgnoringCase_congr_left hsame, hasked]
    simp only [Bool.false_eq_true, if_false]
    have hget : ∀ grown : Header, grown.items asked = grown.items name := by
      intro grown
      simp only [items, get?_congr hsame]
    rw [hget, hget, items_append_self]
  · have hne : sameIgnoringCase name asked = false := by simpa using hsame
    rw [if_neg hsame, List.append_nil]
    split
    · simp only [items, get?_push_of_ne hne]
    · exact items_append_of_ne hne

end Header

end Intermediary

import Intermediary.Toml.Reader

/-!
# Integers of a document

An integer that is read has sixty-four bits with a sign.  A document is built
from what was read by entering values into tables, which adds no integer, so
that every integer of a document is within these bounds, however deep it stands.
-/

namespace Intermediary

namespace Toml

open Text

def IsLong (n : Int) : Prop :=
  -integerBound ≤ n ∧ n < integerBound

/-- All integers in a value have sixty-four bits with a sign. -/
inductive Value.Long : Value -> Prop where
  | text {content} : Long (.text content)
  | integer {n} (h : IsLong n) : Long (.integer n)
  | float {spelled} : Long (.float spelled)
  | boolean {b} : Long (.boolean b)
  | moment {spelled} : Long (.moment spelled)
  | array {items} (h : ∀ item ∈ items, Long item) : Long (.array items)
  | table {standing fields} (h : ∀ entry ∈ fields, Long entry.2) :
      Long (.table standing fields)
  | tables {members} (h : ∀ fields ∈ members, ∀ entry ∈ fields, Long entry.2) :
      Long (.tables members)

/-- All integers in a table have sixty-four bits with a sign. -/
def Fields.Long (fields : Fields) : Prop :=
  ∀ entry ∈ fields, entry.2.Long

/-! ## What is read -/

private theorem isLong_of_basedInteger? {base : Nat} {cs rest : List Char} {n : Int}
    (h : basedInteger? base cs = some (n, rest)) : IsLong n := by
  unfold basedInteger? at h
  split at h
  · cases h
  · split at h
    · split at h
      · next hlt =>
        cases h
        exact ⟨by omega, by omega⟩
      · cases h
    · cases h

private theorem isLong_of_decimalInteger? {cs rest : List Char} {n : Int}
    (h : decimalInteger? cs = some (n, rest)) : IsLong n := by
  unfold decimalInteger? at h
  dsimp only at h
  split at h
  · cases h
  · split at h
    · cases h
    · split at h
      · split at h
        · cases h
          exact ⟨by omega, by simp only [integerBound]; omega⟩
        · cases h
      · split at h
        · cases h
          exact ⟨by omega, by omega⟩
        · cases h

private theorem isLong_of_integer? {cs rest : List Char} {n : Int}
    (h : integer? cs = some (n, rest)) : IsLong n := by
  unfold integer? at h
  split at h
  · exact isLong_of_basedInteger? h
  · exact isLong_of_basedInteger? h
  · exact isLong_of_basedInteger? h
  · exact isLong_of_decimalInteger? h

private theorem long_of_measure? {cs rest : List Char} {value : Value}
    (h : measure? cs = some (value, rest)) : value.Long := by
  unfold measure? at h
  split at h
  · cases h
    exact .moment
  · split at h
    · cases h
      exact .float
    · obtain ⟨⟨n, after⟩, hn, hvalue⟩ := Option.map_eq_some_iff.1 h
      cases hvalue
      exact .integer (isLong_of_integer? hn)

def Round.All {α : Type} (P : α -> Prop) : Round α -> Prop
  | .more found _ => P found
  | .last found _ => ∀ item, found = some item -> P item

section Collect

variable {α : Type} {P : α -> Prop} {round : List Char -> Option (Round α)}
  (hround : ∀ cs result, round cs = some result -> result.All P)

include hround

private theorem forall_of_collectAux {fuel : Nat} {found items : List α} {cs rest : List Char}
    (hfound : ∀ item ∈ found, P item)
    (h : collectAux round fuel found cs = some (items, rest)) : ∀ item ∈ items, P item := by
  induction fuel generalizing found cs with
  | zero => cases h
  | succ fuel ih =>
      unfold collectAux at h
      split at h
      · cases h
      · next next after hnext =>
        refine ih ?_ h
        intro item hmem
        rcases List.mem_cons.1 hmem with rfl | hmem
        · exact hround _ _ hnext
        · exact hfound item hmem
      · next last after hlast =>
        cases h
        intro item hmem
        rcases List.mem_append.1 (List.mem_reverse.1 hmem) with hmem | hmem
        · exact hround _ _ hlast item (Option.mem_toList.1 hmem)
        · exact hfound item hmem

theorem forall_of_collect {items : List α} {cs rest : List Char}
    (h : collect round cs = some (items, rest)) : ∀ item ∈ items, P item :=
  forall_of_collectAux hround (fun _ hmem => absurd hmem List.not_mem_nil) h

end Collect

/-! ## What is built -/

namespace Fields

variable {fields result : Fields} {key : String} {value : Value}

theorem Long.find? (h : fields.Long) (hvalue : fields.find? key = some value) : value.Long := by
  obtain ⟨front, back, rfl, _⟩ := List.lookup_eq_some_iff.1 hvalue
  exact h (key, value) (by simp)

theorem Long.replace (h : fields.Long) (hvalue : value.Long) :
    (fields.replace key value).Long := by
  intro entry hmem
  obtain ⟨old, hold, rfl⟩ := List.mem_map.1 hmem
  split
  · exact hvalue
  · exact h old hold

theorem Long.snoc (h : fields.Long) (hvalue : value.Long) :
    Fields.Long (fields ++ [(key, value)]) :=
  List.forall_mem_append.2 ⟨h, List.forall_mem_singleton.2 hvalue⟩

private theorem Long.add? (h : fields.Long) (hvalue : value.Long)
    (hadd : fields.add? key value = some result) : result.Long := by
  unfold Fields.add? at hadd
  split at hadd
  · cases hadd
  · cases hadd
    exact h.snoc hvalue

theorem long_nil : Fields.Long [] := fun _ hmem => absurd hmem List.not_mem_nil

theorem long_tables_snoc {members : List Fields} {last : Fields}
    (hmembers : ∀ fields ∈ members, fields.Long) (hlast : last.Long) :
    Value.Long (.tables (members ++ [last])) :=
  .tables (List.forall_mem_append.2 ⟨hmembers, List.forall_mem_singleton.2 hlast⟩)

/-- A change at the end of a path that keeps the bounds there keeps them everywhere. -/
theorem Long.within {dotted : Bool} {change : Standing -> Fields -> Option Fields}
    (hchange : ∀ standing (before after : Fields), before.Long ->
      change standing before = some after -> after.Long)
    {path : List String} {standing : Standing} (h : fields.Long)
    (hresult : fields.within dotted change path standing = some result) : result.Long := by
  -- Along the path stands a new table, a table, or the last of several.
  induction path generalizing standing fields result with
  | nil => exact hchange standing fields result h hresult
  | cons key path ih =>
      unfold Fields.within at hresult
      split at hresult
      · obtain ⟨inner, hinner, hsome⟩ := Option.bind_eq_some_iff.1 hresult
        cases hsome
        exact h.snoc (.table (ih long_nil hinner))
      · next old inside hfound =>
        split at hresult
        · cases hresult
        · obtain ⟨inner, hinner, hsome⟩ := Option.bind_eq_some_iff.1 hresult
          cases hsome
          cases h.find? hfound with
          | table hinside => exact h.replace (.table (ih hinside hinner))
      · next members hfound =>
        split at hresult
        · cases hresult
        · next last hlast =>
          obtain ⟨inner, hinner, hsome⟩ := Option.bind_eq_some_iff.1 hresult
          cases hsome
          cases h.find? hfound with
          | tables hmembers =>
              have hlong := ih (hmembers last (List.mem_of_getLast? hlast)) hinner
              refine h.replace (long_tables_snoc ?_ hlong)
              intro fields hmem
              exact hmembers fields (List.dropLast_subset members hmem)
      · cases hresult

private theorem Long.enter {path : List String} {standing : Standing} (h : fields.Long)
    (hvalue : value.Long) (hresult : fields.enter path key value standing = some result) :
    result.Long := by
  refine h.within (fun reached before after hbefore hafter => ?_) hresult
  split at hafter
  · cases hafter
  · exact hbefore.add? hvalue hafter

private theorem Long.openTable {path : List String} (h : fields.Long)
    (hresult : fields.openTable path key = some result) : result.Long := by
  refine h.within (fun _ before after hbefore hafter => ?_) hresult
  split at hafter
  · cases hafter
    exact hbefore.snoc (.table long_nil)
  · next old hfound =>
    cases hafter
    cases hbefore.find? hfound with
    | table hold => exact hbefore.replace (.table hold)
  · cases hafter

private theorem Long.openMember {path : List String} (h : fields.Long)
    (hresult : fields.openMember path key = some result) : result.Long := by
  refine h.within (fun _ before after hbefore hafter => ?_) hresult
  split at hafter
  · cases hafter
    exact hbefore.snoc (.tables (List.forall_mem_singleton.2 long_nil))
  · next members hfound =>
    cases hafter
    cases hbefore.find? hfound with
    | tables hmembers => exact hbefore.replace (long_tables_snoc hmembers long_nil)
  · cases hafter

end Fields

theorem foldlM_keeps {α β : Type} {P : β -> Prop} {step : β -> α -> Option β} {items : List α}
    (hstep : ∀ item ∈ items, ∀ before after, P before -> step before item = some after -> P after)
    {first last : β} (hfirst : P first) (h : items.foldlM step first = some last) : P last := by
  induction items generalizing first with
  | nil =>
      cases h
      exact hfirst
  | cons item items ih =>
      rw [List.foldlM_cons] at h
      obtain ⟨next, hnext, hrest⟩ := Option.bind_eq_some_iff.1 h
      refine ih (fun later hmem => hstep later (List.mem_cons_of_mem item hmem)) ?_ hrest
      exact hstep item List.mem_cons_self first next hfirst hnext

private theorem long_of_inlineTable? {entries : List ((List String × String) × Value)}
    {value : Value}
    (hentries : ∀ entry ∈ entries, entry.2.Long) (h : inlineTable? entries = some value) :
    value.Long := by
  obtain ⟨fields, hfields, rfl⟩ := Option.map_eq_some_iff.1 h
  refine .table (foldlM_keeps (P := Fields.Long) ?_ Fields.long_nil hfields)
  intro entry hmem before after hbefore hafter
  exact hbefore.enter (hentries entry hmem) hafter

/-! ## What a document says -/

section Nested

variable {inner : Reader Value}
  (hinner : ∀ cs value rest, inner cs = some (value, rest) -> value.Long)

include hinner

private theorem long_of_assignment? {cs rest : List Char} {entry : (List String × String) × Value}
    (h : assignment? inner cs = some (entry, rest)) : entry.2.Long := by
  unfold assignment? at h
  split at h
  · obtain ⟨⟨value, after⟩, hvalue, hentry⟩ := Option.map_eq_some_iff.1 h
    cases hentry
    exact hinner _ _ _ hvalue
  · cases h

private theorem all_of_itemRound {cs : List Char} {result : Round Value}
    (h : itemRound inner cs = some result) : result.All Value.Long := by
  unfold itemRound at h
  split at h
  · cases h
  · cases h
    intro item hitem
    cases hitem
  · split at h
    · cases h
    · next item rest hitem =>
      have hlong := hinner _ _ _ hitem
      split at h
      · cases h
        exact hlong
      · cases h
        intro last hlast
        cases hlast
        exact hlong
      · cases h

private theorem all_of_inlineRound {cs : List Char}
    {result : Round ((List String × String) × Value)}
    (h : inlineRound inner cs = some result) : result.All fun entry => entry.2.Long := by
  unfold inlineRound at h
  split at h
  · cases h
  · next entry rest hentry =>
    have hlong := long_of_assignment? hinner hentry
    split at h
    · cases h
      exact hlong
    · cases h
      intro last hlast
      cases hlast
      exact hlong
    · cases h

private theorem long_of_array? {cs rest : List Char} {value : Value}
    (h : array? inner cs = some (value, rest)) : value.Long := by
  obtain ⟨⟨items, after⟩, hitems, hvalue⟩ := Option.map_eq_some_iff.1 h
  cases hvalue
  exact .array (forall_of_collect (fun _ _ => all_of_itemRound hinner) hitems)

private theorem long_of_braced? {cs rest : List Char} {value : Value}
    (h : braced? inner cs = some (value, rest)) : value.Long := by
  unfold braced? at h
  split at h
  · cases h
    exact .table Fields.long_nil
  · split at h
    · cases h
    · next entries after hentries =>
      obtain ⟨table, htable, hvalue⟩ := Option.map_eq_some_iff.1 h
      cases hvalue
      exact long_of_inlineTable?
        (forall_of_collect (fun _ _ => all_of_inlineRound hinner) hentries) htable

end Nested

/-- Every integer in a value that is read has sixty-four bits with a sign. -/
private theorem long_of_value? {depth : Nat} {cs rest : List Char} {value : Value}
    (h : value? depth cs = some (value, rest)) : value.Long := by
  -- What stands between brackets or braces is read at a lesser depth.
  induction depth using Nat.strongRecOn generalizing cs rest value with
  | ind depth ih =>
    unfold value? at h
    split at h
    · split at h
      · cases h
      · next below =>
        exact long_of_array? (fun _ _ _ => ih below (Nat.lt_succ_self below)) h
    · split at h
      · cases h
      · next below =>
        exact long_of_braced? (fun _ _ _ => ih below (Nat.lt_succ_self below)) h
    · cases h
      exact .boolean
    · cases h
      exact .boolean
    · split at h
      · obtain ⟨⟨content, after⟩, _, hvalue⟩ := Option.map_eq_some_iff.1 h
        cases hvalue
        exact .text
      · split at h
        · exact long_of_measure? h
        · obtain ⟨⟨spelled, after⟩, _, hvalue⟩ := Option.map_eq_some_iff.1 h
          cases hvalue
          exact .float
    · cases h

/-- All integers that a line enters have sixty-four bits with a sign. -/
def Statement.Long : Statement -> Prop
  | .entry _ _ value => value.Long
  | _ => True

private theorem long_of_header? {make : List String -> String -> Statement}
    {close : List Char -> Option (List Char)} (hmake : ∀ path key, (make path key).Long)
    {cs rest : List Char} {statement : Statement}
    (h : header? make close cs = some (statement, rest)) : statement.Long := by
  unfold header? at h
  split at h
  · cases h
  · obtain ⟨after, _, hstatement⟩ := Option.map_eq_some_iff.1 h
    cases hstatement
    exact hmake _ _

private theorem long_of_statement? {cs rest : List Char} {statement : Statement}
    (h : statement? cs = some (statement, rest)) : statement.Long := by
  unfold statement? at h
  split at h
  · cases h
    trivial
  · exact long_of_header? (fun _ _ => by trivial) h
  · exact long_of_header? (fun _ _ => by trivial) h
  · split at h
    · cases h
      trivial
    · obtain ⟨⟨⟨⟨path, key⟩, value⟩, after⟩, hentry, hstatement⟩ := Option.map_eq_some_iff.1 h
      cases hstatement
      exact long_of_assignment? (fun _ _ _ => long_of_value?) hentry

private theorem all_of_lineRound? {cs : List Char} {result : Round Statement}
    (h : lineRound? cs = some result) : result.All Statement.Long := by
  unfold lineRound? at h
  split at h
  · cases h
    intro statement hmem
    cases hmem
  · split at h
    · cases h
    · next statement rest hstatement =>
      obtain ⟨after, _, hmore⟩ := Option.map_eq_some_iff.1 h
      cases hmore
      exact long_of_statement? hstatement

private theorem Draft.long_of_add {draft next : Draft} {statement : Statement}
    (hdraft : draft.fields.Long) (hstatement : statement.Long)
    (h : draft.add statement = some next) : next.fields.Long := by
  cases statement with
  | blank =>
      cases h
      exact hdraft
  | table path key =>
      obtain ⟨fields, hfields, hnext⟩ := Option.map_eq_some_iff.1 h
      cases hnext
      exact hdraft.openTable hfields
  | member path key =>
      obtain ⟨fields, hfields, hnext⟩ := Option.map_eq_some_iff.1 h
      cases hnext
      exact hdraft.openMember hfields
  | entry path key value =>
      obtain ⟨fields, hfields, hnext⟩ := Option.map_eq_some_iff.1 h
      cases hnext
      refine hdraft.within (fun standing before after hbefore hafter => ?_) hfields
      exact hbefore.enter hstatement hafter

/-- Every integer of a document has sixty-four bits with a sign. -/
theorem long_of_read {document : String} {fields : Fields} (h : read document = some fields) :
    fields.Long := by
  unfold read at h
  split at h
  · next statements hstatements =>
    obtain ⟨draft, hdraft, rfl⟩ := Option.map_eq_some_iff.1 h
    have hlong := forall_of_collect (fun _ _ => all_of_lineRound?) hstatements
    refine foldlM_keeps (P := fun draft => draft.fields.Long) ?_ Fields.long_nil hdraft
    intro statement hmem before after hbefore hafter
    exact Draft.long_of_add hbefore (hlong statement hmem) hafter
  · cases h

end Toml

end Intermediary

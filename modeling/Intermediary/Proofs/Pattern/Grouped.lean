import Intermediary.Proofs.Pattern.Step

/-!
# A pattern inside a group

A written pattern is read alike alone and inside a group, step by step, unless
it closes a parenthesis that it did not open.  What is left for the group is to
be closed, which fails where the pattern leaves one of its own groups open, or a
comment.
-/

namespace Intermediary

namespace Pattern

open Text

variable {c : Char} {cs : List Char}

/-! ## Whole drafts -/

def drafted (draft : Draft) (cs : List Char) : Option Draft :=
  draftAux (cs.length + 1) draft cs

theorem step_length {draft next : Draft} {rest after : List Char}
    (reached : skip draft.flags cs = c :: rest)
    (step : step? draft c rest = some (next, after)) : after.length < cs.length := by
  have rest_lt := length_of_skip reached
  have after_le := (step_suffix step).length_le
  omega

/-- As many steps as characters are enough. -/
theorem draftAux_congr {fuel fuel' : Nat} (draft : Draft) (enough : cs.length < fuel)
    (enough' : cs.length < fuel') : draftAux fuel draft cs = draftAux fuel' draft cs := by
  induction fuel generalizing fuel' draft cs with
  | zero => omega
  | succ fuel ih =>
      cases fuel' with
      | zero => omega
      | succ fuel' =>
          simp only [draftAux]
          split
          next => rfl
          next c rest reached =>
            split
            next => rfl
            next next after step =>
              have shorter := step_length reached step
              exact ih next (by omega) (by omega)

theorem drafted_of_end {draft : Draft} (nothing : skip draft.flags cs = []) :
    drafted draft cs = some draft := by
  simp only [drafted, draftAux, nothing]

theorem drafted_of_step {draft : Draft} {rest : List Char}
    (reached : skip draft.flags cs = c :: rest) :
    drafted draft cs = (step? draft c rest).bind fun (next, after) => drafted next after := by
  simp only [drafted, draftAux, reached]
  match step : step? draft c rest with
  | none => rfl
  | some (next, after) =>
      have shorter := step_length reached step
      exact draftAux_congr next (by omega) (Nat.lt_succ_self _)

/-- What is passed over before a step does not matter. -/
theorem drafted_congr {draft : Draft} {ds : List Char}
    (same : skip draft.flags cs = skip draft.flags ds) : drafted draft cs = drafted draft ds := by
  match reached : skip draft.flags ds with
  | [] => rw [drafted_of_end (same.trans reached), drafted_of_end reached]
  | c :: rest => rw [drafted_of_step (same.trans reached), drafted_of_step reached]

/-! ## What closes a group -/

/-- The draft after what closes its innermost group. -/
theorem drafted_closing (draft : Draft) :
    drafted draft closing = draft.leave?.map fun next =>
      next.add { pattern := .look (anchor next.flags true), depth := 0 } := by
  have reached : skip draft.flags closing = ')' :: ['$'] :=
    skip_of_suffix_closing draft.flags List.suffix_rfl
  rw [drafted_of_step reached]
  simp only [step?]
  cases draft.leave? with
  | none => rfl
  | some next =>
      simp only [Option.map_some, Option.bind_some, drafted_of_step (skip_anchor next.flags), step?]
      exact drafted_of_end (skip_nil _)

/-- The anchor alone leaves the levels as they are. -/
theorem outer_of_drafted_suffix {draft last : Draft} {rest : List Char} (ending : rest <:+ ['$'])
    (whole : drafted draft rest = some last) : last.outer = draft.outer := by
  rcases List.suffix_cons_iff.mp ending with rfl | ending
  · simp only [drafted_of_step (skip_anchor draft.flags), step?, Option.bind_some,
      drafted_of_end (skip_nil _), Option.some.injEq] at whole
    rw [← whole]
    rfl
  · rw [List.suffix_nil.mp ending, drafted_of_end (skip_nil _)] at whole
    cases whole
    rfl

/-! ## Reading inside a group -/

/-- A parenthesis of a written pattern closes no group of its own. -/
inductive Unopened : Draft -> List Char -> Prop
  | here {draft : Draft} {cs rest : List Char} (reached : skip draft.flags cs = ')' :: rest)
      (outermost : draft.outer = []) : Unopened draft cs
  | later {draft next : Draft} {c : Char} {cs rest after : List Char}
      (reached : skip draft.flags cs = c :: rest)
      (step : step? draft c rest = some (next, after)) (further : Unopened next after) :
      Unopened draft cs

/-- How reading ends when levels are put around a draft and `closing` behind the text. -/
inductive Ends (draft : Draft) (cs : List Char) : Prop
  /-- All of the text is read, and what closes is still ahead. -/
  | ahead (last : Draft) (alone : drafted draft cs = some last)
      (grouped : ∀ levels, drafted (draft.under levels) (cs ++ closing) =
        drafted (last.under levels) closing)
  /-- The text ends in a comment, which takes what closes. -/
  | within (last : Draft) (alone : drafted draft cs = some last)
      (grouped : ∀ levels, drafted (draft.under levels) (cs ++ closing) =
        some (last.under levels))
  /-- The text is not well-formed, and levels around it are never left. -/
  | broken (alone : drafted draft cs = none)
      (grouped : ∀ levels last, levels ≠ [] ->
        drafted (draft.under levels) (cs ++ closing) = some last -> last.outer ≠ [])

theorem drafted_under_of_step {draft : Draft} {rest : List Char}
    (reached : skip draft.flags cs = c :: rest) (inside : c = ')' -> draft.outer ≠ [])
    (levels : List Level) :
    drafted (draft.under levels) (cs ++ closing) =
      (step? draft c (rest ++ closing)).bind fun (next, after) =>
        drafted (next.under levels) after := by
  have reached' : skip (draft.under levels).flags (cs ++ closing) = c :: (rest ++ closing) :=
    skip_ahead reached
  rw [drafted_of_step reached', step_under levels draft _ c inside]
  cases step? draft c (rest ++ closing) <;> rfl

theorem Ends.of_step {draft next : Draft} {rest after : List Char}
    (reached : skip draft.flags cs = c :: rest) (inside : c = ')' -> draft.outer ≠ [])
    (step : step? draft c rest = some (next, after))
    (step' : step? draft c (rest ++ closing) = some (next, after ++ closing))
    (ends : Ends next after) : Ends draft cs := by
  have alone : drafted draft cs = drafted next after := by
    rw [drafted_of_step reached, step, Option.bind_some]
  have grouped (levels : List Level) : drafted (draft.under levels) (cs ++ closing) =
      drafted (next.under levels) (after ++ closing) := by
    rw [drafted_under_of_step reached inside, step', Option.bind_some]
  cases ends with
  | ahead last alone' grouped' =>
      exact .ahead last (alone.trans alone') fun levels => (grouped levels).trans (grouped' levels)
  | within last alone' grouped' =>
      exact .within last (alone.trans alone') fun levels =>
        (grouped levels).trans (grouped' levels)
  | broken alone' grouped' =>
      refine .broken (alone.trans alone') fun levels last some_level whole => ?_
      exact grouped' levels last some_level ((grouped levels).symm.trans whole)

/-- A brace that opens nothing, behind the edge of a word, is no part of a pattern. -/
theorem not_drafted_of_dangling {draft last : Draft} {inner : List Char}
    (reached : skip draft.flags (inner ++ closing) = closing) :
    drafted draft ('\x7b' :: (inner ++ closing)) ≠ some last := by
  have brace : skip draft.flags ('\x7b' :: (inner ++ closing)) = '\x7b' :: (inner ++ closing) := by
    unfold skip
    split <;> rfl
  have uncounted : count? draft.flags closing = none := by
    simp [count?, countDigits, closing, isBlank]
  rw [drafted_of_step brace]
  simp only [step?, bounds?, reached, uncounted]
  intro whole
  cases whole

/-- By induction on the text: each step is taken alike, and leaves a shorter one. -/
theorem unopened_or_ends (draft : Draft) (cs : List Char) : Unopened draft cs ∨ Ends draft cs := by
  induction h : cs.length using Nat.strongRecOn generalizing draft cs with
  | ind length ih =>
    subst h
    match reached : skip draft.flags cs with
    | [] =>
        right
        rcases skip_closing draft.flags cs with apart | ⟨-, far⟩
        · refine .ahead draft (drafted_of_end reached) fun levels => ?_
          rw [reached, List.nil_append] at apart
          exact drafted_congr (apart.trans (skip_of_suffix_closing _ List.suffix_rfl).symm)
        · exact .within draft (drafted_of_end reached) fun levels => drafted_of_end far
    | c :: rest =>
        by_cases unopened : c = ')' ∧ draft.outer = []
        · obtain ⟨rfl, outermost⟩ := unopened
          exact Or.inl (.here reached outermost)
        have inside : c = ')' -> draft.outer ≠ [] := fun parenthesis outermost =>
          unopened ⟨parenthesis, outermost⟩
        have grouped := drafted_under_of_step reached inside
        have alone := drafted_of_step reached
        rcases steady_or_dangling_step draft c rest with steady | ⟨rfl, dangling⟩
        · have meets := steady.meets
          generalize step : step? draft c rest = short at meets alone
          generalize step' : step? draft c (rest ++ closing) = long at meets grouped
          cases meets with
          | nothing =>
              refine Or.inr (.broken alone fun levels last _ whole => ?_)
              rw [grouped] at whole
              cases whole
          | ahead next after =>
              rcases ih after.length (step_length reached step) next after rfl with further | ends
              · exact Or.inl (.later reached step further)
              · exact Or.inr (ends.of_step reached inside step step')
          | within next =>
              refine Or.inr (.within next ?_ fun levels => ?_)
              · exact alone.trans (drafted_of_end (skip_nil next.flags))
              · exact (grouped levels).trans (drafted_of_end (skip_nil next.flags))
          | beyond next after taken =>
              refine Or.inr (.broken alone fun levels last some_level whole => ?_)
              rw [grouped] at whole
              rw [outer_of_drafted_suffix taken whole]
              simp [some_level]
        · obtain ⟨condition, inner, reached', found⟩ := dangling.long
          refine Or.inr (.broken ?_ fun levels last _ whole => ?_)
          · simp [alone, step?, addEscape?, dangling.short]
          · simp only [grouped, step?, addEscape?, found, Option.bind_some] at whole
            exact absurd whole (not_drafted_of_dangling reached')

/-! ## Whole patterns -/

/-- A parenthesis that closes no group is not well-formed. -/
theorem Unopened.not_drafted {draft : Draft} {cs : List Char} (unopened : Unopened draft cs) :
    drafted draft cs = none := by
  induction unopened with
  | here reached outermost => simp [drafted_of_step reached, step?, Draft.leave?, outermost]
  | later reached step further ih =>
      rw [drafted_of_step reached, step]
      exact ih

/-- What a text writes, with its depth of nesting, where every group is closed. -/
def item? (text : String) : Option Item :=
  (drafted {} text.toList).bind fun draft =>
    if draft.outer.isEmpty then some draft.whole else none

theorem ofText_eq (text : String) :
    ofText? text = (item? text).bind fun item =>
      if item.depth ≤ depthBound then some item.pattern else none := by
  unfold ofText? item? drafted
  cases draftAux (text.toList.length + 1) {} text.toList with
  | none => rfl
  | some draft =>
      cases closed : draft.outer <;> simp [closed]

theorem item_of_closed {text : String} {last : Draft} (whole : drafted {} text.toList = some last)
    (closed : last.outer = []) : item? text = some last.whole := by
  simp [item?, whole, closed]

theorem item_of_open {text : String} (left : ∀ last, drafted {} text.toList = some last ->
    last.outer ≠ []) : item? text = none := by
  unfold item?
  match whole : drafted {} text.toList with
  | none => rfl
  | some last => simp [left last whole]

end Pattern

end Intermediary

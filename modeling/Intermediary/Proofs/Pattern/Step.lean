import Intermediary.Pattern.Reader
import Intermediary.Proofs.Pattern.Class

/-!
# The parts of a pattern in front of a closing parenthesis

Every part that a written pattern can start with is read alike whether or not a
closing parenthesis stands behind the pattern, and the levels around the
present one do not matter to it, unless it is a closing parenthesis itself.
-/

namespace Intermediary

namespace Pattern

open Text

variable {α β : Type} {c : Char} {cs : List Char}

/-! ## Groups -/

private theorem steady_groupName (cs : List Char) :
    Steady cs (groupName? cs) (groupName? (cs ++ closing)) := by
  unfold groupName?
  match found : cs.span (· != '>') with
  | (before, []) =>
      have passed : closing.span (· != '>') = (closing, []) := rfl
      rw [span_append_nil found, passed]
      cases before <;> cases cs <;> exact steady_none _
  | (before, c :: after) =>
      rw [span_append_cons found]
      refine Steady.of_suffix ?_ ((List.suffix_cons c after).trans (span_suffix found))
      match before with
      | [] => exact steady_none after
      | first :: others => exact steady_ite (steady_pure _ after) (steady_none after)

theorem enterNamed_eq (draft : Draft) (cs : List Char) :
    enterNamed? draft cs = (groupName? cs).bind fun (name, rest) =>
      if draft.names.contains name then none
      else some ({ draft.enter draft.flags with names := name :: draft.names }, rest) := by
  unfold enterNamed?
  cases groupName? cs <;> rfl

private theorem steady_enterNamed (draft : Draft) (cs : List Char) :
    Steady cs (enterNamed? draft cs) (enterNamed? draft (cs ++ closing)) := by
  simp only [enterNamed_eq]
  exact (steady_groupName cs).bind fun name rest =>
    steady_ite (steady_none rest) (steady_pure _ rest)

private theorem steady_changeFlags (draft : Draft) (cs : List Char) :
    Steady cs (changeFlags? draft cs) (changeFlags? draft (cs ++ closing)) := by
  unfold changeFlags?
  match found : cs.span (fun c => c != ':' && c != ')') with
  | (written, []) =>
      -- The parenthesis ends the flags.
      have stopped : closing.span (fun c => c != ':' && c != ')') = ([], closing) := rfl
      refine steady_beyond fun value rest taken => ?_
      rw [span_append_nil found, stopped] at taken
      obtain ⟨-, taken⟩ := Option.ite_none_left_eq_some.mp taken
      obtain ⟨flags, -, ⟨⟩⟩ := Option.map_eq_some_iff.mp taken
      exact List.suffix_rfl
  | (written, c :: after) =>
      rw [span_append_cons found]
      refine Steady.of_suffix ?_ ((List.suffix_cons c after).trans (span_suffix found))
      split
      next written after same =>
        cases same
        exact steady_map (draft.flags.changed? written) draft.enter after
      next written after same =>
        cases same
        refine steady_ite (steady_none after) ?_
        exact steady_map (draft.flags.changed? written) _ after
      next neither also =>
        split
        next found => cases found; exact absurd rfl (neither _ _)
        next found => cases found; exact absurd rfl (also _ _)
        next => exact steady_none after

/-- The draft after an opening parenthesis and a question mark. -/
def enterMarked? (draft : Draft) : List Char -> Option (Draft × List Char)
  | '=' :: _ => none
  | '!' :: _ => none
  | '<' :: '=' :: _ => none
  | '<' :: '!' :: _ => none
  | 'P' :: '<' :: rest => enterNamed? draft rest
  | '<' :: rest => enterNamed? draft rest
  | rest => changeFlags? draft rest

theorem enterGroup_eq (draft : Draft) (cs : List Char) :
    enterGroup? draft cs =
      match skip draft.flags cs with
      | '?' :: rest => enterMarked? draft rest
      | rest => some (draft.enter draft.flags, rest) := by
  unfold enterGroup?
  split
  case h_8 =>
    split
    next => simp_all
    next => rfl
  all_goals simp_all [enterMarked?]

private theorem steady_enterMarked (draft : Draft) (cs : List Char) :
    Steady cs (enterMarked? draft cs) (enterMarked? draft (cs ++ closing)) := by
  fun_cases enterMarked? draft cs with
  | case1 | case2 | case3 | case4 => exact steady_none _
  | case5 rest => exact (steady_enterNamed draft rest).cons.cons
  | case6 rest unequal unmarked =>
      rw [List.cons_append, enterMarked?]
      · exact (steady_enterNamed draft rest).cons
      all_goals cases rest <;> simp_all [closing]
  | case7 =>
      rw [enterMarked?]
      · exact steady_changeFlags draft cs
      all_goals rcases cs with _ | ⟨c, _ | ⟨d, cs⟩⟩ <;> simp_all [closing]

private theorem steady_enterGroup (draft : Draft) (cs : List Char) :
    Steady cs (enterGroup? draft cs) (enterGroup? draft (cs ++ closing)) := by
  simp only [enterGroup_eq]
  refine skip_elim draft.flags cs (fun rest ending => Steady.of_suffix ?_ ending) ?_
  · split
    next rest => exact (steady_enterMarked draft rest).cons
    next unmarked =>
      split
      next found => cases rest <;> simp_all [closing]
      next => exact steady_pure (draft.enter draft.flags) rest
  · exact steady_within (by rintro _ rest ⟨⟩; rfl)

/-! ## Bounds of repetitions -/

private theorem skipLazy_suffix (cs : List Char) : skipLazy cs <:+ cs := by
  unfold skipLazy
  split
  next cs => exact List.suffix_cons '?' cs
  next => exact List.suffix_rfl

private theorem skipLazy_closing (cs : List Char) :
    skipLazy (cs ++ closing) = skipLazy cs ++ closing := by
  unfold skipLazy
  cases cs with
  | nil => rfl
  | cons c cs => split <;> simp_all

private theorem steady_skipLazy (given : Option α) (cs : List Char) :
    Steady cs (given.map fun value => (value, skipLazy cs))
      (given.map fun value => (value, skipLazy (cs ++ closing))) := by
  rw [skipLazy_closing]
  exact (steady_map given id (skipLazy cs)).of_suffix (skipLazy_suffix cs)

private theorem steady_countDigits (flags : Flags) (inComment : Bool) (taken cs : List Char) :
    Steady cs (some (countDigits flags inComment taken cs))
      (some (countDigits flags inComment taken (cs ++ closing))) := by
  induction cs generalizing inComment taken with
  | nil =>
      cases inComment with
      | true => exact steady_within (by rintro _ rest ⟨⟩; rfl)
      | false =>
          have stopped : countDigits flags false taken closing = (taken.reverse, closing) := by
            simp [countDigits, closing, isBlank]
          rw [List.nil_append, stopped]
          exact steady_pure taken.reverse []
  | cons c cs ih =>
      simp only [countDigits, List.cons_append]
      split_ifs
      · exact (ih (c != '\n') taken).cons
      · exact (ih false (c :: taken)).cons
      · exact (ih false taken).cons
      · exact (ih true taken).cons
      · exact steady_pure taken.reverse (c :: cs)

theorem dropBlanks_closing (cs : List Char) :
    (cs ++ closing).dropWhile isBlank = cs.dropWhile isBlank ++ closing := by
  rw [List.dropWhile_append]
  split
  next empty =>
    rw [List.isEmpty_iff] at empty
    rw [empty]
    rfl
  next => rfl

theorem count_eq (flags : Flags) (cs : List Char) :
    count? flags cs =
      (some (countDigits flags false [] (cs.dropWhile isBlank))).bind fun (digits, rest) =>
        if digits.isEmpty then none
        else
          match digits? 10 0 digits with
          | some n =>
              if n < countBound then some (n, skip flags (rest.dropWhile isBlank)) else none
          | none => none :=
  rfl

private theorem steady_count (flags : Flags) (cs : List Char) :
    Steady cs (count? flags cs) (count? flags (cs ++ closing)) := by
  have counted := steady_countDigits flags false [] (cs.dropWhile isBlank)
  rw [count_eq, count_eq, dropBlanks_closing]
  refine Steady.of_suffix (counted.bind fun digits rest => ?_) (List.dropWhile_suffix isBlank)
  refine steady_ite (steady_none rest) ?_
  cases digits? 10 0 digits with
  | none => exact steady_none rest
  | some n =>
      refine steady_ite ?_ (steady_none rest)
      rw [dropBlanks_closing]
      exact (Steady.skip (steady_pure n) flags _).of_suffix (List.dropWhile_suffix isBlank)

/-- A closing brace is no part of what closes. -/
theorem steady_brace {near : List Char -> Option (α × List Char)}
    (steady : ∀ cs, Steady cs (near cs) (near (cs ++ closing))) (cs : List Char) :
    Steady cs
      (match cs with
        | '\x7d' :: rest => near rest
        | _ => none)
      (match cs ++ closing with
        | '\x7d' :: rest => near rest
        | _ => none) := by
  split
  next rest => exact (steady rest).cons
  next unbraced =>
    split
    next => cases cs <;> simp_all [closing]
    next => exact steady_none cs

private theorem steady_bounds (flags : Flags) (cs : List Char) :
    Steady cs (bounds? flags cs) (bounds? flags (cs ++ closing)) := by
  unfold bounds?
  refine (Steady.skip (steady_count flags) flags cs).bind fun least rest => ?_
  simp only
  split
  next rest => exact (steady_pure (least, some least) rest).cons
  next rest =>
    simp only [List.cons_append]
    refine Steady.cons (skip_elim flags rest (fun rest ending => Steady.of_suffix ?_ ending) ?_)
    · split
      next rest => exact (steady_pure (least, none) rest).cons
      next =>
        split
        next => cases rest <;> simp_all [closing]
        next =>
          refine (steady_count flags rest).bind fun most rest => ?_
          exact steady_brace (fun rest =>
            steady_ite (steady_pure (least, some most) rest) (steady_none rest)) rest
    · exact steady_none rest
  next =>
    split
    next => cases rest <;> simp_all [closing]
    next => cases rest <;> simp_all [closing]
    next => exact steady_none rest

/-! ## Steps -/

namespace Draft

/-- The draft after one more part that a backslash announced. -/
def addPart? (draft : Draft) : Part -> Option Draft
  | .literal c byte => (literalSet? draft.flags c byte).map fun set => draft.addSet set 0
  | .set set => some (draft.addSet set 0)
  | .look condition => some (draft.add { pattern := .look condition, depth := 0 })

end Draft

theorem addEscape_eq (draft : Draft) (cs : List Char) :
    addEscape? draft cs = (escape? draft.flags cs).bind fun (part, rest) =>
      (draft.addPart? part).map fun draft => (draft, rest) := by
  unfold addEscape?
  match escape? draft.flags cs with
  | none => rfl
  | some (.literal c byte, rest) => simp [Draft.addPart?, Function.comp_def]
  | some (.set set, rest) => rfl
  | some (.look condition, rest) => rfl

/-- A written pattern ends with a brace that opens nothing, behind the edge of a word. -/
def DanglingStep (draft : Draft) (c : Char) (cs : List Char) : Prop :=
  c = '\\' ∧ Dangling draft.flags cs

theorem steady_or_dangling_step (draft : Draft) (c : Char) (cs : List Char) :
    Steady cs (step? draft c cs) (step? draft c (cs ++ closing)) ∨ DanglingStep draft c cs := by
  by_cases escaped : c = '\\'
  · subst escaped
    refine (steady_or_dangling draft.flags cs).imp (fun steady => ?_) fun dangling =>
      ⟨rfl, dangling⟩
    simp only [step?, addEscape_eq]
    exact steady.bind fun part rest => steady_map (draft.addPart? part) id rest
  · left
    unfold step?
    -- One case for every sign that a part can start with.
    split
    next => exact steady_enterGroup draft cs
    next => exact steady_map draft.leave? id cs
    next => exact steady_pure draft.choose cs
    next =>
      exact (steady_class draft.flags cs).map fun nested =>
        draft.addSet nested.set nested.depth
    next => exact steady_skipLazy (draft.repeat? 0 (some 1)) cs
    next => exact steady_skipLazy (draft.repeat? 0 none) cs
    next => exact steady_skipLazy (draft.repeat? 1 none) cs
    next =>
      refine (steady_bounds draft.flags cs).bind fun bounds rest => ?_
      refine steady_given fun repeated => ?_
      exact Steady.skip (steady_skipLazy (some repeated)) draft.flags rest
    next => exact absurd rfl escaped
    next => exact steady_map (dotSet? draft.flags) _ cs
    next => exact steady_pure _ cs
    next => exact steady_pure _ cs
    next => exact steady_map (literalSet? draft.flags c false) _ cs

/-- What a step leaves is an end of what it was given. -/
theorem step_suffix {draft next : Draft} {rest : List Char}
    (found : step? draft c cs = some (next, rest)) : rest <:+ cs := by
  rcases steady_or_dangling_step draft c cs with steady | ⟨rfl, dangling⟩
  · exact steady.suffix next rest found
  · simp [step?, addEscape?, dangling.short] at found

/-! ## Levels around a draft -/

namespace Draft

def under (levels : List Level) (draft : Draft) : Draft :=
  { draft with outer := draft.outer ++ levels }

variable (levels : List Level) (draft : Draft)

@[simp] theorem under_flags : (draft.under levels).flags = draft.flags := rfl

@[simp] theorem under_outer : (draft.under levels).outer = draft.outer ++ levels := rfl

@[simp] theorem under_names : (draft.under levels).names = draft.names := rfl

@[simp] theorem under_whole : (draft.under levels).whole = draft.whole := rfl

private theorem under_repeat (least : Nat) (most : Option Nat) :
    (draft.under levels).repeat? least most =
      (draft.repeat? least most).map (under levels) := by
  obtain ⟨flags, branches, run, outer, names⟩ := draft
  cases run with
  | nil => rfl
  | cons item run => cases h : item.repeatable <;> simp [repeat?, under, h]

private theorem under_leave (inside : draft.outer ≠ []) :
    (draft.under levels).leave? = draft.leave?.map (under levels) := by
  obtain ⟨flags, branches, run, outer, names⟩ := draft
  cases outer with
  | nil => exact absurd rfl inside
  | cons level outer => rfl

end Draft

section Under

variable (levels : List Level) (draft : Draft) (cs : List Char)

private theorem enterNamed_under :
    enterNamed? (draft.under levels) cs =
      (enterNamed? draft cs).map fun (next, rest) => (next.under levels, rest) := by
  rw [enterNamed_eq, enterNamed_eq]
  cases groupName? cs with
  | none => rfl
  | some named =>
      obtain ⟨name, rest⟩ := named
      simp only [Option.bind_some]
      by_cases taken : draft.names.contains name
      · have taken' : (draft.under levels).names.contains name := taken
        rw [if_pos taken, if_pos taken']
        rfl
      · have taken' : ¬ (draft.under levels).names.contains name := taken
        rw [if_neg taken, if_neg taken']
        rfl

private theorem changeFlags_under :
    changeFlags? (draft.under levels) cs =
      (changeFlags? draft cs).map fun (next, rest) => (next.under levels, rest) := by
  unfold changeFlags?
  split
  next written rest _ =>
    simp only [Draft.under_flags]
    cases draft.flags.changed? written <;> rfl
  next written rest _ =>
    split
    · rfl
    · simp only [Draft.under_flags]
      cases draft.flags.changed? written <;> rfl
  next => rfl

private theorem enterMarked_under :
    enterMarked? (draft.under levels) cs =
      (enterMarked? draft cs).map fun (next, rest) => (next.under levels, rest) := by
  unfold enterMarked?
  split
  case h_5 | h_6 => exact enterNamed_under levels draft _
  case h_7 => exact changeFlags_under levels draft cs
  all_goals rfl

private theorem enterGroup_under :
    enterGroup? (draft.under levels) cs =
      (enterGroup? draft cs).map fun (next, rest) => (next.under levels, rest) := by
  rw [enterGroup_eq, enterGroup_eq, Draft.under_flags]
  split
  next rest _ => exact enterMarked_under levels draft rest
  next => rfl

private theorem addEscape_under :
    addEscape? (draft.under levels) cs =
      (addEscape? draft cs).map fun (next, rest) => (next.under levels, rest) := by
  rw [addEscape_eq, addEscape_eq, Draft.under_flags]
  match escape? draft.flags cs with
  | none => rfl
  | some (.literal c byte, rest) =>
      simp only [Option.bind_some, Draft.addPart?, Draft.under_flags]
      cases literalSet? draft.flags c byte <;> rfl
  | some (.set set, rest) => rfl
  | some (.look condition, rest) => rfl

/-- The levels around a draft only matter to a parenthesis that closes the last of its own. -/
theorem step_under (c : Char) (inside : c = ')' -> draft.outer ≠ []) :
    step? (draft.under levels) c cs =
      (step? draft c cs).map fun (next, rest) => (next.under levels, rest) := by
  have repeated (least : Nat) (most : Option Nat) (rest : List Char) :
      ((draft.under levels).repeat? least most).map (fun draft => (draft, rest)) =
        ((draft.repeat? least most).map fun draft => (draft, rest)).map
          fun (next, rest) => (next.under levels, rest) := by
    simp only [Draft.under_repeat, Option.map_map]
    rfl
  unfold step?
  split
  next => exact enterGroup_under levels draft cs
  next =>
    simp only [Draft.under_leave levels draft (inside rfl), Option.map_map]
    rfl
  next => rfl
  next =>
    rw [Draft.under_flags, Option.map_map]
    rfl
  next => exact repeated 0 (some 1) (skipLazy cs)
  next => exact repeated 0 none (skipLazy cs)
  next => exact repeated 1 none (skipLazy cs)
  next =>
    rw [Draft.under_flags]
    match bounds? draft.flags cs with
    | none => rfl
    | some ((least, most), rest) =>
        simp only [Option.bind_eq_bind, Option.bind_some, Draft.under_repeat]
        cases draft.repeat? least most <;> rfl
  next => exact addEscape_under levels draft cs
  next =>
    rw [Draft.under_flags, Option.map_map]
    rfl
  next => rfl
  next => rfl
  next =>
    rw [Draft.under_flags, Option.map_map]
    rfl

end Under

end Pattern

end Intermediary

import Intermediary.Pattern.Escape
import Mathlib.Tactic.Common

/-!
# Reading in front of a closing parenthesis

What is written behind a pattern to close a group around it does not change how
the pattern itself is read, unless the pattern ends within a comment, which then
reaches to the end, or within a part that takes the parenthesis for its own.
-/

namespace Intermediary

namespace Pattern

open Text

/-- What closes a group around a pattern and anchors its end. -/
def closing : List Char := [')', '$']

variable {α β : Type} {c : Char} {cs : List Char} {short long : Option (α × List Char)}

/-- What is read from a text, and what is read when `closing` stands behind it. -/
inductive Meets : Option (α × List Char) -> Option (α × List Char) -> Prop
  | nothing : Meets none none
  /-- What closes is still ahead. -/
  | ahead (value : α) (rest : List Char) :
      Meets (some (value, rest)) (some (value, rest ++ closing))
  /-- What closes is passed over in a comment. -/
  | within (value : α) : Meets (some (value, [])) (some (value, []))
  /-- There is only something to read because the parenthesis is taken. -/
  | beyond (value : α) (rest : List Char) (taken : rest <:+ ['$']) :
      Meets none (some (value, rest))

/--
What is read from a text leaves an end of it, and meets what is read when
`closing` stands behind the text.
-/
structure Steady (cs : List Char) (short long : Option (α × List Char)) : Prop where
  suffix : ∀ value rest, short = some (value, rest) -> rest <:+ cs
  meets : Meets short long

/-! ## Readers one after another -/

theorem steady_pure (value : α) (cs : List Char) :
    Steady cs (some (value, cs)) (some (value, cs ++ closing)) where
  suffix := by rintro _ rest ⟨⟩; exact List.suffix_rfl
  meets := .ahead value cs

theorem steady_none (cs : List Char) : Steady (α := α) cs none none where
  suffix := nofun
  meets := .nothing

/-- At the end of a text, nothing is read before what closes. -/
theorem steady_beyond
    (taken : ∀ value rest, long = some (value, rest) -> rest <:+ ['$']) :
    Steady cs none long where
  suffix := nofun
  meets := by
    match long, taken with
    | none, _ => exact .nothing
    | some (value, rest), taken => exact .beyond value rest (taken value rest rfl)

/-- In an open comment, there is no difference. -/
theorem steady_within (empty : ∀ value rest, short = some (value, rest) -> rest = []) :
    Steady cs short short where
  suffix := fun value rest found => by simp [empty value rest found]
  meets := by
    match short, empty with
    | none, _ => exact .nothing
    | some (value, rest), empty =>
        rw [empty value rest rfl]
        exact .within value

theorem Steady.of_suffix {ds : List Char} (steady : Steady cs short long) (ending : cs <:+ ds) :
    Steady ds short long where
  suffix := fun value rest found => (steady.suffix value rest found).trans ending
  meets := steady.meets

theorem Steady.cons (steady : Steady cs short long) : Steady (c :: cs) short long :=
  steady.of_suffix (List.suffix_cons c cs)

theorem Steady.bind {next : α × List Char -> Option (β × List Char)}
    (steady : Steady cs short long)
    (onward : ∀ value rest, Steady rest (next (value, rest)) (next (value, rest ++ closing))) :
    Steady cs (short.bind next) (long.bind next) where
  suffix := by
    intro value rest found
    obtain ⟨⟨first, middle⟩, read, found⟩ := Option.bind_eq_some_iff.mp found
    exact ((onward first middle).suffix value rest found).trans
      (steady.suffix first middle read)
  meets := by
    cases steady.meets with
    | nothing => exact .nothing
    | ahead first middle => exact (onward first middle).meets
    | within first =>
        have whole : Steady [] (next (first, [])) (next (first, [])) :=
          steady_within fun value rest found =>
            List.suffix_nil.mp ((onward first []).suffix value rest found)
        exact whole.meets
    | beyond first middle taken =>
        have whole : Steady [] none (next (first, middle)) :=
          steady_beyond fun value rest found =>
            ((onward first middle).suffix value rest found).trans taken
        exact whole.meets

theorem Steady.map (steady : Steady cs short long) (f : α -> β) :
    Steady cs (short.map fun (value, rest) => (f value, rest))
      (long.map fun (value, rest) => (f value, rest)) := by
  simp only [Option.map_eq_bind]
  exact steady.bind fun value rest => steady_pure (f value) rest

/-- A value that does not depend on the text. -/
theorem steady_given {given : Option α} {near far : α -> Option (β × List Char)}
    (onward : ∀ value, Steady cs (near value) (far value)) :
    Steady cs (given.bind near) (given.bind far) := by
  cases given with
  | none => exact steady_none cs
  | some value => exact onward value

theorem steady_map (given : Option α) (f : α -> β) (cs : List Char) :
    Steady cs (given.map fun value => (f value, cs))
      (given.map fun value => (f value, cs ++ closing)) := by
  cases given with
  | none => exact steady_none cs
  | some value => exact steady_pure (f value) cs

theorem steady_ite {p : Prop} [Decidable p] {near far : Option (α × List Char)}
    (yes : Steady cs short long) (no : Steady cs near far) :
    Steady cs (if p then short else near) (if p then long else far) := by
  split
  · exact yes
  · exact no

/-! ## Blanks and comments -/

private theorem skipBlank_suffix (inComment : Bool) (cs : List Char) :
    skipBlank inComment cs <:+ cs := by
  fun_induction skipBlank inComment cs with
  | case1 => exact List.suffix_rfl
  | case2 c cs ih => exact ih.trans (List.suffix_cons c cs)
  | case3 _ c cs _ _ ih => exact ih.trans (List.suffix_cons c cs)
  | case4 _ cs _ _ ih => exact ih.trans (List.suffix_cons '#' cs)
  | case5 => exact List.suffix_rfl

theorem skip_suffix (flags : Flags) (cs : List Char) : skip flags cs <:+ cs := by
  unfold skip
  split
  · exact skipBlank_suffix false cs
  · exact List.suffix_rfl

/-- Only an open comment passes over what closes. -/
theorem skipBlank_closing (inComment : Bool) (cs : List Char) :
    skipBlank inComment (cs ++ closing) = skipBlank inComment cs ++ closing ∨
      skipBlank inComment cs = [] ∧ skipBlank inComment (cs ++ closing) = [] := by
  fun_induction skipBlank inComment cs with
  | case1 inComment => cases inComment <;> decide
  | case2 c cs ih => simpa [skipBlank] using ih
  | case3 _ c cs comment blank ih => simpa [skipBlank, comment, blank] using ih
  | case4 _ cs comment blank ih => simpa [skipBlank, comment, blank] using ih
  | case5 _ c cs comment blank mark => simp [skipBlank, comment, blank, mark]

theorem skip_closing (flags : Flags) (cs : List Char) :
    skip flags (cs ++ closing) = skip flags cs ++ closing ∨
      skip flags cs = [] ∧ skip flags (cs ++ closing) = [] := by
  unfold skip
  split
  · exact skipBlank_closing false cs
  · exact Or.inl rfl

/-- What is passed over ends before what closes, or all is an open comment. -/
@[elab_as_elim]
theorem skip_elim {motive : List Char -> List Char -> Prop} (flags : Flags) (cs : List Char)
    (ahead : ∀ rest, rest <:+ cs -> motive rest (rest ++ closing)) (within : motive [] []) :
    motive (skip flags cs) (skip flags (cs ++ closing)) := by
  rcases skip_closing flags cs with apart | ⟨near, far⟩
  · rw [apart]
    exact ahead _ (skip_suffix flags cs)
  · rwa [near, far]

/-- Reading on behind what the flags pass over. -/
theorem Steady.skip {reader : Reader α}
    (steady : ∀ cs, Steady cs (reader cs) (reader (cs ++ closing))) (flags : Flags)
    (cs : List Char) :
    Steady cs (reader (Pattern.skip flags cs)) (reader (Pattern.skip flags (cs ++ closing))) := by
  refine skip_elim flags cs ?_ ?_
  · exact fun rest ending => (steady rest).of_suffix ending
  · exact steady_within fun value rest found =>
      List.suffix_nil.mp ((steady []).suffix value rest found)

/-! ## Characters by their numbers -/

private theorem steady_hexDigits (flags : Flags) (n : Nat) (cs : List Char) :
    Steady cs (hexDigits? flags n cs) (hexDigits? flags n (cs ++ closing)) := by
  induction n generalizing cs with
  | zero => exact steady_pure [] cs
  | succ n ih =>
      cases cs with
      | nil => exact steady_beyond (by simp [hexDigits?, closing, digit?])
      | cons c cs =>
          simp only [hexDigits?, List.cons_append]
          split
          · exact ((Steady.skip ih flags cs).map (c :: ·)).cons
          · exact steady_none (c :: cs)

private theorem steady_bracedDigits (flags : Flags) (inComment : Bool) (taken cs : List Char) :
    Steady cs (bracedDigits? flags inComment taken cs)
      (bracedDigits? flags inComment taken (cs ++ closing)) := by
  induction cs generalizing inComment taken with
  | nil =>
      refine steady_beyond ?_
      cases inComment <;> simp [bracedDigits?, closing, digit?, isBlank]
  | cons c cs ih =>
      simp only [bracedDigits?, List.cons_append]
      refine Steady.cons ?_
      split_ifs
      · exact ih (c != '\n') taken
      · exact ih false taken
      · exact ih true taken
      · exact Steady.skip (steady_pure taken.reverse) flags cs
      · exact ih false (c :: taken)
      · exact steady_none cs

private theorem steady_hexadecimal (flags : Flags) (letter : Char) (cs : List Char) :
    Steady cs (hexadecimal? flags letter cs) (hexadecimal? flags letter (cs ++ closing)) := by
  unfold hexadecimal?
  have some_digits : ∃ n, (if letter = 'x' then 2 else if letter = 'u' then 4 else 8) = n + 1 := by
    split_ifs <;> simp
  obtain ⟨n, size⟩ := some_digits
  simp only [size]
  refine skip_elim flags cs (fun rest ending => Steady.of_suffix ?_ ending) ?_
  · split
    next inner =>
      refine Steady.cons ((steady_bracedDigits flags false [] inner).bind fun digits rest => ?_)
      exact steady_given fun c => steady_pure (Part.literal c false) rest
    next plain =>
      split
      next inner found => cases rest <;> simp_all [closing]
      next =>
        refine (steady_hexDigits flags (n + 1) rest).bind fun digits rest => ?_
        exact steady_given fun c => steady_pure (Part.literal c (letter == 'x')) rest
  · exact steady_within (by simp [hexDigits?])

/-! ## Names between braces -/

private theorem steady_bracedName (flags : Flags) (inComment : Bool) (taken cs : List Char) :
    Steady cs (bracedName? flags inComment taken cs)
      (bracedName? flags inComment taken (cs ++ closing)) := by
  induction cs generalizing inComment taken with
  | nil =>
      refine steady_beyond ?_
      cases inComment <;> simp [bracedName?, closing, isBlank]
  | cons c cs ih =>
      simp only [bracedName?, List.cons_append]
      refine Steady.cons ?_
      split_ifs
      · exact ih (c != '\n') taken
      · exact ih false taken
      · exact ih true taken
      · exact steady_pure taken.reverse cs
      · exact ih false (c :: taken)

private theorem steady_edgeName (flags : Flags) (inComment : Bool) (taken cs : List Char) :
    Steady cs (edgeName? flags inComment taken cs)
      (edgeName? flags inComment taken (cs ++ closing)) := by
  induction cs generalizing inComment taken with
  | nil =>
      refine steady_beyond ?_
      cases inComment <;> simp [edgeName?, closing, isBlank]
  | cons c cs ih =>
      simp only [edgeName?, List.cons_append]
      refine Steady.cons ?_
      split_ifs
      · exact ih (c != '\n') taken
      · exact ih false taken
      · exact ih true taken
      · exact ih false (c :: taken)
      · exact steady_pure (String.ofList taken.reverse) cs
      · exact steady_none cs

def classOf? (flags : Flags) (negated : Bool) (name : List Char) : Option Part := do
  let (set, unequal) <- described? name
  let closed <- closeSet flags (negated != unequal) set
  if flags.unicode then return .set closed else none

/-- A class by its name, which is a single character or stands between braces. -/
def classFrom? (flags : Flags) (negated : Bool) : Reader Part
  | [] => none
  | c :: cs =>
      Option.bind
        (if c = '\x7b' then bracedName? flags false [] cs
          else if c = '\\' then none
          else some ([c], skip flags cs))
        fun (name, rest) => (classOf? flags negated name).map fun part => (part, rest)

private theorem map_classOf (flags : Flags) (negated : Bool) (name rest : List Char) :
    ((classOf? flags negated name).map fun part => (part, rest)) =
      (do
        let (set, unequal) <- described? name
        let closed <- closeSet flags (negated != unequal) set
        if flags.unicode then return (Part.set closed, rest) else none) := by
  unfold classOf?
  cases described? name with
  | none => rfl
  | some found =>
      obtain ⟨set, unequal⟩ := found
      simp only [Option.bind_eq_bind, Option.bind_some]
      cases closeSet flags (negated != unequal) set with
      | none => rfl
      | some closed => by_cases h : flags.unicode <;> simp [h]

theorem namedClass_eq (flags : Flags) (negated : Bool) (cs : List Char) :
    namedClass? flags negated cs = classFrom? flags negated (skip flags cs) := by
  unfold namedClass?
  match skip flags cs with
  | [] => rfl
  | c :: rest =>
      simp only [classFrom?, map_classOf]
      split_ifs <;> rfl

private theorem steady_classFrom (flags : Flags) (negated : Bool) (c : Char) (cs : List Char) :
    Steady cs (classFrom? flags negated (c :: cs))
      (classFrom? flags negated (c :: (cs ++ closing))) := by
  unfold classFrom?
  refine Steady.bind ?_ fun name rest => steady_map (classOf? flags negated name) id rest
  split_ifs
  · exact steady_bracedName flags false [] cs
  · exact steady_none cs
  · exact Steady.skip (steady_pure [c]) flags cs

private theorem steady_namedClass (flags : Flags) (negated : Bool) (cs : List Char) :
    Steady cs (namedClass? flags negated cs) (namedClass? flags negated (cs ++ closing)) := by
  simp only [namedClass_eq]
  refine Steady.skip (fun cs => ?_) flags cs
  cases cs with
  | nil =>
      -- The parenthesis alone would have to name a class, and only its `$` is left behind.
      exact steady_beyond (steady_classFrom flags negated ')' ['$']).suffix
  | cons c cs => exact (steady_classFrom flags negated c cs).cons

/-! ## Escapes -/

/--
A written pattern ends with the edge of a word and an opening brace behind it.
Alone, this could still become the name of a special edge; in front of a
closing parenthesis, it is an edge and a brace that opens no bounds.
-/
structure Dangling (flags : Flags) (cs : List Char) : Prop where
  short : escape? flags cs = none
  long : ∃ condition inner, skip flags (inner ++ closing) = closing ∧
    escape? flags (cs ++ closing) = some (.look condition, '\x7b' :: (inner ++ closing))

private theorem steady_or_dangling_wordEdge (flags : Flags) (cs : List Char) :
    Steady cs (wordEdge? flags cs) (wordEdge? flags (cs ++ closing)) ∨
      Dangling flags ('b' :: cs) := by
  by_cases brace : ∃ inner, cs = '\x7b' :: inner
  · obtain ⟨inner, rfl⟩ := brace
    simp only [wordEdge?, List.cons_append]
    rcases skip_closing flags inner with apart | ⟨near, far⟩
    · cases found : skip flags inner with
      | nil =>
          right
          refine ⟨by simp [escape?, wordEdge?, found], .wordEdge (wordSet flags), inner, ?_, ?_⟩
          · rw [apart, found, List.nil_append]
          · simp only [escape?, wordEdge?, List.cons_append, apart, found]
            rfl
      | cons c rest =>
          left
          simp only [apart, found, List.cons_append]
          split
          · refine Steady.cons (Steady.of_suffix (Steady.bind
              (steady_edgeName flags false [] (c :: rest)) fun name rest => ?_) ?_)
            · simp only
              split <;> first | exact steady_pure _ rest | exact steady_none rest
            · exact found ▸ skip_suffix flags inner
          · exact steady_pure (Part.look (.wordEdge (wordSet flags))) ('\x7b' :: inner)
    · left
      simp only [near, far]
      exact steady_none ('\x7b' :: inner)
  · left
    unfold wordEdge?
    split
    next inner => simp_all
    next =>
      split
      next inner found => cases cs <;> simp_all [closing]
      next => exact steady_pure (Part.look (.wordEdge (wordSet flags))) cs

theorem steady_or_dangling (flags : Flags) (cs : List Char) :
    Steady cs (escape? flags cs) (escape? flags (cs ++ closing)) ∨ Dangling flags cs := by
  cases cs with
  | nil => exact Or.inl (steady_beyond (by simp [escape?, closing, isEscapable, isMeta]))
  | cons c cs =>
      by_cases edge : c = 'b'
      · subst edge
        exact (steady_or_dangling_wordEdge flags cs).imp_left Steady.cons
      · left
        refine Steady.cons ?_
        simp only [escape?, List.cons_append]
        split
        -- Each letter stands for itself, for a class, or for what a reader of its own finds.
        all_goals first
          | exact steady_pure _ cs
          | exact steady_map (letterClass? flags _) Part.set cs
          | exact steady_hexadecimal flags _ cs
          | exact steady_namedClass flags _ cs
          | exact steady_ite (steady_pure (Part.literal c false) cs) (steady_none cs)
          | exact absurd rfl edge

end Pattern

end Intermediary

import Intermediary.Pattern.Bracket
import Intermediary.Proofs.Pattern.Closing
import Mathlib.Data.List.TakeDrop

/-!
# Classes in front of a closing parenthesis

A class ends with its bracket.  What closes a group holds none, so a class that
is not finished in front of it never is, and one that is does not see it.
-/

namespace Intermediary

namespace Pattern

open Text

variable {α β : Type} {c : Char} {cs : List Char} {short long : Option (α × List Char)}

/--
Inside brackets it only matters what is read while the text lasts: at its end,
the class is not finished, whatever is still taken of what closes.
-/
structure Near (cs : List Char) (short long : Option (α × List Char)) : Prop where
  suffix : ∀ value rest, short = some (value, rest) -> rest <:+ cs
  meets :
    (∃ value rest, short = some (value, rest) ∧ long = some (value, rest ++ closing)) ∨
      (∀ value rest, short = some (value, rest) -> rest = []) ∧
        ∀ value rest, long = some (value, rest) -> rest <:+ closing

theorem near_pure (value : α) (cs : List Char) :
    Near cs (some (value, cs)) (some (value, cs ++ closing)) where
  suffix := by rintro _ rest ⟨⟩; exact List.suffix_rfl
  meets := Or.inl ⟨value, cs, rfl, rfl⟩

/-- At the end of a text, nothing is read before what closes. -/
private theorem near_end (taken : ∀ value rest, long = some (value, rest) -> rest <:+ closing) :
    Near cs none long where
  suffix := nofun
  meets := Or.inr ⟨nofun, taken⟩

theorem near_none (cs : List Char) : Near (α := α) cs none none :=
  near_end nofun

theorem Near.of_suffix {ds : List Char} (near : Near cs short long) (ending : cs <:+ ds) :
    Near ds short long where
  suffix := fun value rest found => (near.suffix value rest found).trans ending
  meets := near.meets

theorem Near.cons (near : Near cs short long) : Near (c :: cs) short long :=
  near.of_suffix (List.suffix_cons c cs)

theorem Near.bind {next : α × List Char -> Option (β × List Char)} (near : Near cs short long)
    (onward : ∀ value rest, Near rest (next (value, rest)) (next (value, rest ++ closing))) :
    Near cs (short.bind next) (long.bind next) where
  suffix := by
    intro value rest found
    obtain ⟨⟨first, middle⟩, read, found⟩ := Option.bind_eq_some_iff.mp found
    exact ((onward first middle).suffix value rest found).trans (near.suffix first middle read)
  meets := by
    rcases near.meets with ⟨first, middle, read, read'⟩ | ⟨empty, taken⟩
    · rw [read, read']
      exact (onward first middle).meets
    · refine Or.inr ⟨fun value rest found => ?_, fun value rest found => ?_⟩
      · obtain ⟨⟨first, middle⟩, read, found⟩ := Option.bind_eq_some_iff.mp found
        have further := (onward first middle).suffix value rest found
        exact List.suffix_nil.mp (empty first middle read ▸ further)
      · obtain ⟨⟨first, middle⟩, read, found⟩ := Option.bind_eq_some_iff.mp found
        exact ((onward first middle).suffix value rest found).trans (taken first middle read)

/-- A value that does not depend on the text. -/
private theorem near_given {given : Option α} {next far : α -> Option (β × List Char)}
    (onward : ∀ value, Near cs (next value) (far value)) :
    Near cs (given.bind next) (given.bind far) := by
  cases given with
  | none => exact near_none cs
  | some value => exact onward value

private theorem Near.map (near : Near cs short long) (f : α -> β) :
    Near cs (short.map fun (value, rest) => (f value, rest))
      (long.map fun (value, rest) => (f value, rest)) := by
  simp only [Option.map_eq_bind]
  exact near.bind fun value rest => near_pure (f value) rest

private theorem Steady.near (steady : Steady cs short long) : Near cs short long where
  suffix := steady.suffix
  meets := by
    cases steady.meets with
    | nothing => exact Or.inr ⟨nofun, nofun⟩
    | ahead value rest => exact Or.inl ⟨value, rest, rfl, rfl⟩
    | within value =>
        refine Or.inr ⟨?_, ?_⟩
        · rintro _ rest ⟨⟩; rfl
        · rintro _ rest ⟨⟩; exact List.nil_suffix
    | beyond value rest taken =>
        refine Or.inr ⟨nofun, ?_⟩
        rintro _ rest ⟨⟩
        exact taken.trans (List.suffix_cons ')' ['$'])

/-! ## The start of a bracket -/

namespace Bracket

theorem takeHyphens_nil (flags : Flags) (fuel : Nat) (listing : Listing) :
    takeHyphens flags fuel listing [] = none := by
  cases fuel <;> rfl

private theorem near_takeHyphens (flags : Flags) {fuel fuel' : Nat} (listing : Listing)
    (enough : cs.length < fuel) (enough' : (cs ++ closing).length < fuel') :
    Near cs (takeHyphens flags fuel listing cs)
      (takeHyphens flags fuel' listing (cs ++ closing)) := by
  induction fuel generalizing fuel' listing cs with
  | zero => omega
  | succ fuel ih =>
      cases fuel' with
      | zero => omega
      | succ fuel' =>
          cases cs with
          | nil =>
              refine near_end ?_
              rintro _ rest ⟨⟩
              exact List.suffix_rfl
          | cons c cs =>
              simp only [List.length_cons, List.cons_append, List.length_append] at enough enough'
              simp only [takeHyphens, List.cons_append]
              split_ifs
              · refine skip_elim flags cs (fun rest ending => ?_) ?_
                · have shorter := ending.length_le
                  have near : Near rest (takeHyphens flags fuel _ rest)
                      (takeHyphens flags fuel' _ (rest ++ closing)) :=
                    ih (listing.add (CharSet.single '-') 0) (by omega)
                      (by simp only [List.length_append]; omega)
                  exact near.of_suffix (ending.trans (List.suffix_cons c cs))
                · rw [takeHyphens_nil, takeHyphens_nil]
                  exact near_none (c :: cs)
              · refine skip_elim flags cs (fun rest ending => ?_) (near_none (c :: cs))
                refine Near.of_suffix ?_ (ending.trans (List.suffix_cons c cs))
                cases rest with
                | nil =>
                    refine near_end ?_
                    rintro _ rest ⟨⟩
                    exact List.suffix_rfl
                | cons d rest => exact near_pure (listing.add (CharSet.single ']') 0) (d :: rest)
              · exact near_pure listing (c :: cs)

theorem near_open (flags : Flags) (cs : List Char) :
    Near cs (open? flags cs) (open? flags (cs ++ closing)) := by
  have listed (negated : Bool) (start : List Char) :
      Near start
        ((takeHyphens flags (start.length + 1) {} start).map fun (listing, rest) =>
          (Bracket.mk negated none listing, rest))
        ((takeHyphens flags ((start ++ closing).length + 1) {} (start ++ closing)).map
          fun (listing, rest) => (Bracket.mk negated none listing, rest)) :=
    (near_takeHyphens flags {} (Nat.lt_succ_self _) (Nat.lt_succ_self _)).map
      (Bracket.mk negated none)
  unfold open?
  refine skip_elim flags cs (fun rest ending => Near.of_suffix ?_ ending) (near_none cs)
  by_cases marked : ∃ inner, rest = '^' :: inner
  · obtain ⟨inner, rfl⟩ := marked
    refine Near.cons ?_
    simp only [List.cons_append]
    refine skip_elim flags inner (fun rest ending => ?_) (near_none inner)
    exact (listed true rest).of_suffix ending
  · have marked' : ¬ ∃ inner, rest ++ closing = '^' :: inner := by
      cases rest <;> simp_all [closing]
    split
    next negated start found =>
      split at found
      next inner => exact absurd ⟨inner, rfl⟩ marked
      cases found
      split
      next negated start found =>
        split at found
        next inner reached => exact absurd ⟨inner, reached⟩ marked'
        cases found
        exact listed false rest

end Bracket

/-! ## Names of sets -/

theorem span_append_cons {p : Char -> Bool} {cs before after : List Char}
    (found : cs.span p = (before, c :: after)) (more : List Char) :
    (cs ++ more).span p = (before, c :: (after ++ more)) := by
  rw [List.span_eq_takeWhile_dropWhile, Prod.mk.injEq] at found ⊢
  obtain ⟨rfl, found⟩ := found
  have whole : (cs.takeWhile p ++ cs.dropWhile p).length = cs.length :=
    congrArg List.length List.takeWhile_append_dropWhile
  rw [found, List.length_append, List.length_cons] at whole
  constructor
  · rw [List.takeWhile_append, if_neg (by omega)]
  · simp [List.dropWhile_append, found]

theorem span_suffix {p : Char -> Bool} {cs before after : List Char}
    (found : cs.span p = (before, after)) : after <:+ cs := by
  rw [List.span_eq_takeWhile_dropWhile, Prod.mk.injEq] at found
  exact found.2 ▸ List.dropWhile_suffix p

theorem span_append_nil {p : Char -> Bool} {cs before : List Char}
    (found : cs.span p = (before, [])) (more : List Char) :
    (cs ++ more).span p = (cs ++ (more.span p).1, (more.span p).2) := by
  rw [List.span_eq_takeWhile_dropWhile, Prod.mk.injEq] at found
  obtain ⟨rfl, found⟩ := found
  have whole : cs.takeWhile p ++ cs.dropWhile p = cs := List.takeWhile_append_dropWhile
  rw [found, List.append_nil] at whole
  simp only [List.span_eq_takeWhile_dropWhile]
  rw [List.takeWhile_append, if_pos (by rw [whole]), List.dropWhile_append, found]
  rfl

/-- The set that a name between colons stands for, up to the bracket behind it. -/
def asciiNamed? (flags : Flags) (negated : Bool) (start : List Char) :
    Option (CharSet × List Char) :=
  match start.span (· != ':') with
  | (name, ':' :: ']' :: rest) =>
      (CharSet.ofAsciiName? (String.ofList name)).bind fun set =>
        (closeSet flags negated set).map fun closed => (closed, rest)
  | _ => none

private theorem asciiNamed_closing (flags : Flags) (negated : Bool) (start : List Char) :
    asciiNamed? flags negated (start ++ closing) =
      (asciiNamed? flags negated start).map fun (set, rest) => (set, rest ++ closing) := by
  have passed : closing.span (· != ':') = (closing, []) := rfl
  unfold asciiNamed?
  match found : start.span (· != ':') with
  | (name, []) =>
      rw [span_append_nil found, passed]
      rfl
  | (name, c :: after) =>
      rw [span_append_cons found]
      by_cases closed : ∃ rest, c = ':' ∧ after = ']' :: rest
      · obtain ⟨rest, rfl, rfl⟩ := closed
        simp [Option.map_bind, Function.comp_def]
      · split
        next => cases after <;> simp_all [closing]
        next =>
          split
          next => simp_all
          next => rfl

private theorem asciiNamed_suffix {flags : Flags} {negated : Bool} {set : CharSet}
    {rest : List Char} (found : asciiNamed? flags negated cs = some (set, rest)) :
    rest <:+ cs := by
  unfold asciiNamed? at found
  split at found
  next name after split =>
    simp only [Option.bind_eq_some_iff, Option.map_eq_some_iff, Prod.mk.injEq] at found
    obtain ⟨set, -, closed, -, -, rfl⟩ := found
    exact ((List.suffix_cons ']' _).trans (List.suffix_cons ':' _)).trans (span_suffix split)
  next => cases found

private theorem asciiClass_plain (flags : Flags) {start : List Char}
    (plain : ¬ ∃ inner, start = '^' :: inner) :
    asciiClass? flags (':' :: start) = asciiNamed? flags false start := by
  rw [asciiClass?]
  · rfl
  · exact fun rest same => plain ⟨rest, same⟩

private theorem asciiClass_other (flags : Flags) (other : ¬ ∃ inner, cs = ':' :: inner) :
    asciiClass? flags cs = none := by
  unfold asciiClass?
  split
  next inner => exact absurd ⟨inner, rfl⟩ other
  next => rfl

private theorem asciiClass_closing (flags : Flags) (cs : List Char) :
    asciiClass? flags (cs ++ closing) =
      (asciiClass? flags cs).map fun (set, rest) => (set, rest ++ closing) := by
  by_cases colon : ∃ inner, cs = ':' :: inner
  · obtain ⟨inner, rfl⟩ := colon
    by_cases marked : ∃ start, inner = '^' :: start
    · obtain ⟨start, rfl⟩ := marked
      exact asciiNamed_closing flags true start
    · have marked' : ¬ ∃ start, inner ++ closing = '^' :: start := by
        cases inner <;> simp_all [closing]
      rw [List.cons_append, asciiClass_plain flags marked, asciiClass_plain flags marked']
      exact asciiNamed_closing flags false inner
  · have colon' : ¬ ∃ inner, cs ++ closing = ':' :: inner := by
      cases cs <;> simp_all [closing]
    rw [asciiClass_other flags colon, asciiClass_other flags colon']
    rfl

private theorem asciiClass_suffix {flags : Flags} {set : CharSet} {rest : List Char}
    (found : asciiClass? flags cs = some (set, rest)) : rest <:+ cs := by
  by_cases colon : ∃ inner, cs = ':' :: inner
  · obtain ⟨inner, rfl⟩ := colon
    refine List.IsSuffix.trans ?_ (List.suffix_cons ':' inner)
    by_cases marked : ∃ start, inner = '^' :: start
    · obtain ⟨start, rfl⟩ := marked
      exact (asciiNamed_suffix found).trans (List.suffix_cons '^' start)
    · rw [asciiClass_plain flags marked] at found
      exact asciiNamed_suffix found
  · rw [asciiClass_other flags colon] at found
    cases found

/-! ## Ranges -/

private theorem isAsciiClass_closing (cs : List Char) :
    isAsciiClass (cs ++ closing) = isAsciiClass cs := by
  simp [isAsciiClass, asciiClass_closing]

/-- A look past a text sees the same, or, past blanks and the start of a comment, what closes. -/
private theorem peekPast_go (here there : List Char) (inComment : Bool) (cs : List Char) :
    peekPast.go there inComment (cs ++ closing) = peekPast.go here inComment cs ∨
      peekPast.go there inComment (cs ++ closing) = some ')' ∧
        peekPast.go here inComment cs = here.head? ∧
        ∀ c ∈ cs.head?, isBlank c ∨ c = '#' := by
  induction cs generalizing inComment with
  | nil => cases inComment <;> simp [peekPast.go, closing, isBlank]
  | cons c cs ih =>
      simp only [peekPast.go, List.cons_append]
      split_ifs with blank mark
      · exact (ih inComment).imp_right fun past => ⟨past.1, past.2.1, by simp [blank]⟩
      · have mark : c = '#' := by simp_all
        exact (ih true).imp_right fun past => ⟨past.1, past.2.1, by simp [mark]⟩
      · exact Or.inl rfl

/-- What closes is no sign that a hyphen stands for itself. -/
theorem peekPast_closing (flags : Flags) (cs : List Char) {c : Char}
    (sign : c = ']' ∨ c = '-') :
    peekPast flags (cs ++ closing) = some c ↔ peekPast flags cs = some c := by
  unfold peekPast
  split
  · rcases peekPast_go cs (cs ++ closing) false cs with same | ⟨far, near, blanks⟩
    · rw [same]
    · rw [far, near]
      constructor
      · rintro ⟨⟩
        simp at sign
      · intro first
        have := blanks c first
        rcases sign with rfl | rfl <;> simp [isBlank] at this
  · cases cs with
    | nil => rcases sign with rfl | rfl <;> simp [closing]
    | cons d cs => rfl

/-- One part of a listing is read alike, unless it is an edge, which no class lists. -/
theorem steady_or_edge_listed (flags : Flags) (cs : List Char) :
    Steady cs (listed? flags cs) (listed? flags (cs ++ closing)) ∨
      listed? flags cs = none ∧
        ∃ condition rest, listed? flags (cs ++ closing) = some (.look condition, rest) := by
  cases cs with
  | nil =>
      refine Or.inl (steady_beyond ?_)
      rintro _ rest ⟨⟩
      exact List.suffix_rfl
  | cons c cs =>
      by_cases escaped : c = '\\'
      · subst escaped
        rcases steady_or_dangling flags cs with steady | dangling
        · exact Or.inl steady.cons
        · obtain ⟨condition, inner, -, found⟩ := dangling.long
          exact Or.inr ⟨dangling.short, condition, _, found⟩
      · left
        have literal (cs : List Char) : listed? flags (c :: cs) = some (.literal c false, cs) := by
          rw [listed?]
          exact escaped
        rw [List.cons_append, literal, literal]
        exact (steady_pure (Part.literal c false) cs).cons

private theorem listed_length {flags : Flags} {part : Part} {rest : List Char}
    (found : listed? flags cs = some (part, rest)) : rest.length < cs.length := by
  unfold listed? at found
  split at found
  next => cases found
  next cs =>
    rcases steady_or_dangling flags cs with steady | dangling
    · exact Nat.lt_succ_of_le (steady.suffix part rest found).length_le
    · rw [dangling.short] at found
      cases found
  next =>
    cases found
    exact Nat.lt_succ_self _

def rangeFrom? (flags : Flags) (first : Part) : Reader CharSet :=
  fun cs =>
    match skip flags cs with
    | [] => none
    | '-' :: after =>
        if peekPast flags after = some ']' ∨ peekPast flags after = some '-' then do
          let set <- partSet? flags first
          return (set, '-' :: after)
        else do
          let (last, rest) <- listed? flags (skip flags after)
          let a <- literal? flags first
          let b <- literal? flags last
          if a ≤ b then return (CharSet.range a.toNat b.toNat, rest) else none
    | rest => do
        let set <- partSet? flags first
        return (set, rest)

theorem range_eq (flags : Flags) (cs : List Char) :
    range? flags cs = (listed? flags cs).bind fun (first, rest) => rangeFrom? flags first rest :=
  rfl

/-- An edge is neither a set nor a character. -/
private theorem rangeFrom_look (flags : Flags) (condition : Look) (cs : List Char) :
    rangeFrom? flags (.look condition) cs = none := by
  unfold rangeFrom?
  split
  · rfl
  · split
    · rfl
    · exact Option.bind_eq_none_iff.mpr fun _ _ => rfl
  · rfl

private theorem near_rangeFrom (flags : Flags) (first : Part) (cs : List Char) :
    Near cs (rangeFrom? flags first cs) (rangeFrom? flags first (cs ++ closing)) := by
  unfold rangeFrom?
  refine skip_elim flags cs (fun rest ending => Near.of_suffix ?_ ending) (near_none cs)
  by_cases hyphen : ∃ after, rest = '-' :: after
  · obtain ⟨after, rfl⟩ := hyphen
    simp only [List.cons_append, peekPast_closing flags after (Or.inl rfl),
      peekPast_closing flags after (Or.inr rfl)]
    split
    · exact near_given fun set => near_pure set ('-' :: after)
    · refine Near.cons (skip_elim flags after (fun rest ending => Near.of_suffix ?_ ending)
        (near_none after))
      rcases steady_or_edge_listed flags rest with steady | ⟨nothing, condition, more, edge⟩
      · refine steady.near.bind fun last rest => near_given fun a => near_given fun b => ?_
        simp only
        split
        · exact near_pure (CharSet.range a.toNat b.toNat) rest
        · exact near_none rest
      · rw [nothing, edge]
        cases literal? flags first <;> exact near_none rest
  · cases rest with
    | nil =>
        refine near_end fun value rest found => ?_
        obtain ⟨set, -, ⟨⟩⟩ := Option.bind_eq_some_iff.mp found
        exact List.suffix_rfl
    | cons c rest =>
        have plain : c ≠ '-' := by rintro rfl; exact hyphen ⟨rest, rfl⟩
        split
        next => simp_all
        next => simp_all
        next =>
          split
          next => simp_all
          next => simp_all
          next => exact near_given fun set => near_pure set (c :: rest)

private theorem near_range (flags : Flags) (cs : List Char) :
    Near cs (range? flags cs) (range? flags (cs ++ closing)) := by
  simp only [range_eq]
  rcases steady_or_edge_listed flags cs with steady | ⟨nothing, condition, rest, edge⟩
  · exact steady.near.bind (near_rangeFrom flags)
  · rw [nothing, edge, Option.bind_some, rangeFrom_look]
    exact near_none cs

private theorem range_length {flags : Flags} {set : CharSet} {rest : List Char}
    (found : range? flags cs = some (set, rest)) : rest.length < cs.length := by
  obtain ⟨⟨first, after⟩, read, found⟩ := Option.bind_eq_some_iff.mp found
  have := ((near_rangeFrom flags first after).suffix set rest found).length_le
  have := listed_length read
  omega

/-! ## Whole classes -/

/-- What is left of what closes, after a part of it was taken. -/
private theorem suffix_closing {rest : List Char} (ending : rest <:+ closing) :
    rest = [] ∨ rest = ['$'] ∨ rest = closing := by
  simpa [closing, List.suffix_cons_iff, or_comm, or_assoc, or_left_comm] using ending

theorem skip_of_suffix_closing (flags : Flags) {rest : List Char} (ending : rest <:+ closing) :
    skip flags rest = rest := by
  rcases suffix_closing ending with rfl | rfl | rfl <;> unfold skip <;> split <;> rfl

@[simp] theorem skip_nil (flags : Flags) : skip flags [] = [] :=
  skip_of_suffix_closing flags List.nil_suffix

@[simp] theorem skip_anchor (flags : Flags) : skip flags ['$'] = ['$'] :=
  skip_of_suffix_closing flags (List.suffix_cons ')' ['$'])

theorem classAux_skipped {flags : Flags} {fuel : Nat} {here : Bracket} {outer : List Bracket}
    (reached : skip flags cs = []) : classAux flags fuel here outer cs = none := by
  cases fuel with
  | zero => rfl
  | succ fuel => rw [classAux, reached]

private theorem range_closing {flags : Flags} {set : CharSet} {rest : List Char}
    (found : range? flags closing = some (set, rest)) : rest = ['$'] := by
  have listed : listed? flags closing = some (.literal ')' false, ['$']) := rfl
  simp only [range?, listed, Option.bind_eq_bind, Option.bind_some, skip_anchor] at found
  obtain ⟨set, -, ⟨⟩⟩ := Option.bind_eq_some_iff.mp found
  rfl

/-- What closes a group finishes no class. -/
theorem classAux_ended (flags : Flags) (fuel : Nat) (here : Bracket) (outer : List Bracket)
    {rest : List Char} (ending : rest <:+ closing) :
    classAux flags fuel here outer rest = none := by
  have anchor (fuel : Nat) (here : Bracket) : classAux flags fuel here outer ['$'] = none := by
    cases fuel with
    | zero => rfl
    | succ fuel =>
        rw [classAux, skip_anchor]
        simp [range?, listed?]
  rcases suffix_closing ending with rfl | rfl | rfl
  · exact classAux_skipped (skip_nil flags)
  · exact anchor fuel here
  · cases fuel with
    | zero => rfl
    | succ fuel =>
        rw [classAux, skip_of_suffix_closing flags List.suffix_rfl]
        cases found : range? flags closing with
        | none =>
            unfold closing at found
            simp [closing, found]
        | some read =>
            have ended := range_closing found
            unfold closing at found
            simp [closing, found, ended, anchor]

private theorem suffix_of_skip {flags : Flags} {rest : List Char}
    (reached : skip flags cs = c :: rest) :
    rest <:+ cs :=
  (List.suffix_cons c rest).trans (reached ▸ skip_suffix flags cs)

theorem length_of_skip {flags : Flags} {rest : List Char} (reached : skip flags cs = c :: rest) :
    rest.length < cs.length := by
  have := (skip_suffix flags cs).length_le
  rw [reached] at this
  exact this

/-- What is ahead behind blanks and comments stays ahead. -/
theorem skip_ahead {flags : Flags} {rest : List Char} (reached : skip flags cs = c :: rest) :
    skip flags (cs ++ closing) = c :: (rest ++ closing) := by
  rcases skip_closing flags cs with apart | ⟨near, -⟩
  · rw [apart, reached, List.cons_append]
  · rw [near] at reached
    cases reached

private theorem classAux_of_skip (flags : Flags) (fuel : Nat) (here : Bracket)
    (outer : List Bracket)
    (cs ds : List Char) (same : skip flags cs = skip flags ds) :
    classAux flags fuel here outer cs = classAux flags fuel here outer ds := by
  cases fuel with
  | zero => rfl
  | succ fuel => rw [classAux, classAux, same]

/-- What can go on with nothing of what closes goes on alike in front of it. -/
theorem Near.onward {next : α × List Char -> Option β} (near : Near cs short long)
    (ended : ∀ value rest, rest <:+ closing -> next (value, rest) = none) :
    long.bind next = short.bind fun (value, rest) => next (value, rest ++ closing) := by
  rcases near.meets with ⟨value, rest, read, found⟩ | ⟨empty, taken⟩
  · rw [read, found]
    rfl
  · have nothing : long.bind next = none := by
      rw [Option.bind_eq_none_iff]
      intro found read
      exact ended found.1 found.2 (taken found.1 found.2 read)
    rw [nothing, eq_comm, Option.bind_eq_none_iff]
    intro found read
    simp only [empty found.1 found.2 read, List.nil_append]
    exact ended found.1 closing List.suffix_rfl

/-! ### One token at a time -/

def SetOperator.mark : SetOperator -> Char
  | .intersection => '&'
  | .difference => '-'
  | .symmetricDifference => '~'

/-- A text inside brackets that starts with no bracket and no operator. -/
structure Plain (start : List Char) : Prop where
  ended : start = [] -> False
  opens : ∀ rest, start = '[' :: rest -> False
  closes : ∀ rest, start = ']' :: rest -> False
  both : ∀ rest, start = '&' :: '&' :: rest -> False
  minus : ∀ rest, start = '-' :: '-' :: rest -> False
  unlike : ∀ rest, start = '~' :: '~' :: rest -> False

private theorem Plain.closing {start : List Char} (plain : Plain start) :
    Plain (start ++ Pattern.closing) := by
  obtain ⟨ended, opens, closes, both, minus, unlike⟩ := plain
  match start with
  | [] => exact absurd rfl ended
  | [c] => constructor <;> simp_all [Pattern.closing]
  | c :: d :: rest => constructor <;> simp_all

inductive Token : List Char -> Prop where
  | ended : Token []
  | named {inside : List Char} (named : isAsciiClass inside = true) : Token ('[' :: inside)
  | opened {inside : List Char} (unnamed : ¬ isAsciiClass inside = true) :
      Token ('[' :: inside)
  | closed (after : List Char) : Token (']' :: after)
  | operator (operator : SetOperator) (after : List Char) :
      Token (operator.mark :: operator.mark :: after)
  | plain {start : List Char} (plain : Plain start) : Token start

private theorem token (start : List Char) : Token start := by
  by_contra other
  refine other (.plain ?_)
  exact {
    ended := by
      rintro rfl
      exact other .ended
    opens := by
      rintro inside rfl
      by_cases named : isAsciiClass inside = true
      · exact other (.named named)
      · exact other (.opened named)
    closes := by
      rintro after rfl
      exact other (.closed after)
    both := by
      rintro after rfl
      exact other (.operator .intersection after)
    minus := by
      rintro after rfl
      exact other (.operator .difference after)
    unlike := by
      rintro after rfl
      exact other (.operator .symmetricDifference after) }

section Tokens

variable {flags : Flags} {fuel : Nat} {here : Bracket} {outer : List Bracket}
  {inside after : List Char}

private theorem classAux_named (reached : skip flags cs = '[' :: inside)
    (named : isAsciiClass inside = true) :
    classAux flags (fuel + 1) here outer cs =
      (asciiClass? flags inside).bind fun (set, rest) =>
        classAux flags fuel (here.add set 0) outer rest := by
  rw [classAux, reached]
  simp only [named, if_true]
  cases asciiClass? flags inside <;> rfl

private theorem classAux_opened (reached : skip flags cs = '[' :: inside)
    (unnamed : ¬ isAsciiClass inside = true) :
    classAux flags (fuel + 1) here outer cs =
      (Bracket.open? flags inside).bind fun (inner, rest) =>
        classAux flags fuel inner (here :: outer) rest := by
  rw [classAux, reached]
  simp only [if_neg unnamed]
  cases Bracket.open? flags inside <;> rfl

private theorem classAux_closed (reached : skip flags cs = ']' :: after) :
    classAux flags (fuel + 1) here outer cs =
      (closeSet flags here.negated (here.whole flags).set).bind fun set =>
        match outer with
        | [] => some (⟨set, (here.whole flags).depth + 1⟩, after)
        | parent :: outer =>
            classAux flags fuel (parent.add set ((here.whole flags).depth + 1)) outer after := by
  rw [classAux, reached]
  simp only
  cases closeSet flags here.negated (here.whole flags).set with
  | none => rfl
  | some set => cases outer <;> rfl

private theorem classAux_operator {operator : SetOperator}
    (reached : skip flags cs = operator.mark :: operator.mark :: after) :
    classAux flags (fuel + 1) here outer cs =
      classAux flags fuel (here.operate flags operator) outer after := by
  rw [classAux, reached]
  cases operator <;> rfl

private theorem classAux_plain (plain : Plain (skip flags cs)) :
    classAux flags (fuel + 1) here outer cs =
      (range? flags (skip flags cs)).bind fun (set, rest) =>
        classAux flags fuel (here.add set 0) outer rest := by
  obtain ⟨ended, opens, closes, both, minus, unlike⟩ := plain
  rw [classAux]
  split
  case h_7 => cases range? flags (skip flags cs) <;> rfl
  all_goals simp_all

end Tokens

private theorem classAux_suffix {flags : Flags} {fuel : Nat} {here : Bracket} {outer : List Bracket}
    {nested : Nested} {rest : List Char}
    (found : classAux flags fuel here outer cs = some (nested, rest)) : rest <:+ cs := by
  induction fuel generalizing here outer cs with
  | zero => cases found
  | succ fuel ih =>
      generalize reached : skip flags cs = start
      cases token start with
      | ended =>
          rw [classAux_skipped reached] at found
          cases found
      | named named =>
          rw [classAux_named reached named] at found
          obtain ⟨⟨set, after⟩, read, found⟩ := Option.bind_eq_some_iff.mp found
          exact ((ih found).trans (asciiClass_suffix read)).trans (suffix_of_skip reached)
      | @opened inside unnamed =>
          rw [classAux_opened reached unnamed] at found
          obtain ⟨⟨inner, after⟩, read, found⟩ := Option.bind_eq_some_iff.mp found
          have opened := (Bracket.near_open flags inside).suffix inner after read
          exact ((ih found).trans opened).trans (suffix_of_skip reached)
      | closed after =>
          rw [classAux_closed reached] at found
          obtain ⟨set, -, found⟩ := Option.bind_eq_some_iff.mp found
          cases outer with
          | nil =>
              cases found
              exact suffix_of_skip reached
          | cons parent outer => exact (ih found).trans (suffix_of_skip reached)
      | operator operator after =>
          rw [classAux_operator reached] at found
          exact ((ih found).trans (List.suffix_cons _ after)).trans (suffix_of_skip reached)
      | plain plain =>
          subst reached
          rw [classAux_plain plain] at found
          obtain ⟨⟨set, after⟩, read, found⟩ := Option.bind_eq_some_iff.mp found
          have ranged := (near_range flags (skip flags cs)).suffix set after read
          exact ((ih found).trans ranged).trans (skip_suffix flags cs)

/-- A class is read alike in front of what closes, where two more steps are allowed. -/
def Alike (flags : Flags) (fuel : Nat) (here : Bracket) (outer : List Bracket)
    (cs : List Char) : Prop :=
  classAux flags (2 + fuel) here outer (cs ++ closing) =
    (classAux flags fuel here outer cs).map fun (nested, rest) => (nested, rest ++ closing)

private theorem alike_ended {flags : Flags} {fuel : Nat} {here : Bracket} {outer : List Bracket}
    (reached : skip flags cs = []) : Alike flags fuel here outer cs := by
  unfold Alike
  rw [classAux_skipped reached]
  rcases skip_closing flags cs with apart | ⟨-, far⟩
  · rw [reached, List.nil_append] at apart
    rw [classAux_of_skip flags _ here outer (cs ++ closing) closing]
    · exact classAux_ended flags _ here outer List.suffix_rfl
    · rw [apart, skip_of_suffix_closing flags List.suffix_rfl]
  · exact classAux_skipped far

section Onward

variable {flags : Flags} {fuel : Nat} {here : Bracket} {outer : List Bracket}
  {inside after : List Char}
  (onward : ∀ here outer rest, rest.length < cs.length -> Alike flags fuel here outer rest)

include onward

private theorem alike_named (reached : skip flags cs = '[' :: inside)
    (named : isAsciiClass inside = true) : Alike flags (fuel + 1) here outer cs := by
  have named' : isAsciiClass (inside ++ closing) = true := by
    rw [isAsciiClass_closing, named]
  unfold Alike
  rw [← Nat.add_assoc, classAux_named (skip_ahead reached) named',
    classAux_named reached named, asciiClass_closing]
  cases read : asciiClass? flags inside with
  | none => rfl
  | some found =>
      have inside_lt := length_of_skip reached
      have rest_le := (asciiClass_suffix read).length_le
      exact onward (here.add found.1 0) outer found.2 (by omega)

private theorem alike_opened (reached : skip flags cs = '[' :: inside)
    (unnamed : ¬ isAsciiClass inside = true) : Alike flags (fuel + 1) here outer cs := by
  have near := Bracket.near_open flags inside
  have unnamed' : ¬ isAsciiClass (inside ++ closing) = true := by
    rw [isAsciiClass_closing]
    exact unnamed
  unfold Alike
  rw [← Nat.add_assoc, classAux_opened (skip_ahead reached) unnamed',
    classAux_opened reached unnamed]
  rw [near.onward fun inner rest => classAux_ended flags (2 + fuel) inner (here :: outer)]
  cases read : Bracket.open? flags inside with
  | none => rfl
  | some found =>
      have inside_lt := length_of_skip reached
      have rest_le := (near.suffix found.1 found.2 read).length_le
      exact onward found.1 (here :: outer) found.2 (by omega)

private theorem alike_closed (reached : skip flags cs = ']' :: after) :
    Alike flags (fuel + 1) here outer cs := by
  have after_lt := length_of_skip reached
  unfold Alike
  rw [← Nat.add_assoc, classAux_closed (skip_ahead reached), classAux_closed reached]
  cases closeSet flags here.negated (here.whole flags).set with
  | none => rfl
  | some set =>
      cases outer with
      | nil => rfl
      | cons parent outer => exact onward (parent.add set _) outer after after_lt

private theorem alike_operator {operator : SetOperator}
    (reached : skip flags cs = operator.mark :: operator.mark :: after) :
    Alike flags (fuel + 1) here outer cs := by
  have after_lt := length_of_skip reached
  rw [List.length_cons] at after_lt
  unfold Alike
  rw [← Nat.add_assoc, classAux_operator (skip_ahead reached), classAux_operator reached]
  exact onward (here.operate flags operator) outer after (by omega)

private theorem alike_plain (plain : Plain (skip flags cs)) :
    Alike flags (fuel + 1) here outer cs := by
  have near := near_range flags (skip flags cs)
  have apart : skip flags (cs ++ closing) = skip flags cs ++ closing :=
    (skip_closing flags cs).resolve_right fun swallowed => plain.ended swallowed.1
  have plain' : Plain (skip flags (cs ++ closing)) := by
    rw [apart]
    exact plain.closing
  unfold Alike
  rw [← Nat.add_assoc, classAux_plain plain', classAux_plain plain, apart]
  rw [near.onward fun set rest => classAux_ended flags (2 + fuel) (here.add set 0) outer]
  cases read : range? flags (skip flags cs) with
  | none => rfl
  | some found =>
      have rest_lt := range_length read
      have skip_le := (skip_suffix flags cs).length_le
      exact onward (here.add found.1 0) outer found.2 (by omega)

end Onward

private theorem classAux_closing {flags : Flags} {fuel : Nat} (here : Bracket)
    (outer : List Bracket)
    (enough : cs.length < fuel) : Alike flags fuel here outer cs := by
  induction fuel generalizing here outer cs with
  | zero => omega
  | succ fuel ih =>
      have onward (here : Bracket) (outer : List Bracket) (rest : List Char)
          (shorter : rest.length < cs.length) : Alike flags fuel here outer rest :=
        ih here outer (by omega)
      generalize reached : skip flags cs = start
      cases token start with
      | ended => exact alike_ended reached
      | named named => exact alike_named onward reached named
      | opened unnamed => exact alike_opened onward reached unnamed
      | closed after => exact alike_closed onward reached
      | operator operator after => exact alike_operator onward reached
      | plain plain => exact alike_plain onward (reached ▸ plain)

theorem class_eq (flags : Flags) (cs : List Char) :
    class? flags cs = (Bracket.open? flags cs).bind fun (bracket, rest) =>
      classAux flags (rest.length + 1) bracket [] rest := by
  unfold class?
  cases Bracket.open? flags cs <;> rfl

private theorem class_closing (flags : Flags) (cs : List Char) :
    class? flags (cs ++ closing) =
      (class? flags cs).map fun (nested, rest) => (nested, rest ++ closing) := by
  have near := Bracket.near_open flags cs
  rw [class_eq, class_eq]
  rw [near.onward fun bracket rest => classAux_ended flags (rest.length + 1) bracket []]
  cases read : Bracket.open? flags cs with
  | none => rfl
  | some found =>
      have whole : (found.2 ++ closing).length + 1 = 2 + (found.2.length + 1) := by
        simp only [List.length_append, closing, List.length_cons, List.length_nil]
        omega
      have alike : Alike flags (found.2.length + 1) found.1 [] found.2 :=
        classAux_closing found.1 [] (Nat.lt_succ_self found.2.length)
      simp only [Option.bind_some, whole]
      exact alike

/-- A class is finished before what closes, or not at all. -/
theorem steady_class (flags : Flags) (cs : List Char) :
    Steady cs (class? flags cs) (class? flags (cs ++ closing)) where
  suffix := by
    intro nested rest found
    rw [class_eq] at found
    obtain ⟨⟨bracket, after⟩, opened, found⟩ := Option.bind_eq_some_iff.mp found
    exact (classAux_suffix found).trans
      ((Bracket.near_open flags cs).suffix bracket after opened)
  meets := by
    rw [class_closing]
    match class? flags cs with
    | none => exact .nothing
    | some (nested, rest) => exact .ahead nested rest

end Pattern

end Intermediary

import Intermediary.Pattern
import Mathlib.Tactic.Common

/-!
# What a pattern matches

A pattern relates the positions where a match may begin to those where it may
end.  The search keeps sets of positions instead, leaves out what it has met
before and gives up on a repetition after as many rounds as a text has
characters; none of this changes which positions it reaches.
-/

namespace Intermediary

namespace Pattern

def Times (relation : Nat -> Nat -> Prop) : Nat -> Nat -> Nat -> Prop
  | 0, i, j => i = j
  | n + 1, i, k => ∃ j, relation i j ∧ Times relation n j k

/-- Whether a pattern matches the part of a text between two positions. -/
def Matches (text : Array Char) : Pattern -> Nat -> Nat -> Prop
  | .empty, i, j => i = j
  | .chars set, i, j => j = i + 1 ∧ (charAt text i).any set.contains
  | .look condition, i, j =>
      i = j ∧ condition.holds (charBefore text i) (charAt text i)
  | .sequence first second, i, k => ∃ j, Matches text first i j ∧ Matches text second j k
  | .either first second, i, j => Matches text first i j ∨ Matches text second i j
  | .repeated body least most, i, j =>
      ∃ n, least ≤ n ∧ (∀ bound ∈ most, n ≤ max least bound) ∧
        Times (Matches text body) n i j

/-- From the first character to the last, not only somewhere in the text. -/
def MatchesWhole (pattern : Pattern) (text : String) : Prop :=
  Matches text.toList.toArray pattern 0 text.toList.length

/-! ## Steps of a relation -/

section Steps

variable {relation : Nat -> Nat -> Prop}

private theorem times_add (m n i k : Nat) :
    Times relation (m + n) i k ↔ ∃ j, Times relation m i j ∧ Times relation n j k := by
  induction m generalizing i with
  | zero => simp [Times]
  | succ m ih =>
      rw [Nat.succ_add]
      simp only [Times, ih]
      constructor
      · rintro ⟨a, first, j, most, last⟩
        exact ⟨j, ⟨a, first, most⟩, last⟩
      · rintro ⟨j, ⟨a, first, most⟩, last⟩
        exact ⟨a, first, j, most, last⟩

/-- Steps never lead back, and none leads beyond the end of a text. -/
def Advances (size : Nat) (relation : Nat -> Nat -> Prop) : Prop :=
  ∀ i j, relation i j -> i = j ∨ i < j ∧ j ≤ size

variable {size : Nat}

private theorem Advances.times (forward : Advances size relation) (n : Nat) :
    Advances size (Times relation n) := by
  induction n with
  | zero => exact fun i j same => Or.inl same
  | succ n ih =>
      rintro i k ⟨j, first, rest⟩
      have near := forward i j first
      have far := ih j k rest
      omega

/-- Steps that stay where they are can be left out. -/
theorem Advances.shorten (forward : Advances size relation) {n i j : Nat}
    (steps : Times relation n i j) :
    ∃ m, m ≤ n ∧ m ≤ size ∧ Times relation m i j := by
  suffices short : ∃ m, m ≤ n ∧ m ≤ j - i ∧ Times relation m i j by
    obtain ⟨m, fewer, few, steps⟩ := short
    have := forward.times m i j steps
    exact ⟨m, fewer, by omega, steps⟩
  induction n generalizing i with
  | zero => exact ⟨0, Nat.le_refl 0, Nat.zero_le _, steps⟩
  | succ n ih =>
      obtain ⟨next, first, rest⟩ := steps
      obtain ⟨m, fewer, few, rest⟩ := ih rest
      rcases forward i next first with rfl | ⟨further, -⟩
      · exact ⟨m, by omega, few, rest⟩
      · have := forward.times m next j rest
        exact ⟨m + 1, by omega, by omega, next, first, rest⟩

end Steps

/-! ## Sets of positions -/

namespace Positions

@[simp] theorem mem_union (a b : Positions) (i : Nat) : i ∈ a.union b ↔ i ∈ a ∨ i ∈ b := by
  fun_induction union a b <;> grind

/-- What is left out is in the second set; the converse needs both to be ascending. -/
theorem mem_or_mem_of_diff (a b : Positions) {i : Nat} (here : i ∈ a) :
    i ∈ a.diff b ∨ i ∈ b := by
  fun_induction diff a b <;> grind

private theorem mem_of_mem_diff (a b : Positions) {i : Nat} (here : i ∈ a.diff b) : i ∈ a := by
  fun_induction diff a b <;> grind

end Positions

/-- A step on sets of positions that goes wherever the relation goes. -/
def Follows (step : Positions -> Positions) (relation : Nat -> Nat -> Prop) : Prop :=
  ∀ here j, j ∈ step here ↔ ∃ i ∈ here, relation i j

section Search

variable {step : Positions -> Positions} {relation : Nat -> Nat -> Prop}

/-- Once a step changes nothing, no further one does. -/
theorem Follows.times_of_fixed (follows : Follows step relation) {here : Positions}
    (fixed : step here = here) (n j : Nat) :
    j ∈ here ↔ ∃ i ∈ here, Times relation n i j := by
  have reached (k : Nat) : k ∈ here ↔ ∃ i ∈ here, relation i k := by
    have image := follows here k
    rwa [fixed] at image
  induction n generalizing j with
  | zero => simp [Times]
  | succ n ih =>
      refine (ih j).trans ?_
      constructor
      · rintro ⟨i, known, rest⟩
        obtain ⟨before, earlier, first⟩ := (reached i).mp known
        exact ⟨before, earlier, i, first, rest⟩
      · rintro ⟨before, earlier, i, first, rest⟩
        exact ⟨i, (reached i).mpr ⟨before, earlier, first⟩, rest⟩

private theorem Follows.iterate (follows : Follows step relation) (n : Nat) :
    Follows (iterate step n) (Times relation n) := by
  induction n with
  | zero => simp [Follows, Pattern.iterate, Times]
  | succ n ih =>
      intro here j
      simp only [Pattern.iterate]
      split
      next fixed => exact follows.times_of_fixed fixed (n + 1) j
      next =>
        rw [ih]
        constructor
        · rintro ⟨i, near, rest⟩
          obtain ⟨start, known, first⟩ := (follows here i).mp near
          exact ⟨start, known, i, first, rest⟩
        · rintro ⟨start, known, i, first, rest⟩
          exact ⟨i, (follows here i).mpr ⟨start, known, first⟩, rest⟩

/--
What a search has met: the positions met last are among those met at all, and
a step from any other leads to nothing new.
-/
structure Frontier (relation : Nat -> Nat -> Prop) (seen fresh : Positions) : Prop where
  known : ∀ i ∈ fresh, i ∈ seen
  settled : ∀ i ∈ seen, i ∉ fresh -> ∀ j, relation i j -> j ∈ seen

/-- Every step from what has been met leads to what one more round meets. -/
theorem Frontier.next (follows : Follows step relation) {seen fresh : Positions}
    (frontier : Frontier relation seen fresh) {i j : Nat} (met : i ∈ seen)
    (first : relation i j) : j ∈ seen.union ((step fresh).diff seen) := by
  rw [Positions.mem_union]
  by_cases last : i ∈ fresh
  · have reached : j ∈ step fresh := (follows fresh j).mpr ⟨i, last, first⟩
    exact (Positions.mem_or_mem_of_diff _ seen reached).symm
  · exact Or.inl (frontier.settled i met last j first)

/-- The frontier moves on by one round of a search. -/
theorem Frontier.advance (follows : Follows step relation) {seen fresh : Positions}
    (frontier : Frontier relation seen fresh) :
    Frontier relation (seen.union ((step fresh).diff seen)) ((step fresh).diff seen) where
  known := by simp +contextual
  settled := by
    intro i met old j first
    have before : i ∈ seen := ((Positions.mem_union _ _ i).mp met).resolve_right old
    exact frontier.next follows before first

/-- Where nothing new is found, nothing more can be reached. -/
theorem Frontier.closed (follows : Follows step relation) {seen fresh : Positions}
    (frontier : Frontier relation seen fresh) (nothing : (step fresh).diff seen = [])
    {i j n : Nat} (met : i ∈ seen) (steps : Times relation n i j) : j ∈ seen := by
  induction n generalizing i with
  | zero => exact steps ▸ met
  | succ n ih =>
      obtain ⟨next, first, rest⟩ := steps
      have still := frontier.next follows met first
      exact ih (by simpa [nothing] using still) rest

private theorem mem_spread (follows : Follows step relation) (rounds : Nat) {seen fresh : Positions}
    (frontier : Frontier relation seen fresh) (j : Nat) :
    j ∈ spread step rounds seen fresh ↔
      ∃ n, n ≤ rounds ∧ ∃ i ∈ seen, Times relation n i j := by
  induction rounds generalizing seen fresh with
  | zero => simp [spread, Times]
  | succ rounds ih =>
      simp only [spread]
      split
      next nothing =>
        constructor
        · exact fun met => ⟨0, Nat.zero_le _, j, met, rfl⟩
        · rintro ⟨n, -, i, met, steps⟩
          exact frontier.closed follows nothing met steps
      next found =>
        rw [ih (frontier.advance follows)]
        constructor
        · rintro ⟨n, few, i, met, steps⟩
          rcases (Positions.mem_union _ _ i).mp met with old | new
          · exact ⟨n, by omega, i, old, steps⟩
          · have reached : i ∈ step fresh := Positions.mem_of_mem_diff _ _ new
            obtain ⟨before, last, first⟩ := (follows fresh i).mp reached
            exact ⟨n + 1, by omega, before, frontier.known before last, i, first, steps⟩
        · rintro ⟨n, few, i, met, steps⟩
          cases n with
          | zero => exact ⟨0, Nat.zero_le _, i, by simp [met], steps⟩
          | succ n =>
              obtain ⟨next, first, rest⟩ := steps
              exact ⟨n, by omega, next, frontier.next follows met first, rest⟩

end Search

/-! ## The search for a match -/

private theorem advances_matches (text : Array Char) (pattern : Pattern) :
    Advances text.size (Matches text pattern) := by
  induction pattern with
  | empty => exact fun i j same => Or.inl same
  | chars set =>
      rintro i j ⟨rfl, inside⟩
      have present : i < text.size := by
        by_contra beyond
        simp [charAt, Array.getElem?_eq_none (Nat.le_of_not_lt beyond)] at inside
      omega
  | look condition => exact fun i j matched => Or.inl matched.1
  | sequence first second ihFirst ihSecond =>
      rintro i k ⟨j, front, back⟩
      have near := ihFirst i j front
      have far := ihSecond j k back
      omega
  | either first second ihFirst ihSecond =>
      exact fun i j matched => matched.elim (ihFirst i j) (ihSecond i j)
  | repeated body least most ih =>
      rintro i j ⟨n, -, -, copies⟩
      exact ih.times n i j copies

/-- The search goes exactly where a pattern has its matches end. -/
theorem follows_ends (text : Array Char) (pattern : Pattern) :
    Follows (ends text pattern) (Matches text pattern) := by
  induction pattern with
  | empty => simp [Follows, ends, Matches]
  | chars set =>
      intro here j
      simp only [ends, Matches, List.mem_filterMap, Option.ite_none_right_eq_some,
        Option.some.injEq]
      grind
  | look condition =>
      intro here j
      simp only [ends, Matches, List.mem_filter]
      grind
  | sequence first second ihFirst ihSecond =>
      intro here k
      simp only [ends, Matches, ihSecond _ k, ihFirst here]
      grind
  | either first second ihFirst ihSecond =>
      intro here j
      simp only [ends, Matches, Positions.mem_union, ihFirst here j, ihSecond here j]
      grind
  | repeated body least most ih =>
      intro here j
      have start : Frontier (Matches text body) (iterate (ends text body) least here)
          (iterate (ends text body) least here) :=
        ⟨fun i met => met, fun i met new => absurd met new⟩
      simp only [ends, Matches]
      rw [mem_spread ih _ start]
      constructor
      · rintro ⟨more, few, i, met, rest⟩
        obtain ⟨first, known, copies⟩ := (ih.iterate least here i).mp met
        refine ⟨first, known, least + more, by omega, ?_, (times_add ..).mpr ⟨i, copies, rest⟩⟩
        rintro bound rfl
        simp only at few
        omega
      · rintro ⟨first, known, n, enough, bounded, copies⟩
        obtain ⟨more, rfl⟩ := Nat.exists_eq_add_of_le enough
        obtain ⟨i, copies, rest⟩ := (times_add ..).mp copies
        -- The copies beyond the least number can do without those that match nothing.
        obtain ⟨m, fewer, few, rest⟩ := (advances_matches text body).shorten rest
        refine ⟨m, ?_, i, (ih.iterate least here i).mpr ⟨first, known, copies⟩, rest⟩
        cases most with
        | none => exact Nat.le_succ_of_le few
        | some bound =>
            have := bounded bound rfl
            simp only
            omega

theorem occursIn_iff (pattern : Pattern) (text : String) :
    pattern.occursIn text ↔
      ∃ i j, i ≤ text.toList.length ∧ Matches text.toList.toArray pattern i j := by
  have reached := follows_ends text.toList.toArray pattern
    (List.range (text.toList.length + 1))
  simp only [occursIn, List.size_toArray, Bool.not_eq_true',
    List.isEmpty_eq_false_iff_exists_mem]
  constructor
  · rintro ⟨j, ended⟩
    obtain ⟨i, inside, matched⟩ := (reached j).mp ended
    exact ⟨i, j, Nat.lt_succ_iff.mp (List.mem_range.mp inside), matched⟩
  · rintro ⟨i, j, inside, matched⟩
    exact ⟨j, (reached j).mpr ⟨i, List.mem_range.mpr (Nat.lt_succ_iff.mpr inside), matched⟩⟩

private theorem matches_textStart (text : String) (i j : Nat) (inside : i ≤ text.toList.length) :
    Matches text.toList.toArray (.look .textStart) i j ↔ i = 0 ∧ j = 0 := by
  cases i with
  | zero => simp [Matches, Look.holds, charBefore, eq_comm]
  | succ i =>
      have : i < text.toList.length := inside
      simp [Matches, Look.holds, charBefore, List.getElem?_eq_getElem this]

private theorem matches_textEnd (text : String) (i j : Nat) :
    Matches text.toList.toArray (.look .textEnd) i j ↔ i = j ∧ text.toList.length ≤ i := by
  simp [Matches, Look.holds, charAt]

/-- Between anchors at both ends, a pattern occurs only as the whole of a text. -/
theorem occursIn_between_anchors (pattern : Pattern) (text : String) :
    occursIn (.sequence (.look .textStart) (.sequence pattern (.look .textEnd))) text ↔
      pattern.MatchesWhole text := by
  rw [occursIn_iff]
  constructor
  · rintro ⟨i, j, inside, start, atStart, stop, matched, atEnd⟩
    obtain ⟨rfl, rfl⟩ := (matches_textStart text i start inside).mp atStart
    obtain ⟨rfl, far⟩ := (matches_textEnd text stop j).mp atEnd
    rcases advances_matches text.toList.toArray pattern 0 stop matched with rfl | ⟨-, near⟩
    · rwa [MatchesWhole, Nat.le_zero.mp far]
    · rwa [MatchesWhole, Nat.le_antisymm far near]
  · intro matched
    refine ⟨0, text.toList.length, Nat.zero_le _, 0, ?_, _, matched, ?_⟩
    · exact (matches_textStart text 0 0 (Nat.zero_le _)).mpr ⟨rfl, rfl⟩
    · exact (matches_textEnd text _ _).mpr ⟨rfl, Nat.le_refl _⟩

end Pattern

end Intermediary

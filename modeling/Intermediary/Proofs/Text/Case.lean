import Intermediary.Proofs.Text.Blank
import Intermediary.Text.Case
import Intermediary.Text.Numeral
import Mathlib.Tactic.Basic

/-!
# Cutting texts up to case

Blanks, marks and digits have no case, so that trimming a text, cutting it at a
mark and reading a number do not see the case of its letters.
-/

namespace Intermediary

namespace Text

/-! ## Characters -/

/-- Only capital letters are changed, and they become small letters. -/
theorem toNat_toLower (c : Char) :
    c.toLower = c ∨ 65 ≤ c.toNat ∧ c.toNat ≤ 90 ∧ c.toLower.toNat = c.toNat + 32 := by
  unfold Char.toLower
  split
  · next h =>
    obtain ⟨hlow, hhigh⟩ := h
    have hlow : 65 ≤ c.toNat := UInt32.le_iff_toNat_le.1 hlow
    have hhigh : c.toNat ≤ 90 := UInt32.le_iff_toNat_le.1 hhigh
    refine .inr ⟨hlow, hhigh, ?_⟩
    have hadd : (c.val + ('a'.val - 'A'.val)).toNat = (c.toNat + 32) % 2 ^ 32 :=
      UInt32.toNat_add c.val ('a'.val - 'A'.val)
    show (c.val + ('a'.val - 'A'.val)).toNat = c.toNat + 32
    omega
  · exact .inl rfl

private theorem toLower_toLower (c : Char) : c.toLower.toLower = c.toLower := by
  rcases toNat_toLower c with hsame | ⟨hlow, hhigh, hlower⟩
  · rw [hsame, hsame]
  · rcases toNat_toLower c.toLower with hsame | ⟨_, _, _⟩
    · exact hsame
    · omega

private theorem isBlank_toLower (c : Char) : isBlank c.toLower = isBlank c := by
  rcases toNat_toLower c with hsame | ⟨hlow, hhigh, hlower⟩
  · rw [hsame]
  · have hletter : ∀ d : Char, 65 ≤ d.toNat -> d.toNat ≤ 122 -> isBlank d = false := by
      intro d hfirst hlast
      simp only [isBlank, Bool.or_eq_false_iff, Bool.and_eq_false_iff,
        decide_eq_false_iff_not, beq_eq_false_iff_ne]
      omega
    rw [hletter c hlow (by omega), hletter c.toLower (by omega) (by omega)]

private theorem digit?_toLower (c : Char) : digit? 10 c.toLower = digit? 10 c := by
  rcases toNat_toLower c with hsame | ⟨hlow, hhigh, hlower⟩
  · rw [hsame]
  · have hletter : ∀ d : Char, 65 ≤ d.toNat -> digit? 10 d = none := by
      intro d hfirst
      have hdecimal : ¬ ('0' ≤ d ∧ d ≤ '9') := by
        rintro ⟨_, hlast⟩
        have hnine : d.toNat ≤ 57 := hlast
        omega
      unfold digit?
      dsimp only
      rw [if_neg hdecimal]
      split
      · exact if_neg (by omega)
      · split
        · exact if_neg (by omega)
        · exact if_neg (Nat.lt_irrefl 10)
    rw [hletter c hlow, hletter c.toLower (by omega)]

/-- No other character becomes a mark that stands before the letters. -/
theorem toLower_eq_iff {mark : Char} (h : mark.toNat < 65) (c : Char) :
    c.toLower = mark ↔ c = mark := by
  rcases toNat_toLower c with hsame | ⟨hlow, hhigh, hlower⟩
  · rw [hsame]
  · constructor
    · rintro rfl
      omega
    · rintro rfl
      omega

/-! ## Texts -/

@[simp] theorem toList_lower (text : String) :
    (lower text).toList = text.toList.map Char.toLower := by
  simp [lower]

theorem sameIgnoringCase_lower (text : String) : sameIgnoringCase (lower text) text = true := by
  have hidem : (Char.toLower ∘ Char.toLower) = Char.toLower := funext toLower_toLower
  simp [sameIgnoringCase, lower, hidem]

/-- A predicate on characters that does not see their case. -/
def IgnoresCase (p : Char -> Bool) : Prop :=
  ∀ c, p c.toLower = p c

theorem ignoresCase_mark {mark : Char} (h : mark.toNat < 65) :
    IgnoresCase (· == mark) := by
  intro c
  rw [Bool.eq_iff_iff]
  simp [toLower_eq_iff h]

theorem ignoresCase_not_mark {mark : Char} (h : mark.toNat < 65) :
    IgnoresCase (· != mark) := by
  intro c
  exact congrArg not (ignoresCase_mark h c)

theorem IgnoresCase.takeWhile_map {p : Char -> Bool} (h : IgnoresCase p) (cs : List Char) :
    (cs.map Char.toLower).takeWhile p = (cs.takeWhile p).map Char.toLower := by
  have hcomp : p ∘ Char.toLower = p := funext h
  rw [List.takeWhile_map, hcomp]

theorem IgnoresCase.dropWhile_map {p : Char -> Bool} (h : IgnoresCase p) (cs : List Char) :
    (cs.map Char.toLower).dropWhile p = (cs.dropWhile p).map Char.toLower := by
  have hcomp : p ∘ Char.toLower = p := funext h
  rw [List.dropWhile_map, hcomp]

theorem IgnoresCase.dropEnd_map {p : Char -> Bool} (h : IgnoresCase p) (cs : List Char) :
    dropEnd p (cs.map Char.toLower) = (dropEnd p cs).map Char.toLower := by
  unfold dropEnd
  rw [← List.map_reverse, h.dropWhile_map, List.map_reverse]

theorem trim_lower (text : String) : trim (lower text) = lower (trim text) := by
  unfold trim trimChars
  rw [toList_lower, IgnoresCase.dropWhile_map isBlank_toLower,
    IgnoresCase.dropEnd_map isBlank_toLower]
  simp [lower]

theorem cutAt_lower {mark : Char} (h : mark.toNat < 65) (text : String) :
    cutAt mark (lower text) =
      (cutAt mark text).map fun parts => (lower parts.1, lower parts.2) := by
  have hmark : ∀ {cs : List Char}, mark ∉ cs -> mark ∉ cs.map Char.toLower := by
    intro cs hcs hmem
    obtain ⟨c, hc, heq⟩ := List.mem_map.1 hmem
    exact hcs ((toLower_eq_iff h c).1 heq ▸ hc)
  rcases mark_or_not_mem mark text.toList with ⟨before, after, hbefore, hsplit⟩ | hnone
  · have hlower : (lower text).toList =
        before.map Char.toLower ++ mark :: after.map Char.toLower := by
      rw [toList_lower, hsplit, List.map_append, List.map_cons, (toLower_eq_iff h mark).2 rfl]
    rw [cutAt_of_split hsplit hbefore, cutAt_of_split hlower (hmark hbefore)]
    simp [lower]
  · have hlower : mark ∉ (lower text).toList := by
      rw [toList_lower]
      exact hmark hnone
    rw [cutAt_of_not_mem hnone, cutAt_of_not_mem hlower]
    rfl

private theorem digits?_map_toLower (value : Nat) (cs : List Char) :
    digits? 10 value (cs.map Char.toLower) = digits? 10 value cs := by
  induction cs generalizing value with
  | nil => rfl
  | cons c cs ih => simp only [List.map_cons, digits?, digit?_toLower, ih]

private theorem unsigned_map_toLower (cs : List Char) :
    unsigned (cs.map Char.toLower) = (unsigned cs).map Char.toLower := by
  cases cs with
  | nil => rfl
  | cons c cs =>
      by_cases hplus : c = '+'
      · subst hplus
        rfl
      · have hlower : c.toLower ≠ '+' := fun h => hplus ((toLower_eq_iff (by decide) c).1 h)
        simp [unsigned, hplus, hlower]

theorem numeral?_lower (bound : Nat) (text : String) :
    numeral? 10 bound (lower text) = numeral? 10 bound text := by
  unfold numeral?
  rw [toList_lower, unsigned_map_toLower]
  cases unsigned text.toList with
  | nil => rfl
  | cons c cs =>
      have hdigits := digits?_map_toLower 0 (c :: cs)
      rw [List.map_cons] at hdigits ⊢
      simp only [hdigits]

end Text

end Intermediary

import Intermediary.Text.Normal

/-!
# Characters that normalisation passes over

An inert character of a text is still there in its canonical composition: it is
not decomposed, it is kept when marks are put into order, and no pair that it
belongs to is composed.
-/

namespace Intermediary

namespace Text

namespace Normal

private theorem decompose_of_isInert {c : Char} (h : isInert c = true) : decompose c = [c] := by
  unfold decompose
  rw [if_pos h]

/-- What one step brings about and the others keep holds when a run has made it. -/
private theorem foldl_of_mem {α β : Type} {step : β -> α -> β} {P : β -> Prop} {a : α}
    {as : List α} (h : a ∈ as) (hbrings : ∀ state, P (step state a))
    (hkeeps : ∀ state b, P state -> P (step state b)) (start : β) :
    P (as.foldl step start) := by
  obtain ⟨before, after, rfl⟩ := List.append_of_mem h
  rw [List.foldl_append, List.foldl_cons]
  exact List.foldlRecOn after step (hbrings _) fun state hstate b _ =>
    hkeeps state b hstate

/-! ## Order -/

private theorem mem_insertMark {c d : Char} {marks : List Char} :
    d ∈ insertMark c marks ↔ d = c ∨ d ∈ marks := by
  induction marks with
  | nil => simp [insertMark]
  | cons m marks ih =>
      unfold insertMark
      split
      · simp
      · simp only [List.mem_cons, ih, or_left_comm]

def Takes (c : Char) (state : List Char × List Char) : Prop :=
  c ∈ state.1 ∨ c ∈ state.2

private theorem takes_orderStep (c : Char) (state : List Char × List Char) :
    Takes c (orderStep state c) := by
  unfold Takes orderStep
  split
  · exact .inl List.mem_cons_self
  · exact .inr (mem_insertMark.2 (.inl rfl))

private theorem Takes.orderStep {c : Char} {state : List Char × List Char} (h : Takes c state)
    (d : Char) : Takes c (orderStep state d) := by
  unfold Takes Normal.orderStep
  split
  · refine .inl (List.mem_cons_of_mem d ?_)
    simpa [Takes, or_comm] using h
  · exact h.imp_right fun hmark => mem_insertMark.2 (.inr hmark)

private theorem mem_order {c : Char} {cs : List Char} (h : c ∈ cs) : c ∈ order cs := by
  have htaken : Takes c (cs.foldl orderStep ([], [])) :=
    foldl_of_mem h (takes_orderStep c) (fun _ d hstate => hstate.orderStep d) _
  unfold order
  rcases htaken with hdone | hmark
  · simp [hdone]
  · simp [hmark]

/-! ## Composition -/

namespace Composition

/--
A character is composed with the starter, where neither of them is inert, or it
becomes the starter, or it is a mark that waits.
-/
theorem step_cases (state : Composition) (c : Char) :
    (∃ starter composed, state.starter = some starter ∧ isInert starter = false ∧
      isInert c = false ∧ state.step c = { state with starter := some composed }) ∨
    state.step c = ⟨state.marks ++ (state.starter.toList ++ state.before), some c, []⟩ ∨
    state.step c = { state with marks := c :: state.marks } := by
  obtain ⟨before, starter, marks⟩ := state
  unfold step
  cases starter with
  | none =>
      dsimp only
      split
      · exact .inr (.inl rfl)
      · exact .inr (.inr rfl)
  | some starter =>
      dsimp only
      split
      · next composed hcomposed =>
        have hinert := (Option.ite_none_left_eq_some.1 hcomposed).1
        simp only [Bool.or_eq_true, not_or, Bool.not_eq_true] at hinert
        exact .inl ⟨starter, composed, rfl, hinert.1.2, hinert.2, rfl⟩
      · split
        · exact .inr (.inl rfl)
        · exact .inr (.inr rfl)

def Holds (state : Composition) (c : Char) : Prop :=
  c ∈ state.marks ∨ state.starter = some c ∨ c ∈ state.before

private theorem mem_finish {state : Composition} {c : Char} (h : state.Holds c) :
    c ∈ state.finish := by
  have hmem : c ∈ state.marks ++ state.starter.toList ++ state.before := by
    simpa [Holds, or_assoc] using h
  exact List.mem_reverse.2 hmem

theorem holds_step {c : Char} (h : isInert c = true) (state : Composition) :
    (state.step c).Holds c := by
  rcases step_cases state c with ⟨_, _, _, _, hinert, _⟩ | heq | heq
  · rw [h] at hinert
    cases hinert
  · rw [heq]
    exact .inr (.inl rfl)
  · rw [heq]
    exact .inl List.mem_cons_self

theorem Holds.step {c : Char} (h : isInert c = true) {state : Composition}
    (hstate : state.Holds c) (d : Char) : (state.step d).Holds c := by
  rcases step_cases state d with ⟨starter, composed, hstarter, hinert, _, heq⟩ | heq | heq
  · rw [heq]
    refine hstate.imp_right (Or.imp_left fun hc => ?_)
    rw [hstarter] at hc
    cases hc
    rw [h] at hinert
    cases hinert
  · rw [heq]
    refine .inr (.inr ?_)
    simpa [Holds] using hstate
  · rw [heq]
    exact hstate.imp_left (List.mem_cons_of_mem d)

end Composition

/-- The inert characters of a text are in its canonical composition. -/
theorem mem_compose {c : Char} (h : isInert c = true) {cs : List Char} (hc : c ∈ cs) :
    c ∈ compose cs := by
  have hdecomposed : c ∈ cs.flatMap decompose := by
    refine List.mem_flatMap.2 ⟨c, hc, ?_⟩
    rw [decompose_of_isInert h]
    exact List.mem_singleton_self c
  unfold compose
  refine Composition.mem_finish ?_
  exact foldl_of_mem (P := (Composition.Holds · c)) (mem_order hdecomposed)
    (Composition.holds_step h) (fun _ d hstate => hstate.step h d) _

end Normal

end Text

end Intermediary

import Intermediary.Blocklist
import Intermediary.Proofs.Pattern.Grouped
import Intermediary.Proofs.Pattern.Matching
import Mathlib.Algebra.Order.Ring.Nat

/-!
# A blocklist as the union of its patterns

Every written pattern is put into a group between two anchors.  As long as it
closes no parenthesis that it did not open, it is accepted there where it is
accepted alone, up to the room that the group takes and to a comment that it
leaves open, and then blocks the hosts that it matches as a whole.
-/

namespace Intermediary

namespace Blocklist

open Pattern

/-! ## A written pattern between anchors -/

/-- A written pattern ends in a comment, which passes over what is written behind it. -/
def EndsInComment (text : String) : Prop :=
  ∃ pattern, ofText? text = some pattern ∧ ofText? (text ++ ")$") = some pattern

def between (pattern : Pattern) : Pattern :=
  .sequence (.look .textStart) (.sequence pattern (.look .textEnd))

/-- The level around the group that holds a written pattern. -/
def frame : Level where
  flags := {}
  branches := []
  run := [{ pattern := .look .textStart, depth := 0 }]

private theorem toList_anchored (text : String) :
    (anchored text).toList = '^' :: '(' :: '?' :: ':' :: (text.toList ++ closing) := by
  simp [anchored, closing]

private theorem toList_closed (text : String) : (text ++ ")$").toList = text.toList ++ closing := by
  simp [closing]

private theorem drafted_anchored (text : String) :
    drafted {} (anchored text).toList =
      drafted (({} : Draft).under [frame]) (text.toList ++ closing) := by
  rw [toList_anchored, drafted_of_step rfl]
  simp only [step?, Option.bind_some]
  rw [drafted_of_step rfl]
  rfl

theorem under_nil (draft : Draft) : draft.under [] = draft := by
  simp [Draft.under]

/-- Three ways in which a written pattern stands between the anchors. -/
inductive Stands (text : String) : Prop
  /-- It is well-formed, alone and between the anchors. -/
  | framed (item : Item) (alone : item? text = some item)
      (anchored : item? (anchored text) = some ⟨between item.pattern, item.depth + 2, true⟩)
      (closed : item? (text ++ ")$") = none)
  /-- It is well-formed alone, and passes over what closes its group. -/
  | swallowed (item : Item) (alone : item? text = some item)
      (anchored : item? (anchored text) = none) (closed : item? (text ++ ")$") = some item)
  | broken (alone : item? text = none) (anchored : item? (anchored text) = none)

def framed (last : Draft) : Draft where
  run :=
    [{ pattern := .look .textEnd, depth := 0 },
      { pattern := last.whole.pattern, depth := last.whole.depth + 1 },
      { pattern := .look .textStart, depth := 0 }]
  names := last.names

private theorem drafted_frame {last : Draft} (closed : last.outer = []) :
    drafted (last.under [frame]) closing = some (framed last) := by
  rw [drafted_closing]
  simp [Draft.leave?, closed, Draft.add, framed, frame, anchor]

private theorem framed_whole (last : Draft) :
    (framed last).whole = ⟨between last.whole.pattern, last.whole.depth + 2, true⟩ := by
  simp [Draft.whole, framed, joinBranches, joinRun, between]

private theorem stands_of_ends {text : String} (ends : Ends {} text.toList) : Stands text := by
  cases ends with
  | ahead last alone grouped =>
      cases levels : last.outer with
      | nil =>
          refine .framed last.whole (item_of_closed alone levels) ?_ ?_
          · rw [← framed_whole]
            refine item_of_closed ?_ rfl
            rw [drafted_anchored, grouped, drafted_frame levels]
          · have refused : drafted {} (text ++ ")$").toList = none := by
              rw [toList_closed, ← under_nil {}, grouped, under_nil, drafted_closing]
              simp [Draft.leave?, levels]
            refine item_of_open fun whole found => ?_
            rw [refused] at found
            cases found
      | cons level outer =>
          refine .broken (item_of_open ?_) (item_of_open ?_)
          · simp [alone, levels]
          · intro whole
            rw [drafted_anchored, grouped, drafted_closing]
            simp only [Draft.leave?, Draft.under_outer, levels, List.cons_append, Option.map_some,
              Option.some.injEq]
            rintro rfl
            simp [Draft.add]
  | within last alone grouped =>
      have anchored : item? (anchored text) = none := by
        refine item_of_open fun whole => ?_
        rw [drafted_anchored, grouped]
        rintro ⟨⟩
        simp
      cases levels : last.outer with
      | nil =>
          have closed : drafted {} (text ++ ")$").toList = some last := by
            rw [toList_closed, ← under_nil {}, grouped, under_nil]
          exact .swallowed last.whole (item_of_closed alone levels) anchored
            (item_of_closed closed levels)
      | cons level outer => exact .broken (item_of_open (by simp [alone, levels])) anchored
  | broken alone grouped =>
      refine .broken (item_of_open (by simp [alone])) (item_of_open fun whole found => ?_)
      rw [drafted_anchored] at found
      exact grouped [frame] whole (by simp) found

def nesting (text : String) : Nat :=
  ((item? text).map Item.depth).getD 0

private theorem ofText_some {text : String} {pattern : Pattern} :
    ofText? text = some pattern ↔
      ∃ item, item? text = some item ∧ item.depth ≤ depthBound ∧ item.pattern = pattern := by
  simp [ofText_eq, Option.bind_eq_some_iff]

/--
What is accepted between the anchors is what is accepted alone, has room for
the group around it and leaves no comment open.
-/
theorem ofText_anchored {text : String} (opened : ¬ Unopened {} text.toList) {whole : Pattern} :
    ofText? (anchored text) = some whole ↔
      ∃ pattern, ofText? text = some pattern ∧ nesting text + 2 ≤ depthBound ∧
        ¬ EndsInComment text ∧ between pattern = whole := by
  have stands := stands_of_ends ((unopened_or_ends {} text.toList).resolve_left opened)
  cases stands with
  | framed item alone anchored closed =>
      have uncommented : ¬ EndsInComment text := by
        rintro ⟨pattern, -, found⟩
        simp [ofText_eq, closed] at found
      simp only [ofText_some, alone, anchored, nesting, Option.some.injEq, Option.map_some,
        Option.getD_some]
      constructor
      · rintro ⟨_, rfl, room, rfl⟩
        have alone_room : item.depth ≤ depthBound := Nat.le_of_add_right_le room
        exact ⟨item.pattern, ⟨item, rfl, alone_room, rfl⟩, room, uncommented, rfl⟩
      · rintro ⟨_, ⟨_, rfl, -, rfl⟩, room, -, rfl⟩
        exact ⟨_, rfl, room, rfl⟩
  | swallowed item alone anchored closed =>
      have comment {pattern : Pattern} (found : ofText? text = some pattern) :
          EndsInComment text := by
        refine ⟨pattern, found, ?_⟩
        rw [ofText_eq, closed]
        rwa [ofText_eq, alone] at found
      constructor
      · simp [ofText_eq, anchored]
      · rintro ⟨pattern, found, -, uncommented, -⟩
        exact absurd (comment found) uncommented
  | broken alone anchored => simp [ofText_eq, alone, anchored]

/-- A text that writes a pattern closes only parentheses that it opened. -/
theorem opened_of_ofText {text : String} {pattern : Pattern}
    (found : ofText? text = some pattern) : ¬ Unopened {} text.toList := by
  intro unopened
  simp [ofText_eq, item?, unopened.not_drafted] at found

/-! ## Lists of patterns -/

private theorem mapM_eq_some {α β : Type} {f : α -> Option β} {as : List α} {bs : List β} :
    as.mapM f = some bs ↔ as.map f = bs.map some := by
  induction as generalizing bs with
  | nil =>
      rw [List.mapM_nil]
      cases bs <;> simp
  | cons a as ih =>
      rw [List.mapM_cons, List.map_cons]
      constructor
      · intro found
        obtain ⟨b, read, found⟩ := Option.bind_eq_some_iff.mp found
        obtain ⟨others, rest, ⟨⟩⟩ := Option.bind_eq_some_iff.mp found
        rw [List.map_cons, read, ih.mp rest]
      · intro same
        cases bs with
        | nil => cases same
        | cons b bs =>
            obtain ⟨read, rest⟩ := List.cons.inj same
            rw [read, ih.mpr rest]
            rfl

theorem size_eq (patterns : List Pattern) :
    (⟨patterns⟩ : Blocklist).size = (patterns.map Pattern.size).sum := by
  suffices counted : ∀ total, patterns.foldl (fun total pattern => total + pattern.size) total =
      total + (patterns.map Pattern.size).sum by
    exact (counted 0).trans (Nat.zero_add _)
  induction patterns with
  | nil => simp
  | cons pattern patterns ih =>
      intro total
      rw [List.foldl_cons, ih, List.map_cons, List.sum_cons, Nat.add_assoc]

/-- A blocklist has the written patterns between anchors, and is not too large. -/
theorem ofPatterns_eq_ok {written : List String} {blocklist : Blocklist} :
    ofPatterns written = .ok blocklist ↔
      written.map (fun text => ofText? (anchored text)) = blocklist.patterns.map some ∧
        blocklist.size ≤ sizeBound := by
  unfold ofPatterns
  rw [← mapM_eq_some]
  match written.mapM fun text => ofText? (anchored text) with
  | none => simp
  | some patterns =>
      simp only [Option.some.injEq]
      constructor
      · intro accepted
        split at accepted
        next small =>
          cases accepted
          exact ⟨rfl, small⟩
        next => cases accepted
      · rintro ⟨rfl, small⟩
        rw [if_pos small]

private theorem mem_patterns {written : List String} {blocklist : Blocklist}
    (accepted : ofPatterns written = .ok blocklist) {whole : Pattern} :
    whole ∈ blocklist.patterns ↔ ∃ text ∈ written, ofText? (anchored text) = some whole := by
  have same := (ofPatterns_eq_ok.mp accepted).1
  have listed : some whole ∈ blocklist.patterns.map some ↔ whole ∈ blocklist.patterns := by simp
  rw [← listed, ← same, List.mem_map]

theorem contains_iff {written : List String} {blocklist : Blocklist}
    (accepted : ofPatterns written = .ok blocklist) (host : String) :
    blocklist.contains host ↔
      ∃ text ∈ written, ∃ whole, ofText? (anchored text) = some whole ∧ whole.occursIn host := by
  simp only [contains, List.any_eq_true, mem_patterns accepted]
  constructor
  · rintro ⟨whole, ⟨text, listed, found⟩, occurs⟩
    exact ⟨text, listed, whole, found, occurs⟩
  · rintro ⟨text, listed, whole, found, occurs⟩
    exact ⟨whole, ⟨text, listed, found⟩, occurs⟩

/-- More patterns block no fewer hosts. -/
theorem contains_mono {written more : List String} {blocklist larger : Blocklist}
    (accepted : ofPatterns written = .ok blocklist) (also : ofPatterns more = .ok larger)
    (listed : written ⊆ more) {host : String} (blocked : blocklist.contains host) :
    larger.contains host := by
  obtain ⟨text, known, whole, found, occurs⟩ := (contains_iff accepted host).mp blocked
  exact (contains_iff also host).mpr ⟨text, listed known, whole, found, occurs⟩

/-- The room that a written pattern takes between its anchors. -/
def framedSize (text : String) : Nat :=
  ((ofText? text).map Pattern.size).getD 0 + 2 * stateBytes

private theorem size_between (pattern : Pattern) :
    (between pattern).size = pattern.size + 2 * stateBytes := by
  simp only [between, Pattern.size]
  omega

/-- A text is a pattern of its own, has room for a group around it and leaves no comment open. -/
structure Enclosable (text : String) : Prop where
  written : (ofText? text).isSome
  room : nesting text + 2 ≤ depthBound
  uncommented : ¬ EndsInComment text

private theorem enclosable_of_anchored {text : String} (opened : ¬ Unopened {} text.toList)
    {whole : Pattern} (found : ofText? (anchored text) = some whole) :
    Enclosable text ∧ whole.size = framedSize text := by
  obtain ⟨pattern, alone, room, uncommented, rfl⟩ := (ofText_anchored opened).mp found
  refine ⟨⟨by simp [alone], room, uncommented⟩, ?_⟩
  simp [size_between, framedSize, alone]

private theorem Enclosable.anchored {text : String} (enclosable : Enclosable text) :
    ∃ whole, ofText? (anchored text) = some whole := by
  obtain ⟨pattern, alone⟩ := Option.isSome_iff_exists.mp enclosable.written
  exact ⟨between pattern, (ofText_anchored (opened_of_ofText alone)).mpr
    ⟨pattern, alone, enclosable.room, enclosable.uncommented, rfl⟩⟩

theorem sizes_eq {written : List String} {patterns : List Pattern}
    (opened : ∀ text ∈ written, ¬ Unopened {} text.toList)
    (same : written.map (fun text => ofText? (anchored text)) = patterns.map some) :
    patterns.map Pattern.size = written.map framedSize := by
  induction written generalizing patterns with
  | nil =>
      cases patterns with
      | nil => rfl
      | cons whole patterns => cases same
  | cons text written ih =>
      cases patterns with
      | nil => cases same
      | cons whole patterns =>
          obtain ⟨found, rest⟩ := List.cons.inj same
          rw [List.forall_mem_cons] at opened
          rw [List.map_cons, List.map_cons, ih opened.2 rest,
            (enclosable_of_anchored opened.1 found).2]

/-- A list of patterns is accepted as a whole if each of them is, and there is room for all. -/
theorem accepted_iff {written : List String}
    (opened : ∀ text ∈ written, ¬ Unopened {} text.toList) :
    (∃ blocklist, ofPatterns written = .ok blocklist) ↔
      (∀ text ∈ written, Enclosable text) ∧ (written.map framedSize).sum ≤ sizeBound := by
  constructor
  · rintro ⟨blocklist, accepted⟩
    obtain ⟨same, small⟩ := ofPatterns_eq_ok.mp accepted
    constructor
    · intro text listed
      have found : ofText? (anchored text) ∈ blocklist.patterns.map some :=
        same ▸ List.mem_map_of_mem listed
      obtain ⟨whole, -, found⟩ := List.mem_map.mp found
      exact (enclosable_of_anchored (opened text listed) found.symm).1
    · rwa [← sizes_eq opened same, ← size_eq]
  · rintro ⟨each, small⟩
    have read (text : String) (listed : text ∈ written) : ofText? (anchored text) =
        some ((ofText? (anchored text)).getD .empty) := by
      obtain ⟨whole, found⟩ := (each text listed).anchored
      simp [found]
    have same : written.map (fun text => ofText? (anchored text)) =
        (written.map fun text => (ofText? (anchored text)).getD .empty).map some := by
      rw [List.map_map]
      exact List.map_congr_left read
    refine ⟨⟨_⟩, ofPatterns_eq_ok.mpr ⟨same, ?_⟩⟩
    rwa [size_eq, sizes_eq opened same]

/-- An accepted pattern blocks exactly the hosts that it matches as a whole. -/
theorem contains_iff_matchesWhole {written : List String} {blocklist : Blocklist}
    (opened : ∀ text ∈ written, ¬ Unopened {} text.toList)
    (accepted : ofPatterns written = .ok blocklist) (host : String) :
    blocklist.contains host ↔
      ∃ text ∈ written, ∃ pattern, ofText? text = some pattern ∧ pattern.MatchesWhole host := by
  rw [contains_iff accepted]
  constructor
  · rintro ⟨text, listed, whole, found, occurs⟩
    obtain ⟨pattern, alone, -, -, rfl⟩ := (ofText_anchored (opened text listed)).mp found
    exact ⟨text, listed, pattern, alone, (occursIn_between_anchors pattern host).mp occurs⟩
  · rintro ⟨text, listed, pattern, alone, matched⟩
    have enclosable := ((accepted_iff opened).mp ⟨blocklist, accepted⟩).1 text listed
    have found := (ofText_anchored (opened text listed)).mpr
      ⟨pattern, alone, enclosable.room, enclosable.uncommented, rfl⟩
    exact ⟨text, listed, between pattern, found, (occursIn_between_anchors pattern host).mpr matched⟩

/--
A blocklist is the union of its patterns, as long as none of them closes a
parenthesis that it did not open: it is accepted if each of them is a pattern of
its own that can stand in a group, and there is room for all; it blocks the hosts
that one of them matches as a whole; and with more patterns, in whatever order
and however often, it blocks no fewer.
-/
theorem union_of_patterns (written : List String)
    (opened : ∀ text ∈ written, ¬ Unopened {} text.toList) :
    ((∃ blocklist, ofPatterns written = .ok blocklist) ↔
      (∀ text ∈ written, Enclosable text) ∧ (written.map framedSize).sum ≤ sizeBound) ∧
    ∀ blocklist, ofPatterns written = .ok blocklist ->
      (∀ host, blocklist.contains host ↔
        ∃ text ∈ written, ∃ pattern, ofText? text = some pattern ∧ pattern.MatchesWhole host) ∧
      ∀ more larger, written ⊆ more -> ofPatterns more = .ok larger ->
        ∀ host, blocklist.contains host -> larger.contains host :=
  ⟨accepted_iff opened, fun _ accepted =>
    ⟨contains_iff_matchesWhole opened accepted, fun _ _ listed also _ blocked =>
      contains_mono accepted also listed blocked⟩⟩

/-- An evaluated list of patterns is a blocklist. -/
private theorem exists_of_evaluated {written : List String} {host : String}
    (evaluated : (ofPatterns written).toOption.any (·.contains host)) :
    ∃ blocklist, ofPatterns written = .ok blocklist ∧ blocklist.contains host := by
  match accepted : ofPatterns written with
  | .error fault => simp [accepted, Except.toOption] at evaluated
  | .ok blocklist => exact ⟨blocklist, rfl, by simpa [accepted, Except.toOption] using evaluated⟩

theorem union_of_patterns_choice :
    (∀ text ∈ ["a|b", "ab+"], ¬ Unopened {} text.toList) ∧
      ∃ blocklist, ofPatterns ["a|b", "ab+"] = .ok blocklist ∧ blocklist.contains "abb" ∧
        ∃ text ∈ ["a|b", "ab+"], ∃ pattern,
          ofText? text = some pattern ∧ pattern.MatchesWhole "abb" := by
  have choice : (ofText? "a|b").isSome := by decide +kernel
  have repetition : (ofText? "ab+").isSome := by decide +kernel
  have opened : ∀ text ∈ ["a|b", "ab+"], ¬ Unopened {} text.toList := by
    intro text listed
    simp only [List.mem_cons, List.not_mem_nil, or_false] at listed
    rcases listed with rfl | rfl
    · exact opened_of_ofText (Option.some_get choice).symm
    · exact opened_of_ofText (Option.some_get repetition).symm
  have evaluated : (ofPatterns ["a|b", "ab+"]).toOption.any (·.contains "abb") := by
    decide +kernel
  obtain ⟨blocklist, accepted, blocked⟩ := exists_of_evaluated evaluated
  have each := (union_of_patterns ["a|b", "ab+"] opened).2 blocklist accepted
  exact ⟨opened, blocklist, accepted, blocked, (each.1 "abb").mp blocked⟩

/--
A parenthesis that closes the group around a pattern makes a blocklist of a text
that is no pattern, and it blocks more than whole matches; an open comment keeps
a pattern from being accepted.
-/
theorem escape_of_frame :
    ofText? "a)|(?:b" = none ∧
      (∃ blocklist, ofPatterns ["a)|(?:b"] = .ok blocklist ∧ blocklist.contains "axyz") ∧
      (ofText? "(?x)a#").isSome ∧ ∀ blocklist, ofPatterns ["(?x)a#"] ≠ .ok blocklist := by
  have refused : (ofPatterns ["(?x)a#"]).toOption.isNone := by decide +kernel
  refine ⟨by decide +kernel, exists_of_evaluated (by decide +kernel), by decide +kernel, ?_⟩
  intro blocklist accepted
  simp [accepted, Except.toOption] at refused

end Blocklist

end Intermediary

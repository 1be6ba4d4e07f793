import Intermediary.Text.Blank
import Mathlib.Data.List.TakeDrop
import Mathlib.Data.List.TakeWhile

/-!
# Trimming, cutting and words

What the operations on blanks and marks do to a text, said of its characters.
A text is clean when it holds no blank at all, and trimmed when it neither
begins nor ends with one.
-/

namespace Intermediary

namespace Text

def AllBlank (cs : List Char) : Prop :=
  ∀ c ∈ cs, isBlank c = true

def Clean (cs : List Char) : Prop :=
  ∀ c ∈ cs, isBlank c = false

/-- Characters that neither begin nor end with a blank. -/
structure Trimmed (cs : List Char) : Prop where
  head : ∀ c ∈ cs.head?, isBlank c = false
  last : ∀ c ∈ cs.getLast?, isBlank c = false

theorem Clean.trimmed {cs : List Char} (h : Clean cs) : Trimmed cs where
  head c hc := h c (List.mem_of_mem_head? hc)
  last c hc := h c (List.mem_of_mem_getLast? hc)

theorem clean_of_all {cs : List Char} (h : cs.all (! isBlank ·) = true) : Clean cs := by
  intro c hc
  simpa using List.all_eq_true.1 h c hc

theorem Clean.no_break {cs : List Char} (h : Clean cs) : '\n' ∉ cs :=
  fun hmem => absurd (h _ hmem) (by decide)

theorem Clean.append {as bs : List Char} (ha : Clean as) (hb : Clean bs) :
    Clean (as ++ bs) := by
  intro c hc
  rcases List.mem_append.1 hc with h | h
  · exact ha c h
  · exact hb c h

/-! ## Trimming -/

theorem dropWhile_blank_of_head {cs : List Char}
    (h : ∀ c ∈ cs.head?, isBlank c = false) : cs.dropWhile isBlank = cs := by
  cases cs with
  | nil => rfl
  | cons c cs => simp [h c rfl]

theorem dropWhile_blank_append {before : List Char} (h : AllBlank before)
    (cs : List Char) :
    (before ++ cs).dropWhile isBlank = cs.dropWhile isBlank := by
  induction before with
  | nil => rfl
  | cons c before ih =>
      have hc : isBlank c = true := h c List.mem_cons_self
      have hrest : AllBlank before := fun d hd => h d (List.mem_cons_of_mem c hd)
      simp [hc, ih hrest]

theorem dropEnd_append {after : List Char} (h : AllBlank after) (cs : List Char) :
    dropEnd isBlank (cs ++ after) = dropEnd isBlank cs := by
  have hrev : AllBlank after.reverse := fun c hc => h c (List.mem_reverse.1 hc)
  simp only [dropEnd, List.reverse_append]
  rw [dropWhile_blank_append hrev]

private theorem dropEnd_of_last {cs : List Char}
    (h : ∀ c ∈ cs.getLast?, isBlank c = false) : dropEnd isBlank cs = cs := by
  have hhead : ∀ c ∈ cs.reverse.head?, isBlank c = false := by
    intro c hc
    exact h c (by simpa using hc)
  simp only [dropEnd, dropWhile_blank_of_head hhead, List.reverse_reverse]

theorem trimChars_of_trimmed {cs : List Char} (h : Trimmed cs) :
    trimChars cs = cs := by
  unfold trimChars
  rw [dropWhile_blank_of_head h.head, dropEnd_of_last h.last]

/-- Blanks at either end are what trimming takes away. -/
theorem trimChars_surrounded {before core after : List Char}
    (hbefore : AllBlank before) (hafter : AllBlank after) (hcore : Trimmed core) :
    trimChars (before ++ core ++ after) = core := by
  unfold trimChars
  rw [List.append_assoc, dropWhile_blank_append hbefore]
  cases core with
  | nil =>
      have hnil : after.dropWhile isBlank = [] := by
        simpa using dropWhile_blank_append hafter []
      rw [List.nil_append, hnil]
      rfl
  | cons c core =>
      have hhead : ∀ d ∈ (c :: core ++ after).head?, isBlank d = false := hcore.head
      rw [dropWhile_blank_of_head hhead, dropEnd_append hafter,
        dropEnd_of_last hcore.last]

private theorem dropWhile_blank_split (cs : List Char) :
    ∃ before, AllBlank before ∧ cs = before ++ cs.dropWhile isBlank := by
  refine ⟨cs.takeWhile isBlank, ?_, List.takeWhile_append_dropWhile.symm⟩
  exact List.all_eq_true.1 List.all_takeWhile

theorem exists_of_dropEnd (p : Char -> Bool) (cs : List Char) :
    ∃ after, (∀ c ∈ after, p c = true) ∧ cs = dropEnd p cs ++ after := by
  refine ⟨(cs.reverse.takeWhile p).reverse, fun c hc => ?_, ?_⟩
  · exact List.all_eq_true.1 List.all_takeWhile c (List.mem_reverse.1 hc)
  · unfold dropEnd
    rw [← List.reverse_append, List.takeWhile_append_dropWhile, List.reverse_reverse]

/-- What trimming takes away are blanks at either end. -/
theorem trimChars_split (cs : List Char) :
    ∃ before after, AllBlank before ∧ AllBlank after ∧
      cs = before ++ trimChars cs ++ after := by
  obtain ⟨before, hbefore, hfirst⟩ := dropWhile_blank_split cs
  obtain ⟨after, hafter, hlast⟩ := exists_of_dropEnd isBlank (cs.dropWhile isBlank)
  refine ⟨before, after, hbefore, hafter, ?_⟩
  unfold trimChars
  rw [List.append_assoc, ← hlast]
  exact hfirst

private theorem head?_dropWhile_blank (cs : List Char) :
    ∀ c ∈ (cs.dropWhile isBlank).head?, isBlank c = false := by
  intro c hc
  have h := List.head?_dropWhile_not isBlank cs
  rw [Option.mem_def.1 hc] at h
  simpa using h

private theorem getLast?_dropEnd (cs : List Char) :
    ∀ c ∈ (dropEnd isBlank cs).getLast?, isBlank c = false := by
  intro c hc
  unfold dropEnd at hc
  rw [List.getLast?_reverse] at hc
  exact head?_dropWhile_blank cs.reverse c hc

theorem trimmed_trimChars (cs : List Char) : Trimmed (trimChars cs) where
  head := by
    intro c hc
    obtain ⟨after, _, hsplit⟩ := exists_of_dropEnd isBlank (cs.dropWhile isBlank)
    refine head?_dropWhile_blank cs c ?_
    rw [hsplit, List.head?_append]
    unfold trimChars at hc
    rw [Option.mem_def.1 hc]
    rfl
  last := getLast?_dropEnd (cs.dropWhile isBlank)

theorem mem_trimChars {cs : List Char} {c : Char} (h : c ∈ trimChars cs) :
    c ∈ cs := by
  obtain ⟨before, after, _, _, hsplit⟩ := trimChars_split cs
  rw [hsplit]
  simp [h]

/-- Blanks at either end change nothing about what trimming leaves. -/
theorem trimChars_append_blanks {before after : List Char} (hbefore : AllBlank before)
    (hafter : AllBlank after) (cs : List Char) :
    trimChars (before ++ cs ++ after) = trimChars cs := by
  obtain ⟨first, last, hfirst, hlast, hsplit⟩ := trimChars_split cs
  have hall : before ++ cs ++ after =
      (before ++ first) ++ trimChars cs ++ (last ++ after) := by
    conv => lhs; rw [hsplit]
    simp only [List.append_assoc]
  rw [hall]
  exact trimChars_surrounded (List.forall_mem_append.2 ⟨hbefore, hfirst⟩)
    (List.forall_mem_append.2 ⟨hlast, hafter⟩) (trimmed_trimChars cs)

theorem trimChars_before {before : List Char} (h : AllBlank before) (cs : List Char) :
    trimChars (before ++ cs) = trimChars cs := by
  have htrim := trimChars_append_blanks h (List.forall_mem_nil _) cs
  rwa [List.append_nil] at htrim

private theorem trimChars_after {after : List Char} (h : AllBlank after) (cs : List Char) :
    trimChars (cs ++ after) = trimChars cs :=
  trimChars_append_blanks (List.forall_mem_nil _) h cs

theorem toList_trim (text : String) : (trim text).toList = trimChars text.toList := by
  simp [trim]

theorem trim_of_trimmed {text : String} (h : Trimmed text.toList) :
    trim text = text := by
  unfold trim
  rw [trimChars_of_trimmed h, String.ofList_toList]

/-! ## Cutting -/

theorem bne_of_not_mem {mark : Char} {cs : List Char} (h : mark ∉ cs) :
    ∀ c ∈ cs, (c != mark) = true := by
  intro c hc
  exact bne_iff_ne.2 fun heq => h (heq ▸ hc)

theorem takeWhile_of_not_mem {mark : Char} {cs : List Char} (h : mark ∉ cs)
    (rest : List Char) :
    (cs ++ mark :: rest).takeWhile (· != mark) = cs := by
  rw [List.takeWhile_append_of_pos (bne_of_not_mem h)]
  simp

theorem dropWhile_of_not_mem {mark : Char} {cs : List Char} (h : mark ∉ cs)
    (rest : List Char) :
    (cs ++ mark :: rest).dropWhile (· != mark) = mark :: rest := by
  rw [List.dropWhile_append_of_pos (bne_of_not_mem h)]
  simp

/-- A text has a mark at a first place, or nowhere. -/
theorem mark_or_not_mem (mark : Char) (cs : List Char) :
    (∃ before after, mark ∉ before ∧ cs = before ++ mark :: after) ∨ mark ∉ cs := by
  by_cases h : mark ∈ cs
  · obtain ⟨before, after, hsplit, hmem⟩ := List.eq_append_cons_of_mem h
    exact .inl ⟨before, after, hmem, hsplit⟩
  · exact .inr h

theorem cutAt_of_not_mem {mark : Char} {text : String} (h : mark ∉ text.toList) :
    cutAt mark text = none := by
  have hnil : text.toList.dropWhile (· != mark) = [] :=
    List.dropWhile_eq_nil_iff.2 (bne_of_not_mem h)
  unfold cutAt
  rw [List.span_eq_takeWhile_dropWhile, hnil]

theorem cutAt_of_split {mark : Char} {text : String} {before after : List Char}
    (hsplit : text.toList = before ++ mark :: after) (h : mark ∉ before) :
    cutAt mark text = some (String.ofList before, String.ofList after) := by
  unfold cutAt
  rw [List.span_eq_takeWhile_dropWhile, hsplit, takeWhile_of_not_mem h,
    dropWhile_of_not_mem h]

theorem cutAt_eq_some_iff {mark : Char} {text before after : String} :
    cutAt mark text = some (before, after) ↔
      text.toList = before.toList ++ mark :: after.toList ∧ mark ∉ before.toList := by
  constructor
  · intro h
    rcases mark_or_not_mem mark text.toList with ⟨front, rest, hmem, hsplit⟩ | hmem
    · rw [cutAt_of_split hsplit hmem] at h
      cases h
      exact ⟨by simpa using hsplit, by simpa using hmem⟩
    · rw [cutAt_of_not_mem hmem] at h
      cases h
  · rintro ⟨hsplit, hmem⟩
    rw [cutAt_of_split hsplit hmem, String.ofList_toList, String.ofList_toList]

/-- A text has a mark at a last place, or nowhere. -/
private theorem last_mark_or_not_mem (mark : Char) (cs : List Char) :
    (∃ before after, mark ∉ after ∧ cs = before ++ mark :: after) ∨ mark ∉ cs := by
  rcases mark_or_not_mem mark cs.reverse with ⟨after, before, hmem, hsplit⟩ | hmem
  · refine .inl ⟨before.reverse, after.reverse, by simpa using hmem, ?_⟩
    rw [← List.reverse_reverse cs, hsplit]
    simp
  · exact .inr (by simpa using hmem)

theorem cutAtLast_of_not_mem {mark : Char} {text : String}
    (h : mark ∉ text.toList) : cutAtLast mark text = none := by
  have hrev : mark ∉ text.toList.reverse := by simpa using h
  have hnil : text.toList.reverse.dropWhile (· != mark) = [] :=
    List.dropWhile_eq_nil_iff.2 (bne_of_not_mem hrev)
  unfold cutAtLast
  rw [List.span_eq_takeWhile_dropWhile, hnil]

theorem cutAtLast_of_split {mark : Char} {text : String} {before after : List Char}
    (hsplit : text.toList = before ++ mark :: after) (h : mark ∉ after) :
    cutAtLast mark text = some (String.ofList before, String.ofList after) := by
  have hrev : text.toList.reverse = after.reverse ++ mark :: before.reverse := by
    rw [hsplit]
    simp
  have hmem : mark ∉ after.reverse := by simpa using h
  unfold cutAtLast
  rw [List.span_eq_takeWhile_dropWhile, hrev, takeWhile_of_not_mem hmem,
    dropWhile_of_not_mem hmem]
  simp

theorem cutAtLast_eq_some {mark : Char} {text before after : String}
    (h : cutAtLast mark text = some (before, after)) :
    text.toList = before.toList ++ mark :: after.toList := by
  rcases last_mark_or_not_mem mark text.toList with ⟨front, rest, hmem, hsplit⟩ | hmem
  · rw [cutAtLast_of_split hsplit hmem] at h
    cases h
    simpa using hsplit
  · rw [cutAtLast_of_not_mem hmem] at h
    cases h

/-! ## Parts and words -/

/-- The first of the parts of a text ends at the first mark. -/
theorem headD_pieces (mark : Char) (text : String) :
    (pieces mark text).headD "" =
      String.ofList (text.toList.takeWhile (· != mark)) := by
  unfold pieces
  rcases mark_or_not_mem mark text.toList with ⟨before, after, hmem, hsplit⟩ | hmem
  · rw [hsplit, List.splitOn_append_cons_self_of_not_mem hmem,
      takeWhile_of_not_mem hmem]
    rfl
  · have htake : text.toList.takeWhile (· != mark) = text.toList :=
      List.takeWhile_eq_self_iff.2 (bne_of_not_mem hmem)
    rw [List.splitOn_eq_singleton hmem, htake]
    rfl

theorem not_mem_of_allBlank {mark : Char} {cs : List Char}
    (hmark : isBlank mark = false) (h : AllBlank cs) : mark ∉ cs := by
  intro hmem
  rw [h mark hmem] at hmark
  cases hmark

/-- Blanks before the first part are not part of any mark. -/
theorem map_trimChars_splitOn_before {mark : Char} {before : List Char}
    (hmark : isBlank mark = false) (hbefore : AllBlank before) (cs : List Char) :
    ((before ++ cs).splitOn mark).map trimChars = (cs.splitOn mark).map trimChars := by
  have hblank := not_mem_of_allBlank hmark hbefore
  rcases mark_or_not_mem mark cs with ⟨first, rest, hmem, rfl⟩ | hmem
  · have hfirst : mark ∉ before ++ first := by simp [hblank, hmem]
    rw [← List.append_assoc, List.splitOn_append_cons_self_of_not_mem hfirst,
      List.splitOn_append_cons_self_of_not_mem hmem]
    simp only [List.map_cons, trimChars_before hbefore]
  · have hall : mark ∉ before ++ cs := by simp [hblank, hmem]
    rw [List.splitOn_eq_singleton hall, List.splitOn_eq_singleton hmem]
    simp only [List.map_cons, List.map_nil, trimChars_before hbefore]

private theorem map_trimChars_splitOn_after {mark : Char} {after : List Char}
    (hmark : isBlank mark = false) (hafter : AllBlank after) (cs : List Char) :
    ((cs ++ after).splitOn mark).map trimChars = (cs.splitOn mark).map trimChars := by
  have hblank := not_mem_of_allBlank hmark hafter
  rcases last_mark_or_not_mem mark cs with ⟨first, last, hmem, rfl⟩ | hmem
  · have hlast : mark ∉ last ++ after := by simp [hblank, hmem]
    rw [List.append_assoc, List.cons_append, List.splitOn_append_cons_self,
      List.splitOn_append_cons_self, List.splitOn_eq_singleton hlast,
      List.splitOn_eq_singleton hmem]
    simp only [List.map_append, List.map_cons, List.map_nil, trimChars_after hafter]
  · have hall : mark ∉ cs ++ after := by simp [hblank, hmem]
    rw [List.splitOn_eq_singleton hall, List.splitOn_eq_singleton hmem]
    simp only [List.map_cons, List.map_nil, trimChars_after hafter]

theorem map_trim_pieces (mark : Char) (text : String) :
    (pieces mark text).map trim =
      ((text.toList.splitOn mark).map trimChars).map String.ofList := by
  simp [pieces, trim]

/-- Parts that are trimmed are the same whether the text was trimmed or not. -/
theorem map_trim_pieces_trim {mark : Char} (hmark : isBlank mark = false)
    (text : String) :
    (pieces mark (trim text)).map trim = (pieces mark text).map trim := by
  obtain ⟨before, after, hbefore, hafter, hsplit⟩ := trimChars_split text.toList
  have hparts : (text.toList.splitOn mark).map trimChars =
      ((trimChars text.toList).splitOn mark).map trimChars := by
    conv => lhs; rw [hsplit]
    rw [map_trimChars_splitOn_after hmark hafter,
      map_trimChars_splitOn_before hmark hbefore]
  rw [map_trim_pieces, map_trim_pieces, toList_trim, hparts]

private theorem clean_of_mem_splitOnP {cs piece : List Char}
    (h : piece ∈ cs.splitOnP isBlank) : Clean piece := by
  induction cs generalizing piece with
  | nil =>
      rw [List.splitOnP_nil, List.mem_singleton] at h
      rw [h]
      exact List.forall_mem_nil _
  | cons c cs ih =>
      rw [List.splitOnP_cons_eq_if_modifyHead] at h
      split at h
      · rcases List.mem_cons.1 h with rfl | h
        · exact List.forall_mem_nil _
        · exact ih h
      · next hc =>
        cases hparts : cs.splitOnP isBlank with
        | nil => exact absurd hparts (List.splitOnP_ne_nil _ _)
        | cons first rest =>
            rw [hparts] at ih h
            rcases List.mem_cons.1 h with rfl | h
            · exact List.forall_mem_cons.2 ⟨by simpa using hc, ih List.mem_cons_self⟩
            · exact ih (List.mem_cons_of_mem first h)

/-- Words hold no blanks, and are not empty. -/
theorem clean_of_mem_words {text word : String} (h : word ∈ words text) :
    Clean word.toList ∧ word ≠ "" := by
  obtain ⟨piece, hpiece, rfl⟩ := List.mem_map.1 h
  obtain ⟨hmem, hne⟩ := List.mem_filter.1 hpiece
  rw [String.toList_ofList]
  refine ⟨clean_of_mem_splitOnP hmem, fun hnil => ?_⟩
  have hlist := congrArg String.toList hnil
  simp only [String.toList_ofList] at hlist
  simp [hlist] at hne

/-- What stands before a blank is the first word. -/
theorem words_of_first {first : String} (hfirst : Clean first.toList ∧ first ≠ "")
    (rest : String) : words (first ++ " " ++ rest) = first :: words rest := by
  have hblank : isBlank ' ' = true := by decide
  have hlist : (first ++ " " ++ rest).toList = first.toList ++ ' ' :: rest.toList := by
    simp
  have hne : first.toList.isEmpty = false := by simpa using hfirst.2
  unfold words
  rw [hlist, List.splitOnP_append_cons_of_forall_mem hfirst.1 _ hblank]
  simp [hne]

/-- Three words with single blanks between them are read as these. -/
theorem words_of_three {first second third : String}
    (hfirst : Clean first.toList ∧ first ≠ "") (hsecond : Clean second.toList ∧ second ≠ "")
    (hthird : Clean third.toList ∧ third ≠ "") :
    words (first ++ " " ++ second ++ " " ++ third) = [first, second, third] := by
  have hblank : isBlank ' ' = true := by decide
  have hlist : (first ++ " " ++ second ++ " " ++ third).toList =
      first.toList ++ ' ' :: (second.toList ++ ' ' :: third.toList) := by
    simp
  have hne : ∀ word : String, word ≠ "" -> word.toList.isEmpty = false := by
    intro word h
    simpa using h
  unfold words
  rw [hlist, List.splitOnP_append_cons_of_forall_mem hfirst.1 _ hblank,
    List.splitOnP_append_cons_of_forall_mem hsecond.1 _ hblank,
    List.splitOnP_eq_singleton hthird.1]
  simp [hne _ hfirst.2, hne _ hsecond.2, hne _ hthird.2]

end Text

end Intermediary

import Intermediary.Message.Line

/-!
# Where lines end

The exact runs of bytes that are taken as lines and blocks, and what stays the
same about them when more bytes follow.
-/

namespace Intermediary

namespace Line

/-- A line and what it says: it ends with a line feed, its only one. -/
def Says (line content : Bytes) : Prop :=
  Bytes.lf ∉ content ∧
    (line = content ++ Bytes.crlf ∨
      (line = content ++ [Bytes.lf] ∧ content.getLast? ≠ some Bytes.cr))

theorem Says.content_eq {line said : Bytes} (h : Says line said) :
    content line = said := by
  obtain ⟨_, rfl | ⟨rfl, hlast⟩⟩ := h
  · have hopened : (said ++ Bytes.crlf).dropLast = said ++ [Bytes.cr] := by
      rw [show Bytes.crlf = [Bytes.cr] ++ [Bytes.lf] from rfl,
        ← List.append_assoc, List.dropLast_concat]
    have hend : (said ++ Bytes.crlf).getLast? = some Bytes.lf := by
      simp [Bytes.crlf]
    simp [content, hend, hopened]
  · simp [content, hlast]

theorem Says.not_mem {line said : Bytes} (h : Says line said) :
    Bytes.lf ∉ said :=
  h.1

private theorem Says.exists_front {line said : Bytes} (h : Says line said) :
    ∃ front, Bytes.lf ∉ front ∧ line = front ++ [Bytes.lf] := by
  obtain ⟨hmem, rfl | ⟨rfl, _⟩⟩ := h
  · refine ⟨said ++ [Bytes.cr], ?_, by simp [Bytes.crlf]⟩
    have hne : Bytes.lf ≠ Bytes.cr := by decide
    simp [hmem, hne]
  · exact ⟨said, hmem, rfl⟩

/-- Every run of bytes up to its first line feed is a line. -/
private theorem says_of_front {front : Bytes} (hmem : Bytes.lf ∉ front) :
    Says (front ++ [Bytes.lf]) (content (front ++ [Bytes.lf])) := by
  by_cases hlast : front.getLast? = some Bytes.cr
  · obtain ⟨init, rfl⟩ : ∃ init, front = init ++ [Bytes.cr] := by
      rw [List.getLast?_eq_some_iff] at hlast
      exact hlast
    have hinit : Bytes.lf ∉ init := fun h => hmem (by simp [h])
    have hsaid : Says (init ++ [Bytes.cr] ++ [Bytes.lf]) init :=
      ⟨hinit, .inl (by simp [Bytes.crlf])⟩
    rw [hsaid.content_eq]
    exact hsaid
  · have hsaid : Says (front ++ [Bytes.lf]) front := ⟨hmem, .inr ⟨rfl, hlast⟩⟩
    rw [hsaid.content_eq]
    exact hsaid

theorem findIdx?_lf_of_front {front : Bytes} (rest : Bytes)
    (hmem : Bytes.lf ∉ front) :
    (front ++ Bytes.lf :: rest).findIdx? (· == Bytes.lf) = some front.length := by
  have hnone : front.findIdx? (· == Bytes.lf) = none := by
    rw [List.findIdx?_eq_none_iff]
    intro b hb
    exact beq_eq_false_iff_ne.2 fun h => hmem (h ▸ hb)
  rw [List.findIdx?_append, hnone]
  simp [List.findIdx?_cons]

private theorem take_of_front {limit : Nat} {front : Bytes} (rest : Bytes)
    (hmem : Bytes.lf ∉ front) (hlimit : front.length < limit) :
    take limit (front ++ Bytes.lf :: rest) = .ok (front ++ [Bytes.lf], rest) := by
  unfold take
  rw [findIdx?_lf_of_front rest hmem]
  have hcut : (front ++ Bytes.lf :: rest).splitAt (front.length + 1) =
      (front ++ [Bytes.lf], rest) := by
    rw [List.splitAt_eq, show front ++ Bytes.lf :: rest =
      (front ++ [Bytes.lf]) ++ rest by simp,
      show front.length + 1 = (front ++ [Bytes.lf]).length by simp,
      List.take_left, List.drop_left]
  simp only [hcut, if_pos hlimit]

/-- A stream has a line feed at some place, or nowhere. -/
private theorem front_or_not_mem (stream : Bytes) :
    (∃ front rest, Bytes.lf ∉ front ∧ stream = front ++ Bytes.lf :: rest) ∨
      Bytes.lf ∉ stream := by
  by_cases h : Bytes.lf ∈ stream
  · obtain ⟨front, rest, hsplit, hmem⟩ := List.eq_append_cons_of_mem h
    exact .inl ⟨front, rest, hmem, hsplit⟩
  · exact .inr h

private theorem take_of_not_mem {limit : Nat} {stream : Bytes}
    (hmem : Bytes.lf ∉ stream) :
    take limit stream =
      if limit = 0 ∨ stream = [] then .error .absent
      else if limit ≤ stream.length then .error .tooLong
      else .error .ended := by
  have hnone : stream.findIdx? (· == Bytes.lf) = none := by
    rw [List.findIdx?_eq_none_iff]
    intro b hb
    exact beq_eq_false_iff_ne.2 fun h => hmem (h ▸ hb)
  unfold take
  rw [hnone]

/-- The lines that are taken: what they say, and how long they are. -/
theorem take_eq_ok_iff {limit : Nat} {stream line rest : Bytes} :
    take limit stream = .ok (line, rest) ↔
      stream = line ++ rest ∧ Says line (content line) ∧ line.length ≤ limit := by
  constructor
  · intro h
    obtain ⟨hsplit, _, hlength⟩ := take_eq_ok h
    rcases front_or_not_mem stream with ⟨front, after, hmem, rfl⟩ | hmem
    · by_cases hlimit : front.length < limit
      · rw [take_of_front after hmem hlimit] at h
        cases h
        exact ⟨by simp, says_of_front hmem, hlength⟩
      · unfold take at h
        rw [findIdx?_lf_of_front after hmem] at h
        simp only [if_neg hlimit] at h
        split at h <;> cases h
    · rw [take_of_not_mem hmem] at h
      split at h
      · cases h
      · split at h <;> cases h
  · rintro ⟨rfl, hsaid, hlength⟩
    obtain ⟨front, hmem, hline⟩ := hsaid.exists_front
    rw [hline] at hlength ⊢
    rw [List.append_assoc]
    rw [List.length_append, List.length_singleton] at hlength
    exact take_of_front rest hmem hlength

/-- A line is too long exactly when its limit is reached before its end. -/
theorem take_eq_tooLong_iff {limit : Nat} {stream : Bytes} :
    take limit stream = .error .tooLong ↔
      0 < limit ∧ limit ≤ stream.length ∧ Bytes.lf ∉ stream.take limit := by
  rcases front_or_not_mem stream with ⟨front, rest, hmem, rfl⟩ | hmem
  · by_cases hlimit : front.length < limit
    · rw [take_of_front rest hmem hlimit]
      have hfound : Bytes.lf ∈ (front ++ Bytes.lf :: rest).take limit := by
        rw [List.mem_take_iff_getElem]
        exact ⟨front.length, by simp; omega, by simp⟩
      simp [hfound]
    · have hle : limit ≤ front.length := Nat.le_of_not_lt hlimit
      have hunread : Bytes.lf ∉ (front ++ Bytes.lf :: rest).take limit := by
        rw [List.take_append_of_le_length hle]
        exact fun h => hmem (List.mem_of_mem_take h)
      unfold take
      rw [findIdx?_lf_of_front rest hmem]
      simp only [if_neg hlimit]
      have hlong : limit ≤ (front ++ Bytes.lf :: rest).length := by
        rw [List.length_append]
        omega
      by_cases hzero : limit = 0
      · simp [hzero]
      · simp only [if_neg hzero, true_iff]
        exact ⟨Nat.pos_of_ne_zero hzero, hlong, hunread⟩
  · have hunread : Bytes.lf ∉ stream.take limit :=
      fun h => hmem (List.mem_of_mem_take h)
    rw [take_of_not_mem hmem]
    by_cases hzero : limit = 0
    · simp [hzero]
    · by_cases hnil : stream = []
      · subst hnil
        simp [hzero, Nat.pos_of_ne_zero hzero]
      · by_cases hle : limit ≤ stream.length
        · simp [hzero, hnil, hle, hunread, Nat.pos_of_ne_zero hzero]
        · simp [hzero, hnil, hle]

/-- A line is the same line whatever follows it. -/
theorem take_append_of_ok {limit : Nat} {stream line rest : Bytes}
    (h : take limit stream = .ok (line, rest)) (tail : Bytes) :
    take limit (line ++ tail) = .ok (line, tail) := by
  obtain ⟨_, hsaid, hlength⟩ := take_eq_ok_iff.1 h
  exact take_eq_ok_iff.2 ⟨rfl, hsaid, hlength⟩

/-- A line that is too long does not become shorter by what follows. -/
theorem take_append_of_tooLong {limit : Nat} {stream : Bytes}
    (h : take limit stream = .error .tooLong) (tail : Bytes) :
    take limit (stream ++ tail) = .error .tooLong := by
  obtain ⟨hpos, hle, hmem⟩ := take_eq_tooLong_iff.1 h
  refine take_eq_tooLong_iff.2 ⟨hpos, ?_, ?_⟩
  · rw [List.length_append]
    omega
  · rwa [List.take_append_of_le_length hle]

/-! ## Lines of text -/

theorem text_eq_ok_iff {kind : LineKind} {line : Bytes} {said : String} :
    text kind line = .ok said ↔ content line = Bytes.ofText said := by
  unfold text
  cases h : Bytes.text? (content line) with
  | none =>
      simp only [reduceCtorEq, false_iff]
      intro hsaid
      rw [hsaid, Bytes.text?_ofText] at h
      cases h
  | some found =>
      rw [Bytes.text?_eq_some_iff] at h
      simp only [Except.ok.injEq, ← h]
      exact ⟨fun heq => heq ▸ rfl, Bytes.ofText_injective⟩

/-- The lines of text that are taken, with what they say. -/
theorem takeWithin_text_iff (part : BoundedPart) (kind : LineKind) {limit : Nat}
    {stream line rest : Bytes} {said : String} :
    takeWithin part limit stream = .ok (line, rest) ∧ text kind line = .ok said ↔
      stream = line ++ rest ∧ Says line (Bytes.ofText said) ∧
        line.length ≤ limit := by
  rw [takeWithin_eq_ok_iff, take_eq_ok_iff, text_eq_ok_iff]
  constructor
  · rintro ⟨⟨hsplit, hsaid, hlength⟩, htext⟩
    exact ⟨hsplit, htext ▸ hsaid, hlength⟩
  · rintro ⟨hsplit, hsaid, hlength⟩
    have htext := hsaid.content_eq
    exact ⟨⟨hsplit, htext.symm ▸ hsaid, hlength⟩, htext⟩

theorem takeFirst_eq_ok_iff {part : BoundedPart} {limit : Nat}
    {stream line rest : Bytes} :
    takeFirst part limit stream = .ok (line, rest) ↔
      take limit stream = .ok (line, rest) := by
  unfold takeFirst
  split <;> simp_all

/-- The first line of a message is taken like those that follow. -/
theorem takeFirst_text_iff (part : BoundedPart) (kind : LineKind) (rest : Bytes)
    {limit : Nat} {stream line : Bytes} {said : String} :
    takeFirst part limit stream = .ok (line, rest) ∧ text kind line = .ok said ↔
      stream = line ++ rest ∧ Says line (Bytes.ofText said) ∧
        line.length ≤ limit := by
  rw [takeFirst_eq_ok_iff, ← @takeWithin_eq_ok_iff part]
  exact takeWithin_text_iff part kind

end Line

end Intermediary

import Intermediary.Proofs.Payload.Chunked

/-!
# Taking in a body in chunks

A body in chunks is taken in step by step: a line, the data of its chunk, byte
by byte, the line ending after it, and the lines of the trailer.  Every step
keeps the bytes that were taken in and the length of the content among them, and
reckons with these lengths, with the limits and with sizes that the peer chose.

A line is weighed before it is kept, and so is a size; the line ending after the
data is not, so that it may stand beyond the limit until the next line is
weighed.  No number that is reckoned with leaves sixty-four bits.
-/

namespace Intermediary

open Text

theorem Block.take_eq_error_iff {size : Nat} {stream : Bytes} {e : MessageError} :
    Block.take size stream = .error e ↔ stream.length < size ∧ e = .ended := by
  unfold Block.take
  simp only [List.isEmpty_iff, List.drop_eq_nil_iff]
  split
  · split <;> simp_all [eq_comm]
  · simp only [reduceCtorEq, false_iff]
    omega

namespace Payload

inductive Stage where
  /-- The line that begins a chunk comes next. -/
  | opening
  /-- That line was kept; so many bytes of data are to follow. -/
  | announced (size : Nat)
  /-- So many bytes are missing of the data of a chunk. -/
  | filling (size missing : Nat)
  /-- The data was counted; its line ending comes next. -/
  | closing
  /-- A line of the trailer comes next. -/
  | trailer
  /-- That line was kept, and is to be read. -/
  | reading (line : Bytes)
  | complete
  deriving DecidableEq

structure Intake where
  stage : Stage
  buffered : Bytes
  /-- How many of them are content. -/
  content : Nat
  /-- What is left of the stream. -/
  unread : Bytes
  deriving DecidableEq

inductive Reckoning where
  | add (a b : Nat)
  | subtract (a b : Nat)
  /-- A block of so many bytes is asked for. -/
  | ask (size : Nat)
  deriving DecidableEq

/-- Sums are words, differences are no less than zero, and blocks keep the limit. -/
def Reckoning.Fits (limits : Limits) : Reckoning -> Prop
  | .add a b => a + b < wordBound
  | .subtract a b => b ≤ a
  | .ask size => size ≤ limits.payloadBytes

abbrev Intake.Outcome : Type := List Reckoning × Except MessageError Intake

namespace Intake

def start (stream : Bytes) : Intake := ⟨.opening, [], 0, stream⟩

def keep (limits : Limits) (intake : Intake) (stage : Stage) (line rest : Bytes) : Outcome :=
  ([.add intake.buffered.length line.length],
    match count limits intake.buffered.length line.length with
    | .error e => .error e
    | .ok _ =>
        .ok { intake with
          stage := stage, buffered := intake.buffered ++ line, unread := rest })

def openChunk (limits : Limits) (intake : Intake) : Outcome :=
  match Line.takeWithin .chunkLine limits.lineBytes intake.unread with
  | .error e => ([], .error e)
  | .ok (line, rest) =>
      match Line.text .chunk line with
      | .error e => ([], .error e)
      | .ok text =>
          match chunkSize text with
          | .error e => ([], .error e)
          | .ok size =>
              if size = 0 then intake.keep limits .trailer line rest
              else intake.keep limits (.announced size) line rest

def weigh (limits : Limits) (intake : Intake) (size : Nat) : Outcome :=
  if limits.payloadBytes - intake.buffered.length < size then
    ([.subtract limits.payloadBytes intake.buffered.length], .error (.tooLarge .payload))
  else
    ([.subtract limits.payloadBytes intake.buffered.length, .ask size],
      .ok { intake with stage := .filling size size })

/-- One byte of the data; when none is missing it is counted. -/
def fill (intake : Intake) (size : Nat) : Nat -> Outcome
  | 0 =>
      ([.add intake.content size, .ask 2],
        .ok { intake with stage := .closing, content := intake.content + size })
  | missing + 1 =>
      match intake.unread with
      | [] => ([], .error .ended)
      | byte :: rest =>
          ([], .ok { intake with
            stage := .filling size missing
            buffered := intake.buffered ++ [byte]
            unread := rest })

def closeChunk (intake : Intake) : Outcome :=
  match Block.take 2 intake.unread with
  | .error e => ([], .error e)
  | .ok (ending, rest) =>
      if ending = Bytes.crlf then
        ([], .ok { intake with
          stage := .opening, buffered := intake.buffered ++ ending, unread := rest })
      else ([], .error (.framing .chunkEnd))

def takeField (limits : Limits) (intake : Intake) : Outcome :=
  match Line.takeWithin .chunkLine limits.lineBytes intake.unread with
  | .error e => ([], .error e)
  | .ok (line, rest) => intake.keep limits (.reading line) line rest

def readField (intake : Intake) (line : Bytes) : Outcome :=
  match Line.text .trailer line with
  | .error e => ([], .error e)
  | .ok text =>
      if text = "" then ([], .ok { intake with stage := .complete })
      else ([], .ok { intake with stage := .trailer })

def step (limits : Limits) (intake : Intake) : Outcome :=
  match intake.stage with
  | .opening => intake.openChunk limits
  | .announced size => intake.weigh limits size
  | .filling size missing => intake.fill size missing
  | .closing => intake.closeChunk
  | .trailer => intake.takeField limits
  | .reading line => intake.readField line
  | .complete => ([], .ok intake)

inductive Reaches (limits : Limits) (stream : Bytes) : Intake -> Prop where
  | here : Reaches limits stream (start stream)
  | snoc {intake next} (h : Reaches limits stream intake)
      (hstep : (step limits intake).2 = .ok next) : Reaches limits stream next

/-- The steps come to an end: the whole body was taken in, or a step fails. -/
inductive Settles (limits : Limits) :
    Intake -> Except MessageError (Payload × Bytes) -> Prop where
  | complete {buffered content unread} :
      Settles limits ⟨.complete, buffered, content, unread⟩ (.ok (⟨buffered, content⟩, unread))
  | failed {intake e} (h : (step limits intake).2 = .error e) : Settles limits intake (.error e)
  | cons {intake next result} (hstep : (step limits intake).2 = .ok next)
      (h : Settles limits next result) : Settles limits intake result

/-! ## What a step does -/

section Inversion

variable {limits : Limits} {intake next : Intake}

private theorem keep_eq_ok {stage : Stage} {line rest : Bytes}
    (h : (intake.keep limits stage line rest).2 = .ok next) :
    intake.buffered.length + line.length ≤ limits.payloadBytes ∧
      next = { intake with
        stage := stage, buffered := intake.buffered ++ line, unread := rest } := by
  unfold keep at h
  dsimp only at h
  split at h
  · cases h
  · next counted hcount =>
    obtain ⟨rfl, hle⟩ := count_eq_ok_iff.1 hcount
    exact ⟨hle, (Except.ok.inj h).symm⟩

/-- A line with a size has a digit and an ending. -/
private theorem two_le_length {line : Bytes} {text : String} {size : Nat}
    (hmeans : Line.Says line (Bytes.ofText text)) (hsize : SaysSize text size) :
    2 ≤ line.length := by
  obtain ⟨before, number, after, extension, hchars, _, _, hwrites, _⟩ := hsize
  obtain ⟨sign, digits, rfl, _, ⟨hdigits, _⟩, _⟩ := hwrites
  have hsaid : Bytes.ofText text ≠ [] := by
    intro hnil
    have htext : text = "" := Bytes.ofText_injective hnil
    rw [htext] at hchars
    simp [hdigits] at hchars
  have hpos := List.length_pos_iff.2 hsaid
  obtain ⟨_, rfl | ⟨rfl, _⟩⟩ := hmeans
  · rw [List.length_append]
    exact Nat.add_le_add hpos (Nat.le_succ 1)
  · rw [List.length_append]
    exact Nat.add_le_add hpos (Nat.le_refl 1)

/-- What was kept of a chunk is its line; the size that it says is a word. -/
theorem openChunk_eq_ok (h : (intake.openChunk limits).2 = .ok next) :
    ∃ line size rest, 2 ≤ line.length ∧ size < wordBound ∧
      intake.buffered.length + line.length ≤ limits.payloadBytes ∧
      next = { intake with
        stage := if size = 0 then .trailer else .announced size
        buffered := intake.buffered ++ line
        unread := rest } := by
  unfold openChunk at h
  split at h
  · cases h
  · next line rest hline =>
    split at h
    · cases h
    · next text htext =>
      split at h
      · cases h
      · next size hsize =>
        obtain ⟨_, hmeans, _⟩ := (Line.takeWithin_text_iff _ _).1 ⟨hline, htext⟩
        have hsaid := chunkSize_eq_ok_iff.1 hsize
        have hlong := two_le_length hmeans hsaid
        obtain ⟨_, _, _, _, _, _, _, ⟨_, _, _, _, _, hword⟩, _⟩ := hsaid
        refine ⟨line, size, rest, hlong, hword, ?_⟩
        split at h
        · next hzero =>
          rw [if_pos hzero]
          exact keep_eq_ok h
        · next hpos =>
          rw [if_neg hpos]
          exact keep_eq_ok h

private theorem weigh_eq_ok {size : Nat} (h : (intake.weigh limits size).2 = .ok next) :
    size ≤ limits.payloadBytes - intake.buffered.length ∧
      next = { intake with stage := .filling size size } := by
  unfold weigh at h
  split at h
  · cases h
  · next hfree => exact ⟨Nat.le_of_not_lt hfree, (Except.ok.inj h).symm⟩

private theorem closeChunk_eq_ok (h : intake.closeChunk.2 = .ok next) :
    ∃ rest, next = { intake with
      stage := .opening, buffered := intake.buffered ++ Bytes.crlf, unread := rest } := by
  unfold closeChunk at h
  split at h
  · cases h
  · next ending rest _ =>
    split at h
    · next hending => exact ⟨rest, hending ▸ (Except.ok.inj h).symm⟩
    · cases h

private theorem takeField_eq_ok (h : (intake.takeField limits).2 = .ok next) :
    ∃ line rest, intake.buffered.length + line.length ≤ limits.payloadBytes ∧
      next = { intake with
        stage := .reading line, buffered := intake.buffered ++ line, unread := rest } := by
  unfold takeField at h
  split at h
  · cases h
  · next line rest _ => exact ⟨line, rest, keep_eq_ok h⟩

private theorem readField_eq_ok {line : Bytes} (h : (intake.readField line).2 = .ok next) :
    next = { intake with stage := .complete } ∨ next = { intake with stage := .trailer } := by
  unfold readField at h
  split at h
  · cases h
  · split at h
    · exact .inl (Except.ok.inj h).symm
    · exact .inr (Except.ok.inj h).symm

end Inversion

/-! ## The bounds in every state -/

/-- How many bytes are kept, and what may still come before the next weighing. -/
def Room (limits : Limits) (intake : Intake) : Prop :=
  match intake.stage with
  | .opening => intake.buffered.length ≤ limits.payloadBytes + 2
  | .announced size =>
      2 ≤ intake.buffered.length ∧ intake.buffered.length ≤ limits.payloadBytes ∧
        size < wordBound
  | .filling size missing =>
      2 ≤ limits.payloadBytes ∧ missing ≤ size ∧
        intake.content + (size - missing) ≤ intake.buffered.length ∧
        intake.buffered.length + missing ≤ limits.payloadBytes
  | .closing | .trailer | .reading _ | .complete =>
      intake.buffered.length ≤ limits.payloadBytes

structure Bounded (limits : Limits) (intake : Intake) : Prop where
  content : intake.content ≤ intake.buffered.length
  room : intake.Room limits

namespace Bounded

variable {limits : Limits} {stream buffered unread : Bytes} {content : Nat} {next : Intake}

private theorem start (limits : Limits) (stream : Bytes) : Bounded limits (start stream) where
  content := Nat.le_refl _
  room := Nat.zero_le _

private theorem openChunk (h : Bounded limits ⟨.opening, buffered, content, unread⟩)
    (hstep : (Intake.openChunk limits ⟨.opening, buffered, content, unread⟩).2 = .ok next) :
    Bounded limits next := by
  obtain ⟨line, size, rest, hlong, hword, hle, rfl⟩ := openChunk_eq_ok hstep
  have hcontent : content ≤ buffered.length := h.content
  dsimp only at hle
  refine ⟨?_, ?_⟩
  · rw [List.length_append]
    exact Nat.le_add_right_of_le hcontent
  · by_cases hzero : size = 0
    · simpa [Room, hzero] using hle
    · simp only [Room, if_neg hzero, List.length_append]
      omega

private theorem weigh {size : Nat} (h : Bounded limits ⟨.announced size, buffered, content, unread⟩)
    (hstep : (Intake.weigh limits ⟨.announced size, buffered, content, unread⟩ size).2 =
      .ok next) : Bounded limits next := by
  obtain ⟨hfree, rfl⟩ := weigh_eq_ok hstep
  obtain ⟨hcontent, hlong, hle, _⟩ := h
  dsimp only at hcontent hlong hle hfree
  refine ⟨hcontent, ?_⟩
  simp only [Room]
  omega

private theorem fill {size missing : Nat}
    (h : Bounded limits ⟨.filling size missing, buffered, content, unread⟩)
    (hstep : (Intake.fill ⟨.filling size missing, buffered, content, unread⟩ size missing).2 =
      .ok next) : Bounded limits next := by
  obtain ⟨hcontent, htwo, hmissing, hfilled, hle⟩ := h
  dsimp only at hcontent hfilled hle
  cases missing with
  | zero =>
      cases hstep
      exact ⟨hfilled, hle⟩
  | succ missing =>
      cases unread with
      | nil => cases hstep
      | cons byte rest =>
          cases hstep
          refine ⟨?_, htwo, Nat.le_of_succ_le hmissing, ?_, ?_⟩
          all_goals simp only [List.length_append, List.length_singleton]
          all_goals omega

private theorem closeChunk (h : Bounded limits ⟨.closing, buffered, content, unread⟩)
    (hstep : (Intake.closeChunk ⟨.closing, buffered, content, unread⟩).2 = .ok next) :
    Bounded limits next := by
  obtain ⟨rest, rfl⟩ := closeChunk_eq_ok hstep
  have hcontent : content ≤ buffered.length := h.content
  have hle : buffered.length ≤ limits.payloadBytes := h.room
  refine ⟨?_, ?_⟩
  · rw [List.length_append]
    exact Nat.le_add_right_of_le hcontent
  · simpa [Room, Bytes.crlf] using hle

private theorem takeField (h : Bounded limits ⟨.trailer, buffered, content, unread⟩)
    (hstep : (Intake.takeField limits ⟨.trailer, buffered, content, unread⟩).2 = .ok next) :
    Bounded limits next := by
  obtain ⟨line, rest, hle, rfl⟩ := takeField_eq_ok hstep
  refine ⟨?_, ?_⟩
  · rw [List.length_append]
    exact Nat.le_add_right_of_le h.content
  · simpa [Room] using hle

theorem step {intake : Intake} (h : Bounded limits intake)
    (hstep : (intake.step limits).2 = .ok next) : Bounded limits next := by
  obtain ⟨stage, buffered, content, unread⟩ := intake
  cases stage with
  | opening => exact h.openChunk hstep
  | announced size => exact h.weigh hstep
  | filling size missing => exact h.fill hstep
  | closing => exact h.closeChunk hstep
  | trailer => exact h.takeField hstep
  | reading line => obtain rfl | rfl := readField_eq_ok hstep <;> exact ⟨h.content, h.room⟩
  | complete =>
      cases hstep
      exact h

/-- Between two weighings no more than one line ending is kept. -/
theorem length_le {intake : Intake} (h : Bounded limits intake) :
    intake.buffered.length ≤ limits.payloadBytes + 2 := by
  obtain ⟨stage, buffered, content, unread⟩ := intake
  have hroom := h.room
  cases stage <;> simp only [Room] at hroom <;> dsimp only <;> omega

end Bounded

private theorem Reaches.bounded {limits : Limits} {stream : Bytes} {intake : Intake}
    (h : Reaches limits stream intake) : Bounded limits intake := by
  induction h with
  | here => exact .start limits stream
  | snoc _ hstep ih => exact ih.step hstep

/-! ## What is reckoned -/

section Reckonings

variable {limits : Limits} {intake : Intake} {reckoning : Reckoning}

private theorem closeChunk_reckonings (intake : Intake) : intake.closeChunk.1 = [] := by
  unfold closeChunk
  split
  · rfl
  · split <;> rfl

private theorem readField_reckonings (intake : Intake) (line : Bytes) :
    (intake.readField line).1 = [] := by
  unfold readField
  split
  · rfl
  · split <;> rfl

/-- A line is no longer than its limit, which leaves room for the sum. -/
private theorem fits_of_keep (h : Bounded limits intake)
    (hlimits : limits.payloadBytes + limits.lineBytes + 2 < wordBound) {stage : Stage}
    {line rest : Bytes}
    (hline : Line.takeWithin .chunkLine limits.lineBytes intake.unread = .ok (line, rest))
    (hmem : reckoning ∈ (intake.keep limits stage line rest).1) : reckoning.Fits limits := by
  obtain ⟨_, _, hshort⟩ := Line.take_eq_ok (Line.takeWithin_eq_ok_iff.1 hline)
  have hlength := h.length_le
  obtain rfl := List.mem_singleton.1 hmem
  change intake.buffered.length + line.length < wordBound
  omega

private theorem fits_of_openChunk (h : Bounded limits intake)
    (hlimits : limits.payloadBytes + limits.lineBytes + 2 < wordBound)
    (hmem : reckoning ∈ (intake.openChunk limits).1) : reckoning.Fits limits := by
  unfold openChunk at hmem
  split at hmem
  · cases hmem
  · next line rest hline =>
    split at hmem
    · cases hmem
    · split at hmem
      · cases hmem
      · split at hmem <;> exact fits_of_keep h hlimits hline hmem

private theorem fits_of_weigh {size : Nat} (hle : intake.buffered.length ≤ limits.payloadBytes)
    (hmem : reckoning ∈ (intake.weigh limits size).1) : reckoning.Fits limits := by
  unfold weigh at hmem
  split at hmem
  · obtain rfl := List.mem_singleton.1 hmem
    exact hle
  · next hfree =>
    obtain rfl | rfl := by simpa using hmem
    · exact hle
    · change size ≤ limits.payloadBytes
      omega

/-- The content that is counted was kept, and a block of two bytes is within the limit. -/
private theorem fits_of_fill {size missing : Nat} {buffered unread : Bytes} {content : Nat}
    (h : Bounded limits ⟨.filling size missing, buffered, content, unread⟩)
    (hlimits : limits.payloadBytes + limits.lineBytes + 2 < wordBound)
    (hmem : reckoning ∈
      (fill ⟨.filling size missing, buffered, content, unread⟩ size missing).1) :
    reckoning.Fits limits := by
  obtain ⟨_, htwo, _, hfilled, hle⟩ := h
  dsimp only at hfilled hle
  cases missing with
  | zero =>
      obtain rfl | rfl := by simpa [fill] using hmem
      · change content + size < wordBound
        omega
      · exact htwo
  | succ missing => cases unread <;> cases hmem

private theorem fits_of_takeField (h : Bounded limits intake)
    (hlimits : limits.payloadBytes + limits.lineBytes + 2 < wordBound)
    (hmem : reckoning ∈ (intake.takeField limits).1) : reckoning.Fits limits := by
  unfold takeField at hmem
  split at hmem
  · cases hmem
  · next hline => exact fits_of_keep h hlimits hline hmem

/-- Within the bounds, everything that a step reckons fits. -/
theorem Bounded.fits (h : Bounded limits intake)
    (hlimits : limits.payloadBytes + limits.lineBytes + 2 < wordBound)
    (hmem : reckoning ∈ (intake.step limits).1) : reckoning.Fits limits := by
  obtain ⟨stage, buffered, content, unread⟩ := intake
  cases stage with
  | opening => exact fits_of_openChunk h hlimits hmem
  | announced size => exact fits_of_weigh h.room.2.1 hmem
  | filling size missing => exact fits_of_fill h hlimits hmem
  | closing => exact absurd hmem (closeChunk_reckonings _ ▸ List.not_mem_nil)
  | trailer => exact fits_of_takeField h hlimits hmem
  | reading line => exact absurd hmem (readField_reckonings _ line ▸ List.not_mem_nil)
  | complete => cases hmem

end Reckonings

/-! ## The steps are those of the reader -/

section Settles

variable {limits : Limits} {buffered unread : Bytes} {content : Nat}
  {result : Except MessageError (Payload × Bytes)}

/-- The data of a chunk is taken in byte by byte. -/
theorem settles_filling {size : Nat} {block rest : Bytes}
    (h : Settles limits ⟨.filling size 0, buffered ++ block, content, rest⟩ result) :
    Settles limits ⟨.filling size block.length, buffered, content, block ++ rest⟩ result := by
  induction block generalizing buffered with
  | nil => simpa using h
  | cons byte block ih =>
      refine .cons rfl (ih ?_)
      simpa using h

/-- A stream that is too short fails where it ends. -/
private theorem settles_filling_error {size missing : Nat} (h : unread.length < missing) :
    Settles limits ⟨.filling size missing, buffered, content, unread⟩ (.error .ended) := by
  induction unread generalizing buffered missing with
  | nil =>
      obtain ⟨missing, rfl⟩ := Nat.exists_eq_add_one.2 h
      exact .failed rfl
  | cons byte rest ih =>
      obtain ⟨missing, rfl⟩ := Nat.exists_eq_add_one.2 (Nat.zero_lt_of_lt h)
      exact .cons rfl (ih (Nat.lt_of_succ_lt_succ h))

theorem openChunk_of_readChunkLine {opened : Chunk}
    (h : readChunkLine limits buffered.length unread = .ok opened) :
    ∃ line, unread = line ++ opened.rest ∧ opened.used = buffered.length + line.length ∧
      (openChunk limits ⟨.opening, buffered, content, unread⟩).2 =
        .ok ⟨if opened.size = 0 then .trailer else .announced opened.size,
          buffered ++ line, content, opened.rest⟩ := by
  obtain ⟨line, text, hsplit, hmeans, hlength, hsize, hused, hle⟩ :=
    readChunkLine_eq_ok_iff.1 h
  obtain ⟨hline, htext⟩ :=
    (Line.takeWithin_text_iff .chunkLine .chunk).2 ⟨hsplit, hmeans, hlength⟩
  refine ⟨line, hsplit, hused, ?_⟩
  simp only [openChunk, hline, htext, chunkSize_eq_ok_iff.2 hsize, keep,
    count_eq_ok_iff.2 ⟨rfl, hused ▸ hle⟩]
  split <;> rfl

private theorem openChunk_of_readChunkLine_error {e : MessageError}
    (h : readChunkLine limits buffered.length unread = .error e) :
    (openChunk limits ⟨.opening, buffered, content, unread⟩).2 = .error e := by
  unfold readChunkLine at h
  unfold openChunk
  dsimp only
  cases hline : Line.takeWithin .chunkLine limits.lineBytes unread with
  | error fault => simpa [hline] using h
  | ok cut =>
      simp only [hline] at h ⊢
      cases htext : Line.text .chunk cut.1 with
      | error fault => simpa [htext] using h
      | ok text =>
          simp only [htext] at h ⊢
          cases hsize : chunkSize text with
          | error fault => simpa [hsize] using h
          | ok size =>
              simp only [hsize] at h ⊢
              cases hcount : count limits buffered.length cut.1.length with
              | error fault =>
                  simp only [hcount, Except.error.injEq] at h
                  subst h
                  split <;> simp only [keep, hcount]
              | ok counted => simp [hcount] at h

/-- The data of a chunk and its ending are taken in as the reader takes them. -/
theorem settles_announced {size : Nat} {chunk : Chunk}
    (h : readChunkData limits ⟨size, buffered.length, unread⟩ = .ok chunk) :
    ∃ data, unread = data ++ (Bytes.crlf ++ chunk.rest) ∧
      chunk.size = size ∧ chunk.used = (buffered ++ data ++ Bytes.crlf).length ∧
      ∀ {result},
        Settles limits
          ⟨.opening, buffered ++ data ++ Bytes.crlf, content + size, chunk.rest⟩ result ->
        Settles limits ⟨.announced size, buffered, content, unread⟩ result := by
  obtain ⟨data, hsplit, hlength, hroom, hsize, hused⟩ := readChunkData_eq_ok_iff.1 h
  dsimp only at hsplit hlength hroom hsize hused
  refine ⟨data, hsplit, hsize, ?_, fun {result} hresult => ?_⟩
  · rw [List.length_append, List.length_append, hlength]
    exact hused
  · have hweigh : (step limits ⟨.announced size, buffered, content, unread⟩).2 =
        .ok ⟨.filling size size, buffered, content, unread⟩ := by
      simp only [step, weigh, if_neg (Nat.not_lt.2 hroom)]
    have hclose : (step limits ⟨.closing, buffered ++ data, content + size,
        Bytes.crlf ++ chunk.rest⟩).2 =
        .ok ⟨.opening, buffered ++ data ++ Bytes.crlf, content + size, chunk.rest⟩ := by
      have hending : Block.take 2 (Bytes.crlf ++ chunk.rest) = .ok (Bytes.crlf, chunk.rest) :=
        Block.take_eq_ok_iff.2 ⟨rfl, rfl⟩
      simp only [step, closeChunk, hending, if_true]
    refine .cons hweigh ?_
    rw [hsplit, ← hlength]
    refine settles_filling (.cons rfl (.cons ?_ hresult))
    rw [hlength]
    exact hclose

private theorem settles_announced_error {size : Nat} {e : MessageError}
    (h : readChunkData limits ⟨size, buffered.length, unread⟩ = .error e) :
    Settles limits ⟨.announced size, buffered, content, unread⟩ (.error e) := by
  unfold readChunkData at h
  dsimp only at h
  split at h
  · next hfree =>
    cases h
    exact .failed (by simp only [step, weigh, if_pos hfree])
  · next hfree =>
    have hweigh : (step limits ⟨.announced size, buffered, content, unread⟩).2 =
        .ok ⟨.filling size size, buffered, content, unread⟩ := by
      simp only [step, weigh, if_neg hfree]
    refine .cons hweigh ?_
    split at h
    · next fault hdata =>
      obtain ⟨hshort, rfl⟩ := Block.take_eq_error_iff.1 hdata
      cases h
      exact settles_filling_error hshort
    · next data afterData hdata =>
      obtain ⟨rfl, rfl⟩ := Block.take_eq_ok_iff.1 hdata
      refine settles_filling (.cons rfl (.failed ?_))
      cases hending : Block.take 2 afterData with
      | error fault =>
          rw [hending] at h
          cases h
          simp only [step, closeChunk, hending]
      | ok cut =>
          obtain ⟨ending, rest⟩ := cut
          rw [hending] at h
          dsimp only at h
          by_cases hcrlf : ending = Bytes.crlf
          · rw [if_pos hcrlf] at h
            cases h
          · rw [if_neg hcrlf] at h
            cases h
            simp only [step, closeChunk, hending, if_neg hcrlf]

/-- All chunks are taken in as the reader counts them. -/
theorem settles_opening {used total sum : Nat} {rest : Bytes}
    (h : readChunks limits used content unread = .ok (total, sum, rest))
    (hused : buffered.length = used) :
    ∃ body, unread = body ++ rest ∧ total = (buffered ++ body).length ∧
      ∀ {result}, Settles limits ⟨.trailer, buffered ++ body, sum, rest⟩ result ->
        Settles limits ⟨.opening, buffered, content, unread⟩ result := by
  fun_induction readChunks limits used content unread generalizing buffered with
  | case1 => cases h
  | case2 used content unread opened hline hzero =>
      cases h
      subst hused
      obtain ⟨line, hsplit, htotal, hstep⟩ := openChunk_of_readChunkLine hline
      rw [if_pos hzero] at hstep
      refine ⟨line, hsplit, ?_, fun hresult => .cons hstep hresult⟩
      rw [htotal, List.length_append]
  | case3 => cases h
  | case4 used content unread opened hline hpos chunk hdata ih =>
      subst hused
      obtain ⟨line, hsplit, hopened, hstep⟩ := openChunk_of_readChunkLine hline
      rw [if_neg hpos] at hstep
      obtain ⟨size, counted, afterLine⟩ := opened
      dsimp only at hsplit hopened hstep
      rw [hopened, ← List.length_append] at hdata
      obtain ⟨data, hfilled, hsame, hcounted, hchunk⟩ := settles_announced hdata
      obtain ⟨body, hrest, htotal, hbody⟩ := ih h hcounted.symm
      refine ⟨line ++ data ++ Bytes.crlf ++ body, ?_, ?_, fun hresult =>
        .cons hstep (hchunk ?_)⟩
      · rw [hsplit, hfilled, hrest]
        simp
      · rw [htotal]
        simp only [List.append_assoc]
      · rw [hsame] at hbody
        refine hbody ?_
        simpa only [List.append_assoc] using hresult

private theorem settles_opening_error {used : Nat} {e : MessageError}
    (h : readChunks limits used content unread = .error e) (hused : buffered.length = used) :
    Settles limits ⟨.opening, buffered, content, unread⟩ (.error e) := by
  fun_induction readChunks limits used content unread generalizing buffered with
  | case1 used content unread fault hline =>
      cases h
      subst hused
      exact .failed (openChunk_of_readChunkLine_error hline)
  | case2 => cases h
  | case3 used content unread opened hline hpos fault hdata =>
      cases h
      subst hused
      obtain ⟨line, hsplit, hopened, hstep⟩ := openChunk_of_readChunkLine hline
      rw [if_neg hpos] at hstep
      obtain ⟨size, counted, afterLine⟩ := opened
      dsimp only at hopened hstep
      rw [hopened, ← List.length_append] at hdata
      exact .cons hstep (settles_announced_error hdata)
  | case4 used content unread opened hline hpos chunk hdata ih =>
      subst hused
      obtain ⟨line, hsplit, hopened, hstep⟩ := openChunk_of_readChunkLine hline
      rw [if_neg hpos] at hstep
      obtain ⟨size, counted, afterLine⟩ := opened
      dsimp only at hopened hstep
      rw [hopened, ← List.length_append] at hdata
      obtain ⟨data, hfilled, hsame, hcounted, hchunk⟩ := settles_announced hdata
      refine .cons hstep (hchunk ?_)
      rw [← hsame]
      exact ih h hcounted.symm

private theorem step_trailer {line rest : Bytes} {counted : Nat}
    (hline : Line.takeWithin .chunkLine limits.lineBytes unread = .ok (line, rest))
    (hcount : count limits buffered.length line.length = .ok counted) :
    (step limits ⟨.trailer, buffered, content, unread⟩).2 =
      .ok ⟨.reading line, buffered ++ line, content, rest⟩ := by
  simp only [step, takeField, hline, keep, hcount]

private theorem step_reading {line : Bytes} {text : String}
    (htext : Line.text .trailer line = .ok text) :
    (step limits ⟨.reading line, buffered, content, unread⟩).2 =
      .ok ⟨if text = "" then .complete else .trailer, buffered, content, unread⟩ := by
  simp only [step, readField, htext]
  split <;> rfl

/-- The trailer is taken in as the reader counts it. -/
theorem settles_trailer {used : Nat} (hused : buffered.length = used) :
    Settles limits ⟨.trailer, buffered, content, unread⟩
      ((readTrailer limits used unread).map fun (total, rest) =>
        (⟨(buffered ++ unread).take total, content⟩, rest)) := by
  fun_induction readTrailer limits used unread generalizing buffered with
  | case1 used unread fault hline =>
      exact .failed (by simp only [step, takeField, hline])
  | case2 used unread line rest hline fault hcount =>
      subst hused
      exact .failed (by simp only [step, takeField, hline, keep, hcount])
  | case3 used unread line rest hline counted hcount fault htext =>
      subst hused
      exact .cons (step_trailer hline hcount)
        (.failed (by simp only [step, readField, htext]))
  | case4 used unread line rest hline counted hcount htext =>
      subst hused
      obtain ⟨hsplit, _, _⟩ := Line.take_eq_ok (Line.takeWithin_eq_ok_iff.1 hline)
      obtain ⟨rfl, _⟩ := count_eq_ok_iff.1 hcount
      have htake : (buffered ++ unread).take (buffered.length + line.length) =
          buffered ++ line := by
        rw [hsplit, ← List.append_assoc, ← List.length_append, List.take_left]
      have hread := @step_reading limits (buffered ++ line) rest content line "" htext
      rw [if_pos rfl] at hread
      refine .cons (step_trailer hline hcount) (.cons hread ?_)
      simp only [Except.map, htake]
      exact .complete
  | case5 used unread line rest hline counted hcount text htext hne ih =>
      subst hused
      obtain ⟨hsplit, _, _⟩ := Line.take_eq_ok (Line.takeWithin_eq_ok_iff.1 hline)
      obtain ⟨rfl, _⟩ := count_eq_ok_iff.1 hcount
      have hread := @step_reading limits (buffered ++ line) rest content line text htext
      rw [if_neg hne] at hread
      refine .cons (step_trailer hline hcount) (.cons hread ?_)
      rw [hsplit, ← List.append_assoc]
      exact ih List.length_append

/-- The steps come to the end to which the reader comes. -/
theorem settles_readChunked (limits : Limits) (stream : Bytes) :
    Settles limits (start stream) (readChunked limits stream) := by
  unfold readChunked
  split
  · next hchunks => exact settles_opening_error hchunks rfl
  · next used content rest hchunks =>
    obtain ⟨body, hsplit, hused, hbody⟩ := @settles_opening limits [] _ _ _ _ _ _ hchunks rfl
    rw [List.nil_append] at hused
    have htrailer := @settles_trailer limits body rest content used hused.symm
    rw [← hsplit] at htrailer
    refine hbody ?_
    rw [List.nil_append]
    split
    · next hfault => rw [hfault] at htrailer; exact htrailer
    · next htotal => rw [htotal] at htrailer; exact htrailer

end Settles

end Intake

/--
In every state in which a body is taken in, whatever the stream holds, no more
than the limit and one line ending is kept, and the content is a part of it;
every sum is a word, no difference falls below zero, and no block that is asked
for is longer than the limit.  The states end where the reader ends, and a
payload that it gives keeps the limit.
-/
theorem accounts_of_reaches {limits : Limits}
    (hlimits : limits.payloadBytes + limits.lineBytes + 2 < wordBound) (stream : Bytes) :
    (∀ intake, Intake.Reaches limits stream intake ->
      intake.buffered.length ≤ limits.payloadBytes + 2 ∧
      intake.content ≤ intake.buffered.length ∧
      ∀ reckoning ∈ (intake.step limits).1, reckoning.Fits limits) ∧
    Intake.Settles limits (.start stream) (readChunked limits stream) ∧
    ∀ payload rest, readChunked limits stream = .ok (payload, rest) ->
      payload.size ≤ limits.payloadBytes := by
  refine ⟨fun intake hreach => ?_, Intake.settles_readChunked limits stream,
    fun payload rest hread => ?_⟩
  · have hbounded := hreach.bounded
    exact ⟨hbounded.length_le, hbounded.content, fun reckoning hmem =>
      hbounded.fits hlimits hmem⟩
  · obtain ⟨body, lines, sizes, _, _, _, hle, rfl⟩ := exists_body_of_readChunked hread
    exact hle

/--
One chunk that fills the limit leaves its line ending beyond it; the greatest
size that a line can say comes next.
-/
theorem accounts_of_overshoot :
    let limits : Limits := ⟨20, 0, 4⟩
    let stream := Bytes.ofText "1\r\na\r\nffffffffffffffff\r\n"
    limits.payloadBytes + limits.lineBytes + 2 < wordBound ∧
    chunkSize "ffffffffffffffff" = .ok (wordBound - 1) ∧
    ∃ intake, Intake.Reaches limits stream intake ∧
      intake.buffered.length = limits.payloadBytes + 2 ∧
      (intake.step limits).1 = [.add 6 18] ∧
      intake.content ≤ intake.buffered.length ∧
      (∀ reckoning ∈ (intake.step limits).1, reckoning.Fits limits) ∧
      (intake.step limits).2 = .error (.tooLarge .payload) := by
  intro limits stream
  have hlimits : limits.payloadBytes + limits.lineBytes + 2 < wordBound := by decide
  let later := Bytes.ofText "ffffffffffffffff\r\n"
  have announced : Intake.Reaches limits stream
      ⟨.announced 1, Bytes.ofText "1\r\n", 0, Bytes.ofText "a\r\n" ++ later⟩ :=
    .snoc .here rfl
  have filled : Intake.Reaches limits stream
      ⟨.filling 1 0, Bytes.ofText "1\r\na", 0, Bytes.ofText "\r\n" ++ later⟩ :=
    .snoc (.snoc announced rfl) rfl
  have closed : Intake.Reaches limits stream
      ⟨.opening, Bytes.ofText "1\r\na\r\n", 1, later⟩ :=
    .snoc (.snoc filled rfl) rfl
  obtain ⟨_, hcontent, hfits⟩ := (accounts_of_reaches hlimits stream).1 _ closed
  exact ⟨hlimits, rfl, _, closed, rfl, by decide +kernel, hcontent, hfits,
    by decide +kernel⟩

end Payload

end Intermediary

import Intermediary.Payload.Reader
import Intermediary.Proofs.Message.Line
import Intermediary.Proofs.Text.Blank
import Intermediary.Proofs.Text.Numeral

/-!
# The grammar of bodies in chunks

The bodies in chunks that are accepted, described without the reader: lines
with sizes, the data of each chunk, the last chunk, and the trailer.  The
reader counts its way through a body; here its counts are shown to be the
lengths and sizes of a derivation in the grammar.
-/

namespace Intermediary

open Text

namespace Payload

/-- The characters of a size: an optional plus sign and hexadecimal digits. -/
def WritesSize (cs : List Char) (size : Nat) : Prop :=
  ∃ sign digits, cs = sign ++ digits ∧ (sign = [] ∨ sign = ['+']) ∧
    Spells 16 digits size ∧ size < wordBound

/--
The text of a line that begins a chunk: its size, blanks around it, and an
extension after a semicolon.
-/
def SaysSize (text : String) (size : Nat) : Prop :=
  ∃ before number after extension,
    text.toList = before ++ number ++ after ++ extension ∧
      AllBlank before ∧ AllBlank after ∧ WritesSize number size ∧
        ∀ c ∈ extension.head?, c = ';'

/-- Lines and sizes of the chunks up to the last one, and the bytes they occupy. -/
inductive Chunks : List Bytes -> List Nat -> Bytes -> Prop where
  | last {line text} (hline : Line.Says line (Bytes.ofText text))
      (hsize : SaysSize text 0) : Chunks [line] [] line
  /-- Any other chunk has as many bytes of data as its line says. -/
  | more {line text size data lines sizes rest}
      (hline : Line.Says line (Bytes.ofText text)) (hsize : SaysSize text size)
      (hpos : 0 < size) (hdata : data.length = size)
      (hrest : Chunks lines sizes rest) :
      Chunks (line :: lines) (size :: sizes)
        (line ++ (data ++ (Bytes.crlf ++ rest)))

/-- The lines after the last chunk, up to the blank one. -/
inductive Trailer : List Bytes -> Bytes -> Prop where
  | blank {line} (hline : Line.Says line []) : Trailer [line] line
  | field {line text lines rest} (hline : Line.Says line (Bytes.ofText text))
      (htext : text ≠ "") (hrest : Trailer lines rest) :
      Trailer (line :: lines) (line ++ rest)

/-- A body in chunks: its lines, the sizes of its chunks, its bytes. -/
inductive ChunkedBody : List Bytes -> List Nat -> Bytes -> Prop where
  | intro {chunkLines trailerLines sizes chunks trailer}
      (hchunks : Chunks chunkLines sizes chunks)
      (htrailer : Trailer trailerLines trailer) :
      ChunkedBody (chunkLines ++ trailerLines) sizes (chunks ++ trailer)

private theorem Chunks.length_le {lines : List Bytes} {sizes : List Nat} {body : Bytes}
    (h : Chunks lines sizes body) : ∀ line ∈ lines, line.length ≤ body.length := by
  induction h with
  | last hline => simp
  | more hline hsize hpos hdata hchunks ih =>
      intro line hmem
      rcases List.mem_cons.1 hmem with rfl | hmem
      · simp only [List.length_append]
        omega
      · have hrest := ih line hmem
        simp only [List.length_append]
        omega

private theorem Trailer.length_le {lines : List Bytes} {body : Bytes} (h : Trailer lines body) :
    ∀ line ∈ lines, line.length ≤ body.length := by
  induction h with
  | blank hline => simp
  | field hline hne htrailer ih =>
      intro line hmem
      rw [List.length_append]
      rcases List.mem_cons.1 hmem with rfl | hmem
      · exact Nat.le_add_right _ _
      · exact Nat.le_trans (ih line hmem) (Nat.le_add_left _ _)

theorem ChunkedBody.length_le {lines : List Bytes} {sizes : List Nat} {body : Bytes}
    (h : ChunkedBody lines sizes body) : ∀ line ∈ lines, line.length ≤ body.length := by
  obtain ⟨hchunks, htrailer⟩ := h
  intro line hmem
  rw [List.length_append]
  rcases List.mem_append.1 hmem with hmem | hmem
  · exact Nat.le_trans (hchunks.length_le line hmem) (Nat.le_add_right _ _)
  · exact Nat.le_trans (htrailer.length_le line hmem) (Nat.le_add_left _ _)

/-! ## Sizes -/

private theorem WritesSize.clean {cs : List Char} {size : Nat} (h : WritesSize cs size) :
    Clean cs := by
  obtain ⟨sign, digits, rfl, hsign, hspells, _⟩ := h
  exact clean_of_signed hsign hspells

private theorem WritesSize.semicolon_not_mem {cs : List Char} {size : Nat}
    (h : WritesSize cs size) : ';' ∉ cs := by
  obtain ⟨sign, digits, rfl, hsign, hspells, _⟩ := h
  intro hmem
  rcases List.mem_append.1 hmem with hsigned | hdigit
  · rcases hsign with rfl | rfl
    · cases hsigned
    · exact absurd hsigned (by decide)
  · have hrange := toNat_of_digit? (digit?_of_spells hspells hdigit)
    exact absurd hrange (by decide)

private theorem takeWhile_extension {front extension : List Char} (hfront : ';' ∉ front)
    (hextension : ∀ c ∈ extension.head?, c = ';') :
    (front ++ extension).takeWhile (· != ';') = front := by
  cases extension with
  | nil =>
      rw [List.append_nil]
      exact List.takeWhile_eq_self_iff.2 (bne_of_not_mem hfront)
  | cons c extension =>
      rw [hextension c rfl]
      exact takeWhile_of_not_mem hfront extension

/-- The lines whose size is read are those that say one. -/
theorem chunkSize_eq_ok_iff {text : String} {size : Nat} :
    chunkSize text = .ok size ↔ SaysSize text size := by
  have hread : chunkSize text = .ok size ↔
      WritesSize (trimChars (text.toList.takeWhile (· != ';'))) size := by
    have hnumeral := @numeral?_eq_some_iff 16 wordBound size
      (trim (String.ofList (text.toList.takeWhile (· != ';'))))
    rw [toList_trim, String.toList_ofList] at hnumeral
    unfold chunkSize
    rw [headD_pieces]
    unfold WritesSize
    rw [← hnumeral]
    dsimp only
    split <;> simp_all
  rw [hread]
  constructor
  · intro hwrites
    obtain ⟨before, after, hbefore, hafter, hsplit⟩ :=
      trimChars_split (text.toList.takeWhile (· != ';'))
    refine ⟨before, _, after, text.toList.dropWhile (· != ';'), ?_, hbefore, hafter,
      hwrites, ?_⟩
    · rw [← hsplit, List.takeWhile_append_dropWhile]
    · intro c hc
      have h := List.head?_dropWhile_not (· != ';') text.toList
      rw [Option.mem_def.1 hc] at h
      simpa using h
  · rintro ⟨before, number, after, extension, hsplit, hbefore, hafter, hwrites, hext⟩
    have hmark : isBlank ';' = false := by decide
    have hfront : ';' ∉ before ++ number ++ after := by
      simp [not_mem_of_allBlank hmark hbefore, hwrites.semicolon_not_mem,
        not_mem_of_allBlank hmark hafter]
    rw [hsplit, takeWhile_extension hfront hext,
      trimChars_surrounded hbefore hafter hwrites.clean.trimmed]
    exact hwrites

/-! ## Chunks -/

theorem count_eq_ok_iff {limits : Limits} {used length counted : Nat} :
    count limits used length = .ok counted ↔
      counted = used + length ∧ counted ≤ limits.payloadBytes := by
  unfold count
  split
  · next h =>
    simp only [reduceCtorEq, false_iff]
    rintro ⟨rfl, hle⟩
    omega
  · next h =>
    simp only [Except.ok.injEq]
    constructor
    · rintro rfl
      exact ⟨rfl, Nat.le_of_not_lt h⟩
    · rintro ⟨rfl, _⟩
      rfl

theorem readChunkLine_eq_ok_iff {limits : Limits} {used : Nat} {stream : Bytes}
    {chunk : Chunk} :
    readChunkLine limits used stream = .ok chunk ↔
      ∃ line text, stream = line ++ chunk.rest ∧
        Line.Says line (Bytes.ofText text) ∧ line.length ≤ limits.lineBytes ∧
        SaysSize text chunk.size ∧ chunk.used = used + line.length ∧
        chunk.used ≤ limits.payloadBytes := by
  constructor
  · intro h
    unfold readChunkLine at h
    split at h
    · cases h
    · next line rest hline =>
      split at h
      · cases h
      · next text htext =>
        split at h
        · cases h
        · next size hsize =>
          split at h
          · cases h
          · next counted hcount =>
            cases h
            obtain ⟨hsplit, hsaid, hlength⟩ :=
              (Line.takeWithin_text_iff _ _).1 ⟨hline, htext⟩
            obtain ⟨hused, hle⟩ := count_eq_ok_iff.1 hcount
            exact ⟨line, text, hsplit, hsaid, hlength,
              chunkSize_eq_ok_iff.1 hsize, hused, hle⟩
  · rintro ⟨line, text, hsplit, hsaid, hlength, hsize, hused, hle⟩
    obtain ⟨hline, htext⟩ :=
      (Line.takeWithin_text_iff .chunkLine .chunk).2
        ⟨hsplit, hsaid, hlength⟩
    simp only [readChunkLine, hline, htext, chunkSize_eq_ok_iff.2 hsize,
      count_eq_ok_iff.2 ⟨hused, hle⟩]

theorem readChunkData_eq_ok_iff {limits : Limits} {chunk filled : Chunk} :
    readChunkData limits chunk = .ok filled ↔
      ∃ data, chunk.rest = data ++ (Bytes.crlf ++ filled.rest) ∧
        data.length = chunk.size ∧
        chunk.size ≤ limits.payloadBytes - chunk.used ∧
        filled.size = chunk.size ∧ filled.used = chunk.used + chunk.size + 2 := by
  constructor
  · intro h
    unfold readChunkData at h
    split at h
    · cases h
    · next hroom =>
      split at h
      · cases h
      · next data afterData hdata =>
        split at h
        · cases h
        · next ending rest hending =>
          split at h
          · next hcrlf =>
            cases h
            obtain ⟨hsplit, hlength⟩ := Block.take_eq_ok_iff.1 hdata
            obtain ⟨hsplit', _⟩ := Block.take_eq_ok_iff.1 hending
            refine ⟨data, ?_, hlength, Nat.le_of_not_lt hroom, rfl, rfl⟩
            rw [hsplit, hsplit', hcrlf]
          · cases h
  · rintro ⟨data, hsplit, hlength, hroom, hsize, hused⟩
    have hdata : Block.take chunk.size chunk.rest =
        .ok (data, Bytes.crlf ++ filled.rest) :=
      Block.take_eq_ok_iff.2 ⟨hsplit, hlength⟩
    have hending : Block.take 2 (Bytes.crlf ++ filled.rest) =
        .ok (Bytes.crlf, filled.rest) :=
      Block.take_eq_ok_iff.2 ⟨rfl, rfl⟩
    simp only [readChunkData, if_neg (Nat.not_lt.2 hroom), hdata, hending, if_true]
    cases filled
    simp_all

/-- One chunk, and then the others. -/
theorem readChunks_eq (limits : Limits) (used content : Nat) (stream : Bytes) :
    readChunks limits used content stream =
      match readChunkLine limits used stream with
      | .error e => .error e
      | .ok opened =>
          if opened.size = 0 then .ok (opened.used, content, opened.rest)
          else
            match readChunkData limits opened with
            | .error e => .error e
            | .ok chunk =>
                readChunks limits chunk.used (content + chunk.size) chunk.rest := by
  rw [readChunks]
  split
  · next hline => rw [hline]
  · next hline =>
    rw [hline]
    dsimp only
    split
    · rfl
    · split
      · next hdata => rw [hdata]
      · next hdata => rw [hdata]

/-- The chunks that are read are those of the grammar, with their lengths counted. -/
theorem exists_chunks_of_readChunks {limits : Limits} {used content : Nat}
    {stream : Bytes} {total sum : Nat} {rest : Bytes}
    (h : readChunks limits used content stream = .ok (total, sum, rest)) :
    ∃ body lines sizes, stream = body ++ rest ∧ Chunks lines sizes body ∧
      (∀ line ∈ lines, line.length ≤ limits.lineBytes) ∧
      total = used + body.length ∧ total ≤ limits.payloadBytes ∧
      sum = content + sizes.sum := by
  fun_induction readChunks limits used content stream with
  | case1 => cases h
  | case2 used content stream opened hline hzero =>
      cases h
      obtain ⟨line, text, hsplit, hsaid, hlength, hsize, hused, hle⟩ :=
        readChunkLine_eq_ok_iff.1 hline
      rw [hzero] at hsize
      exact ⟨line, [line], [], hsplit, .last hsaid hsize, by simpa using hlength,
        hused, hle, rfl⟩
  | case3 => cases h
  | case4 used content stream opened hline hpos chunk hdata ih =>
      obtain ⟨line, text, hsplit, hsaid, hlength, hsize, hused, hle⟩ :=
        readChunkLine_eq_ok_iff.1 hline
      obtain ⟨data, hfilled, hfull, _, hsame, hafter⟩ :=
        readChunkData_eq_ok_iff.1 hdata
      obtain ⟨body, lines, sizes, hrest, hchunks, hlines, htotal, hbound, hsum⟩ := ih h
      refine ⟨line ++ (data ++ (Bytes.crlf ++ body)), line :: lines,
        opened.size :: sizes, ?_,
        .more hsaid hsize (Nat.pos_of_ne_zero hpos) hfull hchunks, ?_, ?_, hbound, ?_⟩
      · rw [hsplit, hfilled, hrest]
        simp
      · exact List.forall_mem_cons.2 ⟨hlength, hlines⟩
      · simp only [List.length_append, Bytes.crlf, List.length_cons, List.length_nil]
        omega
      · rw [hsum, hsame, List.sum_cons]
        omega

/-- The chunks of the grammar are read, whatever follows them. -/
theorem readChunks_chunks {limits : Limits} {used content : Nat} {lines : List Bytes}
    {sizes : List Nat} {body : Bytes} (h : Chunks lines sizes body)
    (hlines : ∀ line ∈ lines, line.length ≤ limits.lineBytes)
    (hbound : used + body.length ≤ limits.payloadBytes) (rest : Bytes) :
    readChunks limits used content (body ++ rest) =
      .ok (used + body.length, content + sizes.sum, rest) := by
  induction h generalizing used content with
  | @last line text hsaid hsize =>
      have hline : readChunkLine limits used (line ++ rest) =
          .ok ⟨0, used + line.length, rest⟩ :=
        readChunkLine_eq_ok_iff.2 ⟨line, text, rfl, hsaid,
          hlines line List.mem_cons_self, hsize, rfl, hbound⟩
      rw [readChunks_eq, hline]
      rfl
  | @more line text size data lines sizes body hsaid hsize hpos hdata hchunks ih =>
      have hlength : (line ++ (data ++ (Bytes.crlf ++ body))).length =
          line.length + size + 2 + body.length := by
        simp only [List.length_append, Bytes.crlf, List.length_cons, List.length_nil]
        omega
      rw [hlength] at hbound
      have hline : readChunkLine limits used
          (line ++ (data ++ (Bytes.crlf ++ body)) ++ rest) =
          .ok ⟨size, used + line.length, data ++ (Bytes.crlf ++ (body ++ rest))⟩ := by
        refine readChunkLine_eq_ok_iff.2 ⟨line, text, by simp, hsaid,
          hlines line List.mem_cons_self, hsize, rfl, ?_⟩
        simp only
        omega
      have hfilled : readChunkData limits
          ⟨size, used + line.length, data ++ (Bytes.crlf ++ (body ++ rest))⟩ =
          .ok ⟨size, used + line.length + size + 2, body ++ rest⟩ := by
        refine readChunkData_eq_ok_iff.2 ⟨data, rfl, hdata, ?_, rfl, rfl⟩
        simp only
        omega
      have hrest := @ih (used + line.length + size + 2) (content + size)
        (fun l hl => hlines l (List.mem_cons_of_mem line hl)) (by omega)
      rw [readChunks_eq, hline]
      simp only [if_neg (Nat.ne_of_gt hpos), hfilled]
      rw [hrest, hlength, List.sum_cons]
      congr 2
      · omega
      · congr 1
        omega

/-! ## The trailer -/

/-- One line, and then the others. -/
theorem readTrailer_eq (limits : Limits) (used : Nat) (stream : Bytes) :
    readTrailer limits used stream =
      match Line.takeWithin .chunkLine limits.lineBytes stream with
      | .error e => .error e
      | .ok (line, rest) =>
          match count limits used line.length with
          | .error e => .error e
          | .ok counted =>
              match Line.text .trailer line with
              | .error e => .error e
              | .ok text =>
                  if text = "" then .ok (counted, rest)
                  else readTrailer limits counted rest := by
  rw [readTrailer]
  split
  · next hline => simp only [hline]
  · next line rest hline =>
    cases hcount : count limits used line.length with
    | error e => simp only [hline, hcount]
    | ok counted =>
        cases htext : Line.text .trailer line <;> simp only [hline, hcount, htext]

/-- The trailers that are read are those of the grammar. -/
theorem exists_trailer_of_readTrailer {limits : Limits} {used : Nat} {stream : Bytes}
    {total : Nat} {rest : Bytes}
    (h : readTrailer limits used stream = .ok (total, rest)) :
    ∃ body lines, stream = body ++ rest ∧ Trailer lines body ∧
      (∀ line ∈ lines, line.length ≤ limits.lineBytes) ∧
      total = used + body.length ∧ total ≤ limits.payloadBytes := by
  fun_induction readTrailer limits used stream with
  | case1 => cases h
  | case2 => cases h
  | case3 => cases h
  | case4 used stream line rest' hline counted hcount htext =>
      cases h
      obtain ⟨hsplit, hsaid, hlength⟩ :=
        (Line.takeWithin_text_iff _ _).1 ⟨hline, htext⟩
      obtain ⟨hused, hle⟩ := count_eq_ok_iff.1 hcount
      exact ⟨line, [line], hsplit, .blank hsaid, by simpa using hlength, hused, hle⟩
  | case5 used stream line rest' hline counted hcount text htext hne ih =>
      obtain ⟨hsplit, hsaid, hlength⟩ :=
        (Line.takeWithin_text_iff _ _).1 ⟨hline, htext⟩
      obtain ⟨hused, _⟩ := count_eq_ok_iff.1 hcount
      obtain ⟨body, lines, hrest, htrailer, hlines, htotal, hbound⟩ := ih h
      refine ⟨line ++ body, line :: lines, ?_, .field hsaid hne htrailer,
        List.forall_mem_cons.2 ⟨hlength, hlines⟩, ?_, hbound⟩
      · rw [hsplit, hrest, List.append_assoc]
      · rw [List.length_append]
        omega

/-- The trailers of the grammar are read, whatever follows them. -/
theorem readTrailer_trailer {limits : Limits} {used : Nat} {lines : List Bytes}
    {body : Bytes} (h : Trailer lines body)
    (hlines : ∀ line ∈ lines, line.length ≤ limits.lineBytes)
    (hbound : used + body.length ≤ limits.payloadBytes) (rest : Bytes) :
    readTrailer limits used (body ++ rest) = .ok (used + body.length, rest) := by
  induction h generalizing used with
  | @blank line hsaid =>
      have hsaid' : Line.Says line (Bytes.ofText "") := hsaid
      obtain ⟨hline, htext⟩ :=
        (Line.takeWithin_text_iff .chunkLine .trailer).2
          ⟨rfl, hsaid', hlines line List.mem_cons_self⟩
      rw [readTrailer_eq, hline]
      simp only [count_eq_ok_iff.2 ⟨rfl, hbound⟩, htext, if_true]
  | @field line text lines body hsaid hne htrailer ih =>
      obtain ⟨hline, htext⟩ :=
        (Line.takeWithin_text_iff .chunkLine .trailer).2
          ⟨rfl, hsaid, hlines line List.mem_cons_self⟩
      rw [List.length_append] at hbound
      have hcount : count limits used line.length = .ok (used + line.length) :=
        count_eq_ok_iff.2 ⟨rfl, by omega⟩
      have hrest := @ih (used + line.length)
        (fun l hl => hlines l (List.mem_cons_of_mem line hl)) (by omega)
      rw [List.append_assoc, readTrailer_eq, hline]
      simp only [hcount, htext, if_neg hne]
      rw [hrest, List.length_append, Nat.add_assoc]

/-! ## Whole bodies -/

/-- What is read is a body of the grammar, within the limits. -/
theorem exists_body_of_readChunked {limits : Limits} {stream rest : Bytes}
    {payload : Payload} (h : readChunked limits stream = .ok (payload, rest)) :
    ∃ body lines sizes, stream = body ++ rest ∧ ChunkedBody lines sizes body ∧
      (∀ line ∈ lines, line.length ≤ limits.lineBytes) ∧
      body.length ≤ limits.payloadBytes ∧ payload = ⟨body, sizes.sum⟩ := by
  unfold readChunked at h
  split at h
  · cases h
  · next used content afterChunks hchunks =>
    split at h
    · cases h
    · next total rest' htrailer =>
      cases h
      obtain ⟨chunks, chunkLines, sizes, hsplit, hgrammar, hlines, hused, _, hsum⟩ :=
        exists_chunks_of_readChunks hchunks
      obtain ⟨trailer, trailerLines, hafter, hgrammar', hlines', htotal, hbound⟩ :=
        exists_trailer_of_readTrailer htrailer
      have hbody : stream = (chunks ++ trailer) ++ rest := by
        rw [hsplit, hafter, List.append_assoc]
      have hlength : total = (chunks ++ trailer).length := by
        rw [List.length_append]
        omega
      refine ⟨chunks ++ trailer, chunkLines ++ trailerLines, sizes, hbody,
        .intro hgrammar hgrammar', List.forall_mem_append.2 ⟨hlines, hlines'⟩,
        hlength ▸ hbound, ?_⟩
      rw [hlength, hbody, List.take_left, hsum, Nat.zero_add]

/-- A body of the grammar is read up to its end, whatever follows it. -/
theorem readChunked_body {limits : Limits} {lines : List Bytes} {sizes : List Nat}
    {body : Bytes} (h : ChunkedBody lines sizes body)
    (hlines : ∀ line ∈ lines, line.length ≤ limits.lineBytes)
    (hbound : body.length ≤ limits.payloadBytes) (rest : Bytes) :
    readChunked limits (body ++ rest) = .ok (⟨body, sizes.sum⟩, rest) := by
  obtain @⟨chunkLines, trailerLines, _, chunks, trailer, hgrammar, hgrammar'⟩ := h
  obtain ⟨hlines, hlines'⟩ := List.forall_mem_append.1 hlines
  rw [List.length_append] at hbound
  have hchunks : readChunks limits 0 0 (chunks ++ (trailer ++ rest)) =
      .ok (0 + chunks.length, 0 + sizes.sum, trailer ++ rest) :=
    readChunks_chunks hgrammar hlines (by omega) (trailer ++ rest)
  have htrailer : readTrailer limits chunks.length (trailer ++ rest) =
      .ok (chunks.length + trailer.length, rest) :=
    readTrailer_trailer hgrammar' hlines' hbound rest
  rw [Nat.zero_add, Nat.zero_add, ← List.append_assoc] at hchunks
  simp only [readChunked, hchunks, htrailer]
  rw [← List.length_append, List.take_left]

/--
Exactly the bodies of the grammar are read, within the limits, and the payload
is the body as it was sent; its content is the data of the chunks.
-/
theorem readChunked_eq_ok_iff {limits : Limits} {stream rest : Bytes}
    {payload : Payload} :
    readChunked limits stream = .ok (payload, rest) ↔
      ∃ body lines sizes, stream = body ++ rest ∧ ChunkedBody lines sizes body ∧
        (∀ line ∈ lines, line.length ≤ limits.lineBytes) ∧
        body.length ≤ limits.payloadBytes ∧ payload = ⟨body, sizes.sum⟩ := by
  constructor
  · exact exists_body_of_readChunked
  · rintro ⟨body, lines, sizes, rfl, hbody, hlines, hbound, rfl⟩
    exact readChunked_body hbody hlines hbound rest

end Payload

end Intermediary

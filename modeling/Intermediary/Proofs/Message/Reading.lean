import Intermediary.Proofs.Message.Incremental
import Intermediary.Proofs.Payload.Chunked

/-!
# Messages are read incrementally

Each reader of a message is written as a sequence of smaller ones, and settles
every stream because they do.  The loops over header lines, chunks, trailer
lines and interim responses go by the length of what is still unread.
-/

namespace Intermediary

open StreamReader

/-! ## Headers -/

namespace Header

private theorem ofLine_error {line : String} {e : MessageError}
    (h : ofLine line = .error e) : e.isTransport = false := by
  unfold ofLine at h
  split at h
  · cases h
    rfl
  · dsimp only at h
    split at h <;> cases h
    rfl

private theorem addLine_error {limits : Limits} {header : Header} {line : String}
    {e : MessageError} (h : header.addLine limits line = .error e) :
    e.isTransport = false := by
  unfold addLine at h
  split at h
  · cases h
    rfl
  · split at h
    · cases h
    · next hline =>
      cases h
      exact ofLine_error hline

theorem readInto_eq (limits : Limits) (header : Header) :
    readInto limits header =
      StreamReader.andThen (Line.takeWithin .headerLine limits.lineBytes) fun line =>
        (check (Line.text .header line)).andThen fun text =>
          if text = "" then check (.ok header)
          else (check (header.addLine limits text)).andThen (readInto limits) := by
  funext stream
  rw [readInto]
  unfold andThen
  split
  · next hline => rw [hline]
  · next line rest hline =>
    rw [hline]
    dsimp only
    cases Line.text .header line with
    | error e => rfl
    | ok text =>
        by_cases hnil : text = ""
        · simp [check, Except.map, hnil]
        · cases hadd : header.addLine limits text <;>
            simp [check, Except.map, hnil, hadd]

private theorem settledOn_readInto (limits : Limits) (header : Header) (stream : Bytes) :
    StreamReader.SettledOn (readInto limits header) stream := by
  rw [readInto_eq]
  refine settledOn_andThen (Line.settledOn_takeWithin _ _ stream)
    fun {line rest} hline => ?_
  refine settledOn_checked (fun _ => Line.text_error) fun text _ => ?_
  split
  · exact settledOn_check (fun _ h => by cases h) rest
  · refine settledOn_checked (fun _ => addLine_error) fun grown _ => ?_
    exact settledOn_readInto limits grown rest
termination_by stream.length
decreasing_by exact Line.length_rest_lt hline

private theorem number_error {header : Header} {name : String} {e : MessageError}
    (h : header.number name = .error e) : e.isTransport = false := by
  unfold number at h
  split at h
  · cases h
    rfl
  · split at h <;> cases h
    rfl

end Header

/-! ## Payloads -/

namespace Payload

theorem readExact_eq (limits : Limits) (length : Nat) :
    readExact limits length =
      if limits.payloadBytes < length then check (.error (.tooLarge .payload))
      else StreamReader.andThen (Block.take length) fun block =>
        check (.ok (ofBytes block)) := by
  funext stream
  unfold readExact
  split
  · rfl
  · simp only [andThen]
    cases Block.take length stream <;> rfl

private theorem settledOn_readExact (limits : Limits) (length : Nat) (stream : Bytes) :
    StreamReader.SettledOn (readExact limits length) stream := by
  rw [readExact_eq]
  split
  · refine settledOn_check (fun e h => ?_) stream
    cases h
    rfl
  · exact settledOn_map ofBytes (Block.settledOn_take length stream)

private theorem chunkSize_error {line : String} {e : MessageError}
    (h : chunkSize line = .error e) : e.isTransport = false := by
  unfold chunkSize at h
  dsimp only at h
  split at h <;> cases h
  rfl

private theorem count_error {limits : Limits} {used length : Nat} {e : MessageError}
    (h : count limits used length = .error e) : e.isTransport = false := by
  unfold count at h
  split at h <;> cases h
  rfl

/-- The line that begins a chunk: its size, and the bytes counted with it. -/
def chunkLine (limits : Limits) (used : Nat) : StreamReader (Nat × Nat) :=
  fun stream => (readChunkLine limits used stream).map fun chunk =>
    ((chunk.size, chunk.used), chunk.rest)

theorem chunkLine_eq (limits : Limits) (used : Nat) :
    chunkLine limits used =
      StreamReader.andThen (Line.takeWithin .chunkLine limits.lineBytes) fun line =>
        (check (Line.text .chunk line)).andThen fun text =>
          (check (chunkSize text)).andThen fun size =>
            (check (count limits used line.length)).andThen fun counted =>
              check (.ok (size, counted)) := by
  funext stream
  unfold chunkLine readChunkLine andThen
  cases Line.takeWithin .chunkLine limits.lineBytes stream with
  | error e => rfl
  | ok cut =>
      obtain ⟨line, rest⟩ := cut
      dsimp only
      cases Line.text .chunk line with
      | error e => rfl
      | ok text =>
          simp only [check, Except.map]
          cases chunkSize text with
          | error e => rfl
          | ok size =>
              dsimp only
              cases count limits used line.length <;> rfl

private theorem settledOn_chunkLine (limits : Limits) (used : Nat) (stream : Bytes) :
    (chunkLine limits used).SettledOn stream := by
  rw [chunkLine_eq]
  refine settledOn_andThen (Line.settledOn_takeWithin _ _ stream)
    fun {line rest} _ => ?_
  refine settledOn_checked (fun _ => Line.text_error) fun text _ => ?_
  refine settledOn_checked (fun _ => chunkSize_error) fun size _ => ?_
  refine settledOn_checked (fun _ => count_error) fun counted _ => ?_
  exact settledOn_check (fun _ h => by cases h) rest

private theorem chunkLine_length_lt {limits : Limits} {used : Nat} {stream : Bytes}
    {counts : Nat × Nat} {rest : Bytes}
    (h : chunkLine limits used stream = .ok (counts, rest)) :
    rest.length < stream.length := by
  unfold chunkLine at h
  cases hread : readChunkLine limits used stream with
  | error e =>
      rw [hread] at h
      cases h
  | ok chunk =>
      rw [hread] at h
      cases h
      exact readChunkLine_length_lt hread

/-- The data of a chunk and its ending: the bytes counted up to there. -/
def chunkData (limits : Limits) (size used : Nat) : StreamReader Nat :=
  fun stream => (readChunkData limits ⟨size, used, stream⟩).map fun filled =>
    (filled.used, filled.rest)

theorem chunkData_eq (limits : Limits) (size used : Nat) :
    chunkData limits size used =
      if limits.payloadBytes - used < size then check (.error (.tooLarge .payload))
      else StreamReader.andThen (Block.take size) fun _ =>
        StreamReader.andThen (Block.take 2) fun ending =>
          check (if ending = Bytes.crlf then .ok (used + size + 2)
            else .error (.framing .chunkEnd)) := by
  funext stream
  unfold chunkData readChunkData
  split
  · rfl
  · simp only [andThen]
    cases Block.take size stream with
    | error e => rfl
    | ok cut =>
        dsimp only
        cases Block.take 2 cut.2 with
        | error e => rfl
        | ok cut' =>
            dsimp only
            split <;> rfl

private theorem settledOn_chunkData (limits : Limits) (size used : Nat) (stream : Bytes) :
    (chunkData limits size used).SettledOn stream := by
  rw [chunkData_eq]
  split
  · refine settledOn_check (fun e h => ?_) stream
    cases h
    rfl
  · refine settledOn_andThen (Block.settledOn_take size stream)
      fun {_ afterData} _ => ?_
    refine settledOn_andThen (Block.settledOn_take 2 afterData)
      fun {ending rest} _ => ?_
    refine settledOn_check (fun e h => ?_) rest
    split at h <;> cases h
    rfl

private theorem chunkData_length_le {limits : Limits} {size used : Nat} {stream : Bytes}
    {filled : Nat} {rest : Bytes}
    (h : chunkData limits size used stream = .ok (filled, rest)) :
    rest.length ≤ stream.length := by
  unfold chunkData at h
  cases hread : readChunkData limits ⟨size, used, stream⟩ with
  | error e =>
      rw [hread] at h
      cases h
  | ok chunk =>
      rw [hread] at h
      cases h
      exact readChunkData_length_le hread

/-- The chunks of a body: the bytes counted, and the content among them. -/
def chunkCounts (limits : Limits) (used content : Nat) : StreamReader (Nat × Nat) :=
  fun stream => (readChunks limits used content stream).map fun (total, sum, rest) =>
    ((total, sum), rest)

theorem chunkCounts_eq (limits : Limits) (used content : Nat) :
    chunkCounts limits used content =
      (chunkLine limits used).andThen fun opened =>
        if opened.1 = 0 then check (.ok (opened.2, content))
        else (chunkData limits opened.1 opened.2).andThen fun filled =>
          chunkCounts limits filled (content + opened.1) := by
  funext stream
  unfold chunkCounts
  rw [readChunks_eq]
  simp only [andThen, chunkLine]
  cases readChunkLine limits used stream with
  | error e => rfl
  | ok opened =>
      simp only [Except.map]
      by_cases hzero : opened.size = 0
      · simp [hzero, check, Except.map]
      · have hfilled : chunkData limits opened.size opened.used opened.rest =
            (readChunkData limits opened).map fun filled =>
              (filled.used, filled.rest) := rfl
        simp only [if_neg hzero, andThen, hfilled]
        cases hdata : readChunkData limits opened with
        | error e => rfl
        | ok filled =>
            obtain ⟨_, _, _, _, hsize, _⟩ := readChunkData_eq_ok_iff.1 hdata
            simp only [Except.map, hsize]

private theorem settledOn_chunkCounts (limits : Limits) (used content : Nat)
    (stream : Bytes) : (chunkCounts limits used content).SettledOn stream := by
  rw [chunkCounts_eq]
  refine settledOn_andThen (settledOn_chunkLine limits used stream)
    fun {opened afterLine} hline => ?_
  split
  · exact settledOn_check (fun _ h => by cases h) afterLine
  · refine settledOn_andThen (settledOn_chunkData limits opened.1 opened.2 afterLine)
      fun {filled rest} hdata => ?_
    exact settledOn_chunkCounts limits filled (content + opened.1) rest
termination_by stream.length
decreasing_by
  exact Nat.lt_of_le_of_lt (chunkData_length_le hdata) (chunkLine_length_lt hline)

private theorem readTrailer_eq_andThen (limits : Limits) (used : Nat) :
    readTrailer limits used =
      StreamReader.andThen (Line.takeWithin .chunkLine limits.lineBytes) fun line =>
        (check (count limits used line.length)).andThen fun counted =>
          (check (Line.text .trailer line)).andThen fun text =>
            if text = "" then check (.ok counted)
            else readTrailer limits counted := by
  funext stream
  rw [readTrailer_eq]
  simp only [andThen]
  cases Line.takeWithin .chunkLine limits.lineBytes stream with
  | error e => rfl
  | ok cut =>
      dsimp only
      cases count limits used cut.1.length with
      | error e => rfl
      | ok counted =>
          simp only [check, Except.map]
          cases Line.text .trailer cut.1 with
          | error e => rfl
          | ok text =>
              dsimp only
              split <;> rfl

private theorem settledOn_readTrailer (limits : Limits) (used : Nat) (stream : Bytes) :
    StreamReader.SettledOn (readTrailer limits used) stream := by
  rw [readTrailer_eq_andThen]
  refine settledOn_andThen (Line.settledOn_takeWithin _ _ stream)
    fun {line rest} hline => ?_
  refine settledOn_checked (fun _ => count_error) fun counted _ => ?_
  refine settledOn_checked (fun _ => Line.text_error) fun text _ => ?_
  split
  · exact settledOn_check (fun _ h => by cases h) rest
  · exact settledOn_readTrailer limits counted rest
termination_by stream.length
decreasing_by exact Line.length_rest_lt hline

/-- A body in chunks fails where its chunks or its trailer do. -/
theorem readChunked_eq_error_iff {limits : Limits} {stream : Bytes}
    {e : MessageError} :
    readChunked limits stream = .error e ↔
      (chunkCounts limits 0 0).andThen (fun counts => readTrailer limits counts.1)
        stream = .error e := by
  simp only [readChunked, andThen, chunkCounts]
  cases readChunks limits 0 0 stream with
  | error e => simp [Except.map]
  | ok counts =>
      simp only [Except.map]
      cases readTrailer limits counts.1 counts.2.2 <;> simp

private theorem settledOn_readChunked (limits : Limits) (stream : Bytes) :
    StreamReader.SettledOn (readChunked limits) stream where
  accepted hok := by
    obtain ⟨body, lines, sizes, hsplit, hbody, hlines, hbound, rfl⟩ :=
      exists_body_of_readChunked hok
    exact ⟨body, hsplit, readChunked_body hbody hlines hbound⟩
  failed herror := by
    have hparts := settledOn_andThen (settledOn_chunkCounts limits 0 0 stream)
      fun {counts rest} _ => settledOn_readTrailer limits counts.1 rest
    rcases hparts.failed (readChunked_eq_error_iff.1 herror) with hcut | ⟨hkind, hsame⟩
    · exact .inl hcut
    · exact .inr ⟨hkind, fun tail => readChunked_eq_error_iff.2 (hsame tail)⟩

theorem read_eq (limits : Limits) (header : Header) :
    read limits header =
      if header.isChunked then readChunked limits
      else (check (header.number contentLengthField)).andThen (readExact limits) := by
  funext stream
  unfold read
  split
  · rfl
  · simp only [andThen, check]
    cases header.number contentLengthField <;> rfl

private theorem settledOn_read (limits : Limits) (header : Header) (stream : Bytes) :
    StreamReader.SettledOn (read limits header) stream := by
  rw [read_eq]
  split
  · exact settledOn_readChunked limits stream
  · exact settledOn_checked (fun _ => Header.number_error)
      fun length _ => settledOn_readExact limits length stream

end Payload

/-! ## Requests -/

private theorem Method.ofToken_error {word : String} {e : MessageError}
    (h : Method.ofToken word = .error e) : e.isTransport = false := by
  unfold Method.ofToken at h
  split at h
  · cases h
  · split at h <;> cases h
    rfl

private theorem Authority.ofText_error {default : Nat} {given : String} {e : MessageError}
    (h : Authority.ofText default given = .error e) : e.isTransport = false := by
  unfold Authority.ofText at h
  split at h <;> cases h
  rfl

namespace Target

private theorem ofAbsolute_error {given : String} {e : MessageError}
    (h : ofAbsolute given = .error e) : e.isTransport = false := by
  unfold ofAbsolute at h
  split at h
  · cases h
    rfl
  · split at h
    · cases h
      rfl
    · split at h <;> cases h
      rfl

private theorem ofPath_error {given : String} {header : Header} {e : MessageError}
    (h : ofPath given header = .error e) : e.isTransport = false := by
  unfold ofPath at h
  split at h
  · cases h
    rfl
  · split at h
    · next hauthority =>
      cases h
      exact Authority.ofText_error hauthority
    · cases h

private theorem resolve_error {method : Method} {given : String} {header : Header}
    {e : MessageError} (h : resolve method given header = .error e) :
    e.isTransport = false := by
  unfold resolve at h
  split at h
  · split at h
    · next hauthority =>
      cases h
      exact Authority.ofText_error hauthority
    · cases h
  · split at h
    · exact ofPath_error h
    · exact ofAbsolute_error h

end Target

namespace Request

private theorem readLine_error {text : String} {e : MessageError}
    (h : readLine text = .error e) : e.isTransport = false := by
  unfold readLine at h
  split at h
  · split at h
    · cases h
      rfl
    · split at h
      · next hmethod =>
        cases h
        exact Method.ofToken_error hmethod
      · cases h
  · cases h
    rfl

theorem readPayload_eq (limits : Limits) (header : Header) :
    readPayload limits header =
      if announcesPayload header then Payload.read limits header
      else check (.ok .empty) := by
  funext stream
  unfold readPayload
  split <;> rfl

private theorem settledOn_readPayload (limits : Limits) (header : Header)
    (stream : Bytes) : StreamReader.SettledOn (readPayload limits header) stream := by
  rw [readPayload_eq]
  split
  · exact Payload.settledOn_read limits header stream
  · exact settledOn_check (fun _ h => by cases h) stream

def assembled (client : String) (line : Line) (target : Target) (header : Header)
    (payload : Payload) : Request where
  method := line.method
  host := target.authority.host
  port := target.authority.port
  path := target.path
  protocol := line.protocol
  header := header
  payload := payload
  client := client

theorem read_eq (limits : Limits) (client : String) :
    read limits client =
      StreamReader.andThen
        (Intermediary.Line.takeFirst .requestLine limits.lineBytes) fun first =>
        (check (Intermediary.Line.text .request first)).andThen fun text =>
        (check (readLine text)).andThen fun line =>
        StreamReader.andThen (Header.read limits) fun header =>
        (check (Target.resolve line.method line.target header)).andThen fun target =>
        StreamReader.andThen (readPayload limits header) fun payload =>
        check (.ok (assembled client line target header payload)) := by
  funext stream
  simp only [read, bind, Except.bind, andThen]
  cases Intermediary.Line.takeFirst .requestLine limits.lineBytes stream with
  | error e => rfl
  | ok cut =>
      dsimp only
      cases Intermediary.Line.text .request cut.1 with
      | error e => rfl
      | ok text =>
          simp only [check, Except.map]
          cases readLine text with
          | error e => rfl
          | ok line =>
              dsimp only
              cases Header.read limits cut.2 with
              | error e => rfl
              | ok found =>
                  dsimp only
                  cases Target.resolve line.method line.target found.1 with
                  | error e => rfl
                  | ok target =>
                      dsimp only
                      cases readPayload limits found.1 found.2 <;> rfl

theorem settledOn_read (limits : Limits) (client : String) (stream : Bytes) :
    StreamReader.SettledOn (read limits client) stream := by
  rw [read_eq]
  refine settledOn_andThen (Intermediary.Line.settledOn_takeFirst _ _ stream)
    fun {first afterLine} _ => ?_
  refine settledOn_checked (fun _ => Intermediary.Line.text_error) fun text _ => ?_
  refine settledOn_checked (fun _ => readLine_error) fun line _ => ?_
  refine settledOn_andThen (Header.settledOn_readInto limits .empty afterLine)
    fun {header afterHeader} _ => ?_
  refine settledOn_checked (fun _ => Target.resolve_error) fun target _ => ?_
  exact settledOn_map _ (settledOn_readPayload limits header afterHeader)

end Request

/-! ## Responses -/

namespace Response

private theorem readLine_error {text : String} {e : MessageError}
    (h : readLine text = .error e) : e.isTransport = false := by
  unfold readLine at h
  split at h
  · cases h
    rfl
  · split at h
    · cases h
      rfl
    · split at h <;> cases h
      rfl

theorem readHead_eq (limits : Limits) :
    readHead limits =
      StreamReader.andThen
        (Intermediary.Line.takeFirst .statusLine limits.lineBytes) fun first =>
        (check (Intermediary.Line.text .status first)).andThen fun text =>
        (check (readLine text)).andThen fun line =>
        StreamReader.andThen (Header.read limits) fun header =>
        check (.ok ⟨line.1, line.2, header, .empty⟩) := by
  funext stream
  simp only [readHead, andThen]
  cases Intermediary.Line.takeFirst .statusLine limits.lineBytes stream with
  | error e => rfl
  | ok cut =>
      dsimp only
      cases Intermediary.Line.text .status cut.1 with
      | error e => rfl
      | ok text =>
          simp only [check, Except.map]
          cases readLine text with
          | error e => rfl
          | ok line =>
              dsimp only
              cases Header.read limits cut.2 <;> rfl

theorem settledOn_readHead (limits : Limits) (stream : Bytes) :
    StreamReader.SettledOn (readHead limits) stream := by
  rw [readHead_eq]
  refine settledOn_andThen (Intermediary.Line.settledOn_takeFirst _ _ stream)
    fun {first afterLine} _ => ?_
  refine settledOn_checked (fun _ => Intermediary.Line.text_error) fun text _ => ?_
  refine settledOn_checked (fun _ => readLine_error) fun line _ => ?_
  exact settledOn_map _ (Header.settledOn_readInto limits .empty afterLine)

theorem readPayload_eq (limits : Limits) (method : Method) (head : Response) :
    readPayload limits method head =
      if method = .head ∨ head.status.forbidsPayload then check (.ok head)
      else StreamReader.andThen (Payload.read limits head.header) fun payload =>
        check (.ok { head with payload := payload }) := by
  funext stream
  unfold readPayload
  split
  · rfl
  · simp only [andThen]
    cases Payload.read limits head.header stream <;> rfl

private theorem settledOn_readPayload (limits : Limits) (method : Method) (head : Response)
    (stream : Bytes) :
    StreamReader.SettledOn (readPayload limits method head) stream := by
  rw [readPayload_eq]
  split
  · exact settledOn_check (fun _ h => by cases h) stream
  · exact settledOn_map _ (Payload.settledOn_read limits head.header stream)

theorem read_eq (limits : Limits) (method : Method) :
    read limits method =
      StreamReader.andThen (readHead limits) fun head =>
        if head.isInterim then read limits method
        else readPayload limits method head := by
  funext stream
  rw [read]
  simp only [andThen]
  split
  · next hhead => rw [hhead]
  · next hhead =>
    rw [hhead]
    dsimp only
    split <;> rfl

private theorem settledOn_read (limits : Limits) (method : Method) (stream : Bytes) :
    StreamReader.SettledOn (read limits method) stream := by
  rw [read_eq]
  refine settledOn_andThen (settledOn_readHead limits stream)
    fun {head rest} hhead => ?_
  split
  · exact settledOn_read limits method rest
  · exact settledOn_readPayload limits method head rest
termination_by stream.length
decreasing_by exact readHead_length_lt hhead

end Response

/--
Reading a request and reading a response, whatever the limits and the method,
depend on nothing but the bytes they take.
-/
theorem incremental_read (limits : Limits) :
    (∀ client, Incremental (Request.read limits client)) ∧
      ∀ method, Incremental (Response.read limits method) :=
  ⟨fun client => incremental_of_settledOn (Request.settledOn_read limits client),
    fun method => incremental_of_settledOn (Response.settledOn_read limits method)⟩

end Intermediary

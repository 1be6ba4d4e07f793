import Intermediary.Message.Line
import Intermediary.Payload

/-!
# Reading a payload

A body in chunks ends where its own framing says so; any other body has its
length given by the header.  In both cases the bytes read are the payload.
The reader of chunks therefore only counts: how many bytes it has accepted,
and how many of them are content.
-/

namespace Intermediary

open Text

namespace Payload

def readExact (limits : Limits) (length : Nat) (stream : Bytes) :
    Except MessageError (Payload × Bytes) :=
  if limits.payloadBytes < length then .error (.tooLarge .payload)
  else
    match Block.take length stream with
    | .ok (block, rest) => .ok (ofBytes block, rest)
    | .error e => .error e

/-- The size that begins a chunk, given the text of its first line. -/
def chunkSize (line : String) : Except MessageError Nat :=
  let digits := trim ((pieces ';' line).headD "")
  match numeral? 16 wordBound digits with
  | some size => .ok size
  | none => .error (.framing (.chunkSize line))

/-- The count of accepted bytes after `length` more, when they are allowed. -/
def count (limits : Limits) (used length : Nat) : Except MessageError Nat :=
  if limits.payloadBytes < used + length then .error (.tooLarge .payload)
  else .ok (used + length)

structure Chunk where
  /-- Bytes of content; none in the last chunk. -/
  size : Nat
  /-- Bytes of the body accepted up to the end of this chunk. -/
  used : Nat
  /-- What follows the chunk. -/
  rest : Bytes

/-- The line that begins a chunk, as a chunk whose data is still unread. -/
def readChunkLine (limits : Limits) (used : Nat) (stream : Bytes) :
    Except MessageError Chunk :=
  match Line.takeWithin .chunkLine limits.lineBytes stream with
  | .error e => .error e
  | .ok (line, rest) =>
      match Line.text .chunk line with
      | .error e => .error e
      | .ok text =>
          match chunkSize text with
          | .error e => .error e
          | .ok size =>
              match count limits used line.length with
              | .error e => .error e
              | .ok counted => .ok ⟨size, counted, rest⟩

/-- The data of a chunk and the line ending after it. -/
def readChunkData (limits : Limits) (chunk : Chunk) :
    Except MessageError Chunk :=
  if limits.payloadBytes - chunk.used < chunk.size then
    .error (.tooLarge .payload)
  else
    match Block.take chunk.size chunk.rest with
    | .error e => .error e
    | .ok (_, afterData) =>
        match Block.take 2 afterData with
        | .error e => .error e
        | .ok (ending, rest) =>
            if ending = Bytes.crlf then
              .ok ⟨chunk.size, chunk.used + chunk.size + 2, rest⟩
            else .error (.framing .chunkEnd)

theorem readChunkLine_length_lt {limits : Limits} {used : Nat}
    {stream : Bytes} {chunk : Chunk}
    (h : readChunkLine limits used stream = .ok chunk) :
    chunk.rest.length < stream.length := by
  unfold readChunkLine at h
  split at h
  · cases h
  · next line rest hline =>
    split at h
    · cases h
    · split at h
      · cases h
      · split at h
        · cases h
        · cases h
          exact Line.length_rest_lt hline

theorem readChunkData_length_le {limits : Limits} {chunk filled : Chunk}
    (h : readChunkData limits chunk = .ok filled) :
    filled.rest.length ≤ chunk.rest.length := by
  unfold readChunkData at h
  split at h
  · cases h
  · split at h
    · cases h
    · next data afterData hdata =>
      split at h
      · cases h
      · next ending rest hending =>
        split at h
        · cases h
          obtain ⟨hsplit, _⟩ := Block.take_eq_ok_iff.1 hdata
          obtain ⟨hsplit', _⟩ := Block.take_eq_ok_iff.1 hending
          simp only [hsplit, hsplit', List.length_append]
          omega
        · cases h

/--
Read chunks up to the last one, which is empty.  The result tells the bytes
accepted, the content among them, and the bytes after the last chunk.
-/
def readChunks (limits : Limits) (used content : Nat) (stream : Bytes) :
    Except MessageError (Nat × Nat × Bytes) :=
  match _hline : readChunkLine limits used stream with
  | .error e => .error e
  | .ok opened =>
      if opened.size = 0 then .ok (opened.used, content, opened.rest)
      else
        match _hdata : readChunkData limits opened with
        | .error e => .error e
        | .ok chunk =>
            readChunks limits chunk.used (content + chunk.size) chunk.rest
termination_by stream.length
decreasing_by
  exact Nat.lt_of_le_of_lt (readChunkData_length_le _hdata)
    (readChunkLine_length_lt _hline)

/-- Read the lines after the last chunk, up to and including the blank one. -/
def readTrailer (limits : Limits) (used : Nat) (stream : Bytes) :
    Except MessageError (Nat × Bytes) :=
  match _h : Line.takeWithin .chunkLine limits.lineBytes stream with
  | .error e => .error e
  | .ok (line, rest) =>
      match count limits used line.length with
      | .error e => .error e
      | .ok counted =>
          match Line.text .trailer line with
          | .error e => .error e
          | .ok text =>
              if text = "" then .ok (counted, rest)
              else readTrailer limits counted rest
termination_by stream.length
decreasing_by exact Line.length_rest_lt _h

/-- Read a body in chunks; the payload is the run of bytes it occupies. -/
def readChunked (limits : Limits) (stream : Bytes) :
    Except MessageError (Payload × Bytes) :=
  match readChunks limits 0 0 stream with
  | .error e => .error e
  | .ok (used, content, afterChunks) =>
      match readTrailer limits used afterChunks with
      | .error e => .error e
      | .ok (total, rest) => .ok (⟨stream.take total, content⟩, rest)

def read (limits : Limits) (header : Header) (stream : Bytes) :
    Except MessageError (Payload × Bytes) :=
  if header.isChunked then readChunked limits stream
  else
    match header.number contentLengthField with
    | .error e => .error e
    | .ok length => readExact limits length stream

end Payload

end Intermediary

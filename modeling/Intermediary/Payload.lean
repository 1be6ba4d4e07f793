import Intermediary.Header

/-!
# Payloads

A payload keeps the bytes of a body exactly as they were sent.  Its content is
shorter than that when the body came in chunks: chunk sizes, line endings and
trailers are part of the bytes, not of the content.
-/

namespace Intermediary

open Text

def contentLengthField : String := "Content-Length"

def transferEncodingField : String := "Transfer-Encoding"

/-- A body as sent, and the length of what it carries. -/
structure Payload where
  bytes : Bytes
  contentLength : Nat
  deriving DecidableEq, Repr

namespace Payload

def empty : Payload := ⟨[], 0⟩

def ofBytes (bytes : Bytes) : Payload :=
  ⟨bytes, bytes.length⟩

def size (payload : Payload) : Nat :=
  payload.bytes.length

def isEmpty (payload : Payload) : Bool :=
  payload.bytes.isEmpty

end Payload

/-- Whether a header announces a body in chunks: its last coding is `chunked`. -/
def Header.isChunked (header : Header) : Bool :=
  match (header.items transferEncodingField).getLast? with
  | some coding => sameIgnoringCase coding "chunked"
  | none => false

theorem Header.isChunked_of_get?_none {header : Header}
    (h : header.get? transferEncodingField = none) : header.isChunked = false := by
  simp [Header.isChunked, Header.items, h]

theorem Header.isChunked_iff (header : Header) :
    header.isChunked = true ↔
      ∃ coding, (header.items transferEncodingField).getLast? = some coding ∧
        sameIgnoringCase coding "chunked" = true := by
  unfold Header.isChunked
  cases (header.items transferEncodingField).getLast? <;> simp

end Intermediary

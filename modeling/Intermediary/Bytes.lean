/-!
# Bytes and the texts they encode

Streams, messages and payloads are lists of bytes.  A text enters a message as
its UTF-8 encoding, and a run of bytes is a text exactly when it is the
encoding of one.
-/

namespace Intermediary

/-- Raw bytes, first byte first. -/
abbrev Bytes := List UInt8

namespace Bytes

/-- The UTF-8 encoding of a text. -/
def ofText (text : String) : Bytes :=
  text.toByteArray.data.toList

/-- The text that these bytes encode in UTF-8, if they encode one. -/
def text? (bytes : Bytes) : Option String :=
  String.fromUTF8? (ByteArray.mk bytes.toArray)

/-- Line feed, the byte that ends every line. -/
def lf : UInt8 := 10

/-- Carriage return. -/
def cr : UInt8 := 13

def crlf : Bytes := [cr, lf]

/-- One run of bytes after another; before an empty one the first is not copied. -/
def followedBy (first next : Bytes) : Bytes :=
  if next.isEmpty then first else first ++ next

/-- Runs of bytes, one after another; the last one is not copied. -/
def join (runs : List Bytes) : Bytes :=
  runs.foldr followedBy []

theorem followedBy_eq_append (first next : Bytes) :
    followedBy first next = first ++ next := by
  unfold followedBy
  split
  · next h => rw [List.isEmpty_iff.1 h, List.append_nil]
  · rfl

theorem join_eq_flatten (runs : List Bytes) : join runs = runs.flatten := by
  induction runs with
  | nil => rfl
  | cons first rest ih =>
      rw [List.flatten_cons, ← ih]
      exact followedBy_eq_append first (join rest)

theorem text?_ofText (text : String) : text? (ofText text) = some text := by
  have hvalid : (ByteArray.mk (ofText text).toArray) = text.toByteArray := by
    simp [ofText]
  unfold text? String.fromUTF8?
  rw [hvalid, dif_pos text.isValidUTF8]
  rfl

theorem ofText_of_text? {bytes : Bytes} {text : String}
    (h : text? bytes = some text) : ofText text = bytes := by
  unfold text? String.fromUTF8? at h
  split at h
  · cases h
    simp [ofText, String.fromUTF8]
  · cases h

theorem text?_eq_some_iff {bytes : Bytes} {text : String} :
    text? bytes = some text ↔ ofText text = bytes :=
  ⟨ofText_of_text?, fun h => h ▸ text?_ofText text⟩

theorem ofText_append (a b : String) :
    ofText (a ++ b) = ofText a ++ ofText b := by
  simp [ofText, String.toByteArray_append, ByteArray.data_append]

theorem ofText_injective {a b : String} (h : ofText a = ofText b) : a = b := by
  have ha := text?_ofText a
  rw [h, text?_ofText b] at ha
  exact (Option.some.inj ha).symm

end Bytes

end Intermediary

import Intermediary.Bytes
import Intermediary.Message.Error

/-!
# Lines and blocks at the front of a stream

A line ends with a line feed, which belongs to it, and must do so within a
given number of bytes.  A block has a length fixed in advance.
-/

namespace Intermediary

/-- Why no line stands at the front of a stream. -/
inductive LineFault where
  /-- Not a single byte of a line is there. -/
  | absent
  /-- The stream ends before the line does. -/
  | ended
  /-- The line is still open when its limit is reached. -/
  | tooLong
  deriving DecidableEq, Repr

namespace Line

/--
The first line of a stream, its ending included, and the bytes after it.  The
line has at most `limit` bytes.
-/
def take (limit : Nat) (stream : Bytes) : Except LineFault (Bytes × Bytes) :=
  match stream.findIdx? (· == Bytes.lf) with
  | some i =>
      if i < limit then .ok (stream.splitAt (i + 1))
      else if limit = 0 then .error .absent
      else .error .tooLong
  | none =>
      if limit = 0 ∨ stream = [] then .error .absent
      else if limit ≤ stream.length then .error .tooLong
      else .error .ended

/-- A line without its ending: a line feed, or a carriage return before one. -/
def content (line : Bytes) : Bytes :=
  let opened := if line.getLast? = some Bytes.lf then line.dropLast else line
  if opened.getLast? = some Bytes.cr then opened.dropLast else opened

def text (kind : LineKind) (line : Bytes) : Except MessageError String :=
  match Bytes.text? (content line) with
  | some text => .ok text
  | none => .error (.malformed (.encoding kind))

/--
The first line of a stream, where a message that has begun needs one.
-/
def takeWithin (part : BoundedPart) (limit : Nat) (stream : Bytes) :
    Except MessageError (Bytes × Bytes) :=
  match take limit stream with
  | .ok cut => .ok cut
  | .error .absent => .error .ended
  | .error .ended => .error .ended
  | .error .tooLong => .error (.tooLarge part)

/-- The first line of a stream, with which a message begins. -/
def takeFirst (part : BoundedPart) (limit : Nat) (stream : Bytes) :
    Except MessageError (Bytes × Bytes) :=
  match take limit stream with
  | .ok cut => .ok cut
  | .error .absent => .error .closed
  | .error .ended => .error .ended
  | .error .tooLong => .error (.tooLarge part)

theorem take_eq_ok {limit : Nat} {stream line rest : Bytes}
    (h : take limit stream = .ok (line, rest)) :
    stream = line ++ rest ∧ 0 < line.length ∧ line.length ≤ limit := by
  unfold take at h
  split at h
  · next i hi =>
    split at h
    · next hlt =>
      have hcut := Except.ok.inj h
      rw [List.splitAt_eq] at hcut
      cases hcut
      have hlen : i < stream.length := by
        obtain ⟨hi', _⟩ := List.findIdx?_eq_some_iff_getElem.1 hi
        exact hi'
      refine ⟨(List.take_append_drop _ _).symm, ?_, ?_⟩
      · rw [List.length_take]
        omega
      · rw [List.length_take]
        omega
    · split at h <;> cases h
  · split at h
    · cases h
    · split at h <;> cases h

theorem takeWithin_eq_ok_iff {part : BoundedPart} {limit : Nat}
    {stream : Bytes} {cut : Bytes × Bytes} :
    takeWithin part limit stream = .ok cut ↔ take limit stream = .ok cut := by
  unfold takeWithin
  split <;> simp_all

theorem length_rest_lt {part : BoundedPart} {limit : Nat}
    {stream line rest : Bytes}
    (h : takeWithin part limit stream = .ok (line, rest)) :
    rest.length < stream.length := by
  obtain ⟨hsplit, hpos, _⟩ := take_eq_ok (takeWithin_eq_ok_iff.1 h)
  rw [hsplit, List.length_append]
  omega

theorem takeFirst_length_lt {part : BoundedPart} {limit : Nat}
    {stream line rest : Bytes}
    (h : takeFirst part limit stream = .ok (line, rest)) :
    rest.length < stream.length := by
  unfold takeFirst at h
  split at h
  · next hcut =>
    cases h
    obtain ⟨hsplit, hpos, _⟩ := take_eq_ok hcut
    rw [hsplit, List.length_append]
    omega
  all_goals cases h

end Line

namespace Block

/--
The first `size` bytes of a stream and the bytes after them.  A stream that
holds no more than these is not copied.
-/
def take (size : Nat) (stream : Bytes) : Except MessageError (Bytes × Bytes) :=
  let rest := stream.drop size
  if rest.isEmpty then
    if stream.length < size then .error .ended else .ok (stream, [])
  else .ok (stream.take size, rest)

theorem take_eq_ok_iff {size : Nat} {stream block rest : Bytes} :
    take size stream = .ok (block, rest) ↔
      stream = block ++ rest ∧ block.length = size := by
  unfold take
  simp only [List.isEmpty_iff, List.drop_eq_nil_iff]
  constructor
  · intro h
    split at h
    · next hle =>
      split at h
      · cases h
      · cases h
        exact ⟨(List.append_nil _).symm, by omega⟩
    · cases h
      refine ⟨(List.take_append_drop _ _).symm, ?_⟩
      rw [List.length_take]
      omega
  · rintro ⟨rfl, rfl⟩
    split
    · next hle =>
      rw [List.length_append] at hle
      have hrest : rest = [] := List.eq_nil_of_length_eq_zero (by omega)
      rw [hrest, List.append_nil, if_neg (Nat.lt_irrefl _)]
    · rw [List.take_left, List.drop_left]

end Block

end Intermediary

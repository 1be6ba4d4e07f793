import Intermediary.Header
import Intermediary.Message.Line

/-!
# Reading a header

A header is read line by line up to the blank line.  The number of fields, as
they stand after joining, is bounded before each further line is taken in.
-/

namespace Intermediary

open Text

namespace Header

def ofLine (line : String) : Except MessageError Field :=
  match cutAt ':' line with
  | none => .error (.malformed (.colonMissing line))
  | some (before, after) =>
      let name := trim before
      if name = "" then .error (.malformed .nameMissing)
      else .ok ⟨name, trim after⟩

def addLine (limits : Limits) (header : Header) (line : String) :
    Except MessageError Header :=
  if limits.headerFields ≤ header.size then
    .error (.tooLarge .headerCount)
  else
    match ofLine line with
    | .ok field => .ok (header.receive field.name field.value)
    | .error e => .error e

/-- Read further lines into a header, up to and including the blank line. -/
def readInto (limits : Limits) (header : Header) (stream : Bytes) :
    Except MessageError (Header × Bytes) :=
  match _h : Line.takeWithin .headerLine limits.lineBytes stream with
  | .error e => .error e
  | .ok (line, rest) =>
      match Line.text .header line with
      | .error e => .error e
      | .ok text =>
          if text = "" then .ok (header, rest)
          else
            match header.addLine limits text with
            | .error e => .error e
            | .ok grown => readInto limits grown rest
termination_by stream.length
decreasing_by exact Line.length_rest_lt _h

theorem readInto_length_lt (limits : Limits) (start : Header)
    (stream : Bytes) {header : Header} {rest : Bytes}
    (h : readInto limits start stream = .ok (header, rest)) :
    rest.length < stream.length := by
  fun_induction readInto limits start stream with
  | case1 => cases h
  | case2 => cases h
  | case3 =>
      cases h
      exact Line.length_rest_lt ‹_›
  | case4 => cases h
  | case5 =>
      rename_i ih
      exact Nat.lt_trans (ih h) (Line.length_rest_lt ‹_›)

def read (limits : Limits) (stream : Bytes) :
    Except MessageError (Header × Bytes) :=
  readInto limits empty stream

end Header

end Intermediary

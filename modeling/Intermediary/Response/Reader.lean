import Intermediary.Header.Reader
import Intermediary.Method
import Intermediary.Payload.Reader
import Intermediary.Response

/-!
# Reading a response

Interim responses are read and dropped until a final one comes.  Whether that
one has a payload depends on its status and on the method of the request.
-/

namespace Intermediary

open Text

namespace Response

/-- The code at the start of what follows the protocol token. -/
def statusCode? (text : String) : Option Nat :=
  match words text with
  | [] => none
  | word :: _ =>
      if (Bytes.ofText word).length = 3 then
        match numeral? 10 portBound word with
        | some code => if 100 ≤ code ∧ code < 1000 then some code else none
        | none => none
      else none

def readLine (text : String) : Except MessageError (String × Status) :=
  match cutAt ' ' text with
  | none => .error (.malformed (.statusLine text))
  | some (protocol, rest) =>
      if !startsWith protocol "HTTP/" then
        .error (.malformed (.protocol protocol))
      else
        match statusCode? rest with
        | none => .error (.malformed (.statusCode text))
        | some code => .ok (protocol, ⟨code⟩)

/-- Read the status line and the header of a response. -/
def readHead (limits : Limits) (stream : Bytes) :
    Except MessageError (Response × Bytes) :=
  match Intermediary.Line.takeFirst .statusLine limits.lineBytes stream with
  | .error e => .error e
  | .ok (first, afterLine) =>
      match Intermediary.Line.text .status first with
      | .error e => .error e
      | .ok text =>
          match readLine text with
          | .error e => .error e
          | .ok (protocol, status) =>
              match Header.read limits afterLine with
              | .error e => .error e
              | .ok (header, rest) =>
                  .ok (⟨protocol, status, header, .empty⟩, rest)

def isInterim (response : Response) : Bool :=
  response.status.isInformational && response.status.code != 101

def readPayload (limits : Limits) (method : Method) (head : Response)
    (stream : Bytes) : Except MessageError (Response × Bytes) :=
  if method = .head ∨ head.status.forbidsPayload then .ok (head, stream)
  else
    match Payload.read limits head.header stream with
    | .error e => .error e
    | .ok (payload, rest) => .ok ({ head with payload := payload }, rest)

theorem readHead_length_lt {limits : Limits} {stream : Bytes}
    {head : Response} {rest : Bytes}
    (h : readHead limits stream = .ok (head, rest)) :
    rest.length < stream.length := by
  unfold readHead at h
  split at h
  · cases h
  · next first afterLine hline =>
    split at h
    · cases h
    · split at h
      · cases h
      · split at h
        · cases h
        · next header rest' hheader =>
          cases h
          exact Nat.lt_trans
            (Header.readInto_length_lt limits .empty afterLine hheader)
            (Line.takeFirst_length_lt hline)

/-- Read the first response that is not interim from the front of a stream. -/
def read (limits : Limits) (method : Method) (stream : Bytes) :
    Except MessageError (Response × Bytes) :=
  match _h : readHead limits stream with
  | .error e => .error e
  | .ok (head, rest) =>
      if head.isInterim then read limits method rest
      else readPayload limits method head rest
termination_by stream.length
decreasing_by exact readHead_length_lt _h

end Response

end Intermediary

import Intermediary.Host
import Intermediary.Text.Quoted

/-!
# Limits on a message, and why one could not be read

Every line, the number of header lines and the payload are bounded while a
message is read.  A message either breaks off, because its stream does, or is
refused: it is malformed, its payload is framed badly, or a part of it passes a
limit.  The causes are values; their wording is `MessageError.message`.
-/

namespace Intermediary

open Text

/-- The largest sizes accepted while a message is read. -/
structure Limits where
  /-- Bytes of one line, its ending included. -/
  lineBytes : Nat
  headerFields : Nat
  payloadBytes : Nat
  deriving DecidableEq, Repr

namespace Limits

def default : Limits where
  lineBytes := 8192
  headerFields := 100
  payloadBytes := 16777216

end Limits

/-- How the exchange of bytes with a peer breaks off. -/
inductive TransportError where
  /-- The stream ended inside something. -/
  | ended
  /-- Nothing happened before a deadline. -/
  | timedOut
  /-- The peer dropped the connection with bytes unread. -/
  | reset
  /-- The peer no longer reads. -/
  | brokenPipe
  /-- Any other failure, in its own words. -/
  | described (text : String)
  deriving DecidableEq, Repr

def TransportError.message : TransportError -> String
  | .ended => "unexpected end of file"
  | .timedOut => "timed out"
  | .reset => "Connection reset by peer (os error 104)"
  | .brokenPipe => "Broken pipe (os error 32)"
  | .described text => text

inductive LineKind where
  | request
  | status
  | header
  | chunk
  | trailer
  deriving DecidableEq, Repr

/-- The name of a line in a complaint about its encoding. -/
def LineKind.name : LineKind -> String
  | .request => "request line"
  | .status => "status line"
  | .header => "header line"
  | .chunk => "chunk size line"
  | .trailer => "trailer line"

/-- What is wrong with the start line or a header line. -/
inductive Malformation where
  /-- A line is not UTF-8. -/
  | encoding (line : LineKind)
  /-- A request line is not made of three words. -/
  | requestLine (line : String)
  | protocol (token : String)
  | method (token : String)
  | statusLine (line : String)
  | statusCode (line : String)
  | colonMissing (line : String)
  /-- Nothing precedes the colon of a header line. -/
  | nameMissing
  /-- A target without a host came without a `Host` field. -/
  | hostMissing
  /-- A target has none of the known forms. -/
  | target (given : String)
  /-- An absolute target has another scheme than `http`. -/
  | scheme (given : String)
  /-- An absolute target names no host and port. -/
  | location (given : String) (cause : HostError)
  /-- An authority names no host and port. -/
  | authority (given : String)
  /-- Any other fault, in its own words. -/
  | described (text : String)
  deriving DecidableEq, Repr

def Malformation.message : Malformation -> String
  | .encoding line => line.name ++ " is not valid UTF-8"
  | .requestLine line => "bad request line " ++ quoted line
  | .protocol token => "unknown protocol " ++ quoted token
  | .method token => "invalid method " ++ quoted token
  | .statusLine line => "bad status line " ++ quoted line
  | .statusCode line => "bad status code in " ++ quoted line
  | .colonMissing line => "header line without ':': " ++ quoted line
  | .nameMissing => "empty header name"
  | .hostMissing => "origin-form target without Host"
  | .target given => "unsupported target " ++ quoted given
  | .scheme given => "unsupported scheme " ++ quoted given
  | .location given cause =>
      "invalid target " ++ quoted given ++ ": " ++ cause.message
  | .authority given => "invalid authority " ++ quoted given
  | .described text => text

/-- What is wrong with the framing of a payload. -/
inductive FramingFault where
  /-- The field that gives the length is absent. -/
  | fieldMissing (name : String)
  /-- A field that must be a number is none. -/
  | notNumeric (name value : String)
  | chunkSize (line : String)
  /-- A line ending does not follow the data of a chunk. -/
  | chunkEnd
  /-- Any other fault, in its own words. -/
  | described (text : String)
  deriving DecidableEq, Repr

def FramingFault.message : FramingFault -> String
  | .fieldMissing name => "missing " ++ name ++ " header"
  | .notNumeric name value => name ++ " is not numeric: " ++ quoted value
  | .chunkSize line => "invalid chunk size: " ++ quoted line
  | .chunkEnd => "chunk data not followed by CRLF"
  | .described text => text

/-- The parts of a message that have a limit. -/
inductive BoundedPart where
  | requestLine
  | statusLine
  | headerLine
  | chunkLine
  | headerCount
  | payload
  deriving DecidableEq, Repr

/-- The name of a part in a complaint about its size. -/
def BoundedPart.name : BoundedPart -> String
  | .requestLine => "request line"
  | .statusLine => "status line"
  | .headerLine => "header line"
  | .chunkLine => "chunk line"
  | .headerCount => "header count"
  | .payload => "payload"

inductive MessageError where
  /-- The stream ended before the message began. -/
  | closed
  /-- The stream broke off inside the message. -/
  | transport (cause : TransportError)
  /-- The start line or a header line makes no sense. -/
  | malformed (fault : Malformation)
  /-- The extent of the payload is not given, or given wrongly. -/
  | framing (fault : FramingFault)
  | tooLarge (part : BoundedPart)
  deriving DecidableEq, Repr

namespace MessageError

abbrev ended : MessageError :=
  .transport .ended

/-- Whether the stream is at fault, and not the message. -/
def isTransport : MessageError -> Bool
  | .closed | .transport _ => true
  | .malformed _ | .framing _ | .tooLarge _ => false

def message : MessageError -> String
  | .closed => "connection closed before a message was received"
  | .transport cause => "I/O error: " ++ cause.message
  | .malformed fault => "malformed message: " ++ fault.message
  | .framing fault => "framing error: " ++ fault.message
  | .tooLarge part => part.name ++ " exceeds the configured limit"

end MessageError

end Intermediary

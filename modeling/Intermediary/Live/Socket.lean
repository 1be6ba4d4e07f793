import Intermediary.Endpoint
import Intermediary.Service.Action
import Std.Async.DNS
import Std.Async.TCP
import Std.Async.Timer

/-!
# Sockets

Connections of the operating system, with time limits on what is waited for,
and its failures in the words of this library.
-/

namespace Intermediary

namespace Live

open Std.Async

abbrev Socket := TCP.Socket.Client

abbrev Door := TCP.Socket.Server

/-! ## Addresses -/

def ofAddress : SocketAddress -> Std.Net.SocketAddress
  | .ipv4 address port =>
      let byte (n : Nat) : UInt8 := UInt8.ofNat (address / Host.byteValues n % 256)
      .v4 ⟨.ofParts (byte 3) (byte 2) (byte 1) (byte 0), UInt16.ofNat port⟩
  | .ipv6 groups _ port =>
      let group (n : Nat) : UInt16 := UInt16.ofNat (groups.getD n 0)
      .v6 ⟨.ofParts (group 0) (group 1) (group 2) (group 3) (group 4) (group 5)
        (group 6) (group 7), UInt16.ofNat port⟩

def toAddress : Std.Net.SocketAddress -> SocketAddress
  | .v4 ⟨⟨octets⟩, port⟩ =>
      .ipv4 (octets.toList.foldl (fun n byte => 256 * n + byte.toNat) 0) port.toNat
  | .v6 ⟨⟨segments⟩, port⟩ =>
      .ipv6 (segments.toList.map UInt16.toNat) 0 port.toNat

def withPort (port : Nat) : Std.Net.IPAddr -> Std.Net.SocketAddress
  | .v4 address => .v4 ⟨address, UInt16.ofNat port⟩
  | .v6 address => .v6 ⟨address, UInt16.ofNat port⟩

/-! ## Failures -/

def details : IO.Error -> Option (Nat × String)
  | .alreadyExists _ code words | .otherError code words
  | .resourceBusy code words | .resourceVanished code words
  | .unsupportedOperation code words | .hardwareFault code words
  | .unsatisfiedConstraints code words | .illegalOperation code words
  | .protocolError code words | .timeExpired code words
  | .interrupted _ code words | .noFileOrDirectory _ code words
  | .invalidArgument _ code words | .permissionDenied _ code words
  | .resourceExhausted _ code words | .inappropriateType _ code words
  | .noSuchThing _ code words =>
      some (min code.toNat (4294967296 - code.toNat), words)
  | _ => none

def words (error : IO.Error) : String :=
  match details error with
  | some (number, text) =>
      text.capitalize ++ " (os error " ++ Text.decimal number ++ ")"
  | none => toString error

def cause (error : IO.Error) : TransportError :=
  match details error with
  | some (104, _) => .reset
  | some (32, _) => .brokenPipe
  | _ => .described (words error)

/-- What is attempted, or the cause of its failure. -/
def attempt {α : Type} (action : Async α) : Async (Except TransportError α) := do
  try
    return .ok (<- action)
  catch error =>
    return .error (cause error)

/-! ## Waiting -/

/-- What is attempted, unless it takes longer than some milliseconds. -/
def within {α : Type} (milliseconds : Nat) (action : Async α) : Async (Option α) :=
  let limited : Async (Option α) := do
    sleep (.ofNat milliseconds)
    return none
  Async.race (some <$> action) limited

/-- How many bytes are read at once. -/
def blockSize : UInt64 := 65536

/-- Bytes as the system gives them, as a list. -/
def toBytes (block : ByteArray) : Bytes :=
  block.data.toList

def ofBytes (bytes : Bytes) : ByteArray :=
  ⟨bytes.toArray⟩

/-- Read what there is within some milliseconds, at most so many bytes. -/
def readBlock (socket : Socket) (size : UInt64) (milliseconds : Nat) :
    Async (Except Ending Bytes) := do
  let timer <- Selector.sleep (.ofNat milliseconds)
  try
    Selectable.one #[
      .case (socket.recvSelector size) fun block =>
        match block with
        | some block => return .ok (toBytes block)
        | none => return .error .closed,
      .case timer fun _ => return .error .silent]
  catch _ => return .error .reset

partial def readUntil (socket : Socket) (enough : Bytes -> Bool)
    (deadline : Nat) (read : Bytes) : Async Inflow := do
  if enough read then return ⟨read, .silent⟩
  let now <- IO.monoMsNow
  match <- readBlock socket blockSize (deadline - now) with
  | .ok block => readUntil socket enough deadline (read ++ block)
  | .error ending => return ⟨read, ending⟩

def write (socket : Socket) (bytes : Bytes) : Async (Except TransportError Unit) :=
  attempt (socket.send (ofBytes bytes))

/-- Write no more; a peer that has left need not be told. -/
def shut (socket : Socket) : Async Unit := do
  try socket.shutdown catch _ => return ()

/-! ## Connecting -/

def lookUp (host : String) (port : Nat) : Async (List Std.Net.SocketAddress) := do
  match SocketAddress.ofText? (Endpoint.authority host port) with
  | some address => return [ofAddress address]
  | none =>
      let found <- DNS.getAddrInfo host (Text.decimal port)
      return (found.toList.map (withPort port)).eraseDups

/-- Connect to the first address that can be reached. -/
def connectAny (failure : TransportError) :
    List Std.Net.SocketAddress -> Async (Except TransportError Socket)
  | [] => return .error failure
  | address :: rest => do
      let socket <- TCP.Socket.Client.mk
      match <- attempt (socket.connect address) with
      | .ok () => return .ok socket
      | .error failure => connectAny failure rest

def connect (host : String) (port milliseconds : Nat) :
    Async (Except TransportError Socket) := do
  if host.toList.contains '\x00' then
    return .error (.described EndpointFault.name.message)
  let unknown := TransportError.described EndpointFault.unknown.message
  let addresses := do
    try lookUp host port catch _ => return []
  let attempted := do
    connectAny unknown (<- addresses)
  match <- within milliseconds attempted with
  | some result => return result
  | none =>
      let authority := Endpoint.authority host port
      return .error (.described (EndpointFault.timedOut authority).message)

/-! ## Listening -/

/-- How many connections wait to be accepted. -/
def backlog : UInt32 := 1024

def listenFault (error : IO.Error) : EndpointFault :=
  match details error with
  | some (98, _) => .inUse
  | _ => .described (words error)

def listen (endpoint : String) : IO (Except ListenError Door) := do
  match Endpoint.resolve endpoint with
  | .error fault => return .error ⟨endpoint, fault⟩
  | .ok address =>
      try
        let door <- TCP.Socket.Server.mk
        door.bind (ofAddress address)
        door.listen backlog
        return .ok door
      catch error => return .error ⟨endpoint, listenFault error⟩

end Live

end Intermediary
